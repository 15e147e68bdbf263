import Mathlib.Data.Prod.Basic
import SheetTemplate.Proofs.Registry

/-!
# The entries of a registry

A map is listed in ascending order of names, which setting a value keeps up, so a name stands in it once and is found
where it stands. The entries of a registry are the maps of its tables in a row. What is in them is told from the layouts
alone: of each table the first that was announced.
-/

namespace SheetTemplate

/-! ### Maps in order -/

namespace NameMap

variable {α : Type}

def Ascending (m : NameMap α) : Prop := m.entries.Pairwise (·.1 < ·.1)

theorem ascending_empty : (empty : NameMap α).Ascending := .nil

theorem mem_of_mem_insertEntry {name : String} {value : α} {entries : List (String × α)} {entry : String × α}
    (h : entry ∈ insertEntry name value entries) : entry = (name, value) ∨ entry ∈ entries := by
  induction entries with
  | nil => exact .inl (List.mem_singleton.1 h)
  | cons first rest ih =>
    rw [insertEntry] at h
    split at h
    · exact List.mem_cons.1 h
    split at h
    · exact (List.mem_cons.1 h).imp_right (List.mem_cons_of_mem _)
    · rcases List.mem_cons.1 h with rfl | h
      · exact .inr List.mem_cons_self
      · exact (ih h).imp_right (List.mem_cons_of_mem _)

private theorem pairwise_insertEntry (name : String) (value : α) {entries : List (String × α)}
    (h : entries.Pairwise (·.1 < ·.1)) : (insertEntry name value entries).Pairwise (·.1 < ·.1) := by
  induction entries with
  | nil => exact List.pairwise_singleton _ _
  | cons first rest ih =>
    obtain ⟨hfirst, hrest⟩ := List.pairwise_cons.1 h
    rw [insertEntry]
    split
    · rename_i hlt
      refine List.pairwise_cons.2 ⟨List.forall_mem_cons.2 ⟨hlt, fun entry hentry => ?_⟩, h⟩
      exact Std.lt_trans hlt (hfirst entry hentry)
    split
    · rename_i heq
      subst heq
      exact List.pairwise_cons.2 ⟨hfirst, hrest⟩
    · rename_i hnotLt hne
      refine List.pairwise_cons.2 ⟨fun entry hentry => ?_, ih hrest⟩
      rcases mem_of_mem_insertEntry hentry with rfl | hold
      · exact Std.lt_of_le_of_ne (Std.not_lt.1 hnotLt) (Ne.symm hne)
      · exact hfirst entry hold

theorem Ascending.insert {m : NameMap α} (h : m.Ascending) (name : String) (value : α) :
    (m.insert name value).Ascending :=
  pairwise_insertEntry name value h

theorem ascending_ofList (entries : List (String × α)) : (ofList entries).Ascending := by
  have hfold : ∀ m : NameMap α, m.Ascending → (entries.foldl (fun m entry => m.insert entry.1 entry.2) m).Ascending := by
    induction entries with
    | nil => exact fun _ h => h
    | cons entry rest ih => exact fun m h => ih _ (h.insert entry.1 entry.2)
  exact hfold empty ascending_empty

theorem Ascending.mem_entries_iff {m : NameMap α} (h : m.Ascending) {name : String} {value : α} :
    (name, value) ∈ m.entries ↔ m.get? name = some value := by
  obtain ⟨entries⟩ := m
  change entries.Pairwise (·.1 < ·.1) at h
  change (name, value) ∈ entries ↔ entries.lookup name = some value
  induction entries with
  | nil => simp
  | cons entry rest ih =>
    obtain ⟨first, old⟩ := entry
    obtain ⟨hfirst, hrest⟩ := List.pairwise_cons.1 h
    rw [lookup_cons_ite, List.mem_cons, ih hrest]
    by_cases heq : name = first
    · subst heq
      have hnone : rest.lookup name ≠ some value := fun hmem =>
        Std.lt_irrefl (hfirst (name, value) ((ih hrest).2 hmem))
      simp [hnone, eq_comm]
    · simp [heq]

end NameMap

namespace Registry

/-! ### Registries in order -/

structure Ordered (r : Registry) : Prop where
  tables : r.tables.Ascending
  fields : ∀ x ∈ r.tables.entries, x.2.Ascending

theorem ordered_empty : empty.Ordered := ⟨NameMap.ascending_empty, fun _ h => absurd h List.not_mem_nil⟩

theorem Ordered.publish {r : Registry} (h : r.Ordered) (l : TableLayout) : (r.publish l).Ordered := by
  unfold Registry.publish
  split
  · exact h
  · refine ⟨h.tables.insert l.table (columnsOf l), fun x hx => ?_⟩
    rcases NameMap.mem_of_mem_insertEntry hx with rfl | hold
    · exact NameMap.ascending_ofList _
    · exact h.fields x hold

theorem Ordered.publishAll {r : Registry} (h : r.Ordered) (ls : List TableLayout) : (r.publishAll ls).Ordered := by
  induction ls generalizing r with
  | nil => exact h
  | cons l ls ih => exact ih (h.publish l)

def keys (r : Registry) : List (String × String) := r.entries.map fun e => (e.1, e.2.1)

namespace Ordered

variable {r : Registry} {table field : String} {lookup : Lookup}

theorem mem_entries_iff (h : r.Ordered) : (table, field, lookup) ∈ r.entries ↔ r.get? table field = some lookup := by
  have hentries : (table, field, lookup) ∈ r.entries ↔
      ∃ fields, (table, fields) ∈ r.tables.entries ∧ (field, lookup) ∈ fields.entries := by
    simp [entries]
  rw [hentries, get?, Option.bind_eq_some_iff]
  refine exists_congr fun fields => ?_
  rw [h.tables.mem_entries_iff]
  refine and_congr_right fun hfields => ?_
  exact (h.fields _ (h.tables.mem_entries_iff.2 hfields)).mem_entries_iff

/-- Entries come in ascending order, by field where the table is the same. -/
theorem pairwise_keys (h : r.Ordered) : r.keys.Pairwise (Prod.Lex (· < ·) (· < ·)) := by
  rw [keys, List.pairwise_map, entries, List.pairwise_flatMap]
  constructor
  · intro x hx
    rw [List.pairwise_map]
    exact (h.fields x hx).imp fun hlt => .right _ hlt
  · refine h.tables.imp fun {x y} hlt a ha b hb => ?_
    obtain ⟨_, _, rfl⟩ := List.mem_map.1 ha
    obtain ⟨_, _, rfl⟩ := List.mem_map.1 hb
    exact .left _ _ hlt

theorem nodup_keys (h : r.Ordered) : r.keys.Nodup := h.pairwise_keys.nodup

theorem mem_keys_iff (h : r.Ordered) : (table, field) ∈ r.keys ↔ (r.get? table field).isSome = true := by
  have hkeys : (table, field) ∈ r.keys ↔ ∃ lookup, (table, field, lookup) ∈ r.entries := by simp [keys]
  simp only [hkeys, h.mem_entries_iff, Option.isSome_iff_exists]

end Ordered

/-! ### Announcing one layout after another -/

theorem isPublished_publishAll (r : Registry) (ls : List TableLayout) (table : String) :
    (r.publishAll ls).isPublished table = (r.isPublished table || decide (table ∈ ls.map (·.table))) := by
  induction ls generalizing r with
  | nil => simp
  | cons l ls ih => simp [ih, isPublished_publish, Bool.or_assoc]

/-- The answers are those of the registries that came to be before each layout. -/
theorem run_mapM_announce (ls : List TableLayout) (r : Registry) : (ls.mapM announce).run r =
    (ls.mapIdx fun i l => !(r.publishAll (ls.take i)).isPublished l.table, r.publishAll ls) := by
  induction ls generalizing r with
  | nil => rfl
  | cons l ls ih =>
    have hfirst : (announce l).run r = (!r.isPublished l.table, r.publish l) := rfl
    have hrest : ((l :: ls).mapM announce).run r = ((!r.isPublished l.table) :: ((ls.mapM announce).run (r.publish l)).1,
        ((ls.mapM announce).run (r.publish l)).2) := by
      rw [List.mapM_cons, StateT.run_bind, hfirst]
      rfl
    rw [hrest, ih, List.mapIdx_cons]
    rfl

theorem get?_publishAll_eq_find? {ls : List TableLayout} (hfields : ∀ l ∈ ls, (l.columns.map (·.field)).Nodup)
    {r : Registry} {table : String} (hnew : r.isPublished table = false) (field : String) :
    (r.publishAll ls).get? table field = (ls.find? (·.table = table)).bind (·.lookup? field) := by
  induction ls generalizing r with
  | nil =>
    cases hget : r.get? table field with
    | none => exact hget
    | some lookup => cases hnew.symm.trans (isPublished_of_get? hget)
  | cons l ls ih =>
    obtain ⟨hnodup, hrest⟩ := List.forall_mem_cons.1 hfields
    rw [publishAll_cons, List.find?_cons]
    by_cases htable : l.table = table
    · subst htable
      have hpublished : (r.publish l).isPublished l.table = true := by simp [isPublished_publish]
      rw [get?_publishAll_of_isPublished hpublished, get?_publish_self hnew, get?_columnsOf hnodup]
      simp
    · simp only [htable, decide_false]
      refine ih hrest ?_
      rw [isPublished_publish, hnew, Bool.false_or, decide_eq_false_iff_not]
      exact Ne.symm htable

end Registry

end SheetTemplate
