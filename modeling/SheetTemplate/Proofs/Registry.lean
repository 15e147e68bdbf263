import SheetTemplate.Proofs.Distinct
import SheetTemplate.Registry

/-!
# What a registry answers

A map answers for a name what was set for it last. A registry answers for a table what was published for it
first, so publishing never takes back or changes an answer once given, and for a published table the
answers are those of its layout.
-/

namespace SheetTemplate

/-! ### Maps from names -/

namespace NameMap

variable {α : Type}

theorem lookup_cons_ite (name other : String) (value : α) (rest : List (String × α)) :
    ((name, value) :: rest).lookup other = if other = name then some value else rest.lookup other := by
  rw [List.lookup_cons]
  by_cases h : other = name
  · simp [h]
  · rw [beq_eq_false_iff_ne.2 h, if_neg h]

private theorem lookup_insertEntry (name other : String) (value : α) (entries : List (String × α)) :
    (insertEntry name value entries).lookup other = if other = name then some value else entries.lookup other := by
  induction entries with
  | nil => rw [insertEntry, lookup_cons_ite]
  | cons entry rest ih =>
    obtain ⟨first, old⟩ := entry
    rw [insertEntry, lookup_cons_ite first]
    split
    · rw [lookup_cons_ite, lookup_cons_ite]
    · split
      · rename_i heq
        subst heq
        rw [lookup_cons_ite]
        split <;> rfl
      · rename_i hne
        rw [lookup_cons_ite, ih]
        by_cases h : other = first
        · subst h
          rw [if_pos rfl, if_pos rfl, if_neg (Ne.symm hne)]
        · rw [if_neg h, if_neg h]

theorem get?_insert (m : NameMap α) (name other : String) (value : α) :
    (m.insert name value).get? other = if other = name then some value else m.get? other :=
  lookup_insertEntry name other value m.entries

@[simp] theorem get?_empty (name : String) : (empty : NameMap α).get? name = none := rfl

private theorem insertEntry_comm {a b : String} (hne : a ≠ b) (x y : α) (entries : List (String × α)) :
    insertEntry b y (insertEntry a x entries) = insertEntry a x (insertEntry b y entries) := by
  induction entries with
  | nil => grind [insertEntry]
  | cons entry rest ih =>
    obtain ⟨first, old⟩ := entry
    grind [insertEntry]

theorem insert_comm (m : NameMap α) {a b : String} (hne : a ≠ b) (x y : α) :
    (m.insert a x).insert b y = (m.insert b y).insert a x :=
  congrArg NameMap.mk (insertEntry_comm hne x y m.entries)

private theorem get?_foldl_insert {entries : List (String × α)} (hnodup : (entries.map Prod.fst).Nodup) (m : NameMap α)
    (name : String) :
    (entries.foldl (fun m entry => m.insert entry.1 entry.2) m).get? name = (entries.lookup name).or (m.get? name) := by
  induction entries generalizing m with
  | nil => rfl
  | cons entry rest ih =>
    obtain ⟨first, value⟩ := entry
    rw [List.map_cons, List.nodup_cons] at hnodup
    rw [List.foldl_cons, ih hnodup.2, get?_insert, lookup_cons_ite]
    by_cases h : name = first
    · have hnone : rest.lookup first = none := by
        rw [List.lookup_eq_none_iff]
        intro entry hentry
        have hne : first ≠ entry.1 := fun heq => hnodup.1 (List.mem_map.2 ⟨entry, hentry, heq.symm⟩)
        simpa using hne
      rw [h, hnone, if_pos rfl, if_pos rfl]
      rfl
    · rw [if_neg h, if_neg h]

theorem get?_ofList {entries : List (String × α)} (hnodup : (entries.map Prod.fst).Nodup) (name : String) :
    (ofList entries).get? name = entries.lookup name := by
  rw [ofList, get?_foldl_insert hnodup, get?_empty, Option.or_none]

end NameMap

/-! ### Registries -/

namespace Registry

private theorem lookup_map_find? {α β : Type} (key : α → String) (value : α → β) (xs : List α) (name : String) :
    (xs.map fun x => (key x, value x)).lookup name = (xs.find? (key · = name)).map value := by
  induction xs with
  | nil => rfl
  | cons x xs ih =>
    rw [List.map_cons, NameMap.lookup_cons_ite, List.find?_cons, ih]
    by_cases h : name = key x
    · simp [h]
    · simp [h, Ne.symm h]

/-- The columns of a table answer as its layout does. -/
theorem get?_columnsOf {l : TableLayout} (hnodup : (l.columns.map (·.field)).Nodup) (field : String) :
    (columnsOf l).get? field = l.lookup? field := by
  rw [columnsOf, NameMap.get?_ofList (by rw [List.map_map]; exact hnodup)]
  exact lookup_map_find? (·.field) l.lookupOf l.columns field

@[simp] theorem get?_empty (table field : String) : empty.get? table field = none := rfl

@[simp] theorem isPublished_empty (table : String) : empty.isPublished table = false := rfl

theorem isPublished_publish (r : Registry) (l : TableLayout) (table : String) :
    (r.publish l).isPublished table = (r.isPublished table || table = l.table) := by
  unfold publish
  split
  · rename_i h
    by_cases heq : table = l.table <;> simp [heq, h]
  · by_cases heq : table = l.table <;> simp [isPublished, NameMap.contains, NameMap.get?_insert, heq]

theorem get?_publish_self {r : Registry} {l : TableLayout} (h : r.isPublished l.table = false) (field : String) :
    (r.publish l).get? l.table field = (columnsOf l).get? field := by
  simp [publish, h, get?, NameMap.get?_insert]

theorem get?_publish_of_ne {r : Registry} {l : TableLayout} {table : String} (hne : table ≠ l.table) (field : String) :
    (r.publish l).get? table field = r.get? table field := by
  unfold publish
  split
  · rfl
  · simp [get?, NameMap.get?_insert, hne]

theorem isPublished_of_get? {r : Registry} {table field : String} {lookup : Lookup}
    (h : r.get? table field = some lookup) : r.isPublished table = true := by
  obtain ⟨fields, hfields, _⟩ := Option.bind_eq_some_iff.1 h
  simp [isPublished, NameMap.contains, hfields]

theorem get?_publish_of_get? {r : Registry} {table field : String} {lookup : Lookup}
    (h : r.get? table field = some lookup) (l : TableLayout) : (r.publish l).get? table field = some lookup := by
  by_cases heq : table = l.table
  · subst heq
    rw [publish, if_pos (isPublished_of_get? h), h]
  · rw [get?_publish_of_ne heq, h]

theorem get?_of_get?_publish {r : Registry} {l : TableLayout} {table field : String} {lookup : Lookup}
    (hnodup : (l.columns.map (·.field)).Nodup) (h : (r.publish l).get? table field = some lookup) :
    r.get? table field = some lookup ∨ table = l.table ∧ l.lookup? field = some lookup := by
  by_cases heq : table = l.table
  · subst heq
    cases hpublished : r.isPublished l.table with
    | true =>
      rw [publish, if_pos hpublished] at h
      exact .inl h
    | false =>
      rw [get?_publish_self hpublished, get?_columnsOf hnodup] at h
      exact .inr ⟨rfl, h⟩
  · rw [get?_publish_of_ne heq] at h
    exact .inl h

theorem publish_comm (r : Registry) {l l' : TableLayout} (hne : l.table ≠ l'.table) :
    (r.publish l).publish l' = (r.publish l').publish l := by
  have hleft : (r.publish l').isPublished l.table = r.isPublished l.table := by simp [isPublished_publish, hne]
  have hright : (r.publish l).isPublished l'.table = r.isPublished l'.table := by simp [isPublished_publish, Ne.symm hne]
  rw [publish, hright, publish.eq_1 (r.publish l'), hleft]
  unfold publish
  cases r.isPublished l.table with
  | true => simp
  | false =>
    cases r.isPublished l'.table with
    | true => simp
    | false => simpa using NameMap.insert_comm r.tables hne (columnsOf l) (columnsOf l')

/-! ### Publishing one table after another -/

def publishAll (r : Registry) (ls : List TableLayout) : Registry := ls.foldl publish r

@[simp] theorem publishAll_nil (r : Registry) : r.publishAll [] = r := rfl

@[simp] theorem publishAll_cons (r : Registry) (l : TableLayout) (ls : List TableLayout) :
    r.publishAll (l :: ls) = (r.publish l).publishAll ls := rfl

variable {r : Registry} {ls : List TableLayout} {table field : String} {lookup : Lookup}

/-- What is said of a published table is said to the end. -/
theorem get?_publishAll_of_isPublished (h : r.isPublished table = true) (field : String) :
    (r.publishAll ls).get? table field = r.get? table field := by
  induction ls generalizing r with
  | nil => rfl
  | cons l ls ih =>
    have hstill : (r.publish l).isPublished table = true := by rw [isPublished_publish, h, Bool.true_or]
    rw [publishAll_cons, ih hstill]
    by_cases heq : table = l.table
    · rw [publish, if_pos (heq ▸ h)]
    · exact get?_publish_of_ne heq field

theorem get?_publishAll_of_get? (h : r.get? table field = some lookup) :
    (r.publishAll ls).get? table field = some lookup :=
  (get?_publishAll_of_isPublished (isPublished_of_get? h) field).trans h

theorem get?_publishAll_of_not_mem (hnew : table ∉ ls.map (·.table)) (field : String) :
    (r.publishAll ls).get? table field = r.get? table field := by
  induction ls generalizing r with
  | nil => rfl
  | cons l ls ih =>
    rw [List.map_cons, List.mem_cons, not_or] at hnew
    rw [publishAll_cons, ih hnew.2, get?_publish_of_ne hnew.1]

/-- What is found at the end was found before, or is in one of the layouts. -/
theorem get?_of_get?_publishAll (hfields : ∀ l ∈ ls, (l.columns.map (·.field)).Nodup)
    (h : (r.publishAll ls).get? table field = some lookup) :
    r.get? table field = some lookup ∨ ∃ l ∈ ls, l.table = table ∧ l.lookup? field = some lookup := by
  induction ls generalizing r with
  | nil => exact .inl h
  | cons l ls ih =>
    obtain ⟨hnodup, hrest⟩ := List.forall_mem_cons.1 hfields
    rcases ih hrest h with hpublished | ⟨other, hother, hlookup⟩
    · rcases get?_of_get?_publish hnodup hpublished with hbefore | ⟨htable, hlookup⟩
      · exact .inl hbefore
      · exact .inr ⟨l, List.mem_cons_self, htable.symm, hlookup⟩
    · exact .inr ⟨other, List.mem_cons_of_mem l hother, hlookup⟩

/-- Of tables with names of their own, the registry answers as their layouts do. -/
theorem get?_publishAll (hnodup : (ls.map (·.table)).Nodup) (hfields : ∀ l ∈ ls, (l.columns.map (·.field)).Nodup)
    (hnew : ∀ l ∈ ls, r.isPublished l.table = false) {l : TableLayout} (hl : l ∈ ls) (field : String) :
    (r.publishAll ls).get? l.table field = l.lookup? field := by
  induction ls generalizing r with
  | nil => cases hl
  | cons first ls ih =>
    obtain ⟨hfirstNew, hothersNew⟩ := List.forall_mem_cons.1 hnew
    obtain ⟨hfirstFields, hothersFields⟩ := List.forall_mem_cons.1 hfields
    rw [List.map_cons, List.nodup_cons] at hnodup
    obtain ⟨hnotMem, hothersNodup⟩ := hnodup
    rw [publishAll_cons]
    rcases List.mem_cons.1 hl with rfl | hl
    · -- No table that follows has the name of the first, so its columns stay as it published them.
      rw [get?_publishAll_of_not_mem hnotMem, get?_publish_self hfirstNew, get?_columnsOf hfirstFields]
    · refine ih hothersNodup hothersFields (fun other hother => ?_) hl
      have hne : other.table ≠ first.table := fun heq => hnotMem (heq ▸ List.mem_map_of_mem hother)
      rw [isPublished_publish, hothersNew other hother, Bool.false_or, decide_eq_false_iff_not]
      exact hne

theorem publishAll_append (r : Registry) (ls ls' : List TableLayout) :
    r.publishAll (ls ++ ls') = (r.publishAll ls).publishAll ls' := List.foldl_append

theorem publishAll_perm {ls' : List TableLayout} (h : ls.Perm ls') (hnodup : (ls.map (·.table)).Nodup) (r : Registry) :
    r.publishAll ls = r.publishAll ls' := by
  refine h.foldl_eq' (fun l hl l' hl' r => ?_) r
  by_cases heq : l.table = l'.table
  · rw [eq_of_key_eq hnodup hl hl' heq]
  · exact publish_comm r heq

end Registry

end SheetTemplate
