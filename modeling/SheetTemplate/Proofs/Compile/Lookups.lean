import SheetTemplate.Proofs.Compile.Obstacles
import SheetTemplate.Proofs.Compile.Templates
import SheetTemplate.Proofs.Registry.Entries

/-!
# A registry is written once

Tables are compiled in an order of their own, and each reads the columns of those before it. That works because an entry
never moves: whatever is announced later, a table keeps the first layout it was announced with. What a run leaves is told
from its layouts, so for a template it is one entry for each field of the package.
-/

namespace SheetTemplate

theorem TableLayout.isSome_lookup? (l : TableLayout) (field : String) :
    (l.lookup? field).isSome = true ↔ field ∈ l.columns.map (·.field) := by
  rw [lookup?, Option.isSome_map, column?, List.find?_isSome, List.mem_map]
  simp only [decide_eq_true_eq]

namespace Registry

/-- The answers to layouts that are announced one after another, and the registry that this leaves. -/
def announceAll (ls : List TableLayout) : List Bool × Registry := (ls.mapM announce).run .empty

/-- What layouts announced one after another come to: of each table the first is news and stays. -/
structure WrittenOnce (ls : List TableLayout) (answers : List Bool) (r : Registry) : Prop where
  answers_eq : answers = ls.mapIdx fun i l => decide (l.table ∉ (ls.take i).map (·.table))
  refuses : ∀ l, l.table ∈ ls.map (·.table) → (announce l).run r = (false, r)
  get?_eq : ∀ table field, r.get? table field = (ls.find? (·.table = table)).bind (·.lookup? field)
  get?_mono : ∀ more table field lookup, r.get? table field = some lookup →
    (announceAll (ls ++ more)).2.get? table field = some lookup
  ascending : r.keys.Pairwise (Prod.Lex (· < ·) (· < ·))
  mem_keys_iff : ∀ table field, (table, field) ∈ r.keys ↔
    ∃ l, ls.find? (·.table = table) = some l ∧ field ∈ l.columns.map (·.field)
  mem_entries_iff : ∀ table field lookup, (table, field, lookup) ∈ r.entries ↔ r.get? table field = some lookup

theorem announceAll_eq (ls : List TableLayout) : announceAll ls =
    (ls.mapIdx fun i l => decide (l.table ∉ (ls.take i).map (·.table)), empty.publishAll ls) := by
  simp only [announceAll, run_mapM_announce, isPublished_publishAll, isPublished_empty, Bool.false_or, decide_not]

theorem writtenOnce_announceAll {ls : List TableLayout} (hfields : ∀ l ∈ ls, (l.columns.map (·.field)).Nodup) :
    WrittenOnce ls (announceAll ls).1 (announceAll ls).2 := by
  have hordered := ordered_empty.publishAll ls
  have hget : ∀ table field, (empty.publishAll ls).get? table field =
      (ls.find? (·.table = table)).bind (·.lookup? field) := fun table =>
    get?_publishAll_eq_find? hfields (isPublished_empty table)
  rw [announceAll_eq]
  refine ⟨rfl, fun l hl => ?_, hget, fun more table field lookup h => ?_, hordered.pairwise_keys,
    fun table field => ?_, fun _ _ _ => hordered.mem_entries_iff⟩
  · have hpublished : (empty.publishAll ls).isPublished l.table = true := by
      rw [isPublished_publishAll, isPublished_empty, Bool.false_or, decide_eq_true hl]
    change (!(empty.publishAll ls).isPublished l.table, (empty.publishAll ls).publish l) = _
    rw [publish, if_pos hpublished, hpublished]
    rfl
  · rw [announceAll_eq, publishAll_append]
    exact get?_publishAll_of_get? h
  · rw [hordered.mem_keys_iff, hget]
    cases ls.find? (·.table = table) with
    | none => simp
    | some l => simp [TableLayout.isSome_lookup?]

end Registry

/-! ### Templates -/

namespace Template

variable [Libraries] {p : Package} {o : Options} {entries : List EnumPool.Entry} {r : Resolution} {t : Template}

theorem CompiledFrom.nodup_columns (h : t.CompiledFrom p o entries r) :
    ∀ l ∈ t.sheets.map (·.layout), (l.columns.map (·.field)).Nodup := by
  intro l hl
  obtain ⟨table, htable, rfl⟩ := List.mem_map.1 (h.layouts_perm.mem_iff.1 hl)
  exact o.nodup_home (h.resolved.named.fields_nodup table htable)

theorem CompiledFrom.lookups_eq (h : t.CompiledFrom p o entries r) :
    t.lookups = (Registry.announceAll (t.sheets.map (·.layout))).2 := by
  rw [Registry.announceAll_eq]
  exact h.run.registry_eq

theorem CompiledFrom.find?_layouts (h : t.CompiledFrom p o entries r) {name : String} {l : TableLayout} :
    (t.sheets.map (·.layout)).find? (·.table = name) = some l ↔ ∃ table ∈ p.tables, o.home table = l ∧ table.name = name := by
  have hnames : (p.tables.map o.home).map (·.table) = p.tables.map (·.name) := by
    rw [List.map_map]
    rfl
  have hnodup : ((t.sheets.map (·.layout)).map (·.table)).Nodup := by
    rw [(h.layouts_perm.map _).nodup_iff, hnames]
    exact h.resolved.named.names_nodup
  rw [find?_key_eq_some_iff hnodup, h.layouts_perm.mem_iff, List.mem_map]
  constructor
  · rintro ⟨⟨table, htable, rfl⟩, hname⟩
    exact ⟨table, htable, rfl, hname⟩
  · rintro ⟨table, htable, rfl, hname⟩
    exact ⟨⟨table, htable, rfl⟩, hname⟩

theorem CompiledFrom.keys_perm (h : t.CompiledFrom p o entries r) :
    t.lookups.keys.Perm (p.tables.flatMap fun table => table.fields.map fun f => (table.name, f.name)) := by
  have hwritten := Registry.writtenOnce_announceAll h.nodup_columns
  have hordered : t.lookups.Ordered := h.run.registry_eq ▸ Registry.ordered_empty.publishAll _
  have hfields : (p.tables.flatMap fun table => table.fields.map fun f => (table.name, f.name)).Nodup := by
    refine List.nodup_flatMap.2 ⟨fun table htable => ?_, ?_⟩
    · have hnodup := h.resolved.named.fields_nodup table htable
      exact List.Nodup.of_map Prod.snd (by rw [List.map_map]; exact hnodup)
    · refine (List.pairwise_map.1 h.resolved.named.names_nodup).imp fun {a b} hne x hxa hxb => ?_
      obtain ⟨_, _, rfl⟩ := List.mem_map.1 hxa
      obtain ⟨_, _, heq⟩ := List.mem_map.1 hxb
      exact hne (congrArg Prod.fst heq).symm
  refine (List.perm_ext_iff_of_nodup hordered.nodup_keys hfields).2 fun ⟨name, field⟩ => ?_
  have hcolumns : ∀ table : Table, (o.home table).columns.map (·.field) = table.fields.map (·.name) :=
    fun _ => Options.fields_layout
  rw [h.lookups_eq, hwritten.mem_keys_iff, List.mem_flatMap]
  constructor
  · rintro ⟨l, hl, hfield⟩
    obtain ⟨table, htable, rfl, rfl⟩ := h.find?_layouts.1 hl
    rw [hcolumns] at hfield
    obtain ⟨f, hf, rfl⟩ := List.mem_map.1 hfield
    exact ⟨table, htable, List.mem_map.2 ⟨f, hf, rfl⟩⟩
  · rintro ⟨table, htable, hfield⟩
    obtain ⟨f, hf, heq⟩ := List.mem_map.1 hfield
    cases heq
    exact ⟨_, h.find?_layouts.2 ⟨table, htable, rfl, rfl⟩, hcolumns table ▸ List.mem_map_of_mem hf⟩

end Template

/-- Whatever is announced, of each table the first layout stays; and a template has one entry for each field of its
package. -/
theorem registry_written_once [Libraries] :
    (∀ ls : List TableLayout, (∀ l ∈ ls, (l.columns.map (·.field)).Nodup) →
      Registry.WrittenOnce ls (Registry.announceAll ls).1 (Registry.announceAll ls).2) ∧
    ∀ (p : Package) (o : Options) (t : Template), compile p o = .ok t →
      t.lookups = (Registry.announceAll (t.sheets.map (·.layout))).2 ∧
      t.lookups.keys.Perm (p.tables.flatMap fun table => table.fields.map fun f => (table.name, f.name)) := by
  refine ⟨fun ls hfields => Registry.writtenOnce_announceAll hfields, fun p o t h => ?_⟩
  obtain ⟨entries, r, htemplate⟩ := compile_eq_ok h
  exact ⟨htemplate.lookups_eq, htemplate.keys_perm⟩

attribute [local instance] Libraries.plain in
/-- Customers are announced a second time, at another place. -/
theorem customers_written_once : ∃ ls t, (∀ l ∈ ls, (l.columns.map (·.field)).Nodup) ∧ compile shop online = .ok t ∧
    ls.map (·.table) = ["customers", "orders", "customers"] ∧ (Registry.announceAll ls).1 = [true, true, false] ∧
    Registry.WrittenOnce ls (Registry.announceAll ls).1 (Registry.announceAll ls).2 ∧
    t.lookups.keys.Perm
      [("customers", "name"), ("customers", "sentBy"), ("orders", "customer"), ("orders", "note")] := by
  obtain ⟨⟨t, ht⟩, _⟩ := exists_compile_shop
  have hnodup : ∀ l ∈ [online.home customers, online.home orders, online.layout customers 9 9],
      (l.columns.map (·.field)).Nodup := by decide +kernel
  exact ⟨_, t, hnodup, ht, rfl, by decide +kernel, registry_written_once.1 _ hnodup,
    (registry_written_once.2 _ _ t ht).2⟩

end SheetTemplate
