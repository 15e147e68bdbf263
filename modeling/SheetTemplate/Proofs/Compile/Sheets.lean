import SheetTemplate.Proofs.Column.Lists
import SheetTemplate.Proofs.Distinct
import SheetTemplate.Proofs.Layout
import SheetTemplate.Proofs.Registry
import SheetTemplate.Proofs.Resolution.Resolved

/-!
# Tables that compile

Compiling goes through the tables once and hands the registry on. A run is kept here as a derivation, one
step for each table, with the registry before and after; what a column found in the registry of its time is
then still found at the end, and is the layout of a table compiled no later.
-/

namespace SheetTemplate

abbrev Options.home [Libraries] (o : Options) (t : Table) : TableLayout := o.layout t o.startRow o.startColumn

theorem Options.nodup_home [Libraries] (o : Options) {t : Table} (h : (t.fields.map (·.name)).Nodup) :
    ((o.home t).columns.map (·.field)).Nodup := by
  rw [Options.fields_layout]
  exact h

/-- Where the list of a field stands on the sheet of lists, if it does. -/
def FieldResolution.place? (r : FieldResolution) (lists : Option EnumSheet) : Option Lookup :=
  r.enumColumn.bind fun i => lists.bind (·.lookup? i)

/-- A sheet made of a table, its fields compiled in order against a registry. -/
structure Sheet.CompiledFrom [Libraries] (o : Options) (lists : Option EnumSheet) (registry : Registry) (t : Table)
    (rs : List FieldResolution) (s : Sheet) : Prop where
  table_eq : s.table = t.name
  layout_eq : s.layout = o.home t
  columns : List.Forall₂
    (fun x column => column.CompiledFrom o registry (x.2.2.place? lists) (o.home t) x.1 x.2.1 x.2.2.links)
    (t.fields.zip ((o.home t).columns.zip rs)) s.columns

/-- Tables compiled one after another, each published before its fields are compiled. -/
inductive Compiled [Libraries] (o : Options) (lists : Option EnumSheet) :
    Registry → List (Table × List FieldResolution) → List Sheet → Registry → Prop
  | nil (registry : Registry) : Compiled o lists registry [] [] registry
  | cons {registry final : Registry} {t : Table} {rs : List FieldResolution} {rest : List (Table × List FieldResolution)}
    {s : Sheet} {sheets : List Sheet} (first : s.CompiledFrom o lists (registry.publish (o.home t)) t rs)
    (others : Compiled o lists (registry.publish (o.home t)) rest sheets final) :
    Compiled o lists registry ((t, rs) :: rest) (s :: sheets) final

theorem compile_of_resolve [Libraries] {p : Package} {o : Options} {r : Resolution} (h : resolve p o = .ok r) : compile p o = (do
    let compiled := compileSheets o r.enumSheet .empty (r.sequence p)
    let (sheets, lookups) ← compiled.result
    return {
      platform := o.platform
      enumSheet := r.enumSheet
      sheets
      lookups
      invalidFormat := o.invalidFormat
      warnings := r.warnings ++ compiled.warnings }) := by
  rw [compile, h]
  rfl

theorem compileTable_eq_ok {o : Options} {registry : Registry} {lists : Option EnumSheet} {t : Table} {l : TableLayout}
    {rs : List FieldResolution} (hlength : t.fields.length = rs.length) {columns : List Column}
    (h : (compileTable o registry lists t l rs).result = .ok columns) :
    List.Forall₂ (fun x column => column.CompiledFrom o registry (x.2.2.place? lists) l x.1 x.2.1 x.2.2.links)
      (t.fields.zip (l.columns.zip rs)) columns := by
  rw [compileTable_eq hlength] at h
  exact (Outcome.mapM_eq_ok.1 h).imp fun _ _ hcolumn => compileField_eq_ok hcolumn

theorem compileSheets_eq_ok [Libraries] {o : Options} {lists : Option EnumSheet} {registry final : Registry}
    {seq : List (Table × List FieldResolution)} (hlength : ∀ x ∈ seq, x.1.fields.length = x.2.length)
    {sheets : List Sheet} (h : (compileSheets o lists registry seq).result = .ok (sheets, final)) :
    Compiled o lists registry seq sheets final := by
  induction seq generalizing registry sheets with
  | nil =>
    cases Outcome.pure_eq_ok.1 h
    exact .nil _
  | cons x rest ih =>
    obtain ⟨t, rs⟩ := x
    obtain ⟨hfirst, hothers⟩ := List.forall_mem_cons.1 hlength
    simp only [compileSheets, Outcome.bind_eq_ok, Outcome.pure_eq_ok, Prod.exists] at h
    obtain ⟨columns, hcolumns, others, last, hrest, heq⟩ := h
    cases heq
    exact .cons ⟨rfl, rfl, compileTable_eq_ok hfirst hcolumns⟩ (ih hothers hrest)

namespace Compiled

variable [Libraries] {o : Options} {lists : Option EnumSheet} {registry final : Registry}
  {seq : List (Table × List FieldResolution)} {sheets : List Sheet}

theorem tables_eq (h : Compiled o lists registry seq sheets final) :
    sheets.map (·.table) = (seq.map Prod.fst).map (·.name) := by
  induction h with
  | nil => rfl
  | cons first _ ih => rw [List.map_cons, List.map_cons, List.map_cons, first.table_eq, ih]

theorem layouts_eq (h : Compiled o lists registry seq sheets final) :
    sheets.map (·.layout) = (seq.map Prod.fst).map o.home := by
  induction h with
  | nil => rfl
  | cons first _ ih => rw [List.map_cons, List.map_cons, List.map_cons, first.layout_eq, ih]

/-! ### The registry -/

theorem registry_eq (h : Compiled o lists registry seq sheets final) :
    final = registry.publishAll (sheets.map (·.layout)) := by
  induction h with
  | nil => rfl
  | cons first _ ih => rw [List.map_cons, first.layout_eq, Registry.publishAll_cons, ih]

theorem get?_mono (h : Compiled o lists registry seq sheets final) {table field : String} {lookup : Lookup}
    (hget : registry.get? table field = some lookup) : final.get? table field = some lookup := by
  rw [h.registry_eq]
  exact Registry.get?_publishAll_of_get? hget

theorem table_layout_eq (h : Compiled o lists registry seq sheets final) : ∀ s ∈ sheets, s.layout.table = s.table := by
  induction h with
  | nil => exact fun _ hs => absurd hs List.not_mem_nil
  | cons first _ ih => exact List.forall_mem_cons.2 ⟨by rw [first.layout_eq, first.table_eq]; rfl, ih⟩

private theorem nodup_layouts (h : Compiled o lists registry seq sheets final)
    (hfields : ∀ x ∈ seq, (x.1.fields.map (·.name)).Nodup) :
    ∀ l ∈ sheets.map (·.layout), (l.columns.map (·.field)).Nodup := by
  rw [h.layouts_eq, List.map_map]
  exact List.forall_mem_map.2 fun x hx => o.nodup_home (hfields x hx)

theorem get?_final (h : Compiled o lists registry seq sheets final)
    (hfields : ∀ x ∈ seq, (x.1.fields.map (·.name)).Nodup) {table field : String} {lookup : Lookup}
    (hget : final.get? table field = some lookup) :
    registry.get? table field = some lookup ∨ ∃ s ∈ sheets, s.table = table ∧ s.layout.lookup? field = some lookup := by
  rw [h.registry_eq] at hget
  refine (Registry.get?_of_get?_publishAll (h.nodup_layouts hfields) hget).imp_right fun ⟨l, hl, htable, hlookup⟩ => ?_
  obtain ⟨s, hs, rfl⟩ := List.mem_map.1 hl
  exact ⟨s, hs, (h.table_layout_eq s hs).symm.trans htable, hlookup⟩

theorem get?_eq_lookup? (h : Compiled o lists registry seq sheets final) (hnodup : (sheets.map (·.table)).Nodup)
    (hfields : ∀ x ∈ seq, (x.1.fields.map (·.name)).Nodup) (hnew : ∀ s ∈ sheets, registry.isPublished s.table = false)
    {s : Sheet} (hs : s ∈ sheets) (field : String) : final.get? s.table field = s.layout.lookup? field := by
  have htables : (sheets.map (·.layout)).map (·.table) = sheets.map (·.table) := by
    rw [List.map_map]
    exact List.map_congr_left h.table_layout_eq
  rw [h.registry_eq, ← h.table_layout_eq s hs]
  refine Registry.get?_publishAll (htables ▸ hnodup) (h.nodup_layouts hfields) ?_ (List.mem_map_of_mem hs) field
  refine List.forall_mem_map.2 fun other hother => ?_
  rw [h.table_layout_eq other hother]
  exact hnew other hother

/-! ### One sheet of a run -/

/-- A run up to a sheet, the sheet, and the run from there. -/
theorem split (h : Compiled o lists registry seq sheets final) {before after : List Sheet} {s : Sheet}
    (hsheets : sheets = before ++ s :: after) :
    ∃ seqBefore seqAfter t rs mid, seq = seqBefore ++ (t, rs) :: seqAfter ∧
      Compiled o lists registry seqBefore before mid ∧ s.CompiledFrom o lists (mid.publish (o.home t)) t rs ∧
      Compiled o lists (mid.publish (o.home t)) seqAfter after final := by
  induction before generalizing registry seq sheets with
  | nil =>
    subst hsheets
    cases h with
    | cons first others => exact ⟨[], _, _, _, _, rfl, .nil _, first, others⟩
  | cons first before ih =>
    subst hsheets
    cases h with
    | cons hfirst others =>
      obtain ⟨seqBefore, seqAfter, t, rs, mid, rfl, hbefore, hs, hafter⟩ := ih others rfl
      exact ⟨_ :: seqBefore, seqAfter, t, rs, mid, rfl, .cons hfirst hbefore, hs, hafter⟩

end Compiled

end SheetTemplate
