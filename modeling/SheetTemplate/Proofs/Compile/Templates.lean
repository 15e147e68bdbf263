import SheetTemplate.Proofs.Compile.Sheets

/-!
# Templates that compile

A template holds a sheet for each table of its package and on it a column for each field, nothing twice and
nothing else. So a column is known by the field it stands for, and the other way round.
-/

namespace SheetTemplate

namespace Template

/-- A template with the resolution of its package. -/
structure CompiledFrom [Libraries] (p : Package) (o : Options) (entries : List EnumPool.Entry) (r : Resolution) (t : Template) :
    Prop where
  resolved : Resolved p o entries r
  lists_eq : t.enumSheet = listSheet? o entries
  run : Compiled o t.enumSheet .empty (r.sequence p) t.sheets t.lookups

/-- The column of a field, with what it was compiled against. -/
structure Holds [Libraries] (o : Options) (entries : List EnumPool.Entry) (t : Template) (table : Table) (f : Field) (s : Sheet)
    (c : Column) : Prop where
  sheet_eq : t.sheet? table.name = some s
  column_eq : s.column? f.name = some c
  layout_eq : s.layout = o.home table
  compiled : ∃ registry place res, place ∈ (o.home table).columns ∧ place.field = f.name ∧
    FieldResolution.For o entries table f res ∧
    c.CompiledFrom o registry (res.place? t.enumSheet) (o.home table) f place res.links ∧
    ∀ {a b : String} {l : Lookup}, registry.get? a b = some l → t.lookups.get? a b = some l

end Template

theorem compiledFrom_of_compile [Libraries] {p : Package} {o : Options} {t : Template} (h : compile p o = .ok t) :
    ∃ r, resolve p o = .ok r ∧ t.CompiledFrom p o (p.entries o) r := by
  obtain ⟨r, hresolve, h⟩ := bind_eq_ok.1 h
  obtain ⟨⟨sheets, lookups⟩, hsheets, h⟩ := bind_eq_ok.1 h
  rw [pure_eq_ok] at h
  subst h
  have hresolved := resolved_of_resolve hresolve
  have hlength : ∀ x ∈ r.sequence p, x.1.fields.length = x.2.length :=
    fun _ hx => (hresolved.of_mem_sequence hx).2.length_eq
  exact ⟨r, hresolve, hresolved, hresolved.enumSheet_eq, compileSheets_eq_ok hlength hsheets⟩

theorem compile_eq_ok [Libraries] {p : Package} {o : Options} {t : Template} (h : compile p o = .ok t) :
    ∃ entries r, t.CompiledFrom p o entries r := by
  obtain ⟨r, _, hcompiled⟩ := compiledFrom_of_compile h
  exact ⟨_, r, hcompiled⟩

/-! ### A package that compiles -/

/-- Parts, each made of others or bought, in one table that refers to itself. -/
def partsList : Package where
  tables := [{
    name := "parts"
    fields := [
      { name := "id", type := .string },
      { name := "parent", type := .string, constraints := { required := true } },
      { name := "kind", type := .string, constraints := { enum := some [.string "made", .string "bought"] } }]
    foreignKeys := [{ fields := ["parent"], reference := { fields := ["id"] } }] }]

/-- Lists stand on a sheet of their own, references are suggestions and nothing is highlighted. -/
def suggesting : Options where
  platform := .googleSheets
  validateForeignKeys := false
  highlightInvalid := false

private theorem placeAll_partsList : ∃ columns, (EnumPool.placeAll suggesting.profile partsList.tables).run .empty =
    ([[none, none, some 0]], ⟨#[[.string "made", .string "bought"]], columns⟩) := by
  have hnew : EnumPool.empty.columns[listKey .string [.string "made", .string "bought"]]? = none := by
    simp [EnumPool.empty]
  refine ⟨(EnumPool.column .string [.string "made", .string "bought"] .empty).2.columns, ?_⟩
  change ([[none, none, some (EnumPool.column .string [.string "made", .string "bought"] .empty).1]],
    (EnumPool.column .string [.string "made", .string "bought"] .empty).2) = _
  rw [EnumPool.column_of_none hnew]
  rfl

section Parts

attribute [local instance] Libraries.plain

private theorem resolve_partsList : resolve partsList suggesting =
    .ok ⟨[0], [[⟨[], none⟩, ⟨[⟨"parts", "id"⟩], none⟩, ⟨[], some 0⟩]],
      some ⟨"lists", [[.string "made", .string "bought"]]⟩, []⟩ := by
  have hrows : suggesting.checkRows = .ok () := rfl
  have hnamed : WellNamed suggesting [] [Text.lowercase suggesting.enumSheet] partsList.tables := by
    constructor <;> decide +kernel
  have htables : checkTables suggesting partsList = .ok () := checkTables_eq_ok.2 ⟨by decide +kernel, hnamed⟩
  have hkeys : partsList.tables.mapM (resolveTable partsList) = .ok [[⟨0, [("parent", ⟨"parts", "id"⟩)]⟩]] := rfl
  obtain ⟨columns, hpool⟩ := placeAll_partsList
  rw [resolve, hrows, htables, hkeys, hpool]
  rfl

theorem compile_partsList : ∃ t, compile partsList suggesting = .ok t ∧
    t.sheets.map (fun s => s.columns.map (·.checks.map (·.directive))) = [[[],
      [.required, .list (.foreignKey ⟨"parts", "id"⟩) (.range ⟨"parts", 0, ⟨1, 1000⟩⟩)],
      [.list .enum (.range ⟨"lists", 0, ⟨0, 2⟩⟩)]]] := by
  have hdirectives : (compile partsList suggesting).toOption.map
      (fun t => t.sheets.map fun s => s.columns.map (·.checks.map (·.directive))) = some [[[],
        [.required, .list (.foreignKey ⟨"parts", "id"⟩) (.range ⟨"parts", 0, ⟨1, 1000⟩⟩)],
        [.list .enum (.range ⟨"lists", 0, ⟨0, 2⟩⟩)]]] := by
    rw [compile, resolve_partsList]
    rfl
  obtain ⟨t, ht, hdirectives⟩ := Option.map_eq_some_iff.1 hdirectives
  exact ⟨t, toOption_eq_some.1 ht, hdirectives⟩

end Parts

/-! ### Columns in order -/

namespace Sheet.CompiledFrom

variable {o : Options} {lists : Option EnumSheet} {registry : Registry} {t : Table} {rs : List FieldResolution} {s : Sheet}

private theorem getElem?_zip₃ {fields : List Field} {places : List ColumnLayout} {rs : List FieldResolution} {i : Nat}
    {x : Field × ColumnLayout × FieldResolution} (h : (fields.zip (places.zip rs))[i]? = some x) :
    fields[i]? = some x.1 ∧ places[i]? = some x.2.1 ∧ rs[i]? = some x.2.2 := by
  obtain ⟨hfield, hrest⟩ := List.getElem?_zip_eq_some.1 h
  exact ⟨hfield, List.getElem?_zip_eq_some.1 hrest⟩

theorem fields_eq [Libraries] (h : s.CompiledFrom o lists registry t rs) (hlength : t.fields.length = rs.length) :
    s.columns.map (·.field) = t.fields.map (·.name) := by
  have hplaces : (o.home t).columns.length = t.fields.length := Options.length_columns_layout
  have hnames : (t.fields.zip ((o.home t).columns.zip rs)).map (·.1.name) = s.columns.map (·.field) := by
    have hcolumns := h.columns.imp fun _ _ hcolumn => hcolumn.field_eq.symm
    rw [← List.forall₂_eq_eq_eq, List.forall₂_map_left_iff, List.forall₂_map_right_iff]
    exact hcolumns
  calc s.columns.map (·.field)
    _ = ((t.fields.zip ((o.home t).columns.zip rs)).map Prod.fst).map (·.name) := by rw [← hnames, List.map_map]; rfl
    _ = t.fields.map (·.name) := by rw [List.map_fst_zip (by simp [hplaces, hlength])]

theorem of_mem_columns [Libraries] (h : s.CompiledFrom o lists registry t rs) {c : Column} (hc : c ∈ s.columns) :
    ∃ (i : Nat) (f : Field) (place : ColumnLayout) (res : FieldResolution), t.fields[i]? = some f ∧
      (o.home t).columns[i]? = some place ∧ rs[i]? = some res ∧
      c.CompiledFrom o registry (res.place? lists) (o.home t) f place res.links := by
  obtain ⟨x, hx, hcolumn⟩ := exists_of_forall₂_right h.columns hc
  obtain ⟨i, hi⟩ := List.getElem?_of_mem hx
  obtain ⟨hfield, hplace, hres⟩ := getElem?_zip₃ hi
  exact ⟨i, x.1, x.2.1, x.2.2, hfield, hplace, hres, hcolumn⟩

end Sheet.CompiledFrom

theorem Template.table_of_sheet? {t : Template} {table : String} {s : Sheet} (h : t.sheet? table = some s) :
    s.table = table := by
  simpa using List.find?_some h

theorem Template.Holds.column?_eq [Libraries] {o : Options} {entries : List EnumPool.Entry} {t : Template} {table : Table} {f : Field}
    {s : Sheet} {c : Column} (h : t.Holds o entries table f s c) : t.column? table.name f.name = some c := by
  rw [Template.column?, h.sheet_eq, Option.bind_some, h.column_eq]

namespace Template.CompiledFrom

variable [Libraries] {p : Package} {o : Options} {entries : List EnumPool.Entry} {r : Resolution} {t : Template}

/-! ### Tables and sheets -/

theorem tables_perm (h : t.CompiledFrom p o entries r) : (t.sheets.map (·.table)).Perm (p.tables.map (·.name)) := by
  rw [h.run.tables_eq]
  exact h.resolved.tables_perm.map _

theorem layouts_perm (h : t.CompiledFrom p o entries r) : (t.sheets.map (·.layout)).Perm (p.tables.map o.home) := by
  rw [h.run.layouts_eq]
  exact h.resolved.tables_perm.map _

theorem tables_nodup (h : t.CompiledFrom p o entries r) : (t.sheets.map (·.table)).Nodup :=
  h.tables_perm.nodup_iff.2 h.resolved.named.names_nodup

theorem fields_nodup (h : t.CompiledFrom p o entries r) : ∀ x ∈ r.sequence p, (x.1.fields.map (·.name)).Nodup :=
  fun _ hx => h.resolved.named.fields_nodup _ (h.resolved.of_mem_sequence hx).1

theorem of_mem_sheets (h : t.CompiledFrom p o entries r) {s : Sheet} (hs : s ∈ t.sheets) :
    ∃ table ∈ p.tables, ∃ rs registry, s.CompiledFrom o t.enumSheet registry table rs ∧
      List.Forall₂ (FieldResolution.For o entries table) table.fields rs ∧
      ∀ {a b : String} {l : Lookup}, registry.get? a b = some l → t.lookups.get? a b = some l := by
  obtain ⟨before, after, hsheets⟩ := List.append_of_mem hs
  obtain ⟨_, _, table, rs, mid, hsequence, _, hsheet, hafter⟩ := h.run.split hsheets
  have hmem : (table, rs) ∈ r.sequence p := hsequence ▸ List.mem_append_right _ List.mem_cons_self
  obtain ⟨htable, hfields⟩ := h.resolved.of_mem_sequence hmem
  exact ⟨table, htable, rs, _, hsheet, hfields, hafter.get?_mono⟩

theorem get?_eq_lookup? (h : t.CompiledFrom p o entries r) {s : Sheet} (hs : s ∈ t.sheets) (field : String) :
    t.lookups.get? s.table field = s.layout.lookup? field :=
  h.run.get?_eq_lookup? h.tables_nodup h.fields_nodup (fun s _ => Registry.isPublished_empty s.table) hs field

/-! ### Fields and columns -/

theorem holds_of_mem (h : t.CompiledFrom p o entries r) {s : Sheet} (hs : s ∈ t.sheets) {c : Column}
    (hc : c ∈ s.columns) : ∃ table ∈ p.tables, ∃ f ∈ table.fields, t.Holds o entries table f s c := by
  obtain ⟨table, htable, rs, registry, hsheet, hfields, hmono⟩ := h.of_mem_sheets hs
  obtain ⟨i, f, place, res, hf, hplace, hres, hcolumn⟩ := hsheet.of_mem_columns hc
  have hfieldsNodup := h.resolved.named.fields_nodup table htable
  obtain ⟨other, hother, hfor⟩ := getElem?_of_forall₂ hfields hf
  rw [hres, Option.some.injEq] at hother
  subst hother
  obtain ⟨same, hsame, hname, _⟩ := Options.getElem?_columns_layout hplace
  rw [hf, Option.some.injEq] at hsame
  subst hsame
  refine ⟨table, htable, f, List.mem_of_getElem? hf, ?_, ?_, hsheet.layout_eq, registry, place, res,
    List.mem_of_getElem? hplace, hname, hfor, hcolumn, hmono⟩
  · exact (find?_key_eq_some_iff h.tables_nodup).2 ⟨hs, hsheet.table_eq⟩
  · rw [← hsheet.fields_eq hfields.length_eq] at hfieldsNodup
    exact (find?_key_eq_some_iff hfieldsNodup).2 ⟨hc, hcolumn.field_eq⟩

/-- A table has its sheet, also where it has no fields. -/
theorem exists_sheet (h : t.CompiledFrom p o entries r) {table : Table} (htable : table ∈ p.tables) :
    ∃ s ∈ t.sheets, ∃ rs registry, t.sheet? table.name = some s ∧ s.CompiledFrom o t.enumSheet registry table rs ∧
      table.fields.length = rs.length := by
  have hmem : table.name ∈ t.sheets.map (·.table) := h.tables_perm.mem_iff.2 (List.mem_map_of_mem htable)
  obtain ⟨s, hs, hname⟩ := List.mem_map.1 hmem
  obtain ⟨other, hother, rs, registry, hsheet, hfields, _⟩ := h.of_mem_sheets hs
  obtain rfl : other = table :=
    eq_of_key_eq h.resolved.named.names_nodup hother htable (hsheet.table_eq.symm.trans hname)
  exact ⟨s, hs, rs, registry, (find?_key_eq_some_iff h.tables_nodup).2 ⟨hs, hname⟩, hsheet, hfields.length_eq⟩

theorem exists_holds (h : t.CompiledFrom p o entries r) {table : Table} (htable : table ∈ p.tables) {f : Field}
    (hf : f ∈ table.fields) : ∃ s ∈ t.sheets, ∃ c ∈ s.columns, t.Holds o entries table f s c := by
  obtain ⟨s, hs, rs, registry, _, hsheet, hlength⟩ := h.exists_sheet htable
  have hcolumn : f.name ∈ s.columns.map (·.field) := by
    rw [hsheet.fields_eq hlength]
    exact List.mem_map_of_mem hf
  obtain ⟨c, hc, hfield⟩ := List.mem_map.1 hcolumn
  obtain ⟨same, hsame, g, hg, hholds⟩ := h.holds_of_mem hs hc
  obtain ⟨_, _, _, _, _, _, hcompiled, _⟩ := hholds.compiled
  have htables : same = table := eq_of_key_eq h.resolved.named.names_nodup hsame htable
    ((table_of_sheet? hholds.sheet_eq).symm.trans hsheet.table_eq)
  subst htables
  have hfieldEq : g = f :=
    eq_of_key_eq (h.resolved.named.fields_nodup same hsame) hg hf (hcompiled.field_eq.symm.trans hfield)
  exact ⟨s, hs, c, hc, hfieldEq ▸ hholds⟩

end Template.CompiledFrom

end SheetTemplate
