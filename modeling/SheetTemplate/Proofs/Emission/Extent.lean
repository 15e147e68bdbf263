import SheetTemplate.Proofs.Compile.Composed
import SheetTemplate.Proofs.Compile.Grid
import SheetTemplate.Proofs.Emission.Declared
import SheetTemplate.Proofs.Emission.Lists
import SheetTemplate.Proofs.Resolution.Faults

/-!
# How far the lists reach

The number of lists is compared with the columns of a sheet once all are pooled, so a column number always means the
list it was given to. Nobody compares the length of a list with the rows of a sheet. The cells of the sheet of lists
are on the grid exactly if no list that goes there is longer than a sheet.
-/

namespace SheetTemplate

/-- A call writes a value to a cell, in a row and a column counted from zero without bound. -/
def Call.WritesAt (call : Call) (row column : Nat) : Prop :=
  ∃ number first values, call.action = .values number first values ∧ number.toNat = column ∧ first.toNat ≤ row ∧
    row < first.toNat + values.length

/-- A column is restricted to the values in cells of the sheet of lists, by a check or a rule. -/
def Template.LooksUp (t : Template) (lists : EnumSheet) (l : Lookup) : Prop :=
  l.sheet = lists.name ∧ ∃ s ∈ t.sheets, ∃ c ∈ s.columns,
    (∃ check ∈ c.checks, ∃ origin, check.directive = .list origin (.range l)) ∨
      ∃ rule, c.rule = some rule ∧ rule.kind = .list (.range l)

/-- The lists that go to the sheet of lists are no longer than a sheet. -/
def Package.ListsFit (p : Package) (o : Options) : Prop :=
  ∀ t ∈ p.tables, ∀ f ∈ t.fields, ∀ values, f.constraints.enum = some values → ¬o.Inlines f.type values →
    values.length ≤ o.profile.maxRows.toNat

variable {p : Package} {o : Options} {r : Resolution} {t : Template} {lists : EnumSheet} {l : Lookup}

theorem FieldResolution.For.of_place? {entries : List EnumPool.Entry} {table : Table} {f : Field} {res : FieldResolution}
    {l : Lookup} (hresolved : Resolved p o entries r) (hfor : FieldResolution.For o entries table f res)
    (h : res.place? r.enumSheet = some l) : ∃ i e, entries[i]? = some e ∧
      l = ⟨o.enumSheet, UInt16.ofNat i, ⟨0, UInt32.ofNat e.2.length⟩⟩ := by
  obtain ⟨column, hcolumn, hlookup⟩ := Option.bind_eq_some_iff.1 h
  rcases hfor.enumColumn_cases with ⟨_, hnone⟩ | ⟨_, i, e, _, hi, he, _⟩
  · cases hcolumn.symm.trans hnone
  · rw [hcolumn, Option.some.injEq] at hi
    rw [hi, hresolved.enumSheet_eq, listSheet?_lookup? hresolved.lists_fit he] at hlookup
    exact ⟨i, e, he, (Option.some.inj hlookup).symm⟩

theorem Resolved.sheetName_ne {entries : List EnumPool.Entry} (h : Resolved p o entries r) {table : Table}
    (htable : table ∈ p.tables) : table.sheetName ≠ o.enumSheet := fun heq =>
  h.named.sheets_new table htable (heq ▸ List.mem_cons_self)

namespace Template.CompiledFrom

theorem exists_entry [Libraries] {entries : List EnumPool.Entry} (h : t.CompiledFrom p o entries r) (hlists : t.enumSheet = some lists)
    {i : Nat} {values : List Value} (hi : lists.columns[i]? = some values) : ∃ e, entries[i]? = some e ∧ e.2 = values := by
  rw [h.columns_eq hlists, List.getElem?_map] at hi
  exact Option.map_eq_some_iff.1 hi

theorem sheet_ne [Libraries] {entries : List EnumPool.Entry} (h : t.CompiledFrom p o entries r) (hlists : t.enumSheet = some lists)
    {s : Sheet} (hs : s ∈ t.sheets) : s.layout.sheet ≠ lists.name := by
  obtain ⟨table, htable, _, _, hsheet, _⟩ := h.of_mem_sheets hs
  rw [h.name_of_enumSheet hlists, hsheet.layout_eq]
  exact h.resolved.sheetName_ne htable

end Template.CompiledFrom

theorem exists_table_of_get? [Libraries] (h : resolve p o = .ok r) (hcompile : compile p o = .ok t) {a b : String}
    (hl : (p.registry o).get? a b = some l) : ∃ table ∈ p.tables, l.sheet = table.sheetName := by
  obtain ⟨entries, r', htemplate⟩ := compile_eq_ok hcompile
  rw [← (steps_of_compile h hcompile).2.2.1] at hl
  rcases htemplate.run.get?_final htemplate.fields_nodup hl with hempty | ⟨s, hs, _, hfound⟩
  · cases hempty
  · obtain ⟨table, htable, _, _, hsheet, _⟩ := htemplate.of_mem_sheets hs
    exact ⟨table, htable, (TableLayout.sheet_of_lookup? hfound).trans (congrArg _ hsheet.layout_eq)⟩

/-! ### Lookups and calls -/

theorem Template.LooksUp.exists_entry [Libraries] (hlookup : t.LooksUp lists l) (h : compile p o = .ok t)
    (hlists : t.enumSheet = some lists) : ∃ i e, (p.entries o)[i]? = some e ∧
      l = ⟨o.enumSheet, UInt16.ofNat i, ⟨0, UInt32.ofNat e.2.length⟩⟩ := by
  obtain ⟨r, hresolve, htemplate⟩ := compiledFrom_of_compile h
  obtain ⟨hsheet, s, hs, c, hc, hlist⟩ := hlookup
  obtain ⟨_, _, _, _, _, _, hcomposes⟩ := exists_composes hresolve h hs hc
  have hcheck : ∃ check ∈ c.checks, ∃ origin, check.directive = .list origin (.range l) := by
    rcases hlist with hcheck | ⟨rule, hrule, hkind⟩
    · exact hcheck
    rcases hcomposes.rule_cases hrule with ⟨formula, hcustom⟩ | ⟨check, hcheck, hstates⟩
    · cases hcustom.symm.trans hkind
    · rw [hkind] at hstates
      exact ⟨check, hcheck, hstates.origin⟩
  obtain ⟨check, hcheck, origin, hdirective⟩ := hcheck
  have hcalls := hcomposes.callsFor check hcheck
  rw [hdirective] at hcalls
  rcases hcalls.of_range with hplace | ⟨link, _, hget⟩
  · exact (hcomposes.places.resolution_for htemplate.resolved).of_place? htemplate.resolved hplace
  · obtain ⟨table, htable, hother⟩ := exists_table_of_get? hresolve h hget
    have hname : lists.name = o.enumSheet := htemplate.name_of_enumSheet hlists
    exact absurd (hother.symm.trans (hsheet.trans hname)) (htemplate.resolved.sheetName_ne htable)

theorem Template.CompiledFrom.action_of_mem_calls [Libraries] {entries : List EnumPool.Entry} (h : t.CompiledFrom p o entries r)
    (hlists : t.enumSheet = some lists) {call : Call} (hcall : call ∈ t.calls) (hsheet : call.sheet = lists.name) :
    call.action = .declare true ∨
      ∃ i values, lists.columns[i]? = some values ∧ call.action = .values (UInt16.ofNat i) 0 values := by
  rcases Template.mem_calls hcall with ⟨other, hother, _, haction⟩ | ⟨s, hs, hname, _⟩
  · obtain rfl : lists = other := Option.some.inj (hlists.symm.trans hother)
    exact haction
  · exact absurd (hname.symm.trans hsheet) (h.sheet_ne hlists hs)

theorem Template.mem_calls_of_column (hlists : t.enumSheet = some lists) {i : Nat} {values : List Value}
    (hi : lists.columns[i]? = some values) : ⟨lists.name, .values (UInt16.ofNat i) 0 values⟩ ∈ t.calls := by
  refine List.mem_append_left _ ?_
  rw [hlists, Option.map_some, Option.getD_some]
  exact List.mem_cons_of_mem _ (List.mem_map.2 ⟨(values, i), List.mk_mem_zipIdx_iff_getElem?.2 hi, rfl⟩)

/-! ### Rows -/

theorem last_lt_of_length_le (hrows : 0 < o.profile.maxRows.toNat) {n : Nat} (hle : n ≤ o.profile.maxRows.toNat) :
    (RowSpan.last ⟨0, UInt32.ofNat n⟩).toNat < o.profile.maxRows.toNat := by
  have hmax : o.profile.maxRows.toNat ≤ 10000000 := o.platform.maxRows_le
  have hsize : UInt32.size = 4294967296 := rfl
  have hcount : (UInt32.ofNat n).toNat = n := UInt32.toNat_ofNat_of_lt' (by omega)
  have hzero : (0 : UInt32).toNat = 0 := rfl
  have hexact : RowSpan.Exact ⟨0, UInt32.ofNat n⟩ := RowSpan.exact_of_lt (by rw [hcount, hzero]; omega)
  rw [hexact.last_eq, hcount, hzero]
  omega

theorem Package.ListsFit.length_le (hfit : p.ListsFit o) {e : EnumPool.Entry} (he : e ∈ p.entries o) :
    e.2.length ≤ o.profile.maxRows.toNat := by
  obtain ⟨table, htable, f, hf, _, hvalues, hinlines⟩ := Package.exists_of_mem_entries he
  exact hfit table htable f hf e.2 hvalues hinlines

/-- A list that goes to the sheet of lists is as long as the list that is written for it. -/
theorem Package.listsFit_of_columns [Libraries] (h : compile p o = .ok t) (hlists : t.enumSheet = some lists)
    (hcolumns : ∀ values ∈ lists.columns, values.length ≤ o.profile.maxRows.toNat) : p.ListsFit o := by
  obtain ⟨r, _, htemplate⟩ := compiledFrom_of_compile h
  intro table htable f hf values hvalues hinlines
  obtain ⟨_, _, _, _, _, _, _, ⟨hinline, _⟩ | ⟨_, i, e, hi, hkey, _⟩⟩ := htemplate.exists_source htable hf hvalues
  · exact absurd hinline hinlines
  · have hlength : e.2.length = values.length := by
      have hformulas := congrArg List.length (EnumPool.Entry.formulas_eq hkey)
      rwa [List.length_map, List.length_map] at hformulas
    rw [← hlength]
    refine hcolumns e.2 ?_
    rw [htemplate.columns_eq hlists]
    exact List.mem_map_of_mem (List.mem_of_getElem? hi)

/-- What is written to the sheet of lists and what is looked up there are its lists, each in the column of its number,
which is on the grid. Their rows are on the grid exactly if no list that goes there is longer than a sheet. -/
theorem lists_on_grid [Libraries] (h : compile p o = .ok t) (hlists : t.enumSheet = some lists) :
    (∀ call ∈ t.calls, call.sheet = lists.name → call.action = .declare true ∨ ∃ i values,
      lists.columns[i]? = some values ∧ call.action = .values (UInt16.ofNat i) 0 values ∧ (UInt16.ofNat i).toNat = i ∧
        i < o.profile.maxColumns.toNat) ∧
    (∀ l, t.LooksUp lists l → ∃ i values, lists.columns[i]? = some values ∧
      l = ⟨lists.name, UInt16.ofNat i, ⟨0, UInt32.ofNat values.length⟩⟩ ∧ (UInt16.ofNat i).toNat = i ∧
        i < o.profile.maxColumns.toNat) ∧
    (((∀ l, t.LooksUp lists l → l.rows.last.toNat < o.profile.maxRows.toNat) ∧
      ∀ call ∈ t.calls, call.sheet = lists.name → ∀ row column, call.WritesAt row column → row < o.profile.maxRows.toNat) ↔
      p.ListsFit o) := by
  obtain ⟨r, _, htemplate⟩ := compiledFrom_of_compile h
  have hfit := htemplate.resolved.lists_fit
  have hrows : 0 < o.profile.maxRows.toNat := by
    have := htemplate.resolved.rows_fit
    omega
  have hindex : ∀ i e, (p.entries o)[i]? = some e → (UInt16.ofNat i).toNat = i ∧ i < o.profile.maxColumns.toNat :=
    fun i e hi => ⟨toNat_listColumn hfit hi, (List.getElem?_eq_some_iff.1 hi).1.trans_le hfit⟩
  refine ⟨fun call hcall hsheet => ?_, fun l hl => ?_, fun hgrid => ?_, fun hlength => ⟨fun l hl => ?_, ?_⟩⟩
  · refine (htemplate.action_of_mem_calls hlists hcall hsheet).imp_right fun ⟨i, values, hi, haction⟩ => ?_
    obtain ⟨e, he, _⟩ := htemplate.exists_entry hlists hi
    exact ⟨i, values, hi, haction, hindex i e he⟩
  · obtain ⟨i, e, hi, rfl⟩ := hl.exists_entry h hlists
    refine ⟨i, e.2, ?_, by rw [htemplate.name_of_enumSheet hlists], hindex i e hi⟩
    rw [htemplate.columns_eq hlists, List.getElem?_map, hi, Option.map_some]
  · refine Package.listsFit_of_columns h hlists fun values hvalues => ?_
    obtain ⟨i, hi⟩ := List.getElem?_of_mem hvalues
    -- A list that is longer than a sheet is written to the row after the last.
    by_contra hlong
    have hcell : Call.WritesAt ⟨lists.name, .values (UInt16.ofNat i) 0 values⟩ o.profile.maxRows.toNat
        (UInt16.ofNat i).toNat :=
      ⟨_, _, _, rfl, rfl, Nat.zero_le _, by change _ < 0 + values.length; omega⟩
    exact Nat.lt_irrefl _ (hgrid.2 _ (Template.mem_calls_of_column hlists hi) rfl _ _ hcell)
  · obtain ⟨i, e, hi, rfl⟩ := hl.exists_entry h hlists
    exact last_lt_of_length_le hrows (hlength.length_le (List.mem_of_getElem? hi))
  · rintro call hcall hsheet row column ⟨number, first, values, haction, _, _, hrow⟩
    rcases htemplate.action_of_mem_calls hlists hcall hsheet with hdeclare | ⟨i, other, hi, hother⟩
    · cases hdeclare.symm.trans haction
    · cases hother.symm.trans haction
      obtain ⟨e, he, rfl⟩ := htemplate.exists_entry hlists hi
      have hle := hlength.length_le (List.mem_of_getElem? he)
      change row < 0 + e.2.length at hrow
      omega

/-! ### Tickets -/

attribute [local instance] Libraries.plain in
/-- More numbers are printed than a sheet has rows. -/
theorem tickets_off_grid : ∃ t lists, compile (tickets 10000001) online = .ok t ∧ t.enumSheet = some lists ∧
    ¬((∀ l, t.LooksUp lists l → l.rows.last.toNat < online.profile.maxRows.toNat) ∧
      ∀ call ∈ t.calls, call.sheet = lists.name → ∀ row column, call.WritesAt row column → row < online.profile.maxRows.toNat) := by
  obtain ⟨r, hr⟩ := exists_resolve_of_wellFormed (tickets_wellFormed (Nat.succ_pos 10000000))
  obtain ⟨t, ht⟩ := exists_compile_of_googleSheets hr rfl rfl
  obtain ⟨_, _, htemplate⟩ := compiledFrom_of_compile ht
  obtain ⟨_, _, _, _, _, _, _, ⟨hinlines, _⟩ | ⟨_, i, e, hi, _⟩⟩ :=
    htemplate.exists_source List.mem_cons_self List.mem_cons_self rfl
  · cases hinlines.1
  have hlists := htemplate.enumSheet_eq hi
  refine ⟨t, _, ht, hlists, fun hgrid => ?_⟩
  have hlength := (lists_on_grid ht hlists).2.2.1 hgrid _ List.mem_cons_self _ List.mem_cons_self _ rfl
    fun hinlines => by cases hinlines.1
  rw [List.length_map, List.length_range] at hlength
  exact absurd hlength (by decide)

end SheetTemplate
