import SheetTemplate.Proofs.Compile.Obstacles
import SheetTemplate.Proofs.Compile.Templates

/-!
# Where references lead

A reference is declared between two fields and ends up as a list of cells. On the way the cells are computed
three times: in the layout of the referenced table, in the registry and in the list itself. Here they are shown
to be the same cells, those that the rule of the referenced field applies to.
-/

namespace SheetTemplate

/-- The data cells of a field are these, wherever one looks. -/
structure Located (o : Options) (t : Template) (table : Table) (field : String) (i : Nat) (l : Lookup) : Prop where
  position : table.fieldIndex? field = some i
  sheet_eq : l.sheet = table.sheetName
  /-- The columns of a table are counted in 32 bits. -/
  column_eq : o.startColumn.toNat + table.fields.length < UInt32.size → l.column.toNat = o.startColumn.toNat + i
  first_eq : l.rows.first.toNat = o.startRow.toNat + 1
  count_eq : l.rows.count = max o.dataRows 1
  laid : (t.sheet? table.name).bind (·.layout.lookup? field) = some l
  published : t.lookups.get? table.name field = some l
  cells : ∃ c, t.column? table.name field = some c ∧ l.range = c.range.fixed

theorem Template.CompiledFrom.located [Libraries] {p : Package} {o : Options} {entries : List EnumPool.Entry} {r : Resolution}
    {t : Template} (h : t.CompiledFrom p o entries r) {table : Table} (htable : table ∈ p.tables) {field : String}
    {f : Field} (hf : table.field? field = some f) :
    ∃ i l, Located o t table field i l ∧ l.column = columnAt o.startColumn i := by
  obtain ⟨s, hs, c, hc, hholds⟩ := h.exists_holds htable (List.mem_of_find?_eq_some hf)
  obtain ⟨_, place, _, hplace, hname, _, hcompiled, _⟩ := hholds.compiled
  have hfield := Table.name_of_field? hf
  have hlookup := h.get?_eq_lookup? hs field
  rw [Template.table_of_sheet? hholds.sheet_eq] at hlookup
  have hfind : (o.home table).column? field = some place :=
    (find?_key_eq_some_iff (o.nodup_home (h.resolved.named.fields_nodup table htable))).2 ⟨hplace, hname.trans hfield⟩
  have hhome : (o.home table).lookup? field = some ((o.home table).lookupOf place) := by
    rw [TableLayout.lookup?, hfind, Option.map_some]
  have hlaid : s.layout.lookup? field = some ((o.home table).lookupOf place) := by rw [hholds.layout_eq, hhome]
  obtain ⟨i, hi, hl⟩ := Option.map_eq_some_iff.1 ((Options.lookup?_layout field).symm.trans hhome)
  obtain ⟨hlt, _⟩ := List.findIdx?_eq_some_iff_getElem.1 hi
  refine ⟨i, (o.home table).lookupOf place, ⟨hi, ?_, ?_, ?_, ?_, ?_, hlookup.trans hlaid, c, ?_, ?_⟩, by rw [← hl]⟩
  · rfl
  · intro hnarrow
    rw [← hl]
    exact Options.toNat_column table ((o.fits_iff hnarrow).1 (h.resolved.named.fields_fit table htable)) hlt
  · exact Options.toNat_startRow_succ h.resolved.rows_fit
  · rfl
  · rw [hholds.sheet_eq, Option.bind_some, hlaid]
  · rw [← hfield]
    exact hholds.column?_eq
  · rw [Options.range_lookupOf hplace, hcompiled.range_eq]

/-! ### The references of a column -/

theorem Column.sources_foreignKey (c : Column) (link : Link) : c.sources (.foreignKey link) =
    c.references.filterMap fun reference => if reference.1 = link then some reference.2 else none := by
  rw [sources, references, List.filterMap_filterMap]
  refine congrArg (List.filterMap · c.checks) (funext fun check => ?_)
  cases check.directive with
  | list origin source =>
    cases origin with
    | foreignKey other =>
      by_cases h : other = link
      · simp [Directive.source?, Directive.reference?, h]
      · simp [Directive.source?, Directive.reference?, h]
    | _ => rfl
  | _ => rfl

theorem Template.Holds.links_eq [Libraries] {o : Options} {entries : List EnumPool.Entry} {t : Template} {table : Table} {f : Field}
    {s : Sheet} {c : Column} (h : t.Holds o entries table f s c) :
    c.references.map Prod.fst = (table.declaredLinks f.name).eraseDups := by
  obtain ⟨_, _, res, _, _, hfor, hcompiled, _⟩ := h.compiled
  rw [← hfor.links_eq, ← List.forall₂_eq_eq_eq, List.forall₂_map_left_iff]
  refine hcompiled.referenced.flip.imp fun reference link h => ?_
  obtain ⟨lookup, _, heq⟩ := h
  rw [heq]

/-- A reference is a list of the cells that were published for it, and the only one to its field. -/
theorem Template.Holds.sources_eq [Libraries] {o : Options} {entries : List EnumPool.Entry} {t : Template} {table : Table} {f : Field}
    {s : Sheet} {c : Column} (h : t.Holds o entries table f s c) {link : Link} (hlink : link ∈ table.declaredLinks f.name)
    {l : Lookup} (hl : t.lookups.get? link.table link.field = some l) : c.sources (.foreignKey link) = [.range l] := by
  have hnodup : (c.references.map Prod.fst).Nodup := h.links_eq ▸ nodup_eraseDups _
  obtain ⟨_, _, res, _, _, hfor, hcompiled, hmono⟩ := h.compiled
  have hmem : link ∈ res.links := by
    rw [hfor.links_eq, List.mem_eraseDups]
    exact hlink
  obtain ⟨reference, hreference, other, hget, heq⟩ := exists_of_forall₂_left hcompiled.referenced hmem
  have hother : other = l := Option.some.inj ((hmono hget).symm.trans hl)
  rw [c.sources_foreignKey link]
  subst heq hother
  exact filterMap_key_eq hnodup hreference Prod.snd

theorem Template.CompiledFrom.exists_reference [Libraries] {p : Package} {o : Options} {entries : List EnumPool.Entry}
    {r : Resolution} {t : Template} (h : t.CompiledFrom p o entries r) {source : Table} (hsource : source ∈ p.tables)
    {k : ForeignKey} (hk : k ∈ source.foreignKeys) {pair : String × String} (hpair : pair ∈ k.pairs) :
    ∃ target ∈ p.tables, target.name = k.reference.tableOr source.name ∧ Matched source target pair ∧
      ∃ c i l, t.column? source.name pair.1 = some c ∧ c.sources (.foreignKey ⟨target.name, pair.2⟩) = [.range l] ∧
        Located o t target pair.2 i l ∧ l.column = columnAt o.startColumn i := by
  obtain ⟨target, htarget, hpairs⟩ := h.resolved.keys source hsource k hk
  obtain ⟨f, g, hf, hg, _⟩ := hpairs pair hpair
  have hmem := List.mem_of_find?_eq_some htarget
  have hname := Package.name_of_table? htarget
  obtain ⟨s, _, c, _, hholds⟩ := h.exists_holds hsource (List.mem_of_find?_eq_some hf)
  obtain ⟨i, l, hlocated, hcolumn⟩ := h.located hmem hg
  have hfield := Table.name_of_field? hf
  refine ⟨target, hmem, hname, hpairs pair hpair, c, i, l, hfield ▸ hholds.column?_eq, ?_, hlocated, hcolumn⟩
  refine hholds.sources_eq (Table.mem_declaredLinks.2 ⟨k, hk, pair, hpair, hfield.symm, by rw [hname]⟩) ?_
  exact hlocated.published

/-- Every declared pair of fields becomes one list on the local field, of the data cells of the referenced
one; a column has no other references, and those it has in the order in which they are first declared. -/
theorem references_of_compile [Libraries] {p : Package} {o : Options} {t : Template} (h : compile p o = .ok t) :
    (∀ source ∈ p.tables, ∀ k ∈ source.foreignKeys, ∀ pair ∈ k.pairs, ∃ target ∈ p.tables,
      target.name = k.reference.tableOr source.name ∧ Matched source target pair ∧
      ∃ c i l, t.column? source.name pair.1 = some c ∧ c.sources (.foreignKey ⟨target.name, pair.2⟩) = [.range l] ∧
        Located o t target pair.2 i l) ∧
    ∀ s ∈ t.sheets, ∀ c ∈ s.columns, ∃ source ∈ p.tables, source.name = s.table ∧
      (∀ check ∈ c.checks, ∀ link l, check.directive = .list (.foreignKey link) l →
        ∃ k ∈ source.foreignKeys, ∃ pair ∈ k.pairs, pair.1 = c.field ∧ link = ⟨k.reference.tableOr source.name, pair.2⟩) ∧
      c.references.map Prod.fst = (source.declaredLinks c.field).eraseDups := by
  obtain ⟨entries, r, htemplate⟩ := compile_eq_ok h
  constructor
  · intro source hsource k hk pair hpair
    obtain ⟨target, htarget, hname, hmatched, c, i, l, hcolumn, hsources, hlocated, _⟩ :=
      htemplate.exists_reference hsource hk hpair
    exact ⟨target, htarget, hname, hmatched, c, i, l, hcolumn, hsources, hlocated⟩
  · intro s hs c hc
    obtain ⟨source, hsource, f, _, hholds⟩ := htemplate.holds_of_mem hs hc
    obtain ⟨_, _, _, _, _, _, hcompiled, _⟩ := hholds.compiled
    have hlinks : c.references.map Prod.fst = (source.declaredLinks c.field).eraseDups := by
      rw [hcompiled.field_eq]
      exact hholds.links_eq
    refine ⟨source, hsource, (Template.table_of_sheet? hholds.sheet_eq).symm, fun check hcheck link l hlist => ?_, hlinks⟩
    have hreference : (link, l) ∈ c.references := List.mem_filterMap.2 ⟨check, hcheck, by rw [hlist]; rfl⟩
    have hmem : link ∈ (source.declaredLinks c.field).eraseDups := hlinks ▸ List.mem_map.2 ⟨_, hreference, rfl⟩
    exact Table.mem_declaredLinks.1 (List.mem_eraseDups.1 hmem)

attribute [local instance] Libraries.plain in
theorem parent_leads_to_id : ∃ t target c i l, compile partsList suggesting = .ok t ∧ target ∈ partsList.tables ∧
    t.column? "parts" "parent" = some c ∧ c.sources (.foreignKey ⟨target.name, "id"⟩) = [.range l] ∧
    Located suggesting t target "id" i l := by
  obtain ⟨t, ht, _⟩ := compile_partsList
  obtain ⟨target, htarget, _, _, c, i, l, hcolumn, hsources, hlocated⟩ :=
    (references_of_compile ht).1 _ List.mem_cons_self _ List.mem_cons_self ("parent", "id") List.mem_cons_self
  exact ⟨t, target, c, i, l, ht, htarget, hcolumn, hsources, hlocated⟩

attribute [local instance] Libraries.plain in
/-- In a table of 2³² fields the last column number is passed long before the last field, and a reference to the field
with number 2¹⁶ leads to the first column. -/
theorem wide_leads_to_first : ∃ t c i l, compile ⟨[wideTable UInt32.size 65536]⟩ online = .ok t ∧
    t.column? "wide" (wideField 65536).name = some c ∧
    c.sources (.foreignKey ⟨"wide", (wideField 65536).name⟩) = [.range l] ∧
    (wideTable UInt32.size 65536).fieldIndex? (wideField 65536).name = some i ∧
    l.column.toNat ≠ online.startColumn.toNat + i := by
  have hwide : (⟨[wideTable UInt32.size 65536]⟩ : Package).WellFormed online := wide_wellFormed (by decide) (by decide)
  obtain ⟨r, hr⟩ := exists_resolve_of_wellFormed hwide
  obtain ⟨t, ht⟩ := exists_compile_of_googleSheets hr rfl rfl
  obtain ⟨_, _, htemplate⟩ := compile_eq_ok ht
  obtain ⟨target, htarget, hname, _, c, i, l, hcolumn, hsources, hlocated, hplace⟩ :=
    htemplate.exists_reference List.mem_cons_self List.mem_cons_self List.mem_cons_self
  obtain rfl := List.mem_singleton.1 htarget
  obtain rfl : i = 65536 := fieldIndex?_wideTable hlocated.position
  exact ⟨t, c, 65536, l, ht, hcolumn, hsources, hlocated.position, by rw [hplace]; decide⟩

end SheetTemplate
