import SheetTemplate.Proofs.Compile.Obstacles
import SheetTemplate.Proofs.Resolution.Extension

/-!
# Packages that grow

A template says nothing that one more table could change: whatever a table is compiled against, the columns it refers
to and the lists on their sheet, is there with the last table as it is without it. So the sheets of the others stay,
in their order, and the new one comes after them.
-/

namespace SheetTemplate

variable {p : Package} {o : Options} {last : Table} {r r' : Resolution}

/-! ### What is looked up -/

theorem EnumSheet.lookup?_of_prefix {s s' : EnumSheet} (hname : s'.name = s.name) (hcolumns : s.columns <+: s'.columns)
    {column : UInt16} {l : Lookup} (h : s.lookup? column = some l) : s'.lookup? column = some l := by
  obtain ⟨values, hvalues, rfl⟩ := Option.map_eq_some_iff.1 h
  have hvalues : s.columns[column.toNat]? = some values := hvalues
  obtain ⟨more, hmore⟩ := hcolumns
  have hlt := (List.getElem?_eq_some_iff.1 hvalues).1
  rw [EnumSheet.lookup?, EnumSheet.values?, ← hmore, List.getElem?_append_left hlt, hvalues, hname]
  rfl

theorem exists_lookup?_of_mem [Libraries] (h : resolve p o = .ok r) {t : Table} {rs : List FieldResolution}
    (ht : (t, rs) ∈ r.sequence p) {res : FieldResolution} (hres : res ∈ rs) {column : UInt16}
    (hcolumn : res.enumColumn = some column) : ∃ s l, r.enumSheet = some s ∧ s.lookup? column = some l := by
  obtain ⟨entries, hresolved⟩ := resolve_eq_ok h
  obtain ⟨f, _, hfor⟩ := exists_of_forall₂_right (hresolved.of_mem_sequence ht).2 hres
  have hplaced := hfor.placed
  unfold EnumPool.Placed at hplaced
  split at hplaced
  · cases hcolumn.symm.trans hplaced
  · obtain ⟨i, e, hi, he, _⟩ := hplaced
    obtain rfl := Option.some.inj (hcolumn.symm.trans hi)
    have hlookup := listSheet?_lookup? hresolved.lists_fit he
    rw [← hresolved.enumSheet_eq] at hlookup
    obtain ⟨s, hs, hl⟩ := Option.bind_eq_some_iff.1 hlookup
    exact ⟨s, _, hs, hl⟩

theorem registry_add [Libraries] (p : Package) (o : Options) (last : Table) :
    (p.add last).registry o = (p.registry o).publish (o.home last) := by
  rw [Package.registry, Package.tables_add, List.map_append, Registry.publishAll_append]
  rfl

theorem alike_add [Libraries] (h : resolve p o = .ok r) (hlists : ListsGrow r.enumSheet r'.enumSheet) {t : Table}
    {rs : List FieldResolution} (ht : (t, rs) ∈ r.sequence p) :
    ∀ res ∈ rs, res.Alike ((p.add last).registry o) (p.registry o) r'.enumSheet r.enumSheet := by
  refine fun res hres => ⟨fun link hlink => ?_, ?_⟩
  · obtain ⟨l, hl⟩ := exists_get?_registry h ht hres hlink
    rw [hl, registry_add, Registry.get?_publish_of_get? hl]
  · unfold FieldResolution.place?
    cases hcolumn : res.enumColumn with
    | none => rfl
    | some column =>
      obtain ⟨s, l, hs, hl⟩ := exists_lookup?_of_mem h ht hres hcolumn
      obtain ⟨s', hs', hname, hcolumns⟩ := hlists s hs
      simp only [hs, hs', Option.bind_some, hl, EnumSheet.lookup?_of_prefix hname hcolumns hl]

/-! ### The template -/

/-- The steps with one more table are the steps without it, and then its own. -/
theorem steps_add [Libraries] (h : resolve p o = .ok r) (hlists : ListsGrow r.enumSheet r'.enumSheet) {rs : List FieldResolution}
    (hsequence : r'.sequence (p.add last) = r.sequence p ++ [(last, rs)]) : r'.steps (p.add last) o = (do
      let sheets ← r.steps p o
      let s ← compileSheet o ((p.add last).registry o) r'.enumSheet last rs
      return sheets ++ [s]) := by
  have hsame : (r.sequence p).mapM (fun x => compileSheet o ((p.add last).registry o) r'.enumSheet x.1 x.2) =
      r.steps p o := mapM_congr fun x hx => compileSheet_congr (alike_add h hlists hx) x.1
  rw [Resolution.steps, hsequence, List.mapM_append, hsame]
  simp only [List.mapM_cons, List.mapM_nil, bind_assoc, pure_bind]

/-- Appending a table never disturbs the others. Of two templates, one of a package and one of the package with a table
added at its end, the second has the sheets of the first in their order and then the sheet of the new table, the lists
of the first and then its own, and all lookups and warnings of the first. -/
theorem compile_add [Libraries] (p : Package) (last : Table) (o : Options) {t t' : Template} (h : compile p o = .ok t)
    (h' : compile (p.add last) o = .ok t') :
    t'.order = t.order ++ [last.name] ∧
    (∃ s, s.table = last.name ∧ s.layout = o.home last ∧ t'.sheets = t.sheets ++ [s]) ∧
    (∀ s, t.enumSheet = some s → ∃ s', t'.enumSheet = some s' ∧ s'.name = s.name ∧ s.columns <+: s'.columns) ∧
    (∀ table field l, t.lookups.get? table field = some l → t'.lookups.get? table field = some l) ∧
    t.warnings.Sublist t'.warnings := by
  obtain ⟨r, hr⟩ := exists_resolve_of_compile h
  obtain ⟨r', hr'⟩ := exists_resolve_of_compile h'
  obtain ⟨⟨rs, hsequence⟩, hlists, hwarnings⟩ := resolve_add hr hr'
  have hsteps := steps_add hr hlists hsequence
  obtain ⟨hsheets, henum, hlookups, hskipped⟩ := steps_of_compile hr h
  obtain ⟨hsheets', henum', hlookups', hskipped'⟩ := steps_of_compile hr' h'
  obtain ⟨rest, hrest⟩ := Outcome.warnings_bind (r.steps p o) fun sheets => do
    return sheets ++ [← compileSheet o ((p.add last).registry o) r'.enumSheet last rs]
  rw [hsteps] at hsheets' hskipped'
  rw [hrest] at hskipped'
  simp only [Outcome.bind_eq_ok, Outcome.pure_eq_ok, hsheets, Except.ok.injEq] at hsheets'
  obtain ⟨_, rfl, s, hs, hsheets'⟩ := hsheets'
  obtain ⟨htable, hlayout⟩ := table_of_compileSheet hs
  refine ⟨?_, ⟨s, htable, hlayout, hsheets'.symm⟩, ?_, fun table field l hl => ?_, ?_⟩
  · rw [Template.order, Template.order, ← hsheets', List.map_append, List.map_singleton, htable]
  · rw [henum, henum']
    exact hlists
  · rw [hlookups] at hl
    rw [hlookups', registry_add]
    exact Registry.get?_publish_of_get? hl _
  · rw [hskipped, hskipped', hwarnings]
    exact (List.sublist_append_left ..).append (List.sublist_append_left ..)

/-! ### The shop -/

attribute [local instance] Libraries.plain in
theorem resolve_customers : resolve ⟨[customers]⟩ online =
    .ok ⟨[0], [[⟨[], none⟩, ⟨[⟨"customers", "name"⟩], none⟩]], none, []⟩ := by
  have hrows : online.checkRows = .ok () := rfl
  have hnamed : WellNamed online [] [Text.lowercase online.enumSheet] [customers] := by
    constructor <;> decide +kernel
  have htables : checkTables online ⟨[customers]⟩ = .ok () := checkTables_eq_ok.2 ⟨by decide +kernel, hnamed⟩
  have hkeys : [customers].mapM (resolveTable ⟨[customers]⟩) = .ok [[⟨0, [("sentBy", ⟨"customers", "name"⟩)]⟩]] := rfl
  rw [resolve, hrows, htables, hkeys]
  rfl

attribute [local instance] Libraries.plain in
/-- Orders are written after the customers and change nothing about them. -/
theorem orders_last : ∃ t t' s, compile ⟨[customers]⟩ online = .ok t ∧ compile shop online = .ok t' ∧
    t'.order = t.order ++ ["orders"] ∧ t'.sheets = t.sheets ++ [s] ∧ s.layout = online.home orders := by
  obtain ⟨t, ht⟩ := exists_compile_of_googleSheets resolve_customers rfl rfl
  obtain ⟨t', ht'⟩ := exists_compile_of_googleSheets resolve_shop rfl rfl
  obtain ⟨horder, ⟨s, _, hlayout, hsheets⟩, _⟩ := compile_add ⟨[customers]⟩ orders online ht ht'
  exact ⟨t, t', s, ht, ht', horder, hsheets, hlayout⟩

end SheetTemplate
