import SheetTemplate.Proofs.Emission.Order

/-!
# Every sheet is declared before it is used

The write order puts referenced tables first, the registry knows only tables already laid out, and emission
follows the write order. Together they make a build declare each sheet once, and before any rule that takes
its list from it.
-/

namespace SheetTemplate

theorem EnumSheet.sheet_of_lookup? {s : EnumSheet} {column : UInt16} {l : Lookup} (h : s.lookup? column = some l) :
    l.sheet = s.name := by
  obtain ⟨_, _, rfl⟩ := Option.map_eq_some_iff.1 h
  rfl

theorem TableLayout.sheet_of_lookup? {layout : TableLayout} {field : String} {l : Lookup}
    (h : layout.lookup? field = some l) : l.sheet = layout.sheet := by
  obtain ⟨_, _, rfl⟩ := Option.map_eq_some_iff.1 h
  rfl

namespace Template.CompiledFrom

variable [Libraries] {p : Package} {o : Options} {entries : List EnumPool.Entry} {r : Resolution} {t : Template}

/-- A sheet takes lists from the sheet of lists, from sheets written before it and from itself. -/
theorem sheet_of_reads (h : t.CompiledFrom p o entries r) {before after : List Sheet} {s : Sheet}
    (hsheets : t.sheets = before ++ s :: after) {l : Lookup} (hl : s.Reads l) :
    l.sheet ∈ (t.enumSheet.map (·.name)).toList ++ (before ++ [s]).map (·.layout.sheet) := by
  obtain ⟨seqBefore, seqAfter, table, rs, mid, hseq, hbefore, hs, _⟩ := h.run.split hsheets
  obtain ⟨c, hc, rule, hrule, hkind⟩ := hl
  obtain ⟨_, f, place, res, _, _, _, hcompiled⟩ := hs.of_mem_columns hc
  obtain ⟨f', parts, hcolumn, hparts⟩ := hcompiled.composed
  obtain ⟨check, hcheck, origin, hlist⟩ :=
    Composition.check_of_list_rule (fun part hpart => (hparts part hpart).states) (hcolumn ▸ hrule) hkind
  rw [← hcolumn] at hcheck
  have hfields : ∀ x ∈ seqBefore, (x.1.fields.map (·.name)).Nodup := fun x hx =>
    h.fields_nodup x (hseq ▸ List.mem_append_left _ hx)
  have htable : (table.fields.map (·.name)).Nodup :=
    h.fields_nodup (table, rs) (hseq ▸ List.mem_append_right _ List.mem_cons_self)
  rw [List.mem_append, List.map_append, List.mem_append]
  -- A declared list stands on the sheet of lists; a reference leads to an earlier table or to the table itself,
  -- which is published before its fields are compiled.
  rcases hcompiled.lookups check hcheck origin l hlist with hplace | ⟨link, _, hget⟩
  · obtain ⟨_, _, hbind⟩ := Option.bind_eq_some_iff.1 hplace
    obtain ⟨lists, hlists, hlookup⟩ := Option.bind_eq_some_iff.1 hbind
    rw [hlists, EnumSheet.sheet_of_lookup? hlookup]
    exact .inl List.mem_cons_self
  · rcases Registry.get?_of_get?_publish (o.nodup_home htable) hget with hmid | ⟨_, hown⟩
    · rcases hbefore.get?_final hfields hmid with hempty | ⟨other, hother, _, hlookup⟩
      · cases hempty
      · rw [TableLayout.sheet_of_lookup? hlookup]
        exact .inr (.inl (List.mem_map_of_mem hother))
    · rw [TableLayout.sheet_of_lookup? hown, ← hs.layout_eq]
      exact .inr (.inr List.mem_cons_self)

theorem sheetNames_perm (h : t.CompiledFrom p o entries r) :
    (t.sheets.map (·.layout.sheet)).Perm (p.tables.map (·.sheetName)) := by
  have hperm := h.layouts_perm.map (·.sheet)
  rwa [List.map_map, List.map_map] at hperm

theorem name_of_enumSheet (h : t.CompiledFrom p o entries r) {s : EnumSheet} (hs : t.enumSheet = some s) :
    s.name = o.enumSheet := by
  rw [h.lists_eq, listSheet?] at hs
  obtain ⟨_, heq⟩ := Option.ite_none_left_eq_some.1 hs
  cases heq
  rfl

theorem sheetNames_nodup (h : t.CompiledFrom p o entries r) :
    (((t.enumSheet.map (·.name)).toList ++ t.sheets.map (·.layout.sheet)).map Text.lowercase).Nodup := by
  have hperm := h.sheetNames_perm.map Text.lowercase
  have hnamed := h.resolved.named
  have hsheets : ((p.tables.map (·.sheetName)).map Text.lowercase).Nodup := by
    rw [List.map_map]
    exact hnamed.sheets_nodup
  rw [List.map_append]
  cases hlists : t.enumSheet with
  | none => exact hperm.nodup_iff.2 hsheets
  | some s =>
    rw [Option.map_some, Option.toList_some, h.name_of_enumSheet hlists, List.map_singleton, List.singleton_append,
      List.nodup_cons, hperm.mem_iff, hperm.nodup_iff]
    refine ⟨fun hmem => ?_, hsheets⟩
    obtain ⟨name, hname, heq⟩ := List.mem_map.1 hmem
    obtain ⟨table, htable, rfl⟩ := List.mem_map.1 hname
    exact hnamed.sheets_new table htable (heq ▸ List.mem_cons_self)

end Template.CompiledFrom

/-- The calls of a build: sheets come before what is about them or refers to them. -/
structure WellDeclared (p : Package) (o : Options) (t : Template) (calls : List Call) : Prop where
  /-- No sheet is declared twice, nor two whose names differ in case only. -/
  distinct : ((declaredBy calls).map Text.lowercase).Nodup
  ordered : Ordered [] calls
  hidden : ∀ before call after, calls = before ++ call :: after → call.action = .declare true →
    before = [] ∧ call.sheet = o.enumSheet
  lists_first : t.enumSheet.isSome → calls.head? = some ⟨o.enumSheet, .declare true⟩
  tables : ((calls.filter (·.shows)).map (·.sheet)).Perm (p.tables.map (·.sheetName))

theorem wellDeclared_of_build [Libraries] {p : Package} {o : Options} {t : Template} {r : Recorder}
    (h : build p o Recorder.record {} = .ok t r) : WellDeclared p o t r.toList := by
  obtain ⟨hcompile, hcalls⟩ := toList_of_build h
  obtain ⟨entries, resolution, htemplate⟩ := compile_eq_ok hcompile
  rw [hcalls]
  refine ⟨t.declaredBy_calls ▸ htemplate.sheetNames_nodup, ?_, fun before call after heq hhidden => ?_, fun hlists => ?_, ?_⟩
  · refine t.ordered_calls fun before s after hsheets l hl => ?_
    exact htemplate.sheet_of_reads hsheets hl
  · obtain ⟨hbefore, s, hs, hname⟩ := Template.hidden_first heq hhidden
    exact ⟨hbefore, hname.trans (htemplate.name_of_enumSheet hs)⟩
  · obtain ⟨s, hs⟩ := Option.isSome_iff_exists.1 hlists
    rw [Template.calls, hs, ← htemplate.name_of_enumSheet hs]
    rfl
  · rw [t.shows_calls]
    exact htemplate.sheetNames_perm

attribute [local instance] Libraries.plain in
theorem partsList_wellDeclared : ∃ t r, build partsList suggesting Recorder.record {} = .ok t r ∧
    WellDeclared partsList suggesting t r.toList := by
  obtain ⟨t, ht, _⟩ := compile_partsList
  have hbuild := build_record_eq_ok.2 ⟨ht, rfl⟩
  exact ⟨t, _, hbuild, wellDeclared_of_build hbuild⟩

end SheetTemplate
