import SheetTemplate.Proofs.Compile.Templates

/-!
# What templates report

Whatever the package and the options, a compiled column reports each check it enforces, unless it is muted.
The forms of a check are read against the column itself, so they are those that its rule and its highlight
are written with.
-/

namespace SheetTemplate

/-- The references against which the formulas of a column are written. -/
def Sheet.contextOf (s : Sheet) (c : Column) : CellContext where
  cell := c.range.first.text
  column := c.range.fixed.text
  row := s.layout.rowRange
  columns := s.layout.columns.length

/-- A compiled column reports all that it enforces exactly if it is not muted, and where nothing is highlighted
that is when its rule raises alerts. -/
theorem reports_iff_not_muted [Libraries] {p : Package} {o : Options} {t : Template} (h : compile p o = .ok t) {s : Sheet}
    (hs : s ∈ t.sheets) {c : Column} (hc : c ∈ s.columns) :
    ((∀ check ∈ c.checks, check.directive.isEnforced o = true →
        c.Reports o s.layout.sheet (s.contextOf c) check.directive) ↔ ¬Muted o c.checks) ∧
      (o.highlightInvalid = false → (∃ check ∈ c.checks, check.directive.isEnforced o = true) →
        ((∃ rule, c.rule = some rule ∧ rule.showError = true) ↔ ¬Muted o c.checks)) := by
  obtain ⟨entries, r, htemplate⟩ := compile_eq_ok h
  obtain ⟨table, _, f, _, hholds⟩ := htemplate.holds_of_mem hs hc
  obtain ⟨registry, place, res, _, _, _, hcompiled, _⟩ := hholds.compiled
  obtain ⟨f', parts, hcolumn, hparts⟩ := hcompiled.composed
  have hcontext : s.contextOf c = (o.home table).contextOf place := by
    rw [Sheet.contextOf, hcompiled.range_eq, hholds.layout_eq]
    rfl
  rw [hcontext, hholds.layout_eq, hcolumn]
  exact ⟨Composition.reports_iff hparts, Composition.alerts_iff hparts⟩

attribute [local instance] Libraries.plain in
/-- A part must have a parent, and no column says so. -/
theorem parent_not_reported : ∃ t s c, compile partsList suggesting = .ok t ∧ s ∈ t.sheets ∧ c ∈ s.columns ∧
    ¬(∀ check ∈ c.checks, check.directive.isEnforced suggesting = true →
      c.Reports suggesting s.layout.sheet (s.contextOf c) check.directive) ∧
    ¬∃ rule, c.rule = some rule ∧ rule.showError = true := by
  obtain ⟨t, ht, hdirectives⟩ := compile_partsList
  have hfirst := congrArg (·[0]?) hdirectives
  simp only [List.getElem?_map] at hfirst
  obtain ⟨s, hs, hcolumns⟩ := Option.map_eq_some_iff.1 hfirst
  have hsecond := congrArg (·[1]?) hcolumns
  simp only [List.getElem?_map] at hsecond
  obtain ⟨c, hc, hchecks⟩ := Option.map_eq_some_iff.1 hsecond
  have hrequired : .required ∈ c.checks.map (·.directive) := hchecks ▸ List.mem_cons_self
  have hreference : .list (.foreignKey ⟨"parts", "id"⟩) (.range ⟨"parts", 0, ⟨1, 1000⟩⟩) ∈ c.checks.map (·.directive) :=
    hchecks ▸ List.mem_cons_of_mem _ List.mem_cons_self
  have hrest : ∀ d ∈ c.checks.map (·.directive), d = .required ∨ d.reference?.isSome := by
    rw [hchecks]
    exact List.forall_mem_cons.2 ⟨.inl rfl, List.forall_mem_singleton.2 (.inr rfl)⟩
  obtain ⟨first, hfirst, hdirective⟩ := List.mem_map.1 hrequired
  obtain ⟨second, hsecond, hlink⟩ := List.mem_map.1 hreference
  have hmuted : Muted suggesting c.checks :=
    ⟨rfl, rfl, rfl, ⟨first, hfirst, hdirective⟩, ⟨second, hsecond, hlink ▸ rfl⟩, List.forall_mem_map.1 hrest⟩
  have hsheet := List.mem_of_getElem? hs
  have hcolumn := List.mem_of_getElem? hc
  obtain ⟨hreports, halerts⟩ := reports_iff_not_muted ht hsheet hcolumn
  exact ⟨t, s, c, ht, hsheet, hcolumn, fun h => hreports.1 h hmuted,
    fun h => (halerts rfl ⟨first, hfirst, hdirective ▸ rfl⟩).1 h hmuted⟩

end SheetTemplate
