import SheetTemplate.Proofs.Column.Agreement
import SheetTemplate.Proofs.Compile.Reports
import SheetTemplate.Proofs.Resolution.WellFormed

/-!
# Rules and highlights agree

Whoever fills in a template is told twice that a value is not valid, by a rule and by a highlight. Where a rule is
custom the two are formulas, and a cell is highlighted exactly if its rule rejects it, but for a missing value in a row
that is blank.
-/

namespace SheetTemplate

theorem literal_ne_nil [Libraries] {p : Package} {o : Options} {t : Template} (h : compile p o = .ok t) {s : Sheet}
    (hs : s ∈ t.sheets) {c : Column} (hc : c ∈ s.columns) : ∀ check ∈ c.checks, ∀ origin values,
      check.directive = .list origin (.literal values) → values ≠ [] := by
  obtain ⟨r, hresolve, _⟩ := bind_eq_ok.1 h
  obtain ⟨entries, r', htemplate⟩ := compile_eq_ok h
  obtain ⟨table, htable, f, hf, hholds⟩ := htemplate.holds_of_mem hs hc
  obtain ⟨_, _, _, _, _, _, hcompiled, _⟩ := hholds.compiled
  have hsound := (wellFormed_of_resolve hresolve).fields_sound table htable f hf
  intro check hcheck origin values hdirective
  rcases hcompiled.literals check hcheck origin values hdirective with rfl | hdeclared
  · exact List.cons_ne_nil _ _
  · rintro rfl
    exact hsound.enum_nonempty hdeclared

/-- A custom rule and a highlight say the opposite of a cell, except of a blank cell in a blank row where a value is
required, of which neither is true. What they say is read off their texts, and follows from what the forms of each
enforced check say. Any other checks that are joined in both forms agree in the same way. -/
theorem rule_highlight_agree [Libraries] :
    (∀ (p : Package) (o : Options) (t : Template), compile p o = .ok t → ∀ s ∈ t.sheets, ∀ c ∈ s.columns,
      ∀ (rule : Rule) (valid invalid : Formula), c.rule = some rule → rule.kind = .custom valid →
        c.highlight = some invalid → ∀ (truth : Truth) (blankRow : Bool),
        (∀ check ∈ c.checks, check.directive.isEnforced o = true →
          check.directive.Opposed o.profile s.layout.sheet (s.contextOf c) truth blankRow) →
        Complementary ((∃ check ∈ c.checks, check.directive = .required) ∧
            truth (blankTest c.range.first.text) = true ∧ blankRow = true)
          (truth.meaning c.range.first.text valid) (truth.meaning c.range.first.text invalid)) ∧
    ∀ (truth : Truth) (cell : String) (blankRow : Bool) (checks : List Check), checks ≠ [] →
      (∀ c ∈ checks, c.Opposed truth cell blankRow) →
      ∃ valid invalid, Check.conditions? .valid cell checks = some valid ∧
        Check.conditions? .invalid cell checks = some invalid ∧
        Complementary ((∃ c ∈ checks, c.ignoresBlank = false) ∧ truth (blankTest cell) = true ∧ blankRow = true)
          (valid.holds truth cell) (invalid.holds truth cell) ∧
        ((Formula.atom cell).Legible → (∀ c ∈ checks, ∀ polarity, (c.form polarity).Legible) →
          truth.meaning cell valid = valid.holds truth cell ∧ truth.meaning cell invalid = invalid.holds truth cell) := by
  constructor
  · intro p o t h s hs c hc rule valid invalid hrule hkind hhighlight truth blankRow hopposed
    have hliteral := literal_ne_nil h hs hc
    obtain ⟨entries, r, htemplate⟩ := compile_eq_ok h
    obtain ⟨table, _, f, _, hholds⟩ := htemplate.holds_of_mem hs hc
    obtain ⟨registry, place, res, _, _, _, hcompiled, _⟩ := hholds.compiled
    obtain ⟨f', parts, hcolumn, hparts⟩ := hcompiled.composed
    have hcontext : s.contextOf c = (o.home table).contextOf place := by
      rw [Sheet.contextOf, hcompiled.range_eq, hholds.layout_eq]
      rfl
    have hcell : c.range.first.text = ((o.home table).contextOf place).cell := congrArg CellContext.cell hcontext
    rw [hcontext, hholds.layout_eq] at hopposed
    rw [hcell]
    rw [hcolumn] at hliteral hrule hhighlight hopposed ⊢
    exact Composition.complementary_column hparts (TableLayout.plainRefs_contextOf _ _) hliteral hrule hkind hhighlight
      hopposed
  · intro truth cell blankRow checks hne hopposed
    have hsome : ∀ polarity, ∃ f, Check.conditions? polarity cell checks = some f :=
      fun _ => Check.isSome_conditions? hne
    obtain ⟨valid, hvalid⟩ := hsome .valid
    obtain ⟨invalid, hinvalid⟩ := hsome .invalid
    refine ⟨valid, invalid, hvalid, hinvalid,
      Check.complementary_conditions? (fun _ => Iff.rfl) hvalid hinvalid hopposed, fun hcell hlegible => ?_⟩
    have hjoint : ∀ polarity f, Check.conditions? polarity cell checks = some f → f.Legible := fun polarity f =>
      Check.legible_conditions? hcell fun c hc => hlegible c hc polarity
    exact ⟨(hjoint .valid valid hvalid).meaning_eq_holds truth cell,
      (hjoint .invalid invalid hinvalid).meaning_eq_holds truth cell⟩

/-! ### A part without a parent -/

/-- Lists are not offered, so that they are checked by formulas. -/
def unoffered : Options where
  dropdowns := false

def parentContext : CellContext := ⟨"B2", "$B$2:$B$1001", "$A2:$C2", 3⟩

/-- A blank cell, which is then not found in a list either. -/
def noParent : Truth := fun text => text = "ISBLANK(B2)" || text = "ISNA(MATCH(B2, $A$2:$A$1001, 0))"

attribute [local instance] Libraries.plain in
theorem resolve_unoffered : resolve partsList unoffered =
    .ok ⟨[0], [[⟨[], none⟩, ⟨[⟨"parts", "id"⟩], none⟩, ⟨[], none⟩]], none, []⟩ := by
  have hrows : unoffered.checkRows = .ok () := rfl
  have hnamed : WellNamed unoffered [] [Text.lowercase unoffered.enumSheet] partsList.tables := by
    constructor <;> decide +kernel
  have htables : checkTables unoffered partsList = .ok () := checkTables_eq_ok.2 ⟨by decide +kernel, hnamed⟩
  have hkeys : partsList.tables.mapM (resolveTable partsList) = .ok [[⟨0, [("parent", ⟨"parts", "id"⟩)]⟩]] := rfl
  rw [resolve, hrows, htables, hkeys]
  rfl

theorem RuleKind.custom_of_name {kind : RuleKind} (h : kind.name = "custom") : ∃ f, kind = .custom f := by
  cases kind with
  | number whole bounds => cases whole <;> simp [name] at h
  | list source => simp [name] at h
  | custom f => exact ⟨f, rfl⟩

theorem exists_column_of_decide [Libraries] {p : Package} {o : Options} {P : Sheet → Column → Prop} [∀ s c, Decidable (P s c)]
    {i j : Nat} (h : ((compile p o).toOption.bind fun t => t.sheets[i]?.bind fun s =>
      s.columns[j]?.map fun c => decide (P s c)) = some true) :
    ∃ t s c, compile p o = .ok t ∧ s ∈ t.sheets ∧ c ∈ s.columns ∧ P s c := by
  obtain ⟨t, ht, h⟩ := Option.bind_eq_some_iff.1 h
  obtain ⟨s, hs, h⟩ := Option.bind_eq_some_iff.1 h
  obtain ⟨c, hc, hholds⟩ := Option.map_eq_some_iff.1 h
  exact ⟨t, s, c, toOption_eq_some.1 ht, List.mem_of_getElem? hs, List.mem_of_getElem? hc, of_decide_eq_true hholds⟩

private def IsParents (s : Sheet) (c : Column) : Prop :=
  c.rule.map (·.kind.name) = some "custom" ∧ c.highlight.isSome = true ∧
    c.checks.map (·.directive) =
      [.required, .list (.foreignKey ⟨"parts", "id"⟩) (.range ⟨"parts", 0, ⟨1, 1000⟩⟩)] ∧
    s.layout.sheet = "parts" ∧ (s.contextOf c).cell = "B2" ∧ (s.contextOf c).column = "$B$2:$B$1001" ∧
    (s.contextOf c).row = "$A2:$C2" ∧ (s.contextOf c).columns = 3

private instance (s : Sheet) (c : Column) : Decidable (IsParents s c) := by unfold IsParents; infer_instance

attribute [local instance] Libraries.plain in
private theorem exists_parents : ∃ t s c, compile partsList unoffered = .ok t ∧ s ∈ t.sheets ∧ c ∈ s.columns ∧
    IsParents s c := by
  have hsecond : ((compile partsList unoffered).toOption.bind fun t => t.sheets[0]?.bind fun s =>
      s.columns[1]?.map fun c => decide (IsParents s c)) = some true := by
    rw [compile, resolve_unoffered]
    decide +kernel
  exact exists_column_of_decide hsecond

private theorem plainRefs_parentContext : parentContext.PlainRefs := by constructor <;> decide

private theorem opposed_required : Directive.required.Opposed unoffered.profile "parts" parentContext noParent true := by
  have hmeaning : ∀ polarity, noParent.meaning "B2" ((Check.required parentContext).form polarity) =
      ((Check.required parentContext).form polarity).holds noParent "B2" :=
    fun polarity => (plainRefs_parentContext.legible_required polarity).meaning_eq_holds noParent "B2"
  exact ⟨(hmeaning .valid).trans (by decide +kernel), (hmeaning .invalid).trans (by decide +kernel)⟩

private theorem opposed_reference :
    (Directive.list (.foreignKey ⟨"parts", "id"⟩) (.range ⟨"parts", 0, ⟨1, 1000⟩⟩)).Opposed unoffered.profile "parts"
      parentContext noParent true := by
  have hids := Lookup.legible_referenceFrom ⟨"parts", 0, ⟨1, 1000⟩⟩ "parts" unoffered.profile.indirect
  have hmeaning := fun polarity =>
    (plainRefs_parentContext.legible_inRange polarity hids "").meaning_eq_holds noParent "B2"
  refine .cons ?_ .nil
  calc noParent.meaning "B2" _
    _ = _ := hmeaning .invalid
    _ = !_ := by decide +kernel
    _ = !noParent.meaning "B2" _ := congrArg (!·) (hmeaning .valid).symm

def parentChecks : List Check :=
  [.required parentContext, .inRange parentContext (.atom "$A$2:$A$1001") "in parts.id"]

private theorem opposed_parentChecks : ∀ c ∈ parentChecks, c.Opposed noParent "B2" true := by
  refine List.forall_mem_cons.2 ⟨?_, List.forall_mem_singleton.2 ?_⟩
  · rw [Check.Opposed, if_neg (by decide)]
    exact ⟨by decide +kernel, by decide +kernel⟩
  · rw [Check.Opposed, if_pos (by decide)]
    decide +kernel

attribute [local instance] Libraries.plain in
/-- Of a part without a parent, and of what is checked of it, neither is true. -/
theorem parent_excused : (∃ t s c rule valid invalid, compile partsList unoffered = .ok t ∧ s ∈ t.sheets ∧
      c ∈ s.columns ∧ c.rule = some rule ∧ rule.kind = .custom valid ∧ c.highlight = some invalid ∧
      noParent.meaning "B2" valid = false ∧ noParent.meaning "B2" invalid = false) ∧
    ∃ valid invalid, Check.conditions? .valid "B2" parentChecks = some valid ∧
      Check.conditions? .invalid "B2" parentChecks = some invalid ∧
      valid.holds noParent "B2" = false ∧ invalid.holds noParent "B2" = false := by
  constructor
  · obtain ⟨t, s, c, ht, hs, hc, hcustom, hhighlight, hdirectives, hsheet, hcell, hcolumn, hrow, hcolumns⟩ := exists_parents
    have hcontext : s.contextOf c = parentContext := CellContext.mk.injEq .. ▸ ⟨hcell, hcolumn, hrow, hcolumns⟩
    have hfirst : c.range.first.text = "B2" := hcell
    obtain ⟨invalid, hinvalid⟩ := Option.isSome_iff_exists.1 hhighlight
    obtain ⟨rule, hrule, hname⟩ := Option.map_eq_some_iff.1 hcustom
    obtain ⟨valid, hkind⟩ := RuleKind.custom_of_name hname
    have hopposed : ∀ d ∈ c.checks.map (·.directive), d.isEnforced unoffered = true →
        d.Opposed unoffered.profile s.layout.sheet (s.contextOf c) noParent true := by
      rw [hdirectives, hsheet, hcontext]
      exact List.forall_mem_cons.2 ⟨fun _ => opposed_required, List.forall_mem_singleton.2 fun _ => opposed_reference⟩
    have hrequired : .required ∈ c.checks.map (·.directive) := hdirectives ▸ List.mem_cons_self
    obtain ⟨check, hcheck, hrequired⟩ := List.mem_map.1 hrequired
    have hagree := rule_highlight_agree.1 partsList unoffered t ht s hs c hc rule valid invalid hrule hkind hinvalid
      noParent true (List.forall_mem_map.1 hopposed)
    rw [hfirst] at hagree
    obtain ⟨hvalid, hhighlighted⟩ := hagree.neither ⟨⟨check, hcheck, hrequired⟩, by decide, rfl⟩
    exact ⟨t, s, c, rule, valid, invalid, ht, hs, hc, hrule, hkind, hinvalid, hvalid, hhighlighted⟩
  · obtain ⟨valid, invalid, hvalid, hinvalid, hagree, _⟩ :=
      rule_highlight_agree.2 noParent "B2" true parentChecks (List.cons_ne_nil _ _) opposed_parentChecks
    obtain ⟨hvalidFalse, hinvalidFalse⟩ := hagree.neither ⟨⟨_, List.mem_cons_self, rfl⟩, by decide, rfl⟩
    exact ⟨valid, invalid, hvalid, hinvalid, hvalidFalse, hinvalidFalse⟩

end SheetTemplate
