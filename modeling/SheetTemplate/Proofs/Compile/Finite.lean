import SheetTemplate.Proofs.Column.Agreement
import SheetTemplate.Proofs.Compile.Composed
import SheetTemplate.Proofs.Emission.Lists
import SheetTemplate.Proofs.Formula.Finite
import SheetTemplate.Proofs.Resolution.Faults

/-!
# Finite numbers in templates

Numbers come into a template as bounds and as values of lists. A bound that is not finite is refused, but nobody looks
at the values of a list, and a field of numbers takes each of them. So all numbers of a template are finite exactly if
all values of its lists are, and the bounds are in any case.
-/

namespace SheetTemplate

/-! ### What a template holds -/

def Directive.Finite : Directive → Prop
  | .range low high _ => (∀ x, low = some x → x.isFinite = true) ∧ ∀ x, high = some x → x.isFinite = true
  | .list _ (.literal values) => ∀ v ∈ values, v.isFinite = true
  | _ => True

def Bounds.Finite : Bounds → Prop
  | .between low high => low.isFinite = true ∧ high.isFinite = true
  | .atLeast low => low.isFinite = true
  | .atMost high => high.isFinite = true

def RuleKind.Finite : RuleKind → Prop
  | .number _ bounds => bounds.Finite
  | .list (.literal values) => ∀ v ∈ values, v.isFinite = true
  | .list (.range _) => True
  | .custom formula => formula.Finite

structure Column.Finite (c : Column) : Prop where
  checks : ∀ check ∈ c.checks, check.directive.Finite
  rule : ∀ rule, c.rule = some rule → rule.kind.Finite
  companion : ∀ formula, c.companion = some formula → formula.Finite
  highlight : ∀ formula, c.highlight = some formula → formula.Finite

/-- The numbers of a template are finite, on the sheet of lists and in its columns. -/
structure Template.Finite (t : Template) : Prop where
  lists : ∀ s, t.enumSheet = some s → ∀ values ∈ s.columns, ∀ v ∈ values, v.isFinite = true
  columns : ∀ s ∈ t.sheets, ∀ c ∈ s.columns, c.Finite

def Package.ListsFinite (p : Package) : Prop :=
  ∀ t ∈ p.tables, ∀ f ∈ t.fields, ∀ values, f.constraints.enum = some values → ∀ v ∈ values, v.isFinite = true

/-! ### Directives -/

theorem TableLayout.refers_contextOf (l : TableLayout) (c : ColumnLayout) : (l.contextOf c).Refers where
  cell := c.firstCell.hasDigit_text.not_mem_nonFinite
  column := c.data.fixed.hasDigit_text.not_mem_nonFinite
  row := by
    change l.rowRange ∉ _
    unfold rowRange
    split
    · exact (CellRange.hasDigit_text _).not_mem_nonFinite
    · decide

namespace Directive

variable {p : Profile} {sheet : String} {ctx : CellContext} {polarity : Polarity} {d : Directive}

private theorem finite_inLiterals (hctx : ctx.Refers) {values : List Value} (h : ∀ v ∈ values, v.isFinite = true) :
    ((Check.inLiterals ctx values).form polarity).Finite := by
  have hcompare : ∀ comparison, ∀ f ∈ values.map fun v => Formula.compare comparison ctx.value v.formula, f.Finite :=
    fun comparison => List.forall_mem_map.2 fun v hv =>
      Formula.finite_compare.2 ⟨Formula.finite_atom.2 hctx.cell, v.finite_formula_iff.2 (h v hv)⟩
  cases polarity with
  | valid => exact Formula.finite_merge (hcompare .equal)
  | invalid => exact Formula.finite_merge (hcompare .notEqual)

theorem finite_of_mem_forms (hctx : ctx.Refers) (hd : d.Finite) {f : Formula} (hf : f ∈ d.forms p sheet ctx polarity) :
    f.Finite := by
  have hcell := hctx.cell
  have hcolumn := hctx.column
  have hrow := hctx.row
  cases d with
  | type ofField =>
    obtain ⟨c, hc, rfl⟩ := List.mem_map.1 hf
    cases ofField with
    | string => exact absurd hc List.not_mem_nil
    | integer | number | boolean =>
      rw [List.mem_singleton.1 hc]
      cases polarity <;> simp [Check.form, CellContext.value, hcell]
  | required =>
    rw [List.mem_singleton.1 hf]
    cases polarity <;> simp [Check.required, Check.form, CellContext.value, hcell, hrow]
  | unique caseSensitive =>
    rw [List.mem_singleton.1 hf]
    cases caseSensitive <;> cases polarity <;>
      simp [Check.unique, Check.comparison, Check.form, CellContext.value, hcell, hcolumn]
  | range low high whole =>
    obtain ⟨c, hc, rfl⟩ := List.mem_map.1 hf
    have hbound : ∀ x : Binary64, x.isFinite = true → (Check.number x).Finite :=
      fun x => (Value.number x).finite_formula_iff.2
    rcases List.mem_append.1 hc with hc | hc
    · obtain ⟨x, hx, rfl⟩ := Option.map_eq_some_iff.1 (Option.mem_toList.1 hc)
      cases polarity <;>
        simp [Check.minimum, Check.comparison, Check.form, CellContext.value, hcell, hbound x (hd.1 x hx)]
    · obtain ⟨x, hx, rfl⟩ := Option.map_eq_some_iff.1 (Option.mem_toList.1 hc)
      cases polarity <;>
        simp [Check.maximum, Check.comparison, Check.form, CellContext.value, hcell, hbound x (hd.2 x hx)]
  | length low high =>
    obtain ⟨c, hc, rfl⟩ := List.mem_map.1 hf
    refine of_mem_bounds (P := fun c => (c.form polarity).Finite) (fun _ => ?_) (fun _ => ?_) hc
    · cases polarity <;> simp [Check.minLength, Check.comparison, Check.form, CellContext.value, hcell]
    · cases polarity <;> simp [Check.maxLength, Check.comparison, Check.form, CellContext.value, hcell]
  | pattern regex =>
    rw [List.mem_singleton.1 hf]
    cases polarity <;> simp [Check.pattern, Check.form, CellContext.value, hcell]
  | list origin source =>
    cases source with
    | literal values =>
      rw [List.mem_singleton.1 hf]
      exact finite_inLiterals hctx hd
    | range lookup =>
      have hlookup := lookup.finite_referenceFrom sheet p.indirect
      rw [List.mem_singleton.1 hf]
      cases polarity <;> simp [Check.inRange, Check.form, CellContext.value, hcell, hlookup]

end Directive

theorem RuleKind.States.finite {kind : RuleKind} {d : Directive} (h : kind.States d) (hd : d.Finite) : kind.Finite := by
  cases h with
  | list origin source =>
    cases source with
    | literal values => exact hd
    | range lookup => trivial
  | @number low high bounds whole hof =>
    obtain ⟨hlow, hhigh⟩ := hd
    cases low <;> cases high <;> cases hof
    · exact hhigh _ rfl
    · exact hlow _ rfl
    · exact ⟨hlow _ rfl, hhigh _ rfl⟩

/-! ### Columns -/

namespace Composition

variable {o : Options} {sheet : String} {ctx : CellContext} {f : Field} {l : ColumnLayout} {parts : List Part}

theorem exists_part_of_mem_rest {primary : Option Nat} {c : Check} (h : c ∈ rest primary parts) :
    ∃ part ∈ parts, c ∈ part.checks := by
  obtain ⟨⟨part, i⟩, hmem, hc⟩ := List.mem_flatMap.1 h
  exact ⟨part, List.mem_of_getElem? (List.mk_mem_zipIdx_iff_getElem?.1 (List.mem_filter.1 hmem).1), hc⟩

/-- All that is said of a column is said by its checks, so a column has no numbers but theirs. -/
theorem finite_column (hctx : ctx.Refers) (hparts : ∀ part ∈ parts, part.Faithful o sheet ctx)
    (hchecks : ∀ check ∈ (column o ctx f l parts).checks, check.directive.Finite) : (column o ctx f l parts).Finite := by
  have hforms : ∀ polarity, ∀ part ∈ parts, ∀ c ∈ part.checks, (c.form polarity).Finite := by
    intro polarity part hpart c hc
    have hform : c.form polarity ∈ part.directive.forms o.profile sheet ctx polarity := by
      rw [← (hparts part hpart).forms_eq]
      exact List.mem_map_of_mem hc
    exact Directive.finite_of_mem_forms hctx ((forall_check_iff Directive.Finite).1 hchecks part hpart) hform
  have hjoint : ∀ polarity checks g, (∀ c ∈ checks, ∃ part ∈ parts, c ∈ part.checks) →
      Check.conditions? polarity ctx.cell checks = some g → g.Finite := by
    intro polarity checks g hsub hg
    refine Check.finite_conditions? hctx.cell (fun c hc => ?_) hg
    obtain ⟨part, hpart, hmem⟩ := hsub c hc
    exact hforms polarity part hpart c hmem
  refine ⟨hchecks, fun rule hrule => ?_, fun g hg => ?_, fun g hg => ?_⟩
  · rcases rule_cases (fun part hpart => (hparts part hpart).states) hrule with ⟨g, hkind, hg⟩ | ⟨check, hcheck, hstates⟩
    · rw [hkind]
      refine hjoint .valid _ g (fun c hc => ?_) hg
      obtain ⟨part, hpart, _, hmem⟩ := mem_enforced.1 ((mem_custom hparts).1 hc)
      exact ⟨part, hpart, hmem⟩
    · exact hstates.finite (hchecks check hcheck)
  · obtain ⟨_, hg⟩ := Option.ite_none_right_eq_some.1 hg
    exact hjoint .valid _ g (fun c hc => exists_part_of_mem_rest hc) hg
  · refine hjoint .invalid _ g (fun c hc => ?_) (conditions?_of_highlight hg)
    obtain ⟨part, hpart, _, hmem⟩ := mem_enforced.1 hc
    exact ⟨part, hpart, hmem⟩

end Composition

variable {p : Package} {o : Options} {r : Resolution} {t : Template} {table : Table} {f : Field} {place : ColumnLayout}
  {res : FieldResolution} {c : Column}

theorem Field.CallsFor.finite_range [Libraries] {profile : Profile} {registry : Registry} {lookup : Option Lookup} {links : List Link}
    {low high : Option Binary64} {whole : Bool} (hsound : f.Sound)
    (h : (f.supported profile).CallsFor registry lookup links (.range low high whole)) :
    (Directive.range low high whole).Finite := by
  cases h with
  | range =>
    refine ⟨fun x hx => hsound.minimum_finite x ?_, fun x hx => hsound.maximum_finite x ?_⟩
    · exact (Option.ite_none_right_eq_some.1 hx).2
    · exact (Option.ite_none_right_eq_some.1 hx).2

theorem Package.Composes.finite [Libraries] (h : resolve p o = .ok r) (hc : p.Composes o r table f place res c)
    (hlists : p.ListsFinite) : c.Finite := by
  obtain ⟨htable, hf⟩ := hc.places.mem h
  have hsound := (wellFormed_of_resolve h).fields_sound table htable f hf
  have hchecks : ∀ check ∈ c.checks, check.directive.Finite := by
    intro check hcheck
    have hcalls := hc.callsFor check hcheck
    generalize check.directive = d at hcalls
    cases d with
    | range low high whole => exact hcalls.finite_range hsound
    | list origin source =>
      cases source with
      | range lookup => trivial
      | literal values =>
        rcases hcalls.of_literal with rfl | ⟨hdeclared, _⟩
        · exact List.forall_mem_cons.2 ⟨rfl, List.forall_mem_singleton.2 rfl⟩
        · rw [Field.enum_supported] at hdeclared
          exact hlists table htable f hf values hdeclared
    | _ => trivial
  rw [hc.column_eq, composedColumn_eq] at hchecks ⊢
  exact Composition.finite_column (TableLayout.refers_contextOf _ _) faithful_composedParts hchecks

/-! ### Templates -/

theorem Package.ListsFinite.template [Libraries] (hlists : p.ListsFinite) (h : compile p o = .ok t) : t.Finite := by
  obtain ⟨r, hresolve, htemplate⟩ := compiledFrom_of_compile h
  refine ⟨fun s hs values hvalues => ?_, fun s hs c hc => ?_⟩
  · rw [htemplate.columns_eq hs] at hvalues
    obtain ⟨e, he, rfl⟩ := List.mem_map.1 hvalues
    obtain ⟨table, htable, f, hf, _, hdeclared, _⟩ := Package.exists_of_mem_entries he
    exact hlists table htable f hf e.2 hdeclared
  · obtain ⟨_, _, _, _, _, _, hcomposes⟩ := exists_composes hresolve h hs hc
    exact hcomposes.finite hresolve hlists

/-- A list that is shared has the texts of all lists it stands for, and these tell whether its values are finite. -/
theorem Template.Finite.package [Libraries] (hfinite : t.Finite) (h : compile p o = .ok t) : p.ListsFinite := by
  obtain ⟨r, _, htemplate⟩ := compiledFrom_of_compile h
  intro table htable f hf values hvalues
  obtain ⟨s, hs, c, hc, source, _, hsources, ⟨_, rfl⟩ | ⟨_, i, e, hi, hkey, rfl⟩⟩ := htemplate.exists_source htable hf hvalues
  · have hmem : ListSource.literal values ∈ c.sources .enum := hsources ▸ List.mem_cons_self
    obtain ⟨check, hcheck, hdirective⟩ := Column.exists_check_of_mem_sources hmem
    have hdirectiveFinite := (hfinite.columns s hs c hc).checks check hcheck
    rw [hdirective] at hdirectiveFinite
    exact hdirectiveFinite
  · have hstored := hfinite.lists _ (htemplate.enumSheet_eq hi) e.2 (List.mem_map_of_mem (List.mem_of_getElem? hi))
    intro v hv
    have hmem : v.formula.render ∈ e.2.map (·.formula.render) :=
      EnumPool.Entry.formulas_eq hkey ▸ List.mem_map_of_mem hv
    obtain ⟨w, hw, hsame⟩ := List.mem_map.1 hmem
    rw [← Bool.not_eq_false, ← v.render_mem_nonFinite_iff, ← hsame, w.render_mem_nonFinite_iff, Bool.not_eq_false]
    exact hstored w hw

/-- The bounds of a template are finite, and all its numbers are exactly if the values of all declared lists are. Other
values are declared by fields of numbers only. -/
theorem finite_iff_lists [Libraries] (h : compile p o = .ok t) :
    (∀ s ∈ t.sheets, ∀ c ∈ s.columns,
      (∀ check ∈ c.checks, check.directive.isRange = true → check.directive.Finite) ∧
      ∀ rule whole bounds, c.rule = some rule → rule.kind = .number whole bounds → bounds.Finite) ∧
    (t.Finite ↔ p.ListsFinite) ∧
    ∀ table ∈ p.tables, ∀ f ∈ table.fields, f.type ≠ .number → ∀ values, f.constraints.enum = some values →
      ∀ v ∈ values, v.isFinite = true := by
  obtain ⟨r, hresolve⟩ := exists_resolve_of_compile h
  have hwf := wellFormed_of_resolve hresolve
  refine ⟨fun s hs c hc => ?_, ⟨fun hfinite => hfinite.package h, fun hlists => hlists.template h⟩,
    fun table htable f hf htype values hvalues v hv => ?_⟩
  · obtain ⟨table, f, _, _, _, _, hcomposes⟩ := exists_composes hresolve h hs hc
    obtain ⟨htable, hf⟩ := hcomposes.places.mem hresolve
    have hsound := hwf.fields_sound table htable f hf
    have hranges : ∀ check ∈ c.checks, check.directive.isRange = true → check.directive.Finite := by
      intro check hcheck hrange
      have hcalls := hcomposes.callsFor check hcheck
      cases hd : check.directive with
      | range low high whole =>
        rw [hd] at hcalls
        exact hcalls.finite_range hsound
      | _ =>
        rw [hd] at hrange
        cases hrange
    refine ⟨hranges, fun rule whole bounds hrule hkind => ?_⟩
    rcases hcomposes.rule_cases hrule with ⟨formula, hcustom⟩ | ⟨check, hcheck, hstates⟩
    · cases hcustom.symm.trans hkind
    · rw [hkind] at hstates
      have hfinite := hranges check hcheck (by generalize check.directive = d at hstates; cases hstates; rfl)
      exact hstates.finite hfinite
  · have htyped := (hwf.fields_sound table htable f hf).enum_typed values hvalues v hv
    cases v with
    | number x =>
      cases htypeEq : f.type with
      | number => exact absurd htypeEq htype
      | integer =>
        rw [htypeEq] at htyped
        cases x with
        | nan => cases htyped
        | infinite negative => cases htyped
        | finite negative units => rfl
      | boolean | string =>
        rw [htypeEq] at htyped
        cases htyped
    | boolean | integer | string => rfl

/-! ### Readings -/

/-- Readings of an instrument, which may be no number. -/
def readings : Package where
  tables := [{
    name := "readings"
    fields := [{ name := "value", type := .number, constraints := { enum := some [.number .nan] } }] }]

theorem readings_wellFormed [Libraries] : readings.WellFormed online := by
  refine Package.wellFormed_singleton (by decide) (by decide +kernel) (by decide +kernel) (by decide) (by decide) nofun
    (List.forall_mem_singleton.2 ?_) (by decide)
  constructor <;> simp [Value.hasType]

attribute [local instance] Libraries.plain in
/-- What is no number is in the template. -/
theorem readings_not_finite : ∃ t, compile readings online = .ok t ∧ ¬t.Finite := by
  obtain ⟨r, hr⟩ := exists_resolve_of_wellFormed readings_wellFormed
  obtain ⟨t, ht⟩ := exists_compile_of_googleSheets hr rfl rfl
  refine ⟨t, ht, fun hfinite => ?_⟩
  have hlists := (finite_iff_lists ht).2.1.1 hfinite
  cases hlists _ List.mem_cons_self _ List.mem_cons_self _ rfl _ List.mem_cons_self

end SheetTemplate
