import SheetTemplate.Proofs.Column.Reported
import SheetTemplate.Proofs.Formula.Complement

/-!
# What rule and highlight say

A custom rule and a highlight are joined separately, of the same checks. So where the forms of each check are opposed
for a cell, rule and highlight are, and as their texts can be taken apart this is so for what the texts say.
-/

namespace SheetTemplate

/-! ### Plain references -/

theorem TableLayout.plain_rowRange (l : TableLayout) : Plain l.rowRange := by
  unfold rowRange
  split
  · exact CellRange.plain_text _
  · decide

theorem TableLayout.plainRefs_contextOf (l : TableLayout) (c : ColumnLayout) : (l.contextOf c).PlainRefs where
  cell := c.firstCell.plain_text
  column := c.data.fixed.plain_text
  row := l.plain_rowRange

/-! ### Directives -/

namespace Directive

/-- What the two forms of a directive say of a cell is opposed. A list is known by the comparisons with its values;
a requirement is met where the cell is not blank, and not met where it is, in a row that is not blank. -/
def Opposed (p : Profile) (sheet : String) (ctx : CellContext) (truth : Truth) (blankRow : Bool) : Directive → Prop
  | .required =>
    truth.meaning ctx.cell (Check.required ctx).valid = !truth (blankTest ctx.cell) ∧
      truth.meaning ctx.cell (Check.required ctx).invalid = (truth (blankTest ctx.cell) && !blankRow)
  | .list _ (.literal values) => ∀ v ∈ values,
    truth.meaning ctx.cell (.compare .notEqual ctx.value v.formula) =
      !truth.meaning ctx.cell (.compare .equal ctx.value v.formula)
  | d => List.Forall₂ (fun valid invalid => truth.meaning ctx.cell invalid = !truth.meaning ctx.cell valid)
    (d.forms p sheet ctx .valid) (d.forms p sheet ctx .invalid)

variable {p : Profile} {sheet : String} {ctx : CellContext} {truth : Truth} {blankRow : Bool} {d : Directive}

theorem legible_of_mem_forms (hplain : ctx.PlainRefs) (polarity : Polarity) {f : Formula}
    (hf : f ∈ d.forms p sheet ctx polarity) : f.Legible := by
  cases d with
  | type ofField =>
    obtain ⟨c, hc, rfl⟩ := List.mem_map.1 hf
    exact hplain.legible_typeTest polarity (Option.mem_toList.1 hc)
  | required =>
    rw [List.mem_singleton.1 hf]
    exact hplain.legible_required polarity
  | unique caseSensitive =>
    rw [List.mem_singleton.1 hf]
    exact hplain.legible_unique polarity caseSensitive
  | range low high whole =>
    obtain ⟨c, hc, rfl⟩ := List.mem_map.1 hf
    exact of_mem_bounds (P := fun c => (c.form polarity).Legible) (hplain.legible_minimum polarity)
      (hplain.legible_maximum polarity) hc
  | length low high =>
    obtain ⟨c, hc, rfl⟩ := List.mem_map.1 hf
    exact of_mem_bounds (P := fun c => (c.form polarity).Legible) (hplain.legible_minLength polarity)
      (hplain.legible_maxLength polarity) hc
  | pattern regex =>
    rw [List.mem_singleton.1 hf]
    exact hplain.legible_pattern polarity regex
  | list origin source =>
    cases source with
    | literal values =>
      rw [List.mem_singleton.1 hf]
      exact hplain.legible_inLiterals polarity values
    | range lookup =>
      rw [List.mem_singleton.1 hf]
      exact hplain.legible_inRange polarity (lookup.legible_referenceFrom sheet p.indirect) ""

private theorem forall₂_holds {cell : String} {fs gs : List Formula} (hfs : ∀ f ∈ fs, f.Legible)
    (hgs : ∀ g ∈ gs, g.Legible)
    (h : List.Forall₂ (fun valid invalid => truth.meaning cell invalid = !truth.meaning cell valid) fs gs) :
    List.Forall₂ (fun valid invalid => invalid.holds truth cell = !valid.holds truth cell) fs gs := by
  induction h with
  | nil => exact .nil
  | cons hmeaning _ ih =>
    obtain ⟨hf, hfs⟩ := List.forall_mem_cons.1 hfs
    obtain ⟨hg, hgs⟩ := List.forall_mem_cons.1 hgs
    rw [hf.meaning_eq_holds, hg.meaning_eq_holds] at hmeaning
    exact .cons hmeaning (ih hfs hgs)

private theorem forms_of_meaning (hplain : ctx.PlainRefs)
    (h : List.Forall₂ (fun valid invalid => truth.meaning ctx.cell invalid = !truth.meaning ctx.cell valid)
      (d.forms p sheet ctx .valid) (d.forms p sheet ctx .invalid)) :
    List.Forall₂ (fun valid invalid => invalid.holds truth ctx.cell = !valid.holds truth ctx.cell)
      (d.forms p sheet ctx .valid) (d.forms p sheet ctx .invalid) :=
  forall₂_holds (fun _ => legible_of_mem_forms hplain .valid) (fun _ => legible_of_mem_forms hplain .invalid) h

/-- A list says the opposite of itself only if it has values. -/
theorem Opposed.forms (h : d.Opposed p sheet ctx truth blankRow) (hplain : ctx.PlainRefs) (hrequired : d ≠ .required)
    (hliteral : ∀ origin values, d = .list origin (.literal values) → values ≠ []) :
    List.Forall₂ (fun valid invalid => invalid.holds truth ctx.cell = !valid.holds truth ctx.cell)
      (d.forms p sheet ctx .valid) (d.forms p sheet ctx .invalid) := by
  cases d with
  | required => exact absurd rfl hrequired
  | list origin source =>
    cases source with
    | range lookup => exact forms_of_meaning hplain h
    | literal values =>
      -- Single comparisons are opposed, so the alternatives of one form are the negated conjuncts of the other.
      refine .cons (Check.opposed_inLiterals (hliteral origin values rfl) fun v hv => ?_) .nil
      have hlegible : ∀ comparison, (Formula.compare comparison ctx.value v.formula).Legible := fun comparison =>
        .compare comparison hplain.legible_value v.legible_formula hplain.cell.isTest
      rw [← (hlegible .equal).meaning_eq_holds, ← (hlegible .notEqual).meaning_eq_holds]
      exact h v hv
  | type | unique | range | length | pattern => exact forms_of_meaning hplain h

end Directive

/-! ### Parts -/

namespace Part.Faithful

variable {o : Options} {sheet : String} {ctx : CellContext} {part : Part} {truth : Truth} {blankRow : Bool} {c : Check}

theorem legible (h : part.Faithful o sheet ctx) (hplain : ctx.PlainRefs) (hc : c ∈ part.checks) (polarity : Polarity) :
    (c.form polarity).Legible :=
  Directive.legible_of_mem_forms hplain polarity (h.forms_eq polarity ▸ List.mem_map_of_mem hc)

theorem opposed (h : part.Faithful o sheet ctx) (hplain : ctx.PlainRefs)
    (hliteral : ∀ origin values, part.directive = .list origin (.literal values) → values ≠ [])
    (hopposed : part.directive.Opposed o.profile sheet ctx truth blankRow) (hc : c ∈ part.checks) :
    c.Opposed truth ctx.cell blankRow := by
  have hforms := h.forms_eq
  unfold Check.Opposed
  rw [h.ignoresBlank_eq c hc, Part.isRequired]
  -- What requires a value is met or not by the cell and its row, and the forms of other checks exclude each other.
  by_cases hrequired : part.directive = .required
  · have hform : ∀ polarity, c.form polarity = (Check.required ctx).form polarity := by
      intro polarity
      have hmem : c.form polarity ∈ part.checks.map (·.form polarity) := List.mem_map_of_mem hc
      rw [hforms, hrequired] at hmem
      exact List.mem_singleton.1 hmem
    have hvalid : c.valid = (Check.required ctx).valid := hform .valid
    have hinvalid : c.invalid = (Check.required ctx).invalid := hform .invalid
    rw [hrequired] at hopposed
    rw [if_neg (by simp [hrequired]), hvalid, hinvalid]
    have hmeaning : ∀ polarity, truth.meaning ctx.cell ((Check.required ctx).form polarity) =
        ((Check.required ctx).form polarity).holds truth ctx.cell :=
      fun polarity => (hplain.legible_required polarity).meaning_eq_holds truth ctx.cell
    exact ⟨(hmeaning .valid).symm.trans hopposed.1, (hmeaning .invalid).symm.trans hopposed.2⟩
  · have hpairs := hopposed.forms hplain hrequired hliteral
    rw [← hforms, ← hforms, List.forall₂_map_left_iff, List.forall₂_map_right_iff, List.forall₂_same] at hpairs
    rw [if_pos (by simp [hrequired])]
    exact hpairs c hc

end Part.Faithful

/-! ### Columns -/

namespace Composition

variable {o : Options} {sheet : String} {ctx : CellContext} {f : Field} {l : ColumnLayout} {parts : List Part}

theorem conditions?_of_highlight {g : Formula} (h : (column o ctx f l parts).highlight = some g) :
    Check.conditions? .invalid ctx.cell (enforced parts) = some g := by
  change (if o.highlightInvalid then _ else _) = some g at h
  exact (Option.ite_none_right_eq_some.1 h).2

variable (hparts : ∀ part ∈ parts, part.Faithful o sheet ctx)
include hparts

/-- A rule that is a list or a range is not custom, so a custom rule is joined of all checks. -/
theorem conditions?_of_custom {rule : Rule} {g : Formula} (hrule : (column o ctx f l parts).rule = some rule)
    (hkind : rule.kind = .custom g) : Check.conditions? .valid ctx.cell
      (rest none parts ++ (parts.filter (·.isRequired)).flatMap (·.checks)) = some g := by
  rcases rule_cases (fun part hpart => (hparts part hpart).states) hrule with ⟨other, hother, hg⟩ | ⟨_, _, hstates⟩
  · cases hother.symm.trans hkind
    exact hg
  · rw [hkind] at hstates
    cases hstates

theorem mem_custom {c : Check} :
    c ∈ rest none parts ++ (parts.filter (·.isRequired)).flatMap (·.checks) ↔ c ∈ enforced parts := by
  rw [List.mem_append, mem_rest_none, mem_enforced]
  constructor
  · rintro (⟨part, hpart, henforced, _, hc⟩ | hc)
    · exact ⟨part, hpart, henforced, hc⟩
    · obtain ⟨part, hmem, hc⟩ := List.mem_flatMap.1 hc
      obtain ⟨hpart, hrequired⟩ := List.mem_filter.1 hmem
      have hdirective : part.directive = .required := by simpa [Part.isRequired] using hrequired
      refine ⟨part, hpart, ?_, hc⟩
      rw [(hparts part hpart).enforced_eq, hdirective]
      rfl
  · rintro ⟨part, hpart, henforced, hc⟩
    cases hrequired : part.isRequired with
    | false => exact .inl ⟨part, hpart, henforced, hrequired, hc⟩
    | true => exact .inr (List.mem_flatMap.2 ⟨part, List.mem_filter.2 ⟨hpart, hrequired⟩, hc⟩)

theorem exists_required_iff : (∃ c ∈ enforced parts, c.ignoresBlank = false) ↔
    ∃ check ∈ (column o ctx f l parts).checks, check.directive = .required := by
  rw [exists_check_iff (· = .required)]
  constructor
  · rintro ⟨c, hc, hlooks⟩
    obtain ⟨part, hpart, _, hc⟩ := mem_enforced.1 hc
    rw [(hparts part hpart).ignoresBlank_eq c hc, Bool.not_eq_false'] at hlooks
    exact ⟨part, hpart, by simpa [Part.isRequired] using hlooks⟩
  · rintro ⟨part, hpart, hrequired⟩
    obtain ⟨c, hc⟩ := List.exists_mem_of_ne_nil _ (hparts part hpart).checks_ne
    refine ⟨c, mem_enforced.2 ⟨part, hpart, ?_, hc⟩, ?_⟩
    · rw [(hparts part hpart).enforced_eq, hrequired]
      rfl
    · rw [(hparts part hpart).ignoresBlank_eq c hc, Part.isRequired, hrequired]
      rfl

/-- A custom rule and a highlight say the opposite of a cell where the enforced directives are opposed, except of a
blank cell in a blank row where a value is required. -/
theorem complementary_column {truth : Truth} {blankRow : Bool} (hplain : ctx.PlainRefs)
    (hliteral : ∀ check ∈ (column o ctx f l parts).checks, ∀ origin values,
      check.directive = .list origin (.literal values) → values ≠ [])
    {rule : Rule} {valid invalid : Formula} (hrule : (column o ctx f l parts).rule = some rule)
    (hkind : rule.kind = .custom valid) (hhighlight : (column o ctx f l parts).highlight = some invalid)
    (hopposed : ∀ check ∈ (column o ctx f l parts).checks, check.directive.isEnforced o = true →
      check.directive.Opposed o.profile sheet ctx truth blankRow) :
    Complementary ((∃ check ∈ (column o ctx f l parts).checks, check.directive = .required) ∧
        truth (blankTest ctx.cell) = true ∧ blankRow = true)
      (truth.meaning ctx.cell valid) (truth.meaning ctx.cell invalid) := by
  have hliteral :=
    (forall_check_iff fun d => ∀ origin values, d = .list origin (.literal values) → values ≠ []).1 hliteral
  have hopposed :=
    (forall_check_iff fun d => d.isEnforced o = true → d.Opposed o.profile sheet ctx truth blankRow).1 hopposed
  have hvalid := conditions?_of_custom hparts hrule hkind
  have hinvalid := conditions?_of_highlight hhighlight
  have hlegible : ∀ polarity, ∀ c ∈ enforced parts, (c.form polarity).Legible := fun polarity c hc => by
    obtain ⟨part, hpart, _, hc⟩ := mem_enforced.1 hc
    exact (hparts part hpart).legible hplain hc polarity
  have hlegibleValid := Check.legible_conditions? hplain.legible_value
    (fun c hc => hlegible .valid c ((mem_custom hparts).1 hc)) hvalid
  have hlegibleInvalid := Check.legible_conditions? hplain.legible_value (hlegible .invalid) hinvalid
  rw [hlegibleValid.meaning_eq_holds, hlegibleInvalid.meaning_eq_holds, ← exists_required_iff hparts]
  refine Check.complementary_conditions? (fun c => mem_custom hparts) hvalid hinvalid fun c hc => ?_
  obtain ⟨part, hpart, henforced, hc⟩ := mem_enforced.1 hc
  have hfaithful := hparts part hpart
  rw [hfaithful.enforced_eq] at henforced
  exact hfaithful.opposed hplain (hliteral part hpart) (hopposed part hpart henforced) hc

end Composition

end SheetTemplate
