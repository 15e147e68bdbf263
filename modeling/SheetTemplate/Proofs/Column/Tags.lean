import SheetTemplate.Proofs.Column.Exact
import SheetTemplate.Proofs.Column.Quotations

/-!
# What the tags of checks say

A check is tagged with the way it is realized: as the rule, or by a formula. A tag for the rule is always right, so there
is one at most. A tag for a formula is put on whatever is not the rule, also on references that are not validated, and of
these no formula says anything: what it would say differs from all that is said of the column.
-/

namespace SheetTemplate

/-! ### Telling references apart -/

theorem CellRange.sheet_eq_of_textOn_eq {r s : CellRange} {a b : String} (h : r.textOn a = s.textOn b) : a = b := by
  have hread : ∀ (r : CellRange) (a : String), Text.unquote? '\'' (r.textOn a).toList.tail =
      some (a.toList, ("!" ++ r.text).toList) := by
    intro r a
    have htext : (r.textOn a).toList = '\'' :: (Text.doubled '\'' a.toList ++ '\'' :: ("!" ++ r.text).toList) := by
      simp [textOn, Text.quoted]
    rw [htext, List.tail_cons]
    exact Text.unquote?_doubled _ (by simp)
  have hboth := (hread r a).symm.trans (h ▸ hread s b)
  simp only [Option.some.injEq, Prod.mk.injEq, String.toList_inj] at hboth
  exact hboth.1

/-- References to columns on two sheets differ, where the second one is not that of the formula. -/
theorem Lookup.referenceFrom_ne {l m : Lookup} {sheet : String} {indirect : Bool} (hne : l.sheet ≠ m.sheet)
    (hown : sheet ≠ m.sheet) : l.referenceFrom sheet indirect ≠ m.referenceFrom sheet indirect := by
  unfold referenceFrom
  rw [if_neg hown]
  intro h
  by_cases hsheet : sheet = l.sheet
  · rw [if_pos hsheet] at h
    cases indirect with
    | true => cases h
    | false =>
      -- The name of a sheet is quoted, and a range by itself has no quotes.
      have htext : l.range.text = m.qualified := Formula.atom.inj h
      have hquote : '\'' ∈ l.range.text.toList := by simp [htext, qualified, CellRange.textOn, Text.quoted]
      have hplain := l.range.plain_text '\'' hquote
      revert hplain
      decide
  · rw [if_neg hsheet] at h
    refine hne (CellRange.sheet_eq_of_textOn_eq (r := l.range) (s := m.range) ?_)
    cases indirect with
    | true => simpa [Formula.apply, qualified] using h
    | false => simpa [qualified] using h

/-! ### What formulas say -/

theorem Check.form_inRange_ne_inLiterals {ctx : CellContext} {range : Formula} {message : String} {values : List Value} :
    (Check.inRange ctx range message).form .valid ≠ (Check.inLiterals ctx values).form .valid := by
  cases values with
  | nil => simp [form, inRange, inLiterals, Formula.apply, Formula.merge]
  | cons value rest =>
    cases rest <;> simp [form, inRange, inLiterals, Formula.apply, Formula.merge]

namespace Directive

/-- A list in cells stands on the sheet of lists if it is declared, and anywhere else if it is a column that is
referred to. -/
def Apart (lists : String) : Directive → Prop
  | .list .enum (.range l) => l.sheet = lists
  | .list (.foreignKey _) (.range l) => l.sheet ≠ lists
  | .list (.foreignKey _) (.literal _) | .list .boolean (.range _) => False
  | _ => True

variable {o : Options} {sheet lists : String} {ctx : CellContext}

/-- No enforced directive says that a value stands in a column of another table. -/
theorem not_mem_forms {d : Directive} (henforced : d.isEnforced o = true) (hapart : d.Apart lists) {link : Link} {l : Lookup}
    (hnot : isEnforced o (.list (.foreignKey link) (.range l)) = false) (hl : l.sheet ≠ lists) (hown : sheet ≠ lists) :
    (Check.inRange ctx (l.referenceFrom sheet o.profile.indirect) "").form .valid ∉ d.forms o.profile sheet ctx .valid := by
  intro hmem
  cases d with
  | type ofField =>
    cases ofField <;>
      simp [forms, Check.typeTest?, Check.form, Check.inRange, Formula.apply, CellContext.value] at hmem
  | required => simp [forms, Check.required, Check.form, Check.inRange, Formula.apply] at hmem
  | unique caseSensitive =>
    cases caseSensitive <;> simp [forms, Check.unique, Check.comparison, Check.form, Check.inRange, Formula.apply] at hmem
  | range low high whole =>
    simp [forms, Check.minimum, Check.maximum, Check.comparison, Check.form, Check.inRange, Formula.apply] at hmem
  | length low high =>
    simp [forms, Check.minLength, Check.maxLength, Check.comparison, Check.form, Check.inRange, Formula.apply] at hmem
  | pattern regex => simp [forms, Check.pattern, Check.form, Check.inRange, Formula.apply] at hmem
  | list origin source =>
    cases source with
    | literal values => exact Check.form_inRange_ne_inLiterals (List.mem_singleton.1 hmem)
    | range m =>
      cases origin with
      | boolean => exact hapart
      | enum =>
        have hm : m.sheet = lists := hapart
        have hsame : l.referenceFrom sheet o.profile.indirect = m.referenceFrom sheet o.profile.indirect := by
          simpa [forms, Check.form, Check.inRange, Formula.apply] using hmem
        exact Lookup.referenceFrom_ne (hm ▸ hl) (hm ▸ hown) hsame
      | foreignKey => cases henforced.symm.trans hnot

end Directive

/-- A formula that the cells of a column have to meet: that of a custom rule, or the one beside a rule. -/
inductive Column.Joins (c : Column) (f : Formula) : Prop
  | custom {rule : Rule} (ofColumn : c.rule = some rule) (custom : rule.kind = .custom f)
  | companion (ofColumn : c.companion = some f)

/-- The tag of a check is right. -/
structure Column.Tells (o : Options) (sheet : String) (ctx : CellContext) (c : Column) (check : CompiledCheck) : Prop where
  native : check.realization.isValueRule = true → ∃ rule, c.rule = some rule ∧ rule.kind.States check.directive
  formula : check.realization.isFormula = true →
    ∃ f, c.Joins f ∧ check.directive.Within o.profile sheet ctx .valid f

/-! ### Columns -/

namespace Composition

variable {o : Options} {sheet lists : String} {ctx : CellContext} {f : Field} {l : ColumnLayout} {declared : List Value}
  {parts : List Part}

theorem getElem?_checks {i : Nat} {check : CompiledCheck} (h : (column o ctx f l parts).checks[i]? = some check) :
    ∃ part, parts[i]? = some part ∧
      check = ⟨part.directive, if primary? o parts = some i then part.realization else part.folded⟩ := by
  change (compiledChecks parts (primary? o parts))[i]? = some check at h
  rw [compiledChecks, List.getElem?_map, Option.map_eq_some_iff] at h
  obtain ⟨⟨part, j⟩, hzip, rfl⟩ := h
  rw [List.getElem?_zipIdx, Option.map_eq_some_iff] at hzip
  obtain ⟨other, hi, heq⟩ := hzip
  cases heq
  exact ⟨part, hi, by simp⟩

theorem mem_rest_some {k : Nat} {c : Check} : c ∈ rest (some k) parts ↔
    ∃ part ∈ parts.eraseIdx k, part.enforced = true ∧ part.isRequired = false ∧ c ∈ part.checks := by
  rw [rest_some, mem_rest_none]

variable (hparts : ∀ part ∈ parts, part.Faithful o sheet ctx) (hexact : ∀ part ∈ parts, part.Exact o sheet ctx declared)

include hexact in
theorem primary?_of_isValueRule {i : Nat} {check : CompiledCheck} (h : (column o ctx f l parts).checks[i]? = some check)
    (hrule : check.realization.isValueRule = true) : primary? o parts = some i := by
  obtain ⟨part, hi, rfl⟩ := getElem?_checks h
  by_contra hnot
  rw [if_neg hnot, (hexact part (List.mem_of_getElem? hi)).folded_eq.1] at hrule
  cases hrule

include hparts

theorem conditions?_of_joins {g : Formula} (h : (column o ctx f l parts).Joins g) :
    ∃ checks, Check.conditions? .valid ctx.cell checks = some g ∧
      ∀ c ∈ checks, ∃ part ∈ parts, part.enforced = true ∧ c ∈ part.checks := by
  cases h with
  | custom hrule hkind =>
    exact ⟨_, conditions?_of_custom hparts hrule hkind, fun c hc => mem_enforced.1 ((mem_custom hparts).1 hc)⟩
  | companion hcompanion =>
    obtain ⟨hsome, hjoint⟩ := Option.ite_none_right_eq_some.1 hcompanion
    obtain ⟨i, hprimary⟩ := Option.isSome_iff_exists.1 hsome
    refine ⟨_, hjoint, fun c hc => ?_⟩
    rw [hprimary] at hc
    obtain ⟨part, hpart, henforced, _, hc⟩ := mem_rest_some.1 hc
    exact ⟨part, List.mem_of_mem_eraseIdx hpart, henforced, hc⟩

theorem joins_of_enforced {i : Nat} {part : Part} (hi : parts[i]? = some part) (henforced : part.enforced = true)
    (hrequired : part.isRequired = false) (hnot : primary? o parts ≠ some i) :
    ∃ g, (column o ctx f l parts).Joins g ∧ part.directive.Within o.profile sheet ctx .valid g := by
  cases hprimary : primary? o parts with
  | none =>
    obtain ⟨rule, g, hrule, _, hkind, hwithin⟩ := rule?_of_none hparts (List.mem_of_getElem? hi) henforced
    exact ⟨g, .custom (by rw [column, hprimary, hrule]) hkind, hwithin⟩
  | some k =>
    have hmem : part ∈ parts.eraseIdx k :=
      List.mem_eraseIdx_iff_getElem?.2 ⟨i, fun heq => hnot (heq ▸ hprimary), hi⟩
    have hrest : ∀ c ∈ rest (some k) parts, ∃ part ∈ parts, c ∈ part.checks := by
      intro c hc
      obtain ⟨other, hother, _, _, hc⟩ := mem_rest_some.1 hc
      exact ⟨other, List.mem_of_mem_eraseIdx hother, hc⟩
    obtain ⟨g, hjoint, hwithin⟩ := within_of_conditions? hparts .valid hrest (List.mem_of_getElem? hi) fun c hc =>
      mem_rest_some.2 ⟨part, hmem, henforced, hrequired, hc⟩
    exact ⟨g, .companion (by rw [column, hprimary]; exact hjoint), hwithin⟩

/-- No formula says anything of a part that is not enforced. -/
theorem not_within_of_joins (hapart : ∀ part ∈ parts, part.directive.Apart lists) (hown : sheet ≠ lists) {part : Part}
    (hpart : part ∈ parts) (hnot : part.enforced = false) {g : Formula} (h : (column o ctx f l parts).Joins g) :
    ¬part.directive.Within o.profile sheet ctx .valid g := by
  intro hwithin
  obtain ⟨checks, hjoint, hchecks⟩ := conditions?_of_joins hparts h
  rw [(hparts part hpart).enforced_eq] at hnot
  have hdirective := hapart part hpart
  obtain ⟨link, m, hd⟩ : ∃ link m, part.directive = .list (.foreignKey link) (.range m) := by
    cases hd : part.directive with
    | list origin source =>
      cases origin with
      | foreignKey link =>
        cases source with
        | range m => exact ⟨link, m, rfl⟩
        | literal =>
          rw [hd] at hdirective
          exact hdirective.elim
      | _ => simp [hd, Directive.isEnforced, Directive.reference?] at hnot
    | _ => simp [hd, Directive.isEnforced, Directive.reference?] at hnot
  rw [hd] at hnot hdirective hwithin
  have hsimple : ∀ c ∈ checks, (c.form .valid).Simple .valid ctx.cell := by
    intro c hc
    obtain ⟨other, hother, _, hmem⟩ := hchecks c hc
    exact (hparts other hother).simple .valid hmem
  obtain ⟨c, hc, hform⟩ := Check.exists_form_of_mem_terms hjoint hsimple (hwithin.2 _ List.mem_cons_self)
  obtain ⟨other, hother, henforced, hmem⟩ := hchecks c hc
  have hforms : c.form .valid ∈ other.directive.forms o.profile sheet ctx .valid :=
    (hparts other hother).forms_eq .valid ▸ List.mem_map_of_mem hmem
  rw [hform] at hforms
  exact Directive.not_mem_forms ((hparts other hother).enforced_eq ▸ henforced) (hapart other hother) hnot hdirective hown
    hforms

include hexact in
theorem exists_rule_of_isValueRule {i : Nat} {check : CompiledCheck} (h : (column o ctx f l parts).checks[i]? = some check)
    (hvalue : check.realization.isValueRule = true) :
    ∃ rule, (column o ctx f l parts).rule = some rule ∧ rule.kind.States check.directive := by
  have hprimary := primary?_of_isValueRule hexact h hvalue
  obtain ⟨part, hget, rfl⟩ := getElem?_checks h
  obtain ⟨native, hnative⟩ := exists_native_of_primary? hprimary hget
  obtain ⟨rule, hrule, hkind, _⟩ := rule?_of_some o ctx hget hnative
  exact ⟨rule, by rw [column, hprimary, hrule], hkind ▸ (hparts part (List.mem_of_getElem? hget)).states native hnative⟩

include hexact in
/-- A tag is right, unless it says of a check which is not enforced that there is a formula. -/
theorem tells_column (hapart : ∀ part ∈ parts, part.directive.Apart lists) (hown : sheet ≠ lists) {check : CompiledCheck}
    (hcheck : check ∈ (column o ctx f l parts).checks) : (column o ctx f l parts).Tells o sheet ctx check ↔
      (check.realization.isFormula = true → check.directive.isEnforced o = true) := by
  obtain ⟨i, hi⟩ := List.getElem?_of_mem hcheck
  have hrule := exists_rule_of_isValueRule hparts hexact hi
  obtain ⟨part, hget, rfl⟩ := getElem?_checks hi
  have hpart := List.mem_of_getElem? hget
  have henforced := (hparts part hpart).enforced_eq
  dsimp only at hrule ⊢
  constructor
  · intro htells hformula
    obtain ⟨g, hjoins, hwithin⟩ := htells.formula hformula
    by_contra hnot
    exact not_within_of_joins hparts hapart hown hpart (henforced.trans (Bool.not_eq_true _ ▸ hnot)) hjoins hwithin
  · intro hright
    refine ⟨hrule, fun hformula => ?_⟩
    by_cases hprimary : primary? o parts = some i
    · obtain ⟨native, hnative⟩ := exists_native_of_primary? hprimary hget
      rw [if_pos hprimary, (hexact part hpart).isFormula_eq, hnative] at hformula
      cases hformula
    · have hrequired : part.isRequired = false := by
        rw [if_neg hprimary, (hexact part hpart).folded_eq.2] at hformula
        simpa using hformula
      exact joins_of_enforced hparts hget (henforced.trans (hright hformula)) hrequired hprimary

end Composition

end SheetTemplate
