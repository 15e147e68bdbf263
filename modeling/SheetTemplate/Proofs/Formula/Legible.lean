import SheetTemplate.Cell.Range
import SheetTemplate.Formula.Check
import SheetTemplate.Proofs.Formula.Reading

/-!
# Checks are legible

Numbers and references are written in characters that mean nothing to a scan, and what may hold any character is
quoted: texts, and names of sheets. So the forms of checks can be read as texts, alone and joined with others.
-/

namespace SheetTemplate

/-! ### Texts of plain characters -/

/-- A text that means nothing to a scan. -/
def Plain (text : String) : Prop := ∀ c ∈ text.toList, Scan.isPlain c = true

-- Decided along the text; an instance for a quantifier over characters would try all of them.
instance (text : String) : Decidable (Plain text) :=
  decidable_of_iff (text.toList.all Scan.isPlain = true) List.all_eq_true

namespace Plain

theorem append {s t : String} (hs : Plain s) (ht : Plain t) : Plain (s ++ t) := by
  intro c hc
  rw [String.toList_append, List.mem_append] at hc
  exact hc.elim (hs c) (ht c)

theorem whole {text : String} (h : Plain text) : Scan.Whole text.toList := Scan.whole_plain (List.all_eq_true.2 h)

theorem isTest {text : String} (h : Plain text) : IsTest text.toList :=
  .of_not_mem fun hmem => by cases h '(' hmem

theorem legible {text : String} (h : Plain text) : (Formula.atom text).Legible :=
  .atom h.whole h.isTest

end Plain

theorem isPlain_of_isDigit {c : Char} (h : c.isDigit = true) : Scan.isPlain c = true := by
  have hne : ∀ other : Char, other.isDigit = false → c ≠ other := by
    rintro other hother rfl
    cases h.symm.trans hother
  simp [Scan.isPlain, hne '"' rfl, hne '\'' rfl, hne '(' rfl, hne ')' rfl, hne ',' rfl]

theorem isPlain_of_mem_toDigits {n : Nat} {c : Char} (h : c ∈ Nat.toDigits 10 n) : Scan.isPlain c = true :=
  isPlain_of_isDigit (Nat.isDigit_of_mem_toDigits (by decide) (Nat.le_refl 10) h)

theorem plain_natRepr (n : Nat) : Plain n.repr := by
  intro c hc
  rw [Nat.toList_repr] at hc
  exact isPlain_of_mem_toDigits hc

theorem plain_intRepr (n : Int) : Plain n.repr := by
  cases n with
  | ofNat n => exact plain_natRepr n
  | negSucc n => exact .append (by decide) (plain_natRepr (n + 1))

/-! ### Numbers -/

private theorem plain_positional (digits : Nat) (k : Int) : Plain (Binary64.positional digits k) := by
  cases k with
  | ofNat e =>
    intro c hc
    rw [Binary64.positional, String.toList_ofList] at hc
    rcases List.mem_append.1 hc with hdigit | hzero
    · exact isPlain_of_mem_toDigits hdigit
    · rw [(List.mem_replicate.1 hzero).2]
      rfl
  | negSucc e =>
    have hpadded : ∀ c ∈ List.replicate (e + 2 - (Nat.toDigits 10 digits).length) '0' ++ Nat.toDigits 10 digits,
        Scan.isPlain c = true := by
      intro c hc
      rcases List.mem_append.1 hc with hzero | hdigit
      · rw [(List.mem_replicate.1 hzero).2]
        rfl
      · exact isPlain_of_mem_toDigits hdigit
    intro c hc
    rw [Binary64.positional, String.toList_ofList] at hc
    rcases List.mem_append.1 hc with hwhole | hrest
    · exact hpadded c (List.mem_of_mem_take hwhole)
    rcases List.mem_cons.1 hrest with rfl | hfraction
    · rfl
    · exact hpadded c (List.mem_of_mem_drop hfraction)

theorem Binary64.plain_text (x : Binary64) : Plain x.text := by
  cases x with
  | nan => decide
  | infinite negative => cases negative <;> decide
  | finite negative units =>
    have hmagnitude : Plain (if units = 0 then "0" else positional (shortest units).1 (shortest units).2) := by
      split
      · decide
      · exact plain_positional _ _
    cases negative with
    | true => exact .append (by decide) hmagnitude
    | false => exact hmagnitude

theorem Value.legible_formula (v : Value) : v.formula.Legible := by
  cases v with
  | boolean b => cases b <;> exact Plain.legible (by decide)
  | integer n => exact (plain_intRepr n).legible
  | number x => exact x.plain_text.legible
  | string s => exact .literal s

/-! ### References -/

theorem Address.plain_text (a : Address) : Plain a.text := by
  have hmark : ∀ fixed, Plain (mark fixed) := fun fixed => by cases fixed <;> decide
  have hletters : Plain (letters a.column) := by
    intro c hc
    rw [letters, String.toList_ofList] at hc
    exact forall_mem_lettersBefore (P := (Scan.isPlain · = true)) (by decide) _ (List.forall_mem_nil _) c hc
  exact (((hmark _).append hletters).append (hmark _)).append (plain_natRepr _)

theorem CellRange.plain_text (r : CellRange) : Plain r.text := by
  unfold text
  split
  · exact r.first.plain_text
  · exact (r.first.plain_text.append (by decide)).append r.last.plain_text

/-- A sheet is named in quotes, so its name may hold any character. -/
theorem CellRange.legible_textOn (r : CellRange) (sheet : String) : (Formula.atom (r.textOn sheet)).Legible := by
  refine .atom ?_ ?_
  · simp only [textOn, String.toList_append]
    exact ((Scan.whole_quoted (.inr rfl) sheet).append (Scan.whole_plain (by decide))).append r.plain_text.whole
  · simp only [textOn, Text.quoted, String.toList_append, String.toList_ofList]
    exact .of_head (by decide) _

theorem Lookup.legible_referenceFrom (l : Lookup) (sheet : String) (indirect : Bool) :
    (l.referenceFrom sheet indirect).Legible := by
  unfold referenceFrom
  split
  · exact l.range.plain_text.legible
  · split
    · exact .call .indirect (List.cons_ne_nil _ _) (List.forall_mem_singleton.2 (.literal _))
    · exact l.range.legible_textOn l.sheet

/-! ### Forms -/

namespace Formula

theorem Legible.apply (function : SheetFunction) {f : Formula} (h : f.Legible) : (Formula.apply function f).Legible :=
  .call function (List.cons_ne_nil _ _) (List.forall_mem_singleton.2 h)

theorem legible_ofNat (n : Nat) : (Formula.ofNat n).Legible := (plain_natRepr n).legible

theorem legible_ofBool (b : Bool) : (Formula.ofBool b).Legible := by
  cases b <;> exact Plain.legible (by decide)

theorem legible_merge (function : SheetFunction) {fs : List Formula} (h : ∀ f ∈ fs, f.Legible) :
    (merge function fs).Legible := by
  match fs with
  | [] => exact Plain.legible (by decide)
  | [f] => exact h f List.mem_cons_self
  | _ :: _ :: _ => exact .call function (List.cons_ne_nil _ _) h

theorem isTest_render_call {function : SheetFunction} (hfunction : function ∉ SheetFunction.joints) (args : List Formula) :
    IsTest (call function args).render.toList := toList_call function args ▸ isTest_call hfunction _

end Formula

/-- A comparison is a test, so its left side may not be a joint formula. -/
private theorem Check.legible_comparison (polarity : Polarity) {left right : Formula} (hleft : left.Legible)
    (htest : IsTest left.render.toList) (hright : right.Legible) (holds fails : Comparison) (message : String) :
    ((Check.comparison left holds fails right message).form polarity).Legible := by
  cases polarity with
  | valid => exact .compare holds hleft hright htest
  | invalid => exact .compare fails hleft hright htest

theorem Check.legible_conditions? {polarity : Polarity} {cell : String} (hcell : (Formula.atom cell).Legible)
    {checks : List Check} (hchecks : ∀ c ∈ checks, (c.form polarity).Legible) {f : Formula}
    (hf : conditions? polarity cell checks = some f) : f.Legible := by
  have hforms : ∀ keep : Check → Bool, ∀ f ∈ (checks.filter keep).map (·.form polarity), f.Legible :=
    fun keep => List.forall_mem_map.2 fun c hc => hchecks c (List.mem_filter.1 hc).1
  unfold conditions? at hf
  split at hf
  · cases hf
  cases hf
  refine Formula.legible_merge _ (List.forall_mem_append.2 ⟨hforms _, ?_⟩)
  split
  · exact fun _ hmem => absurd hmem List.not_mem_nil
  · refine List.forall_mem_singleton.2 (.call .ifElse (List.cons_ne_nil _ _) ?_)
    simp [hcell.apply, Formula.legible_ofBool, Formula.legible_merge _ (hforms _)]

structure CellContext.PlainRefs (ctx : CellContext) : Prop where
  cell : Plain ctx.cell
  column : Plain ctx.column
  row : Plain ctx.row

namespace CellContext.PlainRefs

variable {ctx : CellContext} (h : ctx.PlainRefs) (polarity : Polarity)
include h

theorem legible_value : ctx.value.Legible := h.cell.legible

theorem legible_typeTest {type : FieldType} {c : Check} (hc : Check.typeTest? type ctx = some c) :
    (c.form polarity).Legible := by
  have hvalue := h.legible_value
  have hnumber := hvalue.apply .isNumber
  have hint : ∀ comparison, (Formula.compare comparison (.apply .int ctx.value) ctx.value).Legible := fun comparison =>
    .compare comparison (hvalue.apply .int) hvalue (Formula.isTest_render_call (by decide) _)
  have hbool : ∀ comparison b, (Formula.compare comparison ctx.value (.ofBool b)).Legible := fun comparison b =>
    .compare comparison hvalue (Formula.legible_ofBool b) h.cell.isTest
  cases type with
  | string => cases hc
  | number =>
    cases hc
    cases polarity with
    | valid => exact hnumber
    | invalid => exact hnumber.apply .not
  | integer =>
    cases hc
    cases polarity with
    | valid => exact .call .ifElse (List.cons_ne_nil _ _) (by simp [hnumber, hint, Formula.legible_ofBool])
    | invalid => exact .call .ifElse (List.cons_ne_nil _ _) (by simp [hnumber, hint, Formula.legible_ofBool])
  | boolean =>
    cases hc
    cases polarity with
    | valid => exact .call .or (List.cons_ne_nil _ _) (by simp [hbool])
    | invalid => exact .call .and (List.cons_ne_nil _ _) (by simp [hbool])

theorem legible_required : ((Check.required ctx).form polarity).Legible := by
  have hblank := h.legible_value.apply .isBlank
  cases polarity with
  | valid => exact hblank.apply .not
  | invalid =>
    refine .call .and (List.cons_ne_nil _ _) (List.forall_mem_cons.2 ⟨hblank, List.forall_mem_singleton.2 ?_⟩)
    exact .compare .notEqual (h.row.legible.apply .countBlank) (Formula.legible_ofNat _)
      (Formula.isTest_render_call (by decide) _)

theorem legible_unique (caseSensitive : Bool) : ((Check.unique ctx caseSensitive).form polarity).Legible := by
  have hcolumn := h.column.legible
  have hvalue := h.legible_value
  cases caseSensitive with
  | true =>
    have hexact : (Formula.call .exact [.atom ctx.column, ctx.value]).Legible :=
      .call .exact (List.cons_ne_nil _ _) (by simp [hcolumn, hvalue])
    exact Check.legible_comparison polarity ((Formula.Legible.asNumber hexact).apply .sumProduct)
      (Formula.isTest_render_call (by decide) _) (Formula.legible_ofNat 1) _ _ _
  | false =>
    exact Check.legible_comparison polarity (.call .countIf (List.cons_ne_nil _ _) (by simp [hcolumn, hvalue]))
      (Formula.isTest_render_call (by decide) _) (Formula.legible_ofNat 2) _ _ _

theorem legible_minimum (bound : Binary64) : ((Check.minimum ctx bound).form polarity).Legible :=
  Check.legible_comparison polarity h.legible_value h.cell.isTest (Value.number bound).legible_formula _ _ _

theorem legible_maximum (bound : Binary64) : ((Check.maximum ctx bound).form polarity).Legible :=
  Check.legible_comparison polarity h.legible_value h.cell.isTest (Value.number bound).legible_formula _ _ _

theorem legible_minLength (length : UInt32) : ((Check.minLength ctx length).form polarity).Legible :=
  Check.legible_comparison polarity (h.legible_value.apply .len) (Formula.isTest_render_call (by decide) _)
    (Formula.legible_ofNat _) _ _ _

theorem legible_maxLength (length : UInt32) : ((Check.maxLength ctx length).form polarity).Legible :=
  Check.legible_comparison polarity (h.legible_value.apply .len) (Formula.isTest_render_call (by decide) _)
    (Formula.legible_ofNat _) _ _ _

theorem legible_pattern (regex : String) : ((Check.pattern ctx regex).form polarity).Legible := by
  have hmatching : (Check.pattern ctx regex).valid.Legible :=
    .call .regexMatch (List.cons_ne_nil _ _)
      (List.forall_mem_cons.2 ⟨h.legible_value.apply .toText, List.forall_mem_singleton.2 (.literal _)⟩)
  cases polarity with
  | valid => exact hmatching
  | invalid => exact hmatching.apply .not

theorem legible_inRange {range : Formula} (hrange : range.Legible) (message : String) :
    ((Check.inRange ctx range message).form polarity).Legible := by
  have hplace : (Formula.call .matchIn [ctx.value, range, .ofNat 0]).Legible :=
    .call .matchIn (List.cons_ne_nil _ _) (by simp [h.legible_value, hrange, Formula.legible_ofNat])
  cases polarity with
  | valid => exact hplace.apply .isNumber
  | invalid => exact hplace.apply .isNa

theorem legible_inLiterals (values : List Value) : ((Check.inLiterals ctx values).form polarity).Legible := by
  have hcompare : ∀ comparison, ∀ f ∈ values.map fun v => Formula.compare comparison ctx.value v.formula, f.Legible :=
    fun comparison => List.forall_mem_map.2 fun v _ =>
      .compare comparison h.legible_value v.legible_formula h.cell.isTest
  cases polarity with
  | valid => exact Formula.legible_merge .or (hcompare .equal)
  | invalid => exact Formula.legible_merge .and (hcompare .notEqual)

end CellContext.PlainRefs

end SheetTemplate
