import SheetTemplate.Cell.Range
import SheetTemplate.Formula.Check

/-!
# Finite numbers in formulas

A finite number is written in digits, and one that is not finite by a name. References and counts have digits too, so
a formula holds such a name only where a value was written that is not finite.
-/

namespace SheetTemplate

/-! ### Texts with digits -/

def Binary64.nonFinite : List String := ["NaN", "inf", "-inf"]

def HasDigit (text : String) : Prop := ∃ c ∈ text.toList, c.isDigit = true

namespace HasDigit

theorem append_right (s : String) {t : String} (h : HasDigit t) : HasDigit (s ++ t) := by
  obtain ⟨c, hc, hdigit⟩ := h
  exact ⟨c, by rw [String.toList_append]; exact List.mem_append_right _ hc, hdigit⟩

theorem not_mem_nonFinite {text : String} (h : HasDigit text) : text ∉ Binary64.nonFinite := by
  intro hmem
  have hnone : (Binary64.nonFinite.all fun name => name.toList.all (!·.isDigit)) = true := rfl
  simp only [List.all_eq_true, Bool.not_eq_true'] at hnone
  obtain ⟨c, hc, hdigit⟩ := h
  cases hdigit.symm.trans (hnone text hmem c hc)

end HasDigit

theorem exists_digit (n : Nat) : ∃ c ∈ Nat.toDigits 10 n, c.isDigit = true := by
  obtain ⟨c, hc⟩ := List.exists_mem_of_ne_nil _ (List.ne_nil_of_length_pos (Nat.length_toDigits_pos (b := 10) (n := n)))
  exact ⟨c, hc, Nat.isDigit_of_mem_toDigits (by decide) (Nat.le_refl 10) hc⟩

theorem hasDigit_natRepr (n : Nat) : HasDigit n.repr := by
  unfold HasDigit
  rw [Nat.toList_repr]
  exact exists_digit n

theorem hasDigit_intRepr (n : Int) : HasDigit n.repr := by
  cases n with
  | ofNat n => exact hasDigit_natRepr n
  | negSucc n => exact .append_right "-" (hasDigit_natRepr (n + 1))

private theorem hasDigit_positional (digits : Nat) (k : Int) : HasDigit (Binary64.positional digits k) := by
  obtain ⟨c, hc, hdigit⟩ := exists_digit digits
  refine ⟨c, ?_, hdigit⟩
  cases k with
  | ofNat e =>
    rw [Binary64.positional, String.toList_ofList]
    exact List.mem_append_left _ hc
  | negSucc e =>
    have hpadded := List.mem_append_right (List.replicate (e + 2 - (Nat.toDigits 10 digits).length) '0') hc
    rw [Binary64.positional, String.toList_ofList, List.mem_append]
    -- The point is put between two of the characters, so each of them is before or after it.
    rw [← List.take_append_drop (_ - (e + 1)) (_ ++ _), List.mem_append] at hpadded
    exact hpadded.imp_right (List.mem_cons_of_mem _)

theorem Binary64.text_mem_nonFinite_iff (x : Binary64) : x.text ∈ nonFinite ↔ x.isFinite = false := by
  cases x with
  | nan => decide
  | infinite negative => cases negative <;> decide
  | finite negative units =>
    have hmagnitude : HasDigit (if units = 0 then "0" else positional (shortest units).1 (shortest units).2) := by
      split
      · exact ⟨'0', by decide, rfl⟩
      · exact hasDigit_positional _ _
    have hdigit : HasDigit (text (.finite negative units)) := by
      cases negative with
      | true => exact .append_right "-" hmagnitude
      | false => exact hmagnitude
    exact ⟨fun hmem => absurd hmem hdigit.not_mem_nonFinite, fun h => by cases h⟩

/-! ### References -/

theorem Address.hasDigit_text (a : Address) : HasDigit a.text := .append_right _ (hasDigit_natRepr _)

theorem CellRange.hasDigit_text (r : CellRange) : HasDigit r.text := by
  unfold text
  split
  · exact r.first.hasDigit_text
  · exact .append_right _ r.last.hasDigit_text

theorem CellRange.hasDigit_textOn (r : CellRange) (sheet : String) : HasDigit (r.textOn sheet) :=
  .append_right _ r.hasDigit_text

/-! ### Formulas -/

namespace Formula

mutual

/-- What stands for itself in a formula, from left to right. -/
def atoms : Formula → List String
  | .atom text => [text]
  | .literal _ => []
  | .call _ arguments => atomsAll arguments
  | .compare _ left right => left.atoms ++ right.atoms
  | .asNumber truth => truth.atoms

def atomsAll : List Formula → List String
  | [] => []
  | f :: rest => f.atoms ++ atomsAll rest

end

theorem atomsAll_eq_flatMap (fs : List Formula) : atomsAll fs = fs.flatMap atoms := by
  induction fs with
  | nil => rfl
  | cons f fs ih => rw [atomsAll, ih, List.flatMap_cons]

/-- Nothing in a formula is the name of a number that is not finite. -/
def Finite (f : Formula) : Prop := ∀ text ∈ f.atoms, text ∉ Binary64.nonFinite

@[simp] theorem finite_atom {text : String} : (atom text).Finite ↔ text ∉ Binary64.nonFinite := List.forall_mem_singleton

@[simp] theorem finite_literal (content : String) : (literal content).Finite := nofun

@[simp] theorem finite_call {function : SheetFunction} {args : List Formula} :
    (call function args).Finite ↔ ∀ arg ∈ args, arg.Finite := by
  rw [Finite, atoms, atomsAll_eq_flatMap]
  exact List.forall_mem_flatMap

@[simp] theorem finite_compare {comparison : Comparison} {left right : Formula} :
    (compare comparison left right).Finite ↔ left.Finite ∧ right.Finite := List.forall_mem_append

@[simp] theorem finite_asNumber {truth : Formula} : (asNumber truth).Finite ↔ truth.Finite := Iff.rfl

@[simp] theorem finite_apply {function : SheetFunction} {f : Formula} : (apply function f).Finite ↔ f.Finite := by
  rw [apply, finite_call, List.forall_mem_singleton]

@[simp] theorem finite_ofNat (n : Nat) : (ofNat n).Finite := finite_atom.2 (hasDigit_natRepr n).not_mem_nonFinite

@[simp] theorem finite_ofBool (b : Bool) : (ofBool b).Finite := by
  cases b <;> exact finite_atom.2 (by decide)

theorem finite_merge {function : SheetFunction} {fs : List Formula} (h : ∀ f ∈ fs, f.Finite) : (merge function fs).Finite := by
  match fs with
  | [] => exact finite_atom.2 (by decide)
  | [f] => exact h f List.mem_cons_self
  | _ :: _ :: _ => exact finite_call.2 h

end Formula

theorem Lookup.finite_referenceFrom (l : Lookup) (sheet : String) (indirect : Bool) :
    (l.referenceFrom sheet indirect).Finite := by
  unfold referenceFrom
  split
  · exact Formula.finite_atom.2 l.range.hasDigit_text.not_mem_nonFinite
  · split
    · simp
    · exact Formula.finite_atom.2 (l.range.hasDigit_textOn l.sheet).not_mem_nonFinite

/-! ### Values and checks -/

def Value.isFinite : Value → Bool
  | .number x => x.isFinite
  | _ => true

theorem Value.finite_formula_iff (v : Value) : v.formula.Finite ↔ v.isFinite = true := by
  cases v with
  | boolean b => exact ⟨fun _ => rfl, fun _ => Formula.finite_ofBool b⟩
  | integer n => exact ⟨fun _ => rfl, fun _ => Formula.finite_atom.2 (hasDigit_intRepr n).not_mem_nonFinite⟩
  | number x => exact Formula.finite_atom.trans ((not_congr x.text_mem_nonFinite_iff).trans (by simp [isFinite]))
  | string s => exact ⟨fun _ => rfl, fun _ => Formula.finite_literal s⟩

/-- Whether a value is finite can be told from its text in a formula. -/
theorem Value.render_mem_nonFinite_iff (v : Value) : v.formula.render ∈ Binary64.nonFinite ↔ v.isFinite = false := by
  cases v with
  | boolean b => cases b <;> decide
  | integer n =>
    exact ⟨fun hmem => absurd hmem (hasDigit_intRepr n).not_mem_nonFinite, fun h => by cases h⟩
  | number x => exact x.text_mem_nonFinite_iff
  | string s =>
    have hquote : ∀ name ∈ Binary64.nonFinite, name.toList.head? ≠ some '"' := by decide
    refine ⟨fun hmem => absurd ?_ (hquote _ hmem), fun h => by cases h⟩
    change (Text.quoted '"' s).toList.head? = _
    rw [Text.quoted, String.toList_ofList]
    rfl

theorem Check.finite_conditions? {polarity : Polarity} {cell : String} (hcell : cell ∉ Binary64.nonFinite)
    {checks : List Check} (hchecks : ∀ c ∈ checks, (c.form polarity).Finite) {f : Formula}
    (hf : conditions? polarity cell checks = some f) : f.Finite := by
  have hforms : ∀ keep : Check → Bool, ∀ f ∈ (checks.filter keep).map (·.form polarity), f.Finite :=
    fun keep => List.forall_mem_map.2 fun c hc => hchecks c (List.mem_filter.1 hc).1
  unfold conditions? at hf
  split at hf
  · cases hf
  cases hf
  refine Formula.finite_merge (List.forall_mem_append.2 ⟨hforms _, ?_⟩)
  split
  · exact nofun
  · refine List.forall_mem_singleton.2 (Formula.finite_call.2 ?_)
    simp [hcell, Formula.finite_merge (hforms _)]

structure CellContext.Refers (ctx : CellContext) : Prop where
  cell : ctx.cell ∉ Binary64.nonFinite
  column : ctx.column ∉ Binary64.nonFinite
  row : ctx.row ∉ Binary64.nonFinite

end SheetTemplate
