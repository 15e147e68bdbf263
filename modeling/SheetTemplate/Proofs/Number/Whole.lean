import Mathlib.Algebra.Group.Nat.Defs
import SheetTemplate.Number.Binary64

/-!
# Whole numbers

Up to 2⁵³ the numbers lie at most one apart, so every whole number is among them and none is rounded. On whole numbers that
are not rounded, order and conversion are those of the natural numbers.
-/

namespace SheetTemplate.Binary64

def whole (n : Nat) : Binary64 := .finite false (n * one)

/-- A natural number that is among the numbers of binary64. -/
def IsExact (n : Nat) : Prop := ofNat n = whole n

/-- Up to 2⁵³ times a power of two is a multiple of the distance between the numbers around it. -/
private theorem spacing_dvd {n : Nat} (h : n ≤ 2 ^ 53) (e : Nat) : spacing (n * 2 ^ e) ∣ n * 2 ^ e := by
  rcases Nat.lt_or_eq_of_le h with hlt | rfl
  · rcases Nat.eq_zero_or_pos n with rfl | hpos
    · rw [Nat.zero_mul]
      exact Nat.dvd_zero _
    · have hne : n * 2 ^ e ≠ 0 := Nat.ne_of_gt (Nat.mul_pos hpos (Nat.two_pow_pos e))
      have hlog : (n * 2 ^ e).log2 < 53 + e := by
        rw [Nat.log2_lt hne, Nat.pow_add]
        exact Nat.mul_lt_mul_of_pos_right hlt (Nat.two_pow_pos e)
      have hexponent : (n * 2 ^ e).log2 - 52 ≤ e := by omega
      exact Nat.dvd_trans (Nat.pow_dvd_pow 2 hexponent) (Nat.dvd_mul_left _ n)
  · rw [← Nat.pow_add, spacing, Nat.log2_two_pow]
    exact Nat.pow_dvd_pow 2 (Nat.sub_le _ _)

private theorem mul_two_pow_lt {n : Nat} (h : n ≤ 2 ^ 53) {e k : Nat} (hk : 53 + e < k) : n * 2 ^ e < 2 ^ k := by
  refine Nat.lt_of_le_of_lt (Nat.mul_le_mul_right _ h) ?_
  rw [← Nat.pow_add]
  exact Nat.pow_lt_pow_right (by decide) hk

theorem nearestEven_mul_of_dvd {num den : Nat} (hpos : 0 < den) (h : den ∣ num) : nearestEven num den * den = num := by
  have hrest : num % den = 0 := Nat.mod_eq_zero_of_dvd h
  have hless : 2 * (num % den) < den := by rwa [hrest]
  rw [nearestEven, if_pos hless, Nat.div_mul_cancel h]

private theorem ofUnits_of_dvd {units den : Nat} (hpos : 0 < den) (hdvd : spacing units ∣ units) (h : units < bound)
    (negative : Bool) : ofUnits negative (units * den) den = .finite negative units := by
  have hrounded : nearestEven (units * den) (den * spacing units) * spacing units = units := by
    refine Nat.eq_of_mul_eq_mul_right hpos ?_
    rw [Nat.mul_assoc, Nat.mul_comm (spacing units)]
    refine nearestEven_mul_of_dvd (Nat.mul_pos hpos (Nat.two_pow_pos _)) ?_
    rw [Nat.mul_comm units]
    exact Nat.mul_dvd_mul_left den hdvd
  simp only [ofUnits, Nat.mul_div_cancel _ hpos, hrounded, if_pos h]

theorem one_pos : 0 < one := by decide +kernel

/-- Up to 2⁵³ whole numbers, and the same ones four times as large, are not rounded. -/
private theorem ofUnits_whole {n k : Nat} (h : n ≤ 2 ^ 53) (hk : k ≤ 2) {den : Nat} (hpos : 0 < den) :
    ofUnits false (2 ^ k * n * one * den) den = whole (2 ^ k * n) := by
  obtain ⟨e, hone, hbound⟩ : ∃ e, one = 2 ^ e ∧ bound = 2 ^ (e + 1024) := ⟨1074, by decide +kernel, by decide +kernel⟩
  have hunits : 2 ^ k * n * one = n * 2 ^ (k + e) := by rw [hone, Nat.mul_comm (2 ^ k), Nat.mul_assoc, ← Nat.pow_add]
  rw [whole, hunits]
  refine ofUnits_of_dvd hpos (spacing_dvd h (k + e)) ?_ false
  rw [hbound]
  exact mul_two_pow_lt h (by omega)

theorem isExact_of_le {n : Nat} (h : n ≤ 2 ^ 53) : IsExact n := by
  have hunits := ofUnits_whole (k := 0) h (Nat.zero_le 2) Nat.one_pos
  rwa [Nat.pow_zero, Nat.one_mul, Nat.mul_one] at hunits

theorem mul_finite (m n : Nat) : finite false m * finite false n = ofUnits false (m * n) one := by
  change mul _ _ = _
  rw [mul, bne_self_eq_false]

theorem ofNat_mul_four {n : Nat} (h : n ≤ 2 ^ 53) : ofNat n * ofNat 4 = whole (4 * n) := by
  have hunits := ofUnits_whole h (Nat.le_refl 2) one_pos
  have hfour : 2 ^ 2 = 4 := rfl
  have hfactors : n * one * (4 * one) = 4 * n * one * one := by
    rw [Nat.mul_left_comm, ← Nat.mul_assoc, ← Nat.mul_assoc]
  rw [hfour] at hunits
  rw [isExact_of_le h, isExact_of_le (by decide), whole, whole, mul_finite, hfactors, hunits]

end SheetTemplate.Binary64
