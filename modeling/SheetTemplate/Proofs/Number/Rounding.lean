import Mathlib.Data.Nat.Log
import Mathlib.Tactic.Linarith
import Mathlib.Tactic.Ring
import SheetTemplate.Proofs.Number.Whole

/-!
# Rounding and order

Rounding picks one of the two steps around an exact result, so it never swaps two results. Where two results are rounded to
steps of different size, a power of two lies between them that is a whole number of both steps, and neither passes it. The
same argument serves for quotients and for roots, and from both of them all operations on numbers that are not negative keep
the order.
-/

namespace SheetTemplate.Binary64

/-! ### Between two steps -/

/-- The step below or the one after it, depending on the side of the middle on which a result lies. -/
private def settle (low result middle : Nat) : Nat :=
  if result < middle then low else if middle < result then low + 1 else low + low % 2

private theorem le_settle (low result middle : Nat) : low ≤ settle low result middle := by
  unfold settle
  split_ifs <;> omega

private theorem settle_le (low result middle : Nat) : settle low result middle ≤ low + 1 := by
  unfold settle
  split_ifs <;> omega

private theorem settle_mono (low middle : Nat) {m n : Nat} (h : m ≤ n) : settle low m middle ≤ settle low n middle := by
  unfold settle
  split_ifs <;> omega

/-! ### Quotients -/

section Quotient

variable {num num' den : Nat}

private theorem nearestEven_eq (num den : Nat) : nearestEven num den = settle (num / den) (2 * (num % den)) den := rfl

theorem nearestEven_mono (den : Nat) (h : num ≤ num') : nearestEven num den ≤ nearestEven num' den := by
  rw [nearestEven_eq, nearestEven_eq]
  rcases Nat.lt_or_eq_of_le (Nat.div_le_div_right (c := den) h) with hlt | heq
  · exact Nat.le_trans (settle_le ..) (Nat.le_trans hlt (le_settle ..))
  · have hnum := Nat.div_add_mod num den
    have hnum' := Nat.div_add_mod num' den
    rw [heq] at hnum ⊢
    exact settle_mono _ _ (by omega)

theorem nearestEven_mul (hpos : 0 < den) (k : Nat) : nearestEven (k * den) den = k :=
  Nat.eq_of_mul_eq_mul_right hpos (nearestEven_mul_of_dvd hpos (Nat.dvd_mul_left ..))

private def rounded (num den : Nat) : Nat := nearestEven num (den * spacing (num / den)) * spacing (num / den)

private theorem spacing_pos (units : Nat) : 0 < spacing units := Nat.two_pow_pos _

private theorem rounded_le (hpos : 0 < den) {k : Nat} (hdvd : spacing (num / den) ∣ k) (h : num ≤ k * den) :
    rounded num den ≤ k := by
  obtain ⟨count, rfl⟩ := hdvd
  have hcount : num ≤ count * (den * spacing (num / den)) := Nat.le_trans h (Nat.le_of_eq (by ac_rfl))
  have hle := nearestEven_mono (den * spacing (num / den)) hcount
  rw [nearestEven_mul (Nat.mul_pos hpos (spacing_pos _))] at hle
  exact Nat.le_trans (Nat.mul_le_mul_right _ hle) (Nat.le_of_eq (Nat.mul_comm ..))

private theorem le_rounded (hpos : 0 < den) {k : Nat} (hdvd : spacing (num / den) ∣ k) (h : k * den ≤ num) :
    k ≤ rounded num den := by
  obtain ⟨count, rfl⟩ := hdvd
  have hcount : count * (den * spacing (num / den)) ≤ num := Nat.le_trans (Nat.le_of_eq (by ac_rfl)) h
  have hle := nearestEven_mono (den * spacing (num / den)) hcount
  rw [nearestEven_mul (Nat.mul_pos hpos (spacing_pos _))] at hle
  exact Nat.le_trans (Nat.le_of_eq (Nat.mul_comm ..)) (Nat.mul_le_mul_right _ hle)

private theorem log2_mono {m n : Nat} (h : m ≤ n) : m.log2 ≤ n.log2 := by
  rw [Nat.log2_eq_log_two, Nat.log2_eq_log_two]
  exact Nat.log_mono_right h

private theorem rounded_mono (hpos : 0 < den) (h : num ≤ num') : rounded num den ≤ rounded num' den := by
  have hquotient : num / den ≤ num' / den := Nat.div_le_div_right h
  rcases Nat.lt_or_eq_of_le (log2_mono hquotient) with hlt | heq
  · -- The next power of two is a number of both spacings.
    have hbelow : num ≤ 2 ^ ((num / den).log2 + 1) * den :=
      Nat.le_of_lt ((Nat.div_lt_iff_lt_mul hpos).1 Nat.lt_log2_self)
    have hne : num' / den ≠ 0 := fun hzero => by simp [hzero] at hlt
    have habove : 2 ^ (num' / den).log2 * den ≤ num' :=
      (Nat.le_div_iff_mul_le hpos).1 (Nat.log2_self_le hne)
    calc rounded num den
      _ ≤ 2 ^ ((num / den).log2 + 1) := rounded_le hpos (Nat.pow_dvd_pow 2 (by omega)) hbelow
      _ ≤ 2 ^ (num' / den).log2 := Nat.pow_le_pow_right (by decide) hlt
      _ ≤ rounded num' den := le_rounded hpos (Nat.pow_dvd_pow 2 (by omega)) habove
  · have hspacing : spacing (num / den) = spacing (num' / den) := by rw [spacing, spacing, heq]
    rw [rounded, rounded, hspacing]
    exact Nat.mul_le_mul_right _ (nearestEven_mono _ h)

end Quotient

/-! ### Roots -/

/-- A root digit by digit: the digits found are those of the root of all but the last two digits of the square. -/
theorem rootBelow_spec {digits n : Nat} (h : n < 4 ^ digits) :
    rootBelow digits n * rootBelow digits n ≤ n ∧ n < (rootBelow digits n + 1) * (rootBelow digits n + 1) := by
  induction digits generalizing n with
  | zero =>
    obtain rfl : n = 0 := by simpa using h
    decide
  | succ digits ih =>
    have hquotient : n / 4 < 4 ^ digits := by
      rw [Nat.pow_succ] at h
      omega
    obtain ⟨hlow, hhigh⟩ := ih hquotient
    simp only [rootBelow]
    generalize rootBelow digits (n / 4) = r at hlow hhigh ⊢
    have htwice : 2 * r * (2 * r) = 4 * (r * r) := by ring
    have hnext : (2 * r + 1 + 1) * (2 * r + 1 + 1) = 4 * ((r + 1) * (r + 1)) := by ring
    split_ifs with hodd
    · exact ⟨hodd, by omega⟩
    · exact ⟨by omega, Nat.lt_of_not_le hodd⟩

section Root

variable {m n step : Nat}

private theorem nearestRoot_eq (n step : Nat) : nearestRoot n step =
    settle (rootBelow 53 (n / (step * step))) (4 * n) ((2 * rootBelow 53 (n / (step * step)) + 1) * step *
      ((2 * rootBelow 53 (n / (step * step)) + 1) * step)) := rfl

private theorem rootBelow_steps (hpos : 0 < step) (h : n < 4 ^ 53 * (step * step)) :
    rootBelow 53 (n / (step * step)) * step * (rootBelow 53 (n / (step * step)) * step) ≤ n ∧
      n < (rootBelow 53 (n / (step * step)) + 1) * step * ((rootBelow 53 (n / (step * step)) + 1) * step) := by
  have hsquare : 0 < step * step := Nat.mul_pos hpos hpos
  obtain ⟨hlow, hhigh⟩ := rootBelow_spec ((Nat.div_lt_iff_lt_mul hsquare).2 h)
  generalize rootBelow 53 (n / (step * step)) = r at hlow hhigh ⊢
  rw [Nat.mul_mul_mul_comm r, Nat.mul_mul_mul_comm (r + 1)]
  exact ⟨(Nat.le_div_iff_mul_le hsquare).1 hlow, (Nat.div_lt_iff_lt_mul hsquare).1 hhigh⟩

private theorem nearestRoot_mono (h : m ≤ n) (hpos : 0 < step) (hn : n < 4 ^ 53 * (step * step)) :
    nearestRoot m step ≤ nearestRoot n step := by
  have hm := (rootBelow_steps hpos (Nat.lt_of_le_of_lt h hn)).1
  have hn := (rootBelow_steps hpos hn).2
  rw [nearestRoot_eq, nearestRoot_eq]
  generalize rootBelow 53 (m / (step * step)) = r at hm ⊢
  generalize rootBelow 53 (n / (step * step)) = s at hn ⊢
  have hle : r ≤ s := by
    have hlt := Nat.lt_of_mul_lt_mul_right (Nat.mul_self_lt_mul_self_iff.1 (Nat.lt_of_le_of_lt (Nat.le_trans hm h) hn))
    omega
  rcases Nat.lt_or_eq_of_le hle with hlt | rfl
  · exact Nat.le_trans (settle_le ..) (Nat.le_trans hlt (le_settle ..))
  · exact settle_mono _ _ (Nat.mul_le_mul_left 4 h)

private theorem le_nearestRoot (hpos : 0 < step) (hn : n < 4 ^ 53 * (step * step)) {k : Nat}
    (h : k * step * (k * step) ≤ n) : k ≤ nearestRoot n step := by
  have hhigh := (rootBelow_steps hpos hn).2
  have hlt := Nat.lt_of_mul_lt_mul_right (Nat.mul_self_lt_mul_self_iff.1 (Nat.lt_of_le_of_lt h hhigh))
  rw [nearestRoot_eq]
  exact Nat.le_trans (by omega) (le_settle ..)

/-- A root above the middle between two steps is not rounded to the lower one. -/
private theorem lt_nearestRoot (hpos : 0 < step) (hn : n < 4 ^ 53 * (step * step)) {k : Nat}
    (h : (2 * k + 1) * step * ((2 * k + 1) * step) < 4 * n) : k < nearestRoot n step := by
  have hhigh := (rootBelow_steps hpos hn).2
  rw [nearestRoot_eq]
  generalize rootBelow 53 (n / (step * step)) = r at hhigh ⊢
  have hdouble : 4 * ((r + 1) * step * ((r + 1) * step)) = 2 * (r + 1) * step * (2 * (r + 1) * step) := by ring
  have hlt : (2 * k + 1) * step * ((2 * k + 1) * step) < 2 * (r + 1) * step * (2 * (r + 1) * step) := by
    rw [← hdouble]
    omega
  have hle := Nat.lt_of_mul_lt_mul_right (Nat.mul_self_lt_mul_self_iff.1 hlt)
  rcases Nat.lt_or_eq_of_le (show k ≤ r by omega) with hbelow | rfl
  · exact Nat.lt_of_lt_of_le hbelow (le_settle ..)
  · rw [settle, if_neg (Nat.lt_asymm h), if_pos h]
    exact Nat.lt_succ_self k

private theorem nearestRoot_le (hpos : 0 < step) (hn : n < 4 ^ 53 * (step * step)) {k : Nat}
    (h : n ≤ k * step * (k * step)) : nearestRoot n step ≤ k := by
  have hlow := (rootBelow_steps hpos hn).1
  rw [nearestRoot_eq]
  generalize rootBelow 53 (n / (step * step)) = r at hlow ⊢
  have hle : r ≤ k := Nat.le_of_mul_le_mul_right (Nat.mul_self_le_mul_self_iff.1 (Nat.le_trans hlow h)) hpos
  rcases Nat.lt_or_eq_of_le hle with hlt | rfl
  · exact Nat.le_trans (settle_le ..) hlt
  · -- The root is a number of steps.
    have hmiddle : 4 * n < (2 * r + 1) * step * ((2 * r + 1) * step) := by
      nlinarith [Nat.mul_pos hpos hpos]
    rw [settle, if_pos hmiddle]

end Root

/-- The step to which the root of so many units squared is rounded. -/
private def rootStep (n : Nat) : Nat := Nat.pow 2 (n.log2 / 2 - 52)

private def rootUnits (n : Nat) : Nat := nearestRoot n (rootStep n) * rootStep n

section RootUnits

variable {m n k : Nat}

private theorem rootStep_pos (n : Nat) : 0 < rootStep n := Nat.two_pow_pos _

private theorem lt_square (n : Nat) : n < 2 ^ (n.log2 / 2 + 1) * 2 ^ (n.log2 / 2 + 1) := by
  have hlt : n < 2 ^ (n.log2 + 1) := Nat.lt_log2_self
  rw [← Nat.pow_add]
  exact Nat.lt_of_lt_of_le hlt (Nat.pow_le_pow_right (by decide) (by omega))

private theorem square_le (hne : n ≠ 0) : 2 ^ (n.log2 / 2) * 2 ^ (n.log2 / 2) ≤ n := by
  rw [← Nat.pow_add]
  exact Nat.le_trans (Nat.pow_le_pow_right (by decide) (by omega)) (Nat.log2_self_le hne)

private theorem lt_digits (n : Nat) : n < 4 ^ 53 * (rootStep n * rootStep n) := by
  have hdigits : 2 ^ (n.log2 / 2 + 1) ≤ 2 ^ 53 * rootStep n := by
    have hstep : rootStep n = 2 ^ (n.log2 / 2 - 52) := rfl
    rw [hstep, ← Nat.pow_add]
    exact Nat.pow_le_pow_right (by decide) (by omega)
  calc n
    _ < 2 ^ (n.log2 / 2 + 1) * 2 ^ (n.log2 / 2 + 1) := lt_square n
    _ ≤ 2 ^ 53 * rootStep n * (2 ^ 53 * rootStep n) := Nat.mul_le_mul hdigits hdigits
    _ = 4 ^ 53 * (rootStep n * rootStep n) := Nat.mul_mul_mul_comm ..

private theorem rootUnits_le (hdvd : rootStep n ∣ k) (h : n ≤ k * k) : rootUnits n ≤ k := by
  obtain ⟨count, rfl⟩ := hdvd
  rw [Nat.mul_comm (rootStep n)] at h ⊢
  exact Nat.mul_le_mul_right _ (nearestRoot_le (rootStep_pos n) (lt_digits n) h)

private theorem le_rootUnits (hdvd : rootStep n ∣ k) (h : k * k ≤ n) : k ≤ rootUnits n := by
  obtain ⟨count, rfl⟩ := hdvd
  rw [Nat.mul_comm (rootStep n)] at h ⊢
  exact Nat.mul_le_mul_right _ (le_nearestRoot (rootStep_pos n) (lt_digits n) h)

private theorem lt_rootUnits (hdvd : rootStep n ∣ k) (h : (2 * k + rootStep n) * (2 * k + rootStep n) < 4 * n) :
    k < rootUnits n := by
  obtain ⟨count, rfl⟩ := hdvd
  have hmiddle : (2 * count + 1) * rootStep n = 2 * (rootStep n * count) + rootStep n := by ring
  rw [← hmiddle] at h
  rw [Nat.mul_comm (rootStep n)]
  exact Nat.mul_lt_mul_of_pos_right (lt_nearestRoot (rootStep_pos n) (lt_digits n) h) (rootStep_pos n)

private theorem rootUnits_mono (h : m ≤ n) : rootUnits m ≤ rootUnits n := by
  rcases Nat.lt_or_eq_of_le (Nat.div_le_div_right (c := 2) (log2_mono h)) with hlt | heq
  · -- The next power of two is a number of both steps.
    have hne : n ≠ 0 := fun hzero => by simp [hzero] at hlt
    calc rootUnits m
      _ ≤ 2 ^ (m.log2 / 2 + 1) := rootUnits_le (Nat.pow_dvd_pow 2 (by omega)) (Nat.le_of_lt (lt_square m))
      _ ≤ 2 ^ (n.log2 / 2) := Nat.pow_le_pow_right (by decide) hlt
      _ ≤ rootUnits n := le_rootUnits (Nat.pow_dvd_pow 2 (by omega)) (square_le hne)
  · have hstep : rootStep m = rootStep n := by rw [rootStep, rootStep, heq]
    rw [rootUnits, rootUnits, hstep]
    exact Nat.mul_le_mul_right _ (nearestRoot_mono h (rootStep_pos n) (lt_digits n))

end RootUnits

/-! ### Operations -/

/-- The order of the numbers that are not negative. -/
inductive AtMost : Binary64 → Binary64 → Prop
  | finite {m n : Nat} (h : m ≤ n) : AtMost (.finite false m) (.finite false n)
  | infinite (m : Nat) : AtMost (.finite false m) (.infinite false)
  | same : AtMost (.infinite false) (.infinite false)

theorem atMost_ofUnits {num num' den : Nat} (hpos : 0 < den) (h : num ≤ num') :
    AtMost (ofUnits false num den) (ofUnits false num' den) := by
  have hle := rounded_mono hpos h
  change AtMost (if rounded num den < bound then .finite false (rounded num den) else .infinite false)
    (if rounded num' den < bound then .finite false (rounded num' den) else .infinite false)
  split_ifs
  · exact .finite hle
  · exact .infinite _
  · omega
  · exact .same

theorem atMost_ofNat {m n : Nat} (h : m ≤ n) : AtMost (ofNat m) (ofNat n) :=
  atMost_ofUnits Nat.one_pos (Nat.mul_le_mul_right _ h)

private theorem atMost_infinite {num den : Nat} : AtMost (ofUnits false num den) (.infinite false) := by
  unfold ofUnits
  dsimp only
  split_ifs
  · exact .infinite _
  · exact .same

private theorem sqrt_finite (units : Nat) : (finite false units).sqrt = .finite false (rootUnits (units * one)) := by
  rcases Nat.eq_zero_or_pos units with rfl | hpos
  · have hzero : rootUnits 0 = 0 := by decide +kernel
    rw [Nat.zero_mul, hzero, sqrt, if_pos rfl]
  · rw [sqrt, if_neg (Nat.ne_of_gt hpos), if_neg Bool.false_ne_true]
    rfl

namespace AtMost

variable {x y : Binary64}

theorem mul (h : AtMost x y) {units : Nat} (hne : units ≠ 0) : AtMost (x * .finite false units) (y * .finite false units) := by
  have hinfinite : Binary64.infinite false * .finite false units = .infinite false := if_neg hne
  cases h with
  | finite h =>
    rw [mul_finite, mul_finite]
    exact atMost_ofUnits one_pos (Nat.mul_le_mul_right _ h)
  | infinite m =>
    rw [hinfinite, mul_finite]
    exact atMost_infinite
  | same =>
    rw [hinfinite]
    exact .same

theorem sqrt (h : AtMost x y) : AtMost x.sqrt y.sqrt := by
  cases h with
  | finite h =>
    rw [sqrt_finite, sqrt_finite]
    exact .finite (rootUnits_mono (Nat.mul_le_mul_right _ h))
  | infinite m =>
    rw [sqrt_finite]
    exact .infinite _
  | same => exact .same

theorem ceil (h : AtMost x y) : AtMost x.ceil y.ceil := by
  cases h with
  | finite h => exact .finite (Nat.mul_le_mul_right _ (Nat.div_le_div_right (Nat.add_le_add_right h _)))
  | infinite m => exact .infinite _
  | same => exact .same

theorem toNatUpTo_le (h : AtMost x y) (top : Nat) : x.toNatUpTo top ≤ y.toNatUpTo top := by
  cases h with
  | finite h => exact min_le_min_left top (Nat.div_le_div_right h)
  | infinite m => exact min_le_left _ _
  | same => exact Nat.le_refl _

end AtMost

/-! ### Whole roots -/

section WholeRoot

variable {n k : Nat}

/-- The fewer digits a number has, the finer are the steps of its root. -/
private theorem rootStep_dvd (digits : Nat) (h : n < 2 ^ (2 * digits)) (hpos : 0 < digits) (hle : digits ≤ 53) :
    rootStep (n * one * one) * 2 ^ (53 - digits) ∣ one := by
  obtain ⟨e, hone, he⟩ : ∃ e, one = 2 ^ e ∧ 53 ≤ e := ⟨1074, by decide +kernel, by decide⟩
  have hlog : (n * one * one).log2 < 2 * digits + (e + e) := by
    rcases Nat.eq_zero_or_pos n with rfl | hn
    · rw [Nat.zero_mul, Nat.zero_mul, Nat.log2_zero]
      omega
    · have hne : n * one * one ≠ 0 := Nat.ne_of_gt (Nat.mul_pos (Nat.mul_pos hn one_pos) one_pos)
      rw [Nat.log2_lt hne, Nat.mul_assoc, hone, ← Nat.pow_add, Nat.pow_add 2 (2 * digits)]
      exact Nat.mul_lt_mul_of_pos_right h (Nat.two_pow_pos _)
  change 2 ^ ((n * one * one).log2 / 2 - 52) * 2 ^ (53 - digits) ∣ one
  rw [hone] at hlog ⊢
  rw [← Nat.pow_add]
  exact Nat.pow_dvd_pow 2 (by omega)

/-- Squares leave zero or one when they are divided by four. -/
private theorem square_add_three_le (hfour : 4 ∣ n) (h : k * k < n) : k * k + 3 ≤ n := by
  obtain ⟨j, hj⟩ := Nat.even_or_odd' k
  have heven : 2 * j * (2 * j) = 4 * (j * j) := by ring
  have hodd : (2 * j + 1) * (2 * j + 1) = 4 * (j * j + j) + 1 := by ring
  rcases hj with rfl | rfl <;> omega

/-- Half a step is too little to bring a root down to a whole number. -/
private theorem middle_lt {s o : Nat} (hpos : 0 < o) (hstep : s * 2 ^ 26 ≤ o) (hk : k ≤ 2 ^ 27) (h : k * k + 3 ≤ n) :
    (2 * (k * o) + s) * (2 * (k * o) + s) < 4 * (n * o * o) := by
  have hsquare : 0 < o * o := Nat.mul_pos hpos hpos
  have hmixed : k * s * o ≤ 2 * o * o := Nat.mul_le_mul_right o <|
    calc k * s
      _ ≤ 2 ^ 27 * s := Nat.mul_le_mul_right s hk
      _ ≤ 2 * o := by omega
  have hsmall : s * s ≤ o * o := Nat.mul_le_mul (by omega) (by omega)
  have hlarge : (k * k + 3) * (o * o) ≤ n * (o * o) := Nat.mul_le_mul_right _ h
  calc (2 * (k * o) + s) * (2 * (k * o) + s)
    _ = 4 * (k * k * (o * o)) + 4 * (k * s * o) + s * s := by ring
    _ < 4 * ((k * k + 3) * (o * o)) := by linarith
    _ ≤ 4 * (n * o * o) := by linarith

private theorem rootUnits_le_iff (hfour : 4 ∣ n) (hle : n ≤ 2 ^ 54) :
    rootUnits (n * one * one) ≤ k * one ↔ n ≤ k * k := by
  have hstep : rootStep (n * one * one) ∣ one :=
    Nat.dvd_trans (Nat.dvd_mul_right ..) (rootStep_dvd 28 (by omega) (by decide) (by decide))
  have hdvd : ∀ j, rootStep (n * one * one) ∣ j * one := fun j => Nat.dvd_trans hstep (Nat.dvd_mul_left ..)
  have hsquare : ∀ j, j * one * (j * one) = j * j * one * one := fun j => by ring
  constructor
  · intro hroot
    by_contra hlt
    have hbelow : k * k < n := Nat.lt_of_not_le hlt
    have hk : k < 2 ^ 27 := Nat.mul_self_lt_mul_self_iff.1 (Nat.lt_of_lt_of_le hbelow hle)
    refine absurd hroot (Nat.not_le_of_lt ?_)
    rcases Nat.lt_or_eq_of_le hle with hnarrow | rfl
    · have hfine := Nat.le_of_dvd one_pos (rootStep_dvd 27 hnarrow (by decide) (by decide))
      exact lt_rootUnits (hdvd k) (middle_lt one_pos hfine (Nat.le_of_lt hk) (square_add_three_le hfour hbelow))
    · -- The root of 2⁵⁴ is whole.
      have hnext : (k + 1) * one ≤ rootUnits (2 ^ 54 * one * one) := by
        refine le_rootUnits (hdvd _) ?_
        rw [hsquare]
        exact Nat.mul_le_mul_right _ (Nat.mul_le_mul_right _ (Nat.mul_self_le_mul_self hk))
      exact Nat.lt_of_lt_of_le (Nat.mul_lt_mul_of_pos_right (Nat.lt_succ_self k) one_pos) hnext
  · intro h
    refine rootUnits_le (hdvd k) ?_
    rw [hsquare]
    exact Nat.mul_le_mul_right _ (Nat.mul_le_mul_right _ h)

private theorem toNatUpTo_ceil_le_iff (units top : Nat) (h : units ≤ top * one) :
    (finite false units).ceil.toNatUpTo top ≤ k ↔ units ≤ k * one := by
  have hceil : ∀ j, (units + (one - 1)) / one ≤ j ↔ units ≤ j * one := by
    have hpos := one_pos
    intro j
    rw [← Nat.lt_succ_iff, Nat.div_lt_iff_lt_mul hpos, Nat.succ_mul]
    generalize one = o at hpos ⊢
    omega
  rw [ceil, if_neg Bool.false_ne_true, toNatUpTo, if_neg Bool.false_ne_true, Nat.mul_div_cancel _ one_pos,
    Nat.min_eq_right ((hceil top).2 h), hceil]

/-- The root of a multiple of four up to 2⁵⁴ is so far from any whole number below it that nothing is lost when it is
rounded before it is rounded up. -/
theorem toNatUpTo_ceil_sqrt_le_iff (hfour : 4 ∣ n) (hle : n ≤ 2 ^ 54) {top : Nat} (htop : 2 ^ 27 ≤ top) :
    (whole n).sqrt.ceil.toNatUpTo top ≤ k ↔ n ≤ k * k := by
  have hfits : n ≤ top * top := Nat.le_trans hle (Nat.mul_self_le_mul_self htop)
  rw [whole, sqrt_finite, toNatUpTo_ceil_le_iff _ _ ((rootUnits_le_iff hfour hle).2 hfits), rootUnits_le_iff hfour hle]

end WholeRoot

end SheetTemplate.Binary64
