import Mathlib.Analysis.Real.Sqrt
import SheetTemplate.Comment
import SheetTemplate.Proofs.Number.Rounding
import SheetTemplate.Proofs.Text.Words

/-!
# The width of a comment

The width is the largest of some numbers, one for every word and one for the whole text. None of them gets smaller when text
is appended, whether the text ended inside a word or not: a word is only continued, and the number for the whole text comes
from operations that keep the order, rounded as they are. That number is a root rounded up, up to a text of 2⁵² cells; one
cell more, and rounding to binary64 takes it down to a whole number first.
-/

namespace SheetTemplate

namespace Comment

/-! ### The balanced width -/

theorem balancedWidth_mono {m n : Nat} (h : m ≤ n) : balancedWidth m ≤ balancedWidth n := by
  have hfour : Binary64.ofNat 4 = .finite false (4 * Binary64.one) := Binary64.isExact_of_le (by decide)
  have hne : 4 * Binary64.one ≠ 0 := Nat.ne_of_gt (Nat.mul_pos (by decide) Binary64.one_pos)
  rw [balancedWidth, balancedWidth, hfour]
  exact ((Binary64.atMost_ofNat h).mul hne).sqrt.ceil.toNatUpTo_le _

theorem balancedWidth_eq_ceil {total : Nat} (h : total ≤ 2 ^ 52) : balancedWidth total = ⌈√(4 * total : ℝ)⌉₊ := by
  have hfour : 4 * total ≤ 2 ^ 54 := by omega
  refine eq_of_forall_ge_iff fun k => ?_
  have hsquare : (4 * total : ℝ) ≤ (k : ℝ) ^ 2 ↔ 4 * total ≤ k * k := by
    rw [← Nat.pow_two]
    norm_cast
  rw [balancedWidth, Binary64.ofNat_mul_four (by omega),
    Binary64.toNatUpTo_ceil_sqrt_le_iff (Nat.dvd_mul_right ..) hfour (by decide), Nat.ceil_le,
    Real.sqrt_le_left (Nat.cast_nonneg k), hsquare]

/-! ### Least widths -/

private theorem foldl_max_le_iff (xs : List Nat) (m n : Nat) : xs.foldl max m ≤ n ↔ m ≤ n ∧ ∀ x ∈ xs, x ≤ n := by
  induction xs generalizing m with
  | nil => simp
  | cons x xs ih => rw [List.foldl_cons, ih, Nat.max_le, List.forall_mem_cons, and_assoc]

theorem minWidth_le_iff {measure : String → Nat} {text : String} {n : Nat} :
    minWidth measure text ≤ n ↔ (∀ word ∈ Text.words text, measure word ≤ n) ∧ balancedWidth (measure text) ≤ n := by
  rw [minWidth, Nat.max_le, foldl_max_le_iff, List.forall_mem_map]
  simp only [Nat.zero_le, true_and]

theorem le_minWidth {measure : String → Nat} {text word : String} (h : word ∈ Text.words text) :
    measure word ≤ minWidth measure text :=
  (minWidth_le_iff.1 (Nat.le_refl _)).1 word h

/-- Text that is appended never narrows a comment. The width is at least that of every word, and it is otherwise the
root of four times the width of the text, rounded up, where that is at most 2⁵². -/
theorem minWidth_append {measure : String → Nat} (hgrows : ∀ s t, measure s ≤ measure (s ++ t)) (text suffix : String) :
    minWidth measure text ≤ minWidth measure (text ++ suffix) ∧
    (∀ word ∈ Text.words text, measure word ≤ minWidth measure text) ∧
    minWidth measure text = max (((Text.words text).map measure).foldl max 0) (balancedWidth (measure text)) ∧
    (measure text ≤ 2 ^ 52 → balancedWidth (measure text) = ⌈√(4 * measure text : ℝ)⌉₊) := by
  refine ⟨minWidth_le_iff.2 ⟨fun word hword => ?_, ?_⟩, fun word => le_minWidth, rfl, balancedWidth_eq_ceil⟩
  · obtain ⟨more, hmore⟩ := Text.exists_mem_words_append hword suffix
    exact Nat.le_trans (hgrows word more) (le_minWidth hmore)
  · exact Nat.le_trans (balancedWidth_mono (hgrows text suffix)) (minWidth_le_iff.1 (Nat.le_refl _)).2

/-- The text ends inside a word, and every character takes a cell. -/
theorem minWidth_append_inside_word :
    let text := "lorem ip"
    let suffix := "sum dolor"
    (∀ s t : String, s.length ≤ (s ++ t).length) ∧
    minWidth String.length text ≤ minWidth String.length (text ++ suffix) ∧
    (∀ word ∈ Text.words text, word.length ≤ minWidth String.length text) ∧
    minWidth String.length text = max (((Text.words text).map String.length).foldl max 0) (balancedWidth text.length) ∧
    balancedWidth text.length = ⌈√(4 * text.length : ℝ)⌉₊ := by
  have hgrows : ∀ s t : String, s.length ≤ (s ++ t).length := fun s t => by
    rw [String.length_append]
    exact Nat.le_add_right ..
  obtain ⟨happend, hwords, hwidth, hceil⟩ := minWidth_append hgrows "lorem ip" "sum dolor"
  exact ⟨hgrows, happend, hwords, hwidth, hceil (by decide)⟩

/-- A text of one character that takes 2⁵² + 1 cells: the root of four times as many lies above 2²⁷, to which it is
rounded. -/
theorem balancedWidth_below_root :
    let measure : String → Nat := fun s => (2 ^ 52 + 1) * s.length
    (∀ s t, measure s ≤ measure (s ++ t)) ∧ measure "x" = 2 ^ 52 + 1 ∧
    balancedWidth (measure "x") < ⌈√(4 * measure "x" : ℝ)⌉₊ := by
  intro measure
  have hx : measure "x" = 2 ^ 52 + 1 := rfl
  have hbalanced : balancedWidth (2 ^ 52 + 1) = 2 ^ 27 := by decide +kernel
  refine ⟨fun s t => Nat.mul_le_mul_left _ ?_, hx, ?_⟩
  · rw [String.length_append]
    exact Nat.le_add_right ..
  · rw [hx, hbalanced, Nat.lt_ceil]
    refine Real.lt_sqrt_of_sq_lt ?_
    norm_num

end Comment

end SheetTemplate
