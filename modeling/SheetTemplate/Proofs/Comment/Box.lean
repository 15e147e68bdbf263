import SheetTemplate.Proofs.Comment.Width
import SheetTemplate.Proofs.Comment.Wrapping
import SheetTemplate.Proofs.Number.Whole

/-!
# The box of a comment

The width is chosen from the words of the whole text and the rows are counted line by line, but the words are the same, so
no word is too wide for its row and the number of rows is the least there is. Widths and rows are natural numbers until the
box is made. They are then converted to binary64, which rounds some of those above 2⁵³, and the width is converted back to a
machine word before the text is wrapped. What is said of the box is said where these conversions lose nothing.
-/

namespace SheetTemplate

namespace Comment

variable {measure : String → Nat} {text : String}

theorem wrappedLines_replicate (measure : String → Nat) (n width : Nat) :
    wrappedLines measure (String.ofList (List.replicate n '\n')) width = max 1 n := by
  have hrow : ∀ width, rows width ((Text.words "").map measure) = 1 := fun _ => rfl
  rw [wrappedLines, Text.lines_replicate, List.map_replicate, hrow, ← List.sum_eq_foldr, List.sum_replicate]
  exact congrArg (max 1) (Nat.mul_one n)

end Comment

namespace HeaderComment

/-- The box of a comment is at least `w` cells wide, and wide enough for every word of the text. It has at least `l` lines,
and as many as the least number of rows that hold the text. -/
structure Fits (measure : String → Nat) (text : String) (w l : Nat) (c : HeaderComment) (width rows : Nat) : Prop where
  text_eq : c.text = text
  width_eq : c.width = .whole width
  le_width : w ≤ width
  words_le : ∀ word ∈ Text.words text, measure word ≤ width
  rows_isLeast : IsLeast {n | Comment.Holds measure width text n} rows
  lines_eq : c.lines = .whole (max l rows)

/-- Of 2⁵³ + 1 empty lines one is lost when their number is rounded. -/
theorem sized_loses_row (measure : String → Nat) {width : Nat} (hpos : 0 < width) :
    let text := String.ofList (List.replicate (2 ^ 53 + 1) '\n')
    (sized measure text ⟨.whole 18, .whole 4⟩).lines = .whole (2 ^ 53) ∧
    IsLeast {n | Comment.Holds measure width text n} (2 ^ 53 + 1) := by
  intro text
  have hleast : IsLeast {n | Comment.Holds measure width text n} (Comment.wrappedLines measure text width) := by
    refine Comment.wrappedLines_isLeast hpos fun line hline word hword => ?_
    rw [Text.lines_replicate] at hline
    rw [List.eq_of_mem_replicate hline] at hword
    cases hword
  refine ⟨?_, ?_⟩
  · simp only [sized, text, Comment.wrappedLines_replicate]
    decide +kernel
  · rwa [Comment.wrappedLines_replicate] at hleast

/-- A row of 2⁶⁴ cells is split where a machine word counts one cell less. -/
theorem sized_splits_row :
    let measure : String → Nat := fun s =>
      if s = "a" then 2 ^ 64 else if s = "b" then 2 ^ 63 else if s = "c" then 2 ^ 63 - 1 else 0
    (sized measure "a\nb c" ⟨.whole 18, .whole 1⟩).lines = .whole 3 ∧
    Comment.wrappedLines measure "a\nb c" (2 ^ 64) = 2 :=
  ⟨by decide +kernel, by decide +kernel⟩

end HeaderComment

end SheetTemplate
