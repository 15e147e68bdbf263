import SheetTemplate.Platform

/-!
# Header comments

A comment opens in a box that clips what does not fit, so the box is sized from the text: wide enough
for every word and, for longer texts, about four times as wide as it is tall; then as tall as the
wrapped text. It is never smaller than the box of the platform. Sizes are computed from a measure of
texts, which is their display width.
-/

namespace SheetTemplate

namespace Comment

/-- The rows of a line so far, and the cells used in the last of them. -/
structure Wrap where
  rows : Nat
  used : Nat

/-- Puts a word on the last row, after a gap unless the row is empty, or on a new row. -/
def Wrap.add (width : Nat) (s : Wrap) (cells : Nat) : Wrap :=
  if s.used = 0 then ⟨s.rows, cells⟩
  else if s.used + 1 + cells ≤ width then ⟨s.rows, s.used + 1 + cells⟩
  else ⟨s.rows + 1, cells⟩

def rows (width : Nat) (cells : List Nat) : Nat := (cells.foldl (Wrap.add width) ⟨1, 0⟩).rows

def wrappedLines (measure : String → Nat) (text : String) (width : Nat) : Nat :=
  max 1 (((Text.lines text).map fun line => rows (max 1 width) ((Text.words line).map measure)).foldr (· + ·) 0)

/-- The root of four times a width, rounded up: so wide is a box with the text in a fourth as many lines. -/
def balancedWidth (total : Nat) : Nat :=
  (Binary64.ofNat total * .ofNat 4).sqrt.ceil.toNatUpTo (UInt64.size - 1)

/-- The least width that clips no word and keeps the box wider than tall. -/
def minWidth (measure : String → Nat) (text : String) : Nat :=
  max (((Text.words text).map measure).foldl max 0) (balancedWidth (measure text))

end Comment

/-- A comment with the size of its box, absolute and relative to the box of the platform. -/
structure HeaderComment where
  text : String
  width : Binary64
  lines : Binary64
  xScale : Binary64
  yScale : Binary64
  deriving DecidableEq, Repr

def HeaderComment.sized (measure : String → Nat) (text : String) (box : BoxSize) : HeaderComment :=
  let width := (Binary64.ofNat (Comment.minWidth measure text)).larger box.width
  let rows := Comment.wrappedLines measure text (width.toNatUpTo (UInt64.size - 1))
  let lines := (Binary64.ofNat rows).larger box.lines
  ⟨text, width, lines, width / box.width, lines / box.lines⟩

end SheetTemplate
