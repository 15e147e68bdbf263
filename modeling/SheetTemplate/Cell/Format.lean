import SheetTemplate.Text.Bytes

/-!
# Cell formats

The looks a template gives to cells: bold text and a solid fill. A color is written as six hexadecimal
digits after a number sign. It is read by bytes, two for each part.
-/

namespace SheetTemplate

structure Color where
  red : UInt8
  green : UInt8
  blue : UInt8
  deriving DecidableEq, Repr

namespace Color

inductive Fault where
  /-- The text is no color. -/
  | malformed
  /-- The text was to be cut where it cannot be. -/
  | cut
  deriving DecidableEq, Repr

/-- The part written by the two bytes from an offset on. -/
def part (digits : String) (offset : Nat) : Except Fault UInt8 :=
  match Text.between? digits offset (offset + 2) with
  | none => .error .cut
  | some pair =>
    match Text.hexByte? pair.toList with
    | none => .error .malformed
    | some part => .ok part

/-- Reads six bytes of digits after any number of number signs. -/
def read (s : String) : Except Fault Color :=
  let digits := String.ofList (s.toList.dropWhile (· = '#'))
  if digits.utf8ByteSize ≠ 6 ∨ digits.toList.all Char.isHexDigit = false then .error .malformed
  else do return ⟨← part digits 0, ← part digits 2, ← part digits 4⟩

def ofText? (s : String) : Option Color := (read s).toOption

/-- The two lowercase digits of a part. -/
def digits (part : UInt8) : List Char :=
  [Nat.digitChar (part.toNat / 16), Nat.digitChar (part.toNat % 16)]

/-- Six lowercase digits after one number sign. -/
def text (c : Color) : String :=
  String.ofList ('#' :: (digits c.red ++ digits c.green ++ digits c.blue))

def refusal (s : String) : String := "invalid color '" ++ s ++ "'"

end Color

structure CellFormat where
  bold : Bool := false
  fill : Option Color := none
  deriving DecidableEq, Repr

def CellFormat.header : CellFormat := ⟨true, some ⟨211, 211, 211⟩⟩

def CellFormat.invalid : CellFormat := ⟨false, some ⟨255, 199, 206⟩⟩

end SheetTemplate
