import SheetTemplate.Json.Basic
import SheetTemplate.Text.Bytes

/-!
# Reading JSON

A text is read from left to right; each reader returns its value and the rest of the text, or nothing
when the text is malformed. Numbers that are too large for a finite binary64 and surrogates without
their partner are malformed. An object keeps the last of several members with one name.
-/

namespace SheetTemplate.Json

def skipBlanks (cs : List Char) : List Char :=
  cs.dropWhile fun c => c = ' ' || c = '\n' || c = '\r' || c = '\t'

/-! ### Strings -/

/-- The character written by an escape, after its backslash. -/
def escape? : List Char → Option (Char × List Char)
  | '"' :: rest => some ('"', rest)
  | '\\' :: rest => some ('\\', rest)
  | '/' :: rest => some ('/', rest)
  | 'b' :: rest => some ('\x08', rest)
  | 'f' :: rest => some ('\x0c', rest)
  | 'n' :: rest => some ('\n', rest)
  | 'r' :: rest => some ('\r', rest)
  | 't' :: rest => some ('\t', rest)
  | 'u' :: a :: b :: c :: d :: rest => do
    let unit ← Text.hexNumber? [a, b, c, d]
    if unit < 0xD800 || 0xE000 ≤ unit then some (Char.ofNat unit, rest)
    else if 0xDC00 ≤ unit then none
    else match rest with
      | '\\' :: 'u' :: e :: f :: g :: h :: rest => do
        let second ← Text.hexNumber? [e, f, g, h]
        if second < 0xDC00 || 0xE000 ≤ second then none
        else some (Char.ofNat (0x10000 + (unit - 0xD800) * 0x400 + (second - 0xDC00)), rest)
      | _ => none
  | _ => none

/-- The rest of a string after its opening quote; `read` holds the characters so far in reverse. -/
def stringRest? : Nat → List Char → List Char → Option (String × List Char)
  | 0, _, _ => none
  | _ + 1, _, [] => none
  | _ + 1, read, '"' :: rest => some (String.ofList read.reverse, rest)
  | fuel + 1, read, '\\' :: rest => do
    let (c, rest) ← escape? rest
    stringRest? fuel (c :: read) rest
  | fuel + 1, read, c :: rest => if c.toNat < 0x20 then none else stringRest? fuel (c :: read) rest

/-! ### Numbers -/

/-- A whole number that fits 64 bits, signed or not. -/
def fitsWord (n : Int) : Bool := Int64.minValue.toInt ≤ n && n < UInt64.size

/-- A number: digits without a leading zero, then perhaps a fraction and an exponent. -/
def number? (cs : List Char) : Option (Json × List Char) := do
  let (negative, cs) := match cs with
    | '-' :: rest => (true, rest)
    | cs => (false, cs)
  let (whole, afterWhole) := Binary64.takeDigits cs
  let (fraction, afterFraction) := Binary64.takeFraction afterWhole
  let (exponent, rest) ← Binary64.takeExponent? afterFraction
  if whole.isEmpty || (whole.head? = some '0' && whole.length ≠ 1) then none
  else if afterWhole.head? = some '.' && fraction.isEmpty then none
  else
    let n := Nat.ofDigitChars 10 whole 0
    let signed : Int := if negative then -(n : Int) else n
    let isWhole := afterWhole.head? ≠ some '.' && afterWhole.head? ≠ some 'e' && afterWhole.head? ≠ some 'E'
    if isWhole && fitsWord signed && !(negative && n = 0) then some (.integer signed, rest)
    else
      let x := Binary64.ofDigits negative whole fraction exponent
      if x.isFinite then some (.number x, rest) else none

/-! ### Values -/

/-- Adds a member in front, unless a later one has its name. -/
def consMember (name : String) (j : Json) (members : List (String × Json)) : List (String × Json) :=
  if members.any (·.1 = name) then members else (name, j) :: members

mutual

/-- A value; nesting and length are bounded by the fuel. -/
def value? : Nat → List Char → Option (Json × List Char)
  | 0, _ => none
  | fuel + 1, cs =>
    match skipBlanks cs with
    | 'n' :: 'u' :: 'l' :: 'l' :: rest => some (.null, rest)
    | 't' :: 'r' :: 'u' :: 'e' :: rest => some (.bool true, rest)
    | 'f' :: 'a' :: 'l' :: 's' :: 'e' :: rest => some (.bool false, rest)
    | '"' :: rest => (stringRest? fuel [] rest).map fun (s, rest) => (.string s, rest)
    | '[' :: rest =>
      match skipBlanks rest with
      | ']' :: rest => some (.array [], rest)
      | rest => (items? fuel rest).map fun (items, rest) => (.array items, rest)
    | '\x7b' :: rest =>
      match skipBlanks rest with
      | '\x7d' :: rest => some (.object [], rest)
      | rest => (members? fuel rest).map fun (members, rest) => (.object members, rest)
    | cs => number? cs

def items? : Nat → List Char → Option (List Json × List Char)
  | 0, _ => none
  | fuel + 1, cs => do
    let (j, rest) ← value? fuel cs
    match skipBlanks rest with
    | ',' :: rest => do
      let (items, rest) ← items? fuel rest
      some (j :: items, rest)
    | ']' :: rest => some ([j], rest)
    | _ => none

def members? : Nat → List Char → Option (List (String × Json) × List Char)
  | 0, _ => none
  | fuel + 1, cs =>
    match skipBlanks cs with
    | '"' :: rest => do
      let (name, rest) ← stringRest? fuel [] rest
      match skipBlanks rest with
      | ':' :: rest => do
        let (j, rest) ← value? fuel rest
        match skipBlanks rest with
        | ',' :: rest => do
          let (members, rest) ← members? fuel rest
          some (consMember name j members, rest)
        | '\x7d' :: rest => some ([(name, j)], rest)
        | _ => none
      | _ => none
    | _ => none

end

/-- Reads a whole text. A reader spends at most two units of fuel on each character, so twice the length
is enough. -/
def parse? (text : String) : Option Json := do
  let cs := text.toList
  let (j, rest) ← value? (2 * cs.length + 2) cs
  if (skipBlanks rest).isEmpty then some j else none

end SheetTemplate.Json
