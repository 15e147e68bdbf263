import SheetTemplate.Number.Binary64

/-!
# Decimal text of numbers

A number is written with the fewest digits that read back to it and, of those, the digits nearest to it;
an exact tie goes up. The digits are written in positional notation whatever the magnitude, a whole
number without a point.
-/

namespace SheetTemplate.Binary64

/-! ### Shortest digits

The magnitudes that round to a number form an interval. In quarters of a unit both ends are whole, and
they belong to the interval when the number is even.
-/

/-- The interval of magnitudes, in quarters of a unit, that round to one number. -/
structure Reach where
  low : Nat
  high : Nat
  closed : Bool

/-- The magnitudes that round to `units`; below a power of two the numbers lie twice as close. -/
def reach (units : Nat) : Reach :=
  let step := spacing units
  let below := if units = Nat.pow 2 52 * step && 1 < step then step else 2 * step
  ⟨4 * units - below, 4 * units + 2 * step, units / step % 2 = 0⟩

def Reach.includes (r : Reach) (num den : Nat) : Bool :=
  if r.closed then r.low * den ≤ num && num ≤ r.high * den else r.low * den < num && num < r.high * den

/-- A power of ten in quarters of a unit, as a quotient. -/
def powerOfTen : Int → Nat × Nat
  | .ofNat e => (4 * one * Nat.pow 10 e, 1)
  | .negSucc e => (4 * one, Nat.pow 10 (e + 1))

/-- The multiple of `10 ^ k` nearest to the number, if one reads back to it. -/
def digitsAt? (units : Nat) (k : Int) : Option Nat :=
  let (num, den) := powerOfTen k
  let floor := 4 * units * den / num
  let rest := 4 * units * den % num
  let below := (reach units).includes (floor * num) den
  let above := (reach units).includes ((floor + 1) * num) den
  if below && (!above || 2 * rest < num) then some floor
  else if above then some (floor + 1)
  else none

/-- The first grid, from `k` downwards, with a multiple that reads back. Below 10⁻¹⁰⁷⁴ no grid is needed:
every finite number is a multiple of that power. -/
def shortestFrom (units : Nat) : Nat → Int → Nat × Int
  | 0, _ => (units * Nat.pow 5 1074, -1074)
  | fuel + 1, k =>
    match digitsAt? units k with
    | some digits => (digits, k)
    | none => shortestFrom units fuel (k - 1)

/-- The fewest digits that read back, and the power of ten they count. The power of ten with as many
zeros as the whole part has digits exceeds the number, so the search starts there. -/
def shortest (units : Nat) : Nat × Int :=
  let places := (Nat.toDigits 10 (units / one)).length
  shortestFrom units (places + 1074) places

/-- `digits · 10 ^ k` in positional notation. -/
def positional (digits : Nat) : Int → String
  | .ofNat e => String.ofList (Nat.toDigits 10 digits ++ List.replicate e '0')
  | .negSucc e =>
    let ds := Nat.toDigits 10 digits
    let padded := List.replicate (e + 2 - ds.length) '0' ++ ds
    let whole := padded.length - (e + 1)
    String.ofList (padded.take whole ++ '.' :: padded.drop whole)

/-- The text of a number: `1`, `0.1`, `-0`, `NaN`, `inf`. -/
def text : Binary64 → String
  | .nan => "NaN"
  | .infinite negative => if negative then "-inf" else "inf"
  | .finite negative units =>
    let magnitude := if units = 0 then "0" else positional (shortest units).1 (shortest units).2
    if negative then "-" ++ magnitude else magnitude

/-! ### Reading -/

def takeDigits (cs : List Char) : List Char × List Char :=
  (cs.takeWhile Char.isDigit, cs.dropWhile Char.isDigit)

/-- A sign at the start of a text, true for minus, and the rest. -/
def takeSign : List Char → Bool × List Char
  | '-' :: rest => (true, rest)
  | '+' :: rest => (false, rest)
  | cs => (false, cs)

/-- An exponent at the start of a text, zero where there is none; an `e` needs digits. -/
def takeExponent? : List Char → Option (Int × List Char)
  | c :: rest =>
    if c = 'e' || c = 'E' then
      let (negative, rest) := takeSign rest
      let (digits, rest) := takeDigits rest
      if digits.isEmpty then none
      else
        let n := Nat.ofDigitChars 10 digits 0
        some (if negative then -(n : Int) else n, rest)
    else some (0, c :: rest)
  | [] => some (0, [])

/-- The digits after a point at the start of a text, none where there is no point. -/
def takeFraction : List Char → List Char × List Char
  | '.' :: rest => takeDigits rest
  | cs => ([], cs)

def ofDigits (negative : Bool) (whole fraction : List Char) (exponent : Int) : Binary64 :=
  ofDecimal negative (Nat.ofDigitChars 10 (whole ++ fraction) 0) (exponent - fraction.length)

/-- The number a text stands for: a decimal with an optional sign, point and exponent, or a name of a
number that is not finite, in any case of letters. -/
def ofText? (s : String) : Option Binary64 :=
  let (negative, cs) := takeSign s.toList
  let name := cs.map Char.toLower
  if name = ['n', 'a', 'n'] then some .nan
  else if name = ['i', 'n', 'f'] || name = ['i', 'n', 'f', 'i', 'n', 'i', 't', 'y'] then some (.infinite negative)
  else
    let (whole, rest) := takeDigits cs
    let (fraction, rest) := takeFraction rest
    match takeExponent? rest with
    | some (exponent, []) =>
      if whole.isEmpty && fraction.isEmpty then none else some (ofDigits negative whole fraction exponent)
    | _ => none

end SheetTemplate.Binary64
