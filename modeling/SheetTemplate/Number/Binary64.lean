/-!
# Binary64 numbers

A finite number is a whole count of units of 2⁻¹⁰⁷⁴, the distance between the smallest numbers, so equal
numbers are equal counts and order is the order of integers. Every operation computes its exact result
as a quotient of natural numbers and rounds it once, to the nearest number and on a tie to the even one.
-/

namespace SheetTemplate

/-- A binary floating-point number of 64 bits; `units` counts multiples of 2⁻¹⁰⁷⁴. -/
inductive Binary64 where
  | nan
  | infinite (negative : Bool)
  | finite (negative : Bool) (units : Nat)
  deriving DecidableEq, Repr, Inhabited

namespace Binary64

/-- The units in one. -/
def one : Nat := Nat.pow 2 1074

/-- The first magnitude, in units, that is too large for a finite number. -/
def bound : Nat := Nat.pow 2 2098

/-- The quotient rounded to the nearest whole number, a tie to the even one. -/
def nearestEven (num den : Nat) : Nat :=
  let rest := num % den
  if 2 * rest < den then num / den
  else if den < 2 * rest then num / den + 1
  else num / den + num / den % 2

/-- The distance, in units, between the numbers around a magnitude: 53 significant bits. -/
def spacing (units : Nat) : Nat := Nat.pow 2 (units.log2 - 52)

/-- The number nearest to `num / den` units. -/
def ofUnits (negative : Bool) (num den : Nat) : Binary64 :=
  let step := spacing (num / den)
  let units := nearestEven num (den * step) * step
  if units < bound then .finite negative units else .infinite negative

/-! ### Integers -/

def ofNat (n : Nat) : Binary64 := ofUnits false (n * one) 1

def ofInt (n : Int) : Binary64 := ofUnits (n < 0) (n.natAbs * one) 1

/-- The number read from a significand and a power of ten. -/
def ofDecimal (negative : Bool) (significand : Nat) (exponent : Int) : Binary64 :=
  if significand = 0 then .finite negative 0
  else match exponent with
    | .ofNat e => if e < 310 then ofUnits negative (significand * Nat.pow 10 e * one) 1 else .infinite negative
    | .negSucc e =>
      if e < (Nat.toDigits 10 significand).length + 330 then ofUnits negative (significand * one) (Nat.pow 10 (e + 1))
      else .finite negative 0

/-- The whole number below a magnitude, at most `top`; negative numbers and NaN give zero. -/
def toNatUpTo (top : Nat) : Binary64 → Nat
  | .nan => 0
  | .infinite negative => if negative then 0 else top
  | .finite negative units => if negative then 0 else min top (units / one)

/-! ### Classes and order -/

def isFinite : Binary64 → Bool
  | .finite _ _ => true
  | _ => false

def isNaN : Binary64 → Bool
  | .nan => true
  | _ => false

/-- A finite number without a fraction. -/
def isWhole : Binary64 → Bool
  | .finite _ units => units % one = 0
  | _ => false

/-- The finite number as a signed count of units. -/
def signedUnits (negative : Bool) (units : Nat) : Int :=
  if negative then -(units : Int) else units

/-- Strict order; NaN is unordered and the two zeros are equal. -/
def less : Binary64 → Binary64 → Bool
  | .finite s m, .finite t n => signedUnits s m < signedUnits t n
  | .infinite s, .infinite t => s && !t
  | .infinite s, .finite _ _ => s
  | .finite _ _, .infinite t => !t
  | _, _ => false

/-- The larger of two numbers, the first of equal ones; a NaN gives way to the other. -/
def larger (x y : Binary64) : Binary64 :=
  if x.isNaN || x.less y then y else x

/-! ### Arithmetic -/

def mul : Binary64 → Binary64 → Binary64
  | .finite s m, .finite t n => ofUnits (s != t) (m * n) one
  | .infinite s, .infinite t => .infinite (s != t)
  | .infinite s, .finite t n => if n = 0 then .nan else .infinite (s != t)
  | .finite s m, .infinite t => if m = 0 then .nan else .infinite (s != t)
  | _, _ => .nan

def div : Binary64 → Binary64 → Binary64
  | .finite s m, .finite t n =>
    if n = 0 then (if m = 0 then .nan else .infinite (s != t)) else ofUnits (s != t) (m * one) n
  | .infinite s, .finite t _ => .infinite (s != t)
  | .finite s _, .infinite t => .finite (s != t) 0
  | _, _ => .nan

/-- The greatest number of so many binary digits whose square is at most `n`. -/
def rootBelow : Nat → Nat → Nat
  | 0, _ => 0
  | digits + 1, n =>
    let r := 2 * rootBelow digits (n / 4)
    if (r + 1) * (r + 1) ≤ n then r + 1 else r

/-- The root of a number in steps, rounded to the nearest step and on a tie to the even one. The steps are chosen so
that it has 53 digits. -/
def nearestRoot (n step : Nat) : Nat :=
  let r := rootBelow 53 (n / (step * step))
  let middle := (2 * r + 1) * step
  if 4 * n < middle * middle then r
  else if middle * middle < 4 * n then r + 1
  else r + r % 2

def sqrt : Binary64 → Binary64
  | .finite negative units =>
    if units = 0 then .finite negative 0
    else if negative then .nan
    else
      -- The root of `units` units is the root of this many units squared.
      let n := units * one
      let step := Nat.pow 2 (n.log2 / 2 - 52)
      .finite false (nearestRoot n step * step)
  | .infinite negative => if negative then .nan else .infinite false
  | .nan => .nan

def ceil : Binary64 → Binary64
  | .finite negative units =>
    .finite negative (if negative then units / one * one else (units + (one - 1)) / one * one)
  | x => x

instance : Mul Binary64 := ⟨mul⟩

instance : Div Binary64 := ⟨div⟩

end Binary64

end SheetTemplate
