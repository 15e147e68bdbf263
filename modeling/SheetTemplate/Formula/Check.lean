import SheetTemplate.Schema.Value

/-!
# Checks

A check has two forms, a formula that is true of valid values and one that is true of invalid values,
both written against the first data cell of a column. A blank cell passes every check but the one that
requires a value, and that one objects only where the row is not wholly blank.
-/

namespace SheetTemplate

/-- The references that the formulas of a column are written against. -/
structure CellContext where
  /-- The first data cell, relative. -/
  cell : String
  column : String
  /-- The columns of the table in the first data row, the row relative. -/
  row : String
  columns : Nat

namespace CellContext

def value (ctx : CellContext) : Formula := .atom ctx.cell

end CellContext

structure Check where
  valid : Formula
  invalid : Formula
  /-- What a valid value is: "unique". -/
  message : String
  /-- Blank cells pass unseen. -/
  ignoresBlank : Bool := true

/-- Which of its two forms a check is written in. -/
inductive Polarity where
  | valid | invalid
  deriving DecidableEq, Repr

def Check.form (c : Check) : Polarity → Formula
  | .valid => c.valid
  | .invalid => c.invalid

namespace Formula

/-- Joins formulas by a function; a single formula stands alone. -/
def merge (function : SheetFunction) : List Formula → Formula
  | [] => .atom ""
  | [f] => f
  | fs => .call function fs

end Formula

namespace Check

/-! ### Checks of single values -/

/-- The type of a value; every value can be taken for text. -/
def typeTest? (type : FieldType) (ctx : CellContext) : Option Check :=
  let x := ctx.value
  let isNumber := Formula.apply .isNumber x
  let truncated := Formula.apply .int x
  match type with
  | .string => none
  | .number => some { valid := isNumber, invalid := .apply .not isNumber, message := "number" }
  | .integer => some {
      valid := .call .ifElse [isNumber, .compare .equal truncated x, .ofBool false]
      invalid := .call .ifElse [isNumber, .compare .notEqual truncated x, .ofBool true]
      message := "integer" }
  | .boolean => some {
      valid := .call .or [.compare .equal x (.ofBool true), .compare .equal x (.ofBool false)]
      invalid := .call .and [.compare .notEqual x (.ofBool true), .compare .notEqual x (.ofBool false)]
      message := "TRUE or FALSE" }

/-- There is a value, unless the whole row is blank. -/
def required (ctx : CellContext) : Check where
  valid := .apply .not (.apply .isBlank ctx.value)
  invalid := .call .and [.apply .isBlank ctx.value,
    .compare .notEqual (.apply .countBlank (.atom ctx.row)) (.ofNat ctx.columns)]
  message := "not blank"
  ignoresBlank := false

/-- A comparison that holds and the opposite one. -/
def comparison (left : Formula) (holds fails : Comparison) (right : Formula) (message : String) : Check where
  valid := .compare holds left right
  invalid := .compare fails left right
  message

/-- The value occurs once in its column. -/
def unique (ctx : CellContext) (caseSensitive : Bool) : Check :=
  if caseSensitive then
    let matching := Formula.call .exact [.atom ctx.column, ctx.value]
    comparison (.apply .sumProduct (.asNumber matching)) .atMost .greater (.ofNat 1) "unique"
  else comparison (.call .countIf [.atom ctx.column, ctx.value]) .less .atLeast (.ofNat 2) "unique"

def number (x : Binary64) : Formula := (Value.number x).formula

def minimum (ctx : CellContext) (bound : Binary64) : Check :=
  comparison ctx.value .atLeast .less (number bound) ("≥ " ++ bound.text)

def maximum (ctx : CellContext) (bound : Binary64) : Check :=
  comparison ctx.value .atMost .greater (number bound) ("≤ " ++ bound.text)

def minLength (ctx : CellContext) (length : UInt32) : Check :=
  comparison (.apply .len ctx.value) .atLeast .less (.ofNat length.toNat) ("length ≥ " ++ length.toNat.repr)

def maxLength (ctx : CellContext) (length : UInt32) : Check :=
  comparison (.apply .len ctx.value) .atMost .greater (.ofNat length.toNat) ("length ≤ " ++ length.toNat.repr)

/-- The whole text of the value matches a regular expression. -/
def pattern (ctx : CellContext) (regex : String) : Check :=
  let matching := Formula.call .regexMatch [.apply .toText ctx.value, .literal ("^(?:" ++ regex ++ ")$")]
  { valid := matching, invalid := .apply .not matching, message := "matching the regular expression " ++ regex }

def inRange (ctx : CellContext) (range : Formula) (message : String) : Check :=
  let place := Formula.call .matchIn [ctx.value, range, .ofNat 0]
  { valid := .apply .isNumber place, invalid := .apply .isNa place, message }

def oneOf (values : List Value) : String := "one of " ++ ", ".intercalate (values.map Value.text)

def inLiterals (ctx : CellContext) (values : List Value) : Check where
  valid := .merge .or (values.map fun v => .compare .equal ctx.value v.formula)
  invalid := .merge .and (values.map fun v => .compare .notEqual ctx.value v.formula)
  message := oneOf values

/-! ### Several checks at once -/

/-- All checks hold, or one of them fails. Checks that ignore blank cells stand together behind one
test for a blank. -/
def conditions? (polarity : Polarity) (cell : String) (checks : List Check) : Option Formula :=
  if checks.isEmpty then none
  else
    let function := match polarity with
      | .valid => SheetFunction.and
      | .invalid => SheetFunction.or
    let forms (checks : List Check) := checks.map (·.form polarity)
    let guarded := checks.filter (·.ignoresBlank)
    let guard := if guarded.isEmpty then [] else [Formula.call .ifElse
      [.apply .isBlank (.atom cell), .ofBool (polarity = .valid), .merge function (forms guarded)]]
    some (.merge function (forms (checks.filter (!·.ignoresBlank)) ++ guard))

/-- An English list: `a`, `a and b`, `a, b, and c`. -/
def readableJoin : List String → String
  | [] => ""
  | [a] => a
  | [a, b] => a ++ " and " ++ b
  | parts => ", ".intercalate parts.dropLast ++ ", and " ++ parts.getLastD ""

def describe (checks : List Check) : String := "Value must be " ++ readableJoin (checks.map (·.message))

end Check

end SheetTemplate
