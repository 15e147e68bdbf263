import SheetTemplate.Formula.Basic
import SheetTemplate.Number.Decimal

/-!
# Types, constraints and values

A field has a type, may declare constraints, and may list its values. A whole number written as `1` and one
written as `1.0` are different values with one text.
-/

namespace SheetTemplate

inductive FieldType where
  | string | integer | number | boolean
  deriving DecidableEq, Repr, Hashable

namespace FieldType

def all : List FieldType := [.string, .integer, .number, .boolean]

def name : FieldType → String
  | .string => "string" | .integer => "integer" | .number => "number" | .boolean => "boolean"

def isNumeric : FieldType → Bool
  | .integer | .number => true
  | .string | .boolean => false

end FieldType

/-- The constraints a field may declare, and the reference to another table. -/
inductive ConstraintKind where
  | required | unique | minimum | maximum | minLength | maxLength | pattern | enum | foreignKey
  deriving DecidableEq, Repr

namespace ConstraintKind

def all : List ConstraintKind :=
  [.required, .unique, .minimum, .maximum, .minLength, .maxLength, .pattern, .enum, .foreignKey]

def name : ConstraintKind → String
  | .required => "required" | .unique => "unique" | .minimum => "minimum" | .maximum => "maximum"
  | .minLength => "minLength" | .maxLength => "maxLength" | .pattern => "pattern" | .enum => "enum"
  | .foreignKey => "foreignKey"

end ConstraintKind

/-! ### Values -/

/-- A member of a declared list. -/
inductive Value where
  | boolean (b : Bool)
  | integer (n : Int)
  | number (x : Binary64)
  | string (s : String)
  deriving DecidableEq, Repr

namespace Value

/-- The text a cell shows for a value. -/
def text : Value → String
  | .boolean b => if b then "TRUE" else "FALSE"
  | .integer n => n.repr
  | .number x => x.text
  | .string s => s

/-- The value as it stands in a formula. -/
def formula : Value → Formula
  | .string s => .literal s
  | v => .atom v.text

/-- Whether a field of the given type accepts the value. Integers are numbers, and numbers without a
fraction are integers. -/
def hasType : Value → FieldType → Bool
  | .boolean _, .boolean => true
  | .integer _, .integer | .integer _, .number => true
  | .number x, .integer => x.isWhole
  | .number _, .number => true
  | .string _, .string => true
  | _, _ => false

/-- Whether a spreadsheet would take the value for a formula or an escaped text. -/
def looksLikeFormula : Value → Bool
  | .string s => match s.toList with
    | c :: _ => c = '+' || c = '=' || c = '\''
    | [] => false
  | _ => false

end Value

end SheetTemplate
