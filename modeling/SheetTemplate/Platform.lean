import SheetTemplate.Number.Decimal
import SheetTemplate.Schema.Value
import SheetTemplate.Text.Basic

/-!
# Platforms

What a spreadsheet platform can do is a profile: how it realizes each constraint on a field of each
type, and the limits it sets to sheets, names and formulas.
-/

namespace SheetTemplate

inductive Platform where
  | excel | googleSheets
  deriving DecidableEq, Repr

def Platform.name : Platform → String
  | .excel => "Excel" | .googleSheets => "Google Sheets"

inductive NativeKind where
  /-- The rule does not allow blank cells. -/
  | rejectBlank
  | numberRange
  | inlineList
  /-- A dropdown of the values in a range. -/
  | rangeList
  deriving DecidableEq, Repr

inductive FormulaShape where
  | countMatches (caseSensitive : Bool)
  | textLength
  | regexMatch
  | typeTest
  | comparison
  | membership
  deriving DecidableEq, Repr

inductive Realization where
  | native (kind : NativeKind)
  | formula (shape : FormulaShape)
  | unsupported
  deriving DecidableEq, Repr

namespace Realization

def isSupported (r : Realization) : Bool := r ≠ .unsupported

def isFormula : Realization → Bool
  | .formula _ => true
  | _ => false

end Realization

inductive WidthUnit where
  | characters
  | pixels (perCharacter : Binary64)
  deriving DecidableEq, Repr

/-- The size of a comment box: characters in a line, and lines. -/
structure BoxSize where
  width : Binary64
  lines : Binary64
  deriving DecidableEq, Repr

structure Profile where
  platform : Platform
  maxRows : UInt32
  maxColumns : UInt32
  maxSheetName : Nat
  forbiddenInSheetName : List Char
  maxFormula : Option Nat
  maxInlineList : Option Nat
  /-- Formulas reach other sheets through `INDIRECT` only. -/
  indirect : Bool
  widthUnit : WidthUnit
  commentBox : BoxSize
  /-- How the list of TRUE and FALSE is realized. -/
  booleanList : Realization
  /-- Columns below a header comment can be hidden. -/
  hidesCommented : Bool
  realize : FieldType → ConstraintKind → Realization

namespace Profile

/-- Lengths are tested on strings only, bounds on numbers only; the rest depends on the platform. -/
def realization (pattern enum : Realization) : FieldType → ConstraintKind → Realization
  | _, .required => .native .rejectBlank
  | .string, .unique => .formula (.countMatches true)
  | _, .unique => .formula (.countMatches false)
  | .integer, .minimum | .integer, .maximum | .number, .minimum | .number, .maximum => .native .numberRange
  | .string, .minLength | .string, .maxLength => .formula .textLength
  | .string, .pattern => pattern
  | _, .enum => enum
  | _, .foreignKey => .native .rangeList
  | _, _ => .unsupported

def excel : Profile where
  platform := .excel
  maxRows := 1048576
  maxColumns := 16384
  maxSheetName := 31
  forbiddenInSheetName := ['[', ']', ':', '*', '?', '/', '\\']
  maxFormula := some 255
  maxInlineList := some 255
  indirect := false
  widthUnit := .characters
  commentBox := ⟨.ofNat 18, .ofNat 4⟩
  booleanList := .native .inlineList
  hidesCommented := false
  realize := realization .unsupported (.native .inlineList)

def googleSheets : Profile where
  platform := .googleSheets
  maxRows := 10000000
  maxColumns := 18278
  maxSheetName := 100
  forbiddenInSheetName := []
  maxFormula := none
  maxInlineList := none
  indirect := true
  widthUnit := .pixels (.ofDecimal false 77 (-1))
  commentBox := ⟨.ofNat 18, .ofNat 4⟩
  booleanList := .native .inlineList
  hidesCommented := true
  realize := realization (.formula .regexMatch) (.native .rangeList)

def refuseSheetName? (p : Profile) (name : String) : Option String :=
  if Text.isAllBlank name then some "name is empty"
  else if p.maxSheetName < name.length then
    some (name.length.repr ++ " characters (max: " ++ p.maxSheetName.repr ++ ")")
  else (name.toList.find? p.forbiddenInSheetName.contains).map fun c =>
    "character '" ++ String.singleton c ++ "' is not allowed"

end Profile

def Platform.profile : Platform → Profile
  | .excel => .excel
  | .googleSheets => .googleSheets

end SheetTemplate
