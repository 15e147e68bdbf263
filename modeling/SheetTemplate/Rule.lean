import SheetTemplate.Cell.Range
import SheetTemplate.Options
import SheetTemplate.Schema.Basic

/-!
# Rules and directives

A directive is one check on a column, whatever the platform. A rule is the data validation of a
column, of which a cell can carry one.
-/

namespace SheetTemplate

inductive ListOrigin where
  /-- A boolean field without a list of its own. -/
  | boolean
  | enum
  | foreignKey (link : Link)
  deriving DecidableEq, Repr

/-- Where the values of a list stand. -/
inductive ListSource where
  | literal (values : List Value)
  | range (lookup : Lookup)
  deriving DecidableEq, Repr

inductive Directive where
  | type (type : FieldType)
  | required
  | unique (caseSensitive : Bool)
  | range (min max : Option Binary64) (whole : Bool)
  | length (min max : Option UInt32)
  | pattern (regex : String)
  | list (origin : ListOrigin) (source : ListSource)
  deriving DecidableEq, Repr

def Directive.isList : Directive → Bool
  | .list _ _ => true
  | _ => false

def Directive.isRange : Directive → Bool
  | .range .. => true
  | _ => false

structure CompiledCheck where
  directive : Directive
  realization : Realization
  deriving DecidableEq, Repr

/-- Inclusive bounds of a number, at least one. -/
inductive Bounds where
  | between (low high : Binary64)
  | atLeast (low : Binary64)
  | atMost (high : Binary64)
  deriving DecidableEq, Repr

def Bounds.of? : Option Binary64 → Option Binary64 → Option Bounds
  | some low, some high => some (.between low high)
  | some low, none => some (.atLeast low)
  | none, some high => some (.atMost high)
  | none, none => none

inductive RuleKind where
  | number (whole : Bool) (bounds : Bounds)
  | list (source : ListSource)
  | custom (formula : Formula)

/-- The name of a kind in a workbook. -/
def RuleKind.name : RuleKind → String
  | .number whole _ => if whole then "whole" else "decimal"
  | .list _ => "list"
  | .custom _ => "custom"

structure Rule where
  kind : RuleKind
  allowBlank : Bool := true
  showDropdown : Bool := true
  showError : Bool := true
  errorStyle : AlertStyle := .stop
  message : String := ""

def Rule.numberRange? (min max : Option Binary64) (whole : Bool) : Option Rule :=
  (Bounds.of? min max).map fun bounds => { kind := .number whole bounds }

end SheetTemplate
