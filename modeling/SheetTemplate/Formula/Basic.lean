import SheetTemplate.Text.Basic

/-!
# Formulas

The part of a spreadsheet's formula language in which checks are written. A formula is a tree; its text
is made by `render`, which alone knows about quotes, commas and parentheses.
-/

namespace SheetTemplate

inductive SheetFunction where
  | and | or | not | ifElse
  | isBlank | isNumber | isNa
  | int | len | exact | toText
  | countIf | countBlank | sumProduct
  | matchIn | regexMatch | indirect
  deriving DecidableEq, Repr

/-- The name under which a spreadsheet knows a function. -/
def SheetFunction.name : SheetFunction → String
  | .and => "AND" | .or => "OR" | .not => "NOT" | .ifElse => "IF"
  | .isBlank => "ISBLANK" | .isNumber => "ISNUMBER" | .isNa => "ISNA"
  | .int => "INT" | .len => "LEN" | .exact => "EXACT" | .toText => "TO_TEXT"
  | .countIf => "COUNTIF" | .countBlank => "COUNTBLANK" | .sumProduct => "SUMPRODUCT"
  | .matchIn => "MATCH" | .regexMatch => "REGEXMATCH" | .indirect => "INDIRECT"

inductive Comparison where
  | equal | notEqual | less | atMost | greater | atLeast
  deriving DecidableEq, Repr

def Comparison.symbol : Comparison → String
  | .equal => "=" | .notEqual => "<>" | .less => "<" | .atMost => "<=" | .greater => ">" | .atLeast => ">="

inductive Formula where
  /-- A text that stands for itself: a reference, a number, a truth value. -/
  | atom (text : String)
  | literal (content : String)
  | call (function : SheetFunction) (arguments : List Formula)
  | compare (comparison : Comparison) (left right : Formula)
  /-- A truth value taken as the number zero or one. -/
  | asNumber (truth : Formula)
  deriving Repr, Inhabited

namespace Formula

mutual

def render : Formula → String
  | .atom text => text
  | .literal content => Text.quoted '"' content
  | .call function arguments => function.name ++ "(" ++ ", ".intercalate (renderAll arguments) ++ ")"
  | .compare comparison left right => left.render ++ " " ++ comparison.symbol ++ " " ++ right.render
  | .asNumber truth => "--" ++ truth.render

def renderAll : List Formula → List String
  | [] => []
  | f :: rest => f.render :: renderAll rest

end

def ofNat (n : Nat) : Formula := .atom n.repr

def ofBool (b : Bool) : Formula := .atom (if b then "TRUE" else "FALSE")

def apply (function : SheetFunction) (argument : Formula) : Formula := .call function [argument]

def length (f : Formula) : Nat := f.render.length

theorem renderAll_eq_map (fs : List Formula) : renderAll fs = fs.map render := by
  induction fs with
  | nil => rfl
  | cons f fs ih => simp [renderAll, ih]

end Formula

end SheetTemplate
