import SheetTemplate.Pattern.Bracket
import SheetTemplate.Pattern.Group

/-!
# Validity of patterns

A pattern is a regular expression over Unicode text without references to groups and without groups
that look around. It is read once from left to right; what it matches does not matter here.
-/

namespace SheetTemplate.Pattern

/-- The decimal digits at the start of a text, with what may be ignored between them. -/
def takeCount (f : Flags) : Nat → List Char → List Char × List Char
  | 0, cs => ([], cs)
  | fuel + 1, cs =>
    match cs with
    | [] => ([], [])
    | c :: rest =>
      if c.isDigit then
        let (digits, rest) := takeCount f fuel (f.skip rest)
        (c :: digits, rest)
      else ([], cs)

/-- A count with blanks around it, none where there are no digits; too large a count makes the pattern
invalid. -/
def count? (f : Flags) (cs : List Char) : Option (Option Nat × List Char) :=
  let cs := cs.dropWhile Text.isBlank
  let (digits, rest) := takeCount f cs.length cs
  let n := Nat.ofDigitChars 10 digits 0
  if digits.isEmpty then some (none, rest.dropWhile Text.isBlank)
  else if n < UInt32.size then some (some n, rest.dropWhile Text.isBlank)
  else none

/-- A counted repetition after its opening brace: `3`, `3,` or `3,5`, and perhaps a question mark. -/
def counted? (f : Flags) (cs : List Char) : Option (List Char) := do
  let (least, rest) ← count? f (f.skip cs)
  let least ← least
  let rest ← match rest with
    | ',' :: rest =>
      match f.skip rest with
      | '\x7d' :: rest => some ('\x7d' :: rest)
      | rest => do
        let (most, rest) ← count? f rest
        let most ← most
        if least ≤ most then some rest else none
    | rest => some rest
  match rest with
  | '\x7d' :: rest => match f.skip rest with
    | '?' :: rest => some rest
    | rest => some rest
  | _ => none

/-- Reads a group up to its closing parenthesis or the end of the pattern. `names` are the group names
so far, and `repeatable` tells whether a repetition may follow. The result is the rest of the pattern,
from the parenthesis on, and the names. -/
def groupRest? : Nat → Flags → List (List Char) → Bool → List Char → Option (List Char × List (List Char))
  | 0, _, _, _, _ => none
  | fuel + 1, f, names, repeatable, cs =>
    match f.skip cs with
    | [] => some ([], names)
    | ')' :: rest => some (')' :: rest, names)
    | '|' :: rest => groupRest? fuel f names false rest
    | '(' :: rest => do
      match ← opening? f rest with
      | (.flags f, rest) => groupRest? fuel f names false rest
      | (.group inner name, rest) =>
        if (name.map names.contains).getD false then none
        else match ← groupRest? fuel inner (name.toList ++ names) false rest with
          | (')' :: rest, names) => groupRest? fuel f names true rest
          | _ => none
    | '[' :: rest => do groupRest? fuel f names true (← class? f rest)
    | '\x7b' :: rest => do if repeatable then groupRest? fuel f names true (← counted? f rest) else none
    | '\\' :: rest => do
      match ← escape? f rest with
      | (.literal c byte, rest) =>
        if !f.unicode && byte && 0x80 ≤ c.toNat then none else groupRest? fuel f names true rest
      | (_, rest) => groupRest? fuel f names true rest
    | '.' :: rest => if f.unicode then groupRest? fuel f names true rest else none
    | c :: rest =>
      if c = '?' || c = '*' || c = '+' then
        if !repeatable then none
        else match rest with
          | '?' :: rest => groupRest? fuel f names true rest
          | rest => groupRest? fuel f names true rest
      else groupRest? fuel f names true rest

def isValid (pattern : String) : Bool :=
  let cs := pattern.toList
  match groupRest? (cs.length + 1) {} [] false cs with
  | some ([], _) => true
  | _ => false

end SheetTemplate.Pattern
