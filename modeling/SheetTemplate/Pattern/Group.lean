import SheetTemplate.Pattern.Escape
import SheetTemplate.Text.Table.Letter

/-!
# Groups in patterns

A group captures what it matches, under a name if it has one, or only sets flags. Flags in parentheses
of their own hold to the end of the group around them.
-/

namespace SheetTemplate.Pattern

/-- A character of a group name; digits, points and brackets do not start one. -/
def isNameChar (first : Bool) (c : Char) : Bool :=
  c = '_' || Text.alphabetic.includes c ||
    (!first && (c = '.' || c = '[' || c = ']' || Text.numeric.includes c))

def groupName? (cs : List Char) : Option (List Char × List Char) :=
  let name := cs.takeWhile (· ≠ '>')
  match cs.dropWhile (· ≠ '>'), name with
  | '>' :: rest, c :: more => if isNameChar true c && more.all (isNameChar false) then some (name, rest) else none
  | _, _ => none

/-- What follows an opening parenthesis. -/
inductive Opening where
  /-- Flags for the rest of the group around. -/
  | flags (f : Flags)
  | group (f : Flags) (name : Option (List Char))

/-- The flags after a question mark, up to a colon or a closing parenthesis. `seen` lists the flags so
far with the hyphen, each of which may be given once; a hyphen needs a flag after it. -/
def flags? (negated : Bool) (seen : List Char) (f : Flags) : List Char → Option (Opening × List Char)
  | [] => none
  | c :: rest =>
    if c = ':' || c = ')' then
      if seen.head? = some '-' then none
      else if c = ':' then some (.group f none, rest)
      else if seen.isEmpty then none
      else some (.flags f, rest)
    else if seen.contains c then none
    else if c = '-' then flags? true (c :: seen) f rest
    else if c = 'x' then flags? negated (c :: seen) { f with ignoreBlanks := !negated } rest
    else if c = 'u' then flags? negated (c :: seen) { f with unicode := !negated } rest
    else if c = 'i' || c = 'm' || c = 's' || c = 'U' || c = 'R' then flags? negated (c :: seen) f rest
    else none

/-- What follows an opening parenthesis, and the rest. Groups that look around are refused. -/
def opening? (f : Flags) (cs : List Char) : Option (Opening × List Char) :=
  match f.skip cs with
  | '?' :: 'P' :: '<' :: rest => (groupName? rest).map fun (name, rest) => (.group f (some name), rest)
  | '?' :: '<' :: '=' :: _ | '?' :: '<' :: '!' :: _ => none
  | '?' :: '<' :: rest => (groupName? rest).map fun (name, rest) => (.group f (some name), rest)
  | '?' :: rest => flags? false [] f rest
  | rest => some (.group f none, rest)

end SheetTemplate.Pattern
