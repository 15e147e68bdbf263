import SheetTemplate.Pattern.Escape

/-!
# Bracketed classes in patterns

A class lists characters, ranges, escapes, named ASCII classes and nested classes, and may combine
lists by intersection and difference. Among bytes no class can be negated and every character must be
ASCII, since the complement of an ASCII set splits characters.
-/

namespace SheetTemplate.Pattern

def asciiClasses : List String :=
  ["alnum", "alpha", "ascii", "blank", "cntrl", "digit", "graph", "lower", "print", "punct", "space", "upper",
    "word", "xdigit"]

/-- A named class after its opening bracket: whether it is negated, and the rest. -/
def namedClass? : List Char → Option (Bool × List Char)
  | ':' :: rest =>
    let (negated, rest) := match rest with
      | '^' :: rest => (true, rest)
      | rest => (false, rest)
    match rest.dropWhile (· ≠ ':') with
    | ':' :: ']' :: after =>
      if asciiClasses.contains (String.ofList (rest.takeWhile (· ≠ ':'))) then some (negated, after) else none
    | _ => none
  | _ => none

/-- Drops the hyphens at the start of a class, which stand for themselves. -/
def dropHyphens (f : Flags) : Nat → List Char → List Char
  | 0, cs => cs
  | fuel + 1, cs =>
    match cs with
    | '-' :: rest => dropHyphens f fuel (f.skip rest)
    | cs => cs

/-- The start of a class after its bracket: whether it is negated, and the rest after the hyphens, or
the one closing bracket, that stand for themselves there. -/
def openClass (f : Flags) (cs : List Char) : Bool × List Char :=
  let (negated, cs) := match f.skip cs with
    | '^' :: rest => (true, f.skip rest)
    | cs => (false, cs)
  match cs with
  | ']' :: rest => (negated, rest)
  | cs => (negated, dropHyphens f cs.length cs)

def classAtom? (f : Flags) : List Char → Option (Atom × List Char)
  | [] => none
  | '\\' :: rest => escape? f rest
  | c :: rest => some (.literal c false, rest)

/-- Whether an atom may stand in a class. -/
def Atom.isMember (f : Flags) : Atom → Bool
  | .literal c _ => f.unicode || c.toNat < 0x80
  | .set _ => true
  | .position => false

/-- Whether two atoms are the ends of a range. -/
def Atom.isRange (f : Flags) : Atom → Atom → Bool
  | .literal c b, .literal d e => c ≤ d && (Atom.literal c b).isMember f && (Atom.literal d e).isMember f
  | _, _ => false

/-- The character that decides whether the hyphen before it makes a range. Blanks are passed over, and
so are a number sign and the blanks after it, but no more of a comment. -/
def rangeSign? (f : Flags) (cs : List Char) : Option Char :=
  if !f.ignoreBlanks then cs.head?
  else match cs.dropWhile Text.isBlank with
    | '#' :: comment => (comment.dropWhile Text.isBlank).head?
    | cs => cs.head?

/-- One member of a class: an atom, or a range of two. A hyphen before the end of the class or before
another hyphen makes no range. -/
def classMember? (f : Flags) (cs : List Char) : Option (List Char) := do
  let (first, rest) ← classAtom? f cs
  match f.skip rest with
  | [] => none
  | '-' :: after =>
    match rangeSign? f after with
    | some ']' | some '-' => if first.isMember f then some ('-' :: after) else none
    | _ => do
      let (last, rest) ← classAtom? f (f.skip after)
      if first.isRange f last then some rest else none
  | rest => if first.isMember f then some rest else none

/-- The members of a class up to its closing bracket, which is dropped. -/
def classRest? (f : Flags) : Nat → List Char → Option (List Char)
  | 0, _ => none
  | fuel + 1, cs =>
    match f.skip cs with
    | [] => none
    | ']' :: rest => some rest
    | '&' :: '&' :: rest | '-' :: '-' :: rest | '~' :: '~' :: rest => classRest? f fuel rest
    | '[' :: rest =>
      match namedClass? rest with
      | some (negated, rest) => if negated && !f.unicode then none else classRest? f fuel rest
      | none => do
        let (negated, inner) := openClass f rest
        if negated && !f.unicode then none else classRest? f fuel (← classRest? f fuel inner)
    | cs => do classRest? f fuel (← classMember? f cs)

def class? (f : Flags) (cs : List Char) : Option (List Char) :=
  let (negated, inner) := openClass f cs
  if negated && !f.unicode then none else classRest? f (cs.length + 1) inner

end SheetTemplate.Pattern
