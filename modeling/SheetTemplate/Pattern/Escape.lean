import SheetTemplate.Pattern.Property
import SheetTemplate.Text.Basic
import SheetTemplate.Text.Bytes

/-!
# Escapes in patterns

What a backslash and the characters after it stand for: one character, a set of characters, or a
position in the text. An escape that stands for nothing makes the pattern invalid.
-/

namespace SheetTemplate.Pattern

/-- The flags that decide how the rest of a group is read. -/
structure Flags where
  /-- Blanks and comments between tokens are ignored. -/
  ignoreBlanks : Bool := false
  /-- Characters are code points; otherwise they are bytes, and a set must be ASCII. -/
  unicode : Bool := true

/-- Drops blanks and comments; a comment runs from a number sign to the end of its line. -/
def dropIgnored (inComment : Bool) : List Char → List Char
  | [] => []
  | c :: rest =>
    if inComment then dropIgnored (c ≠ '\n') rest
    else if Text.isBlank c then dropIgnored false rest
    else if c = '#' then dropIgnored true rest
    else c :: rest

/-- The text from the next token on. -/
def Flags.skip (f : Flags) (cs : List Char) : List Char := if f.ignoreBlanks then dropIgnored false cs else cs

/-- What an escape stands for. -/
inductive Atom where
  /-- A character; `byte` when it is written as a byte of two hexadecimal digits. -/
  | literal (c : Char) (byte : Bool)
  | set (negated : Bool)
  | position

/-! ### Hexadecimal escapes -/

/-- The character with the number that digits write. -/
def charOfHex? (digits : List Char) : Option Char := do
  let n ← Text.hexNumber? digits
  if !digits.isEmpty && n.isValidChar then some (Char.ofNat n) else none

def takeHex? (f : Flags) : Nat → List Char → Option (List Char × List Char)
  | 0, cs => some ([], cs)
  | _ + 1, [] => none
  | n + 1, c :: rest =>
    if (Text.hexDigit? c).isNone then none
    else (takeHex? f n (f.skip rest)).map fun (digits, rest) => (c :: digits, rest)

/-- Takes characters up to a closing brace, which is dropped. -/
def takeBraced? (f : Flags) : Nat → List Char → Option (List Char × List Char)
  | 0, _ => none
  | fuel + 1, cs =>
    match f.skip cs with
    | [] => none
    | '\x7d' :: rest => some ([], rest)
    | c :: rest => (takeBraced? f fuel rest).map fun (inside, rest) => (c :: inside, rest)

/-- A hexadecimal escape after its letter, with a fixed number of digits or any number in braces. -/
def hexEscape? (f : Flags) (digits : Nat) (cs : List Char) : Option (Atom × List Char) := do
  match f.skip cs with
  | '\x7b' :: rest =>
    let (inside, rest) ← takeBraced? f (rest.length + 1) rest
    some (.literal (← charOfHex? inside) false, f.skip rest)
  | cs =>
    let (inside, rest) ← takeHex? f digits cs
    some (.literal (← charOfHex? inside) (digits = 2), rest)

/-! ### Sets and positions -/

def propertyEscape? (f : Flags) (cs : List Char) : Option (Atom × List Char) := do
  if !f.unicode then none
  else match f.skip cs with
    | [] => none
    | '\x7b' :: rest =>
      let (query, rest) ← takeBraced? f (rest.length + 1) rest
      if isKnownSet query then some (.set false, rest) else none
    | c :: rest => if isKnownProperty [c] then some (.set false, f.skip rest) else none

/-- A letter or hyphen, of which the names of word bounds are made. -/
def isBoundChar (c : Char) : Bool := ('A' ≤ c && c ≤ 'Z') || ('a' ≤ c && c ≤ 'z') || c = '-'

/-- A word bound after its letter. Braces with a name choose the side; other braces count repetitions. -/
def wordBound? (f : Flags) (cs : List Char) : Option (Atom × List Char) :=
  match cs with
  | '\x7b' :: inner =>
    match f.skip inner with
    | [] => none
    | c :: _ =>
      if !isBoundChar c then some (.position, cs)
      else do
        let (name, rest) ← takeBraced? f (inner.length + 1) inner
        if ["start", "end", "start-half", "end-half"].contains (String.ofList name) then some (.position, rest)
        else none
  | cs => some (.position, cs)

/-- An ASCII character that an escape leaves as it is: neither letter nor digit nor angle bracket. -/
def isEscapable (c : Char) : Bool := c.toNat < 0x80 && !c.isAlphanum && c ≠ '<' && c ≠ '>'

def controlChar? : Char → Option Char
  | 'a' => some '\x07'
  | 't' => some '\t'
  | 'n' => some '\n'
  | 'v' => some '\x0b'
  | 'f' => some '\x0c'
  | 'r' => some '\r'
  | _ => none

/-- What stands after a backslash, and the rest of the pattern. -/
def escape? (f : Flags) : List Char → Option (Atom × List Char)
  | [] => none
  | c :: rest =>
    if c = 'x' then hexEscape? f 2 rest
    else if c = 'u' then hexEscape? f 4 rest
    else if c = 'U' then hexEscape? f 8 rest
    else if c = 'p' || c = 'P' then propertyEscape? f rest
    else if c = 'd' || c = 's' || c = 'w' then some (.set false, rest)
    else if c = 'D' || c = 'S' || c = 'W' then if f.unicode then some (.set true, rest) else none
    else if c = 'b' then wordBound? f rest
    else if c = 'B' || c = 'A' || c = 'z' || c = '<' || c = '>' then some (.position, rest)
    else if isEscapable c then some (.literal c false, rest)
    else (controlChar? c).map fun control => (.literal control false, rest)

end SheetTemplate.Pattern
