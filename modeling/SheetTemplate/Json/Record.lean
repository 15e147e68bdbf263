import SheetTemplate.Json.Basic

/-!
# Reading records from JSON

A reader takes a JSON value to a value of the domain, or refuses it. A record is an object with a member
for every field, or an array of the fields in order; a field may have several names but be given once.
A choice is the name of the alternative, or an object that holds null under that name.
-/

namespace SheetTemplate.Json

/-- A reader of values of one type. -/
abbrev Reader (α : Type) := Json → Option α

/-- The fields of a record, each under its names, none where the field is left out. -/
def fields? (names : List (List String)) : Reader (List (Option Json))
  | .object members => names.mapM fun aliases =>
    match members.filter (fun m => aliases.contains m.1) with
    | [] => some none
    | [m] => some (some m.2)
    | _ => none
  | .array items =>
    if items.length ≤ names.length then
      some (items.map some ++ List.replicate (names.length - items.length) none)
    else none
  | _ => none

def required {α : Type} (read : Reader α) : Option Json → Option α
  | none => none
  | some j => read j

def orElse {α : Type} (default : α) (read : Reader α) : Option Json → Option α
  | none => some default
  | some j => read j

def nullable {α : Type} (read : Reader α) : Reader (Option α)
  | .null => some none
  | j => (read j).map some

/-- Reads one of several alternatives by name. -/
def choice? {α : Type} (alternatives : List (String × α)) : Reader α
  | .string name | .object [(name, .null)] => alternatives.lookup name
  | _ => none

def bool? : Reader Bool
  | .bool b => some b
  | _ => none

def string? : Reader String
  | .string s => some s
  | _ => none

def binary64? : Reader Binary64
  | .integer n => some (.ofInt n)
  | .number x => some x
  | _ => none

def below? (bound : Nat) : Reader Nat
  | .integer n => if 0 ≤ n && n < bound then some n.toNat else none
  | _ => none

def uint16? (j : Json) : Option UInt16 := (below? UInt16.size j).map UInt16.ofNat

def uint32? (j : Json) : Option UInt32 := (below? UInt32.size j).map UInt32.ofNat

def list? {α : Type} (read : Reader α) : Reader (List α)
  | .array items => items.mapM read
  | _ => none

/-- An object whose members are all values of one type. -/
def dictionary? {α : Type} (read : Reader α) : Reader (List (String × α))
  | .object members => members.mapM fun (name, j) => (read j).map (name, ·)
  | _ => none

end SheetTemplate.Json
