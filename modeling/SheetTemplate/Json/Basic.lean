import SheetTemplate.Number.Decimal

/-!
# JSON values

The form in which packages, options and answers are exchanged. A number written without point and
exponent stays a whole number when it fits 64 bits, signed or not; every other number is a binary64.
-/

namespace SheetTemplate

inductive Json where
  | null
  | bool (b : Bool)
  | integer (n : Int)
  | number (x : Binary64)
  | string (s : String)
  | array (items : List Json)
  | object (members : List (String × Json))
  deriving Inhabited

namespace Json

/-- The member of an object with the given name; of several the last. -/
def member? (name : String) : Json → Option Json
  | .object members => (members.findRev? (·.1 = name)).map (·.2)
  | _ => none

def member (name : String) (j : Json) : Json := (j.member? name).getD .null

/-! ### Writing -/

/-- A character inside a string. -/
def escaped (c : Char) : List Char :=
  if c = '"' then ['\\', '"']
  else if c = '\\' then ['\\', '\\']
  else if c.toNat < 0x20 then
    ['\\', 'u', '0', '0', Nat.digitChar (c.toNat / 16), Nat.digitChar (c.toNat % 16)]
  else [c]

def renderString (s : String) : String :=
  String.ofList ('"' :: (s.toList.flatMap escaped ++ ['"']))

mutual

/-- The text of a value, without blanks. -/
def render : Json → String
  | .null => "null"
  | .bool true => "true"
  | .bool false => "false"
  | .integer n => n.repr
  | .number x => x.text
  | .string s => renderString s
  | .array items => "[" ++ ",".intercalate (renderItems items) ++ "]"
  | .object members => "\x7b" ++ ",".intercalate (renderMembers members) ++ "\x7d"

def renderItems : List Json → List String
  | [] => []
  | j :: rest => j.render :: renderItems rest

def renderMembers : List (String × Json) → List String
  | [] => []
  | (name, j) :: rest => (renderString name ++ ":" ++ j.render) :: renderMembers rest

end

end Json

end SheetTemplate
