import SheetTemplate.Schema.Value

/-!
# Packages

A package is a list of tables, a table a list of typed fields with the keys by which it refers to other
tables. Nothing here is checked: names may repeat and keys may lead nowhere.
-/

namespace SheetTemplate

/-- The constraints on the values of a field; one that is not set is not declared. -/
structure Constraints where
  required : Bool := false
  unique : Bool := false
  minimum : Option Binary64 := none
  maximum : Option Binary64 := none
  minLength : Option UInt32 := none
  maxLength : Option UInt32 := none
  pattern : Option String := none
  enum : Option (List Value) := none
  deriving DecidableEq, Repr

namespace Constraints

/-- Whether a constraint is declared. Foreign keys are declared by the table. -/
def declares (c : Constraints) : ConstraintKind → Bool
  | .required => c.required
  | .unique => c.unique
  | .minimum => c.minimum.isSome
  | .maximum => c.maximum.isSome
  | .minLength => c.minLength.isSome
  | .maxLength => c.maxLength.isSome
  | .pattern => c.pattern.isSome
  | .enum => c.enum.isSome
  | .foreignKey => false

/-- The declared constraints, in the order in which checks are compiled. -/
def declared (c : Constraints) : List ConstraintKind := ConstraintKind.all.filter c.declares

end Constraints

structure Field where
  name : String
  type : FieldType
  description : Option String := none
  constraints : Constraints := {}
  deriving DecidableEq, Repr

/-- The table and fields that a key refers to. -/
structure Reference where
  table : Option String := none
  fields : List String
  deriving DecidableEq, Repr

/-- The table referred to from a declaring table: itself where no name is given. -/
def Reference.tableOr (r : Reference) (declaring : String) : String :=
  match r.table with
  | some name => if name = "" then declaring else name
  | none => declaring

/-- Fields of a table, paired with the fields they refer to. -/
structure ForeignKey where
  fields : List String
  reference : Reference
  deriving DecidableEq, Repr

namespace ForeignKey

def isComposite (k : ForeignKey) : Bool := 1 < k.fields.length

/-- The pairs of local and referenced fields, each a key of its own. -/
def pairs (k : ForeignKey) : List (String × String) := k.fields.zip k.reference.fields

end ForeignKey

structure Link where
  table : String
  field : String
  deriving DecidableEq, Repr

/-- A table: one sheet of the template. -/
structure Table where
  name : String
  sheet : Option String := none
  fields : List Field := []
  foreignKeys : List ForeignKey := []
  deriving DecidableEq, Repr

namespace Table

def sheetName (t : Table) : String := t.sheet.getD t.name

def field? (t : Table) (name : String) : Option Field := t.fields.find? (·.name = name)

def fieldIndex? (t : Table) (name : String) : Option Nat := t.fields.findIdx? (·.name = name)

end Table

structure Package where
  tables : List Table := []
  deriving DecidableEq, Repr

namespace Package

def table? (p : Package) (name : String) : Option Table := p.tables.find? (·.name = name)

def tableIndex? (p : Package) (name : String) : Option Nat := p.tables.findIdx? (·.name = name)

end Package

end SheetTemplate
