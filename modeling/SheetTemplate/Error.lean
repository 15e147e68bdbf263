import SheetTemplate.Platform

/-!
# Errors, warnings and outcomes

Why a package has no template, and what is worth saying about one that has. The outcome of a step is a value
or an error, with the warnings given until then: a sequence of steps stops at the first error and keeps the
warnings before it.
-/

namespace SheetTemplate

/-- A fault of a package under the chosen options. -/
inductive Error where
  /-- References lead from a table through others back to it. -/
  | cyclicReference (cycle : List String)
  | typeMismatch (table field : String) (type : FieldType) (referencedTable referencedField : String)
      (referencedType : FieldType)
  | unsupportedConstraint (table field : String) (constraint : ConstraintKind) (type : FieldType)
      (platform : Platform)
  /-- The constraints of a field cannot hold together, or not in one rule. -/
  | conflictingConstraint (table field reason : String)
  | unknownReference (table reference : String)
  | invalidConstraint (table field : String) (constraint : ConstraintKind) (reason : String)
  | duplicateTable (table : String)
  | duplicateField (table field : String)
  | duplicateSheetName (sheet : String)
  | invalidSheetName (sheet reason : String)
  | tooManyColumns (table : String) (needed max : UInt32)
  | tooManyRows (needed : Nat) (max : UInt32) (platform : Platform)
  deriving DecidableEq, Repr

namespace Error

def message : Error → String
  | .cyclicReference cycle => "Cyclic foreign key references: " ++ " -> ".intercalate cycle
  | .typeMismatch table field type referencedTable referencedField referencedType =>
    "Foreign key type mismatch: " ++ table ++ "." ++ field ++ " (" ++ type.name ++ ") references " ++
      referencedTable ++ "." ++ referencedField ++ " (" ++ referencedType.name ++ ")"
  | .unsupportedConstraint table field constraint type platform =>
    "Constraint '" ++ constraint.name ++ "' on " ++ table ++ "." ++ field ++ " (" ++ type.name ++
      ") is not supported by " ++ platform.name
  | .conflictingConstraint table field reason =>
    "Conflicting constraints on " ++ table ++ "." ++ field ++ ": " ++ reason
  | .unknownReference table reference => "Unknown reference in table '" ++ table ++ "': " ++ reference
  | .invalidConstraint table field constraint reason =>
    "Invalid constraint '" ++ constraint.name ++ "' on " ++ table ++ "." ++ field ++ ": " ++ reason
  | .duplicateTable table => "Table already exists: " ++ table
  | .duplicateField table field => "Field '" ++ field ++ "' appears more than once in table '" ++ table ++ "'"
  | .duplicateSheetName sheet => "Sheet name already exists: " ++ sheet
  | .invalidSheetName sheet reason => "Invalid sheet name '" ++ sheet ++ "': " ++ reason
  | .tooManyColumns table needed max =>
    "Table '" ++ table ++ "' needs " ++ needed.toNat.repr ++ " columns (max: " ++ max.toNat.repr ++ ")"
  | .tooManyRows needed max platform =>
    needed.repr ++ " rows do not fit on a " ++ platform.name ++ " sheet (max: " ++ max.toNat.repr ++ ")"

/-- Whether the constraint at fault may be left out instead. -/
def isRecoverable : Error → Bool
  | .unsupportedConstraint .. => true
  | _ => false

end Error

inductive Warning where
  /-- A constraint the platform cannot realize was left out. -/
  | skipped (error : Error)
  | formulaLikeValues (table field : String) (values : List String)
  deriving DecidableEq, Repr

def Warning.message : Warning → String
  | .skipped error => "Skipped: " ++ error.message
  | .formulaLikeValues table field values =>
    "Enum values of " ++ table ++ "." ++ field ++ " start with +, = or ' (" ++ ", ".intercalate values ++
      ") and may be read as formulas"

/-! ### Outcomes -/

/-- A value or an error, and the warnings so far. -/
structure Outcome (α : Type) where
  warnings : List Warning
  result : Except Error α

namespace Outcome

variable {α β : Type}

def ofExcept (result : Except Error α) : Outcome α := ⟨[], result⟩

def fail (e : Error) : Outcome α := ofExcept (.error e)

def warn (w : Warning) (a : α) : Outcome α := ⟨[w], .ok a⟩

def andThen (x : Outcome α) (next : α → Outcome β) : Outcome β :=
  match x.result with
  | .ok a => ⟨x.warnings ++ (next a).warnings, (next a).result⟩
  | .error e => ⟨x.warnings, .error e⟩

instance : Monad Outcome where
  pure a := ofExcept (.ok a)
  bind := andThen

end Outcome

end SheetTemplate
