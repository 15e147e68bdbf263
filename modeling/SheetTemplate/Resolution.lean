import Std.Data.HashSet
import SheetTemplate.EnumSheet
import SheetTemplate.TableGraph
import SheetTemplate.Text.Lowercase

/-!
# Resolution

A package is checked as a whole before anything is laid out: rows, names, sizes, keys and constraints.
What comes out is the order of writing, the columns that each field refers to and the sheet of lists.
Faults are found in a fixed order, and the first one is the error.
-/

namespace SheetTemplate

/-- The references of one field: the columns it refers to, and the column of the sheet of lists that
holds its list. -/
structure FieldResolution where
  links : List Link := []
  enumColumn : Option UInt16 := none
  deriving DecidableEq, Repr

structure Resolution where
  /-- Table indices in write order. -/
  order : List Nat
  tables : List (List FieldResolution)
  enumSheet : Option EnumSheet
  warnings : List Warning
  deriving DecidableEq, Repr

def refuseIf (fault : Bool) (e : Error) : Except Error Unit := if fault then .error e else .ok ()

/-- The first name that stands twice in a list, at its second place; `seen` holds the names before. -/
def firstRepeated? (seen : Std.HashSet String) : List String → Option String
  | [] => none
  | name :: rest => if seen.contains name then some name else firstRepeated? (seen.insert name) rest

/-! ### Names and sizes -/

def checkSheetName (p : Profile) (name : String) : Except Error Unit :=
  match p.refuseSheetName? name with
  | some reason => .error (.invalidSheetName name reason)
  | none => .ok ()

def checkFields (o : Options) (t : Table) : Except Error Unit := do
  let needed := o.startColumn.toUInt32 + UInt32.ofNat t.fields.length
  refuseIf (o.profile.maxColumns < needed) (.tooManyColumns t.name needed o.profile.maxColumns)
  match firstRepeated? ∅ (t.fields.map (·.name)) with
  | some field => .error (.duplicateField t.name field)
  | none => .ok ()

/-- Checks tables in order; `names` holds the names of the tables before them and `sheets` the names of
the sheets before them, which are compared without case. -/
def checkTablesAfter (o : Options) (names sheets : List String) : List Table → Except Error Unit
  | [] => .ok ()
  | t :: rest => do
    refuseIf (names.contains t.name) (.duplicateTable t.name)
    checkSheetName o.profile t.sheetName
    let sheet := Text.lowercase t.sheetName
    refuseIf (sheets.contains sheet) (.duplicateSheetName t.sheetName)
    checkFields o t
    checkTablesAfter o (t.name :: names) (sheet :: sheets) rest

def checkTables (o : Options) (p : Package) : Except Error Unit := do
  checkSheetName o.profile o.enumSheet
  checkTablesAfter o [] [Text.lowercase o.enumSheet] p.tables

/-! ### Keys -/

/-- The index of the table that a key refers to, and for each local field the column it refers to. -/
structure ResolvedKey where
  target : Nat
  links : List (String × Link)

/-- A pair of fields of one type, one in each table. -/
def resolvePair (t target : Table) (targetName : String) (pair : String × String) : Except Error (String × Link) :=
  match t.field? pair.1, target.field? pair.2 with
  | none, _ => .error (.unknownReference t.name ("field '" ++ pair.1 ++ "'"))
  | some _, none => .error (.unknownReference t.name ("field '" ++ targetName ++ "." ++ pair.2 ++ "'"))
  | some field, some referenced =>
    if field.type = referenced.type then .ok (field.name, ⟨target.name, referenced.name⟩)
    else .error (.typeMismatch t.name field.name field.type target.name referenced.name referenced.type)

/-- A key has as many local as referenced fields, and at least one. -/
def resolveKey (p : Package) (t : Table) (k : ForeignKey) : Except Error ResolvedKey := do
  let here := k.fields.length
  let there := k.reference.fields.length
  refuseIf (here = 0 || here ≠ there) (.invalidConstraint t.name (", ".intercalate k.fields) .foreignKey
    (here.repr ++ " local fields but " ++ there.repr ++ " referenced fields"))
  let name := k.reference.tableOr t.name
  match p.tableIndex? name, p.table? name with
  | some index, some target => return ⟨index, ← k.pairs.mapM (resolvePair t target name)⟩
  | _, _ => .error (.unknownReference t.name ("table '" ++ name ++ "'"))

/-- The columns that a field refers to, each once, in the order of declaration. -/
def linksOf (keys : List ResolvedKey) (field : Field) : List Link :=
  ((keys.flatMap (·.links)).filterMap fun (name, link) => if name = field.name then some link else none).eraseDups

/-! ### Constraints -/

section

variable [Libraries]

def checkBound (t : Table) (f : Field) (kind : ConstraintKind) : Option Binary64 → Except Error Unit
  | some bound => refuseIf (!bound.isFinite)
      (.invalidConstraint t.name f.name kind (bound.text ++ " is not a finite number"))
  | none => .ok ()

def checkBounds (t : Table) (f : Field) : Except Error Unit :=
  match f.constraints.minimum, f.constraints.maximum with
  | some low, some high => refuseIf (high.less low) (.conflictingConstraint t.name f.name
      ("minimum " ++ low.text ++ " is greater than maximum " ++ high.text))
  | _, _ => .ok ()

def checkLengths (t : Table) (f : Field) : Except Error Unit :=
  match f.constraints.minLength, f.constraints.maxLength with
  | some low, some high => refuseIf (high < low) (.conflictingConstraint t.name f.name
      ("minLength " ++ low.toNat.repr ++ " is greater than maxLength " ++ high.toNat.repr))
  | _, _ => .ok ()

def checkPattern (t : Table) (f : Field) : Except Error Unit :=
  match f.constraints.pattern.bind Libraries.patternFault? with
  | some reason => .error (.invalidConstraint t.name f.name .pattern reason)
  | none => .ok ()

def checkEnum (t : Table) (f : Field) : Except Error Unit :=
  match f.constraints.enum with
  | some [] => .error (.invalidConstraint t.name f.name .enum "no values")
  | some values =>
    match values.find? (!·.hasType f.type) with
    | some value => .error (.invalidConstraint t.name f.name .enum
        ("value " ++ value.text ++ " is not of type " ++ f.type.name))
    | none => .ok ()
  | none => .ok ()

/-- The constraints of a field mean something on any platform. -/
def checkConstraints (t : Table) (f : Field) : Except Error Unit := do
  checkBound t f .minimum f.constraints.minimum
  checkBound t f .maximum f.constraints.maximum
  checkBounds t f
  checkLengths t f
  checkPattern t f
  checkEnum t f

/-! ### Packages -/

/-- The keys of a table, when they and the constraints of its fields hold up. -/
def resolveTable (p : Package) (t : Table) : Except Error (List ResolvedKey) := do
  let keys ← t.foreignKeys.mapM (resolveKey p t)
  t.fields.forM (checkConstraints t)
  return keys

end

def formulaLike? (t : Table) (f : Field) : Option Warning :=
  match ((f.constraints.enum.getD []).filter Value.looksLikeFormula).map Value.text with
  | [] => none
  | values => some (.formulaLikeValues t.name f.name values)

def referenceGraph (p : Package) (keys : List (List ResolvedKey)) : TableGraph :=
  keys.zipIdx.foldl (fun g (keys, table) => keys.foldl (fun g key => g.add table key.target) g)
    (.ofNames (p.tables.map (·.name)))

def resolve [Libraries] (p : Package) (o : Options) : Except Error Resolution := do
  o.checkRows
  checkTables o p
  let keys ← p.tables.mapM (resolveTable p)
  let (enumColumns, pool) := (EnumPool.placeAll o.profile p.tables).run .empty
  refuseIf (o.profile.maxColumns.toNat < pool.lists.size)
    (.tooManyColumns o.enumSheet (UInt32.ofNat pool.lists.size) o.profile.maxColumns)
  let order ← (referenceGraph p keys).writeOrder
  let links := (p.tables.zip keys).map fun (t, keys) => t.fields.map (linksOf keys)
  return {
    order
    tables := (links.zip enumColumns).map fun (links, columns) => links.zipWith FieldResolution.mk columns
    enumSheet := pool.sheet? o.enumSheet
    warnings := p.tables.flatMap fun t => t.fields.filterMap (formulaLike? t) }

end SheetTemplate
