import Std.Data.HashMap
import SheetTemplate.Cell.Range
import SheetTemplate.Options
import SheetTemplate.Schema.Basic

/-!
# The sheet of lists

Lists that a rule cannot hold are written to the columns of a hidden sheet. Fields of one type whose
lists have the same text in formulas share a column; columns are numbered in the order of first use.
-/

namespace SheetTemplate

/-- The hidden sheet, a list in each column from the first row on. -/
structure EnumSheet where
  name : String
  columns : List (List Value)
  deriving DecidableEq, Repr

namespace EnumSheet

def values? (s : EnumSheet) (column : UInt16) : Option (List Value) := s.columns[column.toNat]?

def lookup? (s : EnumSheet) (column : UInt16) : Option Lookup :=
  (s.values? column).map fun values => ⟨s.name, column, ⟨0, UInt32.ofNat values.length⟩⟩

end EnumSheet

/-- Whether a rule on the platform can hold a list: its texts are joined by commas. -/
def fitsInline (p : Profile) (values : List Value) : Bool :=
  let texts := values.map Value.text
  let size := (texts.map String.utf8ByteSize).foldr (· + ·) (texts.length - 1)
  !texts.any (·.toList.contains ',') && p.maxInlineList.all (size ≤ ·)

def needsEnumSheet (p : Profile) (type : FieldType) (values : List Value) : Bool :=
  match p.realize type .enum with
  | .native .inlineList => !fitsInline p values
  | .unsupported => false
  | _ => true

/-! ### Pooling -/

/-- What lists have in common that share a column. -/
abbrev ListKey := FieldType × List String

def listKey (type : FieldType) (values : List Value) : ListKey :=
  (type, values.map fun v => v.formula.render)

/-- The lists so far, and the column of each key. -/
structure EnumPool where
  lists : Array (List Value)
  columns : Std.HashMap ListKey UInt16

namespace EnumPool

def empty : EnumPool := ⟨#[], ∅⟩

/-- The column of a list, a new one if no list so far has its key. -/
def column (type : FieldType) (values : List Value) (pool : EnumPool) : UInt16 × EnumPool :=
  let key := listKey type values
  match pool.columns[key]? with
  | some column => (column, pool)
  | none =>
    let column := UInt16.ofNat pool.lists.size
    (column, ⟨pool.lists.push values, pool.columns.insert key column⟩)

def place (p : Profile) (f : Field) : StateM EnumPool (Option UInt16) :=
  match f.constraints.enum with
  | some values =>
    if needsEnumSheet p f.type values then do return some (← column f.type values) else pure none
  | none => pure none

/-- The columns of the fields of tables, table by table and field by field. -/
def placeAll (p : Profile) (tables : List Table) : StateM EnumPool (List (List (Option UInt16))) :=
  tables.mapM fun t => t.fields.mapM (place p)

def sheet? (pool : EnumPool) (name : String) : Option EnumSheet :=
  if pool.lists.isEmpty then none else some ⟨name, pool.lists.toList⟩

end EnumPool

end SheetTemplate
