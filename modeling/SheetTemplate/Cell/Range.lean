import SheetTemplate.Cell.Address
import SheetTemplate.Formula.Basic

/-!
# Cell ranges and lookups

A range is given by its top left and bottom right cells. Seen from another sheet it carries the name of
its sheet in single quotes. A lookup is the place where the values that a list check accepts are found: a
column of the sheet of lists, or the data rows of a referenced column.
-/

namespace SheetTemplate

structure CellRange where
  first : Address
  last : Address
  deriving DecidableEq, Repr

structure RowSpan where
  first : UInt32
  count : UInt32
  deriving DecidableEq, Repr

/-- The last row; an empty span is taken for one row. -/
def RowSpan.last (rows : RowSpan) : UInt32 := rows.first + max rows.count 1 - 1

namespace CellRange

def ofColumn (column : UInt16) (rows : RowSpan) : CellRange :=
  ⟨{ row := rows.first, column }, { row := rows.last, column }⟩

def fixed (r : CellRange) : CellRange := ⟨r.first.fixed, r.last.fixed⟩

/-- The A1 text of a range; a single cell is written as an address. -/
def text (r : CellRange) : String :=
  if r.first = r.last then r.first.text else r.first.text ++ ":" ++ r.last.text

def textOn (r : CellRange) (sheet : String) : String :=
  Text.quoted '\'' sheet ++ "!" ++ r.text

end CellRange

/-! ### Lookups -/

/-- A span of rows in one column of a named sheet. -/
structure Lookup where
  sheet : String
  column : UInt16
  rows : RowSpan
  deriving DecidableEq, Repr

namespace Lookup

def range (l : Lookup) : CellRange := (CellRange.ofColumn l.column l.rows).fixed

/-- The reference that names the sheet. -/
def qualified (l : Lookup) : String := l.range.textOn l.sheet

/-- The reference from a formula on a sheet. Another sheet is named, and reached through `INDIRECT`
where the platform refuses to refer to it directly. -/
def referenceFrom (l : Lookup) (sheet : String) (indirect : Bool) : Formula :=
  if sheet = l.sheet then .atom l.range.text
  else if indirect then .apply .indirect (.literal l.qualified)
  else .atom l.qualified

end Lookup

end SheetTemplate
