import SheetTemplate.Cell.Range
import SheetTemplate.Comment
import SheetTemplate.Options
import SheetTemplate.Schema.Basic

/-!
# Layouts

A table takes one column for each field, in order, with a header row and the same data rows below every
header. A layout also says which panes are frozen, how wide columns are and which columns to hide.
-/

namespace SheetTemplate

structure FreezePanes where
  rows : UInt32
  columns : UInt16
  deriving DecidableEq, Repr

/-- Consecutive columns, both ends included. -/
structure ColumnSpan where
  first : UInt16
  last : UInt16
  deriving DecidableEq, Repr

structure ColumnLayout where
  field : String
  index : UInt16
  header : Address
  data : CellRange
  width : Binary64
  deriving DecidableEq, Repr

/-- The first data cell, against which the formulas of a column are written. -/
def ColumnLayout.firstCell (c : ColumnLayout) : Address := c.data.first

structure HeaderCell where
  address : Address
  text : String
  comment : Option HeaderComment
  deriving DecidableEq, Repr

structure TableLayout where
  table : String
  sheet : String
  columns : List ColumnLayout
  headers : List HeaderCell
  headerFormat : Option CellFormat
  freeze : Option FreezePanes
  dataRows : RowSpan
  hidden : Option ColumnSpan
  deriving DecidableEq, Repr

namespace TableLayout

def column? (l : TableLayout) (field : String) : Option ColumnLayout := l.columns.find? (·.field = field)

def lookupOf (l : TableLayout) (c : ColumnLayout) : Lookup := ⟨l.sheet, c.index, l.dataRows⟩

def lookup? (l : TableLayout) (field : String) : Option Lookup := (l.column? field).map l.lookupOf

def commentCells (l : TableLayout) : List Address :=
  (l.headers.filter (·.comment.isSome)).map (·.address)

/-- The text of the columns of a table on its first data row, the columns fixed; nothing for a table
without fields. -/
def rowRange (l : TableLayout) : String :=
  match l.columns.head?, l.columns.getLast? with
  | some first, some last =>
    CellRange.text ⟨{ row := l.dataRows.first, column := first.index, columnFixed := true },
      { row := l.dataRows.first, column := last.index, columnFixed := true }⟩
  | _, _ => ""

end TableLayout

/-! ### Laying out -/

/-- The least width of a column that shows a header and values: ten characters, or a fifth more than the
widest text. -/
def columnWidth (measure : String → Nat) (header : String) (values : List Value) (unit : WidthUnit) : Binary64 :=
  let widest := (values.map fun v => measure v.text).foldl max (measure header)
  let characters := (Binary64.ofNat 10).larger (.ofNat widest * .ofDecimal false 12 (-1))
  match unit with
  | .characters => characters
  | .pixels perCharacter => characters * perCharacter

/-- The column of the `i`-th field of a table; past the last column number it stays there. -/
def columnAt (start : UInt16) (i : Nat) : UInt16 :=
  UInt16.ofNat (min (start.toNat + i % UInt16.size) (UInt16.size - 1))

namespace Options

/-- The comment of a field: the one set for it, otherwise its description. A blank one is none. -/
def commentText? (o : Options) (table : String) (field : Field) : Option String :=
  ((o.headerComment? table field.name).or field.description).filter fun text => !Text.isAllBlank text

/-- The columns from the one after a table to the last of the sheet, where they are to be hidden.
Hidden columns would cover the boxes of comments on some platforms. -/
def hiddenColumns (o : Options) (start : UInt16) (fields : Nat) (commented : Bool) : Option ColumnSpan :=
  if !o.hideColumns || fields = 0 || (commented && !o.profile.hidesCommented) then none
  else
    let first := start.toUInt32 + UInt32.ofNat fields
    let last := min (UInt32.ofNat (o.profile.maxColumns.toNat - 1)) (UInt32.ofNat (UInt16.size - 1))
    if first ≤ last then some ⟨first.toUInt16, last.toUInt16⟩ else none

def freezePanes (o : Options) (startRow : UInt32) (startColumn : UInt16) (fields : Nat) : Option FreezePanes :=
  let panes : FreezePanes :=
    ⟨if o.freezeHeader then startRow + 1 else 0, if o.freezeFirstColumn && fields ≠ 0 then startColumn + 1 else 0⟩
  if panes.rows = 0 && panes.columns = 0 then none else some panes

/-- Places a table with its first header at the given cell. -/
def layout [Libraries] (o : Options) (t : Table) (startRow : UInt32) (startColumn : UInt16) : TableLayout :=
  let dataRows : RowSpan := ⟨startRow + 1, o.provisionedRows⟩
  let header (i : Nat) : Address := { row := startRow, column := columnAt startColumn i }
  let headers := t.fields.zipIdx.map fun (field, i) =>
    (⟨header i, field.name, (o.commentText? t.name field).map fun text =>
      .sized Libraries.width text o.profile.commentBox⟩ : HeaderCell)
  let columns := t.fields.zipIdx.map fun (field, i) =>
    (⟨field.name, columnAt startColumn i, header i, CellRange.ofColumn (columnAt startColumn i) dataRows,
      columnWidth Libraries.width field.name (field.constraints.enum.getD []) o.profile.widthUnit⟩ : ColumnLayout)
  { table := t.name
    sheet := t.sheetName
    columns
    headers
    headerFormat := o.headerFormat
    freeze := o.freezePanes startRow startColumn t.fields.length
    dataRows
    hidden := o.hiddenColumns startColumn t.fields.length (headers.any (·.comment.isSome)) }

end Options

end SheetTemplate
