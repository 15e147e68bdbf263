import SheetTemplate.Column

/-!
# Compiling packages

A template holds everything that is written for a package, sheet by sheet in write order. Tables are
laid out and compiled in that order, so the columns that a table refers to are published before it.
-/

namespace SheetTemplate

structure Sheet where
  table : String
  layout : TableLayout
  columns : List Column

def Sheet.column? (s : Sheet) (field : String) : Option Column := s.columns.find? (·.field = field)

structure Template where
  platform : Platform
  enumSheet : Option EnumSheet
  sheets : List Sheet
  lookups : Registry
  invalidFormat : CellFormat
  warnings : List Warning

namespace Template

def order (t : Template) : List String := t.sheets.map (·.table)

def sheet? (t : Template) (table : String) : Option Sheet := t.sheets.find? (·.table = table)

def column? (t : Template) (table field : String) : Option Column := (t.sheet? table).bind (·.column? field)

/-- The values that a list accepts, when they are known: those written in a rule or on the sheet of
lists. A referenced column holds whatever is entered there. -/
def permissibleValues? (t : Template) : ListSource → Option (List Value)
  | .literal values => some values
  | .range lookup => t.enumSheet.bind fun s => if lookup.sheet = s.name then s.values? lookup.column else none

end Template

/-! ### Compiling -/

variable [Libraries]

def Resolution.sequence (r : Resolution) (p : Package) : List (Table × List FieldResolution) :=
  r.order.filterMap fun i => do return (← p.tables[i]?, ← r.tables[i]?)

def compileSheets (o : Options) (enumSheet : Option EnumSheet) (registry : Registry) :
    List (Table × List FieldResolution) → Outcome (List Sheet × Registry)
  | [] => pure ([], registry)
  | (t, resolved) :: rest => do
    let layout := o.layout t o.startRow o.startColumn
    let registry := registry.publish layout
    let columns ← compileTable o registry enumSheet t layout resolved
    let (sheets, registry) ← compileSheets o enumSheet registry rest
    return (⟨t.name, layout, columns⟩ :: sheets, registry)

/-- Compiles a package, or finds the first error in it. -/
def compile (p : Package) (o : Options) : Except Error Template := do
  let resolution ← resolve p o
  let compiled := compileSheets o resolution.enumSheet .empty (resolution.sequence p)
  let (sheets, lookups) ← compiled.result
  return {
    platform := o.platform
    enumSheet := resolution.enumSheet
    sheets
    lookups
    invalidFormat := o.invalidFormat
    warnings := resolution.warnings ++ compiled.warnings }

end SheetTemplate
