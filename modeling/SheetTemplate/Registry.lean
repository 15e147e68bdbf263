import SheetTemplate.Layout

/-!
# The registry of columns

Where the fields of the tables laid out so far can be looked up. A table is published once; publishing
it again changes nothing.
-/

namespace SheetTemplate

/-- The lookups of published tables by table and field. -/
structure Registry where
  tables : NameMap (NameMap Lookup)
  deriving DecidableEq, Repr

namespace Registry

def empty : Registry := ⟨.empty⟩

def isPublished (r : Registry) (table : String) : Bool := r.tables.contains table

def get? (r : Registry) (table field : String) : Option Lookup := (r.tables.get? table).bind (·.get? field)

/-- The lookups of the columns of a table by field. -/
def columnsOf (l : TableLayout) : NameMap Lookup := .ofList (l.columns.map fun c => (c.field, l.lookupOf c))

/-- The registry with a table published, unless it already is. -/
def publish (r : Registry) (l : TableLayout) : Registry :=
  if r.isPublished l.table then r else ⟨r.tables.insert l.table (columnsOf l)⟩

/-- Publishes a table, and tells whether it was not published before. -/
def announce (l : TableLayout) : StateM Registry Bool := do
  let known ← get
  set (known.publish l)
  return !known.isPublished l.table

/-- All lookups in ascending order of table and field. -/
def entries (r : Registry) : List (String × String × Lookup) :=
  r.tables.entries.flatMap fun (table, fields) => fields.entries.map fun (field, lookup) => (table, field, lookup)

end Registry

end SheetTemplate
