import SheetTemplate.Cell.Range
import SheetTemplate.Proofs.Cell.Reading
import SheetTemplate.Proofs.Formula.Quotations

/-!
# Reading references

A reference is a range, a range behind the quoted name of its sheet, or a call of `INDIRECT` on the text of one of these.
The first character tells them apart: the range of a lookup is fixed and begins with a dollar sign, a name with its quote.
Both quotations are read to their ends before anything in them is looked at, so no name can pass for the rest of a
reference.
-/

namespace SheetTemplate.Lookup

/-- A lookup as its range shows it: an empty one is taken for one row. -/
def shown (l : Lookup) : Lookup := { l with rows := ⟨l.rows.first, max l.rows.count 1⟩ }

variable {l : Lookup}

end SheetTemplate.Lookup
