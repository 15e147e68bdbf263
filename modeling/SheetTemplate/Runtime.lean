import SheetTemplate.Options
import SheetTemplate.Pattern.Validity
import SheetTemplate.Text.Width

/-!
# The libraries of a running program

Templates are compiled with whatever the libraries answer, so nothing else depends on this module. It
is what a program uses: a reader of regular expressions that gives no reason, and tables of the cells
that characters take.
-/

namespace SheetTemplate

@[reducible] def Libraries.tabled : Libraries where
  patternFault? pattern := if Pattern.isValid pattern then none else some "invalid regular expression"
  width := Text.width

end SheetTemplate
