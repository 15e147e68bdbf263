import SheetTemplate.Emission
import SheetTemplate.Json.Parser
import SheetTemplate.Schema.Reader
import SheetTemplate.Runtime
import SheetTemplate.Proofs.Success
import SheetTemplate.Proofs.Failure
import SheetTemplate.Proofs.TableGraph.Search
import SheetTemplate.Proofs.TableGraph.Cycle
import SheetTemplate.Proofs.TableGraph.WriteOrder
import SheetTemplate.Proofs.TableGraph.LeastOrder
import SheetTemplate.Proofs.Distinct
import SheetTemplate.Proofs.Registry
import SheetTemplate.Proofs.Resolution.Names
import SheetTemplate.Proofs.EnumSheet.Pooling
import SheetTemplate.Proofs.Resolution.Keys
import SheetTemplate.Proofs.Resolution.Resolved
import SheetTemplate.Proofs.Column.Terms
import SheetTemplate.Proofs.Column.Parts
import SheetTemplate.Proofs.Column.Reported
import SheetTemplate.Proofs.Column.Lists
import SheetTemplate.Proofs.Layout
import SheetTemplate.Proofs.Compile.Sheets
import SheetTemplate.Proofs.Compile.Templates
import SheetTemplate.Proofs.Compile.Reports
import SheetTemplate.Proofs.Compile.References
import SheetTemplate.Proofs.Emission.Order
import SheetTemplate.Proofs.Emission.Declared
import SheetTemplate.Proofs.Emission.Lists
import SheetTemplate.Proofs.Resolution.References
import SheetTemplate.Proofs.EnumSheet.Entries
import SheetTemplate.Proofs.Resolution.Faults
import SheetTemplate.Proofs.Resolution.WellFormed
import SheetTemplate.Proofs.Compile.Errors
import SheetTemplate.Proofs.Compile.Separate
import SheetTemplate.Proofs.Compile.Obstacles
import SheetTemplate.Proofs.Compile.Modes
import SheetTemplate.Proofs.Resolution.Supported
import SheetTemplate.Proofs.Compile.Skipped
import SheetTemplate.Proofs.Formula.Scan
import SheetTemplate.Proofs.Formula.Reading
import SheetTemplate.Proofs.Formula.Legible
import SheetTemplate.Proofs.Formula.Complement
import SheetTemplate.Proofs.Column.Agreement
import SheetTemplate.Proofs.Compile.Agreement
import SheetTemplate.Proofs.Resolution.Extension
import SheetTemplate.Proofs.Compile.Extension
import SheetTemplate.Proofs.Resolution.Permutation
import SheetTemplate.Proofs.Compile.Permutation
import SheetTemplate.Proofs.Resolution.Reduced
import SheetTemplate.Proofs.Compile.Regrouped
import SheetTemplate.Proofs.Emission.Stopping
import SheetTemplate.Proofs.Compile.Grid
import SheetTemplate.Proofs.Formula.Quotations
import SheetTemplate.Proofs.Column.Quotations
import SheetTemplate.Proofs.Compile.Quotations
import SheetTemplate.Proofs.Compile.Composed
import SheetTemplate.Proofs.Compile.Limits
import SheetTemplate.Proofs.Compile.Permissible
import SheetTemplate.Proofs.Formula.Finite
import SheetTemplate.Proofs.Compile.Finite
import SheetTemplate.Proofs.Emission.Extent
import SheetTemplate.Proofs.TableGraph.Course
import SheetTemplate.Proofs.Column.Exact
import SheetTemplate.Proofs.Column.Gathering
import SheetTemplate.Proofs.Column.Decision
import SheetTemplate.Proofs.Column.Directives
import SheetTemplate.Proofs.Column.Tags
import SheetTemplate.Proofs.Compile.Decision
import SheetTemplate.Proofs.Compile.Directives
import SheetTemplate.Proofs.Compile.Tags
import SheetTemplate.Proofs.Cell.Reading
import SheetTemplate.Proofs.Cell.References
import SheetTemplate.Proofs.Resolution.Lists
import SheetTemplate.Proofs.Emission.Rules
import SheetTemplate.Proofs.Registry.Entries
import SheetTemplate.Proofs.Compile.Lookups
import SheetTemplate.Proofs.Cell.Color
import SheetTemplate.Proofs.Cell.Columns
import SheetTemplate.Proofs.Text.Words
import SheetTemplate.Proofs.Number.Whole
import SheetTemplate.Proofs.Number.Rounding
import SheetTemplate.Proofs.Comment.Width
import SheetTemplate.Proofs.Comment.Wrapping
import SheetTemplate.Proofs.Comment.Box
