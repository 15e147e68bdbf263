import SheetTemplate.Cell.Format
import SheetTemplate.Error
import SheetTemplate.Json.Record
import SheetTemplate.NameMap

/-!
# Options and libraries

Everything a template depends on besides its package: the options, and what is asked of libraries that are not
described here. Those are an inferred parameter, so that nothing that is said depends on how they answer.
-/

namespace SheetTemplate

/-- The answers of other libraries. -/
class Libraries where
  /-- Why a text is no regular expression, unless it is one. -/
  patternFault? : String → Option String
  /-- The cells in which a text is shown. -/
  width : String → Nat

/-- Libraries for plain cases: every pattern is a regular expression, and every character takes one cell. -/
@[reducible] def Libraries.plain : Libraries := ⟨fun _ => none, String.length⟩

inductive Mode where
  /-- They are errors. -/
  | strict
  | bestEffort
  deriving DecidableEq, Repr

def Mode.name : Mode → String
  | .strict => "strict" | .bestEffort => "best-effort"

inductive AlertStyle where
  | stop | warning | information
  deriving DecidableEq, Repr

def AlertStyle.name : AlertStyle → String
  | .stop => "stop" | .warning => "warning" | .information => "information"

structure Options where
  platform : Platform := .excel
  mode : Mode := .strict
  /-- Empty rows below each header; at least one is provided. -/
  dataRows : UInt32 := 1000
  startRow : UInt32 := 0
  startColumn : UInt16 := 0
  enumSheet : String := "lists"
  /-- Comments by table and field, in place of descriptions. -/
  headerComments : NameMap (NameMap String) := .empty
  freezeHeader : Bool := true
  freezeFirstColumn : Bool := false
  dropdowns : Bool := true
  validateForeignKeys : Bool := true
  errorStyle : AlertStyle := .stop
  highlightInvalid : Bool := true
  headerFormat : Option CellFormat := some .header
  invalidFormat : CellFormat := .invalid
  hideColumns : Bool := false
  deriving DecidableEq, Repr

namespace Options

def profile (o : Options) : Profile := o.platform.profile

/-- The data rows below each header. -/
def provisionedRows (o : Options) : UInt32 := max o.dataRows 1

def headerComment? (o : Options) (table field : String) : Option String :=
  (o.headerComments.get? table).bind (·.get? field)

def withHeaderComment (o : Options) (table field comment : String) : Options :=
  let comments := (o.headerComments.get? table).getD .empty
  { o with headerComments := o.headerComments.insert table (comments.insert field comment) }

/-- The header and the data rows fit on a sheet. -/
def checkRows (o : Options) : Except Error Unit :=
  let needed := o.startRow.toNat + 1 + o.provisionedRows.toNat
  if o.profile.maxRows.toNat < needed then .error (.tooManyRows needed o.profile.maxRows o.platform) else .ok ()

end Options

/-! ### Reading options -/

open Json

def Platform.ofJson? : Reader Platform := choice? [("excel", .excel), ("google-sheets", .googleSheets)]

def Mode.ofJson? : Reader Mode := choice? ([Mode.strict, .bestEffort].map fun m => (m.name, m))

def AlertStyle.ofJson? : Reader AlertStyle :=
  choice? ([AlertStyle.stop, .warning, .information].map fun s => (s.name, s))

def Color.ofJson? (j : Json) : Option Color := (string? j).bind Color.ofText?

def CellFormat.ofJson? (j : Json) : Option CellFormat := do
  match ← fields? [["bold"], ["fill"]] j with
  | [bold, fill] => some {
      bold := ← orElse false bool? bold
      fill := ← orElse none (nullable Color.ofJson?) fill }
  | _ => none

def commentsOfJson? (j : Json) : Option (NameMap (NameMap String)) := do
  let tables ← dictionary? (fun fields => (dictionary? string? fields).map NameMap.ofList) j
  some (NameMap.ofList tables)

def Options.ofJson? (j : Json) : Option Options := do
  let standard : Options := {}
  match ← fields? [["platform"], ["mode"], ["dataRows"], ["startRow"], ["startCol"], ["enumSheet"],
      ["headerComments"], ["freezeHeader"], ["freezeFirstColumn"], ["dropdowns"], ["validateForeignKeys"],
      ["errorStyle"], ["highlightInvalid"], ["headerFormat"], ["invalidFormat"], ["hideColumns"]] j with
  | [platform, mode, dataRows, startRow, startColumn, enumSheet, headerComments, freezeHeader,
      freezeFirstColumn, dropdowns, validateForeignKeys, errorStyle, highlightInvalid, headerFormat,
      invalidFormat, hideColumns] => some {
      platform := ← orElse standard.platform Platform.ofJson? platform
      mode := ← orElse standard.mode Mode.ofJson? mode
      dataRows := ← orElse standard.dataRows uint32? dataRows
      startRow := ← orElse standard.startRow uint32? startRow
      startColumn := ← orElse standard.startColumn uint16? startColumn
      enumSheet := ← orElse standard.enumSheet string? enumSheet
      headerComments := ← orElse standard.headerComments commentsOfJson? headerComments
      freezeHeader := ← orElse standard.freezeHeader bool? freezeHeader
      freezeFirstColumn := ← orElse standard.freezeFirstColumn bool? freezeFirstColumn
      dropdowns := ← orElse standard.dropdowns bool? dropdowns
      validateForeignKeys := ← orElse standard.validateForeignKeys bool? validateForeignKeys
      errorStyle := ← orElse standard.errorStyle AlertStyle.ofJson? errorStyle
      highlightInvalid := ← orElse standard.highlightInvalid bool? highlightInvalid
      headerFormat := ← orElse standard.headerFormat (nullable CellFormat.ofJson?) headerFormat
      invalidFormat := ← orElse standard.invalidFormat CellFormat.ofJson? invalidFormat
      hideColumns := ← orElse standard.hideColumns bool? hideColumns }
  | _ => none

end SheetTemplate
