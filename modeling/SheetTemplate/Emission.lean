import SheetTemplate.Compile

/-!
# Writing templates

A template is written as a sequence of calls, each an action on a named sheet: the sheet of lists first,
then every table in write order. A writer takes the calls one by one and may fail; the first failure
ends the writing.
-/

namespace SheetTemplate

inductive Action where
  | declare (hidden : Bool)
  | header (address : Address) (text : String) (comment : Option String) (format : Option CellFormat)
  | values (column : UInt16) (firstRow : UInt32) (values : List Value)
  | width (column : UInt16) (width : Binary64)
  | freeze (panes : FreezePanes)
  | hide (columns : ColumnSpan)
  | validation (range : CellRange) (rule : Rule)
  /-- A format for the cells of a range where a formula is true. -/
  | highlight (range : CellRange) (formula : Formula) (format : CellFormat)

structure Call where
  sheet : String
  action : Action

/-- The lists, each in its column from the first row on. -/
def EnumSheet.calls (s : EnumSheet) : List Call :=
  ⟨s.name, .declare true⟩ ::
    s.columns.zipIdx.map fun (values, i) => ⟨s.name, .values (UInt16.ofNat i) 0 values⟩

/-- What is done to the sheet of a table: headers, widths, panes, rules and highlights in this order. -/
def Sheet.actions (s : Sheet) (invalidFormat : CellFormat) : List Action :=
  .declare false ::
    (s.layout.headers.map fun h => .header h.address h.text (h.comment.map (·.text)) s.layout.headerFormat) ++
    (s.layout.columns.map fun c => .width c.index c.width) ++
    (s.layout.freeze.map .freeze).toList ++
    (s.layout.hidden.map .hide).toList ++
    (s.columns.filterMap fun c => c.rule.map (.validation c.range)) ++
    (s.columns.filterMap fun c => c.highlight.map fun formula => .highlight c.range formula invalidFormat)

def Sheet.calls (s : Sheet) (invalidFormat : CellFormat) : List Call :=
  (s.actions invalidFormat).map (⟨s.layout.sheet, ·⟩)

def Template.calls (t : Template) : List Call :=
  (t.enumSheet.map EnumSheet.calls).getD [] ++ t.sheets.flatMap (·.calls t.invalidFormat)

/-! ### Writers -/

/-- A writer changes its state with each call or fails, perhaps leaving a changed state behind. -/
abbrev Writer (ε σ : Type) := Call → EStateM ε σ Unit

/-- Writes a template up to the first failure. -/
def Template.emit {ε σ : Type} (t : Template) (write : Writer ε σ) : EStateM ε σ Unit := t.calls.forM write

/-- Why nothing, or not everything, was written. -/
inductive BuildError (ε : Type) where
  | compile (error : Error)
  | write (error : ε)

def build [Libraries] {ε σ : Type} (p : Package) (o : Options) (write : Writer ε σ) : EStateM (BuildError ε) σ Template :=
  match compile p o with
  | .error e => throw (.compile e)
  | .ok t => do
    (t.emit write).adaptExcept .write
    return t

/-! ### Recording -/

/-- The calls a recorder has taken, and how many may still come before it fails; none for no end. -/
structure Recorder where
  calls : List Call := []
  left : Option Nat := none

structure RefusedCall where
  number : Nat

def RefusedCall.message (c : RefusedCall) : String := "call " ++ c.number.repr ++ " failed"

/-- Takes a call, newest first, or refuses it without a trace. -/
def Recorder.record : Writer RefusedCall Recorder := fun call => do
  let r ← get
  match r.left with
  | some 0 => throw ⟨r.calls.length + 1⟩
  | left => set ({ calls := call :: r.calls, left := left.map (· - 1) } : Recorder)

namespace Recorder

def toList (r : Recorder) : List Call := r.calls.reverse

def sheets (r : Recorder) : List String := r.toList.filterMap fun call =>
  match call.action with
  | .declare _ => some call.sheet
  | _ => none

def validations (r : Recorder) (sheet : String) : List (CellRange × Rule) := r.toList.filterMap fun call =>
  match call.action with
  | .validation range rule => if call.sheet = sheet then some (range, rule) else none
  | _ => none

def highlights (r : Recorder) (sheet : String) : List Formula := r.toList.filterMap fun call =>
  match call.action with
  | .highlight _ formula _ => if call.sheet = sheet then some formula else none
  | _ => none

end Recorder

end SheetTemplate
