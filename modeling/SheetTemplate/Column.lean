import SheetTemplate.EnumSheet
import SheetTemplate.Formula.Check
import SheetTemplate.Error
import SheetTemplate.Registry
import SheetTemplate.Resolution
import SheetTemplate.Rule

/-!
# Columns

The constraints of a field become an ordered list of parts, each a directive with its checks, and the
parts become what a cell can carry: one rule, and a formula that highlights invalid cells.

One part at most becomes the rule as it is, a list rather than a range of numbers, and of lists a key
rather than a declared list rather than TRUE and FALSE. It does so as long as every other enforced part
still has a carrier: the rule itself when it only has to refuse blank cells, or the highlight when the
rule is a list. Otherwise all enforced parts are folded into one custom formula.
-/

namespace SheetTemplate

/-- A directive before it is known whether it becomes the rule. -/
structure Part where
  directive : Directive
  realization : Realization
  checks : List Check
  /-- The rule that realizes the directive by itself, if there is one. -/
  native : Option Rule := none
  enforced : Bool := true

namespace Part

def isRequired (p : Part) : Bool := p.directive = .required

/-- The order of preference for the rule; parts without a rule of their own have none. -/
def rank? (p : Part) : Option Nat :=
  if p.native.isNone then none
  else match p.directive with
    | .list (.foreignKey _) _ => some 0
    | .list .enum _ => some 1
    | .list .boolean _ => some 2
    | .range .. => some 3
    | _ => none

/-- How the directive is realized by a formula. -/
def folded (p : Part) : Realization :=
  match p.realization, p.directive with
  | .native _, .range .. => .formula .comparison
  | .native _, .list _ _ => .formula .membership
  | realization, _ => realization

/-! ### The parts of constraints -/

def booleanList? (p : Profile) (ctx : CellContext) (f : Field) : Option Part :=
  if f.type = .boolean && f.constraints.enum.isNone then
    let source := ListSource.literal [.boolean true, .boolean false]
    some {
      directive := .list .boolean source
      realization := p.booleanList
      checks := (Check.typeTest? .boolean ctx).toList
      native := match p.booleanList with
        | .native _ => some { kind := .list source }
        | _ => none }
  else none

def ofRequired (ctx : CellContext) (realization : Realization) : Part where
  directive := .required
  realization
  checks := [.required ctx]

def ofUnique (ctx : CellContext) (realization : Realization) : Part :=
  let caseSensitive := realization = .formula (.countMatches true)
  { directive := .unique caseSensitive, realization, checks := [.unique ctx caseSensitive] }

/-- One part for both bounds, realized like the first of them. -/
def ofBounds? (ctx : CellContext) (whole : Bool) (minimum maximum : Option (Binary64 × Realization)) : Option Part :=
  (minimum.or maximum).map fun (_, realization) =>
    let low := minimum.map Prod.fst
    let high := maximum.map Prod.fst
    { directive := .range low high whole
      realization
      checks := (low.map (Check.minimum ctx)).toList ++ (high.map (Check.maximum ctx)).toList
      native := if realization = .native .numberRange then Rule.numberRange? low high whole else none }

/-- One part for both lengths, realized like the first of them. -/
def ofLengths? (ctx : CellContext) (minLength maxLength : Option (UInt32 × Realization)) : Option Part :=
  (minLength.or maxLength).map fun (_, realization) =>
    let low := minLength.map Prod.fst
    let high := maxLength.map Prod.fst
    { directive := .length low high
      realization
      checks := (low.map (Check.minLength ctx)).toList ++ (high.map (Check.maxLength ctx)).toList }

def ofPattern (ctx : CellContext) (regex : String) (realization : Realization) : Part where
  directive := .pattern regex
  realization
  checks := [.pattern ctx regex]

/-- A list of values, in the rule itself or in the cells where they are written. -/
def ofValues (p : Profile) (ctx : CellContext) (sheet : String) (lookup : Option Lookup) (values : List Value) : Part :=
  let source := match lookup with
    | some lookup => ListSource.range lookup
    | none => .literal values
  { directive := .list .enum source
    realization := .native (if lookup.isSome then .rangeList else .inlineList)
    checks := [match lookup with
      | some lookup => .inRange ctx (lookup.referenceFrom sheet p.indirect) (Check.oneOf values)
      | none => .inLiterals ctx values]
    native := some { kind := .list source } }

def ofLookup (o : Options) (ctx : CellContext) (sheet : String) (link : Link) (lookup : Lookup)
    (realization : Realization) : Part where
  directive := .list (.foreignKey link) (.range lookup)
  realization
  checks := [.inRange ctx (lookup.referenceFrom sheet o.profile.indirect) ("in " ++ link.table ++ "." ++ link.field)]
  native := some { kind := .list (.range lookup) }
  enforced := o.validateForeignKeys

def typeTest? (ctx : CellContext) (f : Field) : Option Part :=
  if f.type.isNumeric then (Check.typeTest? f.type ctx).map fun check => {
    directive := .type f.type
    realization := .formula .typeTest
    checks := [check] }
  else none

end Part

/-! ### Gathering -/

/-- How a constraint is realized. One that the platform cannot realize is an error, or is left out with a warning. -/
def realize (o : Options) (t : Table) (f : Field) (kind : ConstraintKind) : Outcome (Option Realization) :=
  let realization := o.profile.realize f.type kind
  if realization.isSupported then pure (some realization)
  else
    let e := Error.unsupportedConstraint t.name f.name kind f.type o.platform
    match o.mode with
    | .strict => .fail e
    | .bestEffort => .warn (.skipped e) none

def realizeFlag (o : Options) (t : Table) (f : Field) (kind : ConstraintKind) (declared : Bool) :
    Outcome (Option Realization) :=
  if declared then realize o t f kind else pure none

/-- A value that a constraint declares, with the way the constraint is realized. -/
def realizeValue {α : Type} (o : Options) (t : Table) (f : Field) (kind : ConstraintKind) :
    Option α → Outcome (Option (α × Realization))
  | some value => return (← realize o t f kind).map (value, ·)
  | none => return none

def gatherLink (o : Options) (registry : Registry) (t : Table) (sheet : String) (ctx : CellContext) (f : Field)
    (link : Link) : Outcome (Option Part) := do
  match ← realize o t f .foreignKey with
  | some realization =>
    match registry.get? link.table link.field with
    | some lookup => return some (Part.ofLookup o ctx sheet link lookup realization)
    | none => .fail (.unknownReference t.name ("field '" ++ link.table ++ "." ++ link.field ++ "'"))
  | none => return none

/-- The parts of a field in the order in which its constraints are declared, then those of its references. -/
def gather (o : Options) (registry : Registry) (enumSheet : Option EnumSheet) (t : Table) (sheet : String)
    (ctx : CellContext) (f : Field) (r : FieldResolution) : Outcome (List Part) := do
  let c := f.constraints
  let required ← realizeFlag o t f .required c.required
  let unique ← realizeFlag o t f .unique c.unique
  let minimum ← realizeValue o t f .minimum c.minimum
  let maximum ← realizeValue o t f .maximum c.maximum
  let minLength ← realizeValue o t f .minLength c.minLength
  let maxLength ← realizeValue o t f .maxLength c.maxLength
  let pattern ← realizeValue o t f .pattern c.pattern
  let enum ← realizeValue o t f .enum c.enum
  let links ← r.links.mapM (gatherLink o registry t sheet ctx f)
  let lookup := r.enumColumn.bind fun column => enumSheet.bind (·.lookup? column)
  return [Part.booleanList? o.profile ctx f, required.map (Part.ofRequired ctx), unique.map (Part.ofUnique ctx),
    Part.ofBounds? ctx (f.type = .integer) minimum maximum, Part.ofLengths? ctx minLength maxLength,
    pattern.map fun (regex, realization) => Part.ofPattern ctx regex realization,
    enum.map fun (values, _) => Part.ofValues o.profile ctx sheet lookup values].filterMap id ++ links.filterMap id

/-! ### Composition -/

namespace Composition

def primary? (o : Options) (parts : List Part) : Option Nat := do
  let i ← [0, 1, 2, 3].findSome? fun rank => parts.findIdx? fun p =>
    (o.dropdowns || !p.directive.isList) && p.rank? = some rank
  let part ← parts[i]?
  let alone := parts.zipIdx.all fun (p, j) => j = i || !p.enforced || p.isRequired
  if alone || (part.directive.isList && o.highlightInvalid) then some i else none

/-- Whether an enforced list, or the range that becomes the rule, keeps other types out. -/
def isPinned (o : Options) (parts : List Part) : Bool :=
  parts.zipIdx.any fun (p, i) =>
    p.enforced && (p.directive.isList || (primary? o parts = some i && p.directive.isRange))

/-- The parts with a test of the type in front, where nothing else keeps other types out. -/
def withTypeTest (o : Options) (ctx : CellContext) (f : Field) (parts : List Part) : List Part :=
  if isPinned o parts then parts else (Part.typeTest? ctx f).toList ++ parts

def enforced (parts : List Part) : List Check := (parts.filter (·.enforced)).flatMap (·.checks)

/-- The checks of the enforced parts that the rule does not carry by itself. -/
def rest (primary : Option Nat) (parts : List Part) : List Check :=
  (parts.zipIdx.filter fun (p, i) => p.enforced && primary ≠ some i && !p.isRequired).flatMap fun (p, _) => p.checks

/-- The rule of a column without its style and message: the primary part, or a formula of all checks. -/
def bareRule? (ctx : CellContext) (parts : List Part) (primary : Option Nat) : Option Rule :=
  let allowBlank := !parts.any (·.isRequired)
  match primary.bind (parts[·]?) with
  | some part => part.native.map fun rule =>
    { rule with allowBlank, showError := part.enforced, showDropdown := part.directive.isList }
  | none =>
    let checks := rest none parts ++ (parts.filter (·.isRequired)).flatMap (·.checks)
    (Check.conditions? .valid ctx.cell checks).map fun formula =>
      { kind := .custom formula, allowBlank, showDropdown := false }

def rule? (o : Options) (ctx : CellContext) (parts : List Part) (primary : Option Nat) : Option Rule :=
  (bareRule? ctx parts primary).map fun rule => { rule with
    errorStyle := o.errorStyle
    message := if (enforced parts).isEmpty then "" else Check.describe (enforced parts) }

/-- The formula of the checks that stand beside a native rule. -/
def companion? (ctx : CellContext) (parts : List Part) (primary : Option Nat) : Option Formula :=
  if primary.isSome then Check.conditions? .valid ctx.cell (rest primary parts) else none

def highlight? (o : Options) (ctx : CellContext) (parts : List Part) : Option Formula :=
  if o.highlightInvalid then Check.conditions? .invalid ctx.cell (enforced parts) else none

def compiledChecks (parts : List Part) (primary : Option Nat) : List CompiledCheck :=
  parts.zipIdx.map fun (p, i) => ⟨p.directive, if primary = some i then p.realization else p.folded⟩

end Composition

/-! ### Columns -/

structure Column where
  field : String
  index : UInt16
  range : CellRange
  checks : List CompiledCheck
  rule : Option Rule
  /-- The checks that a native rule does not carry. -/
  companion : Option Formula
  /-- A formula that is true of invalid cells. -/
  highlight : Option Formula

def Composition.column (o : Options) (ctx : CellContext) (f : Field) (c : ColumnLayout) (parts : List Part) : Column :=
  let primary := primary? o parts
  { field := f.name
    index := c.index
    range := c.data
    checks := compiledChecks parts primary
    rule := rule? o ctx parts primary
    companion := companion? ctx parts primary
    highlight := highlight? o ctx parts }

/-- A custom formula is no longer than the platform allows. -/
def checkFormula (p : Profile) (t : Table) (f : Field) : Option Rule → Except Error Unit
  | some { kind := .custom formula, .. } =>
    match p.maxFormula with
    | some max => refuseIf (max < formula.length) (.conflictingConstraint t.name f.name
        ("combined validation formula is " ++ formula.length.repr ++ " characters (max: " ++ max.repr ++ ")"))
    | none => .ok ()
  | _ => .ok ()

def TableLayout.contextOf (l : TableLayout) (c : ColumnLayout) : CellContext where
  cell := c.firstCell.text
  column := c.data.fixed.text
  row := l.rowRange
  columns := l.columns.length

def compileField (o : Options) (registry : Registry) (enumSheet : Option EnumSheet) (t : Table) (l : TableLayout)
    (f : Field) (c : ColumnLayout) (r : FieldResolution) : Outcome Column := do
  let ctx := l.contextOf c
  let parts ← gather o registry enumSheet t l.sheet ctx f r
  let column := Composition.column o ctx f c (Composition.withTypeTest o ctx f parts)
  .ofExcept (checkFormula o.profile t f column.rule)
  return column

/-- Compiles the fields of a table in order. A field for which nothing is resolved refers to nothing. -/
def compileTable (o : Options) (registry : Registry) (enumSheet : Option EnumSheet) (t : Table) (l : TableLayout)
    (resolved : List FieldResolution) : Outcome (List Column) :=
  (t.fields.zip l.columns).zipIdx.mapM fun ((f, c), i) =>
    compileField o registry enumSheet t l f c (resolved[i]?.getD {})

end SheetTemplate
