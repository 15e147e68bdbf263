import SheetTemplate.Column
import SheetTemplate.Proofs.Success

/-!
# Gathering and screening

A field is gathered constraint by constraint, and each is realized, left out or refused when its turn comes. The same
comes out when the field is screened first: what the platform cannot realize is struck from its declaration, or stops the
compilation, and then the field that is left is compiled as if nothing else could ever have been declared. All that is
proved of columns starts from that second reading, in which nothing is left out half-way.
-/

namespace SheetTemplate

/-! ### Screening -/

/-- The constraints that a predicate keeps. -/
def Constraints.keep (keeps : ConstraintKind → Bool) (c : Constraints) : Constraints where
  required := c.required && keeps .required
  unique := c.unique && keeps .unique
  minimum := if keeps .minimum then c.minimum else none
  maximum := if keeps .maximum then c.maximum else none
  minLength := if keeps .minLength then c.minLength else none
  maxLength := if keeps .maxLength then c.maxLength else none
  pattern := if keeps .pattern then c.pattern else none
  enum := if keeps .enum then c.enum else none

def Field.unsupported (p : Profile) (f : Field) : List ConstraintKind :=
  f.constraints.declared.filter fun kind => !(p.realize f.type kind).isSupported

def Field.supported (p : Profile) (f : Field) : Field :=
  { f with constraints := f.constraints.keep fun kind => (p.realize f.type kind).isSupported }

/-- What becomes of a declared constraint: nothing where it is supported, an error or a warning where it is not. -/
def screen (o : Options) (t : Table) (f : Field) (kind : ConstraintKind) : Outcome Unit :=
  if (o.profile.realize f.type kind).isSupported then pure ()
  else
    let e := Error.unsupportedConstraint t.name f.name kind f.type o.platform
    match o.mode with
    | .strict => .fail e
    | .bestEffort => .warn (.skipped e) ()

/-- Leaves out the constraints that the platform cannot realize, or fails at the first of them. -/
def screenField (o : Options) (t : Table) (f : Field) : Outcome Field :=
  let errors := (f.unsupported o.profile).map fun kind =>
    Error.unsupportedConstraint t.name f.name kind f.type o.platform
  match o.mode, errors with
  | .strict, e :: _ => .fail e
  | _, errors => ⟨errors.map .skipped, .ok (f.supported o.profile)⟩

/-! ### The parts of a field that is screened -/

namespace Part

def required? (p : Profile) (ctx : CellContext) (f : Field) : Option Part :=
  if f.constraints.required then some (ofRequired ctx (p.realize f.type .required)) else none

def unique? (p : Profile) (ctx : CellContext) (f : Field) : Option Part :=
  if f.constraints.unique then some (ofUnique ctx (p.realize f.type .unique)) else none

def range? (p : Profile) (ctx : CellContext) (f : Field) : Option Part :=
  ofBounds? ctx (f.type = .integer) (f.constraints.minimum.map (·, p.realize f.type .minimum))
    (f.constraints.maximum.map (·, p.realize f.type .maximum))

def length? (p : Profile) (ctx : CellContext) (f : Field) : Option Part :=
  ofLengths? ctx (f.constraints.minLength.map (·, p.realize f.type .minLength))
    (f.constraints.maxLength.map (·, p.realize f.type .maxLength))

def pattern? (p : Profile) (ctx : CellContext) (f : Field) : Option Part :=
  f.constraints.pattern.map fun regex => ofPattern ctx regex (p.realize f.type .pattern)

def enum? (p : Profile) (ctx : CellContext) (sheet : String) (lookup : Option Lookup) (f : Field) : Option Part :=
  f.constraints.enum.map (ofValues p ctx sheet lookup)

/-- The parts of the constraints of a field, in the order in which they are declared. -/
def ofConstraints (p : Profile) (ctx : CellContext) (sheet : String) (enumLookup : Option Lookup) (f : Field) :
    List Part :=
  [booleanList? p ctx f, required? p ctx f, unique? p ctx f, range? p ctx f, length? p ctx f, pattern? p ctx f,
    enum? p ctx sheet enumLookup f].filterMap id

def ofLink (o : Options) (ctx : CellContext) (sheet : String) (f : Field) (link : Link) (lookup : Lookup) : Part :=
  ofLookup o ctx sheet link lookup (o.profile.realize f.type .foreignKey)

/-- The part of a reference, whose column must be published. -/
def ofLink? (o : Options) (registry : Registry) (ctx : CellContext) (t : Table) (sheet : String) (f : Field)
    (link : Link) : Except Error Part :=
  match registry.get? link.table link.field with
  | some lookup => .ok (ofLink o ctx sheet f link lookup)
  | none => .error (.unknownReference t.name ("field '" ++ link.table ++ "." ++ link.field ++ "'"))

end Part

/-- Compiles a field of which every constraint can be realized. -/
def compileSupported (o : Options) (registry : Registry) (enumSheet : Option EnumSheet) (t : Table) (l : TableLayout)
    (f : Field) (c : ColumnLayout) (r : FieldResolution) : Except Error Column := do
  let ctx := l.contextOf c
  let enumLookup := r.enumColumn.bind fun column => enumSheet.bind (·.lookup? column)
  let linked ← r.links.mapM (Part.ofLink? o registry ctx t l.sheet f)
  let column := Composition.column o ctx f c (Composition.withTypeTest o ctx f
    (Part.ofConstraints o.profile ctx l.sheet enumLookup f ++ linked))
  checkFormula o.profile t f column.rule
  return column

/-! ### One constraint -/

section Constraint

variable {o : Options} {t : Table} {f : Field}

theorem realize_eq (kind : ConstraintKind) : realize o t f kind = do
    screen o t f kind
    return if (o.profile.realize f.type kind).isSupported then some (o.profile.realize f.type kind) else none := by
  unfold realize screen
  dsimp only
  split
  · rw [pure_bind]
  · cases o.mode <;> rfl

private def screenDeclared (o : Options) (t : Table) (f : Field) (kind : ConstraintKind) : Outcome Unit :=
  if f.constraints.declares kind then screen o t f kind else pure ()

private def realized? (p : Profile) (f : Field) (kind : ConstraintKind) (declared : Bool) : Option Realization :=
  if declared && (p.realize f.type kind).isSupported then some (p.realize f.type kind) else none

private def valued? {α : Type} (p : Profile) (f : Field) (kind : ConstraintKind) (value : Option α) :
    Option (α × Realization) :=
  (if (p.realize f.type kind).isSupported then value else none).map (·, p.realize f.type kind)

private theorem realizeFlag_eq (kind : ConstraintKind) {declared : Bool} (h : f.constraints.declares kind = declared) :
    realizeFlag o t f kind declared = do
      screenDeclared o t f kind
      return realized? o.profile f kind declared := by
  rw [screenDeclared, h, realizeFlag, realized?]
  cases declared with
  | true => simp only [if_true, realize_eq, Bool.true_and]
  | false => simp

private theorem realizeValue_eq {α : Type} (kind : ConstraintKind) {value : Option α}
    (h : f.constraints.declares kind = value.isSome) : realizeValue o t f kind value = do
      screenDeclared o t f kind
      return valued? o.profile f kind value := by
  rw [screenDeclared, h, valued?]
  cases value with
  | none => simp [realizeValue]
  | some value =>
    simp only [realizeValue, realize_eq, bind_assoc, pure_bind, Option.isSome_some, if_true]
    refine bind_congr fun _ => ?_
    split <;> rfl

/-! ### All constraints -/

private theorem forM_filter {α : Type} {m : Type → Type} [Monad m] [LawfulMonad m] (keeps : α → Bool) (f : α → m PUnit)
    (xs : List α) : forM (xs.filter keeps) f = forM xs fun x => if keeps x then f x else pure () := by
  induction xs with
  | nil => rfl
  | cons x xs ih => cases hx : keeps x <;> simp [hx, ih]

private theorem forM_screen : forM f.constraints.declared (screen o t f) = (do
    screenDeclared o t f .required
    screenDeclared o t f .unique
    screenDeclared o t f .minimum
    screenDeclared o t f .maximum
    screenDeclared o t f .minLength
    screenDeclared o t f .maxLength
    screenDeclared o t f .pattern
    screenDeclared o t f .enum) := by
  have hforeign : screenDeclared o t f .foreignKey = pure () := rfl
  rw [Constraints.declared, forM_filter]
  change forM ConstraintKind.all (screenDeclared o t f) = _
  simp [ConstraintKind.all, List.forM_cons, List.forM_nil, hforeign]

private theorem forM_screen_strict (hmode : o.mode = .strict) (kinds : List ConstraintKind) :
    forM kinds (screen o t f) = match (kinds.filter fun kind => !(o.profile.realize f.type kind).isSupported) with
      | [] => pure ()
      | kind :: _ => .fail (.unsupportedConstraint t.name f.name kind f.type o.platform) := by
  induction kinds with
  | nil => rfl
  | cons kind kinds ih =>
    rw [List.forM_cons, ih, screen, hmode, List.filter_cons]
    cases (o.profile.realize f.type kind).isSupported with
    | true => exact pure_bind _ _
    | false => rfl

private theorem forM_screen_bestEffort (hmode : o.mode = .bestEffort) (kinds : List ConstraintKind) :
    forM kinds (screen o t f) = ⟨(kinds.filter fun kind => !(o.profile.realize f.type kind).isSupported).map fun kind =>
      .skipped (.unsupportedConstraint t.name f.name kind f.type o.platform), .ok ()⟩ := by
  induction kinds with
  | nil => rfl
  | cons kind kinds ih =>
    rw [List.forM_cons, ih, screen, hmode, List.filter_cons]
    cases (o.profile.realize f.type kind).isSupported with
    | true => exact pure_bind _ _
    | false => rfl

/-- Screening a field is meeting its constraints one by one. -/
theorem screenField_eq (o : Options) (t : Table) (f : Field) : screenField o t f = do
    forM f.constraints.declared (screen o t f)
    return f.supported o.profile := by
  unfold screenField
  cases hmode : o.mode with
  | strict =>
    rw [forM_screen_strict hmode]
    change _ = (match f.unsupported o.profile with
      | [] => pure ()
      | kind :: _ => Outcome.fail (.unsupportedConstraint t.name f.name kind f.type o.platform)) >>= _
    cases f.unsupported o.profile <;> rfl
  | bestEffort =>
    rw [forM_screen_bestEffort hmode]
    simp [bind, Outcome.andThen, pure, Outcome.ofExcept, Field.unsupported]

end Constraint

/-! ### Gathering -/

theorem realize_foreignKey (o : Options) (type : FieldType) : o.profile.realize type .foreignKey = .native .rangeList := by
  rw [Options.profile]
  cases o.platform <;> cases type <;> rfl

theorem isSupported_enum (o : Options) (type : FieldType) : (o.profile.realize type .enum).isSupported = true := by
  rw [Options.profile]
  cases o.platform <;> cases type <;> rfl

section Gather

variable {o : Options} {registry : Registry} {lists : Option EnumSheet} {t : Table} {l : TableLayout} {f : Field}
  {c : ColumnLayout} {r : FieldResolution}

private theorem gatherLink_eq {sheet : String} {ctx : CellContext} (link : Link) :
    gatherLink o registry t sheet ctx f link = .ofExcept (some <$> Part.ofLink? o registry ctx t sheet f link) := by
  have hsupported : (Realization.native .rangeList).isSupported = true := rfl
  rw [gatherLink, realize, realize_foreignKey, hsupported, if_pos rfl, pure_bind, Part.ofLink?]
  cases registry.get? link.table link.field with
  | some lookup =>
    change Outcome.ofExcept (.ok (some (Part.ofLookup o ctx sheet link lookup _))) = _
    rw [← realize_foreignKey o f.type]
    rfl
  | none => rfl

private theorem gatherLinks_eq {sheet : String} {ctx : CellContext} (links : List Link) :
    links.mapM (gatherLink o registry t sheet ctx f) =
      .ofExcept (List.map some <$> links.mapM (Part.ofLink? o registry ctx t sheet f)) := by
  induction links with
  | nil => rfl
  | cons link links ih =>
    rw [List.mapM_cons, List.mapM_cons, gatherLink_eq, ih]
    cases Part.ofLink? o registry ctx t sheet f link with
    | error e => rfl
    | ok part => cases links.mapM (Part.ofLink? o registry ctx t sheet f) <;> rfl

private theorem ofConstraints_supported (sheet : String) (ctx : CellContext) (lookup : Option Lookup) :
    Part.ofConstraints o.profile ctx sheet lookup (f.supported o.profile) = [
      Part.booleanList? o.profile ctx f,
      (realized? o.profile f .required f.constraints.required).map (Part.ofRequired ctx),
      (realized? o.profile f .unique f.constraints.unique).map (Part.ofUnique ctx),
      Part.ofBounds? ctx (f.type = .integer) (valued? o.profile f .minimum f.constraints.minimum)
        (valued? o.profile f .maximum f.constraints.maximum),
      Part.ofLengths? ctx (valued? o.profile f .minLength f.constraints.minLength)
        (valued? o.profile f .maxLength f.constraints.maxLength),
      (valued? o.profile f .pattern f.constraints.pattern).map fun (regex, realization) =>
        Part.ofPattern ctx regex realization,
      (valued? o.profile f .enum f.constraints.enum).map fun (values, _) =>
        Part.ofValues o.profile ctx sheet lookup values].filterMap id := by
  have hboolean : Part.booleanList? o.profile ctx (f.supported o.profile) = Part.booleanList? o.profile ctx f := by
    simp only [Part.booleanList?, Field.supported, Constraints.keep, isSupported_enum, if_true]
  have hflag : ∀ kind declared (part : Realization → Part), (realized? o.profile f kind declared).map part =
      if declared && (o.profile.realize f.type kind).isSupported then some (part (o.profile.realize f.type kind))
        else none := fun _ _ part => apply_ite (Option.map part) ..
  rw [Part.ofConstraints, hboolean, hflag, hflag, valued?, valued?, valued?, valued?, valued?, valued?, Option.map_map,
    Option.map_map]
  rfl

/-- Realizing constraint by constraint gathers the parts of the field that is left when all constraints are screened. -/
theorem gather_eq (sheet : String) (ctx : CellContext) : gather o registry lists t sheet ctx f r = (do
    let f' ← screenField o t f
    let linked ← .ofExcept (r.links.mapM (Part.ofLink? o registry ctx t sheet f'))
    return Part.ofConstraints o.profile ctx sheet (r.enumColumn.bind fun column => lists.bind (·.lookup? column)) f' ++
      linked) := by
  have hrequired : f.constraints.declares .required = f.constraints.required := rfl
  have hunique : f.constraints.declares .unique = f.constraints.unique := rfl
  have hlinks : Part.ofLink? o registry ctx t sheet (f.supported o.profile) = Part.ofLink? o registry ctx t sheet f := rfl
  rw [screenField_eq, forM_screen]
  unfold gather
  simp only [realizeFlag_eq .required hrequired, realizeFlag_eq .unique hunique, realizeValue_eq .minimum rfl,
    realizeValue_eq .maximum rfl, realizeValue_eq .minLength rfl, realizeValue_eq .maxLength rfl,
    realizeValue_eq .pattern rfl, realizeValue_eq .enum rfl, gatherLinks_eq, bind_assoc, pure_bind, hlinks]
  -- Both sides have screened the same eight constraints by now.
  iterate 8 refine bind_congr fun _ => ?_
  cases r.links.mapM (Part.ofLink? o registry ctx t sheet f) with
  | error e => rfl
  | ok linked =>
    have hlinked : (linked.map some).filterMap id = linked := by rw [List.filterMap_map]; exact List.filterMap_some
    change pure (_ ++ (linked.map some).filterMap id) = pure (_ ++ linked)
    rw [hlinked, ofConstraints_supported]

private theorem ofExcept_bind {α β : Type} (x : Except Error α) (next : α → Except Error β) :
    Outcome.ofExcept (x >>= next) = Outcome.ofExcept x >>= fun a => .ofExcept (next a) := by
  cases x <;> rfl

theorem compileField_eq : compileField o registry lists t l f c r = (do
    let f' ← screenField o t f
    .ofExcept (compileSupported o registry lists t l f' c r)) := by
  rw [compileField, gather_eq, screenField_eq]
  simp only [bind_assoc, pure_bind, compileSupported, ofExcept_bind]
  rfl

/-- Where the fields of a table are all resolved, each is compiled with what it refers to. -/
theorem compileTable_eq {rs : List FieldResolution} (h : t.fields.length = rs.length) :
    compileTable o registry lists t l rs =
      (t.fields.zip (l.columns.zip rs)).mapM fun (f, c, r) => compileField o registry lists t l f c r := by
  have hzip : t.fields.zip (l.columns.zip rs) =
      (t.fields.zip l.columns).zipIdx.map fun x => (x.1.1, x.1.2, rs[x.2]?.getD {}) := by
    refine List.ext_getElem (by simp [h, Nat.min_comm]) fun i hi hi' => ?_
    have hlt : i < rs.length := by simp at hi; omega
    simp [hlt]
  rw [hzip, List.mapM_map]
  rfl

end Gather

end SheetTemplate
