import SheetTemplate.Proofs.Compile.Obstacles
import SheetTemplate.Proofs.Resolution.Faults

/-!
# Strict and best-effort compilation

Where a strict run stops at a constraint that the platform cannot realize, a best-effort run leaves the constraint
out, says so and goes on. Up to there the two do the same, so what the strict run reports is the first thing that
the best-effort run leaves out, whatever it finds after that.
-/

namespace SheetTemplate

/-! ### Runs that go on -/

/-- A run that goes on where a strict one stops at a recoverable error, and otherwise does the same. -/
inductive GoesOn {α : Type} (strict lenient : Outcome α) : Prop
  | done {a : α} (hstrict : strict = pure a) (hlenient : lenient = pure a)
  | fatal {e : Error} (hstrict : strict.result = .error e) (h : e.isRecoverable = false)
    (hlenient : lenient.result = .error e)
  | skipped {e : Error} (hstrict : strict.result = .error e) (h : e.isRecoverable = true)
    (hlenient : lenient.warnings.head? = some (.skipped e))

namespace GoesOn

variable {α β : Type}

theorem bind {strict lenient : Outcome α} {next next' : α → Outcome β} (h : GoesOn strict lenient)
    (hnext : ∀ a, GoesOn (next a) (next' a)) : GoesOn (strict >>= next) (lenient >>= next') := by
  cases h with
  | @done a hstrict hlenient =>
    rw [hstrict, hlenient, pure_bind, pure_bind]
    exact hnext a
  | fatal hstrict h hlenient =>
    exact .fatal (Outcome.bind_eq_error.2 (.inl hstrict)) h (Outcome.bind_eq_error.2 (.inl hlenient))
  | skipped hstrict h hlenient =>
    refine .skipped (Outcome.bind_eq_error.2 (.inl hstrict)) h ?_
    obtain ⟨before, hbefore⟩ := Outcome.warnings_bind lenient next'
    rw [hbefore, List.head?_append, hlenient]
    rfl

theorem mapM {step step' : α → Outcome β} (h : ∀ x, GoesOn (step x) (step' x)) (xs : List α) :
    GoesOn (xs.mapM step) (xs.mapM step') := by
  induction xs with
  | nil => exact .done rfl rfl
  | cons x xs ih =>
    rw [List.mapM_cons, List.mapM_cons]
    exact (h x).bind fun y => ih.bind fun ys => .done rfl rfl

theorem ofExcept {x : Except Error α} (h : ∀ e, x = .error e → e.isRecoverable = false) :
    GoesOn (.ofExcept x) (.ofExcept x) := by
  cases x with
  | ok a => exact .done rfl rfl
  | error e => exact .fatal rfl (h e rfl) rfl

end GoesOn

/-! ### Compiling in both modes -/

section Modes

variable {o : Options} {lists : Option EnumSheet}

theorem Options.profile_mode (o : Options) (mode : Mode) : ({ o with mode } : Options).profile = o.profile := rfl

theorem goesOn_screenField (t : Table) (f : Field) :
    GoesOn (screenField { o with mode := .strict } t f) (screenField { o with mode := .bestEffort } t f) := by
  simp only [screenField, Options.profile_mode]
  cases f.unsupported o.profile with
  | nil => exact .done rfl rfl
  | cons kind kinds => exact .skipped rfl rfl rfl

theorem not_recoverable_of_compileSupported {registry : Registry} {t : Table} {l : TableLayout} {f : Field}
    {c : ColumnLayout} {r : FieldResolution} {e : Error} (h : compileSupported o registry lists t l f c r = .error e) :
    e.isRecoverable = false := by
  rcases compileSupported_eq_error h with ⟨_, _, _, rfl⟩ | ⟨_, hformula⟩
  · rfl
  · obtain ⟨_, _, _, _, _, _, _, rfl⟩ := checkFormula_eq_error.1 hformula
    rfl

theorem goesOn_compileField (registry : Registry) (t : Table) (l : TableLayout) (f : Field) (c : ColumnLayout)
    (r : FieldResolution) : GoesOn (compileField { o with mode := .strict } registry lists t l f c r)
      (compileField { o with mode := .bestEffort } registry lists t l f c r) := by
  rw [compileField_eq, compileField_eq]
  exact (goesOn_screenField t f).bind fun _ => .ofExcept fun _ => not_recoverable_of_compileSupported

theorem goesOn_compileTable (registry : Registry) (t : Table) (l : TableLayout) (rs : List FieldResolution) :
    GoesOn (compileTable { o with mode := .strict } registry lists t l rs)
      (compileTable { o with mode := .bestEffort } registry lists t l rs) :=
  .mapM (fun (x : (Field × ColumnLayout) × Nat) => goesOn_compileField registry t l x.1.1 x.1.2 (rs[x.2]?.getD {})) _

theorem goesOn_compileSheets [Libraries] (o : Options) (lists : Option EnumSheet) (registry : Registry)
    (seq : List (Table × List FieldResolution)) :
    GoesOn (compileSheets { o with mode := .strict } lists registry seq)
      (compileSheets { o with mode := .bestEffort } lists registry seq) := by
  induction seq generalizing registry with
  | nil => exact .done rfl rfl
  | cons x rest ih =>
    obtain ⟨t, rs⟩ := x
    rw [compileSheets, compileSheets]
    exact (goesOn_compileTable _ t _ rs).bind fun columns => (ih _).bind fun _ => .done rfl rfl

end Modes

/-! ### Resolution -/

private theorem checkTablesAfter_mode (o : Options) (mode : Mode) (names sheets : List String) (tables : List Table) :
    checkTablesAfter { o with mode } names sheets tables = checkTablesAfter o names sheets tables := by
  induction tables generalizing names sheets with
  | nil => rfl
  | cons t rest ih =>
    simp only [checkTablesAfter, ih]
    rfl

theorem resolve_mode [Libraries] (p : Package) (o : Options) (mode : Mode) : resolve p { o with mode } = resolve p o := by
  simp only [resolve, checkTables, checkTablesAfter_mode]
  rfl

theorem not_skipped_of_resolve [Libraries] {p : Package} {o : Options} {r : Resolution} (h : resolve p o = .ok r) :
    ∀ w ∈ r.warnings, ∀ e, w ≠ .skipped e := by
  intro w hw e heq
  rw [warnings_of_resolve h] at hw
  obtain ⟨t, _, hw⟩ := List.mem_flatMap.1 hw
  obtain ⟨f, _, hw⟩ := List.mem_filterMap.1 hw
  unfold formulaLike? at hw
  subst heq
  split at hw <;> cases hw

theorem compile_eq_error [Libraries] {p : Package} {o : Options} {r : Resolution} {e : Error} (h : resolve p o = .ok r)
    (hsheets : (compileSheets o r.enumSheet .empty (r.sequence p)).result = .error e) : compile p o = .error e := by
  rw [compile_of_resolve h]
  simp only [hsheets]
  rfl

theorem warnings_of_compile [Libraries] {p : Package} {o : Options} {r : Resolution} {t : Template} (h : resolve p o = .ok r)
    (hcompile : compile p o = .ok t) :
    t.warnings = r.warnings ++ (compileSheets o r.enumSheet .empty (r.sequence p)).warnings := by
  rw [compile_of_resolve h] at hcompile
  obtain ⟨_, _, ht⟩ := bind_eq_ok.1 hcompile
  rw [pure_eq_ok] at ht
  rw [← ht]

/-- Both modes give the same template or the same fatal error. Where strict compilation stops at a recoverable error,
best-effort compilation fails for a conflict, or gives a template of which that error is the first to be skipped. -/
theorem compile_modes [Libraries] (p : Package) (o : Options) :
    (∀ t, compile p { o with mode := .strict } = .ok t → compile p { o with mode := .bestEffort } = .ok t) ∧
    (∀ e, compile p { o with mode := .strict } = .error e → e.isRecoverable = false →
      compile p { o with mode := .bestEffort } = .error e) ∧
    ∀ e, compile p { o with mode := .strict } = .error e → e.isRecoverable = true →
      (∃ table field reason,
        compile p { o with mode := .bestEffort } = .error (.conflictingConstraint table field reason)) ∨
      ∃ t before after, compile p { o with mode := .bestEffort } = .ok t ∧
        t.warnings = before ++ .skipped e :: after ∧ ∀ w ∈ before, ∀ e', w ≠ .skipped e' := by
  cases hresolve : resolve p o with
  | error e =>
    have hnot := (fault_of_resolve hresolve).not_recoverable
    have hboth : ∀ mode, compile p { o with mode } = .error e := fun mode => by
      rw [compile, resolve_mode, hresolve]
      rfl
    rw [hboth, hboth]
    refine ⟨fun _ h => h, fun _ h _ => h, fun e' h hrecoverable => ?_⟩
    cases h
    cases hnot.symm.trans hrecoverable
  | ok r =>
    have hmode : ∀ mode, resolve p { o with mode } = .ok r := fun mode => (resolve_mode p o mode).trans hresolve
    cases goesOn_compileSheets o r.enumSheet .empty (r.sequence p) with
    | done hstrict hlenient =>
      rw [compile_of_resolve (hmode .strict), compile_of_resolve (hmode .bestEffort), hstrict, hlenient]
      exact ⟨fun _ h => h, fun _ h _ => h, fun e h _ => by cases h⟩
    | fatal hstrict hnot hlenient =>
      rw [compile_eq_error (hmode .strict) hstrict, compile_eq_error (hmode .bestEffort) hlenient]
      refine ⟨fun _ h => h, fun _ h _ => h, fun e' h hrecoverable => ?_⟩
      cases h
      cases hnot.symm.trans hrecoverable
    | skipped hstrict hrecoverable hlenient =>
      rw [compile_eq_error (hmode .strict) hstrict]
      refine ⟨fun t h => (by cases h), fun e' h hnot => ?_, fun e' h _ => ?_⟩
      · cases h
        cases hrecoverable.symm.trans hnot
      cases h
      cases hcompile : compile p { o with mode := .bestEffort } with
      | error e =>
        obtain ⟨_, _, _, _, ⟨hstrict, _⟩ | ⟨_, _, _, _, rfl⟩⟩ := error_of_compile (hmode .bestEffort) hcompile
        · cases hstrict
        · exact .inl ⟨_, _, _, rfl⟩
      | ok t =>
        obtain ⟨after, hafter⟩ := List.head?_eq_some_iff.1 hlenient
        exact .inr ⟨t, r.warnings, after, rfl, hafter ▸ warnings_of_compile (hmode .bestEffort) hcompile,
          not_skipped_of_resolve hresolve⟩

/-! ### A pattern -/

/-- Codes in capital letters, which not every platform can check. -/
def codes : Package where
  tables := [{
    name := "codes"
    fields := [{ name := "code", type := .string, constraints := { pattern := some "[A-Z]+" } }] }]

attribute [local instance] Libraries.plain in
theorem resolve_codes : resolve codes {} = .ok ⟨[0], [[⟨[], none⟩]], none, []⟩ := by
  have hrows : ({} : Options).checkRows = .ok () := rfl
  have hnamed : WellNamed {} [] [Text.lowercase ({} : Options).enumSheet] codes.tables := by
    constructor <;> decide +kernel
  have htables : checkTables {} codes = .ok () := checkTables_eq_ok.2 ⟨by decide +kernel, hnamed⟩
  have hkeys : codes.tables.mapM (resolveTable codes) = .ok [[]] := rfl
  rw [resolve, hrows, htables, hkeys]
  rfl

attribute [local instance] Libraries.plain in
theorem exists_compile_codes : ∃ t, compile codes { mode := .bestEffort } = .ok t := by
  have hsome : (compile codes { mode := .bestEffort }).toOption.isSome = true := by
    rw [compile, resolve_mode codes {} .bestEffort, resolve_codes]
    rfl
  obtain ⟨t, ht⟩ := Option.isSome_iff_exists.1 hsome
  exact ⟨t, toOption_eq_some.1 ht⟩

attribute [local instance] Libraries.plain in
theorem pattern_skipped_first : ∃ t before after, compile codes { mode := .bestEffort } = .ok t ∧
    t.warnings = before ++ .skipped (.unsupportedConstraint "codes" "code" .pattern .string .excel) :: after ∧
    ∀ w ∈ before, ∀ e, w ≠ .skipped e := by
  have hstrict : compile codes {} = .error (.unsupportedConstraint "codes" "code" .pattern .string .excel) := by
    rw [compile, resolve_codes]
    rfl
  rcases (compile_modes codes {}).2.2 _ hstrict rfl with ⟨_, _, _, herror⟩ | hskipped
  · obtain ⟨t, ht⟩ := exists_compile_codes
    cases herror.symm.trans ht
  · exact hskipped

end SheetTemplate
