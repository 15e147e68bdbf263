import SheetTemplate.Proofs.Compile.Modes
import SheetTemplate.Proofs.Compile.Templates
import SheetTemplate.Proofs.Resolution.Supported

/-!
# What best-effort compilation leaves out

A constraint that is left out leaves no trace but its warning: the package without it compiles to the same
template. Both runs go through the same fields, so it is enough to compare them field by field and to keep count
of the warnings on the way.
-/

namespace SheetTemplate

/-! ### Runs that differ in warnings -/

/-- Two runs with one result, of which the second is silent and the first, where it succeeds, gives warnings. -/
structure Outcome.Warns {α : Type} (warnings : List Warning) (loud silent : Outcome α) : Prop where
  no_warnings : silent.warnings = []
  result_eq : loud.result = silent.result
  warnings_eq : ∀ a, loud.result = .ok a → loud.warnings = warnings

namespace Outcome.Warns

variable {α β : Type} {warnings later : List Warning}

theorem pure (a : α) : Warns [] (Pure.pure a) (Pure.pure a) := ⟨rfl, rfl, fun _ _ => rfl⟩

theorem ofExcept (x : Except Error α) : Warns [] (.ofExcept x) (.ofExcept x) := ⟨rfl, rfl, fun _ _ => rfl⟩

theorem bind {loud silent : Outcome α} {next next' : α → Outcome β} (h : Warns warnings loud silent)
    (hnext : ∀ a, Warns later (next a) (next' a)) : Warns (warnings ++ later) (loud >>= next) (silent >>= next') := by
  obtain ⟨hsilent, hresult, hwarnings⟩ := h
  obtain ⟨_, _⟩ := silent
  obtain ⟨given, result⟩ := loud
  dsimp only at hsilent hresult hwarnings
  subst hsilent hresult
  cases result with
  | error e => exact ⟨rfl, rfl, fun _ h => by cases h⟩
  | ok a =>
    rw [hwarnings a rfl]
    obtain ⟨hsilent, hresult, hwarnings⟩ := hnext a
    refine ⟨hsilent, hresult, fun b hb => ?_⟩
    exact congrArg (warnings ++ ·) (hwarnings b hb)

/-- Steps without warnings of their own. -/
theorem bind_nil {loud silent : Outcome α} {next next' : α → Outcome β} (h : Warns warnings loud silent)
    (hnext : ∀ a, Warns [] (next a) (next' a)) : Warns warnings (loud >>= next) (silent >>= next') := by
  rw [← List.append_nil warnings]
  exact h.bind hnext

theorem mapM {step step' : α → Outcome β} {warned : α → List Warning} (h : ∀ x, Warns (warned x) (step x) (step' x))
    (xs : List α) : Warns (xs.flatMap warned) (xs.mapM step) (xs.mapM step') := by
  induction xs with
  | nil => exact .pure []
  | cons x xs ih =>
    rw [List.mapM_cons, List.mapM_cons, List.flatMap_cons]
    exact (h x).bind fun y => ih.bind_nil fun ys => .pure (y :: ys)

end Outcome.Warns

/-! ### Warnings of a package -/

/-- The warnings that constraints of a field are left out, in the order in which constraints are declared. -/
def Field.skipped (o : Options) (t : Table) (f : Field) : List Warning :=
  (f.unsupported o.profile).map fun kind =>
    .skipped (.unsupportedConstraint t.name f.name kind f.type o.platform)

def Table.skipped (o : Options) (t : Table) : List Warning := t.fields.flatMap (·.skipped o t)

def Package.skipped (p : Package) (o : Options) (order : List String) : List Warning :=
  order.flatMap fun name => (p.table? name).toList.flatMap (·.skipped o)

/-! ### Compiling both -/

section Compile

variable {o : Options} {lists : Option EnumSheet}

theorem screenField_bestEffort (t : Table) (f : Field) :
    screenField { o with mode := .bestEffort } t f = ⟨f.skipped o t, .ok (f.supported o.profile)⟩ := by
  simp only [screenField, Options.profile_mode, Field.skipped, List.map_map]
  rfl

theorem screenField_supported (t : Table) (f : Field) :
    screenField { o with mode := .strict } t (f.supported o.profile) = pure (f.supported o.profile) := by
  simp only [screenField, Options.profile_mode, Field.unsupported_supported, Field.supported_supported]
  rfl

theorem layout_supported [Libraries] (t : Table) : o.home (t.supported o.profile) = o.home t := by
  have hzip : (t.fields.map (·.supported o.profile)).zipIdx = t.fields.zipIdx.map (Prod.map (·.supported o.profile) id) :=
    List.zipIdx_map
  simp only [Options.home, Options.layout, Table.supported, hzip, List.map_map, List.length_map, Function.comp_def,
    Prod.map, Field.enum_supported]
  rfl

theorem warns_compileField (registry : Registry) (t : Table) (l : TableLayout) (f : Field) (c : ColumnLayout)
    (r : FieldResolution) : Outcome.Warns (f.skipped o t)
      (compileField { o with mode := .bestEffort } registry lists t l f c r)
      (compileField { o with mode := .strict } registry lists (t.supported o.profile) l (f.supported o.profile) c r) := by
  rw [compileField_eq, compileField_eq, screenField_bestEffort, Options.profile_mode, screenField_supported]
  exact Outcome.Warns.bind_nil ⟨rfl, rfl, fun _ _ => rfl⟩ fun f => .ofExcept _

theorem warns_compileTable (o : Options) (lists : Option EnumSheet) (registry : Registry) {t : Table} (l : TableLayout)
    {rs : List FieldResolution}
    (hlayout : t.fields.length = l.columns.length) (hlength : t.fields.length = rs.length) : Outcome.Warns (t.skipped o)
      (compileTable { o with mode := .bestEffort } registry lists t l rs)
      (compileTable { o with mode := .strict } registry lists (t.supported o.profile) l rs) := by
  have hskipped : t.skipped o = (t.fields.zip (l.columns.zip rs)).flatMap (·.1.skipped o t) := by
    rw [← List.flatMap_map, List.map_fst_zip (by simp [← hlayout, ← hlength]), Table.skipped]
  have hsupported : (t.supported o.profile).fields.length = rs.length := by rw [← hlength, Table.supported, List.length_map]
  rw [compileTable_eq hlength, compileTable_eq hsupported, Table.supported, List.zip_map_left, List.mapM_map, hskipped]
  exact .mapM (fun (x : Field × ColumnLayout × FieldResolution) => warns_compileField registry t l x.1 x.2.1 x.2.2) _

theorem warns_compileSheets [Libraries] (o : Options) (lists : Option EnumSheet) (registry : Registry)
    {seq : List (Table × List FieldResolution)}
    (hlength : ∀ x ∈ seq, x.1.fields.length = x.2.length) : Outcome.Warns (seq.flatMap (·.1.skipped o))
      (compileSheets { o with mode := .bestEffort } lists registry seq)
      (compileSheets { o with mode := .strict } lists registry (seq.map fun x => (x.1.supported o.profile, x.2))) := by
  induction seq generalizing registry with
  | nil => exact .pure _
  | cons x rest ih =>
    obtain ⟨t, rs⟩ := x
    obtain ⟨hfirst, hrest⟩ := List.forall_mem_cons.1 hlength
    have htable := warns_compileTable o lists (registry.publish (o.home t)) (o.home t)
      Options.length_columns_layout.symm hfirst
    have hlayout : ({ o with mode := .strict } : Options).layout (t.supported o.profile) o.startRow o.startColumn =
      o.layout t o.startRow o.startColumn := layout_supported t
    rw [List.map_cons, compileSheets, compileSheets, List.flatMap_cons]
    dsimp only
    rw [hlayout]
    exact htable.bind fun columns => (ih _ hrest).bind_nil fun _ => .pure _

end Compile

/-! ### Packages -/

variable {p : Package} {o : Options} {r : Resolution}

theorem sequence_supported (p : Package) (profile : Profile) (r : Resolution) :
    r.sequence (p.supported profile) = (r.sequence p).map fun x => (x.1.supported profile, x.2) := by
  rw [Resolution.sequence, Resolution.sequence, List.map_filterMap]
  congr 1
  funext i
  rw [Package.supported, List.getElem?_map]
  cases p.tables[i]? with
  | none => rfl
  | some t => cases r.tables[i]? <;> rfl

theorem compile_bestEffort [Libraries] (h : resolve p o = .ok r) : compile p { o with mode := .bestEffort } =
    (compile (p.supported o.profile) { o with mode := .strict }).map fun t =>
      { t with warnings := t.warnings ++ (r.sequence p).flatMap (·.1.skipped o) } := by
  obtain ⟨entries, hresolved⟩ := resolve_eq_ok h
  have hlength : ∀ x ∈ r.sequence p, x.1.fields.length = x.2.length :=
    fun x hx => (hresolved.of_mem_sequence hx).2.length_eq
  obtain ⟨hsilent, hresult, hwarnings⟩ := warns_compileSheets o r.enumSheet .empty hlength
  rw [compile_of_resolve ((resolve_mode p o _).trans h),
    compile_of_resolve ((resolve_mode _ o _).trans (resolve_supported h)), sequence_supported]
  simp only [hsilent, List.append_nil]
  rw [← hresult]
  cases hloud : (compileSheets { o with mode := .bestEffort } r.enumSheet .empty (r.sequence p)).result with
  | error e => rfl
  | ok compiled =>
    rw [hwarnings compiled hloud]
    rfl

/-- The warnings of the tables in their sequence are those of the tables in write order. -/
theorem skipped_order [Libraries] (h : resolve p o = .ok r) {t : Template} (ht : compile p { o with mode := .bestEffort } = .ok t) :
    (r.sequence p).flatMap (·.1.skipped o) = p.skipped o t.order := by
  obtain ⟨entries, hresolved⟩ := resolve_eq_ok h
  have hnames : t.order = ((r.sequence p).map Prod.fst).map (·.name) := by
    rw [compile_of_resolve ((resolve_mode p o _).trans h)] at ht
    obtain ⟨_, hsheets, ht⟩ := bind_eq_ok.1 ht
    rw [pure_eq_ok] at ht
    rw [← ht]
    have hlength : ∀ x ∈ r.sequence p, x.1.fields.length = x.2.length := fun _ hx => length_of_mem_sequence h hx
    exact (compileSheets_eq_ok hlength hsheets).tables_eq
  rw [Package.skipped, hnames, List.flatMap_map, List.flatMap_map]
  refine List.flatMap_congr fun x hx => ?_
  have hfind : p.table? x.1.name = some x.1 :=
    (find?_key_eq_some_iff hresolved.named.names_nodup).2 ⟨(hresolved.of_mem_sequence hx).1, rfl⟩
  rw [hfind, Option.toList_some, List.flatMap_singleton]

/-- Best-effort compilation gives the template of the package without its unsupported constraints, and after the
warnings of that template one for each constraint left out. -/
theorem compile_supported [Libraries] (p : Package) (o : Options) :
    (∀ t, compile p { o with mode := .bestEffort } = .ok t →
      ∃ t', compile (p.supported o.profile) { o with mode := .strict } = .ok t' ∧
        t = { t' with warnings := t'.warnings ++ p.skipped o t.order }) ∧
    ((∃ r, resolve p { o with mode := .bestEffort } = .ok r) →
      (∃ t', compile (p.supported o.profile) { o with mode := .strict } = .ok t') →
      ∃ t, compile p { o with mode := .bestEffort } = .ok t) := by
  simp only [resolve_mode]
  constructor
  · intro t ht
    obtain ⟨r, hr, _⟩ := bind_eq_ok.1 ht
    rw [resolve_mode] at hr
    have hcompile := (compile_bestEffort hr).symm.trans ht
    cases hstrict : compile (p.supported o.profile) { o with mode := .strict } with
    | error e =>
      rw [hstrict] at hcompile
      cases hcompile
    | ok t' =>
      rw [hstrict, skipped_order hr ht] at hcompile
      exact ⟨t', rfl, (Except.ok.inj hcompile).symm⟩
  · rintro ⟨r, hr⟩ ⟨t', ht'⟩
    rw [compile_bestEffort hr, ht']
    exact ⟨_, rfl⟩

attribute [local instance] Libraries.plain in
theorem pattern_left_out : ∃ t t', compile codes { mode := .bestEffort } = .ok t ∧
    compile (codes.supported .excel) {} = .ok t' ∧
    t = { t' with
      warnings := t'.warnings ++ [.skipped (.unsupportedConstraint "codes" "code" .pattern .string .excel)] } := by
  have horder : (compile (codes.supported .excel) {}).toOption.map (·.order) = some ["codes"] := by
    rw [compile, show resolve (codes.supported .excel) {} = _ from resolve_supported resolve_codes]
    rfl
  obtain ⟨t', hstrict, horder⟩ := Option.map_eq_some_iff.1 horder
  rw [toOption_eq_some] at hstrict
  obtain ⟨t, ht⟩ := (compile_supported codes {}).2 ⟨_, (resolve_mode codes {} _).trans resolve_codes⟩ ⟨t', hstrict⟩
  obtain ⟨same, hsame, heq⟩ := (compile_supported codes {}).1 t ht
  cases hstrict.symm.trans hsame
  have hnames : t.order = ["codes"] := (congrArg Template.order heq).trans horder
  rw [hnames] at heq
  exact ⟨t, t', ht, hstrict, heq⟩

end SheetTemplate
