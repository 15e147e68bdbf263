import SheetTemplate.Proofs.Compile.Errors

/-!
# Tables by themselves

Tables are compiled one after another, and each publishes its columns for those that come after it. But what is
looked up for a table is found at that time, and an answer of the registry never changes, so the table may as well be
compiled against the columns of the whole package. Compiling is then one step for each table that does not depend on
the other steps, and the order of the steps is only the order of the sheets.
-/

namespace SheetTemplate

variable {o : Options}

/-- Compiles a table at home against columns that are published. -/
def compileSheet [Libraries] (o : Options) (registry : Registry) (lists : Option EnumSheet) (t : Table) (rs : List FieldResolution) :
    Outcome Sheet := do
  let columns ← compileTable o registry lists t (o.home t) rs
  return ⟨t.name, o.home t, columns⟩

theorem table_of_compileSheet [Libraries] {registry : Registry} {lists : Option EnumSheet} {t : Table} {rs : List FieldResolution}
    {s : Sheet} (h : (compileSheet o registry lists t rs).result = .ok s) : s.table = t.name ∧ s.layout = o.home t := by
  obtain ⟨columns, _, hs⟩ := Outcome.bind_eq_ok.1 h
  cases Outcome.pure_eq_ok.1 hs
  exact ⟨rfl, rfl⟩

/-! ### What is looked up -/

/-- For a field the same is found in two registries and on two sheets of lists. -/
structure FieldResolution.Alike (registry registry' : Registry) (lists lists' : Option EnumSheet) (r : FieldResolution) :
    Prop where
  links : ∀ link ∈ r.links, registry.get? link.table link.field = registry'.get? link.table link.field
  place : r.place? lists = r.place? lists'

section Alike

variable {registry registry' : Registry} {lists lists' : Option EnumSheet}

theorem compileSupported_congr {r : FieldResolution} (h : r.Alike registry registry' lists lists') (t : Table)
    (l : TableLayout) (f : Field) (c : ColumnLayout) :
    compileSupported o registry lists t l f c r = compileSupported o registry' lists' t l f c r := by
  have hlinked : r.links.mapM (Part.ofLink? o registry (l.contextOf c) t l.sheet f) =
      r.links.mapM (Part.ofLink? o registry' (l.contextOf c) t l.sheet f) := by
    refine mapM_congr fun link hlink => ?_
    rw [Part.ofLink?, Part.ofLink?, h.links link hlink]
  have hplace : (r.enumColumn.bind fun column => lists.bind (·.lookup? column)) =
      r.enumColumn.bind fun column => lists'.bind (·.lookup? column) := h.place
  unfold compileSupported
  dsimp only
  rw [hlinked, hplace]

theorem compileTable_congr {rs : List FieldResolution} (h : ∀ r ∈ rs, r.Alike registry registry' lists lists') (t : Table)
    (l : TableLayout) : compileTable o registry lists t l rs = compileTable o registry' lists' t l rs := by
  have hall : ∀ i : Nat, (rs[i]?.getD {}).Alike registry registry' lists lists' := by
    intro i
    cases hr : rs[i]? with
    | some r => exact h r (List.mem_of_getElem? hr)
    | none => exact ⟨fun _ hlink => absurd hlink List.not_mem_nil, rfl⟩
  unfold compileTable
  refine mapM_congr fun x _ => ?_
  obtain ⟨⟨f, c⟩, i⟩ := x
  simp only [compileField_eq, compileSupported_congr (hall i)]

theorem compileSheet_congr [Libraries] {rs : List FieldResolution} (h : ∀ r ∈ rs, r.Alike registry registry' lists lists')
    (t : Table) : compileSheet o registry lists t rs = compileSheet o registry' lists' t rs := by
  rw [compileSheet, compileTable_congr h, compileSheet]

end Alike

/-! ### All tables -/

/-- A run is a step for each table, against what is published in the end. -/
theorem compileSheets_eq_mapM [Libraries] {lists : Option EnumSheet} {registry : Registry} {seq : List (Table × List FieldResolution)}
    (hfound : ∀ before t rs after, seq = before ++ (t, rs) :: after → ∀ r ∈ rs, ∀ link ∈ r.links, ∃ l,
      (registry.publishAll ((before.map Prod.fst ++ [t]).map o.home)).get? link.table link.field = some l) :
    compileSheets o lists registry seq = (do
      let final := registry.publishAll ((seq.map Prod.fst).map o.home)
      let sheets ← seq.mapM fun x => compileSheet o final lists x.1 x.2
      return (sheets, final)) := by
  induction seq generalizing registry with
  | nil => rfl
  | cons x rest ih =>
    obtain ⟨t, rs⟩ := x
    have hothers : ∀ before u us after, rest = before ++ (u, us) :: after → ∀ r ∈ us, ∀ link ∈ r.links, ∃ l,
        ((registry.publish (o.home t)).publishAll ((before.map Prod.fst ++ [u]).map o.home)).get? link.table link.field =
          some l :=
      fun before u us after hsplit => hfound ((t, rs) :: before) u us after (congrArg ((t, rs) :: ·) hsplit)
    -- Whatever the first table finds is found to the end.
    have hfirst : ∀ r ∈ rs, r.Alike (registry.publish (o.home t))
        ((registry.publish (o.home t)).publishAll ((rest.map Prod.fst).map o.home)) lists lists := by
      refine fun r hr => ⟨fun link hlink => ?_, rfl⟩
      obtain ⟨l, hl⟩ := hfound [] t rs rest rfl r hr link hlink
      have hl : (registry.publish (o.home t)).get? link.table link.field = some l := hl
      rw [hl, Registry.get?_publishAll_of_get? hl]
    rw [compileSheets, compileTable_congr hfirst, ih hothers]
    simp only [List.map_cons, Registry.publishAll_cons, List.mapM_cons, compileSheet, bind_assoc, pure_bind]

/-- The columns of all tables of a package. -/
def Package.registry [Libraries] (p : Package) (o : Options) : Registry := Registry.empty.publishAll (p.tables.map o.home)

variable [Libraries] {p : Package} {r : Resolution}

theorem publishAll_sequence (h : resolve p o = .ok r) :
    Registry.empty.publishAll (((r.sequence p).map Prod.fst).map o.home) = p.registry o := by
  obtain ⟨entries, hresolved⟩ := resolve_eq_ok h
  have hperm := hresolved.tables_perm
  refine Registry.publishAll_perm (hperm.map o.home) ?_ Registry.empty
  rw [List.map_map]
  exact (hperm.map (·.name)).nodup_iff.2 hresolved.named.names_nodup

theorem exists_get?_registry (h : resolve p o = .ok r) {t : Table} {rs : List FieldResolution}
    (ht : (t, rs) ∈ r.sequence p) {res : FieldResolution} (hres : res ∈ rs) {link : Link} (hlink : link ∈ res.links) :
    ∃ l, (p.registry o).get? link.table link.field = some l := by
  obtain ⟨before, after, hsequence⟩ := List.append_of_mem ht
  obtain ⟨l, hl⟩ := published_of_resolve h hsequence hres hlink
  refine ⟨l, ?_⟩
  have hall : (r.sequence p).map Prod.fst = (before.map Prod.fst ++ [t]) ++ after.map Prod.fst := by
    simp [hsequence]
  rw [← publishAll_sequence h, hall, List.map_append, Registry.publishAll_append]
  exact Registry.get?_publishAll_of_get? hl

abbrev Resolution.steps (r : Resolution) (p : Package) (o : Options) : Outcome (List Sheet) :=
  (r.sequence p).mapM fun x => compileSheet o (p.registry o) r.enumSheet x.1 x.2

theorem exists_resolve_of_compile {t : Template} (h : compile p o = .ok t) : ∃ r, resolve p o = .ok r := by
  obtain ⟨r, hr, _⟩ := bind_eq_ok.1 h
  exact ⟨r, hr⟩

theorem compile_eq_steps (h : resolve p o = .ok r) : compile p o = (r.steps p o).result.map fun sheets => {
    platform := o.platform
    enumSheet := r.enumSheet
    sheets
    lookups := p.registry o
    invalidFormat := o.invalidFormat
    warnings := r.warnings ++ (r.steps p o).warnings } := by
  have hsheets : compileSheets o r.enumSheet .empty (r.sequence p) =
      r.steps p o >>= fun sheets => pure (sheets, p.registry o) := by
    rw [compileSheets_eq_mapM fun _ _ _ _ hsequence _ hres _ hlink => published_of_resolve h hsequence hres hlink]
    simp only [publishAll_sequence h]
  rw [compile_of_resolve h, hsheets]
  obtain ⟨warnings, result⟩ := r.steps p o
  cases result with
  | error e => rfl
  | ok sheets =>
    change Except.ok _ = Except.ok _
    simp [bind, Outcome.andThen, pure, Outcome.ofExcept]

theorem steps_of_compile (h : resolve p o = .ok r) {t : Template} (hcompile : compile p o = .ok t) :
    (r.steps p o).result = .ok t.sheets ∧ t.enumSheet = r.enumSheet ∧ t.lookups = p.registry o ∧
      t.warnings = r.warnings ++ (r.steps p o).warnings := by
  rw [compile_eq_steps h] at hcompile
  cases hsteps : (r.steps p o).result with
  | error e => simp [hsteps, Except.map] at hcompile
  | ok sheets =>
    rw [hsteps] at hcompile
    cases hcompile
    exact ⟨rfl, rfl, rfl, rfl⟩

theorem exists_compile_iff (h : resolve p o = .ok r) : (∃ t, compile p o = .ok t) ↔
    ∀ x ∈ r.sequence p, ∃ s, (compileSheet o (p.registry o) r.enumSheet x.1 x.2).result = .ok s := by
  rw [← Outcome.exists_mapM_eq_ok]
  constructor
  · rintro ⟨t, ht⟩
    exact ⟨t.sheets, (steps_of_compile h ht).1⟩
  · rintro ⟨sheets, hsheets⟩
    rw [compile_eq_steps h, hsheets]
    exact ⟨_, rfl⟩

end SheetTemplate
