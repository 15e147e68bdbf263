import SheetTemplate.Proofs.Compile.Separate
import SheetTemplate.Proofs.Resolution.Faults

/-!
# Obstacles to a template

A package that resolves has a template unless one of two things stands in the way: a constraint that the platform
cannot realize, in strict mode, or a formula that is too long for it. An obstacle is an error with the place of the
package where it is met, and what compiling finds wrong are the obstacles and nothing else.
-/

namespace SheetTemplate

/-- The column of a field, whatever the length of its formula, with what is published of its references. -/
def composedColumn (o : Options) (registry : Registry) (lists : Option EnumSheet) (l : TableLayout) (f : Field)
    (c : ColumnLayout) (r : FieldResolution) : Column :=
  let ctx := l.contextOf c
  let linked := r.links.filterMap fun link =>
    (registry.get? link.table link.field).map (Part.ofLink o ctx l.sheet f link)
  Composition.column o ctx f c (Composition.withTypeTest o ctx f
    (Part.ofConstraints o.profile ctx l.sheet (r.place? lists) f ++ linked))

/-- A field stands in its column of a package that resolves, with what it refers to. -/
def Package.Places [Libraries] (p : Package) (o : Options) (r : Resolution) (t : Table) (f : Field) (c : ColumnLayout)
    (res : FieldResolution) : Prop :=
  ∃ rs, (t, rs) ∈ r.sequence p ∧ (f, c, res) ∈ t.fields.zip ((o.home t).columns.zip rs)

/-- An error that stands in the way of a template. -/
inductive Package.Obstacle [Libraries] (p : Package) (o : Options) (r : Resolution) : Error → Prop
  | unsupported {t : Table} {f : Field} {kind : ConstraintKind} (hmode : o.mode = .strict) (ht : t ∈ p.tables)
    (hf : f ∈ t.fields) (hkind : kind ∈ f.constraints.declared) (h : o.profile.realize f.type kind = .unsupported) :
    Obstacle p o r (.unsupportedConstraint t.name f.name kind f.type o.platform)
  | tooLong {t : Table} {f : Field} {c : ColumnLayout} {res : FieldResolution} {rule : Rule} {formula : Formula} {max : Nat}
    (hplace : p.Places o r t f c res)
    (hrule : (composedColumn o (p.registry o) r.enumSheet (o.home t) (f.supported o.profile) c res).rule = some rule)
    (hkind : rule.kind = .custom formula) (hmax : o.profile.maxFormula = some max) (h : max < formula.length) :
    Obstacle p o r (.conflictingConstraint t.name f.name
      ("combined validation formula is " ++ formula.length.repr ++ " characters (max: " ++ max.repr ++ ")"))

/-! ### One field -/

section Field

variable {o : Options} {registry : Registry} {lists : Option EnumSheet} {t : Table} {l : TableLayout} {f : Field}
  {c : ColumnLayout} {r : FieldResolution}

theorem Field.mem_unsupported {p : Profile} {kind : ConstraintKind} :
    kind ∈ f.unsupported p ↔ kind ∈ f.constraints.declared ∧ p.realize f.type kind = .unsupported := by
  simp [Field.unsupported, Realization.isSupported]

/-- A field with all its references published has its column, unless the formula is too long. -/
theorem compileSupported_eq (hfound : ∀ link ∈ r.links, ∃ place, registry.get? link.table link.field = some place) :
    compileSupported o registry lists t l f c r = (do
      let column := composedColumn o registry lists l f c r
      checkFormula o.profile t f column.rule
      return column) := by
  have hlinked : ∀ links : List Link, (∀ link ∈ links, ∃ place, registry.get? link.table link.field = some place) →
      links.mapM (Part.ofLink? o registry (l.contextOf c) t l.sheet f) = .ok (links.filterMap fun link =>
        (registry.get? link.table link.field).map (Part.ofLink o (l.contextOf c) l.sheet f link)) := by
    intro links hlinks
    rw [mapM_eq_ok]
    induction links with
    | nil => exact .nil
    | cons link links ih =>
      obtain ⟨⟨place, hplace⟩, hrest⟩ := List.forall_mem_cons.1 hlinks
      have hlink : Part.ofLink? o registry (l.contextOf c) t l.sheet f link =
          .ok (Part.ofLink o (l.contextOf c) l.sheet f link place) := by
        rw [Part.ofLink?, hplace]
      rw [List.filterMap_cons, hplace]
      exact .cons hlink (ih hrest)
  unfold compileSupported
  simp only [hlinked r.links hfound]
  rfl

theorem screenField_strict {g : Field} (hmode : o.mode = .strict) (h : (screenField o t f).result = .ok g) :
    f.unsupported o.profile = [] := by
  unfold screenField at h
  rw [hmode] at h
  cases hkinds : f.unsupported o.profile with
  | nil => rfl
  | cons kind kinds => simp [hkinds, Outcome.fail, Outcome.ofExcept] at h

end Field

/-! ### Fields at their places -/

variable {p : Package} {o : Options} {r : Resolution}

theorem Package.Places.mem [Libraries] (h : resolve p o = .ok r) {t : Table} {f : Field} {c : ColumnLayout} {res : FieldResolution}
    (hplace : p.Places o r t f c res) : t ∈ p.tables ∧ f ∈ t.fields := by
  obtain ⟨rs, hsequence, hrow⟩ := hplace
  obtain ⟨_, hresolved⟩ := resolve_eq_ok h
  exact ⟨(hresolved.of_mem_sequence hsequence).1, (List.of_mem_zip hrow).1⟩

theorem length_of_mem_sequence [Libraries] (h : resolve p o = .ok r) {t : Table} {rs : List FieldResolution}
    (ht : (t, rs) ∈ r.sequence p) : t.fields.length = rs.length := by
  obtain ⟨_, hresolved⟩ := resolve_eq_ok h
  exact (hresolved.of_mem_sequence ht).2.length_eq

theorem Package.Places.exists_get? [Libraries] (h : resolve p o = .ok r) {t : Table} {f : Field} {c : ColumnLayout}
    {res : FieldResolution} (hplace : p.Places o r t f c res) {link : Link} (hlink : link ∈ res.links) :
    ∃ l, (p.registry o).get? link.table link.field = some l := by
  obtain ⟨rs, hsequence, hrow⟩ := hplace
  exact exists_get?_registry h hsequence (List.of_mem_zip (List.of_mem_zip hrow).2).2 hlink

theorem exists_places [Libraries] (h : resolve p o = .ok r) {t : Table} (ht : t ∈ p.tables) {f : Field} (hf : f ∈ t.fields) :
    ∃ c res, p.Places o r t f c res := by
  obtain ⟨_, hresolved⟩ := resolve_eq_ok h
  obtain ⟨⟨u, rs⟩, hsequence, hu⟩ := List.mem_map.1 (hresolved.tables_perm.mem_iff.2 ht)
  obtain rfl : u = t := hu
  have hlength := (hresolved.of_mem_sequence hsequence).2.length_eq
  have hcolumns : (o.home u).columns.length = u.fields.length := by
    rw [← List.length_map (·.field), Options.fields_layout, List.length_map]
  have hzip : (u.fields.zip ((o.home u).columns.zip rs)).map Prod.fst = u.fields :=
    List.map_fst_zip (by simp [hcolumns, ← hlength])
  rw [← hzip] at hf
  obtain ⟨⟨_, c, res⟩, hrow, rfl⟩ := List.mem_map.1 hf
  exact ⟨c, res, rs, hsequence, hrow⟩

/-! ### Obstacles and errors -/

theorem obstacle_of_compileField [Libraries] (h : resolve p o = .ok r) {t : Table} {f : Field} {c : ColumnLayout}
    {res : FieldResolution} (hplace : p.Places o r t f c res) {e : Error}
    (herror : (compileField o (p.registry o) r.enumSheet t (o.home t) f c res).result = .error e) : p.Obstacle o r e := by
  obtain ⟨ht, hf⟩ := hplace.mem h
  rw [compileField_eq] at herror
  rcases Outcome.bind_eq_error.1 herror with hscreen | ⟨f', hscreen, hsupported⟩
  · obtain ⟨hmode, kind, hkind, rfl⟩ := screenField_eq_error hscreen
    obtain ⟨hdeclared, hunsupported⟩ := Field.mem_unsupported.1 hkind
    exact .unsupported hmode ht hf hdeclared hunsupported
  · rw [screenField_eq_ok hscreen, compileSupported_eq fun link => hplace.exists_get? h] at hsupported
    rcases bind_eq_error.1 hsupported with hformula | ⟨_, _, hsupported⟩
    · obtain ⟨rule, formula, max, hrule, hkind, hmax, hlong, rfl⟩ := checkFormula_eq_error.1 hformula
      exact .tooLong (f := f) hplace hrule hkind hmax hlong
    · cases hsupported

theorem exists_column_of_compile [Libraries] (h : resolve p o = .ok r) {t : Template} (hcompile : compile p o = .ok t) {t : Table}
    {f : Field} {c : ColumnLayout} {res : FieldResolution} (hplace : p.Places o r t f c res) :
    ∃ column, (compileField o (p.registry o) r.enumSheet t (o.home t) f c res).result = .ok column := by
  obtain ⟨rs, hsequence, hrow⟩ := hplace
  obtain ⟨_, hsheet⟩ := (exists_compile_iff h).1 ⟨_, hcompile⟩ _ hsequence
  obtain ⟨columns, hcolumns, _⟩ := Outcome.bind_eq_ok.1 hsheet
  rw [compileTable_eq (length_of_mem_sequence h hsequence)] at hcolumns
  exact Outcome.exists_mapM_eq_ok.1 ⟨columns, hcolumns⟩ (f, c, res) hrow

theorem not_obstacle_of_compile [Libraries] (h : resolve p o = .ok r) {t : Template} (hcompile : compile p o = .ok t) {e : Error} :
    ¬p.Obstacle o r e := by
  intro hobstacle
  cases hobstacle with
  | @unsupported t f kind hmode ht hf hdeclared hunsupported =>
    obtain ⟨c, res, hplace⟩ := exists_places h ht hf
    obtain ⟨column, hcolumn⟩ := exists_column_of_compile h hcompile hplace
    rw [compileField_eq] at hcolumn
    obtain ⟨_, hscreen, _⟩ := Outcome.bind_eq_ok.1 hcolumn
    have hkind := Field.mem_unsupported.2 ⟨hdeclared, hunsupported⟩
    rw [screenField_strict hmode hscreen] at hkind
    cases hkind
  | @tooLong t f c res rule formula max hplace hrule hkind hmax hlong =>
    obtain ⟨column, hcolumn⟩ := exists_column_of_compile h hcompile hplace
    rw [compileField_eq] at hcolumn
    obtain ⟨f', hscreen, hsupported⟩ := Outcome.bind_eq_ok.1 hcolumn
    rw [screenField_eq_ok hscreen, compileSupported_eq fun link => hplace.exists_get? h] at hsupported
    obtain ⟨_, hformula, _⟩ := bind_eq_ok.1 hsupported
    cases hformula.symm.trans (checkFormula_eq_error.2 ⟨rule, formula, max, hrule, hkind, hmax, hlong, rfl⟩)

theorem obstacle_of_compile [Libraries] (h : resolve p o = .ok r) {e : Error} (herror : compile p o = .error e) :
    p.Obstacle o r e := by
  have hsteps : (r.steps p o).result = .error e := by
    rw [compile_eq_steps h] at herror
    cases hresult : (r.steps p o).result with
    | ok sheets => simp [hresult, Except.map] at herror
    | error e' => simpa [hresult, Except.map] using herror
  obtain ⟨⟨t, rs⟩, hsequence, hsheet⟩ := Outcome.mapM_eq_error hsteps
  rcases Outcome.bind_eq_error.1 hsheet with htable | ⟨_, _, hsheet⟩
  · rw [compileTable_eq (length_of_mem_sequence h hsequence)] at htable
    obtain ⟨⟨f, c, res⟩, hrow, hfield⟩ := Outcome.mapM_eq_error htable
    exact obstacle_of_compileField h ⟨rs, hsequence, hrow⟩ hfield
  · cases hsheet

theorem not_obstacle_of_googleSheets [Libraries] (hplatform : o.platform = .googleSheets) (hmode : o.mode = .bestEffort) {e : Error} :
    ¬p.Obstacle o r e := by
  intro hobstacle
  cases hobstacle with
  | unsupported hstrict => cases hmode.symm.trans hstrict
  | tooLong _ _ _ hmax =>
    rw [Options.profile, hplatform] at hmax
    cases hmax

theorem exists_compile_of_not_obstacle [Libraries] (h : resolve p o = .ok r) (hnone : ∀ e, ¬p.Obstacle o r e) :
    ∃ t, compile p o = .ok t := by
  cases hcompile : compile p o with
  | ok t => exact ⟨t, rfl⟩
  | error e => exact (hnone e (obstacle_of_compile h hcompile)).elim

theorem exists_compile_of_googleSheets [Libraries] (h : resolve p o = .ok r) (hplatform : o.platform = .googleSheets)
    (hmode : o.mode = .bestEffort) : ∃ t, compile p o = .ok t :=
  exists_compile_of_not_obstacle h fun _ => not_obstacle_of_googleSheets hplatform hmode

theorem error_of_compile [Libraries] (h : resolve p o = .ok r) {e : Error} (herror : compile p o = .error e) :
    ∃ t ∈ p.tables, ∃ f ∈ t.fields, (o.mode = .strict ∧ ∃ kind ∈ f.unsupported o.profile,
      e = .unsupportedConstraint t.name f.name kind f.type o.platform) ∨
    ∃ formula max, o.profile.maxFormula = some max ∧ max < Formula.length formula ∧
      e = .conflictingConstraint t.name f.name
        ("combined validation formula is " ++ formula.length.repr ++ " characters (max: " ++ max.repr ++ ")") := by
  cases obstacle_of_compile h herror with
  | @unsupported t f kind hmode ht hf hdeclared hunsupported =>
    exact ⟨t, ht, f, hf, .inl ⟨hmode, kind, Field.mem_unsupported.2 ⟨hdeclared, hunsupported⟩, rfl⟩⟩
  | @tooLong t f _ _ _ formula max hplace _ _ hmax hlong =>
    obtain ⟨ht, hf⟩ := hplace.mem h
    exact ⟨t, ht, f, hf, .inr ⟨formula, max, hmax, hlong, rfl⟩⟩

/-- After resolution only obstacles are left. Whatever a table refers to is published when it is compiled, so no
reference is found to be unknown; a package compiles if no obstacle is in its way, and it fails for an obstacle. -/
theorem compile_after_resolve [Libraries] (h : resolve p o = .ok r) :
    (∀ before t rs after sheets registry, r.sequence p = before ++ (t, rs) :: after →
      (compileSheets o r.enumSheet .empty before).result = .ok (sheets, registry) →
        ∀ res ∈ rs, ∀ link ∈ res.links, ∃ l, (registry.publish (o.home t)).get? link.table link.field = some l) ∧
    (∀ table reference, compile p o ≠ .error (.unknownReference table reference)) ∧
    (∀ e, compile p o = .error e → p.Obstacle o r e) ∧
    ((∃ t, compile p o = .ok t) ↔ ∀ e, ¬p.Obstacle o r e) ∧
    (o.platform = .googleSheets → o.mode = .bestEffort → ∃ t, compile p o = .ok t) := by
  refine ⟨fun before t rs after sheets registry hsequence hbefore res hres link hlink => ?_, fun table reference herror => ?_,
    fun e => obstacle_of_compile h, ⟨fun ⟨t, ht⟩ e => not_obstacle_of_compile h ht, exists_compile_of_not_obstacle h⟩,
    exists_compile_of_googleSheets h⟩
  · have hlength : ∀ x ∈ before, x.1.fields.length = x.2.length := fun _ hx =>
      length_of_mem_sequence h (hsequence ▸ List.mem_append_left _ hx)
    have hcompiled := compileSheets_eq_ok hlength hbefore
    rw [hcompiled.registry_eq, hcompiled.layouts_eq]
    have hpublished := published_of_resolve h hsequence hres hlink
    rwa [List.map_append, Registry.publishAll_append] at hpublished
  · cases obstacle_of_compile h herror

/-! ### A shop -/

def customers : Table where
  name := "customers"
  fields := [{ name := "name", type := .string, constraints := { unique := true } }, { name := "sentBy", type := .string }]
  foreignKeys := [{ fields := ["sentBy"], reference := { fields := ["name"] } }]

def orders : Table where
  name := "orders"
  fields := [
    { name := "customer", type := .string, constraints := { required := true } },
    { name := "note", type := .string, constraints := { maxLength := some 80 } }]
  foreignKeys := [{ fields := ["customer"], reference := { table := some "customers", fields := ["name"] } }]

def shop : Package where
  tables := [customers, orders]

attribute [local instance] Libraries.plain in
theorem resolve_shop : resolve shop online = .ok ⟨[0, 1],
    [[⟨[], none⟩, ⟨[⟨"customers", "name"⟩], none⟩], [⟨[⟨"customers", "name"⟩], none⟩, ⟨[], none⟩]], none, []⟩ := by
  have hrows : online.checkRows = .ok () := rfl
  have hnamed : WellNamed online [] [Text.lowercase online.enumSheet] shop.tables := by
    constructor <;> decide +kernel
  have htables : checkTables online shop = .ok () := checkTables_eq_ok.2 ⟨by decide +kernel, hnamed⟩
  have hkeys : shop.tables.mapM (resolveTable shop) = .ok [[⟨0, [("sentBy", ⟨"customers", "name"⟩)]⟩],
      [⟨0, [("customer", ⟨"customers", "name"⟩)]⟩]] := rfl
  rw [resolve, hrows, htables, hkeys]
  rfl

attribute [local instance] Libraries.plain in
/-- The shop compiles, and customers are published for their orders. -/
theorem exists_compile_shop : (∃ t, compile shop online = .ok t) ∧ ∃ l,
    ((Registry.empty.publish (online.home customers)).publish (online.home orders)).get? "customers" "name" = some l := by
  obtain ⟨hpublished, _, _, _, hsucceeds⟩ := compile_after_resolve resolve_shop
  refine ⟨hsucceeds rfl rfl, ?_⟩
  have hbefore : (compileSheets online none .empty
      [(customers, [⟨[], none⟩, ⟨[⟨"customers", "name"⟩], none⟩])]).result.toOption.map Prod.snd =
        some (Registry.empty.publish (online.home customers)) := rfl
  obtain ⟨⟨sheets, registry⟩, hresult, rfl⟩ := Option.map_eq_some_iff.1 hbefore
  exact hpublished _ _ _ [] sheets _ rfl (toOption_eq_some.1 hresult) _ List.mem_cons_self _ List.mem_cons_self

end SheetTemplate
