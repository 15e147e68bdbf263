import SheetTemplate.Proofs.Compile.Obstacles
import SheetTemplate.Proofs.Compile.Templates

/-!
# Composed columns

What a template says of a column is composed of what is declared of its field. Read backwards, every check of a column
is one that a constraint of the field calls for, or a reference of its table, or the type, and every rule is the list or
range of a check or a formula of all of them. Whatever is to be shown of all that a template holds is shown by these
cases.
-/

namespace SheetTemplate

/-! ### Checks -/

/-- The checks that a field calls for, where its list and the columns it refers to have their places. -/
inductive Field.CallsFor (f : Field) (registry : Registry) (place : Option Lookup) (links : List Link) : Directive → Prop
  | type (type : FieldType) : CallsFor f registry place links (.type type)
  | boolean (htype : f.type = .boolean) (henum : f.constraints.enum = none) :
    CallsFor f registry place links (.list .boolean (.literal [.boolean true, .boolean false]))
  | required (h : f.constraints.required = true) : CallsFor f registry place links .required
  | unique (caseSensitive : Bool) (h : f.constraints.unique = true) :
    CallsFor f registry place links (.unique caseSensitive)
  | range (h : ¬(f.constraints.minimum = none ∧ f.constraints.maximum = none)) :
    CallsFor f registry place links (.range f.constraints.minimum f.constraints.maximum (f.type = .integer))
  | length (h : ¬(f.constraints.minLength = none ∧ f.constraints.maxLength = none)) :
    CallsFor f registry place links (.length f.constraints.minLength f.constraints.maxLength)
  | pattern {regex : String} (h : f.constraints.pattern = some regex) : CallsFor f registry place links (.pattern regex)
  | enum {values : List Value} {source : ListSource} (h : f.constraints.enum = some values)
    (hsource : source = place.elim (.literal values) .range) : CallsFor f registry place links (.list .enum source)
  | reference {link : Link} {l : Lookup} (hlink : link ∈ links) (hl : registry.get? link.table link.field = some l) :
    CallsFor f registry place links (.list (.foreignKey link) (.range l))

namespace Field.CallsFor

variable {f : Field} {registry : Registry} {place : Option Lookup} {links : List Link} {origin : ListOrigin}

theorem of_literal {values : List Value} (h : f.CallsFor registry place links (.list origin (.literal values))) :
    values = [.boolean true, .boolean false] ∨ f.constraints.enum = some values ∧ place = none := by
  cases h with
  | boolean => exact .inl rfl
  | enum hdeclared hsource =>
    cases place with
    | none =>
      cases hsource
      exact .inr ⟨hdeclared, rfl⟩
    | some l => cases hsource

theorem of_range {l : Lookup} (h : f.CallsFor registry place links (.list origin (.range l))) :
    place = some l ∨ ∃ link ∈ links, registry.get? link.table link.field = some l := by
  cases h with
  | enum _ hsource =>
    cases place with
    | none => cases hsource
    | some other =>
      cases hsource
      exact .inl rfl
  | reference hlink hl => exact .inr ⟨_, hlink, hl⟩

end Field.CallsFor

section Parts

variable {p : Profile} {ctx : CellContext} {sheet : String} {f : Field} {registry : Registry} {place : Option Lookup}
  {links : List Link} {part : Part}

namespace Part

private theorem fst_realized {α : Type} (value : Option α) (realization : Realization) :
    (value.map (·, realization)).map Prod.fst = value := by
  cases value <;> rfl

private theorem directive_of_range? (h : range? p ctx f = some part) :
    part.directive = .range f.constraints.minimum f.constraints.maximum (f.type = .integer) ∧
      ¬(f.constraints.minimum = none ∧ f.constraints.maximum = none) := by
  obtain ⟨bound, hbound, rfl⟩ := Option.map_eq_some_iff.1 h
  refine ⟨by rw [fst_realized, fst_realized], ?_⟩
  rintro ⟨hlow, hhigh⟩
  rw [hlow, hhigh] at hbound
  cases hbound

private theorem directive_of_length? (h : length? p ctx f = some part) :
    part.directive = .length f.constraints.minLength f.constraints.maxLength ∧
      ¬(f.constraints.minLength = none ∧ f.constraints.maxLength = none) := by
  obtain ⟨bound, hbound, rfl⟩ := Option.map_eq_some_iff.1 h
  refine ⟨by rw [fst_realized, fst_realized], ?_⟩
  rintro ⟨hlow, hhigh⟩
  rw [hlow, hhigh] at hbound
  cases hbound

theorem callsFor_of_mem_ofConstraints (h : part ∈ ofConstraints p ctx sheet place f) :
    f.CallsFor registry place links part.directive := by
  obtain ⟨part?, hmem, hpart⟩ := List.mem_filterMap.1 h
  change part? = some part at hpart
  subst hpart
  simp only [List.mem_cons, List.not_mem_nil, or_false] at hmem
  rcases hmem with h | h | h | h | h | h | h
  · obtain ⟨hboolean, heq⟩ := Option.ite_none_right_eq_some.1 h.symm
    cases heq
    obtain ⟨htype, henum⟩ : f.type = .boolean ∧ f.constraints.enum = none := by simpa using hboolean
    exact .boolean htype henum
  · obtain ⟨hrequired, heq⟩ := Option.ite_none_right_eq_some.1 h.symm
    cases heq
    exact .required hrequired
  · obtain ⟨hunique, heq⟩ := Option.ite_none_right_eq_some.1 h.symm
    cases heq
    exact .unique _ hunique
  · obtain ⟨hdirective, hdeclared⟩ := directive_of_range? h.symm
    rw [hdirective]
    exact .range hdeclared
  · obtain ⟨hdirective, hdeclared⟩ := directive_of_length? h.symm
    rw [hdirective]
    exact .length hdeclared
  · obtain ⟨regex, hregex, rfl⟩ := Option.map_eq_some_iff.1 h.symm
    exact .pattern hregex
  · obtain ⟨values, hvalues, rfl⟩ := Option.map_eq_some_iff.1 h.symm
    cases place with
    | none => exact .enum hvalues rfl
    | some l => exact .enum hvalues rfl

end Part

end Parts

variable {p : Package} {o : Options} {registry : Registry} {lists : Option EnumSheet} {l : TableLayout} {f : Field}
  {place : ColumnLayout} {res : FieldResolution}

def composedParts (o : Options) (registry : Registry) (lists : Option EnumSheet) (l : TableLayout) (f : Field)
    (c : ColumnLayout) (r : FieldResolution) : List Part :=
  let ctx := l.contextOf c
  Composition.withTypeTest o ctx f (Part.ofConstraints o.profile ctx l.sheet (r.place? lists) f ++
    r.links.filterMap fun link => (registry.get? link.table link.field).map (Part.ofLink o ctx l.sheet f link))

theorem composedColumn_eq : composedColumn o registry lists l f place res =
    Composition.column o (l.contextOf place) f place (composedParts o registry lists l f place res) := rfl

private theorem mem_composedParts {part : Part} (h : part ∈ composedParts o registry lists l f place res) :
    (∃ type, part.directive = .type type) ∨
      part ∈ Part.ofConstraints o.profile (l.contextOf place) l.sheet (res.place? lists) f ∨
      ∃ link ∈ res.links, ∃ found, registry.get? link.table link.field = some found ∧
        part = .ofLink o (l.contextOf place) l.sheet f link found := by
  refine (Composition.mem_withTypeTest h).imp_right fun hmem => (List.mem_append.1 hmem).imp_right fun hlinked => ?_
  obtain ⟨link, hlink, hpart⟩ := List.mem_filterMap.1 hlinked
  obtain ⟨found, hfound, rfl⟩ := Option.map_eq_some_iff.1 hpart
  exact ⟨link, hlink, found, hfound, rfl⟩

theorem faithful_composedParts : ∀ part ∈ composedParts o registry lists l f place res,
    part.Faithful o l.sheet (l.contextOf place) := by
  intro part hpart
  refine Part.faithful_of_mem_withTypeTest (fun part hpart => ?_) hpart
  rcases List.mem_append.1 hpart with hown | hlinked
  · exact Part.faithful_of_mem_ofConstraints hown
  · obtain ⟨link, _, hpart⟩ := List.mem_filterMap.1 hlinked
    obtain ⟨found, _, rfl⟩ := Option.map_eq_some_iff.1 hpart
    exact Part.faithful_ofLink link found

theorem callsFor_of_mem_composedParts {part : Part} (h : part ∈ composedParts o registry lists l f place res) :
    f.CallsFor registry (res.place? lists) res.links part.directive := by
  rcases mem_composedParts h with ⟨type, htype⟩ | hown | ⟨link, hlink, found, hfound, rfl⟩
  · rw [htype]
    exact .type type
  · exact Part.callsFor_of_mem_ofConstraints hown
  · exact .reference hlink hfound

/-- A composed column checks nothing that its field does not call for. -/
theorem callsFor_of_mem_checks : ∀ check ∈ (composedColumn o registry lists l f place res).checks,
    f.CallsFor registry (res.place? lists) res.links check.directive := by
  rw [composedColumn_eq]
  exact (Composition.forall_check_iff _).2 fun _ => callsFor_of_mem_composedParts

/-! ### Templates -/

variable {r : Resolution} {t : Template} {table : Table} {c : Column}

/-- A field that compiles has all columns it refers to published, and the column composed for it. -/
theorem composedColumn_of_compileField (h : (compileField o registry lists table l f place res).result = .ok c) :
    (∀ link ∈ res.links, ∃ found, registry.get? link.table link.field = some found) ∧
      c = composedColumn o registry lists l (f.supported o.profile) place res := by
  rw [compileField_eq] at h
  obtain ⟨f', hscreen, hsupported⟩ := Outcome.bind_eq_ok.1 h
  rw [screenField_eq_ok hscreen] at hsupported
  have hfound : ∀ link ∈ res.links, ∃ found, registry.get? link.table link.field = some found := by
    obtain ⟨linked, hlinked, _⟩ := bind_eq_ok.1 hsupported
    intro link hlink
    obtain ⟨part, _, hpart⟩ := exists_of_forall₂_left (mapM_eq_ok.1 hlinked) hlink
    cases hget : registry.get? link.table link.field with
    | some found => exact ⟨found, rfl⟩
    | none => simp [Part.ofLink?, hget] at hpart
  refine ⟨hfound, ?_⟩
  rw [compileSupported_eq hfound] at hsupported
  obtain ⟨_, _, hcolumn⟩ := bind_eq_ok.1 hsupported
  exact (pure_eq_ok.1 hcolumn).symm

/-- A column of a template that is composed for a field at its place. -/
structure Package.Composes [Libraries] (p : Package) (o : Options) (r : Resolution) (table : Table) (f : Field) (place : ColumnLayout)
    (res : FieldResolution) (c : Column) : Prop where
  places : p.Places o r table f place res
  column_eq : c = composedColumn o (p.registry o) r.enumSheet (o.home table) (f.supported o.profile) place res

theorem exists_composes [Libraries] (h : resolve p o = .ok r) (hcompile : compile p o = .ok t) {s : Sheet} (hs : s ∈ t.sheets)
    (hc : c ∈ s.columns) :
    ∃ table f place res, s.table = table.name ∧ s.layout = o.home table ∧ p.Composes o r table f place res c := by
  have hsteps := (steps_of_compile h hcompile).1
  obtain ⟨⟨table, rs⟩, hsequence, hsheet⟩ := exists_of_forall₂_right (Outcome.mapM_eq_ok.1 hsteps) hs
  obtain ⟨htable, hlayout⟩ := table_of_compileSheet hsheet
  obtain ⟨columns, hcolumns, heq⟩ := Outcome.bind_eq_ok.1 hsheet
  cases Outcome.pure_eq_ok.1 heq
  rw [compileTable_eq (length_of_mem_sequence h hsequence)] at hcolumns
  obtain ⟨⟨f, place, res⟩, hrow, hfield⟩ := exists_of_forall₂_right (Outcome.mapM_eq_ok.1 hcolumns) hc
  have hplaces : p.Places o r table f place res := ⟨rs, hsequence, hrow⟩
  exact ⟨table, f, place, res, htable, hlayout, hplaces, (composedColumn_of_compileField hfield).2⟩

namespace Package.Composes

theorem callsFor [Libraries] (hc : p.Composes o r table f place res c) : ∀ check ∈ c.checks,
    (f.supported o.profile).CallsFor (p.registry o) (res.place? r.enumSheet) res.links check.directive := by
  rw [hc.column_eq]
  exact callsFor_of_mem_checks

theorem rule_cases [Libraries] (hc : p.Composes o r table f place res c) {rule : Rule} (hrule : c.rule = some rule) :
    (∃ formula, rule.kind = .custom formula) ∨ ∃ check ∈ c.checks, rule.kind.States check.directive := by
  rw [hc.column_eq, composedColumn_eq] at hrule ⊢
  refine (Composition.rule_cases (fun part hpart => (faithful_composedParts part hpart).states) hrule).imp_left ?_
  rintro ⟨formula, hkind, _⟩
  exact ⟨formula, hkind⟩

theorem length_le [Libraries] (h : resolve p o = .ok r) (hcompile : compile p o = .ok t) (hc : p.Composes o r table f place res c)
    {rule : Rule} (hrule : c.rule = some rule) {formula : Formula} (hkind : rule.kind = .custom formula) {max : Nat}
    (hmax : o.profile.maxFormula = some max) : formula.length ≤ max := by
  rw [hc.column_eq] at hrule
  exact Nat.le_of_not_lt fun hlong => not_obstacle_of_compile h hcompile (.tooLong hc.places hrule hkind hmax hlong)

end Package.Composes

theorem Package.Places.resolution_for [Libraries] {entries : List EnumPool.Entry} (hresolved : Resolved p o entries r)
    (hplaces : p.Places o r table f place res) : FieldResolution.For o entries table f res := by
  obtain ⟨rs, hsequence, hrow⟩ := hplaces
  obtain ⟨i, hi⟩ := List.getElem?_of_mem hrow
  obtain ⟨hf, hrest⟩ := List.getElem?_zip_eq_some.1 hi
  obtain ⟨_, hres⟩ := List.getElem?_zip_eq_some.1 hrest
  obtain ⟨other, hother, hfor⟩ := getElem?_of_forall₂ (hresolved.of_mem_sequence hsequence).2 hf
  obtain rfl : res = other := Option.some.inj (hres.symm.trans hother)
  exact hfor

end SheetTemplate
