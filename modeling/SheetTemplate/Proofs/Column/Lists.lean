import SheetTemplate.Proofs.Column.Reported

/-!
# The lists of a column

Of the checks of a column the lists are those that depend on what lies outside of its field: on the sheet of
lists and on the columns published so far. What they point to is told here for every field that compiles.
-/

namespace SheetTemplate

namespace Column

def sources (c : Column) (origin : ListOrigin) : List ListSource := c.checks.filterMap (·.directive.source? origin)

/-- The references of a column, each with the list made of it, in the order of the checks. -/
def references (c : Column) : List (Link × ListSource) := c.checks.filterMap (·.directive.reference?)

end Column

theorem RuleKind.States.origin {source : ListSource} {d : Directive} (h : (RuleKind.list source).States d) :
    ∃ origin, d = .list origin source := by
  cases h with
  | list origin => exact ⟨origin, rfl⟩

theorem Column.exists_check_of_mem_sources {c : Column} {origin : ListOrigin} {source : ListSource}
    (h : source ∈ c.sources origin) : ∃ check ∈ c.checks, check.directive = .list origin source := by
  obtain ⟨check, hcheck, hsource⟩ := List.mem_filterMap.1 h
  refine ⟨check, hcheck, ?_⟩
  cases hd : check.directive with
  | list other found =>
    rw [hd] at hsource
    obtain ⟨rfl, heq⟩ := Option.ite_none_right_eq_some.1 hsource
    rw [Option.some.inj heq]
  | _ =>
    rw [hd] at hsource
    cases hsource

namespace Part

/-- No list, or that of TRUE and FALSE, which the rule holds itself. -/
private structure Local (d : Directive) : Prop where
  reference : d.reference? = none
  enum : d.source? .enum = none
  range : ∀ origin lookup, d ≠ .list origin (.range lookup)
  literal : ∀ origin values, d = .list origin (.literal values) → values = [.boolean true, .boolean false]

private theorem local_of_not_list {d : Directive} (h : d.isList = false) : Local d := by
  cases d with
  | list => cases h
  | _ => exact ⟨rfl, rfl, fun _ _ => Directive.noConfusion, fun _ _ => Directive.noConfusion⟩

variable {o : Options} {p : Profile} {ctx : CellContext} {sheet : String} {f : Field}

private def own (p : Profile) (ctx : CellContext) (f : Field) : List Part :=
  [booleanList? p ctx f, required? p ctx f, unique? p ctx f, range? p ctx f, length? p ctx f, pattern? p ctx f].filterMap id

private theorem ofConstraints_eq (lookup : Option Lookup) :
    ofConstraints p ctx sheet lookup f = own p ctx f ++ (enum? p ctx sheet lookup f).toList := by
  have hlast : (enum? p ctx sheet lookup f).toList = [enum? p ctx sheet lookup f].filterMap id := by
    cases enum? p ctx sheet lookup f <;> rfl
  rw [hlast, own, ← List.filterMap_append]
  rfl

private theorem local_of_mem_own {part : Part} (h : part ∈ own p ctx f) : Local part.directive := by
  obtain ⟨part?, hmem, hpart⟩ := List.mem_filterMap.1 h
  change part? = some part at hpart
  subst hpart
  simp only [List.mem_cons, List.not_mem_nil, or_false] at hmem
  rcases hmem with h | h | h | h | h | h
  · obtain ⟨_, heq⟩ := Option.ite_none_right_eq_some.1 h.symm
    cases heq
    exact ⟨rfl, rfl, fun _ _ h => (by cases h), fun _ _ h => by cases h; rfl⟩
  · obtain ⟨_, heq⟩ := Option.ite_none_right_eq_some.1 h.symm
    cases heq
    exact local_of_not_list rfl
  · obtain ⟨_, heq⟩ := Option.ite_none_right_eq_some.1 h.symm
    cases heq
    exact local_of_not_list rfl
  · obtain ⟨_, _, rfl⟩ := Option.map_eq_some_iff.1 h.symm
    exact local_of_not_list rfl
  · obtain ⟨_, _, rfl⟩ := Option.map_eq_some_iff.1 h.symm
    exact local_of_not_list rfl
  · obtain ⟨_, _, rfl⟩ := Option.map_eq_some_iff.1 h.symm
    exact local_of_not_list rfl

theorem sources_ofConstraints (lookup : Option Lookup) :
    (ofConstraints p ctx sheet lookup f).filterMap (·.directive.source? .enum) =
      (f.constraints.enum.map fun values => lookup.elim (.literal values) .range).toList := by
  have hown : (own p ctx f).filterMap (·.directive.source? .enum) = [] :=
    List.filterMap_eq_nil_iff.2 fun _ hpart => (local_of_mem_own hpart).enum
  rw [ofConstraints_eq, List.filterMap_append, hown, List.nil_append, enum?]
  cases f.constraints.enum with
  | none => rfl
  | some values => cases lookup <;> rfl

theorem references_ofConstraints (lookup : Option Lookup) :
    (ofConstraints p ctx sheet lookup f).filterMap (·.directive.reference?) = [] := by
  have hown : (own p ctx f).filterMap (·.directive.reference?) = [] :=
    List.filterMap_eq_nil_iff.2 fun _ hpart => (local_of_mem_own hpart).reference
  rw [ofConstraints_eq, List.filterMap_append, hown, List.nil_append, enum?]
  cases f.constraints.enum <;> rfl

/-- A field's own constraints look at no cells but those of its declared list. -/
theorem lookup_of_mem_ofConstraints {lookup : Option Lookup} {part : Part}
    (h : part ∈ ofConstraints p ctx sheet lookup f) {origin : ListOrigin} {place : Lookup}
    (hpart : part.directive = .list origin (.range place)) : lookup = some place := by
  rw [ofConstraints_eq, List.mem_append, Option.mem_toList] at h
  rcases h with hown | henum
  · exact absurd hpart ((local_of_mem_own hown).range origin place)
  · obtain ⟨values, _, rfl⟩ := Option.map_eq_some_iff.1 henum
    cases lookup with
    | none => cases hpart
    | some lookup =>
      cases hpart
      rfl

theorem literal_of_mem_ofConstraints {lookup : Option Lookup} {part : Part}
    (h : part ∈ ofConstraints p ctx sheet lookup f) {origin : ListOrigin} {values : List Value}
    (hpart : part.directive = .list origin (.literal values)) :
    values = [.boolean true, .boolean false] ∨ f.constraints.enum = some values := by
  rw [ofConstraints_eq, List.mem_append, Option.mem_toList] at h
  rcases h with hown | henum
  · exact .inl ((local_of_mem_own hown).literal origin values hpart)
  · obtain ⟨declared, hdeclared, rfl⟩ := Option.map_eq_some_iff.1 henum
    cases lookup with
    | none =>
      cases hpart
      exact .inr hdeclared
    | some lookup => cases hpart

end Part

namespace Composition

variable {o : Options} {ctx : CellContext} {f : Field} {l : ColumnLayout} {parts : List Part}

theorem filterMap_checks {β : Type} (g : Directive → Option β) :
    (column o ctx f l parts).checks.filterMap (fun check => g check.directive) =
      parts.filterMap fun part => g part.directive := by
  calc (column o ctx f l parts).checks.filterMap (fun check => g check.directive)
    _ = ((column o ctx f l parts).checks.map (·.directive)).filterMap g := List.filterMap_map.symm
    _ = (parts.map (·.directive)).filterMap g := by rw [directives_column]
    _ = parts.filterMap fun part => g part.directive := List.filterMap_map

theorem filterMap_withTypeTest {β : Type} {g : Directive → Option β} (hg : ∀ type, g (.type type) = none)
    (parts : List Part) : (withTypeTest o ctx f parts).filterMap (fun part => g part.directive) =
      parts.filterMap fun part => g part.directive := by
  unfold withTypeTest
  split
  · rfl
  · rw [List.filterMap_append]
    cases htest : Part.typeTest? ctx f with
    | none => rfl
    | some test =>
      obtain ⟨_, hmap⟩ := Option.ite_none_right_eq_some.1 htest
      obtain ⟨_, _, rfl⟩ := Option.map_eq_some_iff.1 hmap
      simp only [Option.toList_some, List.filterMap_cons, hg, List.filterMap_nil, List.nil_append]

theorem mem_withTypeTest {part : Part} (h : part ∈ withTypeTest o ctx f parts) :
    (∃ type, part.directive = .type type) ∨ part ∈ parts := by
  refine (Part.typeTest_or_mem_of_mem_withTypeTest h).imp_left fun htest => ?_
  obtain ⟨_, hmap⟩ := Option.ite_none_right_eq_some.1 htest
  obtain ⟨_, _, rfl⟩ := Option.map_eq_some_iff.1 hmap
  exact ⟨f.type, rfl⟩

theorem check_of_list_rule (hparts : ∀ part ∈ parts, ∀ rule, part.native = some rule → rule.kind.States part.directive)
    {rule : Rule} (hrule : (column o ctx f l parts).rule = some rule) {source : ListSource} (hkind : rule.kind = .list source) :
    ∃ check ∈ (column o ctx f l parts).checks, ∃ origin, check.directive = .list origin source := by
  rcases rule_cases hparts hrule with ⟨g, hcustom, _⟩ | ⟨check, hcheck, hstates⟩
  · cases hcustom.symm.trans hkind
  · rw [hkind] at hstates
    exact ⟨check, hcheck, hstates.origin⟩

end Composition

/-! ### Fields that compile -/

theorem Field.enum_supported (o : Options) (f : Field) :
    (f.supported o.profile).constraints.enum = f.constraints.enum := by
  have hsupported : (o.profile.realize f.type .enum).isSupported = true := by
    rw [Options.profile]
    cases o.platform <;> cases f.type <;> rfl
  exact if_pos hsupported

theorem Field.required_supported (o : Options) (f : Field) :
    (f.supported o.profile).constraints.required = f.constraints.required := by
  have hsupported : (o.profile.realize f.type .required).isSupported = true := by
    rw [Options.profile]
    cases o.platform <;> cases f.type <;> rfl
  exact (Bool.and_eq_left_iff_imp ..).2 fun _ => hsupported

/-- A column as it is compiled at a place, where its lists can be found in a registry and on the sheet of
lists. -/
structure Column.CompiledFrom (o : Options) (registry : Registry) (place : Option Lookup) (l : TableLayout) (f : Field)
    (c : ColumnLayout) (links : List Link) (column : Column) : Prop where
  field_eq : column.field = f.name
  range_eq : column.range = c.data
  composed : ∃ f' parts, column = Composition.column o (l.contextOf c) f' c parts ∧
    ∀ part ∈ parts, part.Faithful o l.sheet (l.contextOf c)
  declared : column.sources .enum = (f.constraints.enum.map fun values => place.elim (.literal values) .range).toList
  referenced : List.Forall₂ (fun link reference => ∃ lookup, registry.get? link.table link.field = some lookup ∧
    reference = (link, .range lookup)) links column.references
  lookups : ∀ check ∈ column.checks, ∀ origin lookup, check.directive = .list origin (.range lookup) →
    place = some lookup ∨ ∃ link ∈ links, registry.get? link.table link.field = some lookup
  literals : ∀ check ∈ column.checks, ∀ origin values, check.directive = .list origin (.literal values) →
    values = [.boolean true, .boolean false] ∨ f.constraints.enum = some values

theorem ofLink?_eq_ok {o : Options} {registry : Registry} {ctx : CellContext} {t : Table} {sheet : String} {f : Field}
    {link : Link} {part : Part} (h : Part.ofLink? o registry ctx t sheet f link = .ok part) :
    ∃ lookup, registry.get? link.table link.field = some lookup ∧ part = .ofLink o ctx sheet f link lookup := by
  unfold Part.ofLink? at h
  split at h
  · rename_i lookup hlookup
    cases h
    exact ⟨lookup, hlookup, rfl⟩
  · cases h

private theorem references_linked {o : Options} {registry : Registry} {ctx : CellContext} {t : Table} {sheet : String}
    {f : Field} {links : List Link} {linked : List Part}
    (h : List.Forall₂ (fun link part => Part.ofLink? o registry ctx t sheet f link = .ok part) links linked) :
    List.Forall₂ (fun link reference => ∃ lookup, registry.get? link.table link.field = some lookup ∧
      reference = (link, .range lookup)) links (linked.filterMap (·.directive.reference?)) := by
  induction h with
  | nil => exact .nil
  | cons hpart _ ih =>
    obtain ⟨lookup, hget, rfl⟩ := ofLink?_eq_ok hpart
    exact .cons ⟨lookup, hget, rfl⟩ ih

theorem screenField_eq_ok {o : Options} {t : Table} {f g : Field} (h : (screenField o t f).result = .ok g) :
    g = f.supported o.profile := by
  unfold screenField at h
  simp only at h
  split at h
  · cases h
  · cases h
    rfl

theorem compileField_eq_ok {o : Options} {registry : Registry} {enumSheet : Option EnumSheet} {t : Table}
    {l : TableLayout} {f : Field} {c : ColumnLayout} {r : FieldResolution} {column : Column}
    (h : (compileField o registry enumSheet t l f c r).result = .ok column) :
    column.CompiledFrom o registry (r.enumColumn.bind fun i => enumSheet.bind (·.lookup? i)) l f c r.links := by
  rw [compileField_eq] at h
  obtain ⟨f', hscreen, h⟩ := Outcome.bind_eq_ok.1 h
  rw [screenField_eq_ok hscreen] at h
  change compileSupported o registry enumSheet t l (f.supported o.profile) c r = .ok column at h
  simp only [compileSupported, bind_eq_ok, pure_eq_ok, mapM_eq_ok] at h
  obtain ⟨linked, hlinked, _, _, rfl⟩ := h
  have hlink : ∀ part ∈ linked, ∃ link ∈ r.links, ∃ lookup, registry.get? link.table link.field = some lookup ∧
      part = .ofLink o (l.contextOf c) l.sheet (f.supported o.profile) link lookup := by
    intro part hpart
    obtain ⟨link, hlink, hof⟩ := exists_of_forall₂_right hlinked hpart
    exact ⟨link, hlink, ofLink?_eq_ok hof⟩
  refine ⟨rfl, rfl, ⟨_, _, rfl, fun part hpart => ?_⟩, ?_, ?_, ?_, ?_⟩
  · refine Part.faithful_of_mem_withTypeTest (fun part hpart => ?_) hpart
    rcases List.mem_append.1 hpart with hown | hlinked
    · exact Part.faithful_of_mem_ofConstraints hown
    · obtain ⟨link, _, lookup, _, rfl⟩ := hlink part hlinked
      exact Part.faithful_ofLink link lookup
  · have hnone : linked.filterMap (·.directive.source? .enum) = [] := by
      refine List.filterMap_eq_nil_iff.2 fun part hpart => ?_
      obtain ⟨_, _, _, _, rfl⟩ := hlink part hpart
      rfl
    rw [Column.sources, Composition.filterMap_checks, Composition.filterMap_withTypeTest fun _ => rfl,
      List.filterMap_append, Part.sources_ofConstraints, hnone, List.append_nil, Field.enum_supported]
  · rw [Column.references, Composition.filterMap_checks, Composition.filterMap_withTypeTest fun _ => rfl,
      List.filterMap_append, Part.references_ofConstraints, List.nil_append]
    exact references_linked hlinked
  · refine (Composition.forall_check_iff fun d => ∀ origin lookup, d = .list origin (.range lookup) →
      (r.enumColumn.bind fun i => enumSheet.bind (·.lookup? i)) = some lookup ∨
        ∃ link ∈ r.links, registry.get? link.table link.field = some lookup).2 ?_
    intro part hpart origin lookup hrange
    rcases Composition.mem_withTypeTest hpart with ⟨type, htype⟩ | hpart
    · rw [htype] at hrange
      cases hrange
    · rcases List.mem_append.1 hpart with hown | hlinked
      · exact .inl (Part.lookup_of_mem_ofConstraints hown hrange)
      · obtain ⟨link, hmem, other, hget, rfl⟩ := hlink part hlinked
        cases hrange
        exact .inr ⟨link, hmem, hget⟩
  · refine (Composition.forall_check_iff fun d => ∀ origin values, d = .list origin (.literal values) →
      values = [.boolean true, .boolean false] ∨ f.constraints.enum = some values).2 ?_
    intro part hpart origin values hliteral
    rcases Composition.mem_withTypeTest hpart with ⟨type, htype⟩ | hpart
    · rw [htype] at hliteral
      cases hliteral
    · rcases List.mem_append.1 hpart with hown | hlinked
      · rw [← Field.enum_supported o f]
        exact Part.literal_of_mem_ofConstraints hown hliteral
      · obtain ⟨_, _, _, _, rfl⟩ := hlink part hlinked
        cases hliteral

end SheetTemplate
