import SheetTemplate.Proofs.Column.Directives
import SheetTemplate.Proofs.Compile.Decision
import SheetTemplate.Proofs.Emission.Lists

/-!
# What is checked of the fields of a package

The checks of a column can be told from the package: they are what its field demands and a list for each column that it
refers to, with a test of the type in front where it is numeric and nothing else pins it down.
-/

namespace SheetTemplate

variable {p : Package} {o : Options} {registry : Registry} {lists : Option EnumSheet} {l : TableLayout} {r : Resolution}
  {t : Template} {table : Table} {f : Field} {place : ColumnLayout} {res : FieldResolution}

/-- A list of the values in a column that is referred to. -/
def Registry.Refers (registry : Registry) (link : Link) (d : Directive) : Prop :=
  ∃ l, registry.get? link.table link.field = some l ∧ d = .list (.foreignKey link) (.range l)

theorem refers_of_exists_get? {links : List Link} {ctx : CellContext} {sheet : String}
    (hfound : ∀ link ∈ links, ∃ l, registry.get? link.table link.field = some l) :
    List.Forall₂ registry.Refers links ((links.filterMap fun link =>
      (registry.get? link.table link.field).map (Part.ofLink o ctx sheet f link)).map (·.directive)) := by
  induction links with
  | nil => exact .nil
  | cons link links ih =>
    obtain ⟨⟨l, hl⟩, hrest⟩ := List.forall_mem_cons.1 hfound
    rw [List.filterMap_cons, hl]
    exact .cons ⟨l, hl, rfl⟩ (ih hrest)

def gatheredParts (o : Options) (registry : Registry) (lists : Option EnumSheet) (l : TableLayout) (f : Field)
    (c : ColumnLayout) (r : FieldResolution) : List Part :=
  Part.ofConstraints o.profile (l.contextOf c) l.sheet (r.place? lists) f ++
    r.links.filterMap fun link => (registry.get? link.table link.field).map (Part.ofLink o (l.contextOf c) l.sheet f link)

theorem composedParts_eq : composedParts o registry lists l f place res =
    Composition.withTypeTest o (l.contextOf place) f (gatheredParts o registry lists l f place res) := rfl

theorem directives_gatheredParts (hfound : ∀ link ∈ res.links, ∃ l, registry.get? link.table link.field = some l) :
    ∃ references, List.Forall₂ registry.Refers res.links references ∧
      (gatheredParts o registry lists l (f.supported o.profile) place res).map (·.directive) =
        f.demands o.profile (res.place? lists) ++ references :=
  ⟨_, refers_of_exists_get? hfound, by rw [gatheredParts, List.map_append, directives_ofConstraints]⟩

/-- A composed column is checked for what its field demands and for its references, and for its type where nothing else
pins it down. -/
theorem directives_composedColumn (hfound : ∀ link ∈ res.links, ∃ l, registry.get? link.table link.field = some l)
    {c : Column} (hc : c = composedColumn o registry lists l (f.supported o.profile) place res) :
    ∃ references, List.Forall₂ registry.Refers res.links references ∧
      c.directives = (if f.type.isNumeric && !c.isPinned o then [.type f.type] else []) ++
        (f.demands o.profile (res.place? lists) ++ references) := by
  obtain ⟨references, hreferences, hgathered⟩ : ∃ references, List.Forall₂ registry.Refers res.links references ∧
      (gatheredParts o registry lists l (f.supported o.profile) place res).map (·.directive) =
        f.demands o.profile (res.place? lists) ++ references := directives_gatheredParts hfound
  refine ⟨references, hreferences, ?_⟩
  have hdecided : c.Decided o l.sheet (l.contextOf place) (f.constraints.enum.getD []) f.constraints.required :=
    hc ▸ decided_composedColumn
  have hdirectives : (Composition.withTypeTest o (l.contextOf place) (f.supported o.profile)
      (gatheredParts o registry lists l (f.supported o.profile) place res)).map (·.directive) = c.directives := by
    rw [hc, composedColumn_eq, ← composedParts_eq]
    exact Composition.directives_column.symm
  have hsubset : gatheredParts o registry lists l (f.supported o.profile) place res ⊆
      composedParts o registry lists l (f.supported o.profile) place res := Composition.subset_withTypeTest
  have htested : (f.type.isNumeric && !c.isPinned o) = true ↔ f.type.isNumeric = true ∧ ¬Directive.Pinned o c.directives := by
    rw [Bool.and_eq_true, Bool.not_eq_true', ← hdecided.isPinned_iff, Bool.not_eq_true]
  rcases Composition.directives_withTypeTest (fun part hpart => faithful_composedParts part (hsubset hpart))
    (fun part hpart => exact_composedParts part (hsubset hpart)) hdirectives with ⟨htest, heq⟩ | ⟨htest, heq⟩
  · rw [if_pos (htested.2 htest), heq, hgathered]
    rfl
  · rw [if_neg (mt htested.1 htest), heq, hgathered, List.nil_append]

/-! ### Templates -/

theorem exists_composes_of_mem [Libraries] (h : resolve p o = .ok r) (hcompile : compile p o = .ok t) (htable : table ∈ p.tables)
    (hf : f ∈ table.fields) :
    ∃ c place res, t.column? table.name f.name = some c ∧ p.Composes o r table f place res c := by
  obtain ⟨entries, _, htemplate⟩ := compile_eq_ok hcompile
  obtain ⟨s, hs, c, hc, hholds⟩ := htemplate.exists_holds htable hf
  obtain ⟨other, g, place, res, hname, _, hcomposes⟩ := exists_composes h hcompile hs hc
  obtain ⟨hother, hg⟩ := hcomposes.places.mem h
  have htables : other = table := eq_of_key_eq htemplate.resolved.named.names_nodup hother htable
    (hname.symm.trans (Template.table_of_sheet? hholds.sheet_eq))
  subst htables
  obtain ⟨_, _, _, _, _, _, hcompiled, _⟩ := hholds.compiled
  have hfield : c.field = g.name := by
    rw [hcomposes.column_eq]
    rfl
  have hfields : g = f := eq_of_key_eq (htemplate.resolved.named.fields_nodup other hother) hg hf
    (hfield.symm.trans hcompiled.field_eq)
  exact ⟨c, place, res, hholds.column?_eq, hfields ▸ hcomposes⟩

/-- The checks of each column are known, in order, from the package and its options: the type of a numeric field, unless an
enforced list or the rule keeps other types out, what the field demands, its list in the rule or on the sheet of lists, and
a list for each column it refers to. -/
theorem directives_of_compile [Libraries] (h : compile p o = .ok t) (htable : table ∈ p.tables) (hf : f ∈ table.fields) :
    ∃ c place references, t.column? table.name f.name = some c ∧
      c.directives = (if f.type.isNumeric && !c.isPinned o then [.type f.type] else []) ++
        (f.demands o.profile place ++ references) ∧
      (∀ values, f.constraints.enum = some values → (o.Inlines f.type values → place = none) ∧
        (¬o.Inlines f.type values → ∃ l, place = some l ∧ l.sheet = o.enumSheet)) ∧
      List.Forall₂ t.lookups.Refers (table.declaredLinks f.name).eraseDups references ∧
      (f.type.isNumeric = true → .type f.type ∈ c.directives ∨
        (∃ rule whole bounds, c.rule = some rule ∧ rule.kind = .number whole bounds) ∨
        ∃ d ∈ c.directives, d.isList = true ∧ d.isEnforced o = true) := by
  obtain ⟨r, hresolve⟩ := exists_resolve_of_compile h
  obtain ⟨c, place, res, hcolumn, hcomposes⟩ := exists_composes_of_mem hresolve h htable hf
  have hresolved := resolved_of_resolve hresolve
  have hfor := hcomposes.places.resolution_for hresolved
  have hlookups := (steps_of_compile hresolve h).2.2.1
  obtain ⟨references, hreferences, hdirectives⟩ := directives_composedColumn
    (fun link => hcomposes.places.exists_get? hresolve) hcomposes.column_eq
  refine ⟨c, res.place? r.enumSheet, references, hcolumn, hdirectives, fun values hvalues => ⟨fun hinlines => ?_,
    fun hpooled => ?_⟩, ?_, fun hnumeric => ?_⟩
  · exact hfor.place?_of_inlines hvalues hinlines _
  · obtain ⟨_, _, _, _, hplace⟩ := hfor.place?_of_not_inlines hresolved hvalues hpooled
    exact ⟨_, hplace, rfl⟩
  · rw [hlookups, ← hfor.links_eq]
    exact hreferences
  · cases hpinned : c.isPinned o with
    | false =>
      rw [hdirectives, hnumeric, hpinned]
      exact .inl List.mem_cons_self
    | true =>
      rw [Column.isPinned, Bool.or_eq_true, List.any_eq_true, Option.any_eq_true] at hpinned
      rcases hpinned with ⟨d, hd, hlist⟩ | ⟨rule, hrule, hnumber⟩
      · exact .inr (.inr ⟨d, hd, Bool.and_eq_true_iff.1 hlist⟩)
      · obtain ⟨whole, bounds, hkind⟩ := RuleKind.isNumber_iff.1 hnumber
        exact .inr (.inl ⟨rule, whole, bounds, hrule, hkind⟩)

/-! ### Scores -/

/-- Players and their points, which are counted upwards and shared by no two. -/
def scores : Package where
  tables := [{
    name := "scores"
    fields := [
      { name := "player", type := .string, constraints := { required := true } },
      { name := "points", type := .integer, constraints := { unique := true, minimum := some (.ofNat 0) } }] }]

attribute [local instance] Libraries.plain in
private theorem resolve_scores : resolve scores online = .ok ⟨[0], [[⟨[], none⟩, ⟨[], none⟩]], none, []⟩ := by
  have hrows : online.checkRows = .ok () := rfl
  have hnamed : WellNamed online [] [Text.lowercase online.enumSheet] scores.tables := by
    constructor <;> decide +kernel
  have htables : checkTables online scores = .ok () := checkTables_eq_ok.2 ⟨by decide +kernel, hnamed⟩
  have hsound : ∀ f ∈ scores.tables[0].fields, f.Sound := by
    refine List.forall_mem_cons.2 ⟨?_, List.forall_mem_singleton.2 ?_⟩
    · constructor <;> simp
    · constructor <;> simp
      decide +kernel
  have hchecked : scores.tables[0].fields.forM (checkConstraints scores.tables[0]) = .ok () :=
    forM_eq_ok.2 fun f hf => checkConstraints_eq_ok.2 (hsound f hf)
  have hkeys : scores.tables.mapM (resolveTable scores) = .ok [[]] :=
    mapM_eq_ok.2 (.cons (bind_eq_ok.2 ⟨[], rfl, bind_eq_ok.2 ⟨(), hchecked, rfl⟩⟩) .nil)
  rw [resolve, hrows, htables, hkeys]
  rfl

attribute [local instance] Libraries.plain in
/-- As points are not to be shared, their range is not the rule, and their type is tested. -/
theorem points_tested : ∃ t c, compile scores online = .ok t ∧ t.column? "scores" "points" = some c ∧
    c.directives = [.type .integer, .unique false, .range (some (.ofNat 0)) none true] := by
  have hrule : ((compile scores online).toOption.bind fun t => (t.column? "scores" "points").map fun c =>
      c.rule.any (·.kind.isNumber)) = some false := by
    rw [compile, resolve_scores]
    decide +kernel
  obtain ⟨t, ht, hrule⟩ := Option.bind_eq_some_iff.1 hrule
  obtain ⟨c, hc, hrule⟩ := Option.map_eq_some_iff.1 hrule
  have ht := toOption_eq_some.1 ht
  have htable : scores.tables[0] ∈ scores.tables := List.mem_cons_self
  have hf : scores.tables[0].fields[1] ∈ scores.tables[0].fields := by simp [scores]
  obtain ⟨other, place, references, hother, hdirectives, _, hreferences, _⟩ := directives_of_compile ht htable hf
  obtain rfl : c = other := Option.some.inj (hc.symm.trans hother)
  obtain rfl : references = [] := List.forall₂_nil_left_iff.1 hreferences
  have hlists : c.directives.any (fun d => d.isList && d.isEnforced online) = false := by
    rw [hdirectives, List.any_append]
    split <;> rfl
  have hpinned : c.isPinned online = false := by rw [Column.isPinned, hlists, hrule, Bool.or_self]
  exact ⟨t, c, ht, hc, by rw [hdirectives, hpinned]; rfl⟩

end SheetTemplate
