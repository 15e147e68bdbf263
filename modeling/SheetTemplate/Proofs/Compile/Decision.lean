import SheetTemplate.Proofs.Column.Decision
import SheetTemplate.Proofs.Compile.Composed
import SheetTemplate.Proofs.Resolution.Supported

/-!
# Decided columns

Every column of a compiled table is decided from its directives. Nothing more has to be known for that: not that the
package resolves, and not where its lists and the columns it refers to stand.
-/

namespace SheetTemplate

variable {o : Options} {registry : Registry} {lists : Option EnumSheet} {t : Table} {l : TableLayout} {f : Field}
  {place : ColumnLayout} {res : FieldResolution} {c : Column}

/-! ### What is composed for a field -/

theorem Composition.subset_withTypeTest {ctx : CellContext} {parts : List Part} : parts ⊆ withTypeTest o ctx f parts := by
  unfold withTypeTest
  split
  · exact List.Subset.refl _
  · exact List.subset_append_right _ _

theorem any_isRequired_composedParts :
    (composedParts o registry lists l f place res).any (·.isRequired) = f.constraints.required := by
  rw [Bool.eq_iff_iff, List.any_eq_true]
  constructor
  · rintro ⟨part, hpart, hrequired⟩
    have hdirective : part.directive = .required := by simpa [Part.isRequired] using hrequired
    have hcalls := callsFor_of_mem_composedParts hpart
    rw [hdirective] at hcalls
    cases hcalls with
    | required h => exact h
  · intro h
    obtain ⟨part, hpart, hrequired⟩ : ∃ part, Part.required? o.profile (l.contextOf place) f = some part ∧
        part.isRequired = true := ⟨_, if_pos h, rfl⟩
    have hown : part ∈ Part.ofConstraints o.profile (l.contextOf place) l.sheet (res.place? lists) f :=
      List.mem_filterMap.2 ⟨_, List.mem_cons_of_mem _ List.mem_cons_self, hpart⟩
    exact ⟨part, Composition.subset_withTypeTest (List.mem_append_left _ hown), hrequired⟩

theorem exact_composedParts : ∀ part ∈ composedParts o registry lists l (f.supported o.profile) place res,
    part.Exact o l.sheet (l.contextOf place) (f.constraints.enum.getD []) := by
  intro part hpart
  refine Part.exact_of_mem_withTypeTest (fun part hpart => ?_) hpart
  rcases List.mem_append.1 hpart with hown | hlinked
  · have hexact := Part.exact_of_mem_ofConstraints (f.unsupported_supported o.profile) hown
    rwa [Field.enum_supported] at hexact
  · obtain ⟨link, _, hpart⟩ := List.mem_filterMap.1 hlinked
    obtain ⟨found, _, rfl⟩ := Option.map_eq_some_iff.1 hpart
    exact Part.exact_ofLink link found

theorem decided_composedColumn : (composedColumn o registry lists l (f.supported o.profile) place res).Decided o l.sheet
    (l.contextOf place) (f.constraints.enum.getD []) f.constraints.required := by
  rw [composedColumn_eq]
  exact Composition.decided_column faithful_composedParts exact_composedParts
    (any_isRequired_composedParts.trans (Field.required_supported o f))

/-- Each column of a compiled table is that of its field at its place, decided from its directives. -/
theorem decided_of_compileTable {resolved : List FieldResolution} {columns : List Column}
    (h : (compileTable o registry lists t l resolved).result = .ok columns) :
    List.Forall₂ (fun x c => c.field = x.1.name ∧ c.index = x.2.index ∧ c.range = x.2.data ∧
      c.Decided o l.sheet (l.contextOf x.2) (x.1.constraints.enum.getD []) x.1.constraints.required)
      (t.fields.zip l.columns) columns := by
  -- What a field refers to is asked for by its number, which nothing else depends on.
  rw [← List.zipIdx_map_fst 0 (t.fields.zip l.columns), List.forall₂_map_left_iff]
  refine (Outcome.mapM_eq_ok.1 h).imp fun x c hc => ?_
  obtain ⟨_, rfl⟩ := composedColumn_of_compileField hc
  exact ⟨rfl, rfl, rfl, decided_composedColumn⟩

attribute [local instance] Libraries.plain in
/-- The customer of an order has to be given and is offered in a list, and nothing is left to be checked beside it. -/
theorem customer_offered : ∃ columns c rule,
    (compileTable online ((Registry.empty.publish (online.home customers)).publish (online.home orders)) none orders
      (online.home orders) [⟨[⟨"customers", "name"⟩], none⟩, ⟨[], none⟩]).result = .ok columns ∧
    columns[0]? = some c ∧ c.rule = some rule ∧ rule.kind = .list (.range ⟨"customers", 0, ⟨1, 1000⟩⟩) ∧
    rule.showError = true ∧ rule.allowBlank = false ∧ c.companion = none := by
  have hdirectives : ((compileTable online ((Registry.empty.publish (online.home customers)).publish (online.home orders))
      none orders (online.home orders) [⟨[⟨"customers", "name"⟩], none⟩, ⟨[], none⟩]).result.toOption.map fun columns =>
        columns.map Column.directives) = some [[.required,
          .list (.foreignKey ⟨"customers", "name"⟩) (.range ⟨"customers", 0, ⟨1, 1000⟩⟩)], [.length none (some 80)]] := by
    decide +kernel
  obtain ⟨columns, hcolumns, hdirectives⟩ := Option.map_eq_some_iff.1 hdirectives
  have hcolumns := toOption_eq_some.1 hcolumns
  obtain ⟨c, hc, _, _, _, hdecided⟩ := getElem?_of_forall₂ (decided_of_compileTable hcolumns) (i := 0) rfl
  have hfirst : c.directives = [.required,
      .list (.foreignKey ⟨"customers", "name"⟩) (.range ⟨"customers", 0, ⟨1, 1000⟩⟩)] := by
    have hget := congrArg (·[0]?) hdirectives
    simpa [List.getElem?_map, hc] using hget
  have hstays : Directive.StaysNative online c.directives 1
      (.list (.foreignKey ⟨"customers", "name"⟩) (.range ⟨"customers", 0, ⟨1, 1000⟩⟩)) :=
    hfirst ▸ ⟨rfl, rfl, .inl rfl⟩
  obtain ⟨rule, hrule, hstates, hshow, _, hcompanion⟩ := hdecided.native 1 _ hstays
  have hkind : rule.kind = .list (.range ⟨"customers", 0, ⟨1, 1000⟩⟩) := by
    generalize rule.kind = kind at hstates ⊢
    cases hstates
    rfl
  exact ⟨columns, c, rule, hcolumns, hc, hrule, hkind, hshow, hdecided.allowBlank_eq rule hrule,
    hcompanion.trans (by rw [hfirst]; rfl)⟩

end SheetTemplate
