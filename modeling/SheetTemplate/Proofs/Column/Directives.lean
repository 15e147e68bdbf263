import SheetTemplate.Proofs.Column.Decision
import SheetTemplate.Proofs.Column.Lists

/-!
# The directives of a column

What is checked of a column follows from the constraints of its field, in the order in which they are declared, but for
the test of a numeric type. That one depends on the rule and comes in front of what the rule is chosen from. It is left
out where an enforced list or a range that is the rule keeps other types out, and where it is put in, no range can be the
rule any more, so what decides on it still holds when it is there.
-/

namespace SheetTemplate

/-! ### What a field demands -/

/-- A constraint that is declared and that the platform can realize. -/
def Field.offers (p : Profile) (f : Field) (kind : ConstraintKind) : Bool :=
  f.constraints.declares kind && (p.realize f.type kind).isSupported

/-- What is checked of a field for its own constraints, in order, where its list may have a place in cells. -/
def Field.demands (p : Profile) (place : Option Lookup) (f : Field) : List Directive := [
  if f.type = .boolean && f.constraints.enum.isNone then
    some (.list .boolean (.literal [.boolean true, .boolean false])) else none,
  if f.constraints.required then some .required else none,
  if f.constraints.unique then some (.unique (f.type = .string)) else none,
  if f.offers p .minimum || f.offers p .maximum then
    some (.range f.constraints.minimum f.constraints.maximum (f.type = .integer)) else none,
  if f.offers p .minLength || f.offers p .maxLength then
    some (.length f.constraints.minLength f.constraints.maxLength) else none,
  if f.offers p .pattern then f.constraints.pattern.map .pattern else none,
  f.constraints.enum.map fun values => .list .enum (place.elim (.literal values) .range)].filterMap id

section Demands

variable {o : Options} {ctx : CellContext} {sheet : String} {place : Option Lookup} {f : Field}

private theorem directive_booleanList? : (Part.booleanList? o.profile ctx (f.supported o.profile)).map (·.directive) =
    if f.type = .boolean && f.constraints.enum.isNone then
      some (.list .boolean (.literal [.boolean true, .boolean false])) else none := by
  unfold Part.booleanList?
  rw [Field.enum_supported]
  exact apply_ite ..

private theorem directive_required? : (Part.required? o.profile ctx (f.supported o.profile)).map (·.directive) =
    if f.constraints.required then some .required else none := by
  unfold Part.required?
  rw [Field.required_supported]
  exact apply_ite ..

private theorem directive_unique? : (Part.unique? o.profile ctx (f.supported o.profile)).map (·.directive) =
    if f.constraints.unique then some (.unique (f.type = .string)) else none := by
  have hsupported : (o.profile.realize f.type .unique).isSupported = true ∧
      decide (o.profile.realize f.type .unique = .formula (.countMatches true)) = decide (f.type = .string) := by
    rw [Options.profile]
    cases o.platform <;> cases f.type <;> decide
  have hunique : (f.supported o.profile).constraints.unique = f.constraints.unique :=
    (Bool.and_eq_left_iff_imp ..).2 fun _ => hsupported.1
  have htype : (f.supported o.profile).type = f.type := rfl
  unfold Part.unique?
  rw [hunique, htype, ← hsupported.2]
  exact apply_ite ..

private theorem directive_range? : (Part.range? o.profile ctx (f.supported o.profile)).map (·.directive) =
    if f.offers o.profile .minimum || f.offers o.profile .maximum then
      some (.range f.constraints.minimum f.constraints.maximum (f.type = .integer)) else none := by
  have hlow : (o.profile.realize f.type .minimum).isSupported = f.type.isNumeric := isSupported_bound (.inl rfl)
  have hhigh : (o.profile.realize f.type .maximum).isSupported = f.type.isNumeric := isSupported_bound (.inr rfl)
  simp only [Part.range?, Field.supported, Constraints.keep, Field.offers, Constraints.declares, hlow, hhigh]
  cases f.type.isNumeric <;> cases f.constraints.minimum <;> cases f.constraints.maximum <;> rfl

private theorem directive_length? : (Part.length? o.profile ctx (f.supported o.profile)).map (·.directive) =
    if f.offers o.profile .minLength || f.offers o.profile .maxLength then
      some (.length f.constraints.minLength f.constraints.maxLength) else none := by
  have hlow : (o.profile.realize f.type .minLength).isSupported = decide (f.type = .string) := isSupported_length (.inl rfl)
  have hhigh : (o.profile.realize f.type .maxLength).isSupported = decide (f.type = .string) := isSupported_length (.inr rfl)
  simp only [Part.length?, Field.supported, Constraints.keep, Field.offers, Constraints.declares, hlow, hhigh]
  cases decide (f.type = .string) <;> cases f.constraints.minLength <;> cases f.constraints.maxLength <;> rfl

private theorem directive_pattern? : (Part.pattern? o.profile ctx (f.supported o.profile)).map (·.directive) =
    if f.offers o.profile .pattern then f.constraints.pattern.map .pattern else none := by
  rw [Part.pattern?, Option.map_map]
  change (if (o.profile.realize f.type .pattern).isSupported then f.constraints.pattern else none).map Directive.pattern =
    if f.constraints.pattern.isSome && (o.profile.realize f.type .pattern).isSupported then _ else none
  generalize (o.profile.realize f.type .pattern).isSupported = supported
  cases supported <;> cases f.constraints.pattern <;> rfl

private theorem directive_enum? : (Part.enum? o.profile ctx sheet place (f.supported o.profile)).map (·.directive) =
    f.constraints.enum.map fun values => .list .enum (place.elim (.literal values) .range) := by
  rw [Part.enum?, Field.enum_supported, Option.map_map]
  cases place <;> rfl

theorem directives_ofConstraints :
    (Part.ofConstraints o.profile ctx sheet place (f.supported o.profile)).map (·.directive) = f.demands o.profile place := by
  have hmap : ∀ parts : List (Option Part), (parts.filterMap id).map (·.directive) =
      (parts.map (Option.map (·.directive))).filterMap id := by
    intro parts
    rw [List.map_filterMap, List.filterMap_map]
    rfl
  rw [Part.ofConstraints, hmap, Field.demands]
  simp only [List.map_cons, List.map_nil, directive_booleanList?, directive_required?, directive_unique?,
    directive_range?, directive_length?, directive_pattern?, directive_enum?]

end Demands

/-! ### The test of the type -/

namespace Directive

/-- Values of other types are kept out, by an enforced list or by the range that is the rule. -/
def Pinned (o : Options) (ds : List Directive) : Prop :=
  (∃ d ∈ ds, d.isList = true ∧ d.isEnforced o = true) ∨ ∃ i d, StaysNative o ds i d ∧ d.isRange = true

theorem not_staysNative_of_type {o : Options} {type : FieldType} {ds : List Directive} {i : Nat} {d : Directive}
    (hrange : d.isRange = true) : ¬StaysNative o (.type type :: ds) i d := by
  intro h
  cases i with
  | zero =>
    obtain rfl : .type type = d := Option.some.inj h.get
    cases hrange
  | succ i =>
    rcases h.carried with hnone | ⟨hlist, _⟩
    · rw [List.eraseIdx_cons_succ] at hnone
      cases hnone
    · cases d <;> cases hrange
      cases hlist

end Directive

namespace Composition

variable {o : Options} {sheet : String} {ctx : CellContext} {f : Field} {declared : List Value} {parts : List Part}

theorem isPinned_iff (hparts : ∀ part ∈ parts, part.Faithful o sheet ctx)
    (hexact : ∀ part ∈ parts, part.Exact o sheet ctx declared) :
    isPinned o parts = true ↔ Directive.Pinned o (parts.map (·.directive)) := by
  simp only [isPinned, List.any_eq_true, Prod.exists, List.mk_mem_zipIdx_iff_getElem?, Bool.and_eq_true, Bool.or_eq_true,
    decide_eq_true_eq]
  constructor
  · rintro ⟨part, i, hi, henforced, hlist | ⟨hprimary, hrange⟩⟩
    · rw [(hparts part (List.mem_of_getElem? hi)).enforced_eq] at henforced
      exact .inl ⟨part.directive, List.mem_map_of_mem (List.mem_of_getElem? hi), hlist, henforced⟩
    · obtain ⟨d, hd⟩ := (primary?_eq_some_iff hparts hexact i).1 hprimary
      have hget := hd.get
      rw [List.getElem?_map, hi, Option.map_some, Option.some.injEq] at hget
      exact .inr ⟨i, d, hd, hget ▸ hrange⟩
  · rintro (⟨d, hd, hlist, henforced⟩ | ⟨i, d, hd, hrange⟩)
    · obtain ⟨part, hpart, rfl⟩ := List.mem_map.1 hd
      obtain ⟨i, hi⟩ := List.getElem?_of_mem hpart
      exact ⟨part, i, hi, (hparts part hpart).enforced_eq.trans henforced, .inl hlist⟩
    · obtain ⟨part, hi, rfl⟩ := Option.map_eq_some_iff.1 (List.getElem?_map .. ▸ hd.get)
      refine ⟨part, i, hi, (hparts part (List.mem_of_getElem? hi)).enforced_eq.trans ?_,
        .inr ⟨(primary?_eq_some_iff hparts hexact i).2 ⟨_, hd⟩, hrange⟩⟩
      cases hdirective : part.directive <;> simp [hdirective, Directive.isRange] at hrange
      rfl

theorem directive_typeTest? : ((Part.typeTest? ctx f).toList).map (·.directive) =
    if f.type.isNumeric then [.type f.type] else [] := by
  unfold Part.typeTest?
  cases f.type <;> rfl

/-- The type is tested where it is numeric and nothing else pins it down, also when it is tested. -/
theorem directives_withTypeTest (hparts : ∀ part ∈ parts, part.Faithful o sheet ctx)
    (hexact : ∀ part ∈ parts, part.Exact o sheet ctx declared) {ds : List Directive}
    (hds : (withTypeTest o ctx f parts).map (·.directive) = ds) :
    (f.type.isNumeric = true ∧ ¬Directive.Pinned o ds) ∧ ds = .type f.type :: parts.map (·.directive) ∨
      ¬(f.type.isNumeric = true ∧ ¬Directive.Pinned o ds) ∧ ds = parts.map (·.directive) := by
  subst hds
  have hpinned := isPinned_iff hparts hexact
  unfold withTypeTest
  split
  · rename_i h
    exact .inr ⟨fun hnot => hnot.2 (hpinned.1 h), rfl⟩
  rename_i h
  rw [List.map_append, directive_typeTest?]
  cases hnumeric : f.type.isNumeric with
  | false => exact .inr ⟨fun hnot => Bool.false_ne_true hnot.1, rfl⟩
  | true =>
    refine .inl ⟨⟨rfl, ?_⟩, rfl⟩
    rintro (⟨d, hd, hlist, henforced⟩ | ⟨i, d, hd, hrange⟩)
    · rcases List.mem_cons.1 hd with rfl | hd
      · cases hlist
      · exact h (hpinned.2 (.inl ⟨d, hd, hlist, henforced⟩))
    · exact Directive.not_staysNative_of_type hrange hd

end Composition

/-! ### The test and the rule -/

def RuleKind.isNumber : RuleKind → Bool
  | .number .. => true
  | _ => false

theorem RuleKind.isNumber_iff {kind : RuleKind} : kind.isNumber = true ↔ ∃ whole bounds, kind = .number whole bounds := by
  cases kind with
  | number whole bounds => simp [isNumber]
  | list | custom => simp [isNumber]

/-- Values of other types are kept out of a column, by an enforced list or by a rule for numbers. -/
def Column.isPinned (o : Options) (c : Column) : Bool :=
  c.directives.any (fun d => d.isList && d.isEnforced o) || c.rule.any (·.kind.isNumber)

theorem Column.Decided.isPinned_iff {o : Options} {sheet : String} {ctx : CellContext} {declared : List Value}
    {required : Bool} {c : Column} (h : c.Decided o sheet ctx declared required) :
    c.isPinned o = true ↔ Directive.Pinned o c.directives := by
  simp only [Column.isPinned, Bool.or_eq_true, List.any_eq_true, Bool.and_eq_true, Directive.Pinned, Option.any_eq_true]
  refine or_congr Iff.rfl ⟨fun ⟨rule, hrule, hnumber⟩ => ?_, fun ⟨i, d, hstays, hrange⟩ => ?_⟩
  · by_cases hstays : ∃ i d, Directive.StaysNative o c.directives i d
    · obtain ⟨i, d, hstays⟩ := hstays
      obtain ⟨other, hother, hstates, _⟩ := h.native i d hstays
      obtain rfl : rule = other := Option.some.inj (hrule.symm.trans hother)
      refine ⟨i, d, hstays, ?_⟩
      generalize rule.kind = kind at hnumber hstates
      cases hstates with
      | list => cases hnumber
      | number => rfl
    · have hcustom := (h.custom fun i d hd => hstays ⟨i, d, hd⟩).2.1
      rw [hrule, Option.map_some] at hcustom
      obtain ⟨_, _, hkind⟩ := Option.map_eq_some_iff.1 hcustom.symm
      rw [← hkind] at hnumber
      cases hnumber
  · obtain ⟨rule, hrule, hstates, _⟩ := h.native i d hstays
    refine ⟨rule, hrule, ?_⟩
    generalize rule.kind = kind at hstates
    cases hstates with
    | list => cases hrange
    | number => rfl

end SheetTemplate
