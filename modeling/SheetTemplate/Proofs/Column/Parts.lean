import SheetTemplate.Proofs.Column.Gathering
import SheetTemplate.Proofs.Column.Terms

/-!
# Parts and their directives

A compiled column keeps the directives of its parts and not their checks. Nothing is lost by that: what a
directive demands is written here from the directive alone, and the parts of a field turn out to demand no
more and no less.
-/

namespace SheetTemplate

namespace Directive

/-- The formulas of a directive in one of their forms, for a column on a sheet. -/
def forms (p : Profile) (sheet : String) (ctx : CellContext) (polarity : Polarity) : Directive → List Formula
  | .type ofField => ((Check.typeTest? ofField ctx).toList).map (·.form polarity)
  | .required => [(Check.required ctx).form polarity]
  | .unique caseSensitive => [(Check.unique ctx caseSensitive).form polarity]
  | .range low high _ =>
    ((low.map (Check.minimum ctx)).toList ++ (high.map (Check.maximum ctx)).toList).map (·.form polarity)
  | .length low high =>
    ((low.map (Check.minLength ctx)).toList ++ (high.map (Check.maxLength ctx)).toList).map (·.form polarity)
  | .pattern regex => [(Check.pattern ctx regex).form polarity]
  | .list _ (.literal values) => [(Check.inLiterals ctx values).form polarity]
  | .list _ (.range lookup) => [(Check.inRange ctx (lookup.referenceFrom sheet p.indirect) "").form polarity]

def reference? : Directive → Option (Link × ListSource)
  | .list (.foreignKey link) source => some (link, source)
  | _ => none

def source? (origin : ListOrigin) : Directive → Option ListSource
  | .list other source => if other = origin then some source else none
  | _ => none

/-- Whether invalid values are to be reported: always, but for a reference that is not validated. -/
def isEnforced (o : Options) (d : Directive) : Bool := d.reference?.isNone || o.validateForeignKeys

variable {p : Profile} {sheet : String} {ctx : CellContext} {polarity : Polarity}

theorem of_mem_bounds {α : Type} {low high : Option α} {atLeast atMost : α → Check} {P : Check → Prop}
    (hlow : ∀ x, P (atLeast x)) (hhigh : ∀ x, P (atMost x)) {c : Check}
    (hc : c ∈ (low.map atLeast).toList ++ (high.map atMost).toList) : P c := by
  rcases List.mem_append.1 hc with hc | hc
  · obtain ⟨x, _, rfl⟩ := Option.map_eq_some_iff.1 (Option.mem_toList.1 hc)
    exact hlow x
  · obtain ⟨x, _, rfl⟩ := Option.map_eq_some_iff.1 (Option.mem_toList.1 hc)
    exact hhigh x

private theorem simple_inLiterals (values : List Value) :
    ((Check.inLiterals ctx values).form polarity).Simple polarity ctx.cell := by
  match values with
  | [] => cases polarity <;> exact ⟨rfl, rfl⟩
  | [_] => cases polarity <;> exact ⟨rfl, rfl⟩
  | _ :: _ :: _ => cases polarity <;> exact ⟨rfl, rfl⟩

theorem simple_of_mem_forms {d : Directive} {f : Formula} (hf : f ∈ d.forms p sheet ctx polarity) :
    f.Simple polarity ctx.cell := by
  cases d with
  | type ofField =>
    cases ofField with
    | string => exact absurd hf List.not_mem_nil
    | integer | number | boolean =>
      rw [List.mem_singleton.1 hf]
      cases polarity <;> exact ⟨rfl, rfl⟩
  | required =>
    rw [List.mem_singleton.1 hf]
    cases polarity <;> exact ⟨rfl, rfl⟩
  | unique caseSensitive =>
    rw [List.mem_singleton.1 hf]
    cases caseSensitive <;> cases polarity <;> exact ⟨rfl, rfl⟩
  | range low high whole =>
    obtain ⟨c, hc, rfl⟩ := List.mem_map.1 hf
    refine of_mem_bounds (P := fun c => (c.form polarity).Simple polarity ctx.cell) (fun _ => ?_) (fun _ => ?_) hc
    · cases polarity <;> exact ⟨rfl, rfl⟩
    · cases polarity <;> exact ⟨rfl, rfl⟩
  | length low high =>
    obtain ⟨c, hc, rfl⟩ := List.mem_map.1 hf
    refine of_mem_bounds (P := fun c => (c.form polarity).Simple polarity ctx.cell) (fun _ => ?_) (fun _ => ?_) hc
    · cases polarity <;> exact ⟨rfl, rfl⟩
    · cases polarity <;> exact ⟨rfl, rfl⟩
  | pattern regex =>
    rw [List.mem_singleton.1 hf]
    cases polarity <;> exact ⟨rfl, rfl⟩
  | list origin source =>
    cases source with
    | literal values =>
      rw [List.mem_singleton.1 hf]
      exact simple_inLiterals values
    | range lookup =>
      rw [List.mem_singleton.1 hf]
      cases polarity <;> exact ⟨rfl, rfl⟩

end Directive

/-- A rule by itself accepts what a directive accepts, being its list or its range. -/
inductive RuleKind.States : RuleKind → Directive → Prop
  | list (origin : ListOrigin) (source : ListSource) : States (.list source) (.list origin source)
  | number {low high : Option Binary64} {bounds : Bounds} (whole : Bool) (h : Bounds.of? low high = some bounds) :
    States (.number whole bounds) (.range low high whole)

/-! ### Faithful parts -/

namespace Part

/-- A part that does what its directive says. -/
structure Faithful (o : Options) (sheet : String) (ctx : CellContext) (p : Part) : Prop where
  forms_eq : ∀ polarity, p.checks.map (·.form polarity) = p.directive.forms o.profile sheet ctx polarity
  checks_ne : p.checks ≠ []
  /-- Only what requires a value looks at blank cells. -/
  ignoresBlank_eq : ∀ c ∈ p.checks, c.ignoresBlank = !p.isRequired
  enforced_eq : p.enforced = p.directive.isEnforced o
  states : ∀ rule, p.native = some rule → rule.kind.States p.directive
  /-- The list of a reference can be a rule. -/
  native_of_reference : p.directive.reference?.isSome → p.native.isSome

variable {o : Options} {sheet : String} {ctx : CellContext} {f : Field} {part : Part}

theorem Faithful.simple (h : part.Faithful o sheet ctx) (polarity : Polarity) {c : Check} (hc : c ∈ part.checks) :
    (c.form polarity).Simple polarity ctx.cell :=
  Directive.simple_of_mem_forms (h.forms_eq polarity ▸ List.mem_map_of_mem hc)

/-- A part without a rule of its own needs its checks only. -/
private theorem faithful_formula {d : Directive} {checks : List Check} (hne : checks ≠ []) (hd : d.reference? = none)
    (hblank : ∀ c ∈ checks, c.ignoresBlank = !decide (d = .required))
    (hforms : ∀ polarity, checks.map (·.form polarity) = d.forms o.profile sheet ctx polarity) (r : Realization) :
    Part.Faithful o sheet ctx { directive := d, realization := r, checks } where
  forms_eq := hforms
  checks_ne := hne
  ignoresBlank_eq := hblank
  enforced_eq := by rw [Directive.isEnforced, hd, Option.isNone_none, Bool.true_or]
  states _ hrule := by cases hrule
  native_of_reference h := by
    rw [hd] at h
    cases h

private theorem faithful_booleanList? (h : booleanList? o.profile ctx f = some part) : part.Faithful o sheet ctx := by
  unfold booleanList? at h
  split at h
  · cases h
    refine ⟨fun polarity => ?_, List.cons_ne_nil _ _, List.forall_mem_singleton.2 rfl, rfl, fun rule hrule => ?_,
      fun h => by cases h⟩
    · cases polarity <;> rfl
    · simp only at hrule
      split at hrule
      · cases hrule
        exact .list ..
      · cases hrule
  · cases h

private theorem faithful_required? (h : required? o.profile ctx f = some part) : part.Faithful o sheet ctx := by
  obtain ⟨_, heq⟩ := Option.ite_none_right_eq_some.1 h
  cases heq
  exact faithful_formula (List.cons_ne_nil _ _) rfl (List.forall_mem_singleton.2 rfl) (fun _ => rfl) _

private theorem ignoresBlank_unique (caseSensitive : Bool) : (Check.unique ctx caseSensitive).ignoresBlank = true := by
  cases caseSensitive <;> rfl

private theorem faithful_unique? (h : unique? o.profile ctx f = some part) : part.Faithful o sheet ctx := by
  obtain ⟨_, heq⟩ := Option.ite_none_right_eq_some.1 h
  cases heq
  exact faithful_formula (List.cons_ne_nil _ _) rfl (List.forall_mem_singleton.2 (ignoresBlank_unique _)) (fun _ => rfl) _

private theorem bounds_ne_nil {α : Type} {low high : Option (α × Realization)} {bound : α × Realization}
    (h : low.or high = some bound) (atLeast atMost : α → Check) :
    ((low.map Prod.fst).map atLeast).toList ++ ((high.map Prod.fst).map atMost).toList ≠ [] := by
  cases low <;> cases high <;> simp_all

theorem faithful_ofBounds? {whole : Bool} {low high : Option (Binary64 × Realization)}
    (h : ofBounds? ctx whole low high = some part) : part.Faithful o sheet ctx := by
  obtain ⟨bound, hbound, rfl⟩ := Option.map_eq_some_iff.1 h
  refine ⟨fun _ => rfl, bounds_ne_nil hbound _ _, fun c => ?_, rfl, fun rule hrule => ?_, fun h => by cases h⟩
  · exact Directive.of_mem_bounds (P := (·.ignoresBlank = true)) (fun _ => rfl) (fun _ => rfl)
  · obtain ⟨_, hrule⟩ := Option.ite_none_right_eq_some.1 hrule
    obtain ⟨bounds, hof, rfl⟩ := Option.map_eq_some_iff.1 hrule
    exact .number _ hof

theorem faithful_ofLengths? {low high : Option (UInt32 × Realization)} (h : ofLengths? ctx low high = some part) :
    part.Faithful o sheet ctx := by
  obtain ⟨bound, hbound, rfl⟩ := Option.map_eq_some_iff.1 h
  refine faithful_formula (bounds_ne_nil hbound _ _) rfl (fun c => ?_) (fun _ => rfl) _
  exact Directive.of_mem_bounds (P := (·.ignoresBlank = true)) (fun _ => rfl) (fun _ => rfl)

private theorem faithful_pattern? (h : pattern? o.profile ctx f = some part) : part.Faithful o sheet ctx := by
  obtain ⟨regex, _, rfl⟩ := Option.map_eq_some_iff.1 h
  exact faithful_formula (List.cons_ne_nil _ _) rfl (List.forall_mem_singleton.2 rfl) (fun _ => rfl) _

private theorem faithful_enum? {lookup : Option Lookup} (h : enum? o.profile ctx sheet lookup f = some part) :
    part.Faithful o sheet ctx := by
  obtain ⟨values, _, rfl⟩ := Option.map_eq_some_iff.1 h
  refine ⟨fun polarity => ?_, List.cons_ne_nil _ _, List.forall_mem_singleton.2 ?_, rfl, fun rule hrule => ?_,
    fun h => by cases h⟩
  · cases lookup <;> cases polarity <;> rfl
  · cases lookup <;> rfl
  · cases hrule
    exact .list ..

theorem faithful_of_mem_ofConstraints {lookup : Option Lookup} (h : part ∈ ofConstraints o.profile ctx sheet lookup f) :
    part.Faithful o sheet ctx := by
  obtain ⟨part?, hmem, hpart⟩ := List.mem_filterMap.1 h
  change part? = some part at hpart
  subst hpart
  simp only [List.mem_cons, List.not_mem_nil, or_false] at hmem
  rcases hmem with h | h | h | h | h | h | h
  · exact faithful_booleanList? h.symm
  · exact faithful_required? h.symm
  · exact faithful_unique? h.symm
  · exact faithful_ofBounds? h.symm
  · exact faithful_ofLengths? h.symm
  · exact faithful_pattern? h.symm
  · exact faithful_enum? h.symm

theorem faithful_ofLink (link : Link) (lookup : Lookup) : (ofLink o ctx sheet f link lookup).Faithful o sheet ctx where
  forms_eq polarity := by cases polarity <;> rfl
  checks_ne := List.cons_ne_nil _ _
  ignoresBlank_eq := List.forall_mem_singleton.2 rfl
  enforced_eq := rfl
  states rule hrule := by
    cases hrule
    exact .list ..
  native_of_reference _ := rfl

private theorem ignoresBlank_typeTest? {type : FieldType} {check : Check} (h : Check.typeTest? type ctx = some check) :
    check.ignoresBlank = true := by
  cases type <;> cases h <;> rfl

theorem faithful_typeTest? (h : typeTest? ctx f = some part) : part.Faithful o sheet ctx := by
  unfold typeTest? at h
  split at h
  · obtain ⟨check, hcheck, rfl⟩ := Option.map_eq_some_iff.1 h
    refine faithful_formula (List.cons_ne_nil _ _) rfl (List.forall_mem_singleton.2 ?_) (fun _ => ?_) _
    · exact ignoresBlank_typeTest? hcheck
    · rw [Directive.forms, hcheck, Option.toList_some]
  · cases h

theorem typeTest_or_mem_of_mem_withTypeTest {parts : List Part} (h : part ∈ Composition.withTypeTest o ctx f parts) :
    typeTest? ctx f = some part ∨ part ∈ parts := by
  unfold Composition.withTypeTest at h
  split at h
  · exact .inr h
  · exact (List.mem_append.1 h).imp_left Option.mem_toList.1

theorem faithful_of_mem_withTypeTest {parts : List Part} (hparts : ∀ part ∈ parts, part.Faithful o sheet ctx)
    (h : part ∈ Composition.withTypeTest o ctx f parts) : part.Faithful o sheet ctx :=
  (typeTest_or_mem_of_mem_withTypeTest h).elim faithful_typeTest? (hparts part)

end Part

end SheetTemplate
