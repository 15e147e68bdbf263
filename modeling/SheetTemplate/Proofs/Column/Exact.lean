import SheetTemplate.Proofs.Column.Parts

/-!
# Parts and their rules

Where a platform can realize all constraints of a field, more is known of its parts than what they demand. The checks of
a part follow from its directive, messages included, lists and ranges are the parts with a rule of their own, and the way
a part is realized tells these from the others.
-/

namespace SheetTemplate

/-! ### Realizations -/

def Realization.isValueRule : Realization → Bool
  | .native .rejectBlank => false
  | .native _ => true
  | _ => false

def ConstraintKind.hasValueRule : ConstraintKind → Bool
  | .minimum | .maximum | .enum | .foreignKey => true
  | _ => false

section Realizations

variable {o : Options} {type : FieldType} {kind : ConstraintKind}

theorem isValueRule_realize (h : o.profile.realize type kind ≠ .unsupported) :
    (o.profile.realize type kind).isValueRule = kind.hasValueRule := by
  revert h
  rw [Options.profile]
  cases o.platform <;> cases type <;> cases kind <;> simp [Platform.profile, Profile.excel, Profile.googleSheets,
    Profile.realization, Realization.isValueRule, ConstraintKind.hasValueRule]

theorem isFormula_realize (h : o.profile.realize type kind ≠ .unsupported) :
    (o.profile.realize type kind).isFormula = (!kind.hasValueRule && kind ≠ .required) := by
  revert h
  rw [Options.profile]
  cases o.platform <;> cases type <;> cases kind <;> simp [Platform.profile, Profile.excel, Profile.googleSheets,
    Profile.realization, Realization.isFormula, ConstraintKind.hasValueRule]

theorem realize_bound (hkind : kind = .minimum ∨ kind = .maximum) (h : o.profile.realize type kind ≠ .unsupported) :
    o.profile.realize type kind = .native .numberRange := by
  revert h
  rw [Options.profile]
  rcases hkind with rfl | rfl <;> cases o.platform <;> cases type <;> simp [Platform.profile, Profile.excel,
    Profile.googleSheets, Profile.realization]

theorem isSupported_bound (hkind : kind = .minimum ∨ kind = .maximum) :
    (o.profile.realize type kind).isSupported = type.isNumeric := by
  rw [Options.profile]
  rcases hkind with rfl | rfl <;> cases o.platform <;> cases type <;> rfl

theorem isSupported_length (hkind : kind = .minLength ∨ kind = .maxLength) :
    (o.profile.realize type kind).isSupported = decide (type = .string) := by
  rw [Options.profile]
  rcases hkind with rfl | rfl <;> cases o.platform <;> cases type <;> rfl

theorem booleanList_profile (o : Options) : o.profile.booleanList = .native .inlineList := by
  rw [Options.profile]
  cases o.platform <;> rfl

theorem realize_ne_unsupported {f : Field} (hsupported : f.unsupported o.profile = [])
    (h : f.constraints.declares kind = true) : o.profile.realize f.type kind ≠ .unsupported := by
  have hmem : kind ∈ f.constraints.declared := List.mem_filter.2 ⟨by cases kind <;> decide, h⟩
  have hkind := List.filter_eq_nil_iff.1 hsupported kind hmem
  simpa [Realization.isSupported] using hkind

end Realizations

/-! ### Checks -/

/-- The checks of a directive, for a column on a sheet. A list in cells is described by the values that are declared. -/
def Directive.checks (p : Profile) (sheet : String) (ctx : CellContext) (declared : List Value) : Directive → List Check
  | .type ofField => (Check.typeTest? ofField ctx).toList
  | .required => [.required ctx]
  | .unique caseSensitive => [.unique ctx caseSensitive]
  | .range low high _ => (low.map (Check.minimum ctx)).toList ++ (high.map (Check.maximum ctx)).toList
  | .length low high => (low.map (Check.minLength ctx)).toList ++ (high.map (Check.maxLength ctx)).toList
  | .pattern regex => [.pattern ctx regex]
  | .list .boolean _ => (Check.typeTest? .boolean ctx).toList
  | .list _ (.literal values) => [.inLiterals ctx values]
  | .list .enum (.range lookup) => [.inRange ctx (lookup.referenceFrom sheet p.indirect) (Check.oneOf declared)]
  | .list (.foreignKey link) (.range lookup) =>
    [.inRange ctx (lookup.referenceFrom sheet p.indirect) ("in " ++ link.table ++ "." ++ link.field)]

/-! ### Exact parts -/

namespace Part

/-- A part that is known from its directive, but for the rule itself. -/
structure Exact (o : Options) (sheet : String) (ctx : CellContext) (declared : List Value) (p : Part) : Prop where
  checks_eq : p.checks = p.directive.checks o.profile sheet ctx declared
  native_isSome : p.native.isSome = (p.directive.isList || p.directive.isRange)
  isValueRule_eq : p.realization.isValueRule = p.native.isSome
  isFormula_eq : p.realization.isFormula = (!p.native.isSome && !p.isRequired)

variable {o : Options} {sheet : String} {ctx : CellContext} {f : Field} {declared : List Value} {part : Part}

private theorem exact_booleanList? (h : booleanList? o.profile ctx f = some part) : part.Exact o sheet ctx declared := by
  unfold booleanList? at h
  rw [booleanList_profile] at h
  obtain ⟨_, heq⟩ := Option.ite_none_right_eq_some.1 h
  cases heq
  exact ⟨rfl, rfl, rfl, rfl⟩

private theorem exact_required? (hsupported : f.unsupported o.profile = [])
    (h : required? o.profile ctx f = some part) : part.Exact o sheet ctx declared := by
  obtain ⟨hdeclared, heq⟩ := Option.ite_none_right_eq_some.1 h
  have hrealized : o.profile.realize f.type .required ≠ .unsupported := realize_ne_unsupported hsupported hdeclared
  cases heq
  exact ⟨rfl, rfl, isValueRule_realize hrealized, isFormula_realize hrealized⟩

private theorem exact_unique? (hsupported : f.unsupported o.profile = [])
    (h : unique? o.profile ctx f = some part) : part.Exact o sheet ctx declared := by
  obtain ⟨hdeclared, heq⟩ := Option.ite_none_right_eq_some.1 h
  have hrealized : o.profile.realize f.type .unique ≠ .unsupported := realize_ne_unsupported hsupported hdeclared
  cases heq
  exact ⟨rfl, rfl, isValueRule_realize hrealized, isFormula_realize hrealized⟩

private theorem exists_bound {α : Type} {low high : Option α} {r s t : Realization} {x : α}
    (h : (low.map (·, r)).or (high.map (·, s)) = some (x, t)) : low.isSome ∧ t = r ∨ high.isSome ∧ t = s := by
  cases low <;> cases high <;> simp_all

private theorem exact_range? (hsupported : f.unsupported o.profile = [])
    (h : range? o.profile ctx f = some part) : part.Exact o sheet ctx declared := by
  obtain ⟨⟨bound, realization⟩, hbound, rfl⟩ := Option.map_eq_some_iff.1 h
  have hrealized : realization = .native .numberRange := by
    rcases exists_bound hbound with ⟨hlow, rfl⟩ | ⟨hhigh, rfl⟩
    · exact realize_bound (.inl rfl) (realize_ne_unsupported hsupported hlow)
    · exact realize_bound (.inr rfl) (realize_ne_unsupported hsupported hhigh)
  have hnative : (Rule.numberRange? f.constraints.minimum f.constraints.maximum (f.type = .integer)).isSome = true := by
    cases hlow : f.constraints.minimum <;> cases hhigh : f.constraints.maximum <;> simp_all [Rule.numberRange?, Bounds.of?]
  have hpart : (if realization = .native .numberRange then Rule.numberRange?
      ((f.constraints.minimum.map (·, o.profile.realize f.type .minimum)).map Prod.fst)
      ((f.constraints.maximum.map (·, o.profile.realize f.type .maximum)).map Prod.fst) (f.type = .integer)
      else none).isSome = true := by
    rw [if_pos hrealized, Option.map_map, Option.map_map]
    simpa [Function.comp_def] using hnative
  exact ⟨rfl, hpart, by rw [hpart, hrealized]; rfl, by rw [hpart, hrealized]; rfl⟩

private theorem exact_length? (hsupported : f.unsupported o.profile = [])
    (h : length? o.profile ctx f = some part) : part.Exact o sheet ctx declared := by
  obtain ⟨⟨bound, realization⟩, hbound, rfl⟩ := Option.map_eq_some_iff.1 h
  have hrealized : ∃ kind, realization = o.profile.realize f.type kind ∧ o.profile.realize f.type kind ≠ .unsupported ∧
      kind.hasValueRule = false ∧ kind ≠ .required := by
    rcases exists_bound hbound with ⟨hlow, rfl⟩ | ⟨hhigh, rfl⟩
    · exact ⟨_, rfl, realize_ne_unsupported hsupported hlow, rfl, by decide⟩
    · exact ⟨_, rfl, realize_ne_unsupported hsupported hhigh, rfl, by decide⟩
  obtain ⟨kind, rfl, hrealized, hrule, hrequired⟩ := hrealized
  exact ⟨rfl, rfl, (isValueRule_realize hrealized).trans hrule,
    (isFormula_realize hrealized).trans (by simp [hrule, hrequired, isRequired])⟩

private theorem exact_pattern? (hsupported : f.unsupported o.profile = [])
    (h : pattern? o.profile ctx f = some part) : part.Exact o sheet ctx declared := by
  obtain ⟨regex, hregex, rfl⟩ := Option.map_eq_some_iff.1 h
  have hrealized : o.profile.realize f.type .pattern ≠ .unsupported :=
    realize_ne_unsupported hsupported (Option.isSome_of_eq_some hregex)
  exact ⟨rfl, rfl, isValueRule_realize hrealized, isFormula_realize hrealized⟩

private theorem exact_enum? {lookup : Option Lookup} (h : enum? o.profile ctx sheet lookup f = some part) :
    part.Exact o sheet ctx (f.constraints.enum.getD []) := by
  obtain ⟨values, hvalues, rfl⟩ := Option.map_eq_some_iff.1 h
  cases lookup with
  | none => exact ⟨rfl, rfl, rfl, rfl⟩
  | some lookup => exact ⟨by rw [hvalues]; rfl, rfl, rfl, rfl⟩

theorem exact_of_mem_ofConstraints (hsupported : f.unsupported o.profile = []) {lookup : Option Lookup}
    (h : part ∈ ofConstraints o.profile ctx sheet lookup f) : part.Exact o sheet ctx (f.constraints.enum.getD []) := by
  obtain ⟨part?, hmem, hpart⟩ := List.mem_filterMap.1 h
  change part? = some part at hpart
  subst hpart
  simp only [List.mem_cons, List.not_mem_nil, or_false] at hmem
  rcases hmem with h | h | h | h | h | h | h
  · exact exact_booleanList? h.symm
  · exact exact_required? hsupported h.symm
  · exact exact_unique? hsupported h.symm
  · exact exact_range? hsupported h.symm
  · exact exact_length? hsupported h.symm
  · exact exact_pattern? hsupported h.symm
  · exact exact_enum? h.symm

theorem exact_ofLink (link : Link) (lookup : Lookup) : (ofLink o ctx sheet f link lookup).Exact o sheet ctx declared where
  checks_eq := rfl
  native_isSome := rfl
  isValueRule_eq := by rw [ofLink, realize_foreignKey]; rfl
  isFormula_eq := by rw [ofLink, realize_foreignKey]; rfl

theorem exact_typeTest? (h : typeTest? ctx f = some part) : part.Exact o sheet ctx declared := by
  obtain ⟨_, hmap⟩ := Option.ite_none_right_eq_some.1 h
  obtain ⟨check, hcheck, heq⟩ := Option.map_eq_some_iff.1 hmap
  subst heq
  exact ⟨by rw [Directive.checks, hcheck, Option.toList_some], rfl, rfl, rfl⟩

theorem exact_of_mem_withTypeTest {parts : List Part} (hparts : ∀ part ∈ parts, part.Exact o sheet ctx declared)
    (h : part ∈ Composition.withTypeTest o ctx f parts) : part.Exact o sheet ctx declared :=
  (typeTest_or_mem_of_mem_withTypeTest h).elim exact_typeTest? (hparts part)

/-! ### Folding -/

namespace Exact

variable (h : part.Exact o sheet ctx declared)
include h

/-- Whatever can be checked by a formula is, where it is not the rule. -/
theorem folded_eq : part.folded.isValueRule = false ∧ part.folded.isFormula = !part.isRequired := by
  have hvalue := h.isValueRule_eq.trans h.native_isSome
  have hformula := h.isFormula_eq
  rw [h.native_isSome] at hformula
  unfold folded isRequired at *
  cases hrealization : part.realization <;> cases hdirective : part.directive <;>
    simp_all [Realization.isValueRule, Realization.isFormula, Directive.isList, Directive.isRange]

end Exact

end Part

end SheetTemplate
