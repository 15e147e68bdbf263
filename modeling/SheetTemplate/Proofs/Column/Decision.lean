import SheetTemplate.Proofs.Column.Exact
import SheetTemplate.Proofs.Column.Quotations

/-!
# How a column is decided

The rule, the formula beside it and the highlight of a column follow from its directives and three options. One directive
is preferred for the rule, and it is the rule if no other one is lost by that: what else is enforced is a requirement, or
the rule is a list and the highlight covers the rest. Otherwise all that is enforced becomes one formula.
-/

namespace SheetTemplate

/-- What is checked of a column, in order. -/
def Column.directives (c : Column) : List Directive := c.checks.map (·.directive)

namespace Directive

/-- The place of the directive that is preferred for the rule. Lists that may be offered come first, of them a reference,
then a declared list, then that of TRUE and FALSE; a range comes last. -/
def preferred? (o : Options) (ds : List Directive) : Option Nat :=
  let list? := (ds.findIdx? (·.reference?.isSome)).or ((ds.findIdx? fun d => (d.source? .enum).isSome).or
    (ds.findIdx? fun d => (d.source? .boolean).isSome))
  (if o.dropdowns then list? else none).or (ds.findIdx? (·.isRange))

def enforced (o : Options) (ds : List Directive) : List Directive := ds.filter (·.isEnforced o)

/-- The enforced directives but for a requirement, which a rule meets by refusing blank cells. -/
def ofValues (o : Options) (ds : List Directive) : List Directive := (enforced o ds).filter (· ≠ .required)

def combined? (o : Options) (sheet : String) (ctx : CellContext) (declared : List Value) (polarity : Polarity)
    (ds : List Directive) : Option Formula :=
  Check.conditions? polarity ctx.cell (ds.flatMap (·.checks o.profile sheet ctx declared))

/-- The preferred directive is the rule: nothing else is to be checked of values, or it is a list and invalid cells are
highlighted. -/
structure StaysNative (o : Options) (ds : List Directive) (i : Nat) (d : Directive) : Prop where
  preferred : preferred? o ds = some i
  get : ds[i]? = some d
  carried : ofValues o (ds.eraseIdx i) = [] ∨ d.isList = true ∧ o.highlightInvalid = true

end Directive

open Directive in
/-- A column as it is decided from its directives, where a list is declared or none, and a value is required or not. -/
structure Column.Decided (o : Options) (sheet : String) (ctx : CellContext) (declared : List Value) (required : Bool)
    (c : Column) : Prop where
  /-- A directive that is the rule leaves the other ones to a formula beside it. -/
  native (i : Nat) (d : Directive) : StaysNative o c.directives i d →
    ∃ rule, c.rule = some rule ∧ rule.kind.States d ∧ rule.showError = d.isEnforced o ∧ rule.showDropdown = d.isList ∧
      c.companion = combined? o sheet ctx declared .valid (ofValues o (c.directives.eraseIdx i))
  /-- Otherwise the rule is a formula of all that is enforced. -/
  custom : (∀ i d, ¬StaysNative o c.directives i d) → c.companion = none ∧
    c.rule.map (·.kind) = (combined? o sheet ctx declared .valid (enforced o c.directives)).map .custom ∧
    ∀ rule, c.rule = some rule → rule.showError = true ∧ rule.showDropdown = false
  highlight_eq : c.highlight =
    if o.highlightInvalid then combined? o sheet ctx declared .invalid (enforced o c.directives) else none
  combined_eq_none (polarity : Polarity) (ds : List Directive) : ds ⊆ c.directives →
    (combined? o sheet ctx declared polarity ds = none ↔ ds = [])
  allowBlank_eq (rule : Rule) : c.rule = some rule → rule.allowBlank = !required
  errorStyle_eq (rule : Rule) : c.rule = some rule → rule.errorStyle = o.errorStyle
  message_eq (rule : Rule) : c.rule = some rule → rule.message = if (enforced o c.directives).isEmpty then "" else
    Check.describe ((enforced o c.directives).flatMap (·.checks o.profile sheet ctx declared))

/-! ### Joint checks -/

theorem filter_flatMap_of_forall {α β : Type} {g : α → List β} {keep : β → Bool} {keepAll : α → Bool} {xs : List α}
    (h : ∀ x ∈ xs, ∀ y ∈ g x, keep y = keepAll x) : (xs.flatMap g).filter keep = (xs.filter keepAll).flatMap g := by
  induction xs with
  | nil => rfl
  | cons x xs ih =>
    obtain ⟨hx, hxs⟩ := List.forall_mem_cons.1 h
    rw [List.flatMap_cons, List.filter_append, ih hxs]
    cases hkeep : keepAll x with
    | true =>
      rw [List.filter_cons_of_pos hkeep, List.flatMap_cons, List.filter_eq_self.2 fun y hy => (hx y hy).trans hkeep]
    | false =>
      rw [List.filter_cons_of_neg (by simp [hkeep]), List.filter_eq_nil_iff.2 fun y hy => by simp [hx y hy, hkeep],
        List.nil_append]

namespace Check

/-- Checks that look at blank cells can be joined before or after the others. -/
theorem conditions?_congr {polarity : Polarity} {cell : String} {checks others : List Check}
    (hguarded : checks.filter (·.ignoresBlank) = others.filter (·.ignoresBlank))
    (hopen : checks.filter (!·.ignoresBlank) = others.filter (!·.ignoresBlank)) :
    conditions? polarity cell checks = conditions? polarity cell others := by
  have hnil : ∀ checks : List Check, checks = [] ↔
      checks.filter (·.ignoresBlank) = [] ∧ checks.filter (!·.ignoresBlank) = [] := by
    intro checks
    simp only [List.filter_eq_nil_iff, Bool.not_eq_true', Bool.not_eq_true, Bool.not_eq_false]
    refine ⟨fun h => by simp [h], fun ⟨hguarded, hopen⟩ => List.eq_nil_iff_forall_not_mem.2 fun c hc => ?_⟩
    exact absurd (hopen c hc) (by simp [hguarded c hc])
  have hempty : checks.isEmpty = others.isEmpty := by
    rw [Bool.eq_iff_iff, List.isEmpty_iff, List.isEmpty_iff, hnil, hnil others, hguarded, hopen]
  rw [conditions?_eq, conditions?_eq, hempty, hguarded, hopen]

end Check

namespace Composition

variable {o : Options} {sheet : String} {ctx : CellContext} {f : Field} {l : ColumnLayout} {declared : List Value}
  {parts : List Part}

/-! ### The rule that is preferred -/

private theorem rank?_of_exact {part : Part} (h : part.Exact o sheet ctx declared) :
    decide (part.rank? = some 0) = part.directive.reference?.isSome ∧
      decide (part.rank? = some 1) = (part.directive.source? .enum).isSome ∧
      decide (part.rank? = some 2) = (part.directive.source? .boolean).isSome ∧
      decide (part.rank? = some 3) = part.directive.isRange := by
  have hnative : part.native.isNone = !(part.directive.isList || part.directive.isRange) := by
    rw [← h.native_isSome, Option.not_isSome]
  unfold Part.rank?
  rw [hnative]
  cases part.directive with
  | list origin source =>
    cases origin <;> simp [Directive.isList, Directive.isRange, Directive.reference?, Directive.source?]
  | _ => simp [Directive.isList, Directive.isRange, Directive.reference?, Directive.source?]

private theorem findIdx?_directive {q : Part → Bool} {q' : Directive → Bool}
    (h : ∀ part ∈ parts, q part = q' part.directive) : parts.findIdx? q = (parts.map (·.directive)).findIdx? q' := by
  calc parts.findIdx? q
    _ = (parts.map q).findIdx? id := (List.findIdx?_map (p := id)).symm
    _ = (parts.map fun part => q' part.directive).findIdx? id := by rw [List.map_congr_left h]
    _ = parts.findIdx? fun part => q' part.directive := List.findIdx?_map
    _ = (parts.map (·.directive)).findIdx? q' := List.findIdx?_map.symm

private theorem findIdx?_offered (offered : Bool) (q : Directive → Bool) (ds : List Directive) :
    ds.findIdx? (fun d => offered && q d) = if offered then ds.findIdx? q else none := by
  cases offered with
  | true => rfl
  | false => exact List.findIdx?_eq_none_iff.2 fun _ _ => rfl

private theorem preferred?_eq (hexact : ∀ part ∈ parts, part.Exact o sheet ctx declared) :
    ([0, 1, 2, 3].findSome? fun rank => parts.findIdx? fun p =>
      (o.dropdowns || !p.directive.isList) && p.rank? = some rank) = Directive.preferred? o (parts.map (·.directive)) := by
  have hlist : ∀ (rank : Nat) (q : Directive → Bool), (∀ d, q d = true → d.isList = true) →
      (∀ part ∈ parts, decide (part.rank? = some rank) = q part.directive) →
      parts.findIdx? (fun p => (o.dropdowns || !p.directive.isList) && p.rank? = some rank) =
        if o.dropdowns then (parts.map (·.directive)).findIdx? q else none := by
    intro rank q hq hrank
    rw [← findIdx?_offered]
    refine findIdx?_directive fun part hpart => ?_
    rw [hrank part hpart]
    cases hd : q part.directive with
    | true => simp [hq _ hd]
    | false => simp
  have hrange : parts.findIdx? (fun p => (o.dropdowns || !p.directive.isList) && p.rank? = some 3) =
      (parts.map (·.directive)).findIdx? (·.isRange) := by
    refine findIdx?_directive fun part hpart => ?_
    rw [(rank?_of_exact (hexact part hpart)).2.2.2]
    cases part.directive <;> simp [Directive.isRange, Directive.isList]
  have hreference := hlist 0 (·.reference?.isSome) (fun d => by cases d <;> simp [Directive.reference?, Directive.isList])
    fun part hpart => (rank?_of_exact (hexact part hpart)).1
  have henum := hlist 1 (fun d => (d.source? .enum).isSome)
    (fun d => by cases d <;> simp [Directive.source?, Directive.isList])
    fun part hpart => (rank?_of_exact (hexact part hpart)).2.1
  have hboolean := hlist 2 (fun d => (d.source? .boolean).isSome)
    (fun d => by cases d <;> simp [Directive.source?, Directive.isList])
    fun part hpart => (rank?_of_exact (hexact part hpart)).2.2.1
  simp only [List.findSome?_cons, hreference, henum, hboolean, hrange, List.findSome?_nil, Directive.preferred?]
  generalize List.findIdx? _ _ = a
  generalize List.findIdx? _ _ = b
  generalize List.findIdx? _ _ = c
  generalize List.findIdx? _ _ = d
  cases o.dropdowns <;> cases a <;> cases b <;> cases c <;> cases d <;> rfl

/-! ### What else there is -/

section Faithful

variable (hparts : ∀ part ∈ parts, part.Faithful o sheet ctx)
include hparts

theorem alone_iff (i : Nat) : Alone parts i ↔ Directive.ofValues o ((parts.map (·.directive)).eraseIdx i) = [] := by
  simp only [Alone, Directive.ofValues, Directive.enforced, List.eraseIdx_map, List.filter_filter, List.filter_eq_nil_iff,
    List.forall_mem_map, List.mem_eraseIdx_iff_getElem?]
  constructor
  · rintro halone part ⟨j, hne, hj⟩
    rw [← (hparts part (List.mem_of_getElem? hj)).enforced_eq]
    rcases (halone j part hj).resolve_left hne with hfalse | hrequired
    · simp [hfalse]
    · simp [hrequired]
  · intro hnone j part hj
    by_cases hne : j = i
    · exact .inl hne
    · have hpart := hnone part ⟨j, hne, hj⟩
      rw [← (hparts part (List.mem_of_getElem? hj)).enforced_eq] at hpart
      by_cases hrequired : part.directive = .required
      · exact .inr (.inr hrequired)
      · exact .inr (.inl (by simpa [hrequired] using hpart))

theorem primary?_eq_some_iff (hexact : ∀ part ∈ parts, part.Exact o sheet ctx declared) (i : Nat) :
    primary? o parts = some i ↔ ∃ d, Directive.StaysNative o (parts.map (·.directive)) i d := by
  unfold primary?
  rw [preferred?_eq hexact]
  simp only [Option.bind_eq_bind, Option.bind_eq_some_iff, Option.ite_none_right_eq_some, Option.some.injEq,
    Bool.or_eq_true, Bool.and_eq_true, all_zipIdx_iff, alone_iff hparts]
  constructor
  · rintro ⟨k, hk, part, hpart, hcarried, rfl⟩
    exact ⟨part.directive, hk, by rw [List.getElem?_map, hpart, Option.map_some], hcarried⟩
  · rintro ⟨d, hd⟩
    obtain ⟨part, hpart, rfl⟩ := Option.map_eq_some_iff.1 (List.getElem?_map .. ▸ hd.get)
    exact ⟨i, hd.preferred, part, hpart, hd.carried, rfl⟩

/-! ### What is joined -/

omit hparts in
private theorem flatMap_checks (hexact : ∀ part ∈ parts, part.Exact o sheet ctx declared) :
    parts.flatMap (·.checks) = (parts.map (·.directive)).flatMap (·.checks o.profile sheet ctx declared) := by
  rw [List.flatMap_map]
  exact List.flatMap_congr fun part hpart => (hexact part hpart).checks_eq

private theorem directives_enforced :
    (parts.filter (·.enforced)).map (·.directive) = Directive.enforced o (parts.map (·.directive)) := by
  rw [Directive.enforced, List.filter_map]
  exact congrArg _ (List.filter_congr fun part hpart => (hparts part hpart).enforced_eq)

theorem enforced_eq (hexact : ∀ part ∈ parts, part.Exact o sheet ctx declared) : enforced parts =
    (Directive.enforced o (parts.map (·.directive))).flatMap (·.checks o.profile sheet ctx declared) := by
  rw [enforced, flatMap_checks fun part hpart => hexact part (List.mem_filter.1 hpart).1, directives_enforced hparts]

theorem rest_none_eq (hexact : ∀ part ∈ parts, part.Exact o sheet ctx declared) : rest none parts =
    (Directive.ofValues o (parts.map (·.directive))).flatMap (·.checks o.profile sheet ctx declared) := by
  have hvalues : ((parts.filter (·.enforced)).filter (!·.isRequired)).map (·.directive) =
      Directive.ofValues o (parts.map (·.directive)) := by
    rw [Directive.ofValues, ← directives_enforced hparts, List.filter_map]
    refine congrArg _ (List.filter_congr fun part _ => ?_)
    simp [Part.isRequired]
  rw [rest_none, flatMap_checks fun part hpart => hexact part (List.mem_filter.1 (List.mem_filter.1 hpart).1).1, hvalues]

/-- A requirement is joined last, but it stands first in any case. -/
theorem conditions?_rest_none (polarity : Polarity) : Check.conditions? polarity ctx.cell
    (rest none parts ++ (parts.filter (·.isRequired)).flatMap (·.checks)) =
      Check.conditions? polarity ctx.cell (enforced parts) := by
  have hguarded : ∀ ps ⊆ parts,
      (ps.flatMap (·.checks)).filter (·.ignoresBlank) = (ps.filter (!·.isRequired)).flatMap (·.checks) := fun ps hps =>
    filter_flatMap_of_forall fun part hpart c hc => (hparts part (hps hpart)).ignoresBlank_eq c hc
  have hopen : ∀ ps ⊆ parts,
      (ps.flatMap (·.checks)).filter (!·.ignoresBlank) = (ps.filter (·.isRequired)).flatMap (·.checks) := fun ps hps =>
    filter_flatMap_of_forall fun part hpart c hc => by rw [(hparts part (hps hpart)).ignoresBlank_eq c hc, Bool.not_not]
  have henforced : parts.filter (·.enforced) ⊆ parts := List.filter_subset_self _
  have hrest : (parts.filter (·.enforced)).filter (!·.isRequired) ++ parts.filter (·.isRequired) ⊆ parts :=
    List.append_subset.2 ⟨List.Subset.trans (List.filter_subset_self _) henforced, List.filter_subset_self _⟩
  rw [rest_none, ← List.flatMap_append, enforced]
  refine Check.conditions?_congr ?_ ?_
  · rw [hguarded _ hrest, hguarded _ henforced]
    simp [List.filter_filter]
  · have hlast : ((parts.filter (·.enforced)).filter (!·.isRequired) ++ parts.filter (·.isRequired)).filter (·.isRequired) =
        parts.filter (·.isRequired) := by
      simp +contextual [List.filter_filter]
    have hinside : (parts.filter (·.enforced)).filter (·.isRequired) = parts.filter (·.isRequired) := by
      rw [List.filter_filter]
      refine List.filter_congr fun part hpart => ?_
      by_cases hrequired : part.directive = .required
      · simp [(hparts part hpart).enforced_eq, hrequired, Directive.isEnforced, Directive.reference?]
      · simp [Part.isRequired, hrequired]
    rw [hopen _ hrest, hopen _ henforced, hlast, hinside]

/-! ### Columns -/

theorem flatMap_checks_eq_nil (hexact : ∀ part ∈ parts, part.Exact o sheet ctx declared) {ds : List Directive}
    (hds : ds ⊆ parts.map (·.directive)) : ds.flatMap (·.checks o.profile sheet ctx declared) = [] ↔ ds = [] := by
  rw [List.flatMap_eq_nil_iff]
  refine ⟨fun h => List.eq_nil_iff_forall_not_mem.2 fun d hd => ?_, fun h => by simp [h]⟩
  obtain ⟨part, hpart, rfl⟩ := List.mem_map.1 (hds hd)
  exact (hparts part hpart).checks_ne ((hexact part hpart).checks_eq.trans (h _ hd))

private theorem native_column (hexact : ∀ part ∈ parts, part.Exact o sheet ctx declared) {i : Nat} {d : Directive}
    (h : Directive.StaysNative o (parts.map (·.directive)) i d) :
    ∃ rule, (column o ctx f l parts).rule = some rule ∧ rule.kind.States d ∧ rule.showError = d.isEnforced o ∧
      rule.showDropdown = d.isList ∧ (column o ctx f l parts).companion =
        Directive.combined? o sheet ctx declared .valid (Directive.ofValues o ((parts.map (·.directive)).eraseIdx i)) := by
  obtain ⟨part, hi, rfl⟩ := Option.map_eq_some_iff.1 (List.getElem?_map .. ▸ h.get)
  have hprimary := (primary?_eq_some_iff hparts hexact i).2 ⟨_, h⟩
  have hpart := hparts part (List.mem_of_getElem? hi)
  obtain ⟨native, hnative⟩ := exists_native_of_primary? hprimary hi
  have hrest : rest (some i) parts = (Directive.ofValues o ((parts.map (·.directive)).eraseIdx i)).flatMap
      (·.checks o.profile sheet ctx declared) := by
    rw [rest_some, rest_none_eq (fun other hother => hparts other (List.mem_of_mem_eraseIdx hother))
      fun other hother => hexact other (List.mem_of_mem_eraseIdx hother), List.eraseIdx_map]
  simp only [column, hprimary, rule?, bareRule?, Option.bind_some, hi, hnative, Option.map_some, companion?,
    Option.isSome_some, if_true, hrest]
  exact ⟨_, rfl, hpart.states native hnative, hpart.enforced_eq, rfl, rfl⟩

private theorem custom_column (hexact : ∀ part ∈ parts, part.Exact o sheet ctx declared)
    (h : ∀ i d, ¬Directive.StaysNative o (parts.map (·.directive)) i d) :
    (column o ctx f l parts).companion = none ∧
      (column o ctx f l parts).rule.map (·.kind) = (Directive.combined? o sheet ctx declared .valid
        (Directive.enforced o (parts.map (·.directive)))).map .custom ∧
      ∀ rule, (column o ctx f l parts).rule = some rule → rule.showError = true ∧ rule.showDropdown = false := by
  have hprimary : primary? o parts = none := by
    rw [Option.eq_none_iff_forall_ne_some]
    intro i hi
    obtain ⟨d, hd⟩ := (primary?_eq_some_iff hparts hexact i).1 hi
    exact h i d hd
  have hjoint : Check.conditions? .valid ctx.cell (rest none parts ++ (parts.filter (·.isRequired)).flatMap (·.checks)) =
      Directive.combined? o sheet ctx declared .valid (Directive.enforced o (parts.map (·.directive))) := by
    rw [conditions?_rest_none hparts, enforced_eq hparts hexact]
    rfl
  simp only [column, hprimary, rule?, bareRule?, Option.bind_none, companion?, hjoint, Option.map_map]
  refine ⟨rfl, rfl, fun rule hrule => ?_⟩
  obtain ⟨_, _, rfl⟩ := Option.map_eq_some_iff.1 hrule
  exact ⟨rfl, rfl⟩

omit hparts in
private theorem allowBlank_bareRule? {primary : Option Nat} {rule : Rule} (h : bareRule? ctx parts primary = some rule) :
    rule.allowBlank = !parts.any (·.isRequired) := by
  unfold bareRule? at h
  split at h
  · obtain ⟨_, _, rfl⟩ := Option.map_eq_some_iff.1 h
    rfl
  · obtain ⟨_, _, rfl⟩ := Option.map_eq_some_iff.1 h
    rfl

/-- A column that is composed of parts is decided from their directives. -/
theorem decided_column (hexact : ∀ part ∈ parts, part.Exact o sheet ctx declared) {required : Bool}
    (hrequired : parts.any (·.isRequired) = required) :
    (column o ctx f l parts).Decided o sheet ctx declared required := by
  have hdirectives : (column o ctx f l parts).directives = parts.map (·.directive) := directives_column
  have henforced := enforced_eq hparts hexact
  have hrule : ∀ rule, (column o ctx f l parts).rule = some rule → rule.allowBlank = !required ∧
      rule.errorStyle = o.errorStyle ∧
      rule.message = if (enforced parts).isEmpty then "" else Check.describe (enforced parts) := by
    intro rule hrule
    obtain ⟨bare, hbare, rfl⟩ := Option.map_eq_some_iff.1 hrule
    have hblank := allowBlank_bareRule? hbare
    exact ⟨hblank.trans (by rw [hrequired]), rfl, rfl⟩
  exact {
    native := fun i d h => by
      rw [hdirectives] at h ⊢
      exact native_column hparts hexact h
    custom := fun h => by
      rw [hdirectives] at h ⊢
      exact custom_column hparts hexact h
    highlight_eq := by
      rw [hdirectives, Directive.combined?, ← henforced]
      rfl
    combined_eq_none := fun polarity ds hds => by
      rw [Directive.combined?, Check.conditions?_eq, ← flatMap_checks_eq_nil hparts hexact (hdirectives ▸ hds)]
      simp
    allowBlank_eq := fun rule h => (hrule rule h).1
    errorStyle_eq := fun rule h => (hrule rule h).2.1
    message_eq := fun rule h => by
      have hempty : (enforced parts).isEmpty = (Directive.enforced o (parts.map (·.directive))).isEmpty := by
        rw [Bool.eq_iff_iff, List.isEmpty_iff, List.isEmpty_iff, henforced]
        exact flatMap_checks_eq_nil hparts hexact (List.filter_subset_self _)
      rw [hdirectives, ← henforced, ← hempty]
      exact (hrule rule h).2.2 }

end Faithful

end Composition

end SheetTemplate
