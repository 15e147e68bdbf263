import SheetTemplate.Proofs.Column.Parts

/-!
# What a column reports

Every enforced part of a column is reported by the highlight or by a rule that raises alerts, except in one
kind of column. A reference that is not validated is still offered as a list, and without a highlight its rule
is all a column has; a requirement beside it is then left to a rule that raises no alert.
-/

namespace SheetTemplate

def Directive.Within (p : Profile) (sheet : String) (ctx : CellContext) (polarity : Polarity) (d : Directive)
    (f : Formula) : Prop :=
  d.forms p sheet ctx polarity ≠ [] ∧ ∀ g ∈ d.forms p sheet ctx polarity, g ∈ f.terms polarity ctx.cell

/-- How a column reports the values that fail a directive. -/
inductive Column.Reports (o : Options) (sheet : String) (ctx : CellContext) (c : Column) (d : Directive) : Prop
  /-- They are highlighted. -/
  | highlighted {f : Formula} (highlight : c.highlight = some f) (within : d.Within o.profile sheet ctx .invalid f)
  | refused {rule : Rule} (ofColumn : c.rule = some rule) (alerts : rule.showError = true) (required : d = .required)
    (blank : rule.allowBlank = false)
  | stated {rule : Rule} (ofColumn : c.rule = some rule) (alerts : rule.showError = true) (states : rule.kind.States d)
  /-- The formula of the rule says so. -/
  | conjoined {rule : Rule} {f : Formula} (ofColumn : c.rule = some rule) (alerts : rule.showError = true)
    (custom : rule.kind = .custom f) (within : d.Within o.profile sheet ctx .valid f)

/-- A column with a requirement, a reference that is offered but not validated, and nothing else to enforce,
where invalid cells are not highlighted. -/
structure Muted (o : Options) (checks : List CompiledCheck) : Prop where
  plain : o.highlightInvalid = false
  offered : o.dropdowns = true
  unvalidated : o.validateForeignKeys = false
  required : ∃ check ∈ checks, check.directive = .required
  reference : ∃ check ∈ checks, check.directive.reference?.isSome
  rest : ∀ check ∈ checks, check.directive = .required ∨ check.directive.reference?.isSome

namespace Composition

variable {o : Options} {sheet : String} {ctx : CellContext} {f : Field} {l : ColumnLayout} {parts : List Part}

theorem directives_column : (column o ctx f l parts).checks.map (·.directive) = parts.map (·.directive) := by
  calc (column o ctx f l parts).checks.map (·.directive)
    _ = (parts.zipIdx.map Prod.fst).map (·.directive) := by
      rw [column, compiledChecks, List.map_map, List.map_map]
      rfl
    _ = parts.map (·.directive) := by rw [List.zipIdx_map_fst]

/-! ### The part that becomes the rule -/

theorem rank?_eq_zero_iff {p : Part} : p.rank? = some 0 ↔ p.native.isSome ∧ p.directive.reference?.isSome := by
  unfold Part.rank?
  cases p.native with
  | none => simp
  | some rule =>
    simp only [Option.isNone_some, Bool.false_eq_true, if_false, Option.isSome_some, true_and]
    split <;> simp_all [Directive.reference?]

theorem isSome_native_of_rank? {p : Part} {rank : Nat} (h : p.rank? = some rank) : p.native.isSome := by
  unfold Part.rank? at h
  cases hnative : p.native with
  | none => simp [hnative] at h
  | some rule => rfl

/-- The parts other than one ask for no carrier but its rule. -/
def Alone (parts : List Part) (i : Nat) : Prop :=
  ∀ j p, parts[j]? = some p → j = i ∨ p.enforced = false ∨ p.directive = .required

theorem all_zipIdx_iff (parts : List Part) (i : Nat) :
    (parts.zipIdx.all fun (p, j) => j = i || !p.enforced || p.isRequired) = true ↔ Alone parts i := by
  simp only [List.all_eq_true, Prod.forall, List.mk_mem_zipIdx_iff_getElem?, Bool.or_eq_true, decide_eq_true_eq,
    Bool.not_eq_true', Part.isRequired, Alone, or_assoc]
  exact ⟨fun h j p => h p j, fun h p j => h j p⟩

theorem primary?_eq_some {i : Nat} (h : primary? o parts = some i) :
    ∃ part, parts[i]? = some part ∧ part.native.isSome ∧ (part.directive.isList = true → o.dropdowns = true) ∧
      (o.highlightInvalid = false → Alone parts i) := by
  unfold primary? at h
  obtain ⟨k, hk, h⟩ := Option.bind_eq_some_iff.1 h
  obtain ⟨part, hpart, h⟩ := Option.bind_eq_some_iff.1 h
  obtain ⟨rank, _, hfind⟩ := List.exists_of_findSome?_eq_some hk
  obtain ⟨hlt, hrank, _⟩ := List.findIdx?_eq_some_iff_getElem.1 hfind
  have hget : parts[k] = part := Option.some.inj ((List.getElem?_eq_getElem hlt).symm.trans hpart)
  rw [hget, Bool.and_eq_true, Bool.or_eq_true, Bool.not_eq_true', decide_eq_true_eq] at hrank
  simp only [Option.ite_none_right_eq_some, Option.some.injEq, Bool.or_eq_true] at h
  obtain ⟨hcarried, rfl⟩ := h
  refine ⟨part, hpart, isSome_native_of_rank? hrank.2, fun hlist => ?_, fun hplain => ?_⟩
  · exact hrank.1.resolve_right (by simp [hlist])
  rcases hcarried with halone | hlist
  · exact (all_zipIdx_iff parts k).1 halone
  · rw [hplain, Bool.and_false] at hlist
    cases hlist

theorem exists_native_of_primary? {i : Nat} {part : Part} (h : primary? o parts = some i) (hi : parts[i]? = some part) :
    ∃ native, part.native = some native := by
  obtain ⟨other, hother, hsome, _⟩ := primary?_eq_some h
  obtain rfl : part = other := Option.some.inj (hi.symm.trans hother)
  exact Option.isSome_iff_exists.1 hsome

/-- Of parts that can be left to a list, a reference that may be offered becomes the rule. -/
theorem primary?_of_reference (hoffered : o.dropdowns = true) (hexists : ∃ p ∈ parts, p.rank? = some 0)
    (halone : ∀ i, Alone parts i) : ∃ i part, primary? o parts = some i ∧ parts[i]? = some part ∧ part.rank? = some 0 := by
  obtain ⟨p, hp, hrank⟩ := hexists
  cases hfind : parts.findIdx? fun p => (o.dropdowns || !p.directive.isList) && p.rank? = some 0 with
  | none =>
    have hnot := List.findIdx?_eq_none_iff.1 hfind p hp
    simp [hoffered, hrank] at hnot
  | some i =>
    obtain ⟨hlt, hfirst, _⟩ := List.findIdx?_eq_some_iff_getElem.1 hfind
    rw [Bool.and_eq_true, decide_eq_true_eq] at hfirst
    refine ⟨i, parts[i], ?_, List.getElem?_eq_getElem hlt, hfirst.2⟩
    simp only [primary?, List.findSome?_cons, hfind, Option.bind_eq_bind, Option.bind_some, List.getElem?_eq_getElem hlt,
      (all_zipIdx_iff parts i).2 (halone i), Bool.true_or, if_true]

/-! ### What is joined in formulas -/

theorem mem_enforced {c : Check} : c ∈ enforced parts ↔ ∃ part ∈ parts, part.enforced = true ∧ c ∈ part.checks := by
  simp only [enforced, List.mem_flatMap, List.mem_filter, and_assoc]

theorem mem_rest_none {c : Check} :
    c ∈ rest none parts ↔ ∃ part ∈ parts, part.enforced = true ∧ part.isRequired = false ∧ c ∈ part.checks := by
  simp only [rest, List.mem_flatMap, List.mem_filter, Prod.exists, List.mk_mem_zipIdx_iff_getElem?, Bool.and_eq_true,
    Bool.not_eq_true', decide_eq_true_eq, ne_eq, reduceCtorEq, not_false_eq_true, and_true]
  constructor
  · intro h
    obtain ⟨part, i, ⟨hi, henforced, hrequired⟩, hc⟩ := h
    exact ⟨part, List.mem_of_getElem? hi, henforced, hrequired, hc⟩
  · intro h
    obtain ⟨part, hpart, henforced, hrequired, hc⟩ := h
    obtain ⟨i, hi⟩ := List.getElem?_of_mem hpart
    exact ⟨part, i, ⟨hi, henforced, hrequired⟩, hc⟩

variable (hparts : ∀ part ∈ parts, part.Faithful o sheet ctx)
include hparts

theorem within_of_conditions? (polarity : Polarity) {checks : List Check}
    (hchecks : ∀ c ∈ checks, ∃ part ∈ parts, c ∈ part.checks) {part : Part} (hpart : part ∈ parts)
    (hsub : ∀ c ∈ part.checks, c ∈ checks) :
    ∃ g, Check.conditions? polarity ctx.cell checks = some g ∧ part.directive.Within o.profile sheet ctx polarity g := by
  have hfaithful := hparts part hpart
  obtain ⟨c, hc⟩ := List.exists_mem_of_ne_nil _ hfaithful.checks_ne
  obtain ⟨g, hg⟩ := Check.isSome_conditions? (List.ne_nil_of_mem (hsub c hc))
  have hsimple : ∀ c ∈ checks, (c.form polarity).Simple polarity ctx.cell := by
    intro c hc
    obtain ⟨other, hother, hmem⟩ := hchecks c hc
    exact (hparts other hother).simple polarity hmem
  refine ⟨g, hg, ?_, fun form hform => ?_⟩
  · rw [← hfaithful.forms_eq]
    exact fun hnil => hfaithful.checks_ne (List.map_eq_nil_iff.1 hnil)
  · rw [← hfaithful.forms_eq] at hform
    obtain ⟨c, hc, rfl⟩ := List.mem_map.1 hform
    exact Check.form_mem_terms hg hsimple (hsub c hc)

theorem highlight?_within (hhighlight : o.highlightInvalid = true) {part : Part} (hpart : part ∈ parts)
    (henforced : part.enforced = true) :
    ∃ g, highlight? o ctx parts = some g ∧ part.directive.Within o.profile sheet ctx .invalid g := by
  rw [highlight?, if_pos hhighlight]
  refine within_of_conditions? hparts .invalid (fun c hc => ?_) hpart fun c hc =>
    mem_enforced.2 ⟨part, hpart, henforced, hc⟩
  obtain ⟨other, hother, _, hmem⟩ := mem_enforced.1 hc
  exact ⟨other, hother, hmem⟩

theorem rule?_of_none {part : Part} (hpart : part ∈ parts) (henforced : part.enforced = true) :
    ∃ rule g, rule? o ctx parts none = some rule ∧ rule.showError = true ∧ rule.kind = .custom g ∧
      part.directive.Within o.profile sheet ctx .valid g := by
  have hmem : ∀ c ∈ rest none parts ++ (parts.filter (·.isRequired)).flatMap (·.checks),
      ∃ part ∈ parts, c ∈ part.checks := by
    intro c hc
    rcases List.mem_append.1 hc with hrest | hrequired
    · obtain ⟨other, hother, _, _, hmem⟩ := mem_rest_none.1 hrest
      exact ⟨other, hother, hmem⟩
    · obtain ⟨other, hother, hmem⟩ := List.mem_flatMap.1 hrequired
      exact ⟨other, (List.mem_filter.1 hother).1, hmem⟩
  have hsub : ∀ c ∈ part.checks, c ∈ rest none parts ++ (parts.filter (·.isRequired)).flatMap (·.checks) := by
    intro c hc
    rw [List.mem_append]
    cases hrequired : part.isRequired with
    | false => exact .inl (mem_rest_none.2 ⟨part, hpart, henforced, hrequired, hc⟩)
    | true => exact .inr (List.mem_flatMap.2 ⟨part, List.mem_filter.2 ⟨hpart, hrequired⟩, hc⟩)
  obtain ⟨g, hg, hwithin⟩ := within_of_conditions? hparts .valid hmem hpart hsub
  simp only [rule?, bareRule?, Option.bind_none, hg, Option.map_some]
  exact ⟨_, g, rfl, rfl, rfl, hwithin⟩

omit hparts in
theorem rule?_of_some (o : Options) (ctx : CellContext) {i : Nat} {part : Part} {native : Rule} (hi : parts[i]? = some part)
    (hnative : part.native = some native) :
    ∃ rule, rule? o ctx parts (some i) = some rule ∧ rule.kind = native.kind ∧ rule.showError = part.enforced ∧
      rule.allowBlank = !parts.any (·.isRequired) := by
  simp only [rule?, bareRule?, Option.bind_some, hi, hnative, Option.map_some]
  exact ⟨_, rfl, rfl, rfl, rfl⟩

/-! ### Columns -/

omit hparts in
theorem forall_check_iff (P : Directive → Prop) :
    (∀ check ∈ (column o ctx f l parts).checks, P check.directive) ↔ ∀ part ∈ parts, P part.directive := by
  calc (∀ check ∈ (column o ctx f l parts).checks, P check.directive)
    _ ↔ ∀ d ∈ (column o ctx f l parts).checks.map (·.directive), P d := List.forall_mem_map.symm
    _ ↔ ∀ d ∈ parts.map (·.directive), P d := by rw [directives_column]
    _ ↔ ∀ part ∈ parts, P part.directive := List.forall_mem_map

omit hparts in
theorem exists_check_iff (P : Directive → Prop) :
    (∃ check ∈ (column o ctx f l parts).checks, P check.directive) ↔ ∃ part ∈ parts, P part.directive := by
  simpa only [not_forall, not_not, exists_prop] using not_congr (forall_check_iff fun d => ¬P d)

omit hparts in
/-- A rule is a formula of all checks, or it is the list or the range of one of them. -/
theorem rule_cases (hnative : ∀ part ∈ parts, ∀ rule, part.native = some rule → rule.kind.States part.directive)
    {rule : Rule} (hrule : (column o ctx f l parts).rule = some rule) :
    (∃ g, rule.kind = .custom g ∧ Check.conditions? .valid ctx.cell
        (rest none parts ++ (parts.filter (·.isRequired)).flatMap (·.checks)) = some g) ∨
      ∃ check ∈ (column o ctx f l parts).checks, rule.kind.States check.directive := by
  change rule? o ctx parts (primary? o parts) = some rule at hrule
  cases hprimary : primary? o parts with
  | none =>
    rw [hprimary] at hrule
    simp only [rule?, bareRule?, Option.bind_none, Option.map_map, Option.map_eq_some_iff] at hrule
    obtain ⟨g, hg, rfl⟩ := hrule
    exact .inl ⟨g, rfl, hg⟩
  | some i =>
    obtain ⟨part, hi, hsome, _⟩ := primary?_eq_some hprimary
    obtain ⟨native, hnative'⟩ := Option.isSome_iff_exists.1 hsome
    obtain ⟨other, hother, hkind, _⟩ := rule?_of_some o ctx hi hnative'
    have hpart := List.mem_of_getElem? hi
    have hstates := hnative part hpart native hnative'
    rw [hprimary, hother, Option.some.injEq] at hrule
    rw [← hkind, hrule] at hstates
    exact .inr ((exists_check_iff rule.kind.States).2 ⟨part, hpart, hstates⟩)

omit hparts in
private theorem isList_of_reference? {d : Directive} (h : d.reference?.isSome) : d.isList = true := by
  cases d with
  | list => rfl
  | _ => simp [Directive.reference?] at h

private theorem reference_of_not_enforced {part : Part} (hpart : part ∈ parts) (h : part.enforced = false) :
    part.directive.reference?.isSome ∧ o.validateForeignKeys = false := by
  rw [(hparts part hpart).enforced_eq, Directive.isEnforced, Bool.or_eq_false_iff] at h
  exact ⟨by simpa [← Option.isSome_iff_ne_none] using h.1, h.2⟩

theorem muted_iff : Muted o (column o ctx f l parts).checks ↔
    o.highlightInvalid = false ∧ ∃ i part, primary? o parts = some i ∧ parts[i]? = some part ∧ part.enforced = false ∧
      ∃ p ∈ parts, p.directive = .required := by
  constructor
  · intro h
    obtain ⟨reference, hreference, hsome⟩ := (exists_check_iff fun d => d.reference?.isSome).1 h.reference
    -- A reference has the first rank, so one is chosen, and next to requirements and references it is alone.
    have hrank := rank?_eq_zero_iff.2 ⟨(hparts reference hreference).native_of_reference hsome, hsome⟩
    have hrest := (forall_check_iff fun d => d = .required ∨ d.reference?.isSome).1 h.rest
    have hunenforced : ∀ p ∈ parts, p.directive.reference?.isSome → p.enforced = false := by
      intro p hp hsome
      rw [(hparts p hp).enforced_eq, Directive.isEnforced, h.unvalidated, Bool.or_false]
      simpa using hsome
    have halone : ∀ i, Alone parts i := fun i j p hj =>
      have hp := List.mem_of_getElem? hj
      .inr ((hrest p hp).symm.imp_left (hunenforced p hp))
    obtain ⟨i, part, hprimary, hi, hzero⟩ := primary?_of_reference h.offered ⟨reference, hreference, hrank⟩ halone
    exact ⟨h.plain, i, part, hprimary, hi,
      hunenforced part (List.mem_of_getElem? hi) (rank?_eq_zero_iff.1 hzero).2, (exists_check_iff (· = .required)).1 h.required⟩
  · intro h
    obtain ⟨hplain, i, part, hprimary, hi, hunenforced, hrequired⟩ := h
    -- Only references are ever not enforced, so the part that becomes the rule is one.
    have hpart := List.mem_of_getElem? hi
    obtain ⟨hreference, hunvalidated⟩ := reference_of_not_enforced hparts hpart hunenforced
    obtain ⟨other, hother, _, hoffered, halone⟩ := primary?_eq_some hprimary
    rw [hi, Option.some.injEq] at hother
    subst hother
    refine ⟨hplain, hoffered (isList_of_reference? hreference), hunvalidated, (exists_check_iff (· = .required)).2 hrequired,
      (exists_check_iff fun d => d.reference?.isSome).2 ⟨part, hpart, hreference⟩,
      (forall_check_iff fun d => d = .required ∨ d.reference?.isSome).2 fun p hp => ?_⟩
    obtain ⟨j, hj⟩ := List.getElem?_of_mem hp
    rcases halone hplain j p hj with heq | hfalse | hrequired
    · rw [heq, hi, Option.some.injEq] at hj
      exact .inr (hj ▸ hreference)
    · exact .inr (reference_of_not_enforced hparts hp hfalse).1
    · exact .inl hrequired

/-- A column that is not muted reports every part that is enforced. -/
theorem reports_of_enforced (hnot : ¬Muted o (column o ctx f l parts).checks) {part : Part} (hpart : part ∈ parts)
    (henforced : part.enforced = true) : (column o ctx f l parts).Reports o sheet ctx part.directive := by
  cases hhighlight : o.highlightInvalid with
  | true =>
    obtain ⟨g, hg, hwithin⟩ := highlight?_within hparts hhighlight hpart henforced
    exact .highlighted hg hwithin
  | false =>
    cases hprimary : primary? o parts with
    | none =>
      obtain ⟨rule, g, hrule, halerts, hkind, hwithin⟩ := rule?_of_none hparts hpart henforced
      exact .conjoined (by rw [column, hprimary, hrule]) halerts hkind hwithin
    | some i =>
      obtain ⟨carrier, hi, hnative, _, halone⟩ := primary?_eq_some hprimary
      obtain ⟨native, hnative⟩ := Option.isSome_iff_exists.1 hnative
      have hcarrier := List.mem_of_getElem? hi
      obtain ⟨rule, hrule, hkind, halerts, hblank⟩ := rule?_of_some o ctx hi hnative
      have hcolumn : (column o ctx f l parts).rule = some rule := by rw [column, hprimary, hrule]
      have hshow : part.directive = .required → rule.showError = true := by
        intro hrequired
        rw [halerts, ← Bool.not_eq_false]
        exact fun hfalse => hnot ((muted_iff hparts).2 ⟨hhighlight, i, carrier, hprimary, hi, hfalse, part, hpart, hrequired⟩)
      -- The part is the rule, or it is a requirement that the rule meets by refusing blank cells.
      obtain ⟨j, hj⟩ := List.getElem?_of_mem hpart
      rcases halone hhighlight j part hj with heq | hfalse | hrequired
      · rw [heq, hi, Option.some.injEq] at hj
        subst hj
        exact .stated hcolumn (halerts.trans henforced) (hkind ▸ (hparts carrier hpart).states native hnative)
      · rw [henforced] at hfalse
        cases hfalse
      · refine .refused hcolumn (hshow hrequired) hrequired ?_
        rw [hblank, Bool.not_eq_false', List.any_eq_true]
        exact ⟨part, hpart, by simp [Part.isRequired, hrequired]⟩

/-- A muted column has a rule that raises no alert, and nothing else. -/
theorem silent_of_muted (h : Muted o (column o ctx f l parts).checks) :
    (column o ctx f l parts).highlight = none ∧
      ∃ rule, (column o ctx f l parts).rule = some rule ∧ rule.showError = false := by
  obtain ⟨hplain, i, part, hprimary, hi, hunenforced, _⟩ := (muted_iff hparts).1 h
  obtain ⟨native, hnative⟩ := exists_native_of_primary? hprimary hi
  obtain ⟨rule, hrule, _, halerts, _⟩ := rule?_of_some o ctx hi hnative
  exact ⟨by rw [column, highlight?, hplain]; rfl, rule, by rw [column, hprimary, hrule], halerts.trans hunenforced⟩

theorem reports_iff : (∀ check ∈ (column o ctx f l parts).checks, check.directive.isEnforced o = true →
    (column o ctx f l parts).Reports o sheet ctx check.directive) ↔ ¬Muted o (column o ctx f l parts).checks := by
  constructor
  · intro hreports hmuted
    obtain ⟨hhighlight, rule, hrule, hsilent⟩ := silent_of_muted hparts hmuted
    obtain ⟨check, hcheck, hrequired⟩ := hmuted.required
    have hreport := hreports check hcheck (by rw [hrequired]; rfl)
    cases hreport with
    | highlighted highlight _ => simp [hhighlight] at highlight
    | refused ofColumn alerts _ _ | stated ofColumn alerts _ | conjoined ofColumn alerts _ _ =>
      rw [hrule, Option.some.injEq] at ofColumn
      rw [← ofColumn, hsilent] at alerts
      cases alerts
  · intro hnot
    refine (forall_check_iff fun d => d.isEnforced o = true → (column o ctx f l parts).Reports o sheet ctx d).2 ?_
    intro part hpart henforced
    exact reports_of_enforced hparts hnot hpart ((hparts part hpart).enforced_eq.trans henforced)

theorem alerts_iff (hplain : o.highlightInvalid = false)
    (hexists : ∃ check ∈ (column o ctx f l parts).checks, check.directive.isEnforced o = true) :
    (∃ rule, (column o ctx f l parts).rule = some rule ∧ rule.showError = true) ↔
      ¬Muted o (column o ctx f l parts).checks := by
  constructor
  · intro h hmuted
    obtain ⟨rule, hrule, halerts⟩ := h
    obtain ⟨_, other, hother, hsilent⟩ := silent_of_muted hparts hmuted
    rw [hrule, Option.some.injEq] at hother
    rw [hother, hsilent] at halerts
    cases halerts
  · intro hnot
    obtain ⟨check, hcheck, henforced⟩ := hexists
    cases (reports_iff hparts).2 hnot check hcheck henforced with
    | highlighted highlight _ => simp [column, highlight?, hplain] at highlight
    | refused ofColumn alerts _ _ | stated ofColumn alerts _ | conjoined ofColumn alerts _ _ => exact ⟨_, ofColumn, alerts⟩

end Composition

end SheetTemplate
