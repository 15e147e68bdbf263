import SheetTemplate.Formula.Check

/-!
# The terms of a joint formula

Checks are joined by AND in their valid form and by OR in their invalid form, those that ignore blank cells
behind one test for a blank. Reading a joint formula undoes this: its terms are the forms of the checks
that were joined. The reading looks at the formula alone, so it also tells what a formula says that was
put together elsewhere.
-/

namespace SheetTemplate

/-- The function that joins checks in a form: all of them hold, or one of them fails. -/
def Polarity.joint : Polarity → SheetFunction
  | .valid => .and
  | .invalid => .or

namespace Formula

def operands (function : SheetFunction) : Formula → List Formula
  | .call f arguments => if f = function then arguments else [.call f arguments]
  | f => [f]

/-- What a formula says of a cell that is not blank, where it passes over blank ones. -/
def behindBlank (polarity : Polarity) (cell : String) : Formula → Formula
  | .call .ifElse [.call .isBlank [.atom x], .atom onBlank, f] =>
    if x = cell ∧ onBlank = (if polarity = .valid then "TRUE" else "FALSE") then f
    else .call .ifElse [.call .isBlank [.atom x], .atom onBlank, f]
  | f => f

/-- The terms of a joint formula: the conjuncts of a valid form, the alternatives of an invalid one. -/
def terms (polarity : Polarity) (cell : String) (f : Formula) : List Formula :=
  (f.operands polarity.joint).flatMap fun g => (g.behindBlank polarity cell).operands polarity.joint

def Simple (polarity : Polarity) (cell : String) (f : Formula) : Prop :=
  f.operands polarity.joint = [f] ∧ f.behindBlank polarity cell = f

theorem operands_merge {function : SheetFunction} {fs : List Formula} (hne : fs ≠ [])
    (h : ∀ f ∈ fs, f.operands function = [f]) : (merge function fs).operands function = fs := by
  match fs, hne with
  | [f], _ => exact h f List.mem_cons_self
  | f :: g :: rest, _ => exact if_pos rfl

end Formula

namespace Check

theorem conditions?_eq (polarity : Polarity) (cell : String) (checks : List Check) :
    conditions? polarity cell checks = if checks.isEmpty then none else
      some (.merge polarity.joint ((checks.filter (!·.ignoresBlank)).map (·.form polarity) ++
        if (checks.filter (·.ignoresBlank)).isEmpty then [] else [.call .ifElse [.apply .isBlank (.atom cell),
          .ofBool (polarity = .valid), .merge polarity.joint ((checks.filter (·.ignoresBlank)).map (·.form polarity))]])) := by
  cases polarity <;> rfl

private theorem guard_simple (polarity : Polarity) (cell : String) (f : Formula) :
    let guard := Formula.call .ifElse [.apply .isBlank (.atom cell), .ofBool (polarity = .valid), f]
    guard.operands polarity.joint = [guard] ∧ guard.behindBlank polarity cell = f := by
  cases polarity with
  | valid => exact ⟨rfl, if_pos ⟨rfl, rfl⟩⟩
  | invalid => exact ⟨rfl, if_pos ⟨rfl, rfl⟩⟩

private theorem flatMap_simple {polarity : Polarity} {cell : String} {fs : List Formula}
    (h : ∀ f ∈ fs, f.Simple polarity cell) :
    fs.flatMap (fun f => (f.behindBlank polarity cell).operands polarity.joint) = fs := by
  induction fs with
  | nil => rfl
  | cons f fs ih =>
    obtain ⟨hf, hfs⟩ := List.forall_mem_cons.1 h
    rw [List.flatMap_cons, hf.2, hf.1, ih hfs]
    rfl

/-- The terms of joint checks are their forms: first of those that look at blank cells, then of the others. -/
theorem terms_conditions? {polarity : Polarity} {cell : String} {checks : List Check} {f : Formula}
    (h : conditions? polarity cell checks = some f) (hsimple : ∀ c ∈ checks, (c.form polarity).Simple polarity cell) :
    f.terms polarity cell = (checks.filter (!·.ignoresBlank)).map (·.form polarity) ++
      (checks.filter (·.ignoresBlank)).map (·.form polarity) := by
  have hforms : ∀ keep : Check → Bool, ∀ f ∈ (checks.filter keep).map (·.form polarity), f.Simple polarity cell := by
    intro keep f hf
    obtain ⟨c, hc, rfl⟩ := List.mem_map.1 hf
    exact hsimple c (List.mem_filter.1 hc).1
  rw [conditions?_eq] at h
  split at h
  · cases h
  rename_i hne
  rw [Option.some.injEq] at h
  obtain ⟨hopen, hguarded⟩ := And.intro (hforms (!·.ignoresBlank)) (hforms (·.ignoresBlank))
  -- Without checks that ignore blank cells there is no guard.
  by_cases hnone : checks.filter (·.ignoresBlank) = []
  · have hall : checks.filter (!·.ignoresBlank) = checks := by
      rw [List.filter_eq_self]
      intro c hc
      simpa using List.filter_eq_nil_iff.1 hnone c hc
    simp only [hnone, List.isEmpty_nil, if_true, List.append_nil, List.map_nil] at h ⊢
    rw [← h, Formula.terms, Formula.operands_merge (by rw [hall]; simpa using hne) fun f hf => (hopen f hf).1,
      flatMap_simple hopen]
  · obtain ⟨hsplit, hbehind⟩ := guard_simple polarity cell
      (.merge polarity.joint ((checks.filter (·.ignoresBlank)).map (·.form polarity)))
    rw [if_neg (by simpa using hnone)] at h
    rw [← h, Formula.terms, Formula.operands_merge (by simp)
      (List.forall_mem_append.2 ⟨fun f hf => (hopen f hf).1, List.forall_mem_singleton.2 hsplit⟩),
      List.flatMap_append, flatMap_simple hopen, List.flatMap_singleton, hbehind,
      Formula.operands_merge (by simpa using hnone) fun f hf => (hguarded f hf).1]

theorem isSome_conditions? {polarity : Polarity} {cell : String} {checks : List Check} (hne : checks ≠ []) :
    ∃ f, conditions? polarity cell checks = some f := by
  simp [conditions?, hne]

theorem form_mem_terms {polarity : Polarity} {cell : String} {checks : List Check} {f : Formula}
    (h : conditions? polarity cell checks = some f) (hsimple : ∀ c ∈ checks, (c.form polarity).Simple polarity cell)
    {c : Check} (hc : c ∈ checks) : c.form polarity ∈ f.terms polarity cell := by
  rw [terms_conditions? h hsimple, List.mem_append]
  cases hblank : c.ignoresBlank with
  | false => exact .inl (List.mem_map_of_mem (List.mem_filter.2 ⟨hc, by simp [hblank]⟩))
  | true => exact .inr (List.mem_map_of_mem (List.mem_filter.2 ⟨hc, hblank⟩))

theorem exists_form_of_mem_terms {polarity : Polarity} {cell : String} {checks : List Check} {f g : Formula}
    (h : conditions? polarity cell checks = some f) (hsimple : ∀ c ∈ checks, (c.form polarity).Simple polarity cell)
    (hg : g ∈ f.terms polarity cell) : ∃ c ∈ checks, c.form polarity = g := by
  rw [terms_conditions? h hsimple, List.mem_append] at hg
  rcases hg with hg | hg
  · obtain ⟨c, hc, hform⟩ := List.mem_map.1 hg
    exact ⟨c, (List.mem_filter.1 hc).1, hform⟩
  · obtain ⟨c, hc, hform⟩ := List.mem_map.1 hg
    exact ⟨c, (List.mem_filter.1 hc).1, hform⟩

end Check

end SheetTemplate
