import SheetTemplate.Proofs.Column.Terms
import SheetTemplate.Proofs.Formula.Legible

/-!
# Joint formulas are complementary

Checks are joined twice, to say that all of them hold and to say that one of them fails. Where each check objects to
what it does not let pass, so do all of them together. Only the check that requires a value does neither, for a blank
cell in a blank row.
-/

namespace SheetTemplate

/-- Of an excused cell neither formula is true; of any other cell one is true where the other is false. -/
structure Complementary (excused : Prop) (valid invalid : Bool) : Prop where
  neither : excused → valid = false ∧ invalid = false
  opposite : ¬excused → invalid = !valid

namespace Formula

variable {truth : Truth} {cell : String}

theorem holds_merge_and {fs : List Formula} (hne : fs ≠ []) :
    (merge .and fs).holds truth cell = true ↔ ∀ f ∈ fs, f.holds truth cell = true := by
  match fs, hne with
  | [f], _ => simp [merge]
  | f :: g :: rest, _ => simp [merge, holds, holdsAll_eq_map, Truth.ofCall]

theorem holds_merge_or {fs : List Formula} (hne : fs ≠ []) :
    (merge .or fs).holds truth cell = true ↔ ∃ f ∈ fs, f.holds truth cell = true := by
  match fs, hne with
  | [f], _ => simp [merge]
  | f :: g :: rest, _ => simp [merge, holds, holdsAll_eq_map, Truth.ofCall]

theorem render_isBlank (cell : String) : (apply .isBlank (.atom cell)).render = blankTest cell := rfl

theorem holds_ofBool (b : Bool) : (ofBool b).holds truth cell = b := by cases b <;> rfl

theorem holds_guard (onBlank : Bool) (f : Formula) :
    (call .ifElse [.apply .isBlank (.atom cell), .ofBool onBlank, f]).holds truth cell =
      if truth (blankTest cell) then onBlank else f.holds truth cell := by
  simp [holds, holdsAll, renderAll, Truth.ofCall, render_isBlank, holds_ofBool]

end Formula

namespace Check

variable {truth : Truth} {cell : String} {checks : List Check} {f g : Formula}

def Passes (truth : Truth) (cell : String) (c : Check) : Prop :=
  c.ignoresBlank = true ∧ truth (blankTest cell) = true ∨ c.valid.holds truth cell = true

def Objects (truth : Truth) (cell : String) (c : Check) : Prop :=
  ¬(c.ignoresBlank = true ∧ truth (blankTest cell) = true) ∧ c.invalid.holds truth cell = true

/-- What is joined: the forms of checks that look at blank cells, and behind one guard those of the others. -/
private theorem conditions?_eq_some {polarity : Polarity} (h : conditions? polarity cell checks = some f) :
    ∃ guard, f = .merge polarity.joint ((checks.filter (!·.ignoresBlank)).map (·.form polarity) ++ guard) ∧
      (checks.filter (!·.ignoresBlank)).map (·.form polarity) ++ guard ≠ [] ∧
      (checks.filter (·.ignoresBlank) = [] ∧ guard = [] ∨
        checks.filter (·.ignoresBlank) ≠ [] ∧ guard = [.call .ifElse [.apply .isBlank (.atom cell),
          .ofBool (polarity = .valid), .merge polarity.joint ((checks.filter (·.ignoresBlank)).map (·.form polarity))]]) := by
  rw [conditions?_eq] at h
  split at h
  · cases h
  rename_i hne
  cases h
  refine ⟨_, rfl, ?_⟩
  by_cases hguarded : checks.filter (·.ignoresBlank) = []
  · have hall : checks.filter (!·.ignoresBlank) = checks :=
      List.filter_eq_self.2 fun c hc => by simpa using List.filter_eq_nil_iff.1 hguarded c hc
    rw [if_pos (List.isEmpty_iff.2 hguarded), hall, List.append_nil]
    exact ⟨mt List.map_eq_nil_iff.1 (mt List.isEmpty_iff.2 hne), .inl ⟨hguarded, rfl⟩⟩
  · rw [if_neg (mt List.isEmpty_iff.1 hguarded)]
    exact ⟨List.append_ne_nil_of_right_ne_nil _ (List.cons_ne_nil _ _), .inr ⟨hguarded, rfl⟩⟩

private theorem forall_mem_forms {polarity : Polarity} {keep : Check → Bool} {P : Formula → Prop} :
    (∀ g ∈ (checks.filter keep).map (·.form polarity), P g) ↔ ∀ c ∈ checks, keep c = true → P (c.form polarity) := by
  simp only [List.forall_mem_map, List.mem_filter, and_imp]

private theorem exists_mem_forms {polarity : Polarity} {keep : Check → Bool} {P : Formula → Prop} :
    (∃ g ∈ (checks.filter keep).map (·.form polarity), P g) ↔ ∃ c ∈ checks, keep c = true ∧ P (c.form polarity) := by
  simp [List.mem_filter, and_assoc]

theorem holds_valid (h : conditions? .valid cell checks = some f) :
    f.holds truth cell = true ↔ ∀ c ∈ checks, c.Passes truth cell := by
  obtain ⟨guard, rfl, hne, hguard⟩ := conditions?_eq_some h
  -- The guard is true of a blank cell, whatever stands behind it.
  have hbehind : (∀ g ∈ guard, g.holds truth cell = true) ↔
      ∀ c ∈ checks, c.ignoresBlank = true → truth (blankTest cell) = true ∨ c.valid.holds truth cell = true := by
    rcases hguard with ⟨hnone, rfl⟩ | ⟨hsome, rfl⟩
    · simp only [List.not_mem_nil, false_implies, implies_true, true_iff]
      intro c hc hignores
      exact absurd hignores (List.filter_eq_nil_iff.1 hnone c hc)
    · rw [List.forall_mem_singleton, Formula.holds_guard]
      cases truth (blankTest cell) with
      | true => simp
      | false =>
        simp only [Bool.false_eq_true, if_false, false_or]
        exact (Formula.holds_merge_and (mt List.map_eq_nil_iff.1 hsome)).trans forall_mem_forms
  refine (Formula.holds_merge_and hne).trans ?_
  rw [List.forall_mem_append, hbehind, forall_mem_forms, ← forall₂_and]
  refine forall₂_congr fun c _ => ?_
  cases hignores : c.ignoresBlank with
  | true => simp [Passes, hignores]
  | false => simp [Passes, hignores, form]

theorem holds_invalid (h : conditions? .invalid cell checks = some f) :
    f.holds truth cell = true ↔ ∃ c ∈ checks, c.Objects truth cell := by
  obtain ⟨guard, rfl, hne, hguard⟩ := conditions?_eq_some h
  -- Here the guard is false of a blank cell.
  have hbehind : (∃ g ∈ guard, g.holds truth cell = true) ↔
      ∃ c ∈ checks, c.ignoresBlank = true ∧ truth (blankTest cell) = false ∧ c.invalid.holds truth cell = true := by
    rcases hguard with ⟨hnone, rfl⟩ | ⟨hsome, rfl⟩
    · simp only [List.not_mem_nil, false_and, exists_false, false_iff, not_exists, not_and]
      intro c hc hignores
      exact absurd hignores (List.filter_eq_nil_iff.1 hnone c hc)
    · simp only [List.mem_singleton, exists_eq_left, Formula.holds_guard]
      cases truth (blankTest cell) with
      | true => simp
      | false =>
        simp only [Bool.false_eq_true, if_false, true_and]
        exact (Formula.holds_merge_or (mt List.map_eq_nil_iff.1 hsome)).trans exists_mem_forms
  refine (Formula.holds_merge_or hne).trans ?_
  simp only [List.mem_append, or_and_right, exists_or]
  rw [hbehind, exists_mem_forms]
  simp only [← exists_or, ← and_or_left]
  refine exists_congr fun c => and_congr_right fun _ => ?_
  cases hignores : c.ignoresBlank with
  | true => simp [Objects, hignores]
  | false => simp [Objects, hignores, form]

/-! ### Opposed forms -/

/-- The two forms of a check are opposed for a cell: one is true where the other is false. A check that looks at
blank cells asks for a value and objects to a blank cell only in a row that is not blank. -/
def Opposed (truth : Truth) (cell : String) (blankRow : Bool) (c : Check) : Prop :=
  if c.ignoresBlank then c.invalid.holds truth cell = !c.valid.holds truth cell
  else c.valid.holds truth cell = !truth (blankTest cell) ∧
    c.invalid.holds truth cell = (truth (blankTest cell) && !blankRow)

variable {blankRow : Bool} {c : Check}

private theorem Opposed.neither (h : c.Opposed truth cell blankRow) (hblank : truth (blankTest cell) = true)
    (hrow : blankRow = true) : ¬c.Objects truth cell ∧ (c.ignoresBlank = false → ¬c.Passes truth cell) := by
  unfold Opposed at h
  cases hignores : c.ignoresBlank with
  | true => simp [Objects, hignores, hblank]
  | false =>
    rw [hignores, if_neg Bool.false_ne_true] at h
    simp [Objects, Passes, hignores, h, hblank, hrow]

private theorem Opposed.objects_iff (h : c.Opposed truth cell blankRow)
    (hnot : ¬(c.ignoresBlank = false ∧ truth (blankTest cell) = true ∧ blankRow = true)) :
    c.Objects truth cell ↔ ¬c.Passes truth cell := by
  unfold Opposed at h
  cases hignores : c.ignoresBlank with
  | true =>
    rw [hignores, if_pos rfl] at h
    simp [Objects, Passes, hignores, h]
  | false =>
    rw [hignores, if_neg Bool.false_ne_true] at h
    cases hblank : truth (blankTest cell) with
    | true =>
      have hrow : blankRow = false := by simpa [hignores, hblank] using hnot
      simp [Objects, Passes, hignores, h, hblank, hrow]
    | false => simp [Objects, Passes, hignores, h, hblank]

/-- All checks hold exactly where none fails, except where a value is required in a blank row. The order of the
checks does not matter, nor whether one is joined twice. -/
theorem complementary_conditions? {valids invalids : List Check} (hsame : ∀ c, c ∈ valids ↔ c ∈ invalids)
    (hf : conditions? .valid cell valids = some f) (hg : conditions? .invalid cell invalids = some g)
    (h : ∀ c ∈ invalids, c.Opposed truth cell blankRow) :
    Complementary ((∃ c ∈ invalids, c.ignoresBlank = false) ∧ truth (blankTest cell) = true ∧ blankRow = true)
      (f.holds truth cell) (g.holds truth cell) := by
  have hvalid : f.holds truth cell = true ↔ ∀ c ∈ invalids, c.Passes truth cell := by
    rw [holds_valid hf]
    exact forall_congr' fun c => by rw [hsame]
  have hinvalid : g.holds truth cell = true ↔ ∃ c ∈ invalids, c.Objects truth cell := holds_invalid hg
  constructor
  -- In a blank row the missing value does not pass, and no check objects.
  · rintro ⟨⟨c, hc, hrequired⟩, hblank, hrow⟩
    refine ⟨Bool.eq_false_iff.2 fun htrue => ?_, Bool.eq_false_iff.2 fun htrue => ?_⟩
    · exact ((h c hc).neither hblank hrow).2 hrequired (hvalid.1 htrue c hc)
    · obtain ⟨c, hc, hobjects⟩ := hinvalid.1 htrue
      exact ((h c hc).neither hblank hrow).1 hobjects
  · intro hnot
    have hobjects : ∀ c ∈ invalids, (c.Objects truth cell ↔ ¬c.Passes truth cell) := fun c hc =>
      (h c hc).objects_iff fun ⟨hrequired, hblank⟩ => hnot ⟨⟨c, hc, hrequired⟩, hblank⟩
    rw [Bool.eq_iff_iff, hinvalid, Bool.not_eq_true', ← Bool.not_eq_true, hvalid, not_forall₂]
    simp only [exists_prop]
    exact exists_congr fun c => and_congr_right (hobjects c)

theorem opposed_inLiterals {ctx : CellContext} {values : List Value} (hne : values ≠ [])
    (h : ∀ v ∈ values, (Formula.compare .notEqual ctx.value v.formula).holds truth cell =
      !(Formula.compare .equal ctx.value v.formula).holds truth cell) :
    (inLiterals ctx values).invalid.holds truth cell = !(inLiterals ctx values).valid.holds truth cell := by
  have hvalid : (inLiterals ctx values).valid.holds truth cell = true ↔
      ∃ v ∈ values, (Formula.compare .equal ctx.value v.formula).holds truth cell = true :=
    (Formula.holds_merge_or (mt List.map_eq_nil_iff.1 hne)).trans (by simp)
  have hinvalid : (inLiterals ctx values).invalid.holds truth cell = true ↔
      ∀ v ∈ values, (Formula.compare .notEqual ctx.value v.formula).holds truth cell = true :=
    (Formula.holds_merge_and (mt List.map_eq_nil_iff.1 hne)).trans (by simp)
  rw [Bool.eq_iff_iff, hinvalid, Bool.not_eq_true', ← Bool.not_eq_true, hvalid, not_exists]
  refine forall_congr' fun v => ?_
  rw [not_and]
  refine forall_congr' fun hv => ?_
  rw [h v hv, Bool.not_eq_true', Bool.not_eq_true]

end Check

end SheetTemplate
