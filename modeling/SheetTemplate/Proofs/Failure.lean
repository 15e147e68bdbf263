import SheetTemplate.Proofs.Success

/-!
# Steps that fail

A sequence of checks fails with the error of the first step that does. What is known of the errors of each
step is then known of the whole, so an error can be followed back to the one check that gave it.
-/

namespace SheetTemplate

variable {ε σ α β : Type}

theorem bind_eq_error {x : Except ε α} {next : α → Except ε β} {e : ε} :
    x >>= next = .error e ↔ x = .error e ∨ ∃ a, x = .ok a ∧ next a = .error e := by
  cases x with
  | error e' => simp [bind, Except.bind]
  | ok a => simp [bind, Except.bind]

theorem refuseIf_eq_error {fault : Bool} {e e' : Error} : refuseIf fault e = .error e' ↔ fault = true ∧ e = e' := by
  cases fault <;> simp [refuseIf]

theorem mapM_eq_error {f : α → Except ε β} {xs : List α} {e : ε} (h : xs.mapM f = .error e) : ∃ x ∈ xs, f x = .error e := by
  induction xs with
  | nil => cases h
  | cons x xs ih =>
    simp only [List.mapM_cons, bind_eq_error, pure, Except.pure, reduceCtorEq, and_false, exists_const, or_false] at h
    rcases h with hx | ⟨_, _, hxs⟩
    · exact ⟨x, List.mem_cons_self, hx⟩
    · obtain ⟨y, hy, hfy⟩ := ih hxs
      exact ⟨y, List.mem_cons_of_mem x hy, hfy⟩

theorem foldlM_eq_error {f : σ → α → Except ε σ} {xs : List α} {s : σ} {e : ε} (h : xs.foldlM f s = .error e) :
    ∃ x ∈ xs, ∃ s, f s x = .error e := by
  induction xs generalizing s with
  | nil => cases h
  | cons x xs ih =>
    rw [List.foldlM_cons, bind_eq_error] at h
    rcases h with hx | ⟨_, _, hxs⟩
    · exact ⟨x, List.mem_cons_self, s, hx⟩
    · obtain ⟨y, hy, hfy⟩ := ih hxs
      exact ⟨y, List.mem_cons_of_mem x hy, hfy⟩

theorem forM_eq_ok {f : α → Except ε Unit} {xs : List α} {u : Unit} : xs.forM f = .ok u ↔ ∀ x ∈ xs, f x = .ok () := by
  induction xs with
  | nil => simp [pure, Except.pure]
  | cons x xs ih =>
    simp only [List.forM, bind_eq_ok, ih, List.forall_mem_cons]
    constructor
    · rintro ⟨⟨⟩, hx, hxs⟩
      exact ⟨hx, hxs⟩
    · rintro ⟨hx, hxs⟩
      exact ⟨(), hx, hxs⟩

theorem forM_eq_error {f : α → Except ε Unit} {xs : List α} {e : ε} (h : xs.forM f = .error e) :
    ∃ x ∈ xs, f x = .error e := by
  induction xs with
  | nil => cases h
  | cons x xs ih =>
    rw [List.forM, bind_eq_error] at h
    rcases h with hx | ⟨_, _, hxs⟩
    · exact ⟨x, List.mem_cons_self, hx⟩
    · obtain ⟨y, hy, hfy⟩ := ih hxs
      exact ⟨y, List.mem_cons_of_mem x hy, hfy⟩

/-! ### Outcomes -/

namespace Outcome

theorem bind_eq_error {x : Outcome α} {next : α → Outcome β} {e : Error} :
    (x >>= next).result = .error e ↔ x.result = .error e ∨ ∃ a, x.result = .ok a ∧ (next a).result = .error e := by
  change (x.andThen next).result = .error e ↔ _
  unfold andThen
  cases hx : x.result with
  | error e => simp
  | ok a => simp

theorem mapM_eq_error {f : α → Outcome β} {xs : List α} {e : Error} (h : (xs.mapM f).result = .error e) :
    ∃ x ∈ xs, (f x).result = .error e := by
  induction xs with
  | nil => cases h
  | cons x xs ih =>
    rw [List.mapM_cons, bind_eq_error] at h
    rcases h with hx | ⟨_, _, h⟩
    · exact ⟨x, List.mem_cons_self, hx⟩
    rcases bind_eq_error.1 h with hxs | ⟨_, _, h⟩
    · obtain ⟨y, hy, hfy⟩ := ih hxs
      exact ⟨y, List.mem_cons_of_mem x hy, hfy⟩
    · cases h

end Outcome

end SheetTemplate
