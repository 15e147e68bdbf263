import Mathlib.Data.List.Forall2
import SheetTemplate.Resolution
import SheetTemplate.Error

/-!
# Steps that succeed

A sequence of steps succeeds when every step does, and its value is made of theirs. These lemmas read
the steps off a success, so no proof about a checking function takes its sequence apart by hand.
-/

namespace SheetTemplate

variable {ε σ α β : Type}

/-! ### Lists in step -/

theorem getElem?_of_forall₂ {R : α → β → Prop} {xs : List α} {ys : List β} (h : List.Forall₂ R xs ys) {i : Nat} {x : α}
    (hx : xs[i]? = some x) : ∃ y, ys[i]? = some y ∧ R x y := by
  induction h generalizing i with
  | nil => simp at hx
  | cons hxy _ ih =>
    cases i with
    | zero =>
      rw [List.getElem?_cons_zero, Option.some.injEq] at hx
      exact ⟨_, List.getElem?_cons_zero, hx ▸ hxy⟩
    | succ i =>
      rw [List.getElem?_cons_succ] at hx ⊢
      exact ih hx

theorem exists_of_forall₂_left {R : α → β → Prop} {xs : List α} {ys : List β} (h : List.Forall₂ R xs ys) {x : α}
    (hx : x ∈ xs) : ∃ y ∈ ys, R x y := by
  obtain ⟨i, hi⟩ := List.getElem?_of_mem hx
  obtain ⟨y, hy, hxy⟩ := getElem?_of_forall₂ h hi
  exact ⟨y, List.mem_of_getElem? hy, hxy⟩

theorem exists_of_forall₂_right {R : α → β → Prop} {xs : List α} {ys : List β} (h : List.Forall₂ R xs ys) {y : β}
    (hy : y ∈ ys) : ∃ x ∈ xs, R x y :=
  exists_of_forall₂_left h.flip hy

/-! ### Results -/

theorem bind_eq_ok {x : Except ε α} {next : α → Except ε β} {b : β} :
    x >>= next = .ok b ↔ ∃ a, x = .ok a ∧ next a = .ok b := by
  cases x with
  | error e => simp [bind, Except.bind]
  | ok a => simp [bind, Except.bind]

theorem pure_eq_ok {a b : α} : (pure a : Except ε α) = .ok b ↔ a = b := by
  change Except.ok a = Except.ok b ↔ a = b
  rw [Except.ok.injEq]

theorem toOption_eq_some {x : Except ε α} {a : α} : x.toOption = some a ↔ x = .ok a := by
  cases x with
  | error e => simp [Except.toOption]
  | ok b => simp [Except.toOption]

theorem refuseIf_eq_ok {fault : Bool} {e : Error} {u : Unit} : refuseIf fault e = .ok u ↔ fault = false := by
  cases fault <;> simp [refuseIf]

theorem mapM_eq_ok {f : α → Except ε β} {xs : List α} {ys : List β} :
    xs.mapM f = .ok ys ↔ List.Forall₂ (fun x y => f x = .ok y) xs ys := by
  induction xs generalizing ys with
  | nil =>
    rw [List.mapM_nil, pure_eq_ok, List.forall₂_nil_left_iff]
    exact eq_comm
  | cons x xs ih =>
    simp only [List.mapM_cons, bind_eq_ok, pure_eq_ok, List.forall₂_cons_left_iff, ih]
    constructor
    · intro h
      obtain ⟨y, hy, rest, hrest, rfl⟩ := h
      exact ⟨y, rest, hy, hrest, rfl⟩
    · intro h
      obtain ⟨y, rest, hy, hrest, rfl⟩ := h
      exact ⟨y, hy, rest, hrest, rfl⟩

/-- What every step of a successful fold preserves holds at its end, and what every step establishes of
its element holds of all elements. -/
theorem foldlM_eq_ok {f : σ → α → Except ε σ} (inv : σ → Prop) (settled : α → Prop) {xs : List α}
    (hstep : ∀ x ∈ xs, ∀ s s', inv s → f s x = .ok s' → inv s' ∧ settled x) {s s' : σ}
    (h : xs.foldlM f s = .ok s') (hs : inv s) : inv s' ∧ ∀ x ∈ xs, settled x := by
  induction xs generalizing s with
  | nil =>
    rw [List.foldlM_nil, pure_eq_ok] at h
    exact ⟨h ▸ hs, fun _ hx => absurd hx List.not_mem_nil⟩
  | cons x xs ih =>
    rw [List.foldlM_cons, bind_eq_ok] at h
    obtain ⟨mid, hx, hxs⟩ := h
    obtain ⟨hmid, hsettled⟩ := hstep x List.mem_cons_self s mid hs hx
    obtain ⟨hs', hrest⟩ := ih (fun y hy => hstep y (List.mem_cons_of_mem x hy)) hxs hmid
    exact ⟨hs', List.forall_mem_cons.2 ⟨hsettled, hrest⟩⟩

theorem mapM_congr {m : Type → Type} [Monad m] [LawfulMonad m] {f g : α → m β} {xs : List α} (h : ∀ x ∈ xs, f x = g x) :
    xs.mapM f = xs.mapM g := by
  induction xs with
  | nil => rfl
  | cons x xs ih =>
    obtain ⟨hx, hxs⟩ := List.forall_mem_cons.1 h
    rw [List.mapM_cons, List.mapM_cons, hx, ih hxs]

/-! ### Outcomes -/

namespace Outcome

theorem bind_eq_ok {x : Outcome α} {next : α → Outcome β} {b : β} :
    (x >>= next).result = .ok b ↔ ∃ a, x.result = .ok a ∧ (next a).result = .ok b := by
  change (x.andThen next).result = .ok b ↔ _
  unfold andThen
  cases hx : x.result with
  | error e => simp
  | ok a => simp

theorem pure_eq_ok {a b : α} : (pure a : Outcome α).result = .ok b ↔ a = b := by
  change Except.ok a = Except.ok b ↔ a = b
  rw [Except.ok.injEq]

theorem warnings_bind (x : Outcome α) (next : α → Outcome β) :
    ∃ rest, (x >>= next).warnings = x.warnings ++ rest := by
  change ∃ rest, (x.andThen next).warnings = x.warnings ++ rest
  unfold andThen
  cases x.result with
  | error e => exact ⟨[], (List.append_nil _).symm⟩
  | ok a => exact ⟨(next a).warnings, rfl⟩

instance : LawfulMonad Outcome := LawfulMonad.mk' Outcome
  (fun x => by
    change x.andThen (fun a => pure (id a)) = x
    obtain ⟨warnings, result⟩ := x
    cases result <;> simp [andThen, pure, ofExcept])
  (fun a next => by simp [bind, andThen, pure, ofExcept])
  (fun x next last => by
    obtain ⟨warnings, result⟩ := x
    cases result with
    | error e => simp [bind, andThen]
    | ok a => cases hnext : (next a).result <;> simp [bind, andThen, hnext])

theorem mapM_eq_ok {f : α → Outcome β} {xs : List α} {ys : List β} :
    (xs.mapM f).result = .ok ys ↔ List.Forall₂ (fun x y => (f x).result = .ok y) xs ys := by
  induction xs generalizing ys with
  | nil =>
    rw [List.mapM_nil, pure_eq_ok, List.forall₂_nil_left_iff]
    exact eq_comm
  | cons x xs ih =>
    simp only [List.mapM_cons, bind_eq_ok, pure_eq_ok, List.forall₂_cons_left_iff, ih]
    constructor
    · intro h
      obtain ⟨y, hy, rest, hrest, rfl⟩ := h
      exact ⟨y, rest, hy, hrest, rfl⟩
    · intro h
      obtain ⟨y, rest, hy, hrest, rfl⟩ := h
      exact ⟨y, hy, rest, hrest, rfl⟩

theorem exists_mapM_eq_ok {f : α → Outcome β} {xs : List α} :
    (∃ ys, (xs.mapM f).result = .ok ys) ↔ ∀ x ∈ xs, ∃ y, (f x).result = .ok y := by
  simp only [mapM_eq_ok]
  constructor
  · rintro ⟨ys, h⟩ x hx
    obtain ⟨y, _, hy⟩ := exists_of_forall₂_left h hx
    exact ⟨y, hy⟩
  · intro h
    induction xs with
    | nil => exact ⟨[], .nil⟩
    | cons x xs ih =>
      obtain ⟨⟨y, hy⟩, hxs⟩ := List.forall_mem_cons.1 h
      obtain ⟨ys, hys⟩ := ih hxs
      exact ⟨y :: ys, .cons hy hys⟩

theorem warnings_mapM {f : α → Outcome β} {xs : List α} {ys : List β} (h : (xs.mapM f).result = .ok ys) :
    (xs.mapM f).warnings = xs.flatMap fun x => (f x).warnings := by
  induction xs generalizing ys with
  | nil => rfl
  | cons x xs ih =>
    rw [List.mapM_cons, bind_eq_ok] at h
    obtain ⟨y, hy, h⟩ := h
    obtain ⟨rest, hrest, _⟩ := bind_eq_ok.1 h
    rw [List.mapM_cons, List.flatMap_cons, ← ih hrest]
    simp [bind, andThen, pure, ofExcept, hy, hrest]

theorem values_mapM {f : α → Outcome β} {xs : List α} {ys : List β} (h : (xs.mapM f).result = .ok ys) :
    ys = xs.filterMap fun x => (f x).result.toOption := by
  have hsteps := mapM_eq_ok.1 h
  clear h
  induction hsteps with
  | nil => rfl
  | cons hy _ ih => rw [List.filterMap_cons, hy, ← ih]; rfl

/-- Steps that succeed do so in any order, with the same values and the same warnings. -/
theorem mapM_perm {f : α → Outcome β} {xs xs' : List α} (hperm : xs.Perm xs') {ys : List β}
    (h : (xs.mapM f).result = .ok ys) : ∃ ys', (xs'.mapM f).result = .ok ys' ∧ ys.Perm ys' ∧
      (xs.mapM f).warnings.Perm (xs'.mapM f).warnings := by
  have hsteps := exists_mapM_eq_ok.1 ⟨ys, h⟩
  obtain ⟨ys', h'⟩ := exists_mapM_eq_ok.2 fun x hx => hsteps x (hperm.mem_iff.2 hx)
  refine ⟨ys', h', ?_, ?_⟩
  · rw [values_mapM h, values_mapM h']
    exact hperm.filterMap _
  · rw [warnings_mapM h, warnings_mapM h']
    exact hperm.flatMap_right _

end Outcome

end SheetTemplate
