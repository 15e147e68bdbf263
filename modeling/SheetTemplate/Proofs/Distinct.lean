import Mathlib.Data.List.Induction
import Mathlib.Data.List.Nodup

/-!
# Lists with distinct keys

Tables, fields, sheets and columns are found by name, the first of that name. Where names are distinct
the first is the only one, so membership and search say the same.
-/

namespace SheetTemplate

variable {α κ : Type} {key : α → κ} {xs : List α}

theorem eq_of_key_eq (hnodup : (xs.map key).Nodup) {x y : α} (hx : x ∈ xs) (hy : y ∈ xs) (h : key x = key y) : x = y :=
  List.inj_on_of_nodup_map hnodup hx hy h

variable [DecidableEq κ]

theorem find?_key_eq_some_iff (hnodup : (xs.map key).Nodup) {k : κ} {x : α} :
    xs.find? (key · = k) = some x ↔ x ∈ xs ∧ key x = k := by
  constructor
  · intro h
    exact ⟨List.mem_of_find?_eq_some h, by simpa using List.find?_some h⟩
  · intro h
    obtain ⟨hx, hk⟩ := h
    cases hfind : xs.find? (key · = k) with
    | none => exact absurd hk (by simpa using List.find?_eq_none.1 hfind x hx)
    | some y =>
      have hy : key y = k := by simpa using List.find?_some hfind
      rw [eq_of_key_eq hnodup (List.mem_of_find?_eq_some hfind) hx (hy.trans hk.symm)]

theorem find?_key_perm (hnodup : (xs.map key).Nodup) {ys : List α} (h : xs.Perm ys) (k : κ) :
    xs.find? (key · = k) = ys.find? (key · = k) := by
  have hnodup' : (ys.map key).Nodup := (h.map key).nodup_iff.1 hnodup
  refine Option.ext fun x => ?_
  rw [find?_key_eq_some_iff hnodup, find?_key_eq_some_iff hnodup', h.mem_iff]

theorem nodup_eraseDups [BEq α] [LawfulBEq α] (xs : List α) : xs.eraseDups.Nodup := by
  match xs with
  | [] => exact List.nodup_nil
  | x :: rest =>
    have hlength : (rest.filter fun y => !y == x).length < rest.length + 1 :=
      Nat.lt_succ_of_le (List.length_filter_le _ rest)
    rw [List.eraseDups_cons, List.nodup_cons, List.mem_eraseDups, List.mem_filter]
    exact ⟨fun h => by simp at h, nodup_eraseDups _⟩
termination_by xs.length

theorem filterMap_key_eq {β : Type} (hnodup : (xs.map key).Nodup) {x : α} (hx : x ∈ xs) (value : α → β) :
    xs.filterMap (fun y => if key y = key x then some (value y) else none) = [value x] := by
  induction xs with
  | nil => cases hx
  | cons y rest ih =>
    obtain ⟨hnew, hrest⟩ := List.nodup_cons.1 hnodup
    rcases List.mem_cons.1 hx with rfl | hx
    · have hothers : rest.filterMap (fun y => if key y = key x then some (value y) else none) = [] := by
        refine List.filterMap_eq_nil_iff.2 fun y hy => if_neg fun heq => hnew ?_
        exact List.mem_map.2 ⟨y, hy, heq⟩
      simp only [List.filterMap_cons, if_true, hothers]
    · have hne : key y ≠ key x := fun heq => hnew (List.mem_map.2 ⟨x, hx, heq.symm⟩)
      simp only [List.filterMap_cons, if_neg hne, ih hrest hx]

/-! ### First occurrences -/

section FirstOccurrences

variable [BEq α] [LawfulBEq α] {β ε : Type} [BEq β] [LawfulBEq β]

/-- A check that passed once passes again, so checking first occurrences is checking all. -/
theorem forM_eraseDups (check : α → Except ε Unit) (xs : List α) : xs.eraseDups.forM check = xs.forM check := by
  have hfilter : ∀ (x : α) (ys : List α), check x = .ok () → (ys.filter fun y => !y == x).forM check = ys.forM check := by
    intro x ys hx
    induction ys with
    | nil => rfl
    | cons y ys ih =>
      by_cases hy : y = x
      · rw [List.filter_cons_of_neg (by simp [hy]), ih, List.forM, hy, hx]
        rfl
      · rw [List.filter_cons_of_pos (by simp [hy]), List.forM, List.forM, ih]
  match xs with
  | [] => rfl
  | x :: rest =>
    have hlength : (rest.filter fun y => !y == x).length < rest.length + 1 :=
      Nat.lt_succ_of_le (List.length_filter_le _ rest)
    rw [List.eraseDups_cons, List.forM, List.forM]
    cases hx : check x with
    | error e => rfl
    | ok u =>
      change (rest.filter fun y => !y == x).eraseDups.forM check = rest.forM check
      rw [forM_eraseDups, hfilter x rest hx]
termination_by xs.length

/-- What tells elements apart keeps their first occurrences. -/
theorem eraseDups_map {f : α → β} (xs : List α) (hinj : ∀ x ∈ xs, ∀ y ∈ xs, f x = f y → x = y) :
    (xs.map f).eraseDups = xs.eraseDups.map f := by
  match xs with
  | [] => rfl
  | x :: rest =>
    have hlength : (rest.filter fun y => !y == x).length < rest.length + 1 :=
      Nat.lt_succ_of_le (List.length_filter_le _ rest)
    have hothers : (rest.map f).filter (fun z => !z == f x) = (rest.filter fun y => !y == x).map f := by
      rw [List.filter_map]
      refine congrArg (List.map f) (List.filter_congr fun y hy => ?_)
      have hiff : f y = f x ↔ y = x :=
        ⟨hinj y (List.mem_cons_of_mem x hy) x List.mem_cons_self, congrArg f⟩
      change (!f y == f x) = !y == x
      rw [Bool.not_inj_iff, Bool.eq_iff_iff, beq_iff_eq, beq_iff_eq, hiff]
    rw [List.map_cons, List.eraseDups_cons, List.eraseDups_cons, List.map_cons, hothers,
      eraseDups_map _ fun y hy z hz => hinj y (List.mem_cons_of_mem x (List.mem_of_mem_filter hy)) z
        (List.mem_cons_of_mem x (List.mem_of_mem_filter hz))]
termination_by xs.length

/-- The places of the first occurrences, as they are met, are numbered without a gap. -/
theorem eraseDups_map_idxOf (xs : List α) : (xs.map xs.eraseDups.idxOf).eraseDups = List.range xs.eraseDups.length := by
  have hmem : ∀ x ∈ xs, x ∈ xs.eraseDups := fun x hx => List.mem_eraseDups.2 hx
  rw [eraseDups_map xs fun x hx y hy heq => (List.idxOf_inj (hmem x hx)).1 heq]
  refine List.ext_getElem (by rw [List.length_map, List.length_range]) fun i hi _ => ?_
  rw [List.getElem_map, (nodup_eraseDups xs).idxOf_getElem, List.getElem_range]

theorem eraseDups_append_of_subset {xs ys : List α} (h : ys ⊆ xs) (zs : List α) :
    (xs ++ (ys ++ zs)).eraseDups = (xs ++ zs).eraseDups := by
  have hremoved : ys.removeAll xs = [] := by
    refine List.filter_eq_nil_iff.2 fun y hy => ?_
    simpa using h hy
  rw [List.eraseDups_append, List.eraseDups_append, List.removeAll, List.filter_append]
  change _ ++ (ys.removeAll xs ++ zs.removeAll xs).eraseDups = _
  rw [hremoved, List.nil_append]

theorem eraseDups_append_congr {xs ys : List α} (h : xs.eraseDups = ys.eraseDups) (zs : List α) :
    (xs ++ zs).eraseDups = (ys ++ zs).eraseDups := by
  have hmem : ∀ x, xs.contains x = ys.contains x := by
    intro x
    rw [Bool.eq_iff_iff, List.contains_iff_mem, List.contains_iff_mem, ← List.mem_eraseDups, h, List.mem_eraseDups]
  simp only [List.eraseDups_append, h, List.removeAll, List.elem_eq_contains, hmem]

/-- What is read off the elements of a list is first read off their first occurrences. -/
theorem eraseDups_filterMap_eraseDups (f : α → Option β) (xs : List α) :
    (xs.eraseDups.filterMap f).eraseDups = (xs.filterMap f).eraseDups := by
  induction xs using List.reverseRecOn with
  | nil => rfl
  | append_singleton xs x ih =>
    by_cases hx : x ∈ xs
    · have hold : [x] ⊆ xs := by simpa using hx
      have hlast : (xs ++ [x]).eraseDups = xs.eraseDups := by
        simpa using eraseDups_append_of_subset hold []
      have hread : [x].filterMap f ⊆ xs.filterMap f := by
        intro y hy
        obtain ⟨z, hz, hzy⟩ := List.mem_filterMap.1 hy
        exact List.mem_filterMap.2 ⟨z, hold hz, hzy⟩
      rw [hlast, ih, List.filterMap_append]
      simpa using (eraseDups_append_of_subset hread []).symm
    · have hnew : [x].removeAll xs = [x] := by simp [List.removeAll, hx]
      rw [List.eraseDups_append, hnew, List.filterMap_append, List.filterMap_append]
      exact eraseDups_append_congr ih ([x].filterMap f)

end FirstOccurrences

end SheetTemplate
