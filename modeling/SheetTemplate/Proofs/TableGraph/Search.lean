import Mathlib.Data.List.Perm.Subperm
import SheetTemplate.Proofs.Success

/-!
# The search for a cycle

The depth-first search enters every table. Where it finds no cycle, it leaves a table only after all the
tables that table refers to, so every chain of references ends: the references are well founded, which
is the one thing that the write order needs of them.
-/

namespace SheetTemplate

/-! ### Ascending lists -/

@[simp] theorem mem_insertAscending {n x : Nat} {l : List Nat} : x ∈ insertAscending n l ↔ x = n ∨ x ∈ l := by
  induction l with
  | nil => simp [insertAscending]
  | cons m rest ih => grind [insertAscending]

theorem pairwise_insertAscending {n : Nat} {l : List Nat} (hl : l.Pairwise (· < ·)) :
    (insertAscending n l).Pairwise (· < ·) := by
  induction l with
  | nil => simp [insertAscending]
  | cons m rest ih =>
    rw [List.pairwise_cons] at hl
    obtain ⟨hm, hrest⟩ := hl
    unfold insertAscending
    split
    · rename_i hlt
      refine List.pairwise_cons.2 ⟨fun x hx => ?_, List.pairwise_cons.2 ⟨hm, hrest⟩⟩
      rcases List.mem_cons.1 hx with rfl | hx
      · exact hlt
      · exact Nat.lt_trans hlt (hm x hx)
    · split
      · exact List.pairwise_cons.2 ⟨hm, hrest⟩
      · refine List.pairwise_cons.2 ⟨fun x hx => ?_, ih hrest⟩
        rcases mem_insertAscending.1 hx with rfl | hx
        · omega
        · exact hm x hx

theorem length_le_of_lt {l : List Nat} {n : Nat} (hl : l.Nodup) (h : ∀ x ∈ l, x < n) : l.length ≤ n := by
  have hsub : l ⊆ List.range n := fun x hx => List.mem_range.2 (h x hx)
  simpa using (List.subperm_of_subset hl hsub).length_le

namespace TableGraph

variable {g : TableGraph}

/-! ### Well-formed graphs -/

/-- Every table has its list of precedents, which are tables, each listed once, and the dependents mirror them. -/
structure WellFormed (g : TableGraph) : Prop where
  length_eq : g.precedents.length = g.size
  ascending : ∀ t, (g.precedentsOf t).Pairwise (· < ·)
  lt_size : ∀ t, ∀ p ∈ g.precedentsOf t, p < g.size
  length_dependents : g.dependents.length = g.size
  ascending_dependents : ∀ t, (g.dependentsOf t).Pairwise (· < ·)
  mirror : ∀ d t, d ∈ g.dependentsOf t ↔ t ∈ g.precedentsOf d

theorem WellFormed.nodup_dependentsOf (hg : g.WellFormed) (t : Nat) : (g.dependentsOf t).Nodup :=
  (hg.ascending_dependents t).imp Nat.ne_of_lt

theorem WellFormed.dependent_lt_size (hg : g.WellFormed) {d t : Nat} (h : t ∈ g.precedentsOf d) : d < g.size := by
  rw [← hg.length_eq]
  by_contra hd
  simp [precedentsOf, List.getElem?_eq_none (Nat.le_of_not_lt hd)] at h

@[simp] theorem precedentsOf_ofNames (names : List String) (t : Nat) : (ofNames names).precedentsOf t = [] := by
  by_cases ht : t < names.length <;> simp [precedentsOf, ofNames, ht]

@[simp] theorem dependentsOf_ofNames (names : List String) (t : Nat) : (ofNames names).dependentsOf t = [] := by
  by_cases ht : t < names.length <;> simp [dependentsOf, ofNames, ht]

theorem wellFormed_ofNames (names : List String) : (ofNames names).WellFormed where
  length_eq := by simp [ofNames, size]
  ascending t := by simp
  lt_size t := by simp
  length_dependents := by simp [ofNames, size]
  ascending_dependents t := by simp
  mirror d t := by simp

@[simp] theorem size_add (g : TableGraph) (d p : Nat) : (g.add d p).size = g.size := by
  unfold add
  split <;> rfl

private theorem getD_modify_insertAscending (lists : List (List Nat)) (i n t : Nat) :
    ((lists.modify i (insertAscending n))[t]?).getD [] =
      if i = t ∧ t < lists.length then insertAscending n ((lists[t]?).getD []) else (lists[t]?).getD [] := by
  rw [List.getElem?_modify]
  by_cases ht : t < lists.length
  · by_cases hi : i = t <;> simp [hi, ht]
  · simp [ht]

theorem precedentsOf_add (g : TableGraph) (d p t : Nat) : (g.add d p).precedentsOf t =
    if d = t ∧ d ≠ p ∧ t < g.precedents.length then insertAscending p (g.precedentsOf t) else g.precedentsOf t := by
  by_cases hself : d = p
  · simp [add, hself]
  · rw [add, if_neg hself, precedentsOf, getD_modify_insertAscending]
    simp [hself, precedentsOf]

theorem dependentsOf_add (g : TableGraph) (d p t : Nat) : (g.add d p).dependentsOf t =
    if p = t ∧ d ≠ p ∧ t < g.dependents.length then insertAscending d (g.dependentsOf t) else g.dependentsOf t := by
  by_cases hself : d = p
  · simp [add, hself]
  · rw [add, if_neg hself, dependentsOf, getD_modify_insertAscending]
    simp [hself, dependentsOf]

theorem WellFormed.add (hg : g.WellFormed) {d p : Nat} (hd : d < g.size) (hp : p < g.size) : (g.add d p).WellFormed where
  length_eq := by
    rw [size_add, ← hg.length_eq]
    unfold TableGraph.add
    split <;> simp
  ascending t := by
    rw [precedentsOf_add]
    split
    · exact pairwise_insertAscending (hg.ascending t)
    · exact hg.ascending t
  lt_size t q hq := by
    rw [size_add]
    rw [precedentsOf_add] at hq
    split at hq
    · rcases mem_insertAscending.1 hq with rfl | hq
      · exact hp
      · exact hg.lt_size t q hq
    · exact hg.lt_size t q hq
  length_dependents := by
    rw [size_add, ← hg.length_dependents]
    unfold TableGraph.add
    split <;> simp
  ascending_dependents t := by
    rw [dependentsOf_add]
    split
    · exact pairwise_insertAscending (hg.ascending_dependents t)
    · exact hg.ascending_dependents t
  mirror e t := by
    -- Only the lists of the two tables change, and both receive the edge.
    have hmirror := hg.mirror e t
    rw [precedentsOf_add, dependentsOf_add, hg.length_eq, hg.length_dependents]
    by_cases he : d = e <;> by_cases ht : p = t <;> by_cases hself : d = p <;> grind [mem_insertAscending]

/-! ### Searching -/

/-- A table is referred to by another. -/
def Precedes (g : TableGraph) (p t : Nat) : Prop := p ∈ g.precedentsOf t

/-- Entering a table from the end of a path: where no cycle is found, the chains of references from the
table end, and so do those from all visited tables but the ones on the path. -/
theorem visit_eq_ok (hg : g.WellFormed) {fuel : Nat} {path visited visited' : List Nat} {t : Nat}
    (h : visit g fuel path visited t = .ok visited') (hfuel : g.size < fuel + path.length) (hnodup : path.Nodup)
    (hpath : ∀ p ∈ path, p < g.size) (ht : t < g.size) (hvisited : ∀ v ∈ visited, v ∈ path ∨ Acc g.Precedes v) :
    (∀ v ∈ visited', v ∈ path ∨ Acc g.Precedes v) ∧ Acc g.Precedes t := by
  induction fuel generalizing path visited visited' t with
  | zero =>
    have hlength := length_le_of_lt hnodup hpath
    omega
  | succ fuel ih =>
    rw [visit] at h
    split at h
    · cases h
    rename_i hnew
    have hnew : t ∉ path := by simpa using hnew
    split at h
    · rename_i hseen
      cases h
      exact ⟨hvisited, (hvisited t (by simpa using hseen)).resolve_left hnew⟩
    · -- Every precedent is entered from the path that now ends in the table itself.
      have hfold := foldlM_eq_ok (fun visited => ∀ v ∈ visited, v ∈ t :: path ∨ Acc g.Precedes v)
        (Acc g.Precedes) (fun p hp s s' hs hstep => ih hstep (by rw [List.length_cons]; omega)
          (List.nodup_cons.2 ⟨hnew, hnodup⟩) (List.forall_mem_cons.2 ⟨ht, hpath⟩) (hg.lt_size t p hp) hs)
        h (List.forall_mem_cons.2 ⟨.inl List.mem_cons_self, fun v hv =>
          (hvisited v hv).imp_left (List.mem_cons_of_mem t)⟩)
      have hacc : Acc g.Precedes t := ⟨t, fun p hp => hfold.2 p hp⟩
      refine ⟨fun v hv => ?_, hacc⟩
      rcases hfold.1 v hv with hmem | hv
      · rcases List.mem_cons.1 hmem with rfl | hmem
        · exact .inr hacc
        · exact .inl hmem
      · exact .inr hv

theorem acc_of_cycle?_eq_none (hg : g.WellFormed) (h : g.cycle? = none) {t : Nat} (ht : t < g.size) :
    Acc g.Precedes t := by
  unfold cycle? at h
  split at h
  · cases h
  · rename_i visited hsearch
    have hfold := foldlM_eq_ok (fun visited => ∀ v ∈ visited, v ∈ [] ∨ Acc g.Precedes v)
      (Acc g.Precedes) (fun p hp s s' hs hstep => visit_eq_ok hg hstep (by simp) List.nodup_nil
        (by simp) (List.mem_range.1 hp) hs) hsearch (by simp)
    exact hfold.2 t (List.mem_range.2 ht)

theorem acc_of_writeOrder (hg : g.WellFormed) {order : List Nat} (h : g.writeOrder = .ok order) {t : Nat} (ht : t < g.size) :
    Acc g.Precedes t := by
  unfold writeOrder at h
  split at h
  · cases h
  · rename_i hcycle
    exact acc_of_cycle?_eq_none hg hcycle ht

end TableGraph

end SheetTemplate
