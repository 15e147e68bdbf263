import SheetTemplate.Proofs.TableGraph.Search

/-!
# The write order is legal and complete

While tables are written, the pending count of a table is the number of its precedents still to come, and
the ready tables are those that wait for nothing. A run that starts from no table written therefore writes
each table once and after the tables it refers to. It only stops when no table is ready, and where every
chain of references ends that means that all are written.
-/

namespace SheetTemplate

namespace TableGraph

variable {g : TableGraph}

/-- Tables written one after another, with those of `done` before: each is new and comes after its
precedents. -/
def Legal (g : TableGraph) : List Nat → List Nat → Prop
  | _, [] => True
  | done, t :: rest => t < g.size ∧ t ∉ done ∧ (∀ p ∈ g.precedentsOf t, p ∈ done) ∧ Legal g (t :: done) rest

theorem Legal.nodup {done order : List Nat} (h : g.Legal done order) : order.Nodup ∧ ∀ t ∈ order, t ∉ done := by
  induction order generalizing done with
  | nil => exact ⟨List.nodup_nil, fun _ ht => absurd ht List.not_mem_nil⟩
  | cons t rest ih =>
    obtain ⟨_, hnew, _, hrest⟩ := h
    obtain ⟨hnodup, hfresh⟩ := ih hrest
    refine ⟨List.nodup_cons.2 ⟨fun ht => hfresh t ht List.mem_cons_self, hnodup⟩, List.forall_mem_cons.2 ⟨hnew, ?_⟩⟩
    exact fun u hu hdone => hfresh u hu (List.mem_cons_of_mem t hdone)

theorem Legal.lt_size {done order : List Nat} (h : g.Legal done order) : ∀ t ∈ order, t < g.size := by
  induction order generalizing done with
  | nil => exact fun _ ht => absurd ht List.not_mem_nil
  | cons t rest ih => exact List.forall_mem_cons.2 ⟨h.1, ih h.2.2.2⟩

theorem Legal.mem_of_precedes {done before after : List Nat} {t q : Nat} (h : g.Legal done (before ++ t :: after))
    (hq : g.Precedes q t) : q ∈ done ∨ q ∈ before := by
  induction before generalizing done with
  | nil => exact .inl (h.2.2.1 q hq)
  | cons u before ih =>
    rcases ih h.2.2.2 with hdone | hbefore
    · exact (List.mem_cons.1 hdone).elim (fun heq => .inr (heq ▸ List.mem_cons_self)) .inl
    · exact .inr (List.mem_cons_of_mem u hbefore)

/-! ### Releasing dependents -/

/-- The precedents of a table that are still to be written. -/
def awaited (g : TableGraph) (done : List Nat) (t : Nat) : Nat := (g.precedentsOf t).countP (· ∉ done)

theorem awaited_eq_zero_iff {done : List Nat} {t : Nat} :
    g.awaited done t = 0 ↔ ∀ p ∈ g.precedentsOf t, p ∈ done := by
  simp [awaited, List.countP_eq_zero]

private theorem countP_not_mem_cons {l done : List Nat} {t : Nat} (hl : l.Nodup) (ht : t ∉ done) :
    l.countP (· ∉ t :: done) = l.countP (· ∉ done) - if t ∈ l then 1 else 0 := by
  induction l with
  | nil => rfl
  | cons x rest ih =>
    rw [List.nodup_cons] at hl
    have hrest := ih hl.2
    have hpos : t ∈ rest → 0 < rest.countP (· ∉ done) := fun hmem =>
      List.countP_pos_iff.2 ⟨t, hmem, by simpa using ht⟩
    grind

theorem pending_release (s : Progress) (d t : Nat) :
    (s.release d).pending[t]? = if t = d then s.pending[t]?.map (· - 1) else s.pending[t]? := by
  change (s.pending.set d ((s.pending[d]?).getD 0 - 1))[t]? = _
  rw [List.getElem?_set]
  by_cases hd : d = t
  · subst hd
    by_cases hlt : d < s.pending.length <;> simp [hlt]
  · simp [hd, Ne.symm hd]

theorem mem_ready_release (s : Progress) (d t : Nat) :
    t ∈ (s.release d).ready ↔ t ∈ s.ready ∨ t = d ∧ (s.pending[t]?).getD 0 - 1 = 0 := by
  change t ∈ (if (s.pending[d]?).getD 0 - 1 = 0 then insertAscending d s.ready else s.ready) ↔ _
  split
  · rename_i hzero
    rw [mem_insertAscending]
    constructor
    · rintro (rfl | ht)
      · exact .inr ⟨rfl, hzero⟩
      · exact .inl ht
    · rintro (ht | ⟨rfl, _⟩)
      · exact .inr ht
      · exact .inl rfl
  · rename_i hpos
    refine ⟨.inl, ?_⟩
    rintro (ht | ⟨rfl, hzero⟩)
    · exact ht
    · exact absurd hzero hpos

theorem ascending_release {s : Progress} (hs : s.ready.Pairwise (· < ·)) (d : Nat) :
    (s.release d).ready.Pairwise (· < ·) := by
  change (if (s.pending[d]?).getD 0 - 1 = 0 then insertAscending d s.ready else s.ready).Pairwise (· < ·)
  split
  · exact pairwise_insertAscending hs
  · exact hs

theorem pending_foldl_release {ds : List Nat} (hds : ds.Nodup) (s : Progress) (t : Nat) :
    (ds.foldl Progress.release s).pending[t]? =
      if t ∈ ds then s.pending[t]?.map (· - 1) else s.pending[t]? := by
  induction ds generalizing s with
  | nil => simp
  | cons d ds ih =>
    rw [List.nodup_cons] at hds
    rw [List.foldl_cons, ih hds.2, pending_release]
    by_cases hd : t = d
    · subst hd
      simp [hds.1]
    · simp [hd]

theorem mem_ready_foldl_release {ds : List Nat} (hds : ds.Nodup) (s : Progress) (t : Nat) :
    t ∈ (ds.foldl Progress.release s).ready ↔ t ∈ s.ready ∨ t ∈ ds ∧ (s.pending[t]?).getD 0 - 1 = 0 := by
  induction ds generalizing s with
  | nil => simp
  | cons d ds ih =>
    rw [List.nodup_cons] at hds
    rw [List.foldl_cons, ih hds.2, mem_ready_release, pending_release, List.mem_cons]
    by_cases hd : t = d
    · subst hd
      simp [hds.1]
    · simp [hd]

theorem ascending_foldl_release {ds : List Nat} {s : Progress} (hs : s.ready.Pairwise (· < ·)) :
    (ds.foldl Progress.release s).ready.Pairwise (· < ·) := by
  induction ds generalizing s with
  | nil => exact hs
  | cons d ds ih => exact ih (ascending_release hs d)

/-! ### Runs -/

/-- Where the ordering stands once the tables of `done` are written. -/
structure Progress.After (g : TableGraph) (done : List Nat) (s : Progress) : Prop where
  pending : ∀ t < g.size, s.pending[t]? = some (g.awaited done t)
  mem_ready : ∀ t, t ∈ s.ready ↔ t < g.size ∧ t ∉ done ∧ ∀ p ∈ g.precedentsOf t, p ∈ done
  ascending : s.ready.Pairwise (· < ·)
  closed : ∀ t ∈ done, ∀ p ∈ g.precedentsOf t, p ∈ done

theorem after_start (hg : g.WellFormed) : g.start.After g [] where
  pending t ht := by
    rw [← hg.length_eq] at ht
    simp [start, awaited, precedentsOf, ht]
  mem_ready t := by
    have hzero : t < g.size → (g.start.pending[t]? = some 0 ↔ g.precedentsOf t = []) := fun ht => by
      rw [← hg.length_eq] at ht
      simp [start, precedentsOf, ht]
    change t ∈ (List.range g.size).filter (fun t => g.start.pending[t]? = some 0) ↔ _
    rw [List.mem_filter, List.mem_range, decide_eq_true_eq]
    constructor
    · intro h
      obtain ⟨ht, hpending⟩ := h
      rw [(hzero ht).1 hpending]
      exact ⟨ht, List.not_mem_nil, fun _ hp => hp⟩
    · intro h
      obtain ⟨ht, _, hp⟩ := h
      exact ⟨ht, (hzero ht).2 (List.eq_nil_iff_forall_not_mem.2 fun p hmem => List.not_mem_nil (hp p hmem))⟩
  ascending := List.Pairwise.filter _ List.pairwise_lt_range
  closed _ ht := absurd ht List.not_mem_nil

/-- Writing the first ready table releases the tables that refer to it. -/
theorem Progress.After.step (hg : g.WellFormed) {done ready : List Nat} {s : Progress} {t : Nat} (h : s.After g done)
    (hready : s.ready = t :: ready) :
    ((g.dependentsOf t).foldl Progress.release { s with ready }).After g (t :: done) := by
  have hascending := h.ascending
  rw [hready, List.pairwise_cons] at hascending
  obtain ⟨ht, hnew, hprecedents⟩ := (h.mem_ready t).1 (hready ▸ List.mem_cons_self)
  have hawaited : ∀ u, g.awaited (t :: done) u = g.awaited done u - if t ∈ g.precedentsOf u then 1 else 0 := fun u =>
    countP_not_mem_cons ((hg.ascending u).imp Nat.ne_of_lt) hnew
  -- A dependent of the table cannot be written yet, nor can it be the table itself.
  have hlate : ∀ u, t ∈ g.precedentsOf u → u ∉ t :: done := by
    intro u hu hmem
    rcases List.mem_cons.1 hmem with rfl | hmem
    · exact hnew (hprecedents u hu)
    · exact hnew (h.closed u hmem t hu)
  refine ⟨fun u hu => ?_, fun u => ?_, ascending_foldl_release hascending.2, ?_⟩
  · rw [pending_foldl_release (hg.nodup_dependentsOf t), h.pending u hu, hawaited]
    by_cases hmem : t ∈ g.precedentsOf u
    · simp [hg.mirror, hmem]
    · simp [hg.mirror, hmem]
  · rw [mem_ready_foldl_release (hg.nodup_dependentsOf t), hg.mirror]
    constructor
    · rintro (hmem | ⟨hmem, hzero⟩)
      · obtain ⟨hu, hfresh, hp⟩ := (h.mem_ready u).1 (hready ▸ List.mem_cons_of_mem t hmem)
        refine ⟨hu, fun hcons => ?_, fun p hmem => List.mem_cons_of_mem t (hp p hmem)⟩
        rcases List.mem_cons.1 hcons with rfl | hdone
        · exact Nat.lt_irrefl u (hascending.1 u hmem)
        · exact hfresh hdone
      · change (s.pending[u]?).getD 0 - 1 = 0 at hzero
        have hu := hg.dependent_lt_size hmem
        rw [h.pending u hu, Option.getD_some] at hzero
        refine ⟨hu, hlate u hmem, awaited_eq_zero_iff.1 ?_⟩
        rw [hawaited, if_pos hmem]
        exact hzero
    · intro h
      obtain ⟨hu, hfresh, hp⟩ := h
      by_cases hmem : t ∈ g.precedentsOf u
      · refine .inr ⟨hmem, ?_⟩
        change (s.pending[u]?).getD 0 - 1 = 0
        rw [h.pending u hu, Option.getD_some, ← awaited_eq_zero_iff.2 hp, hawaited, if_pos hmem]
      · have hdone : ∀ p ∈ g.precedentsOf u, p ∈ done := fun p hpu =>
          (List.mem_cons.1 (hp p hpu)).resolve_left fun heq => hmem (heq ▸ hpu)
        have hwaiting := (h.mem_ready u).2 ⟨hu, fun hd => hfresh (List.mem_cons_of_mem t hd), hdone⟩
        rw [hready, List.mem_cons] at hwaiting
        exact .inl (hwaiting.resolve_left fun heq => hfresh (heq ▸ List.mem_cons_self))
  · refine List.forall_mem_cons.2 ⟨fun p hp => List.mem_cons_of_mem t (hprecedents p hp), ?_⟩
    exact fun u hu p hp => List.mem_cons_of_mem t (h.closed u hu p hp)

theorem legal_drain (hg : g.WellFormed) {fuel : Nat} {done : List Nat} {s : Progress} (h : s.After g done) :
    g.Legal done (drain g fuel s) := by
  induction fuel generalizing done s with
  | zero => trivial
  | succ fuel ih =>
    rw [drain]
    split
    · trivial
    · rename_i t ready hready
      have ht := (h.mem_ready t).1 (hready ▸ List.mem_cons_self)
      exact ⟨ht.1, ht.2.1, ht.2.2, ih (h.step hg hready)⟩

/-- A run with enough fuel only stops when all tables are written: the table at the end of a chain of
unwritten ones would be ready. -/
theorem mem_drain (hg : g.WellFormed) (hacc : ∀ t < g.size, Acc g.Precedes t) {fuel : Nat} {done : List Nat}
    {s : Progress} (h : s.After g done) (hdone : done.Nodup) (hrange : ∀ t ∈ done, t < g.size)
    (hfuel : g.size ≤ fuel + done.length) {t : Nat} (ht : t < g.size) : t ∈ done ∨ t ∈ drain g fuel s := by
  induction fuel generalizing done s with
  | zero =>
    have hsub : done ⊆ List.range g.size := fun u hu => List.mem_range.2 (hrange u hu)
    have hperm := (List.subperm_of_subset hdone hsub).perm_of_length_le (by rw [List.length_range]; omega)
    exact .inl (hperm.mem_iff.2 (List.mem_range.2 ht))
  | succ fuel ih =>
    rw [drain]
    split
    · rename_i hready
      left
      clear ih
      induction hacc t ht with
      | intro t _ ihacc =>
        by_contra hnew
        have hp : ∀ p ∈ g.precedentsOf t, p ∈ done := fun p hp => ihacc p hp (hg.lt_size t p hp)
        have hmem := (h.mem_ready t).2 ⟨ht, hnew, hp⟩
        rw [hready] at hmem
        exact List.not_mem_nil hmem
    · rename_i u ready hready
      obtain ⟨hu, hnew, _⟩ := (h.mem_ready u).1 (hready ▸ List.mem_cons_self)
      have hrest := ih (h.step hg hready) (List.nodup_cons.2 ⟨hnew, hdone⟩) (List.forall_mem_cons.2 ⟨hu, hrange⟩)
        (by rw [List.length_cons]; omega)
      rw [List.mem_cons] at hrest ⊢
      rcases hrest with (rfl | hmem) | hmem
      · exact .inr (.inl rfl)
      · exact .inl hmem
      · exact .inr (.inr hmem)

/-- The order in which tables are written, where there is one, is legal and holds every table. -/
theorem writeOrder_eq_ok (hg : g.WellFormed) {order : List Nat} (h : g.writeOrder = .ok order) :
    g.Legal [] order ∧ order.Perm (List.range g.size) := by
  unfold writeOrder at h
  split at h
  · cases h
  · rename_i hcycle
    cases h
    have hlegal : g.Legal [] (drain g g.size g.start) := legal_drain hg (after_start hg)
    refine ⟨hlegal, (List.perm_ext_iff_of_nodup hlegal.nodup.1 List.nodup_range).2 fun t => ?_⟩
    constructor
    · exact fun ht => List.mem_range.2 (hlegal.lt_size t ht)
    · intro ht
      have hdrain : t ∈ [] ∨ t ∈ drain g g.size g.start := mem_drain hg (fun _ => acc_of_cycle?_eq_none hg hcycle)
        (after_start hg) List.nodup_nil (by simp) (Nat.le_refl _) (List.mem_range.1 ht)
      exact hdrain.resolve_left List.not_mem_nil

end TableGraph

end SheetTemplate
