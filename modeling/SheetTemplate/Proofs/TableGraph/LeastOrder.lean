import SheetTemplate.Proofs.TableGraph.Cycle
import SheetTemplate.Proofs.TableGraph.WriteOrder

/-!
# The first of all orders

Tables can be written in any order in which each comes after those that it refers to. Of these orders the one that is
taken is the first, read like words in a dictionary: at every place stands the first declared table that can come
there, and no two orders with that property differ. The counts behind the ready tables are exact, so on the way no
table is released that waits for nothing.
-/

namespace SheetTemplate

namespace TableGraph

variable {g : TableGraph}

/-! ### Ready tables -/

def Ready (g : TableGraph) (done : List Nat) (t : Nat) : Prop :=
  t < g.size ∧ t ∉ done ∧ ∀ p ∈ g.precedentsOf t, p ∈ done

theorem ready_congr {done done' : List Nat} (h : ∀ t, t ∈ done ↔ t ∈ done') (t : Nat) : g.Ready done t ↔ g.Ready done' t := by
  simp only [Ready, h]

theorem legal_of_ready {done order : List Nat}
    (h : ∀ before t after, order = before ++ t :: after → g.Ready (before ++ done) t) : g.Legal done order := by
  induction order generalizing done with
  | nil => trivial
  | cons t rest ih =>
    obtain ⟨ht, hnew, hprecedents⟩ := h [] t rest rfl
    refine ⟨ht, hnew, hprecedents, ih fun before u after hrest => ?_⟩
    refine (ready_congr (fun v => ?_) u).1 (h (t :: before) u after (by rw [hrest, List.cons_append]))
    simp only [List.mem_append, List.mem_cons]
    tauto

/-! ### First come first -/

/-- Every table of an order is the first declared of those that are ready in its place. -/
def Greedy (g : TableGraph) : List Nat → List Nat → Prop
  | _, [] => True
  | done, t :: rest => (∀ u, g.Ready done u → t ≤ u) ∧ Greedy g (t :: done) rest

theorem Greedy.le_of_append {done before after : List Nat} {t : Nat} (h : g.Greedy done (before ++ t :: after)) {u : Nat}
    (hu : g.Ready (before ++ done) u) : t ≤ u := by
  induction before generalizing done with
  | nil => exact h.1 u hu
  | cons v before ih =>
    refine ih h.2 ((ready_congr (fun w => ?_) u).1 hu)
    simp only [List.mem_append, List.mem_cons]
    tauto

/-- No legal order of the same tables comes before a greedy one. -/
theorem Greedy.first {done order other : List Nat} (h : g.Greedy done order) (hother : g.Legal done other)
    (hperm : other.Perm order) : order = other ∨ List.Lex (· < ·) order other := by
  induction order generalizing done other with
  | nil => exact .inl (List.perm_nil.1 hperm).symm
  | cons t rest ih =>
    cases other with
    | nil => exact absurd hperm.symm (List.not_perm_cons_nil)
    | cons u others =>
      obtain ⟨hu, hnew, hprecedents, hothers⟩ := hother
      rcases Nat.lt_or_eq_of_le (h.1 u ⟨hu, hnew, hprecedents⟩) with hlt | rfl
      · exact .inr (.rel hlt)
      · exact (ih h.2 hothers hperm.cons_inv).imp (congrArg (t :: ·)) .cons

theorem Greedy.unique {done order other : List Nat} (h : g.Greedy done order) (hlegal : g.Legal done order)
    (hother : g.Greedy done other) (hotherLegal : g.Legal done other) (hperm : other.Perm order) : order = other := by
  induction order generalizing done other with
  | nil => exact (List.perm_nil.1 hperm).symm
  | cons t rest ih =>
    cases other with
    | nil => exact absurd hperm.symm (List.not_perm_cons_nil)
    | cons u others =>
      obtain ⟨ht, htnew, htprecedents, hrest⟩ := hlegal
      obtain ⟨hu, hunew, huprecedents, hothers⟩ := hotherLegal
      obtain rfl : t = u := Nat.le_antisymm (h.1 u ⟨hu, hunew, huprecedents⟩) (hother.1 t ⟨ht, htnew, htprecedents⟩)
      exact congrArg (t :: ·) (ih h.2 hrest hother.2 hothers hperm.cons_inv)

theorem greedy_drain (hg : g.WellFormed) {fuel : Nat} {done : List Nat} {s : Progress} (h : s.After g done) :
    g.Greedy done (drain g fuel s) := by
  induction fuel generalizing done s with
  | zero => trivial
  | succ fuel ih =>
    rw [drain]
    split
    · trivial
    · rename_i t ready hready
      refine ⟨fun u hu => ?_, ih (h.step hg hready)⟩
      have hascending := h.ascending
      have hmem := (h.mem_ready u).2 hu
      rw [hready] at hascending hmem
      rcases List.mem_cons.1 hmem with rfl | hlater
      · exact Nat.le_refl u
      · exact Nat.le_of_lt ((List.pairwise_cons.1 hascending).1 u hlater)

/-! ### Counts that stay above zero -/

/-- Tables are released one after another, each of them waiting for something at that time. -/
inductive Progress.Releases : Progress → List Nat → Progress → Prop
  | nil (s : Progress) : Releases s [] s
  | cons {s s' : Progress} {d n : Nat} {ds : List Nat} (waits : s.pending[d]? = some (n + 1))
    (others : Releases (s.release d) ds s') : Releases s (d :: ds) s'

/-- A run of the ordering: while tables are ready, the first is written and those that refer to it are released. -/
inductive Run (g : TableGraph) : Progress → List Nat → Prop
  | stop {s : Progress} (hready : s.ready = []) : Run g s []
  | write {s s' : Progress} {t : Nat} {ready order : List Nat} (hready : s.ready = t :: ready)
    (releases : Progress.Releases { s with ready } (g.dependentsOf t) s') (others : Run g s' order) : Run g s (t :: order)

theorem releases_foldl {ds : List Nat} (hds : ds.Nodup) {s : Progress}
    (hwaits : ∀ d ∈ ds, ∃ n, s.pending[d]? = some (n + 1)) : s.Releases ds (ds.foldl Progress.release s) := by
  induction ds generalizing s with
  | nil => exact .nil s
  | cons d ds ih =>
    obtain ⟨hd, hds⟩ := List.nodup_cons.1 hds
    obtain ⟨⟨n, hn⟩, hothers⟩ := List.forall_mem_cons.1 hwaits
    refine .cons hn (ih hds fun e he => ?_)
    rw [pending_release, if_neg (ne_of_mem_of_not_mem he hd)]
    exact hothers e he

theorem run_drain (hg : g.WellFormed) {fuel : Nat} {done : List Nat} {s : Progress} (h : s.After g done)
    (hdone : done.Nodup) (hrange : ∀ t ∈ done, t < g.size) (hfuel : g.size ≤ fuel + done.length) :
    g.Run s (drain g fuel s) := by
  induction fuel generalizing done s with
  | zero =>
    refine .stop (List.eq_nil_iff_forall_not_mem.2 fun t ht => ?_)
    obtain ⟨hlt, hnew, _⟩ := (h.mem_ready t).1 ht
    have hlength := length_le_of_lt (List.nodup_cons.2 ⟨hnew, hdone⟩) (List.forall_mem_cons.2 ⟨hlt, hrange⟩)
    rw [List.length_cons] at hlength
    omega
  | succ fuel ih =>
    rw [drain]
    split
    · rename_i hready
      exact .stop hready
    · rename_i t ready hready
      obtain ⟨ht, hnew, _⟩ := (h.mem_ready t).1 (hready ▸ List.mem_cons_self)
      refine .write hready (releases_foldl (hg.nodup_dependentsOf t) fun d hd => ?_) (ih (h.step hg hready)
        (List.nodup_cons.2 ⟨hnew, hdone⟩) (List.forall_mem_cons.2 ⟨ht, hrange⟩) (by rw [List.length_cons]; omega))
      -- A table that refers to the one written now still waits for it.
      have hmem := (hg.mirror d t).1 hd
      have hpositive : g.awaited done d ≠ 0 := fun hzero => hnew (awaited_eq_zero_iff.1 hzero t hmem)
      obtain ⟨n, hn⟩ := Nat.exists_eq_succ_of_ne_zero hpositive
      exact ⟨n, (h.pending d (hg.dependent_lt_size hmem)).trans (congrArg some hn)⟩

theorem writeOrder_eq_drain {order : List Nat} (h : g.writeOrder = .ok order) : order = drain g g.size g.start := by
  unfold writeOrder at h
  split at h
  · cases h
  · exact (Except.ok.inj h).symm

theorem greedy_writeOrder (hg : g.WellFormed) {order : List Nat} (h : g.writeOrder = .ok order) : g.Greedy [] order :=
  writeOrder_eq_drain h ▸ greedy_drain hg (after_start hg)

/-! ### Graphs of references -/

def ofReferences (names : List String) (references : List (Nat × Nat)) : TableGraph :=
  references.foldl (fun g r => g.add r.1 r.2) (.ofNames names)

def Refers (references : List (Nat × Nat)) (t q : Nat) : Prop := t ≠ q ∧ (t, q) ∈ references

section References

variable {names : List String} {references : List (Nat × Nat)}

private theorem wellFormed_foldl_references (hg : g.WellFormed) (h : ∀ r ∈ references, r.1 < g.size ∧ r.2 < g.size) :
    (references.foldl (fun g r => g.add r.1 r.2) g).WellFormed ∧
      (references.foldl (fun g r => g.add r.1 r.2) g).size = g.size ∧
      ∀ q t, (references.foldl (fun g r => g.add r.1 r.2) g).Precedes q t ↔ g.Precedes q t ∨ Refers references t q := by
  induction references generalizing g with
  | nil => exact ⟨hg, rfl, fun q t => by simp [Refers]⟩
  | cons r references ih =>
    obtain ⟨⟨hd, hp⟩, hrest⟩ := List.forall_mem_cons.1 h
    have hsize := size_add g r.1 r.2
    obtain ⟨hwf, hsame, hedges⟩ := ih (hg.add hd hp) (by rw [hsize]; exact hrest)
    refine ⟨hwf, hsame.trans hsize, fun q t => ?_⟩
    rw [List.foldl_cons, hedges, precedes_add (by rw [hg.length_eq]; exact hd)]
    obtain ⟨d, p⟩ := r
    simp only [Refers, List.mem_cons, Prod.mk.injEq]
    grind

theorem wellFormed_ofReferences (h : ∀ r ∈ references, r.1 < names.length ∧ r.2 < names.length) :
    (ofReferences names references).WellFormed :=
  (wellFormed_foldl_references (wellFormed_ofNames names) h).1

theorem size_ofReferences (h : ∀ r ∈ references, r.1 < names.length ∧ r.2 < names.length) :
    (ofReferences names references).size = names.length :=
  (wellFormed_foldl_references (wellFormed_ofNames names) h).2.1

theorem precedes_ofReferences (h : ∀ r ∈ references, r.1 < names.length ∧ r.2 < names.length) (q t : Nat) :
    (ofReferences names references).Precedes q t ↔ Refers references t q := by
  rw [ofReferences, (wellFormed_foldl_references (wellFormed_ofNames names) h).2.2]
  simp

end References

/-! ### The order of references -/

/-- All tables, each once and after those that it refers to. -/
structure IsOrder (names : List String) (references : List (Nat × Nat)) (order : List Nat) : Prop where
  perm : order.Perm (List.range names.length)
  after : ∀ before t rest, order = before ++ t :: rest → ∀ q, Refers references t q → q ∈ before

section Order

variable {names : List String} {references : List (Nat × Nat)}

theorem isOrder_iff_legal (h : ∀ r ∈ references, r.1 < names.length ∧ r.2 < names.length) {order : List Nat} :
    IsOrder names references order ↔
      (ofReferences names references).Legal [] order ∧ order.Perm (List.range names.length) := by
  constructor
  · intro horder
    refine ⟨legal_of_ready fun before t rest hsplit => ?_, horder.perm⟩
    have hnodup : (before ++ t :: rest).Nodup := hsplit ▸ horder.perm.nodup_iff.2 List.nodup_range
    have ht : t ∈ order := hsplit ▸ List.mem_append_right before List.mem_cons_self
    rw [Ready, size_ofReferences h, List.append_nil]
    refine ⟨List.mem_range.1 (horder.perm.mem_iff.1 ht), fun hmem => ?_, fun q hq => ?_⟩
    · exact (List.nodup_append.1 hnodup).2.2 t hmem t List.mem_cons_self rfl
    · exact horder.after before t rest hsplit q ((precedes_ofReferences h q t).1 hq)
  · rintro ⟨hlegal, hperm⟩
    refine ⟨hperm, fun before t rest hsplit q hq => ?_⟩
    have hbefore := (hsplit ▸ hlegal).mem_of_precedes ((precedes_ofReferences h q t).2 hq)
    exact hbefore.resolve_left List.not_mem_nil

theorem exists_writeOrder_iff (h : ∀ r ∈ references, r.1 < names.length ∧ r.2 < names.length) :
    (∃ order, (ofReferences names references).writeOrder = .ok order) ↔
      ∀ t, ¬Relation.TransGen (Refers references) t t := by
  have hg := wellFormed_ofReferences h
  have hrefers : ∀ t q, (ofReferences names references).Precedes q t ↔ Refers references t q := fun t q =>
    precedes_ofReferences h q t
  constructor
  · rintro ⟨order, horder⟩ t hloop
    obtain ⟨q, hq, _⟩ := Relation.TransGen.head'_iff.1 hloop
    have ht : t < (ofReferences names references).size := by
      rw [size_ofReferences h]
      exact (h _ hq.2).1
    have hacc := acc_of_writeOrder hg horder ht
    exact not_transGen_of_acc hacc (Relation.TransGen.mono (fun t q => (hrefers t q).2) t t hloop)
  · intro hacyclic
    unfold writeOrder
    split
    · rename_i c hcycle
      have hself : ∀ t, ¬(ofReferences names references).Precedes t t := fun t ht => ((hrefers t t).1 ht).1 rfl
      have hc := isCycle_of_cycle? hself hcycle
      obtain ⟨t, ht⟩ := exists_transGen_of_isChain hc.steps hc.closed hc.long
      exact absurd (Relation.TransGen.mono (fun t q => (hrefers t q).1) t t ht) (hacyclic t)
    · exact ⟨_, rfl⟩

end Order

/-- There is an order unless references between tables run in a cycle. It holds every table after those that it refers
to; at every place it has the first declared table that could come there, so no such order comes before it; and no
count goes below zero on the way. -/
theorem writeOrder_first (names : List String) (references : List (Nat × Nat))
    (h : ∀ r ∈ references, r.1 < names.length ∧ r.2 < names.length) :
    ((∃ order, (ofReferences names references).writeOrder = .ok order) ↔
      ∀ t, ¬Relation.TransGen (Refers references) t t) ∧
    ∀ order, (ofReferences names references).writeOrder = .ok order →
      IsOrder names references order ∧
      (∀ before t rest, order = before ++ t :: rest → ∀ u < names.length, u ∉ before →
        (∀ q, Refers references u q → q ∈ before) → t ≤ u) ∧
      (∀ other, IsOrder names references other → order = other ∨ List.Lex (· < ·) order other) ∧
      (ofReferences names references).Run (ofReferences names references).start order := by
  refine ⟨exists_writeOrder_iff h, fun order horder => ?_⟩
  have hg := wellFormed_ofReferences h
  have hsize := size_ofReferences h
  have hgreedy := greedy_writeOrder hg horder
  obtain ⟨hlegal, hperm⟩ := writeOrder_eq_ok hg horder
  rw [hsize] at hperm
  refine ⟨(isOrder_iff_legal h).2 ⟨hlegal, hperm⟩, ?_, ?_, ?_⟩
  · intro before t rest hsplit u hu hnew hprecedents
    refine (hsplit ▸ hgreedy).le_of_append ?_
    rw [Ready, hsize, List.append_nil]
    exact ⟨hu, hnew, fun q hq => hprecedents q ((precedes_ofReferences h q u).1 hq)⟩
  · intro other hother
    obtain ⟨hotherLegal, hotherPerm⟩ := (isOrder_iff_legal h).1 hother
    exact hgreedy.first hotherLegal (hotherPerm.trans hperm.symm)
  · rw [writeOrder_eq_drain horder]
    exact run_drain hg (after_start hg) List.nodup_nil (by simp) (Nat.le_refl _)

/-- Orders refer to customers and to items, of which customers are declared first. -/
theorem customers_first :
    (ofReferences ["orders", "customers", "items"] [(0, 2), (0, 1), (1, 1)]).writeOrder = .ok [1, 2, 0] ∧
    IsOrder ["orders", "customers", "items"] [(0, 2), (0, 1), (1, 1)] [1, 2, 0] ∧
    (ofReferences ["orders", "customers", "items"] [(0, 2), (0, 1), (1, 1)]).Run
      (ofReferences ["orders", "customers", "items"] [(0, 2), (0, 1), (1, 1)]).start [1, 2, 0] := by
  have horder : (ofReferences ["orders", "customers", "items"] [(0, 2), (0, 1), (1, 1)]).writeOrder = .ok [1, 2, 0] := rfl
  obtain ⟨hisOrder, _, _, hrun⟩ :=
    (writeOrder_first ["orders", "customers", "items"] [(0, 2), (0, 1), (1, 1)] (by decide)).2 _ horder
  exact ⟨horder, hisOrder, hrun⟩

end TableGraph

end SheetTemplate
