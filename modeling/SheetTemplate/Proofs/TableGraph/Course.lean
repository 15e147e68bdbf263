import SheetTemplate.Proofs.TableGraph.LeastOrder

/-!
# The course of the search

A search that finds a cycle reports the cycle and forgets where it has been. Kept in either case, the tables that are
entered turn out to be distinct, so no table is entered twice. The search goes on from a table only to the tables that it
refers to, and it enters all of them unless a cycle ends it, so there is a cycle exactly if one is found.
-/

namespace SheetTemplate

namespace TableGraph

/-! ### Searching with a record -/

/-- Where a search stands: the tables that it has entered, the last one first, and the cycle that has ended it. -/
structure Course where
  entered : List Nat
  cycle : Option (List Nat)

namespace Course

def step (next : List Nat → Nat → Course) (s : Course) (t : Nat) : Course :=
  if s.cycle.isSome then s else next s.entered t

def result (s : Course) : Except (List Nat) (List Nat) :=
  match s.cycle with
  | some c => .error c
  | none => .ok s.entered

theorem foldlM_eq_result {f : List Nat → Nat → Except (List Nat) (List Nat)} {next : List Nat → Nat → Course}
    (h : ∀ entered t, f entered t = (next entered t).result) (ts : List Nat) (s : Course) :
    (s.result >>= fun entered => ts.foldlM f entered) = (ts.foldl (step next) s).result := by
  induction ts generalizing s with
  | nil => exact bind_pure s.result
  | cons t ts ih =>
    rw [List.foldl_cons, ← ih]
    obtain ⟨entered, cycle⟩ := s
    cases cycle with
    | some c => rfl
    | none =>
      change ((t :: ts).foldlM f entered) = _
      rw [List.foldlM_cons, h]
      rfl

end Course

/-- Enters a table from the end of a path, with a record of the tables that have been entered. -/
def explore (g : TableGraph) : Nat → List Nat → List Nat → Nat → Course
  | 0, _, entered, _ => ⟨entered, none⟩
  | fuel + 1, path, entered, t =>
    if path.contains t then ⟨entered, some (closeAt t path)⟩
    else if entered.contains t then ⟨entered, none⟩
    else (g.precedentsOf t).foldl (Course.step (explore g fuel (t :: path))) ⟨t :: entered, none⟩

def searchWithin (g : TableGraph) (bound : Nat) : Course :=
  (List.range g.size).foldl (Course.step (explore g bound [])) ⟨[], none⟩

/-- The search of the whole graph: a path of distinct tables is no longer than their number. -/
def search (g : TableGraph) : Course := g.searchWithin (g.size + 1)

variable {g : TableGraph}

theorem visit_eq_explore (fuel : Nat) (path entered : List Nat) (t : Nat) :
    visit g fuel path entered t = (explore g fuel path entered t).result := by
  induction fuel generalizing path entered t with
  | zero => rfl
  | succ fuel ih =>
    rw [visit, explore]
    split
    · rfl
    split
    · rfl
    · exact Course.foldlM_eq_result (ih (t :: path)) (g.precedentsOf t) ⟨t :: entered, none⟩

theorem cycle?_eq_search (g : TableGraph) : g.cycle? = g.search.cycle := by
  have hsearch : (List.range g.size).foldlM (visit g (g.size + 1) []) [] = g.search.result :=
    Course.foldlM_eq_result (visit_eq_explore (g.size + 1) []) (List.range g.size) ⟨[], none⟩
  rw [cycle?, hsearch, Course.result]
  cases g.search.cycle <;> rfl

/-- The bound ends no search, as a path has no repetition. -/
theorem explore_succ (hg : g.WellFormed) {fuel : Nat} {path entered : List Nat} {t : Nat}
    (hfuel : g.size < fuel + path.length) (hnodup : path.Nodup) (hpath : ∀ p ∈ path, p < g.size) (ht : t < g.size) :
    explore g (fuel + 1) path entered t = explore g fuel path entered t := by
  induction fuel generalizing path entered t with
  | zero =>
    have hlength := length_le_of_lt hnodup hpath
    omega
  | succ fuel ih =>
    rw [explore, explore]
    split
    · rfl
    rename_i hnew
    split
    · rfl
    · refine List.foldl_ext _ _ _ fun s p hp => ?_
      unfold Course.step
      rw [ih (by rw [List.length_cons]; omega) (List.nodup_cons.2 ⟨by simpa using hnew, hnodup⟩)
        (List.forall_mem_cons.2 ⟨ht, hpath⟩) (hg.lt_size t p hp)]

theorem searchWithin_eq (hg : g.WellFormed) {bound : Nat} (h : g.size < bound) : g.searchWithin bound = g.search := by
  induction bound, h using Nat.le_induction with
  | base => rfl
  | succ bound hbound ih =>
    rw [← ih]
    refine List.foldl_ext _ _ _ fun s t ht => ?_
    have hlong : g.size < bound + ([] : List Nat).length := hbound
    have hnone : ∀ p ∈ ([] : List Nat), p < g.size := by simp
    unfold Course.step
    rw [explore_succ hg hlong List.nodup_nil hnone (List.mem_range.1 ht)]

/-! ### The tables that are entered -/

namespace Course

/-- What a search from the end of a path keeps to: it enters distinct tables of the graph, those of the path and of the
cycle that it finds among them. -/
structure Recorded (g : TableGraph) (path : List Nat) (s : Course) : Prop where
  nodup : s.entered.Nodup
  lt_size : ∀ t ∈ s.entered, t < g.size
  path_subset : path ⊆ s.entered
  cycle_subset : ∀ c, s.cycle = some c → c ⊆ s.entered

variable {path entered ts : List Nat} {next : List Nat → Nat → Course} {s : Course}

theorem Recorded.fold (hnext : ∀ t ∈ ts, ∀ entered, Recorded g path ⟨entered, none⟩ → Recorded g path (next entered t))
    (hs : s.Recorded g path) : (ts.foldl (step next) s).Recorded g path := by
  refine List.foldlRecOn ts (step next) hs fun s hs t ht => ?_
  obtain ⟨entered, cycle⟩ := s
  cases cycle with
  | some c => exact hs
  | none => exact hnext t ht entered hs

theorem subset_foldl (hnext : ∀ entered t, entered ⊆ (next entered t).entered) :
    s.entered ⊆ (ts.foldl (step next) s).entered := by
  refine List.foldlRecOn ts (step next) (motive := fun c => s.entered ⊆ c.entered) (List.Subset.refl _) fun c hc t _ => ?_
  obtain ⟨entered, cycle⟩ := c
  cases cycle with
  | some _ => exact hc
  | none => exact List.Subset.trans hc (hnext entered t)

theorem foldl_of_cycle {c : List Nat} (h : s.cycle = some c) : ts.foldl (step next) s = s := by
  induction ts with
  | nil => rfl
  | cons t ts ih =>
    have hstep : step next s t = s := by simp [step, h]
    rw [List.foldl_cons, hstep, ih]

/-- A search that no cycle has ended has gone through all tables. -/
theorem mem_foldl (hgrow : ∀ entered t, entered ⊆ (next entered t).entered)
    (hnext : ∀ entered t, (next entered t).cycle = none → t ∈ (next entered t).entered)
    (hnone : (ts.foldl (step next) s).cycle = none) : ∀ t ∈ ts, t ∈ (ts.foldl (step next) s).entered := by
  induction ts generalizing s with
  | nil => exact fun _ ht => absurd ht List.not_mem_nil
  | cons t ts ih =>
    rw [List.foldl_cons] at hnone ⊢
    refine List.forall_mem_cons.2 ⟨?_, ih hnone⟩
    cases hstep : (step next s t).cycle with
    | some c =>
      rw [foldl_of_cycle hstep, hstep] at hnone
      cases hnone
    | none =>
      refine subset_foldl hgrow ?_
      cases hs : s.cycle with
      | some c => simp [step, hs] at hstep
      | none =>
        have heq : step next s t = next s.entered t := by simp [step, hs]
        rw [heq] at hstep ⊢
        exact hnext s.entered t hstep

end Course

theorem recorded_explore (hg : g.WellFormed) {fuel : Nat} {path entered : List Nat} {t : Nat} (ht : t < g.size)
    (h : Course.Recorded g path ⟨entered, none⟩) : (explore g fuel path entered t).Recorded g path := by
  induction fuel generalizing path entered t with
  | zero => exact h
  | succ fuel ih =>
    rw [explore]
    split
    · rename_i hmem
      have htake : closeAt t path ⊆ entered := by
        have ht : t ∈ entered := h.path_subset (by simpa using hmem)
        have hpath : path.takeWhile (· ≠ t) ⊆ entered :=
          List.Subset.trans (List.takeWhile_subset _) h.path_subset
        simpa [closeAt, ht] using hpath
      exact ⟨h.nodup, h.lt_size, h.path_subset, fun c hc => Option.some.inj hc ▸ htake⟩
    split
    · exact h
    · rename_i hnew
      -- The table is the end of the path from which its precedents are entered.
      have hfirst : Course.Recorded g (t :: path) ⟨t :: entered, none⟩ :=
        ⟨List.nodup_cons.2 ⟨by simpa using hnew, h.nodup⟩, List.forall_mem_cons.2 ⟨ht, h.lt_size⟩,
          List.cons_subset_cons t h.path_subset, fun c hc => by cases hc⟩
      have hrest : Course.Recorded g (t :: path)
          ((g.precedentsOf t).foldl (Course.step (explore g fuel (t :: path))) ⟨t :: entered, none⟩) :=
        hfirst.fold fun p hp _ hentered => ih (hg.lt_size t p hp) hentered
      exact ⟨hrest.nodup, hrest.lt_size, fun p hp => hrest.path_subset (List.mem_cons_of_mem t hp), hrest.cycle_subset⟩

theorem subset_explore (fuel : Nat) (path entered : List Nat) (t : Nat) :
    entered ⊆ (explore g fuel path entered t).entered := by
  induction fuel generalizing path entered t with
  | zero => exact List.Subset.refl _
  | succ fuel ih =>
    rw [explore]
    split
    · exact List.Subset.refl _
    split
    · exact List.Subset.refl _
    · have hrest : t :: entered ⊆
          ((g.precedentsOf t).foldl (Course.step (explore g fuel (t :: path))) ⟨t :: entered, none⟩).entered :=
        Course.subset_foldl (s := ⟨t :: entered, none⟩) (ih (t :: path))
      exact fun x hx => hrest (List.mem_cons_of_mem t hx)

theorem mem_explore {fuel : Nat} {path entered : List Nat} {t : Nat}
    (h : (explore g (fuel + 1) path entered t).cycle = none) : t ∈ (explore g (fuel + 1) path entered t).entered := by
  rw [explore] at h ⊢
  split at h
  · cases h
  rename_i hnew
  rw [if_neg hnew]
  split
  · rename_i hmem
    simpa using hmem
  · exact Course.subset_foldl (subset_explore fuel (t :: path)) List.mem_cons_self

theorem recorded_search (hg : g.WellFormed) : g.search.Recorded g [] :=
  Course.Recorded.fold (fun _ ht _ h => recorded_explore hg (List.mem_range.1 ht) h)
    ⟨List.nodup_nil, by simp, List.nil_subset _, fun c hc => by cases hc⟩

theorem perm_search (hg : g.WellFormed) (h : g.search.cycle = none) : g.search.entered.Perm (List.range g.size) := by
  have hrecorded := recorded_search hg
  refine (List.perm_ext_iff_of_nodup hrecorded.nodup List.nodup_range).2 fun t => ⟨fun ht => ?_, fun ht => ?_⟩
  · exact List.mem_range.2 (hrecorded.lt_size t ht)
  · exact Course.mem_foldl (subset_explore (g.size + 1) []) (fun _ _ => mem_explore) h t ht

/-! ### Cycles of references -/

def Reaches (references : List (Nat × Nat)) : Nat → Nat → Prop := Relation.TransGen fun t q => (t, q) ∈ references

section References

variable {names : List String} {references : List (Nat × Nat)} {t u : Nat}

private theorem reflTransGen_refers (h : Reaches references t u) : Relation.ReflTransGen (Refers references) t u := by
  have hstep : ∀ {t q : Nat}, (t, q) ∈ references → Relation.ReflTransGen (Refers references) t q := by
    intro t q hq
    by_cases heq : t = q
    · rw [heq]
    · exact .single ⟨heq, hq⟩
  induction h with
  | single h => exact hstep h
  | tail _ h ih => exact ih.trans (hstep h)

/-- A table that comes back to itself on the way of references between tables passes another one. -/
theorem exists_transGen_refers_iff : (∃ t, Relation.TransGen (Refers references) t t) ↔
    ∃ t u, t ≠ u ∧ Reaches references t u ∧ Reaches references u t := by
  have hmono : ∀ {t u : Nat}, Relation.TransGen (Refers references) t u → Reaches references t u :=
    fun h => Relation.TransGen.mono (fun _ _ hrefers => hrefers.2) _ _ h
  constructor
  · rintro ⟨t, hloop⟩
    obtain ⟨u, hu, hback⟩ := Relation.TransGen.head'_iff.1 hloop
    rcases Relation.reflTransGen_iff_eq_or_transGen.1 hback with heq | hback
    · exact absurd heq hu.1
    · exact ⟨t, u, hu.1, hmono (.single hu), hmono hback⟩
  · rintro ⟨t, u, hne, hthere, hback⟩
    rcases Relation.reflTransGen_iff_eq_or_transGen.1 (reflTransGen_refers hthere) with heq | hthere
    · exact absurd heq.symm hne
    · exact ⟨t, hthere.trans_left (reflTransGen_refers hback)⟩

theorem names_ofReferences (names : List String) (references : List (Nat × Nat)) :
    (ofReferences names references).names = names := by
  have hnames : ∀ g : TableGraph, (references.foldl (fun g r => g.add r.1 r.2) g).names = g.names := by
    intro g
    induction references generalizing g with
    | nil => rfl
    | cons r references ih => rw [List.foldl_cons, ih, names_add]
  exact hnames (ofNames names)

theorem cycle?_eq_none_iff (h : ∀ r ∈ references, r.1 < names.length ∧ r.2 < names.length) :
    (ofReferences names references).cycle? = none ↔
      ¬∃ t u, t ≠ u ∧ Reaches references t u ∧ Reaches references u t := by
  rw [← exists_transGen_refers_iff, not_exists]
  refine Iff.trans ?_ (exists_writeOrder_iff h)
  rw [writeOrder]
  cases (ofReferences names references).cycle? with
  | none => exact iff_of_true rfl ⟨_, rfl⟩
  | some c => exact iff_of_false (Option.some_ne_none c) fun ⟨_, horder⟩ => by cases horder

end References

/-- The search finds a cycle exactly if distinct tables refer to each other in one, and what it finds is one. On the way
it enters no table twice, and all of them where there is no cycle; it is ended by a cycle or by the last table, and never
by a bound on its depth. The error names the tables of the cycle. -/
theorem cycle?_ofReferences (names : List String) (references : List (Nat × Nat))
    (h : ∀ r ∈ references, r.1 < names.length ∧ r.2 < names.length) :
    ((ofReferences names references).cycle? = none ↔
      ¬∃ t u, t ≠ u ∧ Reaches references t u ∧ Reaches references u t) ∧
    (∀ c, (ofReferences names references).cycle? = some c →
      3 ≤ c.length ∧ c.head? = c.getLast? ∧ c.dropLast.Nodup ∧ c.IsChain (fun t q => (t, q) ∈ references) ∧
      ∃ tables, List.Forall₂ (fun t name => names[t]? = some name) c tables ∧
        (ofReferences names references).writeOrder = .error (.cyclicReference tables)) ∧
    (∀ e, (ofReferences names references).writeOrder = .error e → ∃ c, (ofReferences names references).cycle? = some c) ∧
    ((ofReferences names references).cycle? = (ofReferences names references).search.cycle ∧
      (ofReferences names references).search.entered.Nodup ∧
      (∀ c, (ofReferences names references).search.cycle = some c → c ⊆ (ofReferences names references).search.entered) ∧
      ((ofReferences names references).search.cycle = none →
        (ofReferences names references).search.entered.Perm (List.range names.length)) ∧
      ∀ bound, names.length < bound →
        (ofReferences names references).searchWithin bound = (ofReferences names references).search) := by
  have hg := wellFormed_ofReferences h
  have hsize := size_ofReferences h
  have hsearch := cycle?_eq_search (ofReferences names references)
  have hrecorded := recorded_search hg
  refine ⟨cycle?_eq_none_iff h, fun c hc => ?_, fun e he => ?_, hsearch, hrecorded.nodup, hrecorded.cycle_subset,
    fun hnone => hsize ▸ perm_search hg hnone, fun bound hbound => searchWithin_eq hg (hsize ▸ hbound)⟩
  · have hself : ∀ t, ¬(ofReferences names references).Precedes t t := fun t ht =>
      ((precedes_ofReferences h t t).1 ht).1 rfl
    have hcycle := isCycle_of_cycle? hself hc
    have hsteps : c.IsChain fun t q => (t, q) ∈ references :=
      hcycle.steps.imp fun t q hq => ((precedes_ofReferences h q t).1 hq).2
    refine ⟨hcycle.long, hcycle.closed, hcycle.distinct, hsteps, _, ?_, by rw [writeOrder, hc]⟩
    rw [names_ofReferences, List.forall₂_map_right_iff, List.forall₂_same]
    intro t ht
    have hlt := hrecorded.lt_size t (hrecorded.cycle_subset c (hsearch ▸ hc) ht)
    rw [hsize] at hlt
    rw [List.getElem?_eq_getElem hlt, Option.getD_some]
  · unfold writeOrder at he
    split at he
    · rename_i c hc
      exact ⟨c, hc⟩
    · cases he

/-- Of a root and two tables that refer to each other, the cycle is found from the root. -/
theorem cycle_behind_root : (ofReferences ["root", "a", "b"] [(0, 1), (1, 2), (2, 1)]).cycle? = some [1, 2, 1] ∧
    (∃ t u, t ≠ u ∧ Reaches [(0, 1), (1, 2), (2, 1)] t u ∧ Reaches [(0, 1), (1, 2), (2, 1)] u t) ∧
    (ofReferences ["root", "a", "b"] [(0, 1), (1, 2), (2, 1)]).writeOrder = .error (.cyclicReference ["a", "b", "a"]) ∧
    (ofReferences ["root", "a", "b"] [(0, 1), (1, 2), (2, 1)]).search.entered = [2, 1, 0] ∧
    [2, 1, 0].Nodup := by
  have hcycle : (ofReferences ["root", "a", "b"] [(0, 1), (1, 2), (2, 1)]).cycle? = some [1, 2, 1] := rfl
  have hentered : (ofReferences ["root", "a", "b"] [(0, 1), (1, 2), (2, 1)]).search.entered = [2, 1, 0] := rfl
  obtain ⟨hnone, hfound, _, _, hnodup, _⟩ :=
    cycle?_ofReferences ["root", "a", "b"] [(0, 1), (1, 2), (2, 1)] (by decide)
  obtain ⟨_, _, _, _, tables, htables, herror⟩ := hfound _ hcycle
  have htables : tables = ["a", "b", "a"] := by
    cases htables with
    | cons h htables => cases htables with
      | cons h' htables => cases htables with
        | cons h'' htables =>
          cases htables
          cases h
          cases h'
          cases h''
          rfl
  refine ⟨hcycle, not_not.1 (mt hnone.2 (by rw [hcycle]; exact Option.some_ne_none _)), htables ▸ herror, hentered, ?_⟩
  exact hentered ▸ hnodup

end TableGraph

end SheetTemplate
