import Mathlib.Data.List.Chain
import Mathlib.Data.List.Nodup
import Mathlib.Logic.Relation
import SheetTemplate.Proofs.Failure
import SheetTemplate.Proofs.TableGraph.Search

/-!
# Cycles that are found

The search goes down one path, from each table to one that it refers to. Where it meets a table of the path
again, the part of the path from there on is closed by that table, so what it reports is a cycle of the graph
and not merely a sign that there is one.
-/

namespace SheetTemplate

/-! ### Closed paths -/

section Paths

variable {α : Type} {r : α → α → Prop}

theorem exists_transGen_of_isChain {path : List α} (steps : path.IsChain r) (closed : path.head? = path.getLast?)
    (long : 3 ≤ path.length) : ∃ a, Relation.TransGen r a a := by
  match path, long with
  | a :: b :: rest, _ =>
    rw [List.isChain_cons_cons] at steps
    rw [List.head?_cons, List.getLast?_cons_cons, eq_comm, List.getLast?_eq_some_getLast (List.cons_ne_nil b rest),
      Option.some.injEq] at closed
    exact ⟨a, .head' steps.1 (List.relationReflTransGen_of_exists_isChain_cons rest steps.2 closed)⟩

theorem not_transGen_of_acc {a : α} (h : Acc (fun y x => r x y) a) : ¬Relation.TransGen r a a := by
  induction h with
  | intro a _ ih =>
    intro hloop
    obtain ⟨b, hb, hrest⟩ := Relation.TransGen.head'_iff.1 hloop
    exact ih b hb (.tail' hrest hb)

end Paths

namespace TableGraph

variable {g : TableGraph}

/-- A closed path through distinct tables, at least two, on which each table refers to the next. -/
structure IsCycle (g : TableGraph) (c : List Nat) : Prop where
  steps : c.IsChain fun t p => g.Precedes p t
  closed : c.head? = c.getLast?
  distinct : c.dropLast.Nodup
  long : 3 ≤ c.length

private theorem isCycle_closeAt (hself : ∀ t, ¬g.Precedes t t) {t : Nat} {path : List Nat} (ht : t ∈ path)
    (hpath : (t :: path).IsChain g.Precedes) (hnodup : path.Nodup) : g.IsCycle (closeAt t path) := by
  obtain ⟨before, rest, rfl, hnew⟩ := List.eq_append_cons_of_mem ht
  have htake : (before ++ t :: rest).takeWhile (· ≠ t) = before := by
    rw [List.takeWhile_append_of_pos fun u hu => decide_eq_true (ne_of_mem_of_not_mem hu hnew)]
    simp
  have hloop : (t :: before ++ [t]).IsChain g.Precedes := by
    rw [← List.cons_append, List.append_cons] at hpath
    exact hpath.left_of_append
  have hne : before ≠ [] := by
    rintro rfl
    exact hself t (List.isChain_pair.1 hloop)
  unfold closeAt
  rw [htake]
  refine ⟨?_, by rw [List.getLast?_concat]; rfl, ?_, ?_⟩
  · rw [← List.isChain_reverse]
    simpa using hloop
  · rw [List.dropLast_concat, List.nodup_cons, List.mem_reverse, List.nodup_reverse]
    exact ⟨hnew, (List.nodup_append.1 hnodup).1⟩
  · have := List.length_pos_iff.2 hne
    simp
    omega

/-- A failing visit reports a cycle: the path before it runs from each table to one that it refers to. -/
theorem visit_eq_error (hself : ∀ t, ¬g.Precedes t t) {fuel : Nat} {path visited c : List Nat} {t : Nat}
    (h : visit g fuel path visited t = .error c) (hpath : (t :: path).IsChain g.Precedes) (hnodup : path.Nodup) :
    g.IsCycle c := by
  induction fuel generalizing path visited t with
  | zero => cases h
  | succ fuel ih =>
    rw [visit] at h
    split at h
    · rename_i hseen
      cases h
      exact isCycle_closeAt hself (by simpa using hseen) hpath hnodup
    rename_i hnew
    split at h
    · cases h
    · obtain ⟨p, hp, s, hstep⟩ := foldlM_eq_error h
      exact ih hstep (.cons_cons hp hpath) (List.nodup_cons.2 ⟨by simpa using hnew, hnodup⟩)

theorem isCycle_of_cycle? (hself : ∀ t, ¬g.Precedes t t) {c : List Nat} (h : g.cycle? = some c) : g.IsCycle c := by
  unfold cycle? at h
  split at h
  · rename_i hsearch
    cases h
    obtain ⟨t, _, s, hvisit⟩ := foldlM_eq_error hsearch
    exact visit_eq_error hself hvisit (.singleton t) List.nodup_nil
  · cases h

/-! ### Edges -/

@[simp] theorem length_precedents_add (d p : Nat) : (g.add d p).precedents.length = g.precedents.length := by
  unfold add
  split <;> simp

@[simp] theorem names_add (d p : Nat) : (g.add d p).names = g.names := by
  unfold add
  split <;> rfl

@[simp] theorem not_precedes_ofNames (names : List String) (q t : Nat) : ¬(ofNames names).Precedes q t := by
  simp [Precedes]

theorem precedes_add {d : Nat} (hd : d < g.precedents.length) (p q t : Nat) :
    (g.add d p).Precedes q t ↔ g.Precedes q t ∨ t = d ∧ q = p ∧ q ≠ t := by
  unfold Precedes
  rw [precedentsOf_add]
  split
  · rename_i h
    obtain ⟨rfl, hne, _⟩ := h
    rw [mem_insertAscending, or_comm]
    grind
  · grind

end TableGraph

end SheetTemplate
