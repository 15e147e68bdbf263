import SheetTemplate.Proofs.Resolution.WellFormed
import SheetTemplate.Proofs.TableGraph.LeastOrder

/-!
# One more table

A table that is declared after all others can refer to them, but as long as they make a package without it none of
them refers to it. So it is written last, its lists are pooled last, and what the others resolve to stays as it is.
-/

namespace SheetTemplate

/-! ### The order -/

namespace TableGraph

/-- A graph and the same with one more table, to which no other refers. -/
structure Extends (g g' : TableGraph) : Prop where
  size_eq : g'.size = g.size + 1
  precedes_iff : ∀ t < g.size, ∀ q, g'.Precedes q t ↔ g.Precedes q t
  precedes_last : ∀ q, g'.Precedes q g.size → q < g.size

private theorem covered_cons {n t : Nat} {done rest : List Nat} (h : ∀ u < n, u ∈ done ∨ u ∈ t :: rest) :
    ∀ u < n, u ∈ t :: done ∨ u ∈ rest := by
  intro u hu
  have hcovered := h u hu
  rw [List.mem_cons] at hcovered ⊢
  tauto

namespace Extends

variable {g g' : TableGraph} (h : g.Extends g')
include h

theorem ready_iff {done : List Nat} {t : Nat} (ht : t < g.size) : g'.Ready done t ↔ g.Ready done t := by
  have hprecedents : ∀ q, q ∈ g'.precedentsOf t ↔ q ∈ g.precedentsOf t := h.precedes_iff t ht
  have ht' : t < g'.size := h.size_eq ▸ Nat.lt_succ_of_lt ht
  simp only [Ready, hprecedents, ht, ht', true_and]

theorem legal_append {done order : List Nat} (hlegal : g.Legal done order) (hdone : ∀ t ∈ done, t < g.size)
    (hall : ∀ t < g.size, t ∈ done ∨ t ∈ order) : g'.Legal done (order ++ [g.size]) := by
  induction order generalizing done with
  | nil =>
    refine ⟨by rw [h.size_eq]; exact Nat.lt_succ_self _, fun hmem => Nat.lt_irrefl _ (hdone _ hmem), fun q hq => ?_, trivial⟩
    exact (hall q (h.precedes_last q hq)).resolve_right List.not_mem_nil
  | cons t rest ih =>
    obtain ⟨ht, hnew, hprecedents, hrest⟩ := hlegal
    obtain ⟨ht', hnew', hprecedents'⟩ := (h.ready_iff ht).2 ⟨ht, hnew, hprecedents⟩
    refine ⟨ht', hnew', hprecedents', ?_⟩
    exact ih hrest (List.forall_mem_cons.2 ⟨ht, hdone⟩) (covered_cons hall)

theorem greedy_append {done order : List Nat} (hlegal : g.Legal done order) (hgreedy : g.Greedy done order)
    (hall : ∀ t < g.size, t ∈ done ∨ t ∈ order) : g'.Greedy done (order ++ [g.size]) := by
  induction order generalizing done with
  | nil =>
    refine ⟨fun u hu => Nat.not_lt.1 fun hlt => ?_, trivial⟩
    exact hu.2.1 ((hall u hlt).resolve_right List.not_mem_nil)
  | cons t rest ih =>
    obtain ⟨ht, _, _, hrest⟩ := hlegal
    refine ⟨fun u hu => ?_, ih hrest hgreedy.2 (covered_cons hall)⟩
    rcases Nat.lt_or_ge u g.size with hlt | hge
    · exact hgreedy.1 u ((h.ready_iff hlt).1 hu)
    · exact (Nat.le_of_lt ht).trans hge

theorem writeOrder_eq (hg : g.WellFormed) (hg' : g'.WellFormed) {order order' : List Nat}
    (horder : g.writeOrder = .ok order) (horder' : g'.writeOrder = .ok order') : order' = order ++ [g.size] := by
  obtain ⟨hlegal, hperm⟩ := writeOrder_eq_ok hg horder
  obtain ⟨hlegal', hperm'⟩ := writeOrder_eq_ok hg' horder'
  have hall : ∀ t < g.size, t ∈ ([] : List Nat) ∨ t ∈ order := fun t ht =>
    .inr (hperm.mem_iff.2 (List.mem_range.2 ht))
  refine (greedy_writeOrder hg' horder').unique hlegal' (h.greedy_append hlegal (greedy_writeOrder hg horder) hall)
    (h.legal_append hlegal (fun _ ht => absurd ht List.not_mem_nil) hall) ?_
  rw [h.size_eq, List.range_succ] at hperm'
  exact (hperm.append_right _).trans hperm'.symm

end Extends

end TableGraph

/-! ### Keys -/

def Package.add (p : Package) (last : Table) : Package where
  tables := p.tables ++ [last]

variable {p : Package} {o : Options} {last : Table}

theorem Package.tables_add (p : Package) (last : Table) : (p.add last).tables = p.tables ++ [last] := rfl

theorem Package.table?_add {name : String} {t : Table} (h : p.table? name = some t) :
    (p.add last).table? name = some t := by
  rw [Package.table?, Package.tables_add, List.find?_append]
  exact Option.or_of_isSome (Option.isSome_of_eq_some h) |>.trans h

theorem Package.tableIndex?_add {name : String} {i : Nat} (h : p.tableIndex? name = some i) :
    (p.add last).tableIndex? name = some i := by
  rw [Package.tableIndex?, Package.tables_add, List.findIdx?_append]
  exact Option.or_of_isSome (Option.isSome_of_eq_some h) |>.trans h

theorem resolveKey_add {t : Table} {k : ForeignKey} {key : ResolvedKey} (h : resolveKey p t k = .ok key) :
    resolveKey (p.add last) t k = .ok key := by
  unfold resolveKey at h ⊢
  obtain ⟨_, hlengths, h⟩ := bind_eq_ok.1 h
  refine bind_eq_ok.2 ⟨_, hlengths, ?_⟩
  dsimp only at h ⊢
  split at h
  · rename_i index target hindex htarget
    rw [Package.tableIndex?_add hindex, Package.table?_add htarget]
    exact h
  · cases h

theorem resolveTable_add [Libraries] {t : Table} {ks : List ResolvedKey} (h : resolveTable p t = .ok ks) :
    resolveTable (p.add last) t = .ok ks := by
  unfold resolveTable at h ⊢
  simp only [bind_eq_ok, mapM_eq_ok] at h ⊢
  obtain ⟨keys, hkeys, hrest⟩ := h
  exact ⟨keys, hkeys.imp fun _ _ => resolveKey_add, hrest⟩

theorem keys_add [Libraries] {keys keys' : List (List ResolvedKey)} (h : p.tables.mapM (resolveTable p) = .ok keys)
    (h' : (p.add last).tables.mapM (resolveTable (p.add last)) = .ok keys') : ∃ ks, keys' = keys ++ [ks] := by
  have hsame : p.tables.mapM (resolveTable (p.add last)) = .ok keys :=
    mapM_eq_ok.2 ((mapM_eq_ok.1 h).imp fun _ _ => resolveTable_add)
  rw [Package.tables_add, List.mapM_append, hsame] at h'
  simp only [List.mapM_cons, List.mapM_nil, bind_eq_ok, pure_eq_ok, Except.ok.injEq] at h'
  obtain ⟨_, rfl, _, ⟨ks, _, _, rfl, rfl⟩, rfl⟩ := h'
  exact ⟨ks, rfl⟩

theorem extends_add {keys : List (List ResolvedKey)} {ks : List ResolvedKey} (h : KeysOf p keys)
    (h' : KeysOf (p.add last) (keys ++ [ks])) :
    (referenceGraph p keys).Extends (referenceGraph (p.add last) (keys ++ [ks])) := by
  have hsize : (referenceGraph (p.add last) (keys ++ [ks])).size = (referenceGraph p keys).size + 1 := by
    rw [h.size_eq, h'.size_eq, Package.tables_add, List.length_append, List.length_singleton]
  refine ⟨hsize, fun t ht q => ?_, fun q hq => ?_⟩
  · rw [TableGraph.precedes_referenceGraph h.length_eq.symm, TableGraph.precedes_referenceGraph h'.length_eq.symm,
      List.getElem?_append_left (by rwa [← h.length_eq, ← h.size_eq])]
  · have hlt := h'.wellFormed.lt_size _ q hq
    have hne := ((TableGraph.precedes_referenceGraph h'.length_eq.symm _ _).1 hq).1
    omega

/-! ### Lists -/

/-- A sheet of lists is there if it was, by the same name and with the same lists in front. -/
def ListsGrow (lists lists' : Option EnumSheet) : Prop :=
  ∀ s, lists = some s → ∃ s', lists' = some s' ∧ s'.name = s.name ∧ s.columns <+: s'.columns

theorem EnumPool.sheet?_grow {pool pool' : EnumPool} (h : pool.lists.toList <+: pool'.lists.toList) (name : String) :
    ListsGrow (pool.sheet? name) (pool'.sheet? name) := by
  intro s hs
  obtain ⟨hne, hs⟩ := Option.ite_none_left_eq_some.1 hs
  cases hs
  refine ⟨_, if_neg fun hempty => hne ?_, rfl, h⟩
  rw [← Array.isEmpty_toList, List.isEmpty_iff] at hempty ⊢
  exact List.prefix_nil.1 (hempty ▸ h)

theorem placeAll_append (profile : Profile) (tables : List Table) (last : Table) :
    EnumPool.placeAll profile (tables ++ [last]) .empty =
      let placed := EnumPool.placeAll profile tables .empty
      let lists := last.fields.mapM (EnumPool.place profile) placed.2
      (placed.1 ++ [lists.1], lists.2) := by
  rw [EnumPool.placeAll, List.mapM_append]
  rfl

theorem prefix_entries_add : p.entries o <+: (p.add last).entries o := by
  have hlists : (p.add last).lists o = p.lists o ++ last.fields.flatMap fun f => (EnumPool.entered? o.profile f).toList := by
    rw [Package.lists, Package.tables_add, List.flatMap_append, List.flatMap_singleton, Package.lists]
  rw [Package.entries, Package.entries, hlists, List.foldl_append]
  exact EnumPool.prefix_foldl_enter _ _

theorem lists_placeAll_add : (EnumPool.placeAll o.profile p.tables .empty).2.lists.toList <+:
    (EnumPool.placeAll o.profile (p.add last).tables .empty).2.lists.toList := by
  rw [(EnumPool.holds_placeAll p o).1.lists, (EnumPool.holds_placeAll (p.add last) o).1.lists]
  exact prefix_entries_add.map Prod.snd

/-! ### The resolution -/

theorem tables_resolution_add {keys : List (List ResolvedKey)} (hkeys : keys.length = p.tables.length)
    (ks : List ResolvedKey) (order order' : List Nat) :
    ∃ rs, ((p.add last).resolution o (keys ++ [ks]) order').tables = (p.resolution o keys order).tables ++ [rs] := by
  have hcolumns := (EnumPool.holds_placeAll p o).2.length_eq
  refine ⟨(last.fields.map (linksOf ks)).zipWith FieldResolution.mk
    (last.fields.mapM (EnumPool.place o.profile) (EnumPool.placeAll o.profile p.tables .empty).2).1, ?_⟩
  simp only [Package.resolution, Package.tables_add, placeAll_append]
  rw [List.zip_append hkeys.symm, List.map_append, List.zip_append (by simp [hkeys, ← hcolumns]), List.map_append]
  rfl

theorem sequence_add {r r' : Resolution} {rs : List FieldResolution} (horder : r'.order = r.order ++ [p.tables.length])
    (htables : r'.tables = r.tables ++ [rs]) (hlength : r.tables.length = p.tables.length)
    (hlt : ∀ i ∈ r.order, i < p.tables.length) : r'.sequence (p.add last) = r.sequence p ++ [(last, rs)] := by
  rw [Resolution.sequence, horder, htables, List.filterMap_append, Package.tables_add, Resolution.sequence]
  congr 1
  · refine List.filterMap_congr fun i hi => ?_
    rw [List.getElem?_append_left (hlt i hi), List.getElem?_append_left (hlength.symm ▸ hlt i hi)]
  · simp [← hlength]

/-- What a package resolves to, and what it resolves to with one more table. -/
theorem resolve_add [Libraries] {r r' : Resolution} (h : resolve p o = .ok r) (h' : resolve (p.add last) o = .ok r') :
    (∃ rs, r'.sequence (p.add last) = r.sequence p ++ [(last, rs)]) ∧ ListsGrow r.enumSheet r'.enumSheet ∧
      r'.warnings = r.warnings ++ last.fields.filterMap (formulaLike? last) := by
  have hwarnings : r'.warnings = r.warnings ++ last.fields.filterMap (formulaLike? last) := by
    rw [warnings_of_resolve h', warnings_of_resolve h, Package.tables_add, List.flatMap_append, List.flatMap_singleton]
  obtain ⟨_, hresolved⟩ := resolve_eq_ok h
  obtain ⟨_, _, keys, hkeys, _, order, horder, rfl⟩ := resolve_eq_ok_iff.1 h
  obtain ⟨_, _, keys', hkeys', _, order', horder', rfl⟩ := resolve_eq_ok_iff.1 h'
  obtain ⟨ks, rfl⟩ := keys_add hkeys hkeys'
  have hkeysOf := (keysOf_of_mapM hkeys).1
  have hkeysOf' := (keysOf_of_mapM hkeys').1
  obtain rfl := (extends_add hkeysOf hkeysOf').writeOrder_eq hkeysOf.wellFormed hkeysOf'.wellFormed horder horder'
  obtain ⟨rs, hrs⟩ := tables_resolution_add hkeysOf.length_eq.symm ks order (order ++ [(referenceGraph p keys).size])
  refine ⟨⟨rs, sequence_add ?_ hrs hresolved.tables.length_eq.symm fun i hi => ?_⟩, ?_, hwarnings⟩
  · rw [← hkeysOf.size_eq]
    rfl
  · exact List.mem_range.1 (hresolved.order.mem_iff.1 hi)
  · exact EnumPool.sheet?_grow lists_placeAll_add o.enumSheet

end SheetTemplate
