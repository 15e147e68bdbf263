import Mathlib.Logic.Relation
import SheetTemplate.Proofs.Distinct
import SheetTemplate.Proofs.Resolution.Keys
import SheetTemplate.Proofs.TableGraph.Cycle

/-!
# References by name

The graph that orders the tables knows them by index, and a package declares its references by name. Where
names are distinct and every key leads somewhere the two say the same, so a cycle of the graph is a cycle of
the declared references and the other way round.
-/

namespace SheetTemplate

/-! ### Edges of the graph -/

namespace TableGraph

private theorem precedes_foldl_add {g : TableGraph} {d : Nat} (hd : d < g.precedents.length) (keys : List ResolvedKey) :
    (keys.foldl (fun g key => g.add d key.target) g).precedents.length = g.precedents.length ∧
      ∀ q t, (keys.foldl (fun g key => g.add d key.target) g).Precedes q t ↔
        g.Precedes q t ∨ q ≠ t ∧ t = d ∧ ∃ key ∈ keys, key.target = q := by
  induction keys generalizing g with
  | nil => simp
  | cons key keys ih =>
    obtain ⟨hlength, hedges⟩ := ih (g := g.add d key.target) (by simpa using hd)
    refine ⟨by simpa using hlength, fun q t => ?_⟩
    rw [List.foldl_cons, hedges, precedes_add hd, List.exists_mem_cons_iff]
    grind

private theorem precedes_foldl_foldl_add {g : TableGraph} {keys : List (List ResolvedKey × Nat)}
    (hkeys : ∀ ks ∈ keys, ks.2 < g.precedents.length) (q t : Nat) :
    (keys.foldl (fun g (keys, table) => keys.foldl (fun g key => g.add table key.target) g) g).Precedes q t ↔
      g.Precedes q t ∨ q ≠ t ∧ ∃ ks ∈ keys, ks.2 = t ∧ ∃ key ∈ ks.1, key.target = q := by
  induction keys generalizing g with
  | nil => simp
  | cons ks keys ih =>
    obtain ⟨hks, hrest⟩ := List.forall_mem_cons.1 hkeys
    obtain ⟨hlength, hedges⟩ := precedes_foldl_add hks ks.1
    rw [List.foldl_cons, ih (by rw [hlength]; exact hrest), hedges, List.exists_mem_cons_iff]
    grind

theorem precedes_referenceGraph {p : Package} {keys : List (List ResolvedKey)} (hlength : keys.length = p.tables.length)
    (q t : Nat) : (referenceGraph p keys).Precedes q t ↔
      q ≠ t ∧ ∃ ks, keys[t]? = some ks ∧ ∃ key ∈ ks, key.target = q := by
  have hrange : ∀ ks ∈ keys.zipIdx, ks.2 < (ofNames (p.tables.map (·.name))).precedents.length := by
    intro ks hks
    have := List.snd_lt_of_mem_zipIdx hks
    simp [ofNames]
    omega
  rw [referenceGraph, precedes_foldl_foldl_add hrange]
  simp only [not_precedes_ofNames, false_or, Prod.exists, List.mk_mem_zipIdx_iff_getElem?]
  grind

theorem names_referenceGraph (p : Package) (keys : List (List ResolvedKey)) :
    (referenceGraph p keys).names = p.tables.map (·.name) := by
  have hinner : ∀ (keys : List ResolvedKey) (t : Nat) (g : TableGraph),
      (keys.foldl (fun g key => g.add t key.target) g).names = g.names := by
    intro keys t g
    induction keys generalizing g with
    | nil => rfl
    | cons key keys ih => rw [List.foldl_cons, ih, names_add]
  have houter : ∀ (keys : List (List ResolvedKey × Nat)) (g : TableGraph),
      (keys.foldl (fun g (keys, table) => keys.foldl (fun g key => g.add table key.target) g) g).names = g.names := by
    intro keys g
    induction keys generalizing g with
    | nil => rfl
    | cons ks keys ih => rw [List.foldl_cons, ih, hinner]
  exact houter _ _

end TableGraph

/-! ### Tables by index and by name -/

namespace Package

variable {p : Package}

theorem getElem?_of_tableIndex? {name : String} {i : Nat} (h : p.tableIndex? name = some i) :
    ∃ t, p.tables[i]? = some t ∧ t.name = name := by
  obtain ⟨hi, hname, _⟩ := List.findIdx?_eq_some_iff_getElem.1 h
  exact ⟨p.tables[i], List.getElem?_eq_getElem hi, by simpa using hname⟩

theorem index_inj (hnames : (p.tables.map (·.name)).Nodup) {i j : Nat} {t u : Table} (ht : p.tables[i]? = some t)
    (hu : p.tables[j]? = some u) (h : t.name = u.name) : i = j := by
  obtain ⟨hi, rfl⟩ := List.getElem?_eq_some_iff.1 ht
  obtain ⟨hj, rfl⟩ := List.getElem?_eq_some_iff.1 hu
  rw [← List.length_map (·.name)] at hi hj
  have hequal : (p.tables.map (·.name)).get ⟨i, hi⟩ = (p.tables.map (·.name)).get ⟨j, hj⟩ := by simpa using h
  exact hnames.getElem_inj_iff.1 hequal

def RefersTo (p : Package) (a b : String) : Prop :=
  a ≠ b ∧ ∃ t ∈ p.tables, t.name = a ∧ ∃ k ∈ t.foreignKeys, k.reference.tableOr t.name = b

/-- A closed path of references through distinct tables, at least two. -/
structure ReferenceCycle (p : Package) (names : List String) : Prop where
  steps : names.IsChain p.RefersTo
  closed : names.head? = names.getLast?
  distinct : names.dropLast.Nodup
  long : 3 ≤ names.length

theorem ReferenceCycle.transGen {names : List String} (h : p.ReferenceCycle names) :
    ∃ a, Relation.TransGen p.RefersTo a a :=
  exists_transGen_of_isChain h.steps h.closed h.long

end Package

/-! ### Keys that lead to tables -/

abbrev KeysOf (p : Package) (keys : List (List ResolvedKey)) : Prop :=
  List.Forall₂ (fun t ks => List.Forall₂ (fun k key => resolveKey p t k = .ok key) t.foreignKeys ks) p.tables keys

theorem resolveKey_target {p : Package} {t : Table} {k : ForeignKey} {key : ResolvedKey} (h : resolveKey p t k = .ok key) :
    p.tableIndex? (k.reference.tableOr t.name) = some key.target := by
  unfold resolveKey at h
  simp only [bind_eq_ok, refuseIf_eq_ok] at h
  obtain ⟨_, _, h⟩ := h
  split at h
  · rename_i hindex _
    simp only [bind_eq_ok, pure_eq_ok] at h
    obtain ⟨_, _, rfl⟩ := h
    exact hindex
  · cases h

namespace KeysOf

variable {p : Package} {keys : List (List ResolvedKey)}

theorem target_lt (hkeys : KeysOf p keys) : ∀ ks ∈ keys, ∀ key ∈ ks, key.target < p.tables.length := by
  intro ks hks key hkey
  obtain ⟨t, _, hresolves⟩ := exists_of_forall₂_right hkeys hks
  obtain ⟨k, _, hk⟩ := exists_of_forall₂_right hresolves hkey
  exact Package.tableIndex?_lt (resolveKey_target hk)

theorem precedes_iff (hkeys : KeysOf p keys) (hnames : (p.tables.map (·.name)).Nodup) {i j : Nat} {t u : Table}
    (ht : p.tables[i]? = some t) (hu : p.tables[j]? = some u) :
    (referenceGraph p keys).Precedes j i ↔ p.RefersTo t.name u.name := by
  rw [TableGraph.precedes_referenceGraph hkeys.length_eq.symm]
  obtain ⟨ks, hks, hresolves⟩ := getElem?_of_forall₂ hkeys ht
  constructor
  · rintro ⟨hne, ks', hks', key, hkey, rfl⟩
    obtain rfl : ks = ks' := Option.some.inj (hks.symm.trans hks')
    obtain ⟨k, hk, hkeyOf⟩ := exists_of_forall₂_right hresolves hkey
    obtain ⟨u', hu', hname⟩ := Package.getElem?_of_tableIndex? (resolveKey_target hkeyOf)
    obtain rfl : u = u' := Option.some.inj (hu.symm.trans hu')
    exact ⟨fun heq => hne (Package.index_inj hnames hu ht heq.symm), t, List.mem_of_getElem? ht, rfl, k, hk, hname.symm⟩
  · rintro ⟨hne, t', ht', hname, k, hk, hto⟩
    obtain rfl : t' = t := eq_of_key_eq hnames ht' (List.mem_of_getElem? ht) hname
    obtain ⟨key, hkey, hkeyOf⟩ := exists_of_forall₂_left hresolves hk
    obtain ⟨u', hu', hname'⟩ := Package.getElem?_of_tableIndex? (resolveKey_target hkeyOf)
    have hj : key.target = j := Package.index_inj hnames hu' hu (hname'.trans hto)
    refine ⟨fun heq => hne ?_, ks, hks, key, hkey, hj⟩
    rw [heq, ht, Option.some.injEq] at hu
    rw [hu]

theorem exists_tables (hkeys : KeysOf p keys) {i j : Nat} (h : (referenceGraph p keys).Precedes j i) :
    ∃ t u, p.tables[i]? = some t ∧ p.tables[j]? = some u := by
  obtain ⟨_, ks, hks, key, hkey, rfl⟩ := (TableGraph.precedes_referenceGraph hkeys.length_eq.symm j i).1 h
  have hi : i < p.tables.length := by
    rw [hkeys.length_eq]
    exact (List.getElem?_eq_some_iff.1 hks).1
  have hlt := hkeys.target_lt ks (List.mem_of_getElem? hks) key hkey
  exact ⟨_, _, List.getElem?_eq_getElem hi, List.getElem?_eq_getElem hlt⟩

theorem wellFormed (hkeys : KeysOf p keys) : (referenceGraph p keys).WellFormed :=
  (wellFormed_referenceGraph hkeys.length_eq.symm hkeys.target_lt).1

theorem size_eq (hkeys : KeysOf p keys) : (referenceGraph p keys).size = p.tables.length :=
  (wellFormed_referenceGraph hkeys.length_eq.symm hkeys.target_lt).2

/-! ### Cycles -/

private theorem name_eq (keys : List (List ResolvedKey)) {i : Nat} {t : Table} (ht : p.tables[i]? = some t) :
    ((referenceGraph p keys).names[i]?).getD "" = t.name := by
  rw [TableGraph.names_referenceGraph, List.getElem?_map, ht]
  rfl

private theorem acc_name (hkeys : KeysOf p keys) (hnames : (p.tables.map (·.name)).Nodup) {i : Nat}
    (h : Acc (referenceGraph p keys).Precedes i) {t : Table} (ht : p.tables[i]? = some t) :
    Acc (fun b a => p.RefersTo a b) t.name := by
  induction h generalizing t with
  | intro i _ ih =>
    refine ⟨_, fun b hb => ?_⟩
    have hrefers := hb
    obtain ⟨_, t', ht', hname, k, hk, rfl⟩ := hb
    obtain rfl : t' = t := eq_of_key_eq hnames ht' (List.mem_of_getElem? ht) hname
    obtain ⟨ks, _, hresolves⟩ := getElem?_of_forall₂ hkeys ht
    obtain ⟨key, _, hkeyOf⟩ := exists_of_forall₂_left hresolves hk
    obtain ⟨u, hu, huname⟩ := Package.getElem?_of_tableIndex? (resolveKey_target hkeyOf)
    rw [← huname] at hrefers ⊢
    exact ih key.target ((hkeys.precedes_iff hnames ht hu).2 hrefers) hu

theorem acyclic_of_writeOrder (hkeys : KeysOf p keys) (hnames : (p.tables.map (·.name)).Nodup) {order : List Nat}
    (h : (referenceGraph p keys).writeOrder = .ok order) (a : String) : ¬Relation.TransGen p.RefersTo a a := by
  intro hloop
  obtain ⟨b, ⟨_, t, ht, rfl, _⟩, _⟩ := Relation.TransGen.head'_iff.1 hloop
  obtain ⟨i, hi⟩ := List.getElem?_of_mem ht
  have hlt : i < (referenceGraph p keys).size := by
    rw [hkeys.size_eq]
    exact (List.getElem?_eq_some_iff.1 hi).1
  exact not_transGen_of_acc (hkeys.acc_name hnames (TableGraph.acc_of_writeOrder hkeys.wellFormed h hlt) hi) hloop

theorem cycle_of_writeOrder (hkeys : KeysOf p keys) (hnames : (p.tables.map (·.name)).Nodup) {e : Error}
    (h : (referenceGraph p keys).writeOrder = .error e) : ∃ names, e = .cyclicReference names ∧ p.ReferenceCycle names := by
  unfold TableGraph.writeOrder at h
  split at h
  · rename_i c hcycle
    cases h
    have hcycle := TableGraph.isCycle_of_cycle?
      (fun t ht => ((TableGraph.precedes_referenceGraph hkeys.length_eq.symm t t).1 ht).1 rfl) hcycle
    -- On the way round every table has a next one, so it is a table of the package.
    have hnext : ∀ t ∈ c.dropLast, ∃ q, (referenceGraph p keys).Precedes q t := by
      intro t ht
      obtain ⟨q, _, hq⟩ := exists_of_forall₂_left (List.isChain_iff_forall₂.1 hcycle.steps) ht
      exact ⟨q, hq⟩
    refine ⟨_, rfl, List.isChain_map_of_isChain _ (fun t q hq => ?_) hcycle.steps, ?_, ?_, ?_⟩
    · obtain ⟨u, v, hu, hv⟩ := hkeys.exists_tables hq
      rw [name_eq keys hu, name_eq keys hv]
      exact (hkeys.precedes_iff hnames hu hv).1 hq
    · rw [List.head?_map, List.getLast?_map, hcycle.closed]
    · rw [← List.map_dropLast]
      refine hcycle.distinct.map_on fun t ht u hu heq => ?_
      obtain ⟨_, hq⟩ := hnext t ht
      obtain ⟨_, hr⟩ := hnext u hu
      obtain ⟨v, _, hv, _⟩ := hkeys.exists_tables hq
      obtain ⟨w, _, hw, _⟩ := hkeys.exists_tables hr
      rw [name_eq keys hv, name_eq keys hw] at heq
      exact Package.index_inj hnames hv hw heq
    · rw [List.length_map]
      exact hcycle.long
  · cases h

end KeysOf

end SheetTemplate
