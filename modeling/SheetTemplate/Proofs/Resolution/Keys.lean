import SheetTemplate.Proofs.Success
import SheetTemplate.Proofs.TableGraph.WriteOrder

/-!
# Keys that pass

A key that passes leads to a table of the package, and each of its pairs joins two fields of one type.
What a field refers to can then be read off the declared keys alone.
-/

namespace SheetTemplate

/-! ### Fields and tables by name -/

theorem Table.name_of_field? {t : Table} {name : String} {f : Field} (h : t.field? name = some f) : f.name = name := by
  simpa using List.find?_some h

theorem Package.name_of_table? {p : Package} {name : String} {t : Table} (h : p.table? name = some t) :
    t.name = name := by
  simpa using List.find?_some h

theorem Package.tableIndex?_lt {p : Package} {name : String} {i : Nat} (h : p.tableIndex? name = some i) :
    i < p.tables.length := by
  obtain ⟨hi, _⟩ := List.findIdx?_eq_some_iff_getElem.1 h
  exact hi

/-! ### Keys -/

def Matched (t target : Table) (pair : String × String) : Prop :=
  ∃ f g, t.field? pair.1 = some f ∧ target.field? pair.2 = some g ∧ f.type = g.type

theorem resolvePair_eq_ok {t target : Table} {name : String} {pair : String × String} {link : String × Link}
    (h : resolvePair t target name pair = .ok link) :
    Matched t target pair ∧ link = (pair.1, ⟨target.name, pair.2⟩) := by
  unfold resolvePair at h
  split at h
  · cases h
  · cases h
  · rename_i f g hf hg
    split at h
    · rename_i htype
      cases h
      rw [Table.name_of_field? hf, Table.name_of_field? hg]
      exact ⟨⟨f, g, hf, hg, htype⟩, rfl⟩
    · cases h

/-- A key that leads to a table of the package, with its pairs as links to that table. -/
structure ResolvedKey.Resolves (p : Package) (t : Table) (k : ForeignKey) (key : ResolvedKey) : Prop where
  target_lt : key.target < p.tables.length
  table : ∃ target, p.table? (k.reference.tableOr t.name) = some target ∧ ∀ pair ∈ k.pairs, Matched t target pair
  links_eq : key.links = k.pairs.map fun pair => (pair.1, ⟨k.reference.tableOr t.name, pair.2⟩)

theorem resolveKey_eq_ok {p : Package} {t : Table} {k : ForeignKey} {key : ResolvedKey}
    (h : resolveKey p t k = .ok key) : key.Resolves p t k := by
  unfold resolveKey at h
  simp only [bind_eq_ok, refuseIf_eq_ok] at h
  obtain ⟨_, _, h⟩ := h
  split at h
  · rename_i index target hindex htarget
    rw [bind_eq_ok] at h
    obtain ⟨links, hlinks, hkey⟩ := h
    rw [pure_eq_ok] at hkey
    subst hkey
    have hpairs := mapM_eq_ok.1 hlinks
    have hname := Package.name_of_table? htarget
    have hmatched : ∀ pair ∈ k.pairs, Matched t target pair := by
      intro pair hpair
      obtain ⟨i, hi, rfl⟩ := List.getElem_of_mem hpair
      exact (resolvePair_eq_ok (hpairs.get hi (hpairs.length_eq ▸ hi))).1
    refine ⟨Package.tableIndex?_lt hindex, ⟨target, htarget, hmatched⟩, ?_⟩
    have hlinks : List.Forall₂ (fun pair link => (pair.1, ⟨k.reference.tableOr t.name, pair.2⟩) = link) k.pairs links :=
      hpairs.imp fun pair link hlink => by rw [(resolvePair_eq_ok hlink).2, hname]
    rw [← List.forall₂_map_left_iff, List.forall₂_eq_eq_eq] at hlinks
    exact hlinks.symm
  · cases h

/-- The columns that a field refers to, as declared, in the order of declaration. -/
def Table.declaredLinks (t : Table) (field : String) : List Link :=
  t.foreignKeys.flatMap fun k => k.pairs.filterMap fun pair =>
    if pair.1 = field then some ⟨k.reference.tableOr t.name, pair.2⟩ else none

theorem Table.mem_declaredLinks {t : Table} {field : String} {link : Link} : link ∈ t.declaredLinks field ↔
    ∃ k ∈ t.foreignKeys, ∃ pair ∈ k.pairs, pair.1 = field ∧ link = ⟨k.reference.tableOr t.name, pair.2⟩ := by
  simp only [declaredLinks, List.mem_flatMap, List.mem_filterMap, Option.ite_none_right_eq_some, Option.some.injEq,
    @eq_comm _ link]

private theorem flatMap_links {p : Package} {t : Table} {ks : List ForeignKey} {keys : List ResolvedKey}
    (h : List.Forall₂ (fun k key => key.Resolves p t k) ks keys) :
    keys.flatMap (·.links) = ks.flatMap fun k => k.pairs.map fun pair =>
      (pair.1, ⟨k.reference.tableOr t.name, pair.2⟩) := by
  induction h with
  | nil => rfl
  | cons hkey _ ih => rw [List.flatMap_cons, List.flatMap_cons, hkey.links_eq, ih]

theorem linksOf_eq {p : Package} {t : Table} {keys : List ResolvedKey}
    (h : List.Forall₂ (fun k key => key.Resolves p t k) t.foreignKeys keys) (f : Field) :
    linksOf keys f = (t.declaredLinks f.name).eraseDups := by
  rw [linksOf, flatMap_links h, List.filterMap_flatMap, Table.declaredLinks]
  simp only [List.filterMap_map]
  rfl

/-! ### The graph of references -/

theorem wellFormed_foldl_add {g : TableGraph} (hg : g.WellFormed) {table : Nat} (htable : table < g.size)
    {keys : List ResolvedKey} (hkeys : ∀ key ∈ keys, key.target < g.size) :
    (keys.foldl (fun g key => g.add table key.target) g).WellFormed ∧
      (keys.foldl (fun g key => g.add table key.target) g).size = g.size := by
  induction keys generalizing g with
  | nil => exact ⟨hg, rfl⟩
  | cons key keys ih =>
    obtain ⟨hkey, hrest⟩ := List.forall_mem_cons.1 hkeys
    have hsize := TableGraph.size_add g table key.target
    obtain ⟨hwf, hfold⟩ := ih (hg.add htable hkey) (by rwa [hsize]) (by rwa [hsize])
    exact ⟨hwf, hfold.trans hsize⟩

private theorem wellFormed_foldl_foldl_add {g : TableGraph} (hg : g.WellFormed) {keys : List (List ResolvedKey × Nat)}
    (hkeys : ∀ ks ∈ keys, ks.2 < g.size ∧ ∀ key ∈ ks.1, key.target < g.size) :
    (keys.foldl (fun g (keys, table) => keys.foldl (fun g key => g.add table key.target) g) g).WellFormed ∧
      (keys.foldl (fun g (keys, table) => keys.foldl (fun g key => g.add table key.target) g) g).size = g.size := by
  induction keys generalizing g with
  | nil => exact ⟨hg, rfl⟩
  | cons ks keys ih =>
    obtain ⟨⟨htable, hks⟩, hrest⟩ := List.forall_mem_cons.1 hkeys
    obtain ⟨hwf, hsize⟩ := wellFormed_foldl_add hg htable hks
    obtain ⟨hfold, hfoldSize⟩ := ih hwf (by rwa [hsize])
    exact ⟨hfold, hfoldSize.trans hsize⟩

theorem wellFormed_referenceGraph {p : Package} {keys : List (List ResolvedKey)}
    (hlength : keys.length = p.tables.length) (hkeys : ∀ ks ∈ keys, ∀ key ∈ ks, key.target < p.tables.length) :
    (referenceGraph p keys).WellFormed ∧ (referenceGraph p keys).size = p.tables.length := by
  have hsize : (TableGraph.ofNames (p.tables.map (·.name))).size = p.tables.length := List.length_map ..
  rw [← hsize] at hkeys hlength ⊢
  exact wellFormed_foldl_foldl_add (TableGraph.wellFormed_ofNames _) fun ks hks =>
    ⟨hlength ▸ List.snd_lt_of_mem_zipIdx hks, hkeys ks.1 (List.fst_mem_of_mem_zipIdx hks)⟩

end SheetTemplate
