import Mathlib.Data.List.Sort
import SheetTemplate.Proofs.Resolution.WellFormed

/-!
# Keys column by column

A composite key says no more than its columns do. To check a key is to check its columns one after another, each for a
table that exists and two fields of one type, and a column that passed passes again. So a package whose keys have as
many fields on one side as on the other resolves as its reduced form does, where every key has one column, names the
table it refers to and stands once.
-/

namespace SheetTemplate

/-! ### Columns of keys -/

/-- The table referred to is an empty name only where the declaring table has none. -/
theorem Reference.tableOr_tableOr (r : Reference) (table : String) (fields : List String) :
    (Reference.mk (some (r.tableOr table)) fields).tableOr table = r.tableOr table := by
  change (if r.tableOr table = "" then table else r.tableOr table) = r.tableOr table
  split
  · rename_i hempty
    rw [hempty]
    unfold tableOr at hempty
    split at hempty
    · split at hempty
      · exact hempty
      · contradiction
    · exact hempty
  · rfl

namespace ForeignKey

structure Balanced (k : ForeignKey) : Prop where
  nonempty : k.fields ≠ []
  length_eq : k.fields.length = k.reference.fields.length

instance (k : ForeignKey) : Decidable k.Balanced :=
  decidable_of_iff (k.fields ≠ [] ∧ k.fields.length = k.reference.fields.length)
    ⟨fun h => ⟨h.1, h.2⟩, fun h => ⟨h.nonempty, h.length_eq⟩⟩

def columnLinks (table : String) (k : ForeignKey) : List (String × Link) :=
  k.pairs.map fun pair => (pair.1, ⟨k.reference.tableOr table, pair.2⟩)

def ofLink (c : String × Link) : ForeignKey := ⟨[c.1], ⟨some c.2.table, [c.2.field]⟩⟩

theorem balanced_ofLink (c : String × Link) : (ofLink c).Balanced := ⟨List.cons_ne_nil _ _, rfl⟩

theorem Balanced.columnLinks_ne_nil {k : ForeignKey} (h : k.Balanced) (table : String) : k.columnLinks table ≠ [] := by
  intro hnil
  have hlength := congrArg List.length hnil
  rw [columnLinks, pairs, List.length_map, List.length_zip, ← h.length_eq, Nat.min_self] at hlength
  exact h.nonempty (List.length_eq_zero_iff.1 hlength)

theorem table_of_mem_columnLinks {k : ForeignKey} {table : String} {c : String × Link} (h : c ∈ k.columnLinks table) :
    c.2.table = k.reference.tableOr table := by
  obtain ⟨_, _, rfl⟩ := List.mem_map.1 h
  rfl

theorem columnLinks_ofLink {k : ForeignKey} {table : String} {c : String × Link} (h : c ∈ k.columnLinks table) :
    (ofLink c).columnLinks table = [c] := by
  obtain ⟨pair, _, rfl⟩ := List.mem_map.1 h
  simp [columnLinks, ofLink, pairs, k.reference.tableOr_tableOr table]

end ForeignKey

namespace Table

def columnLinks (t : Table) : List (String × Link) := t.foreignKeys.flatMap (·.columnLinks t.name)

/-- The table with a key for each column link, at its first place. -/
def reduced (t : Table) : Table := { t with foreignKeys := t.columnLinks.eraseDups.map .ofLink }

theorem columnLinks_reduced (t : Table) : t.reduced.columnLinks = t.columnLinks.eraseDups := by
  have hsingle : ∀ c ∈ t.columnLinks.eraseDups, (ForeignKey.ofLink c).columnLinks t.name = [c] := by
    intro c hc
    obtain ⟨k, _, hc⟩ := List.mem_flatMap.1 (List.mem_eraseDups.1 hc)
    exact ForeignKey.columnLinks_ofLink hc
  rw [columnLinks, reduced, List.flatMap_map, List.flatMap_congr hsingle, List.flatMap_singleton']

theorem declaredLinks_eq (t : Table) (field : String) :
    t.declaredLinks field = t.columnLinks.filterMap fun c => if c.1 = field then some c.2 else none := by
  simp only [declaredLinks, columnLinks, ForeignKey.columnLinks, List.filterMap_flatMap, List.filterMap_map]
  rfl

theorem eraseDups_declaredLinks_reduced (t : Table) (field : String) :
    (t.reduced.declaredLinks field).eraseDups = (t.declaredLinks field).eraseDups := by
  rw [declaredLinks_eq, declaredLinks_eq, columnLinks_reduced, eraseDups_filterMap_eraseDups]

end Table

def Package.reduced (p : Package) : Package := ⟨p.tables.map Table.reduced⟩

def Package.Balanced (p : Package) : Prop := ∀ t ∈ p.tables, ∀ k ∈ t.foreignKeys, k.Balanced

instance (p : Package) : Decidable p.Balanced :=
  inferInstanceAs (Decidable (∀ t ∈ p.tables, ∀ k ∈ t.foreignKeys, k.Balanced))

theorem Package.table?_reduced (p : Package) (name : String) :
    p.reduced.table? name = (p.table? name).map Table.reduced := List.find?_map

theorem Package.tableIndex?_reduced (p : Package) (name : String) : p.reduced.tableIndex? name = p.tableIndex? name :=
  List.findIdx?_map

theorem Package.tableIndex?_eq_none_iff {p : Package} {name : String} :
    p.tableIndex? name = none ↔ p.table? name = none := by
  rw [tableIndex?, table?, List.findIdx?_eq_none_iff, List.find?_eq_none]
  simp

/-! ### Checking columns -/

/-- A column link leads from a field of a table to one of the same type. -/
def checkLink (p : Package) (t : Table) (c : String × Link) : Except Error Unit :=
  match p.table? c.2.table with
  | some target => (resolvePair t target c.2.table (c.1, c.2.field)).map fun _ => ()
  | none => .error (.unknownReference t.name ("table '" ++ c.2.table ++ "'"))

theorem checkLink_of_table? {p : Package} (t : Table) {name : String} {target : Table} (h : p.table? name = some target)
    (pair : String × String) :
    checkLink p t (pair.1, ⟨name, pair.2⟩) = (resolvePair t target name pair).map fun _ => () := by
  simp only [checkLink, h]

theorem checkLink_reduced (p : Package) (t : Table) (c : String × Link) :
    checkLink p.reduced t.reduced c = checkLink p t c := by
  unfold checkLink
  rw [Package.table?_reduced]
  cases p.table? c.2.table <;> rfl

/-- Steps that come down to checks come down to these checks in a row. -/
private theorem map_mapM {α β γ : Type} {f : α → Except Error β} {parts : α → List γ} {check : γ → Except Error Unit}
    {xs : List α} (h : ∀ x ∈ xs, ((f x).map fun _ => ()) = (parts x).forM check) :
    ((xs.mapM f).map fun _ => ()) = (xs.flatMap parts).forM check := by
  induction xs with
  | nil => rfl
  | cons x xs ih =>
    obtain ⟨hx, hxs⟩ := List.forall_mem_cons.1 h
    have hsplit : (parts x ++ xs.flatMap parts).forM check = (do (parts x).forM check; (xs.flatMap parts).forM check) :=
      List.forM_append
    rw [List.mapM_cons, List.flatMap_cons, hsplit, ← hx, ← ih hxs]
    cases f x with
    | error e => rfl
    | ok y => cases xs.mapM f <;> rfl

theorem map_resolveKey (p : Package) (t : Table) {k : ForeignKey} (hk : k.Balanced) :
    ((resolveKey p t k).map fun _ => ()) = (k.columnLinks t.name).forM (checkLink p t) := by
  have hbalanced : (k.fields.length = 0 || k.fields.length ≠ k.reference.fields.length : Bool) = false := by
    simp [hk.nonempty, hk.length_eq.symm]
  unfold resolveKey
  simp only [hbalanced]
  cases htable : p.table? (k.reference.tableOr t.name) with
  | none =>
    -- That the table is unknown shows at the first column, and a key has one.
    obtain ⟨c, cs, hcolumns⟩ := List.exists_cons_of_ne_nil (hk.columnLinks_ne_nil t.name)
    have hc : c.2.table = k.reference.tableOr t.name :=
      ForeignKey.table_of_mem_columnLinks (hcolumns ▸ List.mem_cons_self)
    rw [Package.tableIndex?_eq_none_iff.2 htable, hcolumns, List.forM, checkLink, hc, htable]
    rfl
  | some target =>
    obtain ⟨index, hindex⟩ : ∃ index, p.tableIndex? (k.reference.tableOr t.name) = some index := by
      refine Option.ne_none_iff_exists'.1 fun hnone => ?_
      rw [Package.tableIndex?_eq_none_iff.1 hnone] at htable
      cases htable
    have hpairs : ((k.pairs.mapM (resolvePair t target (k.reference.tableOr t.name))).map fun _ => ()) =
        (k.columnLinks t.name).forM (checkLink p t) := by
      rw [ForeignKey.columnLinks, List.map_eq_flatMap]
      refine map_mapM fun pair _ => ?_
      rw [List.forM, checkLink_of_table? t htable]
      cases resolvePair t target (k.reference.tableOr t.name) pair <;> rfl
    rw [hindex, ← hpairs]
    change ((do return ⟨index, ← k.pairs.mapM (resolvePair t target (k.reference.tableOr t.name))⟩ :
      Except Error ResolvedKey).map fun _ => ()) = _
    cases k.pairs.mapM (resolvePair t target (k.reference.tableOr t.name)) <;> rfl

theorem map_resolveKeys (p : Package) {t : Table} (ht : ∀ k ∈ t.foreignKeys, k.Balanced) :
    ((t.foreignKeys.mapM (resolveKey p t)).map fun _ => ()) = t.columnLinks.forM (checkLink p t) :=
  map_mapM fun k hk => map_resolveKey p t (ht k hk)

/-! ### Resolving tables -/

/-- Two results that are one error, or values that stand in a relation. -/
inductive SameResult {α β : Type} (R : α → β → Prop) : Except Error α → Except Error β → Prop
  | ok {a : α} {b : β} (h : R a b) : SameResult R (.ok a) (.ok b)
  | error (e : Error) : SameResult R (.error e) (.error e)

namespace SameResult

variable {α β γ δ : Type} {R : α → β → Prop}

theorem of_map_eq {x : Except Error α} {y : Except Error β} (h : (x.map fun _ => ()) = y.map fun _ => ())
    (hR : ∀ a b, x = .ok a → y = .ok b → R a b) : SameResult R x y := by
  cases x with
  | error e =>
    cases y with
    | error e' => cases h; exact .error e
    | ok b => cases h
  | ok a =>
    cases y with
    | error e => cases h
    | ok b => exact .ok (hR a b rfl rfl)

theorem bind {S : γ → δ → Prop} {x : Except Error α} {y : Except Error β} {f : α → Except Error γ}
    {g : β → Except Error δ} (h : SameResult R x y) (hnext : ∀ a b, R a b → SameResult S (f a) (g b)) :
    SameResult S (x >>= f) (y >>= g) := by
  cases h with
  | ok h => exact hnext _ _ h
  | error e => exact .error e

theorem mapM {f : γ → Except Error α} {g : γ → Except Error β} {xs : List γ} (h : ∀ x ∈ xs, SameResult R (f x) (g x)) :
    SameResult (List.Forall₂ R) (xs.mapM f) (xs.mapM g) := by
  induction xs with
  | nil => exact .ok .nil
  | cons x xs ih =>
    obtain ⟨hx, hxs⟩ := List.forall_mem_cons.1 h
    rw [List.mapM_cons, List.mapM_cons]
    exact hx.bind fun a b hab => (ih hxs).bind fun as bs hrest => .ok (.cons hab hrest)

theorem bind_eq {x : Except Error α} {y : Except Error β} {f : α → Except Error γ} {g : β → Except Error γ}
    (h : SameResult R x y) (hnext : ∀ a b, x = .ok a → y = .ok b → R a b → f a = g b) : x >>= f = y >>= g := by
  cases h with
  | ok h => exact hnext _ _ rfl rfl h
  | error e => rfl

end SameResult

/-- Resolved keys by which every field refers to the same columns, and the table to the same tables. -/
structure SameLinks (keys keys' : List ResolvedKey) : Prop where
  links (field : Field) : linksOf keys field = linksOf keys' field
  targets (q : Nat) : (∃ key ∈ keys, key.target = q) ↔ ∃ key ∈ keys', key.target = q

variable {p : Package}

theorem exists_target_iff {t : Table} (ht : ∀ k ∈ t.foreignKeys, k.Balanced) {keys : List ResolvedKey}
    (h : t.foreignKeys.mapM (resolveKey p t) = .ok keys) (q : Nat) :
    (∃ key ∈ keys, key.target = q) ↔ ∃ c ∈ t.columnLinks, p.tableIndex? c.2.table = some q := by
  have hkeys := mapM_eq_ok.1 h
  constructor
  · rintro ⟨key, hkey, rfl⟩
    obtain ⟨k, hk, hresolves⟩ := exists_of_forall₂_right hkeys hkey
    obtain ⟨c, hc⟩ := List.exists_mem_of_ne_nil _ ((ht k hk).columnLinks_ne_nil t.name)
    refine ⟨c, List.mem_flatMap.2 ⟨k, hk, hc⟩, ?_⟩
    rw [ForeignKey.table_of_mem_columnLinks hc]
    exact resolveKey_target hresolves
  · rintro ⟨c, hc, hindex⟩
    obtain ⟨k, hk, hc⟩ := List.mem_flatMap.1 hc
    obtain ⟨key, hkey, hresolves⟩ := exists_of_forall₂_left hkeys hk
    rw [ForeignKey.table_of_mem_columnLinks hc, resolveKey_target hresolves, Option.some.injEq] at hindex
    exact ⟨key, hkey, hindex⟩

theorem balanced_reduced (t : Table) : ∀ k ∈ t.reduced.foreignKeys, k.Balanced := by
  intro k hk
  obtain ⟨c, _, rfl⟩ := List.mem_map.1 hk
  exact ForeignKey.balanced_ofLink c

theorem resolveKeys_reduced (p : Package) {t : Table} (ht : ∀ k ∈ t.foreignKeys, k.Balanced) :
    SameResult SameLinks (t.foreignKeys.mapM (resolveKey p t))
      (t.reduced.foreignKeys.mapM (resolveKey p.reduced t.reduced)) := by
  -- Both fail alike, as the same columns are checked, and what they resolve to is read off the columns.
  refine .of_map_eq ?_ fun keys keys' h h' => ⟨fun field => ?_, fun q => ?_⟩
  · rw [map_resolveKeys p ht, map_resolveKeys p.reduced (balanced_reduced t), t.columnLinks_reduced,
      funext (checkLink_reduced p t), forM_eraseDups]
  · rw [linksOf_eq ((mapM_eq_ok.1 h).imp fun _ _ => resolveKey_eq_ok),
      linksOf_eq ((mapM_eq_ok.1 h').imp fun _ _ => resolveKey_eq_ok), t.eraseDups_declaredLinks_reduced]
  · rw [exists_target_iff ht h, exists_target_iff (balanced_reduced t) h', t.columnLinks_reduced]
    simp only [List.mem_eraseDups, Package.tableIndex?_reduced]

theorem resolveTable_reduced [Libraries] (p : Package) {t : Table} (ht : ∀ k ∈ t.foreignKeys, k.Balanced) :
    SameResult SameLinks (resolveTable p t) (resolveTable p.reduced t.reduced) := by
  refine (resolveKeys_reduced p ht).bind fun keys keys' h => ?_
  change SameResult _ (t.fields.forM (checkConstraints t) >>= fun _ => pure keys)
    (t.fields.forM (checkConstraints t) >>= fun _ => pure keys')
  cases t.fields.forM (checkConstraints t) with
  | error e => exact .error e
  | ok u => exact .ok h

/-! ### Resolving packages -/

private theorem lists_ext {lists lists' : List (List Nat)} (hlength : lists.length = lists'.length)
    (hascending : ∀ t : Nat, ((lists[t]?).getD []).Pairwise (· < ·))
    (hascending' : ∀ t : Nat, ((lists'[t]?).getD []).Pairwise (· < ·))
    (hmem : ∀ t n : Nat, n ∈ (lists[t]?).getD [] ↔ n ∈ (lists'[t]?).getD []) : lists = lists' := by
  refine List.ext_getElem hlength fun t ht ht' => ?_
  have hlist := (hascending t).eq_of_mem_iff (hascending' t) (hmem t)
  rwa [List.getElem?_eq_getElem ht, List.getElem?_eq_getElem ht'] at hlist

/-- A graph whose lists are ascending is its names and its edges. -/
theorem TableGraph.WellFormed.ext {g g' : TableGraph} (hg : g.WellFormed) (hg' : g'.WellFormed)
    (hnames : g.names = g'.names) (hedges : ∀ q t, g.Precedes q t ↔ g'.Precedes q t) : g = g' := by
  have hsize : g.size = g'.size := congrArg List.length hnames
  have hprecedents : g.precedents = g'.precedents :=
    lists_ext (by rw [hg.length_eq, hg'.length_eq, hsize]) hg.ascending hg'.ascending fun t q => hedges q t
  have hdependents : g.dependents = g'.dependents :=
    lists_ext (by rw [hg.length_dependents, hg'.length_dependents, hsize]) hg.ascending_dependents
      hg'.ascending_dependents fun t d => (hg.mirror d t).trans ((hedges t d).trans (hg'.mirror d t).symm)
  obtain ⟨names, precedents, dependents⟩ := g
  obtain ⟨names', precedents', dependents'⟩ := g'
  obtain rfl : names = names' := hnames
  obtain rfl : precedents = precedents' := hprecedents
  obtain rfl : dependents = dependents' := hdependents
  rfl

theorem referenceGraph_reduced [Libraries] {keys keys' : List (List ResolvedKey)} (h : p.tables.mapM (resolveTable p) = .ok keys)
    (h' : p.reduced.tables.mapM (resolveTable p.reduced) = .ok keys') (hsame : List.Forall₂ SameLinks keys keys') :
    referenceGraph p.reduced keys' = referenceGraph p keys := by
  obtain ⟨hkeys, _⟩ := keysOf_of_mapM h
  obtain ⟨hkeys', _⟩ := keysOf_of_mapM h'
  refine hkeys'.wellFormed.ext hkeys.wellFormed ?_ fun q t => ?_
  · rw [TableGraph.names_referenceGraph, TableGraph.names_referenceGraph, Package.reduced, List.map_map]
    rfl
  rw [TableGraph.precedes_referenceGraph hkeys.length_eq.symm, TableGraph.precedes_referenceGraph hkeys'.length_eq.symm]
  refine and_congr_right fun _ => ?_
  constructor
  · rintro ⟨ks', hks', hq⟩
    obtain ⟨ks, hks, hlinks⟩ := getElem?_of_forall₂ hsame.flip hks'
    exact ⟨ks, hks, (hlinks.targets q).2 hq⟩
  · rintro ⟨ks, hks, hq⟩
    obtain ⟨ks', hks', hlinks⟩ := getElem?_of_forall₂ hsame hks
    exact ⟨ks', hks', (hlinks.targets q).1 hq⟩

theorem checkTables_reduced (o : Options) (p : Package) : checkTables o p.reduced = checkTables o p := by
  have htables : ∀ names sheets tables,
      checkTablesAfter o names sheets (tables.map Table.reduced) = checkTablesAfter o names sheets tables := by
    intro names sheets tables
    induction tables generalizing names sheets with
    | nil => rfl
    | cons t rest ih =>
      simp only [List.map_cons, checkTablesAfter, ih]
      rfl
  simp only [checkTables, Package.reduced, htables]

theorem placeAll_reduced (o : Options) (p : Package) :
    EnumPool.placeAll o.profile p.reduced.tables = EnumPool.placeAll o.profile p.tables := by
  rw [EnumPool.placeAll, Package.reduced, List.mapM_map]
  rfl

theorem resolution_reduced (p : Package) (o : Options) {keys keys' : List (List ResolvedKey)}
    (h : List.Forall₂ SameLinks keys keys') (order : List Nat) :
    p.reduced.resolution o keys' order = p.resolution o keys order := by
  have hlinks : ∀ tables : List Table, (((tables.map Table.reduced).zip keys').map fun x => x.1.fields.map (linksOf x.2)) =
      (tables.zip keys).map fun x => x.1.fields.map (linksOf x.2) := by
    intro tables
    induction h generalizing tables with
    | nil => simp
    | @cons ks ks' _ _ hks _ ih =>
      cases tables with
      | nil => rfl
      | cons t tables =>
        rw [List.map_cons, List.zip_cons_cons, List.zip_cons_cons, List.map_cons, List.map_cons, ih]
        exact congrArg (· :: _) (List.map_congr_left fun f _ => (hks.links f).symm)
  have hwarnings : (p.reduced.tables.flatMap fun t => t.fields.filterMap (formulaLike? t)) =
      p.tables.flatMap fun t => t.fields.filterMap (formulaLike? t) := by
    rw [Package.reduced, List.flatMap_map]
    rfl
  unfold Package.resolution
  rw [placeAll_reduced, hwarnings]
  simp only [Package.reduced, hlinks]

theorem resolveTables_reduced [Libraries] (hp : p.Balanced) :
    SameResult (List.Forall₂ SameLinks) (p.tables.mapM (resolveTable p))
      (p.reduced.tables.mapM (resolveTable p.reduced)) := by
  have hmap : p.reduced.tables.mapM (resolveTable p.reduced) =
      p.tables.mapM fun t => resolveTable p.reduced t.reduced := List.mapM_map
  rw [hmap]
  exact .mapM fun t ht => resolveTable_reduced p (hp t ht)

/-- A package resolves as its reduced form does, or fails as it does. -/
theorem resolve_reduced [Libraries] (hp : p.Balanced) (o : Options) : resolve p.reduced o = resolve p o := by
  rw [resolve_eq, resolve_eq, checkTables_reduced, placeAll_reduced]
  refine bind_congr fun _ => bind_congr fun _ => ?_
  symm
  refine (resolveTables_reduced hp).bind_eq fun keys keys' h h' hsame => bind_congr fun _ => ?_
  rw [referenceGraph_reduced h h' hsame]
  exact bind_congr fun order => by rw [resolution_reduced p o hsame order]

end SheetTemplate
