import SheetTemplate.Proofs.Compile.Obstacles
import SheetTemplate.Proofs.Resolution.Reduced

/-!
# Keys in other groups

How the columns of a table are grouped into keys is a matter of writing. Compiling reads the keys in resolution and
nowhere else, so packages with one reduced form compile to one template or fail with one error. A composite key is as
good as a key for each of its columns, a key may be repeated, and a table may refer to itself by its name or by none.
-/

namespace SheetTemplate

/-! ### Compiling the reduced form -/

theorem sequence_reduced (p : Package) (r : Resolution) :
    r.sequence p.reduced = (r.sequence p).map fun x => (x.1.reduced, x.2) := by
  rw [Resolution.sequence, Resolution.sequence, List.map_filterMap]
  congr 1
  funext i
  rw [Package.reduced, List.getElem?_map]
  cases p.tables[i]? with
  | none => rfl
  | some t => cases r.tables[i]? <;> rfl

theorem compileSheets_reduced [Libraries] (o : Options) (lists : Option EnumSheet) (registry : Registry)
    (seq : List (Table × List FieldResolution)) :
    compileSheets o lists registry (seq.map fun x => (x.1.reduced, x.2)) = compileSheets o lists registry seq := by
  induction seq generalizing registry with
  | nil => rfl
  | cons x rest ih =>
    obtain ⟨t, rs⟩ := x
    have hlayout : o.layout t.reduced o.startRow o.startColumn = o.layout t o.startRow o.startColumn := rfl
    have htable : ∀ registry l, compileTable o registry lists t.reduced l rs = compileTable o registry lists t l rs :=
      fun _ _ => rfl
    simp only [List.map_cons, compileSheets, ih, hlayout, htable]
    rfl

theorem compile_reduced [Libraries] {p : Package} (hp : p.Balanced) (o : Options) : compile p.reduced o = compile p o := by
  rw [compile, compile, resolve_reduced hp]
  refine bind_congr fun r => ?_
  simp only [sequence_reduced, compileSheets_reduced]

/-! ### Tables with the same column links -/

/-- Tables that differ in their keys alone, which refer from the same fields to the same columns, first in one order. -/
structure Table.SameColumns (t t' : Table) : Prop where
  same_table : t' = { t with foreignKeys := t'.foreignKeys }
  same_links : t.columnLinks.eraseDups = t'.columnLinks.eraseDups

theorem Table.SameColumns.reduced_eq {t t' : Table} (h : t.SameColumns t') : t.reduced = t'.reduced := by
  rw [reduced, reduced, ← h.same_links]
  exact congrArg (fun u : Table => { u with foreignKeys := t.columnLinks.eraseDups.map .ofLink }) h.same_table.symm

theorem compile_eq_of_sameColumns [Libraries] {p p' : Package} (o : Options) (hp : p.Balanced) (hp' : p'.Balanced)
    (h : List.Forall₂ Table.SameColumns p.tables p'.tables) : compile p o = compile p' o := by
  have htables : p.tables.map Table.reduced = p'.tables.map Table.reduced := by
    rw [← List.forall₂_eq_eq_eq, List.forall₂_map_left_iff, List.forall₂_map_right_iff]
    exact h.imp fun _ _ => Table.SameColumns.reduced_eq
  rw [← compile_reduced hp, ← compile_reduced hp', Package.reduced, htables, Package.reduced]

/-! ### Other ways to write keys -/

namespace ForeignKey

def columns (k : ForeignKey) : List ForeignKey := k.pairs.map fun pair => ⟨[pair.1], ⟨k.reference.table, [pair.2]⟩⟩

def named (k : ForeignKey) (name : Option String) : ForeignKey := { k with reference := { k.reference with table := name } }

/-- The ways in which a table names itself in a key. -/
def NamesSelf (table : String) (name : Option String) : Prop := name = none ∨ name = some "" ∨ name = some table

theorem NamesSelf.tableOr_eq {table : String} {name : Option String} (h : NamesSelf table name) (fields : List String) :
    (Reference.mk name fields).tableOr table = table := by
  rcases h with rfl | rfl | rfl
  · rfl
  · rfl
  · simp only [Reference.tableOr]
    split
    · rfl
    · rfl

end ForeignKey

/-- One way of writing the keys of a table becomes another: a key is split into its columns, repeated after itself, or
names its own table differently. -/
inductive Regroups (table : String) : List ForeignKey → List ForeignKey → Prop
  | split (before : List ForeignKey) (k : ForeignKey) (after : List ForeignKey) :
    Regroups table (before ++ k :: after) (before ++ (k.columns ++ after))
  | repeated (before : List ForeignKey) (k : ForeignKey) (between after : List ForeignKey) :
    Regroups table (before ++ k :: between ++ after) (before ++ k :: between ++ k :: after)
  | ownName (before : List ForeignKey) (k : ForeignKey) (name : Option String) (after : List ForeignKey)
    (hk : ForeignKey.NamesSelf table k.reference.table) (hname : ForeignKey.NamesSelf table name) :
    Regroups table (before ++ k :: after) (before ++ k.named name :: after)

namespace Regroups

variable {table : String} {ks ks' : List ForeignKey}

theorem balanced (h : Regroups table ks ks') (hks : ∀ k ∈ ks, k.Balanced) : ∀ k ∈ ks', k.Balanced := by
  cases h with
  | split before k after =>
    intro k' hk'
    rcases List.mem_append.1 hk' with hk' | hk'
    · exact hks k' (List.mem_append_left _ hk')
    rcases List.mem_append.1 hk' with hk' | hk'
    · obtain ⟨pair, _, rfl⟩ := List.mem_map.1 hk'
      exact ⟨List.cons_ne_nil _ _, rfl⟩
    · exact hks k' (List.mem_append_right _ (List.mem_cons_of_mem k hk'))
  | repeated before k between after =>
    intro k' hk'
    refine hks k' ?_
    simp only [List.mem_append, List.mem_cons] at hk' ⊢
    tauto
  | ownName before k name after _ _ =>
    intro k' hk'
    rcases List.mem_append.1 hk' with hk' | hk'
    · exact hks k' (List.mem_append_left _ hk')
    rcases List.mem_cons.1 hk' with rfl | hk'
    · obtain ⟨hnonempty, hlength⟩ := hks k (List.mem_append_right _ List.mem_cons_self)
      exact ⟨hnonempty, hlength⟩
    · exact hks k' (List.mem_append_right _ (List.mem_cons_of_mem k hk'))

theorem columnLinks_eq (h : Regroups table ks ks') :
    (ks.flatMap (·.columnLinks table)).eraseDups = (ks'.flatMap (·.columnLinks table)).eraseDups := by
  cases h with
  | split before k after =>
    have hcolumns : k.columns.flatMap (·.columnLinks table) = k.columnLinks table := by
      rw [ForeignKey.columns, List.flatMap_map, ForeignKey.columnLinks, List.map_eq_flatMap]
      rfl
    simp only [List.flatMap_append, List.flatMap_cons, hcolumns]
  | repeated before k between after =>
    simp only [List.flatMap_append, List.flatMap_cons]
    refine (eraseDups_append_of_subset ?_ _).symm
    exact fun c hc => List.mem_append_right _ (List.mem_append_left _ hc)
  | ownName before k name after hk hname =>
    have hsame : (k.named name).columnLinks table = k.columnLinks table := by
      have htable := (hname.tableOr_eq k.reference.fields).trans (hk.tableOr_eq k.reference.fields).symm
      rw [ForeignKey.columnLinks, ForeignKey.columnLinks]
      exact congrArg (fun name => k.pairs.map fun pair => (pair.1, Link.mk name pair.2)) htable
    simp only [List.flatMap_append, List.flatMap_cons, hsame]

end Regroups

/-! ### Places and visits -/

def places (keys : List ForeignKey) : Table where
  name := "places"
  fields := [{ name := "country", type := .string }, { name := "code", type := .string }, { name := "within", type := .string }]
  foreignKeys := keys

def visits (keys : List ForeignKey) : Table where
  name := "visits"
  fields := [{ name := "country", type := .string }, { name := "place", type := .string }]
  foreignKeys := keys

/-- A place is known by its country and its code. -/
def travels : Package where
  tables := [
    places [⟨["country", "within"], ⟨none, ["country", "code"]⟩⟩],
    visits [⟨["country", "place"], ⟨some "places", ["country", "code"]⟩⟩]]

/-- The same, column by column, with a key declared again. -/
def travelsByColumn : Package where
  tables := [
    places [⟨["country"], ⟨some "", ["country"]⟩⟩, ⟨["within"], ⟨some "places", ["code"]⟩⟩],
    visits [⟨["country"], ⟨some "places", ["country"]⟩⟩, ⟨["place"], ⟨some "places", ["code"]⟩⟩,
      ⟨["country", "place"], ⟨some "places", ["country", "code"]⟩⟩]]

attribute [local instance] Libraries.plain in
theorem resolve_travels : resolve travels online = .ok ⟨[0, 1],
    [[⟨[⟨"places", "country"⟩], none⟩, ⟨[], none⟩, ⟨[⟨"places", "code"⟩], none⟩],
      [⟨[⟨"places", "country"⟩], none⟩, ⟨[⟨"places", "code"⟩], none⟩]], none, []⟩ := by
  have hrows : online.checkRows = .ok () := rfl
  have hnamed : WellNamed online [] [Text.lowercase online.enumSheet] travels.tables := by
    constructor <;> decide +kernel
  have htables : checkTables online travels = .ok () := checkTables_eq_ok.2 ⟨by decide +kernel, hnamed⟩
  have hkeys : travels.tables.mapM (resolveTable travels) = .ok [
      [⟨0, [("country", ⟨"places", "country"⟩), ("within", ⟨"places", "code"⟩)]⟩],
      [⟨0, [("country", ⟨"places", "country"⟩), ("place", ⟨"places", "code"⟩)]⟩]] := rfl
  rw [resolve, hrows, htables, hkeys]
  rfl

/-! ### The same result -/

/-- Packages whose tables have the same column links compile to the same. So a key may be split into its columns or
repeated, and a table may name itself in each of three ways. -/
theorem compile_regrouped [Libraries] (o : Options) :
    (∀ p p' : Package, p.Balanced → p'.Balanced → List.Forall₂ Table.SameColumns p.tables p'.tables →
      compile p o = compile p' o) ∧
    ∀ before (t : Table) keys after, Package.Balanced ⟨before ++ t :: after⟩ → Regroups t.name t.foreignKeys keys →
      compile ⟨before ++ { t with foreignKeys := keys } :: after⟩ o = compile ⟨before ++ t :: after⟩ o := by
  refine ⟨fun p p' => compile_eq_of_sameColumns o, fun before t keys after hp hkeys => ?_⟩
  have hsame : ∀ tables : List Table, List.Forall₂ Table.SameColumns tables tables :=
    fun tables => List.forall₂_same.2 fun u _ => ⟨rfl, rfl⟩
  symm
  refine compile_eq_of_sameColumns o hp ?_ (List.rel_append (hsame before) (.cons ⟨rfl, hkeys.columnLinks_eq⟩ (hsame after)))
  intro u hu
  rcases List.mem_append.1 hu with hu | hu
  · exact hp u (List.mem_append_left _ hu)
  rcases List.mem_cons.1 hu with rfl | hu
  · exact hkeys.balanced (hp t (List.mem_append_right _ List.mem_cons_self))
  · exact hp u (List.mem_append_right _ (List.mem_cons_of_mem t hu))

attribute [local instance] Libraries.plain in
/-- Both ways of writing the travels compile to one template, and so does naming the places in their own key. -/
theorem travels_by_column : travels.Balanced ∧ travelsByColumn.Balanced ∧
    List.Forall₂ Table.SameColumns travels.tables travelsByColumn.tables ∧
    ∃ t, compile travels online = .ok t ∧ compile travelsByColumn online = .ok t ∧
      compile ⟨[places [⟨["country", "within"], ⟨some "places", ["country", "code"]⟩⟩],
        visits [⟨["country", "place"], ⟨some "places", ["country", "code"]⟩⟩]]⟩ online = .ok t := by
  have hbalanced : travels.Balanced := by decide
  have hbalanced' : travelsByColumn.Balanced := by decide
  have hcolumns : List.Forall₂ Table.SameColumns travels.tables travelsByColumn.tables :=
    .cons ⟨rfl, by decide +kernel⟩ (.cons ⟨rfl, by decide +kernel⟩ .nil)
  obtain ⟨hsame, hregroups⟩ := compile_regrouped online
  obtain ⟨t, ht⟩ := exists_compile_of_googleSheets resolve_travels rfl rfl
  refine ⟨hbalanced, hbalanced', hcolumns, t, ht, (hsame _ _ hbalanced hbalanced' hcolumns).symm.trans ht, ?_⟩
  exact (hregroups [] _ _ _ hbalanced (.ownName [] _ (some "places") [] (.inl rfl) (.inr (.inr rfl)))).trans ht

end SheetTemplate
