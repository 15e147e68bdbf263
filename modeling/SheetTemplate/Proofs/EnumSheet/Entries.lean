import Mathlib.Data.Finset.Card
import SheetTemplate.Proofs.Distinct
import SheetTemplate.Proofs.EnumSheet.Pooling

/-!
# The lists on the sheet of lists

Of the lists that fields enter one after another, the pool keeps the first of each key. So what it holds in the
end can be told from the fields alone, and so can the number of its columns.
-/

namespace SheetTemplate

namespace EnumPool

/-- The entries once one more is entered, a new one if none so far has its key. -/
def enter (entries : List Entry) (e : Entry) : List Entry :=
  if e.key ∈ entries.map Entry.key then entries else entries ++ [e]

theorem keys_foldl_enter (es : List Entry) : (es.foldl enter []).map Entry.key = (es.map Entry.key).eraseDups := by
  induction es using List.reverseRecOn with
  | nil => rfl
  | append_singleton es e ih =>
    have hmem : e.key ∈ (es.foldl enter []).map Entry.key ↔ e.key ∈ es.map Entry.key := by rw [ih, List.mem_eraseDups]
    rw [List.foldl_append, List.foldl_cons, List.foldl_nil, List.map_append, List.eraseDups_append, enter]
    split
    · rename_i hold
      rw [hmem] at hold
      have hremoved : [e.key].removeAll (es.map Entry.key) = [] := by simp [List.removeAll, hold]
      rw [ih, List.map_singleton, hremoved, List.eraseDups_nil, List.append_nil]
    · rename_i hnew
      rw [hmem] at hnew
      have hkept : [e.key].removeAll (es.map Entry.key) = [e.key] := by simp [List.removeAll, hnew]
      rw [List.map_append, ih, List.map_singleton, hkept]
      rfl

theorem prefix_foldl_enter (es entries : List Entry) : entries <+: es.foldl enter entries := by
  induction es generalizing entries with
  | nil => exact List.prefix_rfl
  | cons e es ih =>
    refine List.IsPrefix.trans ?_ (ih (enter entries e))
    unfold enter
    split
    · exact List.prefix_rfl
    · exact List.prefix_append _ _

theorem find?_foldl_enter (key : ListKey) (es entries : List Entry) :
    (es.foldl enter entries).find? (·.key = key) = (entries ++ es).find? (·.key = key) := by
  induction es generalizing entries with
  | nil => rw [List.foldl_nil, List.append_nil]
  | cons e es ih =>
    rw [List.foldl_cons, ih, enter]
    split
    · rename_i hold
      rw [List.find?_append, List.find?_append, List.find?_cons]
      -- A second entry with a key changes nothing, because the search does not come to it.
      by_cases hkey : e.key = key
      · have hfound : (entries.find? (·.key = key)).isSome := by
          obtain ⟨first, hfirst, hsame⟩ := List.mem_map.1 hold
          exact List.find?_isSome.2 ⟨first, hfirst, decide_eq_true (hsame.trans hkey)⟩
        rw [Option.or_of_isSome hfound, Option.or_of_isSome hfound]
      · simp [hkey]
    · rw [List.append_assoc, List.singleton_append]

/-! ### Entering the lists of fields -/

theorem Holds.enter {pool : EnumPool} {entries : List Entry} (h : pool.Holds entries) (type : FieldType)
    (values : List Value) :
    (EnumPool.column type values pool).2.Holds (EnumPool.enter entries (type, values)) ∧
      ∃ i e, (EnumPool.column type values pool).1 = UInt16.ofNat i ∧
        (EnumPool.enter entries (type, values))[i]? = some e ∧ e.key = listKey type values := by
  have hcolumn := h.columns (listKey type values)
  unfold EnumPool.enter
  cases hfound : entries.findIdx? fun e => e.key = listKey type values with
  | some i =>
    obtain ⟨hi, hkey, _⟩ := List.findIdx?_eq_some_iff_getElem.1 hfound
    have hold : Entry.key (type, values) ∈ entries.map Entry.key :=
      List.mem_map.2 ⟨entries[i], List.getElem_mem hi, of_decide_eq_true hkey⟩
    rw [if_pos hold]
    rw [hfound, Option.map_some] at hcolumn
    rw [column_of_some hcolumn]
    exact ⟨h, i, entries[i], rfl, List.getElem?_eq_getElem hi, of_decide_eq_true hkey⟩
  | none =>
    have hnew : Entry.key (type, values) ∉ entries.map Entry.key := by
      intro hmem
      obtain ⟨e, he, hkey⟩ := List.mem_map.1 hmem
      simpa using (List.findIdx?_eq_none_iff.1 hfound e he).symm.trans (decide_eq_true hkey)
    rw [if_neg hnew]
    refine ⟨h.push hfound, entries.length, (type, values), ?_, by simp, rfl⟩
    rw [hfound, Option.map_none] at hcolumn
    rw [column_of_none hcolumn, h.size_eq]

def entered? (p : Profile) (f : Field) : Option Entry := (pooledList? p f).map fun values => (f.type, values)

theorem Holds.place {pool : EnumPool} {entries : List Entry} (h : pool.Holds entries) (p : Profile) (f : Field) :
    (EnumPool.place p f pool).2.Holds ((entered? p f).toList.foldl EnumPool.enter entries) ∧
      Placed p ((entered? p f).toList.foldl EnumPool.enter entries) f (EnumPool.place p f pool).1 := by
  unfold entered? Placed
  cases hlist : pooledList? p f with
  | none =>
    rw [place_of_none hlist]
    exact ⟨h, rfl⟩
  | some values =>
    rw [place_of_some hlist]
    obtain ⟨hholds, i, e, hcolumn, he, hkey⟩ := h.enter f.type values
    exact ⟨hholds, i, e, congrArg some hcolumn, he, hkey⟩

/-- Steps through a list that enter what its elements bring: what a step says of its element stays true to the end. -/
theorem holds_mapM {α β : Type} {step : α → StateM EnumPool β} {entered : α → List Entry} (said : List Entry → α → β → Prop)
    (hmono : ∀ {entries entries' x y}, said entries x y → entries <+: entries' → said entries' x y)
    (hstep : ∀ x {pool entries}, pool.Holds entries → (step x pool).2.Holds ((entered x).foldl EnumPool.enter entries) ∧
      said ((entered x).foldl EnumPool.enter entries) x (step x pool).1)
    (xs : List α) {pool : EnumPool} {entries : List Entry} (h : pool.Holds entries) :
    (xs.mapM step pool).2.Holds ((xs.flatMap entered).foldl EnumPool.enter entries) ∧
      List.Forall₂ (said ((xs.flatMap entered).foldl EnumPool.enter entries)) xs (xs.mapM step pool).1 := by
  induction xs generalizing pool entries with
  | nil => exact ⟨h, .nil⟩
  | cons x xs ih =>
    obtain ⟨hholds, hx⟩ := hstep x h
    obtain ⟨hend, hxs⟩ := ih hholds
    rw [List.mapM_cons, List.flatMap_cons, List.foldl_append]
    exact ⟨hend, .cons (hmono hx (prefix_foldl_enter _ _)) hxs⟩

end EnumPool

/-- The lists that the fields of a package enter, table by table and field by field. -/
def Package.lists (p : Package) (o : Options) : List EnumPool.Entry :=
  p.tables.flatMap fun t => t.fields.flatMap fun f => (EnumPool.entered? o.profile f).toList

/-- The lists that stand on the sheet of lists, each with the type of the field that entered it first. -/
def Package.entries (p : Package) (o : Options) : List EnumPool.Entry := (p.lists o).foldl EnumPool.enter []

namespace Package

theorem keys_entries (p : Package) (o : Options) :
    (p.entries o).map EnumPool.Entry.key = ((p.lists o).map EnumPool.Entry.key).eraseDups :=
  EnumPool.keys_foldl_enter (p.lists o)

theorem nodup_keys_entries (p : Package) (o : Options) : ((p.entries o).map EnumPool.Entry.key).Nodup := by
  rw [keys_entries]
  exact nodup_eraseDups _

theorem find?_lists {p : Package} {o : Options} {e : EnumPool.Entry} (h : e ∈ p.entries o) :
    (p.lists o).find? (·.key = e.key) = some e := by
  have hfirst := EnumPool.find?_foldl_enter e.key (p.lists o) []
  rw [List.nil_append] at hfirst
  rw [← hfirst]
  exact (find?_key_eq_some_iff (p.nodup_keys_entries o)).2 ⟨h, rfl⟩

end Package

namespace EnumPool

theorem holds_placeAll (p : Package) (o : Options) :
    (placeAll o.profile p.tables empty).2.Holds (p.entries o) ∧
      List.Forall₂ (fun t columns => List.Forall₂ (Placed o.profile (p.entries o)) t.fields columns) p.tables
        (placeAll o.profile p.tables empty).1 := by
  have hfields := fun (t : Table) {pool : EnumPool} {entries : List Entry} (h : pool.Holds entries) =>
    holds_mapM (Placed o.profile) Placed.mono (fun f _ _ h => h.place o.profile f) t.fields h
  exact holds_mapM (fun entries t columns => List.Forall₂ (Placed o.profile entries) t.fields columns)
    (fun h hle => h.imp fun _ _ hplaced => hplaced.mono hle) hfields p.tables holds_empty

theorem size_placeAll (p : Package) (o : Options) :
    (placeAll o.profile p.tables empty).2.lists.size = ((p.lists o).map Entry.key).toFinset.card := by
  rw [(holds_placeAll p o).1.size_eq, ← List.length_map Entry.key, ← List.toFinset_card_of_nodup (p.nodup_keys_entries o),
    p.keys_entries o]
  congr 1
  ext key
  rw [List.mem_toFinset, List.mem_toFinset, List.mem_eraseDups]

end EnumPool

end SheetTemplate
