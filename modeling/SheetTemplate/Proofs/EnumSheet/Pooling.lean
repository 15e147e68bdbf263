import Mathlib.Data.List.Forall2
import SheetTemplate.EnumSheet

/-!
# Pooling lists

The pool stands for the lists entered so far, each with the type of the field that entered it, no two of
them with one key. A list is only ever added at the end, so a column once given keeps its list: the list
of a field and the list in its column have one key, however many fields come after.
-/

namespace SheetTemplate

namespace EnumPool

/-- A list with the type of the field that entered it. -/
abbrev Entry := FieldType × List Value

def Entry.key (e : Entry) : ListKey := listKey e.1 e.2

theorem Entry.formulas_eq {e : Entry} {type : FieldType} {values : List Value} (h : e.key = listKey type values) :
    e.2.map (·.formula.render) = values.map (·.formula.render) :=
  congrArg Prod.snd h

structure Holds (pool : EnumPool) (entries : List Entry) : Prop where
  lists : pool.lists.toList = entries.map Prod.snd
  columns : ∀ key, pool.columns[key]? = (entries.findIdx? fun e => e.key = key).map UInt16.ofNat

theorem holds_empty : empty.Holds [] := ⟨rfl, fun key => by simp [empty]⟩

theorem Holds.size_eq {pool : EnumPool} {entries : List Entry} (h : pool.Holds entries) :
    pool.lists.size = entries.length := by
  rw [← Array.length_toList, h.lists, List.length_map]

/-! ### Entering a list -/

theorem column_of_some {pool : EnumPool} {type : FieldType} {values : List Value} {c : UInt16}
    (h : pool.columns[listKey type values]? = some c) : column type values pool = (c, pool) := by
  simp only [column, h]

theorem column_of_none {pool : EnumPool} {type : FieldType} {values : List Value}
    (h : pool.columns[listKey type values]? = none) : column type values pool =
      (UInt16.ofNat pool.lists.size,
        ⟨pool.lists.push values, pool.columns.insert (listKey type values) (UInt16.ofNat pool.lists.size)⟩) := by
  simp only [column, h]

theorem Holds.push {pool : EnumPool} {entries : List Entry} (h : pool.Holds entries) {type : FieldType} {values : List Value}
    (hnew : (entries.findIdx? fun e => e.key = listKey type values) = none) :
    (column type values pool).2.Holds (entries ++ [(type, values)]) := by
  have hcolumn := h.columns (listKey type values)
  rw [hnew, Option.map_none] at hcolumn
  rw [column_of_none hcolumn]
  refine ⟨?_, fun key => ?_⟩
  · rw [Array.toList_push, h.lists, List.map_append]
    rfl
  · rw [Std.HashMap.getElem?_insert, h.columns, h.size_eq, List.findIdx?_append]
    by_cases hkey : listKey type values = key
    · subst hkey
      rw [hnew]
      simp [Entry.key]
    · simp [hkey, Entry.key]

/-! ### The lists of fields -/

/-- The list of a field that goes to the sheet of lists. -/
def pooledList? (p : Profile) (f : Field) : Option (List Value) :=
  f.constraints.enum.filter (needsEnumSheet p f.type)

/-- A field has a column of the sheet of lists if its list goes there, and then the column holds a list with
the key of its own. -/
def Placed (p : Profile) (entries : List Entry) (f : Field) (column : Option UInt16) : Prop :=
  match pooledList? p f with
  | none => column = none
  | some values => ∃ i e, column = some (UInt16.ofNat i) ∧ entries[i]? = some e ∧ e.key = listKey f.type values

theorem Placed.mono {p : Profile} {entries entries' : List Entry} {f : Field} {column : Option UInt16}
    (h : Placed p entries f column) (hle : entries <+: entries') : Placed p entries' f column := by
  unfold Placed at h ⊢
  split
  · rename_i hnone
    rwa [hnone] at h
  · rename_i values hsome
    rw [hsome] at h
    obtain ⟨i, e, hcolumn, he, hkey⟩ := h
    obtain ⟨more, rfl⟩ := hle
    exact ⟨i, e, hcolumn, by rw [List.getElem?_append_left (List.getElem?_eq_some_iff.1 he).1, he], hkey⟩

theorem place_of_none {p : Profile} {f : Field} (h : pooledList? p f = none) (pool : EnumPool) :
    place p f pool = (none, pool) := by
  unfold pooledList? at h
  unfold place
  cases henum : f.constraints.enum with
  | none => rfl
  | some values =>
    rw [henum, Option.filter_some] at h
    cases hneeds : needsEnumSheet p f.type values with
    | true => simp [hneeds] at h
    | false =>
      simp only [hneeds]
      rfl

theorem place_of_some {p : Profile} {f : Field} {values : List Value} (h : pooledList? p f = some values)
    (pool : EnumPool) : place p f pool = (some (column f.type values pool).1, (column f.type values pool).2) := by
  obtain ⟨henum, hneeds⟩ := Option.filter_eq_some_iff.1 h
  simp only [place, henum, hneeds]
  rfl

end EnumPool

end SheetTemplate
