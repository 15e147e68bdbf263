import Mathlib.Data.List.Find
import SheetTemplate.Proofs.Compile.Permissible

/-!
# The columns of lists

While lists are pooled, a column is looked up by the key of its list. Afterwards only the column numbers are left, one
for each field whose list no rule holds. Read table by table and field by field they still say which lists share a
column and where a column was used first, because the keys of the pool are those of the fields without repetition, and a
column number is a place among them.
-/

namespace SheetTemplate

abbrev Placement := Field × UInt16

namespace Placement

def values (x : Placement) : List Value := x.1.constraints.enum.getD []

def formulas (x : Placement) : List String := x.values.map (·.formula.render)

def entry (x : Placement) : EnumPool.Entry := (x.1.type, x.values)

end Placement

/-- The fields that have a column of the sheet of lists, table by table and field by field. -/
def Resolution.placements (r : Resolution) (p : Package) : List Placement :=
  (p.tables.zip r.tables).flatMap fun (t, references) =>
    (t.fields.zip references).filterMap fun (f, res) => res.enumColumn.map (f, ·)

/-- The lists of the sheet of lists, none where there is no such sheet. -/
def Resolution.lists (r : Resolution) : List (List Value) := (r.enumSheet.map (·.columns)).getD []

/-! ### One field -/

namespace FieldResolution.For

variable {o : Options} {entries : List EnumPool.Entry} {t : Table} {f : Field} {res : FieldResolution}

theorem isSome_enumColumn (h : FieldResolution.For o entries t f res) : res.enumColumn.isSome = true ↔
    ∃ values, f.constraints.enum = some values ∧ ¬o.Inlines f.type values := by
  simp only [← pooledList?_eq_some_iff]
  rcases h.enumColumn_cases with ⟨hnone, hcolumn⟩ | ⟨values, i, e, hsome, hcolumn, -⟩
  · simp [hnone, hcolumn]
  · simp [hsome, hcolumn]

/-- A field has a column if it entered a list, and that list is its own. -/
theorem entry_eq (h : FieldResolution.For o entries t f res) :
    (res.enumColumn.map (f, ·)).map Placement.entry = EnumPool.entered? o.profile f := by
  rcases h.enumColumn_cases with ⟨hnone, hcolumn⟩ | ⟨values, i, e, hsome, hcolumn, -⟩
  · rw [EnumPool.entered?, hnone, hcolumn]
    rfl
  · have hvalues := (pooledList?_eq_some_iff.1 hsome).1
    simp only [EnumPool.entered?, hsome, hcolumn, Option.map_some, Placement.entry, Placement.values, hvalues,
      Option.getD_some]

end FieldResolution.For

/-! ### All fields -/

private theorem map_entry_fields {o : Options} {entries : List EnumPool.Entry} {t : Table} {fields : List Field}
    {references : List FieldResolution} (h : List.Forall₂ (FieldResolution.For o entries t) fields references) :
    ((fields.zip references).filterMap fun (f, res) => res.enumColumn.map (f, ·)).map Placement.entry =
      fields.flatMap fun f => (EnumPool.entered? o.profile f).toList := by
  induction h with
  | nil => rfl
  | @cons f res _ _ hfor _ ih =>
    simp only [List.zip_cons_cons, List.filterMap_cons, List.flatMap_cons, ← hfor.entry_eq, ← ih]
    cases res.enumColumn <;> simp

namespace Resolved

variable {p : Package} {o : Options} {entries : List EnumPool.Entry} {r : Resolution}

theorem map_entry_placements (h : Resolved p o entries r) : (r.placements p).map Placement.entry = p.lists o := by
  have htables : ∀ {tables references}, List.Forall₂ (fun t rs => List.Forall₂ (FieldResolution.For o entries t) t.fields rs)
      tables references → ((tables.zip references).flatMap fun (t, rs) =>
        (t.fields.zip rs).filterMap fun (f, res) => res.enumColumn.map (f, ·)).map Placement.entry =
      tables.flatMap fun t => t.fields.flatMap fun f => (EnumPool.entered? o.profile f).toList := by
    intro tables references hall
    induction hall with
    | nil => rfl
    | cons hfields _ ih =>
      rw [List.zip_cons_cons, List.flatMap_cons, List.flatMap_cons, List.map_append, map_entry_fields hfields, ih]
  exact htables h.tables

theorem of_mem_placements (h : Resolved p o entries r) {x : Placement} (hx : x ∈ r.placements p) :
    ∃ t ∈ p.tables, x.1 ∈ t.fields ∧ ∃ e, x.1.constraints.enum = some x.values ∧ entries[x.2.toNat]? = some e ∧
      e.key = x.entry.key := by
  obtain ⟨⟨t, references⟩, htable, hx⟩ := List.mem_flatMap.1 hx
  obtain ⟨⟨f, res⟩, hfield, hx⟩ := List.mem_filterMap.1 hx
  obtain ⟨column, hcolumn, rfl⟩ := Option.map_eq_some_iff.1 hx
  have hfor := List.forall₂_zip (List.forall₂_zip h.tables htable) hfield
  refine ⟨t, (List.of_mem_zip htable).1, (List.of_mem_zip hfield).1, ?_⟩
  rcases hfor.enumColumn_cases with ⟨_, hnone⟩ | ⟨values, i, e, hsome, hsame, hi, hkey⟩
  · cases hnone.symm.trans hcolumn
  · obtain rfl : UInt16.ofNat i = column := Option.some.inj (hsame.symm.trans hcolumn)
    have hvalues := (pooledList?_eq_some_iff.1 hsome).1
    have hown : Placement.values (f, UInt16.ofNat i) = values := by rw [Placement.values, hvalues, Option.getD_some]
    refine ⟨e, hown ▸ hvalues, ?_, ?_⟩
    · rw [toNat_listColumn h.lists_fit hi, hi]
    · rw [hkey, Placement.entry, hown]
      rfl

theorem lists_eq (h : Resolved p o entries r) : r.lists = entries.map Prod.snd := by
  rw [Resolution.lists, h.enumSheet_eq, listSheet?]
  split
  · rename_i hempty
    rw [List.isEmpty_iff.1 hempty]
    rfl
  · rfl

end Resolved

/-! ### Column numbers -/

section Columns

variable {p : Package} {o : Options} {r : Resolution}

/-- A column is the place of the key of its list among the keys in order of first use. -/
theorem toNat_column (h : Resolved p o (p.entries o) r) {x : Placement} (hx : x ∈ r.placements p) :
    x.2.toNat = ((p.lists o).map EnumPool.Entry.key).eraseDups.idxOf x.entry.key := by
  obtain ⟨_, _, _, e, _, hi, hkey⟩ := h.of_mem_placements hx
  have hplace : ((p.entries o).map EnumPool.Entry.key)[x.2.toNat]? = some x.entry.key := by
    rw [List.getElem?_map, hi, Option.map_some, hkey]
  obtain ⟨hlt, hget⟩ := List.getElem?_eq_some_iff.1 hplace
  rw [← p.keys_entries o, ← hget, (p.nodup_keys_entries o).idxOf_getElem]

theorem column_eq_iff (h : Resolved p o (p.entries o) r) {x y : Placement} (hx : x ∈ r.placements p)
    (hy : y ∈ r.placements p) : x.2 = y.2 ↔ x.entry.key = y.entry.key := by
  have hmem : x.entry.key ∈ ((p.lists o).map EnumPool.Entry.key).eraseDups := by
    rw [List.mem_eraseDups, ← h.map_entry_placements]
    exact List.mem_map_of_mem (List.mem_map_of_mem hx)
  rw [← UInt16.toNat_inj, toNat_column h hx, toNat_column h hy, List.idxOf_inj hmem]

theorem eraseDups_columns (h : Resolved p o (p.entries o) r) :
    ((r.placements p).map (·.2.toNat)).eraseDups = List.range r.lists.length := by
  have hcolumns : (r.placements p).map (·.2.toNat) =
      ((p.lists o).map EnumPool.Entry.key).map ((p.lists o).map EnumPool.Entry.key).eraseDups.idxOf := by
    rw [← h.map_entry_placements, List.map_map, List.map_map, h.map_entry_placements]
    exact List.map_congr_left fun x hx => toNat_column h hx
  rw [hcolumns, eraseDups_map_idxOf, ← p.keys_entries o, List.length_map, h.lists_eq, List.length_map]

theorem getElem?_lists (h : Resolved p o (p.entries o) r) (k : Nat) :
    r.lists[k]? = ((r.placements p).find? (·.2.toNat = k)).bind (·.1.constraints.enum) := by
  rw [h.lists_eq, List.getElem?_map]
  cases he : (p.entries o)[k]? with
  | none =>
    have hnone : (r.placements p).find? (·.2.toNat = k) = none := by
      refine List.find?_eq_none.2 fun x hx hk => ?_
      obtain ⟨_, _, _, e, _, hi, _⟩ := h.of_mem_placements hx
      rw [of_decide_eq_true hk, he] at hi
      cases hi
    rw [hnone]
    rfl
  | some e =>
    have hfirst := Package.find?_lists (List.mem_of_getElem? he)
    have hplace : ((p.entries o).map EnumPool.Entry.key)[k]? = some e.key := by rw [List.getElem?_map, he, Option.map_some]
    have hsame : ∀ x ∈ r.placements p, decide (x.entry.key = e.key) = decide (x.2.toNat = k) := by
      intro x hx
      obtain ⟨_, _, _, e', _, hi, hkey⟩ := h.of_mem_placements hx
      have hplace' : ((p.entries o).map EnumPool.Entry.key)[x.2.toNat]? = some e'.key := by
        rw [List.getElem?_map, hi, Option.map_some]
      have hlt : x.2.toNat < ((p.entries o).map EnumPool.Entry.key).length := (List.getElem?_eq_some_iff.1 hplace').1
      rw [decide_eq_decide, ← hkey, ← List.getElem?_inj hlt (p.nodup_keys_entries o) (j := k), hplace, hplace',
        Option.some_inj]
    rw [← h.map_entry_placements, List.find?_map] at hfirst
    obtain ⟨x, hx, hxe⟩ := Option.map_eq_some_iff.1 hfirst
    obtain ⟨_, _, _, _, hvalues, _⟩ := h.of_mem_placements (List.mem_of_find?_eq_some hx)
    rw [← List.find?_congr hsame]
    change some e.2 = (List.find? ((fun e' => decide (e'.key = e.key)) ∘ Placement.entry) (r.placements p)).bind _
    rw [hx, Option.bind_some, hvalues, ← hxe]
    rfl

theorem isEmpty_entries (h : Resolved p o (p.entries o) r) : (p.entries o).isEmpty = (r.placements p).isEmpty := by
  have hentries : (p.entries o).isEmpty = (p.lists o).isEmpty := by
    rw [← List.isEmpty_map (f := EnumPool.Entry.key), p.keys_entries o]
    cases p.lists o with
    | nil => rfl
    | cons e es => rw [List.map_cons, List.eraseDups_cons, List.isEmpty_cons, List.isEmpty_cons]
  rw [hentries, ← h.map_entry_placements, List.isEmpty_map]

end Columns

/-! ### The columns as a whole -/

/-- What the columns of a resolution say of the lists of its package. -/
structure Resolution.Pools (r : Resolution) (p : Package) (o : Options) : Prop where
  needed : List.Forall₂ (fun t references => List.Forall₂ (fun f res => res.enumColumn.isSome = true ↔
    ∃ values, f.constraints.enum = some values ∧ ¬o.Inlines f.type values) t.fields references) p.tables r.tables
  shared : ∀ x ∈ r.placements p, ∀ y ∈ r.placements p,
    x.2 = y.2 ↔ x.1.type = y.1.type ∧ x.formulas = y.formulas
  /-- Texts and truth values have formulas of their own, so only equal lists of them share a column. -/
  plain : ∀ x ∈ r.placements p, ∀ y ∈ r.placements p, x.1.type.isNumeric = false →
    (x.2 = y.2 ↔ x.1.constraints.enum = y.1.constraints.enum)
  numbered : ((r.placements p).map (·.2.toNat)).eraseDups = List.range r.lists.length
  filled : ∀ k : Nat, r.lists[k]? = ((r.placements p).find? (·.2.toNat = k)).bind (·.1.constraints.enum)
  sheet_eq : r.enumSheet = if (r.placements p).isEmpty then none else some ⟨o.enumSheet, r.lists⟩

theorem Value.type_eq_of_hasType {type other : FieldType} (hplain : type.isNumeric = false) {v : Value}
    (h : v.hasType type = true) (hother : v.hasType other = true) : type = other := by
  cases type <;> cases hplain <;> cases v <;> cases h <;> cases other <;> first | rfl | cases hother

theorem pools_of_resolve [Libraries] {p : Package} {o : Options} {r : Resolution} (h : resolve p o = .ok r) : r.Pools p o := by
  have hresolved := resolved_of_resolve h
  have hwf := wellFormed_of_resolve h
  have hshared : ∀ x ∈ r.placements p, ∀ y ∈ r.placements p,
      x.2 = y.2 ↔ x.1.type = y.1.type ∧ x.formulas = y.formulas := by
    intro x hx y hy
    rw [column_eq_iff hresolved hx hy]
    exact Prod.ext_iff
  refine ⟨?_, hshared, ?_, eraseDups_columns hresolved, getElem?_lists hresolved, ?_⟩
  · exact hresolved.tables.imp fun _ _ hfields => hfields.imp fun _ _ hfor => hfor.isSome_enumColumn
  · intro x hx y hy hplain
    obtain ⟨t, ht, hxt, _, hxvalues, _⟩ := hresolved.of_mem_placements hx
    obtain ⟨u, hu, hyu, _, hyvalues, _⟩ := hresolved.of_mem_placements hy
    have hxsound := hwf.fields_sound t ht x.1 hxt
    have hxtyped := hxsound.enum_typed _ hxvalues
    have hytyped := (hwf.fields_sound u hu y.1 hyu).enum_typed _ hyvalues
    rw [hshared x hx y hy, hxvalues, hyvalues, Option.some_inj]
    constructor
    · rintro ⟨htype, hformulas⟩
      rw [← htype] at hytyped
      exact eq_of_map_eq hformulas fun v hv w hw => Value.eq_of_formula hplain (hxtyped v hv) (hytyped w hw)
    · intro hvalues
      obtain ⟨v, hv⟩ := List.exists_mem_of_ne_nil _ fun hnil => hxsound.enum_nonempty (hnil ▸ hxvalues)
      exact ⟨Value.type_eq_of_hasType hplain (hxtyped v hv) (hytyped v (hvalues ▸ hv)),
        congrArg (List.map fun v : Value => v.formula.render) hvalues⟩
  · rw [hresolved.lists_eq, ← isEmpty_entries hresolved]
    exact hresolved.enumSheet_eq

attribute [local instance] Libraries.plain in
theorem parcels_pools : ∃ r, resolve parcels online = .ok r ∧ r.Pools parcels online ∧
    r.enumSheet = some ⟨online.enumSheet, [[.integer 1]]⟩ := by
  obtain ⟨r, hr⟩ := exists_resolve_of_wellFormed parcels_wellFormed
  have hentries : parcels.entries online = [(.integer, [.integer 1])] := by decide +kernel
  have hsheet := (resolved_of_resolve hr).enumSheet_eq
  rw [hentries] at hsheet
  exact ⟨r, hr, pools_of_resolve hr, hsheet⟩

end SheetTemplate
