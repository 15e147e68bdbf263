import SheetTemplate.Layout

/-!
# Where fields are placed

The place of a field follows from its position in its table alone, so a column of one table can be found
from the declaration of another. On a sheet that has room for the table no coordinate wraps around.
-/

namespace SheetTemplate

/-! ### Coordinates -/

theorem Platform.maxRows_le (p : Platform) : p.profile.maxRows.toNat ≤ 10000000 := by
  cases p <;> decide

theorem Platform.maxColumns_le (p : Platform) : p.profile.maxColumns.toNat ≤ 18278 := by
  cases p <;> decide

theorem toNat_columnAt {start : UInt16} {i : Nat} (h : start.toNat + i < UInt16.size) :
    (columnAt start i).toNat = start.toNat + i := by
  have hi : i % UInt16.size = i := Nat.mod_eq_of_lt (by omega)
  have hmin : min (start.toNat + i) (UInt16.size - 1) = start.toNat + i := by omega
  rw [columnAt, hi, hmin, UInt16.toNat_ofNat_of_lt' h]

namespace Options

variable {o : Options}

/-- The sum that is compared with the columns of a sheet is exact as long as it is below 2³². -/
theorem toNat_afterColumns {n : Nat} (h : o.startColumn.toNat + n < UInt32.size) :
    (o.startColumn.toUInt32 + UInt32.ofNat n).toNat = o.startColumn.toNat + n := by
  have hn : (UInt32.ofNat n).toNat = n := UInt32.toNat_ofNat_of_lt' (by omega)
  rw [UInt32.toNat_add, hn, UInt16.toNat_toUInt32, Nat.mod_eq_of_lt h]

theorem fits_iff (o : Options) {n : Nat} (h : o.startColumn.toNat + n < UInt32.size) :
    o.startColumn.toUInt32 + UInt32.ofNat n ≤ o.profile.maxColumns ↔
      o.startColumn.toNat + n ≤ o.profile.maxColumns.toNat := by
  rw [UInt32.le_iff_toNat_le, toNat_afterColumns h]

theorem toNat_startRow_succ (h : o.startRow.toNat + 1 + o.provisionedRows.toNat ≤ o.profile.maxRows.toNat) :
    (o.startRow + 1).toNat = o.startRow.toNat + 1 := by
  have hmax := o.platform.maxRows_le
  rw [UInt32.toNat_add]
  refine Nat.mod_eq_of_lt ?_
  change o.startRow.toNat + 1 < 2 ^ 32
  have hrows : o.startRow.toNat + 1 ≤ 10000000 := by
    change _ ≤ o.platform.profile.maxRows.toNat at h
    omega
  omega

theorem toNat_column (t : Table) (h : o.startColumn.toNat + t.fields.length ≤ o.profile.maxColumns.toNat) {i : Nat}
    (hi : i < t.fields.length) : (columnAt o.startColumn i).toNat = o.startColumn.toNat + i := by
  have hmax := o.platform.maxColumns_le
  refine toNat_columnAt ?_
  change _ ≤ o.platform.profile.maxColumns.toNat at h
  change _ < 65536
  omega

/-! ### Columns -/

variable [Libraries] {t : Table} {startRow : UInt32} {startColumn : UInt16}

theorem fields_layout : (o.layout t startRow startColumn).columns.map (·.field) = t.fields.map (·.name) := by
  calc (o.layout t startRow startColumn).columns.map (·.field)
    _ = (t.fields.zipIdx.map Prod.fst).map (·.name) := by rw [layout, List.map_map, List.map_map]; rfl
    _ = t.fields.map (·.name) := by rw [List.zipIdx_map_fst]

theorem length_columns_layout : (o.layout t startRow startColumn).columns.length = t.fields.length := by
  simpa using congrArg List.length (fields_layout (o := o) (t := t))

theorem getElem?_columns_layout {i : Nat} {c : ColumnLayout} (h : (o.layout t startRow startColumn).columns[i]? = some c) :
    ∃ f, t.fields[i]? = some f ∧ c.field = f.name ∧ c.index = columnAt startColumn i ∧
      c.data = CellRange.ofColumn (columnAt startColumn i) ⟨startRow + 1, o.provisionedRows⟩ := by
  simp only [layout, List.getElem?_map, List.getElem?_zipIdx] at h
  obtain ⟨fi, hfi, rfl⟩ := Option.map_eq_some_iff.1 h
  obtain ⟨f, hf, rfl⟩ := Option.map_eq_some_iff.1 hfi
  rw [Nat.zero_add]
  exact ⟨f, hf, rfl, rfl, rfl⟩

theorem range_lookupOf {c : ColumnLayout} (h : c ∈ (o.layout t startRow startColumn).columns) :
    ((o.layout t startRow startColumn).lookupOf c).range = c.data.fixed := by
  obtain ⟨i, hi⟩ := List.getElem?_of_mem h
  obtain ⟨_, _, _, hindex, hdata⟩ := getElem?_columns_layout hi
  rw [hdata, TableLayout.lookupOf, hindex]
  rfl

theorem lookup?_layout (field : String) : (o.layout t startRow startColumn).lookup? field =
    (t.fieldIndex? field).map fun i => ⟨t.sheetName, columnAt startColumn i, ⟨startRow + 1, o.provisionedRows⟩⟩ := by
  rw [Table.fieldIndex?, List.findIdx?_eq_fst_find?_zipIdx, Option.map_map]
  simp only [TableLayout.lookup?, TableLayout.column?, layout, List.find?_map, Option.map_map]
  rfl

end Options

end SheetTemplate
