import SheetTemplate.Proofs.Compile.Obstacles
import SheetTemplate.Proofs.Compile.Templates

/-!
# Tables on the grid

Rows are counted in 32 bits and columns in 16, and sheets have fewer of both. What passes the checks on rows fits: every
row and sum of rows is the one that unbounded numbers would give. The same goes for columns as long as the fields of a
table can be counted in 32 bits, which is how they are counted in the check. So a table stands where it should, on cells
that its sheet has, and covers nothing else.
-/

namespace SheetTemplate

/-! ### Cells by number -/

namespace Grid

/-- The A1 text of a cell, its row and column counted from zero without bound. -/
def cellText (rowFixed columnFixed : Bool) (row column : Nat) : String :=
  Address.mark columnFixed ++ String.ofList (Address.lettersBefore (column + 1) []) ++ Address.mark rowFixed ++
    (row + 1).repr

/-- The A1 text of so many cells of a row from one cell on, their columns fixed. -/
def rowText (row column : Nat) : Nat → String
  | 0 => ""
  | 1 => cellText false true row column
  | n + 2 => cellText false true row column ++ ":" ++ cellText false true row (column + n + 1)

end Grid

/-- An address means the cell in a row and a column and is written so, whichever of the two is fixed. -/
structure Address.At (a : Address) (row column : Nat) : Prop where
  row_eq : a.row.toNat = row
  column_eq : a.column.toNat = column
  text_eq (rowFixed columnFixed : Bool) :
    Address.text { a with rowFixed, columnFixed } = Grid.cellText rowFixed columnFixed row column

private theorem toNat_succ {n : UInt32} (h : n.toNat + 1 < UInt32.size) : (n + 1).toNat = n.toNat + 1 := by
  rw [UInt32.toNat_add]
  exact Nat.mod_eq_of_lt h

theorem Address.at_of_lt {a : Address} {row column : Nat} (hrow : a.row.toNat = row) (hcolumn : a.column.toNat = column)
    (hlt : row + 1 < UInt32.size) : a.At row column := by
  refine ⟨hrow, hcolumn, fun rowFixed columnFixed => ?_⟩
  change mark columnFixed ++ letters a.column ++ mark rowFixed ++ (a.row + 1).toNat.repr = _
  rw [toNat_succ (by omega), letters, hrow, hcolumn]
  rfl

theorem Address.At.fixed {a : Address} {row column : Nat} (h : a.At row column) : a.fixed.At row column :=
  ⟨h.row_eq, h.column_eq, h.text_eq⟩

/-- The sums that are made of a span of rows do not run over. -/
structure RowSpan.Exact (rows : RowSpan) : Prop where
  sum_eq : (rows.first + max rows.count 1).toNat = rows.first.toNat + max rows.count.toNat 1
  last_eq : rows.last.toNat = rows.first.toNat + max rows.count.toNat 1 - 1
  next_eq : (rows.last + 1).toNat = rows.first.toNat + max rows.count.toNat 1

theorem toNat_max_one (n : UInt32) : (max n 1).toNat = max n.toNat 1 := by
  have hone : (1 : UInt32).toNat = 1 := rfl
  have hmax : max n 1 = if n ≤ 1 then 1 else n := rfl
  rw [hmax]
  split
  · rename_i hle
    have := UInt32.le_iff_toNat_le.1 hle
    omega
  · rename_i hlt
    have hlt : ¬n.toNat ≤ 1 := fun hle => hlt (UInt32.le_iff_toNat_le.2 hle)
    omega

theorem RowSpan.exact_of_lt {rows : RowSpan} (h : rows.first.toNat + max rows.count.toNat 1 < UInt32.size) : rows.Exact := by
  have hsum : (rows.first + max rows.count 1).toNat = rows.first.toNat + max rows.count.toNat 1 := by
    rw [UInt32.toNat_add, toNat_max_one]
    exact Nat.mod_eq_of_lt h
  have hlast : rows.last.toNat = rows.first.toNat + max rows.count.toNat 1 - 1 := by
    have hone : 1 ≤ rows.first + max rows.count 1 := by
      rw [UInt32.le_iff_toNat_le, hsum]
      change 1 ≤ _
      omega
    rw [last, UInt32.toNat_sub_of_le _ _ hone, hsum]
    rfl
  refine ⟨hsum, hlast, ?_⟩
  rw [toNat_succ (by omega), hlast]
  omega

/-- A lookup whose cells are the ones that its numbers say. -/
structure Lookup.Exact (l : Lookup) : Prop where
  rows : l.rows.Exact
  first : l.range.first.At l.rows.first.toNat l.column.toNat
  last : l.range.last.At (l.rows.first.toNat + max l.rows.count.toNat 1 - 1) l.column.toNat

theorem Lookup.exact_of_lt {l : Lookup} (h : l.rows.first.toNat + max l.rows.count.toNat 1 < UInt32.size) : l.Exact := by
  have hrows := RowSpan.exact_of_lt h
  refine ⟨hrows, ?_, ?_⟩
  · exact Address.at_of_lt rfl rfl (by omega)
  · exact Address.at_of_lt hrows.last_eq rfl (by omega)

/-! ### Layouts -/

/-- The place, the header and the column of the `i`-th field of a table. -/
structure Sheet.Placed (o : Options) (s : Sheet) (i : Nat) (f : Field) (place : ColumnLayout) (header : HeaderCell)
    (c : Column) : Prop where
  place_eq : s.layout.columns[i]? = some place
  header_eq : s.layout.headers[i]? = some header
  column_eq : s.columns[i]? = some c
  names_eq : place.field = f.name ∧ header.text = f.name ∧ c.field = f.name
  index_lt : o.startColumn.toNat + i < o.profile.maxColumns.toNat
  index_eq : place.index.toNat = o.startColumn.toNat + i ∧ c.index = place.index
  header_at : header.address.At o.startRow.toNat (o.startColumn.toNat + i) ∧ place.header = header.address
  first_at : place.data.first.At (o.startRow.toNat + 1) (o.startColumn.toNat + i)
  last_at : place.data.last.At (o.startRow.toNat + max o.dataRows.toNat 1) (o.startColumn.toNat + i)
  range_eq : c.range = place.data

/-- A sheet with a table on it, a column for each field in order and the data rows below the headers. -/
structure Sheet.OnRows (o : Options) (t : Table) (s : Sheet) : Prop where
  layout_length : s.layout.columns.length = t.fields.length ∧ s.layout.headers.length = t.fields.length
  fields_eq : s.columns.map (·.field) = t.fields.map (·.name)
  rows_lt : o.startRow.toNat + max o.dataRows.toNat 1 < o.profile.maxRows.toNat
  first_eq : s.layout.dataRows.first.toNat = o.startRow.toNat + 1
  count_eq : s.layout.dataRows.count.toNat = max o.dataRows.toNat 1
  rows_exact : s.layout.dataRows.Exact
  headers_row : ∀ header ∈ s.layout.headers, header.address.row = o.startRow
  ranges_row : ∀ c ∈ s.columns, c.range.first.row.toNat = o.startRow.toNat + 1 ∧
    c.range.last.row.toNat = o.startRow.toNat + max o.dataRows.toNat 1
  frozen_rows : ∀ panes, s.layout.freeze = some panes →
    panes.rows.toNat = if o.freezeHeader then o.startRow.toNat + 1 else 0

/-- The fields of the table stand next to each other from the first column on, and nothing else is taken for them. -/
structure Sheet.OnColumns (o : Options) (t : Table) (s : Sheet) : Prop where
  placed : ∀ i f, t.fields[i]? = some f → ∃ place header c, s.Placed o i f place header c
  rowRange_eq : s.layout.rowRange = Grid.rowText (o.startRow.toNat + 1) o.startColumn.toNat t.fields.length
  hidden_eq : ∀ span, s.layout.hidden = some span → span.first.toNat = o.startColumn.toNat + t.fields.length ∧
    span.last.toNat = o.profile.maxColumns.toNat - 1 ∧ span.first ≤ span.last ∧ ∀ c ∈ s.columns, c.index < span.first
  frozen_columns : ∀ panes, s.layout.freeze = some panes →
    panes.columns.toNat = if o.freezeFirstColumn ∧ t.fields ≠ [] then o.startColumn.toNat + 1 else 0

section Layout

variable {o : Options} {t : Table}

structure Options.Fits (o : Options) (t : Table) : Prop where
  rows : o.startRow.toNat + 1 + o.provisionedRows.toNat ≤ o.profile.maxRows.toNat
  columns : o.startColumn.toNat + t.fields.length ≤ o.profile.maxColumns.toNat

theorem Options.toNat_provisionedRows (o : Options) : o.provisionedRows.toNat = max o.dataRows.toNat 1 :=
  toNat_max_one o.dataRows

section Rows

variable (hrows : o.startRow.toNat + 1 + o.provisionedRows.toNat ≤ o.profile.maxRows.toNat)
include hrows

theorem Options.row_lt : o.startRow.toNat + max o.dataRows.toNat 1 < o.profile.maxRows.toNat := by
  rw [toNat_provisionedRows] at hrows
  omega

theorem Options.row_lt_size : o.startRow.toNat + max o.dataRows.toNat 1 + 1 < UInt32.size := by
  have hrow := row_lt hrows
  have hmax : o.profile.maxRows.toNat ≤ 10000000 := o.platform.maxRows_le
  change _ < 2 ^ 32
  omega

theorem Options.next_row_lt_size [Libraries] :
    (o.home t).dataRows.first.toNat + max (o.home t).dataRows.count.toNat 1 < UInt32.size := by
  have hlt := row_lt_size hrows
  change (o.startRow + 1).toNat + max o.provisionedRows.toNat 1 < UInt32.size
  rw [toNat_startRow_succ hrows, toNat_provisionedRows]
  omega

theorem Options.rows_exact [Libraries] : (o.home t).dataRows.Exact := RowSpan.exact_of_lt (next_row_lt_size hrows)

theorem Options.toNat_last_home [Libraries] :
    (o.home t).dataRows.last.toNat = o.startRow.toNat + max o.dataRows.toNat 1 := by
  have hcount : (o.home t).dataRows.count.toNat = max o.dataRows.toNat 1 := toNat_provisionedRows o
  have hfirst : (o.home t).dataRows.first.toNat = o.startRow.toNat + 1 := toNat_startRow_succ hrows
  rw [(rows_exact hrows).last_eq, hcount, hfirst]
  omega

theorem Options.lookup_exact [Libraries] {field : String} {l : Lookup} (hl : (o.home t).lookup? field = some l) :
    l.Exact := by
  obtain ⟨place, _, rfl⟩ := Option.map_eq_some_iff.1 hl
  exact Lookup.exact_of_lt (next_row_lt_size (t := t) hrows)

end Rows

namespace Options.Fits

theorem index_eq (h : o.Fits t) {i : Nat} (hi : i < t.fields.length) :
    (columnAt o.startColumn i).toNat = o.startColumn.toNat + i := toNat_column t h.columns hi

theorem header_at (h : o.Fits t) {i : Nat} (hi : i < t.fields.length) :
    Address.At { row := o.startRow, column := columnAt o.startColumn i } o.startRow.toNat (o.startColumn.toNat + i) := by
  have hlt := row_lt_size h.rows
  exact Address.at_of_lt rfl (h.index_eq hi) (by omega)

theorem first_at [Libraries] (h : o.Fits t) {i : Nat} (hi : i < t.fields.length) :
    Address.At (CellRange.ofColumn (columnAt o.startColumn i) (o.home t).dataRows).first (o.startRow.toNat + 1)
      (o.startColumn.toNat + i) := by
  have hlt := row_lt_size h.rows
  exact Address.at_of_lt (toNat_startRow_succ h.rows) (h.index_eq hi) (by omega)

theorem last_at [Libraries] (h : o.Fits t) {i : Nat} (hi : i < t.fields.length) :
    Address.At (CellRange.ofColumn (columnAt o.startColumn i) (o.home t).dataRows).last
      (o.startRow.toNat + max o.dataRows.toNat 1) (o.startColumn.toNat + i) := by
  have hlt := row_lt_size h.rows
  exact Address.at_of_lt (toNat_last_home (t := t) h.rows) (h.index_eq hi) (by omega)

end Options.Fits

theorem Options.getElem?_home [Libraries] {i : Nat} {f : Field} (hf : t.fields[i]? = some f) :
    ∃ place header, (o.home t).columns[i]? = some place ∧ (o.home t).headers[i]? = some header ∧
      place.field = f.name ∧ header.text = f.name ∧ place.index = columnAt o.startColumn i ∧
      header.address = { row := o.startRow, column := columnAt o.startColumn i } ∧ place.header = header.address ∧
      place.data = CellRange.ofColumn (columnAt o.startColumn i) (o.home t).dataRows := by
  simp only [home, layout, List.getElem?_map, List.getElem?_zipIdx, hf, Option.map_some, Nat.zero_add,
    Option.some.injEq, exists_and_left, exists_eq_left', and_self]

theorem Options.Fits.rowRange_eq [Libraries] (h : o.Fits t) :
    (o.home t).rowRange = Grid.rowText (o.startRow.toNat + 1) o.startColumn.toNat t.fields.length := by
  have hlength : (o.home t).columns.length = t.fields.length := length_columns_layout
  have hcell : ∀ i < t.fields.length,
      Address.text { row := (o.home t).dataRows.first, column := columnAt o.startColumn i, columnFixed := true } =
      Grid.cellText false true (o.startRow.toNat + 1) (o.startColumn.toNat + i) :=
    fun i hi => (h.first_at hi).text_eq false true
  have hplace : ∀ i < t.fields.length, ∃ place, (o.home t).columns[i]? = some place ∧ place.index = columnAt o.startColumn i := by
    intro i hi
    obtain ⟨place, _, hplace, _, _, _, hindex, _⟩ := getElem?_home (o := o) (List.getElem?_eq_getElem hi)
    exact ⟨place, hplace, hindex⟩
  rw [TableLayout.rowRange, List.head?_eq_getElem?, List.getLast?_eq_getElem?, hlength]
  cases hn : t.fields.length with
  | zero =>
    rw [hn, List.length_eq_zero_iff] at hlength
    rw [hlength]
    rfl
  | succ n =>
    obtain ⟨first, hfirst, hfirstIndex⟩ := hplace 0 (by omega)
    obtain ⟨last, hlast, hlastIndex⟩ := hplace n (by omega)
    rw [Nat.add_sub_cancel, hfirst, hlast]
    simp only [hfirstIndex, hlastIndex, CellRange.text]
    -- A row of one cell is written as that cell, and two columns are never one number.
    cases n with
    | zero =>
      rw [if_pos rfl, hcell 0 (by omega)]
      rfl
    | succ n =>
      have hne : columnAt o.startColumn 0 ≠ columnAt o.startColumn (n + 1) := by
        intro heq
        have hindex := congrArg UInt16.toNat heq
        rw [h.index_eq (by omega), h.index_eq (by omega)] at hindex
        omega
      rw [if_neg (fun heq => hne (congrArg Address.column heq)), hcell 0 (by omega), hcell (n + 1) (by omega)]
      rfl

theorem Options.Fits.hidden_eq [Libraries] (h : o.Fits t) {span : ColumnSpan} (hspan : (o.home t).hidden = some span) :
    span.first.toNat = o.startColumn.toNat + t.fields.length ∧ span.last.toNat = o.profile.maxColumns.toNat - 1 ∧
      span.first ≤ span.last := by
  have hmax : o.profile.maxColumns.toNat ≤ 18278 := o.platform.maxColumns_le
  have hcolumns := h.columns
  change o.hiddenColumns o.startColumn t.fields.length _ = some span at hspan
  obtain ⟨_, hspan⟩ := Option.ite_none_left_eq_some.1 hspan
  obtain ⟨hle, hspan⟩ := Option.ite_none_right_eq_some.1 hspan
  cases hspan
  have hfirst : (o.startColumn.toUInt32 + UInt32.ofNat t.fields.length).toNat = o.startColumn.toNat + t.fields.length :=
    toNat_afterColumns (show _ < 2 ^ 32 by omega)
  have hlast : (min (UInt32.ofNat (o.profile.maxColumns.toNat - 1)) (UInt32.ofNat (UInt16.size - 1))).toNat =
      o.profile.maxColumns.toNat - 1 := by
    have hcount : (UInt32.ofNat (o.profile.maxColumns.toNat - 1)).toNat = o.profile.maxColumns.toNat - 1 :=
      UInt32.toNat_ofNat_of_lt' (show _ < 2 ^ 32 by omega)
    have hle : UInt32.ofNat (o.profile.maxColumns.toNat - 1) ≤ UInt32.ofNat (UInt16.size - 1) := by
      rw [UInt32.le_iff_toNat_le, hcount]
      change _ ≤ 65535
      omega
    exact (congrArg UInt32.toNat (if_pos hle)).trans hcount
  rw [UInt32.le_iff_toNat_le, hfirst, hlast] at hle
  have hfirst16 := UInt32.toNat_toUInt16 (o.startColumn.toUInt32 + UInt32.ofNat t.fields.length)
  have hlast16 := UInt32.toNat_toUInt16 (min (UInt32.ofNat (o.profile.maxColumns.toNat - 1)) (UInt32.ofNat (UInt16.size - 1)))
  rw [hfirst, Nat.mod_eq_of_lt (by omega)] at hfirst16
  rw [hlast, Nat.mod_eq_of_lt (by omega)] at hlast16
  refine ⟨hfirst16, hlast16, UInt16.le_iff_toNat_le.2 ?_⟩
  rw [hfirst16, hlast16]
  exact hle

theorem Options.frozen_rows [Libraries] (hrows : o.startRow.toNat + 1 + o.provisionedRows.toNat ≤ o.profile.maxRows.toNat)
    {panes : FreezePanes} (hpanes : (o.home t).freeze = some panes) :
    panes.rows.toNat = if o.freezeHeader then o.startRow.toNat + 1 else 0 := by
  change o.freezePanes o.startRow o.startColumn t.fields.length = some panes at hpanes
  obtain ⟨_, hpanes⟩ := Option.ite_none_left_eq_some.1 hpanes
  cases hpanes
  cases o.freezeHeader with
  | true => exact toNat_startRow_succ hrows
  | false => rfl

theorem Options.Fits.frozen_columns [Libraries] (h : o.Fits t) {panes : FreezePanes}
    (hpanes : (o.home t).freeze = some panes) :
    panes.columns.toNat = if o.freezeFirstColumn ∧ t.fields ≠ [] then o.startColumn.toNat + 1 else 0 := by
  have hmax : o.profile.maxColumns.toNat ≤ 18278 := o.platform.maxColumns_le
  have hcolumns := h.columns
  change o.freezePanes o.startRow o.startColumn t.fields.length = some panes at hpanes
  obtain ⟨_, hpanes⟩ := Option.ite_none_left_eq_some.1 hpanes
  cases hpanes
  cases hfields : t.fields with
  | nil => simp
  | cons f rest =>
    rw [hfields, List.length_cons] at hcolumns
    have hnext : (o.startColumn + 1).toNat = o.startColumn.toNat + 1 := by
      rw [UInt16.toNat_add]
      exact Nat.mod_eq_of_lt (show o.startColumn.toNat + 1 < 2 ^ 16 by omega)
    cases o.freezeFirstColumn with
    | true => simpa using hnext
    | false => rfl

end Layout

/-! ### Templates -/

namespace Template.CompiledFrom

variable [Libraries] {p : Package} {o : Options} {entries : List EnumPool.Entry} {r : Resolution} {t : Template}

theorem fits (h : t.CompiledFrom p o entries r) {table : Table} (htable : table ∈ p.tables)
    (hsize : o.startColumn.toNat + table.fields.length < UInt32.size) : o.Fits table :=
  ⟨h.resolved.rows_fit, (o.fits_iff hsize).1 (h.resolved.named.fields_fit table htable)⟩

theorem exact_of_get? (h : t.CompiledFrom p o entries r) {table field : String} {l : Lookup}
    (hget : t.lookups.get? table field = some l) : l.Exact := by
  rcases h.run.get?_final h.fields_nodup hget with hempty | ⟨s, hs, _, hlookup⟩
  · cases hempty
  obtain ⟨other, hother, _, _, hsheet, _⟩ := h.of_mem_sheets hs
  rw [hsheet.layout_eq] at hlookup
  exact Options.lookup_exact h.resolved.rows_fit hlookup

end Template.CompiledFrom

theorem FieldResolution.exact_of_place? {res : FieldResolution} {lists : Option EnumSheet} {l : Lookup}
    (h : res.place? lists = some l) : l.Exact := by
  obtain ⟨i, _, hlookup⟩ := Option.bind_eq_some_iff.1 h
  obtain ⟨sheet, _, hlookup⟩ := Option.bind_eq_some_iff.1 hlookup
  obtain ⟨values, _, rfl⟩ := Option.map_eq_some_iff.1 hlookup
  -- The list may be cut to as many rows as a number of 32 bits can count.
  refine Lookup.exact_of_lt ?_
  have hcount := (UInt32.ofNat values.length).toNat_lt
  change 0 + max (UInt32.ofNat values.length).toNat 1 < 2 ^ 32
  omega

namespace Sheet.CompiledFrom

variable [Libraries] {o : Options} {lists : Option EnumSheet} {registry : Registry} {t : Table} {rs : List FieldResolution}
  {s : Sheet}

theorem exists_column (h : s.CompiledFrom o lists registry t rs) (hlength : t.fields.length = rs.length) {i : Nat}
    {f : Field} (hf : t.fields[i]? = some f) {place : ColumnLayout} (hplace : (o.home t).columns[i]? = some place) :
    ∃ c, s.columns[i]? = some c ∧ c.field = f.name ∧ c.index = place.index ∧ c.range = place.data := by
  have hi : i < t.fields.length := (List.getElem?_eq_some_iff.1 hf).1
  obtain ⟨res, hres⟩ : ∃ res, rs[i]? = some res := ⟨_, List.getElem?_eq_getElem (hlength ▸ hi)⟩
  have hzip : (t.fields.zip ((o.home t).columns.zip rs))[i]? = some (f, place, res) :=
    List.getElem?_zip_eq_some.2 ⟨hf, List.getElem?_zip_eq_some.2 ⟨hplace, hres⟩⟩
  obtain ⟨c, hc, hcompiled⟩ := getElem?_of_forall₂ h.columns hzip
  refine ⟨c, hc, hcompiled.field_eq, ?_, hcompiled.range_eq⟩
  obtain ⟨_, _, rfl, _⟩ := hcompiled.composed
  rfl

theorem exists_placed (h : s.CompiledFrom o lists registry t rs) (hfits : o.Fits t) (hlength : t.fields.length = rs.length)
    {i : Nat} {f : Field} (hf : t.fields[i]? = some f) : ∃ place header c, s.Placed o i f place header c := by
  have hi : i < t.fields.length := (List.getElem?_eq_some_iff.1 hf).1
  obtain ⟨place, header, hplace, hheader, hfield, htext, hindex, haddress, hsame, hdata⟩ := Options.getElem?_home hf
  obtain ⟨c, hc, hname, hcolumn, hrange⟩ := h.exists_column hlength hf hplace
  have hcolumns := hfits.columns
  refine ⟨place, header, c, ?_, ?_, hc, ⟨hfield, htext, hname⟩, by omega, ⟨?_, hcolumn⟩, ⟨?_, hsame⟩, ?_, ?_, hrange⟩
  · rw [h.layout_eq, hplace]
  · rw [h.layout_eq, hheader]
  · rw [hindex, hfits.index_eq hi]
  · rw [haddress]
    exact hfits.header_at hi
  · rw [hdata]
    exact hfits.first_at hi
  · rw [hdata]
    exact hfits.last_at hi

theorem index_lt (h : s.CompiledFrom o lists registry t rs) (hfits : o.Fits t) (hlength : t.fields.length = rs.length)
    {c : Column} (hc : c ∈ s.columns) : c.index.toNat < o.startColumn.toNat + t.fields.length := by
  obtain ⟨i, hi⟩ := List.getElem?_of_mem hc
  have hlt : i < t.fields.length := by
    have hfields := congrArg List.length (h.fields_eq hlength)
    rw [List.length_map, List.length_map] at hfields
    exact hfields ▸ (List.getElem?_eq_some_iff.1 hi).1
  obtain ⟨_, _, c', hplaced⟩ := h.exists_placed hfits hlength (List.getElem?_eq_getElem hlt)
  obtain rfl : c = c' := Option.some.inj (hi.symm.trans hplaced.column_eq)
  rw [hplaced.index_eq.2, hplaced.index_eq.1]
  omega

theorem onRows (h : s.CompiledFrom o lists registry t rs)
    (hrows : o.startRow.toNat + 1 + o.provisionedRows.toNat ≤ o.profile.maxRows.toNat)
    (hlength : t.fields.length = rs.length) : s.OnRows o t where
  layout_length := by
    rw [h.layout_eq]
    exact ⟨Options.length_columns_layout, by simp [Options.home, Options.layout]⟩
  fields_eq := h.fields_eq hlength
  rows_lt := Options.row_lt hrows
  first_eq := by
    rw [h.layout_eq]
    exact Options.toNat_startRow_succ hrows
  count_eq := by
    rw [h.layout_eq]
    exact o.toNat_provisionedRows
  rows_exact := by
    rw [h.layout_eq]
    exact Options.rows_exact hrows
  headers_row header hheader := by
    rw [h.layout_eq] at hheader
    obtain ⟨_, _, rfl⟩ := List.mem_map.1 hheader
    rfl
  ranges_row c hc := by
    obtain ⟨_, place, _, _, _, hplace, _, hcompiled⟩ := h.of_mem_columns hc
    obtain ⟨_, _, _, _, hdata⟩ := Options.getElem?_columns_layout hplace
    rw [hcompiled.range_eq, hdata]
    exact ⟨Options.toNat_startRow_succ hrows, Options.toNat_last_home (t := t) hrows⟩
  frozen_rows panes hpanes := by
    rw [h.layout_eq] at hpanes
    exact Options.frozen_rows hrows hpanes

theorem onColumns (h : s.CompiledFrom o lists registry t rs) (hfits : o.Fits t)
    (hlength : t.fields.length = rs.length) : s.OnColumns o t where
  placed _ _ hf := h.exists_placed hfits hlength hf
  rowRange_eq := by
    rw [h.layout_eq]
    exact hfits.rowRange_eq
  hidden_eq span hspan := by
    rw [h.layout_eq] at hspan
    obtain ⟨hfirst, hlast, hle⟩ := hfits.hidden_eq hspan
    refine ⟨hfirst, hlast, hle, fun c hc => UInt16.lt_iff_toNat_lt.2 ?_⟩
    rw [hfirst]
    exact h.index_lt hfits hlength hc
  frozen_columns panes hpanes := by
    rw [h.layout_eq] at hpanes
    exact hfits.frozen_columns hpanes

end Sheet.CompiledFrom

/-! ### A shop in the corner -/

/-- The last rows and columns of a sheet, and no more than one data row. -/
def cornered : Options := { online with startRow := 9999998, startColumn := 18276, dataRows := 0, hideColumns := true }

attribute [local instance] Libraries.plain in
theorem resolve_shop_cornered : ∃ r, resolve shop cornered = .ok r := by
  have hrows : cornered.checkRows = .ok () := rfl
  have hnamed : WellNamed cornered [] [Text.lowercase cornered.enumSheet] shop.tables := by
    constructor <;> decide +kernel
  have htables : checkTables cornered shop = .ok () := checkTables_eq_ok.2 ⟨by decide +kernel, hnamed⟩
  have hkeys : shop.tables.mapM (resolveTable shop) = .ok [[⟨0, [("sentBy", ⟨"customers", "name"⟩)]⟩],
      [⟨0, [("customer", ⟨"customers", "name"⟩)]⟩]] := rfl
  rw [resolve, hrows, htables, hkeys]
  exact ⟨_, rfl⟩

/-! ### All tables -/

/-- Every table of a package that compiles stands on the rows of its sheet, and on the columns unless they are too many to
be counted in 32 bits. No lookup of the template runs over. -/
theorem grid_of_compile [Libraries] {p : Package} {o : Options} {t : Template} (h : compile p o = .ok t) :
    (∀ table ∈ p.tables, ∃ s, t.sheet? table.name = some s ∧ s.OnRows o table ∧
      (o.startColumn.toNat + table.fields.length < UInt32.size → s.OnColumns o table)) ∧
    (∀ table field l, t.lookups.get? table field = some l → l.Exact) ∧
    ∀ s ∈ t.sheets, ∀ c ∈ s.columns, ∀ check ∈ c.checks, ∀ origin l, check.directive = .list origin (.range l) → l.Exact := by
  obtain ⟨entries, r, htemplate⟩ := compile_eq_ok h
  refine ⟨fun table htable => ?_, fun table field l => htemplate.exact_of_get?, fun s hs c hc check hcheck origin l hlist => ?_⟩
  · obtain ⟨s, _, rs, registry, hs, hsheet, hlength⟩ := htemplate.exists_sheet htable
    exact ⟨s, hs, hsheet.onRows htemplate.resolved.rows_fit hlength,
      fun hsize => hsheet.onColumns (htemplate.fits htable hsize) hlength⟩
  · obtain ⟨_, _, rs, registry, hsheet, _, hmono⟩ := htemplate.of_mem_sheets hs
    obtain ⟨_, _, _, res, _, _, _, hcompiled⟩ := hsheet.of_mem_columns hc
    rcases hcompiled.lookups check hcheck origin l hlist with hplace | ⟨link, _, hget⟩
    · exact FieldResolution.exact_of_place? hplace
    · exact htemplate.exact_of_get? (hmono hget)

attribute [local instance] Libraries.plain in
/-- The orders take the last cells that there are, and leave no column to hide. -/
theorem orders_in_corner : ∃ t s, compile shop cornered = .ok t ∧ t.sheet? "orders" = some s ∧
    s.OnRows cornered orders ∧ s.OnColumns cornered orders ∧
    s.layout.rowRange = "$ZZY10000000:$ZZZ10000000" ∧ s.layout.hidden = none := by
  obtain ⟨r, hr⟩ := resolve_shop_cornered
  obtain ⟨t, ht⟩ := exists_compile_of_googleSheets hr rfl rfl
  obtain ⟨s, hs, hrows, hcolumns⟩ := (grid_of_compile ht).1 orders (List.mem_cons_of_mem _ List.mem_cons_self)
  have hgrid := hcolumns (by decide)
  refine ⟨t, s, ht, hs, hrows, hgrid, ?_, Option.eq_none_iff_forall_ne_some.2 fun span hspan => ?_⟩
  · rw [hgrid.rowRange_eq]
    decide +kernel
  · obtain ⟨hfirst, hlast, hle, _⟩ := hgrid.hidden_eq span hspan
    have hle := UInt16.le_iff_toNat_le.1 hle
    rw [hfirst, hlast] at hle
    exact absurd hle (by decide)

attribute [local instance] Libraries.plain in
/-- In a table of 2³² fields the field with number 2¹⁶ stands in the first column again. -/
theorem wide_starts_over : ∃ t s c, compile ⟨[wideTable UInt32.size 65536]⟩ online = .ok t ∧ t.sheet? "wide" = some s ∧
    s.columns[65536]? = some c ∧ c.field = (wideField 65536).name ∧ c.index.toNat ≠ online.startColumn.toNat + 65536 := by
  have hnumber : 65536 < UInt32.size := by decide
  obtain ⟨r, hr⟩ := exists_resolve_of_wellFormed (wide_wellFormed hnumber (by decide))
  obtain ⟨t, ht⟩ := exists_compile_of_googleSheets hr rfl rfl
  obtain ⟨_, _, htemplate⟩ := compile_eq_ok ht
  obtain ⟨s, _, rs, registry, hs, hsheet, hlength⟩ := htemplate.exists_sheet List.mem_cons_self
  have hfield := getElem?_wideTable hnumber
  obtain ⟨place, _, hplace, _, _, _, hindex, _⟩ := Options.getElem?_home (o := online) hfield
  obtain ⟨c, hc, hname, hcolumn, _⟩ := hsheet.exists_column hlength hfield hplace
  exact ⟨t, s, c, ht, hs, hc, hname, by rw [hcolumn, hindex]; decide⟩

end SheetTemplate
