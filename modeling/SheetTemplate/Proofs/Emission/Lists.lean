import SheetTemplate.Proofs.Compile.Obstacles
import SheetTemplate.Proofs.Emission.Order

/-!
# Lists and the cells that hold them

The cells of a list are computed where its field is compiled, from a column number handed out while lists
were pooled; they are written by a loop over the pooled lists. A column number stands for one list only, so
both mean the same cells.
-/

namespace SheetTemplate

/-- What a call writes down a column of a sheet: values, and the row of the first of them. -/
def Call.writes? (sheet : String) (column : UInt16) (call : Call) : Option (UInt32 × List Value) :=
  match call.action with
  | .values other firstRow values => if call.sheet = sheet ∧ other = column then some (firstRow, values) else none
  | _ => none

def writesTo (sheet : String) (column : UInt16) (calls : List Call) : List (UInt32 × List Value) :=
  calls.filterMap (Call.writes? sheet column)

/-! ### Written columns -/

theorem ofNat_inj {i j : Nat} (hi : i < UInt16.size) (hj : j < UInt16.size) (h : UInt16.ofNat i = UInt16.ofNat j) :
    i = j := by
  have htoNat := congrArg UInt16.toNat h
  rwa [UInt16.toNat_ofNat_of_lt' hi, UInt16.toNat_ofNat_of_lt' hj] at htoNat

private theorem nodup_columns {α : Type} {xs : List α} (hfit : xs.length ≤ UInt16.size) :
    (xs.zipIdx.map fun x => UInt16.ofNat x.2).Nodup := by
  have hmap : (xs.zipIdx.map fun x => UInt16.ofNat x.2) = (xs.zipIdx.map Prod.snd).map UInt16.ofNat := by
    rw [List.map_map]
    rfl
  rw [hmap, List.zipIdx_map_snd, ← List.range_eq_range']
  refine List.nodup_range.map_on fun i hi j hj heq => ?_
  rw [List.mem_range] at hi hj
  exact ofNat_inj (by omega) (by omega) heq

/-- The list of a column is written once, from the first row on. -/
theorem EnumSheet.writesTo_calls {s : EnumSheet} (hfit : s.columns.length ≤ UInt16.size) {i : Nat} {values : List Value}
    (hi : s.columns[i]? = some values) : writesTo s.name (UInt16.ofNat i) s.calls = [(0, values)] := by
  have hmem : (values, i) ∈ s.columns.zipIdx := List.mk_mem_zipIdx_iff_getElem?.2 hi
  have hwrites : ∀ x : List Value × Nat, Call.writes? s.name (UInt16.ofNat i) ⟨s.name, .values (UInt16.ofNat x.2) 0 x.1⟩ =
      if UInt16.ofNat x.2 = UInt16.ofNat i then some (0, x.1) else none := by
    intro x
    simp only [Call.writes?, true_and]
  change (s.columns.zipIdx.map fun x => (⟨s.name, .values (UInt16.ofNat x.2) 0 x.1⟩ : Call)).filterMap _ = _
  rw [List.filterMap_map]
  calc s.columns.zipIdx.filterMap (Call.writes? s.name (UInt16.ofNat i) ∘ fun x => ⟨s.name, .values (UInt16.ofNat x.2) 0 x.1⟩)
    _ = s.columns.zipIdx.filterMap fun x => if UInt16.ofNat x.2 = UInt16.ofNat i then some ((0 : UInt32), x.1) else none :=
      List.filterMap_congr fun x _ => hwrites x
    _ = [(0, values)] := filterMap_key_eq (nodup_columns hfit) hmem fun x => (0, x.1)

theorem Template.writesTo_calls (t : Template) (sheet : String) (column : UInt16) :
    writesTo sheet column t.calls = writesTo sheet column t.listCalls := by
  have hnone : writesTo sheet column (t.sheets.flatMap (·.calls t.invalidFormat)) = [] := by
    refine List.filterMap_eq_nil_iff.2 fun call hcall => ?_
    obtain ⟨s, _, hs⟩ := List.mem_flatMap.1 hcall
    rw [s.calls_eq t.invalidFormat] at hs
    rcases List.mem_cons.1 hs with rfl | htail
    · rfl
    · obtain ⟨action, haction, rfl⟩ := List.mem_map.1 htail
      obtain ⟨_, hvalues, _⟩ := s.mem_actions_tail haction
      cases action with
      | values other firstRow values => exact absurd rfl (hvalues other firstRow values)
      | _ => rfl
  calc writesTo sheet column t.calls
    _ = writesTo sheet column t.listCalls ++ writesTo sheet column (t.sheets.flatMap (·.calls t.invalidFormat)) :=
      List.filterMap_append
    _ = writesTo sheet column t.listCalls := by rw [hnone, List.append_nil]

/-! ### The list of a field -/

/-- A rule on the platform holds the list of a field of the given type. -/
def Options.Inlines (o : Options) (type : FieldType) (values : List Value) : Prop :=
  o.profile.realize type .enum = .native .inlineList ∧ fitsInline o.profile values = true

theorem needsEnumSheet_iff (o : Options) (type : FieldType) (values : List Value) :
    needsEnumSheet o.profile type values = true ↔ ¬o.Inlines type values := by
  rw [Options.Inlines, Options.profile]
  cases o.platform with
  | excel =>
    have hrealize : Platform.excel.profile.realize type .enum = .native .inlineList := by cases type <;> rfl
    simp [needsEnumSheet, hrealize]
  | googleSheets =>
    have hrealize : Platform.googleSheets.profile.realize type .enum = .native .rangeList := by cases type <;> rfl
    simp [needsEnumSheet, hrealize]

theorem pooledList?_eq_some_iff {o : Options} {f : Field} {values : List Value} :
    EnumPool.pooledList? o.profile f = some values ↔ f.constraints.enum = some values ∧ ¬o.Inlines f.type values := by
  rw [EnumPool.pooledList?, Option.filter_eq_some_iff, needsEnumSheet_iff]

theorem Package.exists_of_mem_lists {p : Package} {o : Options} {e : EnumPool.Entry} (h : e ∈ p.lists o) :
    ∃ t ∈ p.tables, ∃ f ∈ t.fields, f.type = e.1 ∧ f.constraints.enum = some e.2 ∧ ¬o.Inlines f.type e.2 := by
  obtain ⟨t, ht, h⟩ := List.mem_flatMap.1 h
  obtain ⟨f, hf, h⟩ := List.mem_flatMap.1 h
  obtain ⟨values, hpooled, rfl⟩ := Option.map_eq_some_iff.1 (Option.mem_toList.1 h)
  obtain ⟨hvalues, hinlines⟩ := pooledList?_eq_some_iff.1 hpooled
  exact ⟨t, ht, f, hf, rfl, hvalues, hinlines⟩

theorem Package.exists_of_mem_entries {p : Package} {o : Options} {e : EnumPool.Entry} (h : e ∈ p.entries o) :
    ∃ t ∈ p.tables, ∃ f ∈ t.fields, f.type = e.1 ∧ f.constraints.enum = some e.2 ∧ ¬o.Inlines f.type e.2 :=
  exists_of_mem_lists (List.mem_of_find?_eq_some (find?_lists h))

namespace FieldResolution.For

variable {p : Package} {o : Options} {entries : List EnumPool.Entry} {r : Resolution} {table : Table} {f : Field}
  {res : FieldResolution} {values : List Value}

/-- A field has a column exactly if its list is pooled, and then that of the list with its key. -/
theorem enumColumn_cases (h : FieldResolution.For o entries table f res) :
    EnumPool.pooledList? o.profile f = none ∧ res.enumColumn = none ∨
      ∃ values i e, EnumPool.pooledList? o.profile f = some values ∧ res.enumColumn = some (UInt16.ofNat i) ∧
        entries[i]? = some e ∧ e.key = listKey f.type values := by
  have hplaced := h.placed
  unfold EnumPool.Placed at hplaced
  split at hplaced
  · rename_i hnone
    exact .inl ⟨hnone, hplaced⟩
  · rename_i values hsome
    obtain ⟨i, e, hcolumn, hi, hkey⟩ := hplaced
    exact .inr ⟨values, i, e, hsome, hcolumn, hi, hkey⟩

theorem place?_of_inlines (hfor : FieldResolution.For o entries table f res) (hvalues : f.constraints.enum = some values)
    (hinlines : o.Inlines f.type values) (lists : Option EnumSheet) : res.place? lists = none := by
  rcases hfor.enumColumn_cases with ⟨_, hcolumn⟩ | ⟨other, _, _, hpooled, _⟩
  · rw [place?, hcolumn, Option.bind_none]
  · obtain ⟨hother, hnot⟩ := pooledList?_eq_some_iff.1 hpooled
    cases hvalues.symm.trans hother
    exact absurd hinlines hnot

theorem place?_of_not_inlines (hresolved : Resolved p o entries r) (hfor : FieldResolution.For o entries table f res)
    (hvalues : f.constraints.enum = some values) (hinlines : ¬o.Inlines f.type values) :
    ∃ i e, entries[i]? = some e ∧ e.key = listKey f.type values ∧
      res.place? r.enumSheet = some ⟨o.enumSheet, UInt16.ofNat i, ⟨0, UInt32.ofNat e.2.length⟩⟩ := by
  have hown := pooledList?_eq_some_iff.2 ⟨hvalues, hinlines⟩
  rcases hfor.enumColumn_cases with ⟨hnone, _⟩ | ⟨other, i, e, hpooled, hcolumn, hi, hkey⟩
  · cases hnone.symm.trans hown
  · cases hpooled.symm.trans hown
    refine ⟨i, e, hi, hkey, ?_⟩
    rw [place?, hcolumn, Option.bind_some, hresolved.enumSheet_eq]
    exact listSheet?_lookup? hresolved.lists_fit hi

end FieldResolution.For

/-- A list in cells, and what calls write there. -/
structure Stored (calls : List Call) (values : List Value) (l : Lookup) (written : List Value) : Prop where
  writes_eq : writesTo l.sheet l.column calls = [(l.rows.first, written)]
  count_eq : l.rows.count = UInt32.ofNat written.length
  /-- Rows are counted in 32 bits. -/
  length_eq : written.length < UInt32.size → l.rows.count.toNat = written.length
  formulas_eq : written.map (·.formula.render) = values.map (·.formula.render)

namespace Template.CompiledFrom

variable [Libraries] {p : Package} {o : Options} {entries : List EnumPool.Entry} {r : Resolution} {t : Template}

theorem enumSheet_eq (h : t.CompiledFrom p o entries r) {i : Nat} {e : EnumPool.Entry} (hi : entries[i]? = some e) :
    t.enumSheet = some ⟨o.enumSheet, entries.map Prod.snd⟩ :=
  h.lists_eq.trans (listSheet?_eq_some hi)

theorem columns_eq (h : t.CompiledFrom p o entries r) {lists : EnumSheet} (hlists : t.enumSheet = some lists) :
    lists.columns = entries.map Prod.snd := by
  rw [h.lists_eq, listSheet?] at hlists
  obtain ⟨_, heq⟩ := Option.ite_none_left_eq_some.1 hlists
  rw [← Option.some.inj heq]

/-- The list with a key is written to the column of its number, and nothing else is. -/
theorem stored (h : t.CompiledFrom p o entries r) {i : Nat} {e : EnumPool.Entry} (hi : entries[i]? = some e)
    {type : FieldType} {values : List Value} (hkey : e.key = listKey type values) :
    Stored t.calls values ⟨o.enumSheet, UInt16.ofNat i, ⟨0, UInt32.ofNat e.2.length⟩⟩ e.2 := by
  have hmax := o.platform.maxColumns_le
  have hfit : entries.length ≤ o.platform.profile.maxColumns.toNat := h.resolved.lists_fit
  have hsize : UInt16.size = 65536 := rfl
  have hcolumn : (entries.map Prod.snd)[i]? = some e.2 := by rw [List.getElem?_map, hi, Option.map_some]
  refine ⟨?_, rfl, UInt32.toNat_ofNat_of_lt', EnumPool.Entry.formulas_eq hkey⟩
  have hlength : (entries.map Prod.snd).length ≤ UInt16.size := by
    rw [List.length_map]
    omega
  rw [t.writesTo_calls, listCalls, h.enumSheet_eq hi]
  exact EnumSheet.writesTo_calls (s := ⟨o.enumSheet, entries.map Prod.snd⟩) hlength hcolumn

/-- The values of a declared list are taken from the list itself where a rule holds it, or else from the cells of the list
with its key. -/
theorem exists_source (h : t.CompiledFrom p o entries r) {table : Table} (htable : table ∈ p.tables) {f : Field}
    (hf : f ∈ table.fields) {values : List Value} (hvalues : f.constraints.enum = some values) :
    ∃ s ∈ t.sheets, ∃ c ∈ s.columns, ∃ source, t.column? table.name f.name = some c ∧ c.sources .enum = [source] ∧
      (o.Inlines f.type values ∧ source = .literal values ∨
        ¬o.Inlines f.type values ∧ ∃ i e, entries[i]? = some e ∧ e.key = listKey f.type values ∧
          source = .range ⟨o.enumSheet, UInt16.ofNat i, ⟨0, UInt32.ofNat e.2.length⟩⟩) := by
  obtain ⟨s, hs, c, hc, hholds⟩ := h.exists_holds htable hf
  obtain ⟨_, _, res, _, _, hfor, hcompiled, _⟩ := hholds.compiled
  have hsources := hcompiled.declared
  rw [hvalues, Option.map_some, Option.toList_some, h.lists_eq, ← h.resolved.enumSheet_eq] at hsources
  refine ⟨s, hs, c, hc, _, hholds.column?_eq, hsources, ?_⟩
  by_cases hinlines : o.Inlines f.type values
  · rw [hfor.place?_of_inlines hvalues hinlines]
    exact .inl ⟨hinlines, rfl⟩
  · obtain ⟨i, e, hi, hkey, hplace⟩ := hfor.place?_of_not_inlines h.resolved hvalues hinlines
    rw [hplace]
    exact .inr ⟨hinlines, i, e, hi, hkey, rfl⟩

end Template.CompiledFrom

/-- The declared list of a field is one check of its column, and unless a rule can hold it, a list of the cells
to which a build writes it. -/
theorem lists_of_build [Libraries] {p : Package} {o : Options} {t : Template} {r : Recorder}
    (h : build p o Recorder.record {} = .ok t r) {table : Table} (htable : table ∈ p.tables) {f : Field}
    (hf : f ∈ table.fields) {values : List Value} (hvalues : f.constraints.enum = some values) :
    ∃ c source, t.column? table.name f.name = some c ∧ c.sources .enum = [source] ∧
      (o.Inlines f.type values → source = .literal values) ∧
      (¬o.Inlines f.type values → ∃ l written, source = .range l ∧ Stored r.toList values l written) := by
  obtain ⟨hcompile, hcalls⟩ := toList_of_build h
  obtain ⟨_, _, htemplate⟩ := compile_eq_ok hcompile
  obtain ⟨_, _, c, _, source, hcolumn, hsources, ⟨hinlines, hsource⟩ | ⟨hinlines, i, e, hi, hkey, hsource⟩⟩ :=
    htemplate.exists_source htable hf hvalues
  · exact ⟨c, source, hcolumn, hsources, fun _ => hsource, fun hnot => absurd hinlines hnot⟩
  · refine ⟨c, source, hcolumn, hsources, fun hin => absurd hin hinlines, fun _ => ⟨_, e.2, hsource, ?_⟩⟩
    rw [hcalls]
    exact htemplate.stored hi hkey

attribute [local instance] Libraries.plain in
theorem kinds_stored : ∃ t r c l written, build partsList suggesting Recorder.record {} = .ok t r ∧
    t.column? "parts" "kind" = some c ∧ c.sources .enum = [.range l] ∧
    Stored r.toList [.string "made", .string "bought"] l written := by
  obtain ⟨t, ht, _⟩ := compile_partsList
  have hbuild := build_record_eq_ok.2 ⟨ht, rfl⟩
  obtain ⟨c, _, hcolumn, hsources, _, hstored⟩ := lists_of_build hbuild List.mem_cons_self
    (List.mem_cons_of_mem _ (List.mem_cons_of_mem _ List.mem_cons_self)) rfl
  obtain ⟨l, written, rfl, hwritten⟩ := hstored fun hinline => by cases hinline.1
  exact ⟨t, _, c, l, written, hbuild, hcolumn, hsources, hwritten⟩

/-! ### More values than can be counted -/

/-- Tickets, each with one of the numbers that were printed. -/
def tickets (printed : Nat) : Package where
  tables := [{
    name := "tickets"
    fields := [{
      name := "number", type := .integer
      constraints := { enum := some ((List.range printed).map fun n : Nat => .integer n) } }] }]

theorem tickets_wellFormed [Libraries] {printed : Nat} (hpos : 0 < printed) : (tickets printed).WellFormed online := by
  refine Package.wellFormed_singleton (by decide) ?_ ?_ ?_ (List.nodup_singleton _) nofun (List.forall_mem_singleton.2 ?_) ?_
  · have hallowed : ∀ name ∈ ["lists", "tickets"], online.profile.refuseSheetName? name = none := by decide +kernel
    exact hallowed
  · have hne : Text.lowercase "lists" ≠ Text.lowercase "tickets" := by decide +kernel
    exact hne
  · have hfits : online.startColumn.toUInt32 + 1 ≤ online.profile.maxColumns := by decide
    exact hfits
  · refine ⟨nofun, nofun, nofun, nofun, nofun, fun hempty => ?_, ?_⟩
    · exact hpos.ne' (List.range_eq_nil.1 (List.map_eq_nil_iff.1 (Option.some.inj hempty)))
    · simp [Value.hasType]
  · have hfits : 1 ≤ online.profile.maxColumns.toNat := by decide
    exact hfits

attribute [local instance] Libraries.plain in
/-- A list of 2³² numbers is counted as one without values, and yet written. -/
theorem tickets_miscounted : ∃ t r c l written, build (tickets UInt32.size) online Recorder.record {} = .ok t r ∧
    t.column? "tickets" "number" = some c ∧ c.sources .enum = [.range l] ∧
    writesTo l.sheet l.column r.toList = [(l.rows.first, written)] ∧ l.rows.count.toNat ≠ written.length := by
  have htickets : (tickets UInt32.size).WellFormed online := tickets_wellFormed (by decide)
  obtain ⟨_, hr⟩ := exists_resolve_of_wellFormed htickets
  obtain ⟨t, ht⟩ := exists_compile_of_googleSheets hr rfl rfl
  have hbuild := build_record_eq_ok.2 ⟨ht, rfl⟩
  obtain ⟨_, hcalls⟩ := toList_of_build hbuild
  obtain ⟨_, _, htemplate⟩ := compile_eq_ok ht
  obtain ⟨_, _, c, _, _, hcolumn, hsources, ⟨hinlines, _⟩ | ⟨_, i, e, hi, hkey, rfl⟩⟩ :=
    htemplate.exists_source List.mem_cons_self List.mem_cons_self rfl
  · cases hinlines.1
  have hstored := htemplate.stored hi hkey
  have hlength : e.2.length = UInt32.size := by
    have hformulas := congrArg List.length hstored.formulas_eq
    rwa [List.length_map, List.length_map, List.length_map, List.length_range] at hformulas
  refine ⟨t, _, c, _, e.2, hbuild, hcolumn, hsources, ?_, ?_⟩
  · rw [hcalls]
    exact hstored.writes_eq
  · rw [hstored.count_eq, hlength]
    decide

end SheetTemplate
