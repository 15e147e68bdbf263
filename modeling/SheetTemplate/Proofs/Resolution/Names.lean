import SheetTemplate.Proofs.Distinct
import SheetTemplate.Proofs.Success

/-!
# Names and sizes that pass

The checks of names and sizes walk through the tables once, with the names seen so far. What they accept
is said here for the package as a whole.
-/

namespace SheetTemplate

theorem firstRepeated?_eq_none_iff {seen : Std.HashSet String} {names : List String} :
    firstRepeated? seen names = none ↔ names.Nodup ∧ ∀ name ∈ names, name ∉ seen := by
  induction names generalizing seen with
  | nil => simp [firstRepeated?]
  | cons name rest ih =>
    rw [firstRepeated?]
    by_cases hseen : seen.contains name
    · simp only [hseen, if_true, reduceCtorEq, List.forall_mem_cons, false_iff, not_and]
      exact fun _ hname => absurd (Std.HashSet.contains_iff_mem.1 hseen) hname
    · rw [if_neg hseen, ih, List.nodup_cons, List.forall_mem_cons]
      have hname : name ∉ seen := fun h => hseen (Std.HashSet.contains_iff_mem.2 h)
      simp only [Std.HashSet.mem_insert, beq_iff_eq, not_or]
      constructor
      · intro h
        obtain ⟨hnodup, hrest⟩ := h
        exact ⟨⟨fun hmem => (hrest name hmem).1 rfl, hnodup⟩, hname, fun other hmem => (hrest other hmem).2⟩
      · intro h
        obtain ⟨⟨hnew, hnodup⟩, _, hrest⟩ := h
        exact ⟨hnodup, fun other hmem => ⟨fun heq => hnew (heq ▸ hmem), hrest other hmem⟩⟩

theorem checkSheetName_eq_ok {p : Profile} {name : String} {u : Unit} :
    checkSheetName p name = .ok u ↔ p.refuseSheetName? name = none := by
  unfold checkSheetName
  cases p.refuseSheetName? name <;> simp

theorem checkFields_eq_ok {o : Options} {t : Table} {u : Unit} : checkFields o t = .ok u ↔
    o.startColumn.toUInt32 + UInt32.ofNat t.fields.length ≤ o.profile.maxColumns ∧ (t.fields.map (·.name)).Nodup := by
  unfold checkFields
  simp only [bind_eq_ok, refuseIf_eq_ok, decide_eq_false_iff_not, UInt32.not_lt, exists_and_left, exists_const]
  refine and_congr_right fun _ => ?_
  cases hrepeated : firstRepeated? ∅ (t.fields.map (·.name)) with
  | none => simpa using (firstRepeated?_eq_none_iff.1 hrepeated).1
  | some name =>
    simp only [reduceCtorEq, false_iff]
    intro hnodup
    rw [firstRepeated?_eq_none_iff.2 ⟨hnodup, by simp⟩] at hrepeated
    cases hrepeated

/-- Tables with distinct names, each small enough and on a sheet of its own, whose name is allowed and
differs from the others in more than case. -/
structure WellNamed (o : Options) (names sheets : List String) (tables : List Table) : Prop where
  names_nodup : (tables.map (·.name)).Nodup
  names_new : ∀ t ∈ tables, t.name ∉ names
  sheets_nodup : (tables.map fun t => Text.lowercase t.sheetName).Nodup
  sheets_new : ∀ t ∈ tables, Text.lowercase t.sheetName ∉ sheets
  sheets_allowed : ∀ t ∈ tables, o.profile.refuseSheetName? t.sheetName = none
  fields_fit : ∀ t ∈ tables, o.startColumn.toUInt32 + UInt32.ofNat t.fields.length ≤ o.profile.maxColumns
  fields_nodup : ∀ t ∈ tables, (t.fields.map (·.name)).Nodup

theorem wellNamed_nil (o : Options) (names sheets : List String) : WellNamed o names sheets [] := by
  constructor <;> simp

theorem wellNamed_cons_iff {o : Options} {names sheets : List String} {t : Table} {rest : List Table} :
    WellNamed o names sheets (t :: rest) ↔
      t.name ∉ names ∧ o.profile.refuseSheetName? t.sheetName = none ∧ Text.lowercase t.sheetName ∉ sheets ∧
      (o.startColumn.toUInt32 + UInt32.ofNat t.fields.length ≤ o.profile.maxColumns ∧ (t.fields.map (·.name)).Nodup) ∧
      WellNamed o (t.name :: names) (Text.lowercase t.sheetName :: sheets) rest := by
  constructor
  · intro h
    obtain ⟨hnew, hnames⟩ := List.nodup_cons.1 h.names_nodup
    obtain ⟨hsheet, hsheets⟩ := List.nodup_cons.1 h.sheets_nodup
    obtain ⟨hname, hrestNames⟩ := List.forall_mem_cons.1 h.names_new
    obtain ⟨hfresh, hrestSheets⟩ := List.forall_mem_cons.1 h.sheets_new
    obtain ⟨hallowed, hrestAllowed⟩ := List.forall_mem_cons.1 h.sheets_allowed
    obtain ⟨hfit, hrestFit⟩ := List.forall_mem_cons.1 h.fields_fit
    obtain ⟨hfields, hrestFields⟩ := List.forall_mem_cons.1 h.fields_nodup
    refine ⟨hname, hallowed, hfresh, ⟨hfit, hfields⟩, hnames, fun u hu => ?_, hsheets, fun u hu => ?_,
      hrestAllowed, hrestFit, hrestFields⟩
    · exact List.not_mem_cons_of_ne_of_not_mem (fun heq => hnew (List.mem_map.2 ⟨u, hu, heq⟩)) (hrestNames u hu)
    · exact List.not_mem_cons_of_ne_of_not_mem (fun heq => hsheet (List.mem_map.2 ⟨u, hu, heq⟩)) (hrestSheets u hu)
  · intro h
    obtain ⟨hname, hallowed, hfresh, ⟨hfit, hfields⟩, hrest⟩ := h
    have hnew : t.name ∉ rest.map (·.name) := fun hmem => by
      obtain ⟨u, hu, heq⟩ := List.mem_map.1 hmem
      exact hrest.names_new u hu (heq ▸ List.mem_cons_self)
    have hsheet : Text.lowercase t.sheetName ∉ rest.map fun u => Text.lowercase u.sheetName := fun hmem => by
      obtain ⟨u, hu, heq⟩ := List.mem_map.1 hmem
      exact hrest.sheets_new u hu (heq ▸ List.mem_cons_self)
    exact {
      names_nodup := List.nodup_cons.2 ⟨hnew, hrest.names_nodup⟩
      names_new := List.forall_mem_cons.2 ⟨hname, fun u hu hmem => hrest.names_new u hu (List.mem_cons_of_mem _ hmem)⟩
      sheets_nodup := List.nodup_cons.2 ⟨hsheet, hrest.sheets_nodup⟩
      sheets_new := List.forall_mem_cons.2
        ⟨hfresh, fun u hu hmem => hrest.sheets_new u hu (List.mem_cons_of_mem _ hmem)⟩
      sheets_allowed := List.forall_mem_cons.2 ⟨hallowed, hrest.sheets_allowed⟩
      fields_fit := List.forall_mem_cons.2 ⟨hfit, hrest.fields_fit⟩
      fields_nodup := List.forall_mem_cons.2 ⟨hfields, hrest.fields_nodup⟩ }

theorem checkTablesAfter_eq_ok {o : Options} {names sheets : List String} {tables : List Table} {u : Unit} :
    checkTablesAfter o names sheets tables = .ok u ↔ WellNamed o names sheets tables := by
  induction tables generalizing names sheets with
  | nil => exact ⟨fun _ => wellNamed_nil o names sheets, fun _ => rfl⟩
  | cons t rest ih =>
    rw [checkTablesAfter, wellNamed_cons_iff]
    simp only [bind_eq_ok, refuseIf_eq_ok, checkSheetName_eq_ok, checkFields_eq_ok, ih, exists_and_left, exists_const,
      List.contains_eq_mem, decide_eq_false_iff_not]

theorem checkTables_eq_ok {o : Options} {p : Package} {u : Unit} : checkTables o p = .ok u ↔
    o.profile.refuseSheetName? o.enumSheet = none ∧ WellNamed o [] [Text.lowercase o.enumSheet] p.tables := by
  unfold checkTables
  simp only [bind_eq_ok, checkSheetName_eq_ok, checkTablesAfter_eq_ok, exists_and_left, exists_const]

end SheetTemplate
