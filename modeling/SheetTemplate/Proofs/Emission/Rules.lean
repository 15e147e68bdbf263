import SheetTemplate.Proofs.Column.Tags
import SheetTemplate.Proofs.Compile.Reports
import SheetTemplate.Proofs.Emission.Extent

/-!
# What is recorded of a sheet

Rules and highlights of all sheets end up in one list of calls, in which a sheet is known by its name only. So a reader
that picks the calls of a name gets what was done to one sheet because no other sheet has the name, not another table's
and not the sheet of lists. On a sheet rules and highlights are written by two loops over the same columns, and a reader
of either passes over all the other loops.
-/

namespace SheetTemplate

/-! ### Reading calls -/

namespace Action

def isRule : Action → Bool
  | .validation .. | .highlight .. => true
  | _ => false

def rule? : Action → Option (CellRange × Rule)
  | .validation range rule => some (range, rule)
  | _ => none

def highlight? : Action → Option Formula
  | .highlight _ formula _ => some formula
  | _ => none

end Action

/-- What a reader of actions makes of a call, if it is about the sheet. -/
def Call.readOn {α : Type} (read : Action → Option α) (sheet : String) (call : Call) : Option α :=
  if call.sheet = sheet then read call.action else none

section Calls

variable {α : Type} {read : Action → Option α} {format : CellFormat}

theorem readOn_flatMap_calls_of_ne {sheets : List Sheet} {sheet : String} (hne : ∀ s ∈ sheets, s.layout.sheet ≠ sheet) :
    (sheets.flatMap (·.calls format)).filterMap (Call.readOn read sheet) = [] := by
  refine List.filterMap_eq_nil_iff.2 fun call hcall => ?_
  obtain ⟨s, hs, hcall⟩ := List.mem_flatMap.1 hcall
  obtain ⟨action, _, rfl⟩ := List.mem_map.1 hcall
  exact if_neg (hne s hs)

/-- Of sheets with names of their own, the calls of a name are those of one sheet. -/
theorem readOn_flatMap_calls {sheets : List Sheet} (hnodup : (sheets.map (·.layout.sheet)).Nodup) {s : Sheet}
    (hs : s ∈ sheets) : (sheets.flatMap (·.calls format)).filterMap (Call.readOn read s.layout.sheet) =
      (s.actions format).filterMap read := by
  obtain ⟨before, after, rfl⟩ := List.append_of_mem hs
  rw [List.map_append, List.map_cons, List.nodup_append, List.nodup_cons] at hnodup
  obtain ⟨_, ⟨hafter, _⟩, hbefore⟩ := hnodup
  have hothersBefore : ∀ other ∈ before, other.layout.sheet ≠ s.layout.sheet := fun other hother =>
    hbefore _ (List.mem_map_of_mem hother) _ List.mem_cons_self
  have hothersAfter : ∀ other ∈ after, other.layout.sheet ≠ s.layout.sheet := fun other hother heq =>
    hafter (List.mem_map.2 ⟨other, hother, heq⟩)
  have hown : (s.calls format).filterMap (Call.readOn read s.layout.sheet) = (s.actions format).filterMap read := by
    rw [Sheet.calls, List.filterMap_map]
    exact List.filterMap_congr fun action _ => if_pos rfl
  rw [List.flatMap_append, List.flatMap_cons, List.filterMap_append, List.filterMap_append,
    readOn_flatMap_calls_of_ne hothersBefore, readOn_flatMap_calls_of_ne hothersAfter, hown, List.nil_append,
    List.append_nil]

variable (hread : ∀ action : Action, action.isRule = false → read action = none)
include hread

theorem Sheet.filterMap_actions (s : Sheet) : (s.actions format).filterMap read =
    (s.columns.filterMap fun c => c.rule.bind fun rule => read (.validation c.range rule)) ++
      s.columns.filterMap fun c => c.highlight.bind fun formula => read (.highlight c.range formula format) := by
  obtain ⟨setting, hactions, hsetting⟩ : ∃ setting, s.actions format = setting ++
      ((s.columns.filterMap fun c => c.rule.map (.validation c.range)) ++
        s.columns.filterMap fun c => c.highlight.map fun formula => .highlight c.range formula format) ∧
      ∀ action ∈ setting, action.isRule = false := by
    refine ⟨_, List.append_assoc .., fun action h => ?_⟩
    simp only [List.cons_append, List.mem_cons, List.mem_append, List.mem_map, Option.mem_toList,
      Option.map_eq_some_iff] at h
    rcases h with rfl | ((⟨_, _, rfl⟩ | ⟨_, _, rfl⟩) | ⟨_, _, rfl⟩) | ⟨_, _, rfl⟩
    all_goals rfl
  have hnone : setting.filterMap read = [] :=
    List.filterMap_eq_nil_iff.2 fun action h => hread action (hsetting action h)
  rw [hactions, List.filterMap_append, List.filterMap_append, hnone, List.nil_append, List.filterMap_filterMap,
    List.filterMap_filterMap]
  simp only [Option.bind_map, Function.comp_def]

theorem Template.readOn_calls (t : Template) (sheet : String) : t.calls.filterMap (Call.readOn read sheet) =
    (t.sheets.flatMap (·.calls t.invalidFormat)).filterMap (Call.readOn read sheet) := by
  have hlists : t.listCalls.filterMap (Call.readOn read sheet) = [] := by
    refine List.filterMap_eq_nil_iff.2 fun call hcall => ?_
    have hnone : call.action.isRule = false := by
      unfold listCalls at hcall
      cases henum : t.enumSheet with
      | none => simp [henum] at hcall
      | some lists =>
        rw [henum, Option.map_some, Option.getD_some] at hcall
        rcases List.mem_cons.1 hcall with rfl | htail
        · rfl
        · obtain ⟨_, column, firstRow, values, haction⟩ := lists.mem_calls_tail htail
          rw [haction]
          rfl
    rw [Call.readOn, hread call.action hnone, ite_self]
  change (t.listCalls ++ _).filterMap _ = _
  rw [List.filterMap_append, hlists, List.nil_append]

end Calls

/-! ### Rules and highlights -/

theorem Recorder.validations_eq (r : Recorder) (sheet : String) :
    r.validations sheet = r.toList.filterMap (Call.readOn Action.rule? sheet) := by
  refine List.filterMap_congr fun call _ => ?_
  rw [Call.readOn]
  cases call.action <;> simp [Action.rule?]

theorem Recorder.highlights_eq (r : Recorder) (sheet : String) :
    r.highlights sheet = r.toList.filterMap (Call.readOn Action.highlight? sheet) := by
  refine List.filterMap_congr fun call _ => ?_
  rw [Call.readOn]
  cases call.action <;> simp [Action.highlight?]

namespace Action

theorem rule?_eq_none : ∀ action : Action, action.isRule = false → action.rule? = none := by
  rintro (_ | _ | _ | _ | _ | _ | _ | _) h <;> first | rfl | cases h

theorem highlight?_eq_none : ∀ action : Action, action.isRule = false → action.highlight? = none := by
  rintro (_ | _ | _ | _ | _ | _ | _ | _) h <;> first | rfl | cases h

end Action

namespace Sheet

variable (s : Sheet) (format : CellFormat)

theorem rules_actions :
    (s.actions format).filterMap Action.rule? = s.columns.filterMap fun c => c.rule.map (c.range, ·) := by
  rw [s.filterMap_actions Action.rule?_eq_none]
  simp [Action.rule?, Option.map_eq_bind]

theorem highlights_actions : (s.actions format).filterMap Action.highlight? = s.columns.filterMap (·.highlight) := by
  rw [s.filterMap_actions Action.highlight?_eq_none]
  simp [Action.highlight?]

end Sheet

/-! ### Formulas against the first cell -/

/-- A formula of a column is joined of forms that its checks have in the context. -/
def Column.Written (o : Options) (sheet : String) (ctx : CellContext) (c : Column) (polarity : Polarity) (g : Formula) :
    Prop :=
  ∃ checks, Check.conditions? polarity ctx.cell checks = some g ∧ ∀ check ∈ checks,
    ∃ tagged ∈ c.checks, check.form polarity ∈ tagged.directive.forms o.profile sheet ctx polarity

/-- A column at its place: it is about the data cells of the place, and its formulas are written against the first of
them. -/
structure Column.StandsAt (o : Options) (s : Sheet) (c : Column) (place : ColumnLayout) : Prop where
  range_eq : c.range = place.data
  data_eq : place.data = CellRange.ofColumn place.index s.layout.dataRows
  cell_eq : (s.contextOf c).cell = place.firstCell.text
  rule_written : ∀ g, c.Joins g → c.Written o s.layout.sheet (s.contextOf c) .valid g
  highlight_written : ∀ g, c.highlight = some g → c.Written o s.layout.sheet (s.contextOf c) .invalid g

namespace Composition

variable {o : Options} {sheet : String} {ctx : CellContext} {f : Field} {l : ColumnLayout} {parts : List Part}

theorem written_of_conditions? (hparts : ∀ part ∈ parts, part.Faithful o sheet ctx) {polarity : Polarity}
    {checks : List Check} {g : Formula} (h : Check.conditions? polarity ctx.cell checks = some g)
    (hchecks : ∀ check ∈ checks, ∃ part ∈ parts, part.enforced = true ∧ check ∈ part.checks) :
    (column o ctx f l parts).Written o sheet ctx polarity g := by
  refine ⟨checks, h, fun check hcheck => ?_⟩
  obtain ⟨part, hpart, _, hmem⟩ := hchecks check hcheck
  refine (exists_check_iff fun d => check.form polarity ∈ d.forms o.profile sheet ctx polarity).2 ⟨part, hpart, ?_⟩
  rw [← (hparts part hpart).forms_eq]
  exact List.mem_map_of_mem hmem

end Composition

theorem Sheet.CompiledFrom.standsAt [Libraries] {o : Options} {lists : Option EnumSheet} {registry : Registry} {t : Table}
    {rs : List FieldResolution} {s : Sheet} (h : s.CompiledFrom o lists registry t rs)
    (hlength : t.fields.length = rs.length) : List.Forall₂ (Column.StandsAt o s) s.columns s.layout.columns := by
  have hplaces : (t.fields.zip ((o.home t).columns.zip rs)).map (·.2.1) = (o.home t).columns := by
    have hcolumns : (o.home t).columns.length = t.fields.length := Options.length_columns_layout
    calc (t.fields.zip ((o.home t).columns.zip rs)).map (·.2.1)
      _ = ((t.fields.zip ((o.home t).columns.zip rs)).map Prod.snd).map Prod.fst := by rw [List.map_map]; rfl
      _ = (o.home t).columns := by
        rw [List.map_snd_zip (by simp [hcolumns, hlength]), List.map_fst_zip (by simp [hcolumns, hlength])]
  have hstands : List.Forall₂ (fun x c => Column.StandsAt o s c x.2.1) (t.fields.zip ((o.home t).columns.zip rs))
      s.columns := by
    refine List.forall₂_iff_zip.2 ⟨h.columns.length_eq, fun {x c} hx => ?_⟩
    have hcompiled := List.forall₂_zip h.columns hx
    have hplace : x.2.1 ∈ (o.home t).columns := (List.of_mem_zip (List.of_mem_zip (List.of_mem_zip hx).1).2).1
    obtain ⟨i, hi⟩ := List.getElem?_of_mem hplace
    obtain ⟨_, _, _, hindex, hdata⟩ := Options.getElem?_columns_layout hi
    obtain ⟨f, parts, hcolumn, hparts⟩ := hcompiled.composed
    have hcontext : s.contextOf c = (o.home t).contextOf x.2.1 := by
      rw [Sheet.contextOf, hcompiled.range_eq, h.layout_eq]
      rfl
    refine ⟨hcompiled.range_eq, ?_, by rw [hcontext]; rfl, fun g hg => ?_, fun g hg => ?_⟩
    · rw [hdata, hindex, h.layout_eq]
      rfl
    · rw [hcontext, h.layout_eq]
      rw [hcolumn] at hg ⊢
      obtain ⟨checks, hjoint, hchecks⟩ := Composition.conditions?_of_joins hparts hg
      exact Composition.written_of_conditions? hparts hjoint hchecks
    · rw [hcontext, h.layout_eq]
      rw [hcolumn] at hg ⊢
      exact Composition.written_of_conditions? hparts (Composition.conditions?_of_highlight hg)
        fun check hcheck => Composition.mem_enforced.1 hcheck
  rw [h.layout_eq, ← hplaces, List.forall₂_map_right_iff]
  exact hstands.flip

/-! ### Builds -/

/-- What a recorder holds of a table, on the sheet that was compiled for it. -/
structure Recorder.Keeps [Libraries] (r : Recorder) (o : Options) (t : Template) (table : Table) (s : Sheet) : Prop where
  sheet_eq : t.sheet? table.name = some s
  fields_eq : s.columns.map (·.field) = table.fields.map (·.name)
  layout_eq : s.layout = o.home table
  validations_eq : r.validations table.sheetName = s.columns.filterMap fun c => c.rule.map (c.range, ·)
  highlights_eq : r.highlights table.sheetName = s.columns.filterMap (·.highlight)
  stands : List.Forall₂ (Column.StandsAt o s) s.columns s.layout.columns

/-- A recorder holds the rules and the highlights of each table under the name of its sheet, in the order of the fields,
and none under any other name, which the sheet of lists always has. -/
theorem rules_of_build [Libraries] {p : Package} {o : Options} {t : Template} {r : Recorder}
    (h : build p o Recorder.record {} = .ok t r) :
    (∀ table ∈ p.tables, ∃ s, r.Keeps o t table s) ∧
      (∀ sheet, (∀ table ∈ p.tables, table.sheetName ≠ sheet) → r.validations sheet = [] ∧ r.highlights sheet = []) ∧
      ∀ table ∈ p.tables, table.sheetName ≠ o.enumSheet := by
  obtain ⟨hcompile, hcalls⟩ := toList_of_build h
  obtain ⟨entries, resolution, htemplate⟩ := compile_eq_ok hcompile
  have hnodup : (t.sheets.map (·.layout.sheet)).Nodup :=
    (List.nodup_append.1 htemplate.sheetNames_nodup.of_map).2.1
  refine ⟨fun table htable => ?_, fun sheet hsheet => ?_, fun table => htemplate.resolved.sheetName_ne⟩
  · obtain ⟨s, hs, rs, registry, hfound, hcompiled, hlength⟩ := htemplate.exists_sheet htable
    have hname : table.sheetName = s.layout.sheet := by
      rw [hcompiled.layout_eq]
      rfl
    refine ⟨s, hfound, hcompiled.fields_eq hlength, hcompiled.layout_eq, ?_, ?_, hcompiled.standsAt hlength⟩
    · rw [r.validations_eq, hcalls, t.readOn_calls Action.rule?_eq_none, hname, readOn_flatMap_calls hnodup hs,
        s.rules_actions]
    · rw [r.highlights_eq, hcalls, t.readOn_calls Action.highlight?_eq_none, hname, readOn_flatMap_calls hnodup hs,
        s.highlights_actions]
  · have hne : ∀ s ∈ t.sheets, s.layout.sheet ≠ sheet := by
      intro s hs heq
      have hmem := htemplate.sheetNames_perm.mem_iff.1 (List.mem_map_of_mem hs)
      obtain ⟨table, htable, hname⟩ := List.mem_map.1 hmem
      exact hsheet table htable (hname.trans heq)
    rw [r.validations_eq, r.highlights_eq, hcalls, t.readOn_calls Action.rule?_eq_none,
      t.readOn_calls Action.highlight?_eq_none]
    exact ⟨readOn_flatMap_calls_of_ne hne, readOn_flatMap_calls_of_ne hne⟩

attribute [local instance] Libraries.plain in
/-- Customers and orders have two rules each, and no list needs a sheet. -/
theorem shop_rules_kept : ∃ t r, build shop online Recorder.record {} = .ok t r ∧
    ((r.validations "customers").length, (r.validations "orders").length, (r.highlights "orders").length) = (2, 2, 2) ∧
    (∀ table ∈ shop.tables, ∃ s, r.Keeps online t table s) ∧
    (∀ sheet, (∀ table ∈ shop.tables, table.sheetName ≠ sheet) → r.validations sheet = [] ∧ r.highlights sheet = []) ∧
    ∀ table ∈ shop.tables, table.sheetName ≠ online.enumSheet := by
  have hcounts : (compile shop online).toOption.map (fun t =>
      ((t.calls.filterMap (Call.readOn Action.rule? "customers")).length,
        (t.calls.filterMap (Call.readOn Action.rule? "orders")).length,
        (t.calls.filterMap (Call.readOn Action.highlight? "orders")).length)) = some (2, 2, 2) := by
    rw [compile, resolve_shop]
    decide +kernel
  obtain ⟨t, ht, hcounts⟩ := Option.map_eq_some_iff.1 hcounts
  have hbuild := build_record_eq_ok.2 ⟨toOption_eq_some.1 ht, rfl⟩
  refine ⟨t, _, hbuild, ?_, rules_of_build hbuild⟩
  rw [Recorder.validations_eq, Recorder.validations_eq, Recorder.highlights_eq, (toList_of_build hbuild).2]
  exact hcounts

end SheetTemplate
