import SheetTemplate.Proofs.Column.Quotations
import SheetTemplate.Proofs.Compile.Agreement

/-!
# No text breaks out of a formula

Names of sheets, regular expressions and the strings of a list may hold any character. In the formulas of a template
they stand in quotations, each of which ends where it should, and what is quoted is read back as it was declared.
-/

namespace SheetTemplate

/-! ### Strings of a list -/

theorem Value.exists_string_of_hasType {v : Value} (h : v.hasType .string = true) : ∃ s, v = .string s := by
  cases v with
  | string s => exact ⟨s, rfl⟩
  | boolean | integer | number => cases h

/-- The values of a field of strings are strings, so all of them are quoted. -/
theorem Value.map_string_filterMap {values : List Value} (h : ∀ v ∈ values, v.hasType .string = true) :
    (values.filterMap string?).map .string = values := by
  induction values with
  | nil => rfl
  | cons v values ih =>
    obtain ⟨hv, hvalues⟩ := List.forall_mem_cons.1 h
    obtain ⟨s, rfl⟩ := exists_string_of_hasType hv
    exact congrArg (string s :: ·) (ih hvalues)

theorem Column.CompiledFrom.enum_eq {o : Options} {registry : Registry} {place : Option Lookup} {l : TableLayout} {f : Field}
    {cl : ColumnLayout} {links : List Link} {c : Column} (h : c.CompiledFrom o registry place l f cl links)
    {check : CompiledCheck} (hcheck : check ∈ c.checks) {values : List Value}
    (hdirective : check.directive = .list .enum (.literal values)) : f.constraints.enum = some values := by
  have hmem : ListSource.literal values ∈ c.sources .enum :=
    List.mem_filterMap.2 ⟨check, hcheck, by rw [hdirective]; rfl⟩
  rw [h.declared, Option.mem_toList, Option.map_eq_some_iff] at hmem
  obtain ⟨declared, hdeclared, hsource⟩ := hmem
  cases place with
  | none =>
    cases hsource
    exact hdeclared
  | some lookup => cases hsource

theorem Sheet.plainRefs_contextOf (s : Sheet) (c : Column) : (s.contextOf c).PlainRefs where
  cell := c.range.first.plain_text
  column := c.range.fixed.plain_text
  row := s.layout.plain_rowRange

/-! ### All formulas -/

/-- The formulas of a template can be read to their ends: outside of quotations each parenthesis that opens is closed
and none closes that is not open. They quote what their checks do, in order, and where a column is checked against a
list that it holds itself the strings among what is quoted are those declared. -/
theorem quotes_of_compile [Libraries] {p : Package} {o : Options} {t : Template} (h : compile p o = .ok t) {s : Sheet}
    (hs : s ∈ t.sheets) {c : Column} (hc : c ∈ s.columns) : c.Quotes o s.layout.sheet ∧
      ∀ check ∈ c.checks, ∀ values, check.directive = .list .enum (.literal values) →
        (∀ polarity, Text.literals? 0 ((Check.inLiterals (s.contextOf c) values).form polarity).render.toList =
          some (values.filterMap Value.string?)) ∧
        ∃ table ∈ p.tables, ∃ f ∈ table.fields, s.table = table.name ∧ c.field = f.name ∧
          f.constraints.enum = some values ∧
          (f.type = .string → values = (values.filterMap Value.string?).map .string) := by
  obtain ⟨r, hresolve, _⟩ := bind_eq_ok.1 h
  obtain ⟨entries, r', htemplate⟩ := compile_eq_ok h
  obtain ⟨table, htable, f, hf, hholds⟩ := htemplate.holds_of_mem hs hc
  obtain ⟨registry, place, res, _, _, _, hcompiled, _⟩ := hholds.compiled
  obtain ⟨f', parts, hcolumn, hparts⟩ := hcompiled.composed
  have hplain := s.plainRefs_contextOf c
  constructor
  · rw [hholds.layout_eq, hcolumn]
    exact Composition.quotes_column hparts (TableLayout.plainRefs_contextOf _ _)
  · intro check hcheck values hdirective
    refine ⟨fun polarity => ?_, table, htable, f, hf, Template.table_of_sheet? hholds.sheet_eq, hcompiled.field_eq,
      hcompiled.enum_eq hcheck hdirective, fun htype => ?_⟩
    · rw [(hplain.legible_inLiterals polarity values).literals?_eq, hplain.literals_inLiterals]
    · have htyped := ((wellFormed_of_resolve hresolve).fields_sound table htable f hf).enum_typed values
        (hcompiled.enum_eq hcheck hdirective)
      rw [htype] at htyped
      exact (Value.map_string_filterMap htyped).symm

/-! ### Answers with quotes -/

/-- What may be replied: a quote within, a parenthesis left open and one closed. -/
def replies : List Value := [.string "said \"no\"", .string "can't (say", .string ")"]

def survey : Package where
  tables := [{
    name := "answers"
    sheet := some "What's said (so far)"
    fields := [{ name := "text", type := .string }] }, {
    name := "replies"
    fields := [{ name := "answer", type := .string, constraints := { enum := some replies } }]
    foreignKeys := [{ fields := ["answer"], reference := { table := some "answers", fields := ["text"] } }] }]

attribute [local instance] Libraries.plain in
private theorem resolve_survey : resolve survey unoffered =
    .ok ⟨[0, 1], [[⟨[], none⟩], [⟨[⟨"answers", "text"⟩], none⟩]], none, []⟩ := by
  have hrows : unoffered.checkRows = .ok () := rfl
  have hnamed : WellNamed unoffered [] [Text.lowercase unoffered.enumSheet] survey.tables := by
    constructor <;> decide +kernel
  have htables : checkTables unoffered survey = .ok () := checkTables_eq_ok.2 ⟨by decide +kernel, hnamed⟩
  have hkeys : survey.tables.mapM (resolveTable survey) = .ok [[], [⟨0, [("answer", ⟨"answers", "text"⟩)]⟩]] := rfl
  rw [resolve, hrows, htables, hkeys]
  rfl

/-- The column of the replies, which are checked by formulas against a list and a column of another sheet. -/
private def IsReplies (s : Sheet) (c : Column) : Prop :=
  c.rule.map (·.kind.name) = some "custom" ∧ c.highlight.isSome = true ∧ s.layout.sheet = "replies" ∧
    c.checks.map (·.directive) = [.list .enum (.literal replies),
      .list (.foreignKey ⟨"answers", "text"⟩) (.range ⟨"What's said (so far)", 0, ⟨1, 1000⟩⟩)]

private instance (s : Sheet) (c : Column) : Decidable (IsReplies s c) := by unfold IsReplies; infer_instance

attribute [local instance] Libraries.plain in
private theorem exists_replies : ∃ t s c, compile survey unoffered = .ok t ∧ s ∈ t.sheets ∧ c ∈ s.columns ∧
    IsReplies s c := by
  have hsecond : ((compile survey unoffered).toOption.bind fun t => t.sheets[1]?.bind fun s =>
      s.columns[0]?.map fun c => decide (IsReplies s c)) = some true := by
    rw [compile, resolve_survey]
    decide +kernel
  exact exists_column_of_decide hsecond

attribute [local instance] Libraries.plain in
/-- Both formulas of the replies quote the three that may be given, and the name of the other sheet is no literal. -/
theorem replies_quoted : ∃ t s c rule valid invalid, compile survey unoffered = .ok t ∧ s ∈ t.sheets ∧ c ∈ s.columns ∧
    c.rule = some rule ∧ rule.kind = .custom valid ∧ c.highlight = some invalid ∧
    Text.literals? 0 valid.render.toList = some ["said \"no\"", "can't (say", ")"] ∧
    Text.literals? 0 invalid.render.toList = some ["said \"no\"", "can't (say", ")"] ∧
    Text.literals? 0 (Check.inLiterals (s.contextOf c) replies).valid.render.toList =
      some ["said \"no\"", "can't (say", ")"] := by
  obtain ⟨t, s, c, ht, hs, hc, hcustom, hhighlight, hsheet, hdirectives⟩ := exists_replies
  obtain ⟨rule, hrule, hname⟩ := Option.map_eq_some_iff.1 hcustom
  obtain ⟨valid, hkind⟩ := RuleKind.custom_of_name hname
  obtain ⟨invalid, hinvalid⟩ := Option.isSome_iff_exists.1 hhighlight
  have hlist : .list .enum (.literal replies) ∈ c.checks.map (·.directive) := hdirectives ▸ List.mem_cons_self
  obtain ⟨check, hcheck, hdirective⟩ := List.mem_map.1 hlist
  obtain ⟨hquotes, hmembership⟩ := quotes_of_compile ht hs hc
  have hquoted : Directive.quoted unoffered s.layout.sheet c.checks = ["said \"no\"", "can't (say", ")"] := by
    rw [Directive.quoted, hdirectives, hsheet]
    decide +kernel
  refine ⟨t, s, c, rule, valid, invalid, ht, hs, hc, hrule, hkind, hinvalid, ?_, ?_, ?_⟩
  · rw [hquotes.custom rule valid hrule hkind, hquoted]
  · rw [hquotes.highlight invalid hinvalid, hquoted]
  · exact (hmembership check hcheck replies hdirective).1 .valid

end SheetTemplate
