import SheetTemplate.Proofs.Compile.Agreement
import SheetTemplate.Proofs.Compile.Composed
import SheetTemplate.Proofs.Emission.Lists

/-!
# Rules within their limits

A platform limits the texts that a rule can hold, and they are measured at two places. A formula is measured in
characters once it is composed. A list is measured in bytes while lists are pooled, before anything is composed, and
of these it has no fewer than characters; what does not fit stands in cells by the time there is a rule.
-/

namespace SheetTemplate

/-- Texts that a rule can hold as a list. They are joined by commas, within the limit, and can be told apart again. -/
structure Profile.Holds (p : Profile) (texts : List String) : Prop where
  comma_free : ∀ text ∈ texts, ',' ∉ text.toList
  length_le : ∀ max, p.maxInlineList = some max → (",".intercalate texts).length ≤ max
  split_eq : ((",".intercalate texts).split ',').toList.map (·.copy) = texts

def RuleKind.Fits (p : Profile) : RuleKind → Prop
  | .custom formula => ∀ max, p.maxFormula = some max → formula.length ≤ max
  | .list (.literal values) => p.Holds (values.map Value.text)
  | _ => True

/-! ### Characters and bytes -/

theorem length_le_utf8ByteSize (s : String) : s.length ≤ s.utf8ByteSize := by
  have hchars : ∀ cs : List Char, cs.length ≤ (String.ofList cs).utf8ByteSize := by
    intro cs
    induction cs with
    | nil => exact Nat.zero_le _
    | cons c cs ih =>
      have hpos := c.utf8Size_pos
      rw [← List.singleton_append, String.ofList_append, String.utf8ByteSize_append, ← String.singleton_eq_ofList,
        String.utf8ByteSize_singleton, List.length_append, List.length_singleton]
      omega
  have hbytes := hchars s.toList
  rwa [String.length_toList, String.ofList_toList] at hbytes

private theorem foldr_add (sizes : List Nat) (n m : Nat) : sizes.foldr (· + ·) (n + m) = sizes.foldr (· + ·) n + m := by
  induction sizes with
  | nil => rfl
  | cons size sizes ih => rw [List.foldr_cons, List.foldr_cons, ih, Nat.add_assoc]

/-- The number of bytes that is compared with the limit is that of the joined texts. -/
theorem utf8ByteSize_intercalate (texts : List String) : (",".intercalate texts).utf8ByteSize =
    (texts.map String.utf8ByteSize).foldr (· + ·) (texts.length - 1) := by
  induction texts with
  | nil => rfl
  | cons text rest ih =>
    cases rest with
    | nil => simp
    | cons second rest =>
      have hcomma : ",".utf8ByteSize = 1 := rfl
      have hlength : (text :: second :: rest).length - 1 = (second :: rest).length - 1 + 1 := rfl
      rw [String.intercalate_cons_cons, String.utf8ByteSize_append, String.utf8ByteSize_append, ih, hcomma, hlength,
        List.map_cons (a := text), List.foldr_cons, foldr_add]
      omega

theorem holds_of_fitsInline {p : Profile} {values : List Value} (hne : values ≠ []) (h : fitsInline p values = true) :
    p.Holds (values.map Value.text) := by
  simp only [fitsInline, Bool.and_eq_true, Bool.not_eq_true', List.any_eq_false, List.contains_iff_mem] at h
  obtain ⟨hcomma, hsize⟩ := h
  refine ⟨hcomma, fun max hmax => ?_, ?_⟩
  · rw [hmax, Option.all_some, decide_eq_true_eq, ← utf8ByteSize_intercalate] at hsize
    exact (length_le_utf8ByteSize _).trans hsize
  · have hsplit := String.toList_split_intercalate hcomma
    rwa [if_neg (by simpa using hne)] at hsplit

/-! ### Rules of templates -/

variable {p : Package} {o : Options} {r : Resolution} {t : Template}

/-- The list of TRUE and FALSE fits, and so does a declared list that is not in cells. -/
theorem holds_of_literal [Libraries] (h : resolve p o = .ok r) {table : Table} {f : Field} {place : ColumnLayout} {res : FieldResolution}
    {c : Column} (hc : p.Composes o r table f place res c) {check : CompiledCheck} (hcheck : check ∈ c.checks)
    {origin : ListOrigin} {values : List Value} (hliteral : check.directive = .list origin (.literal values)) :
    o.profile.Holds (values.map Value.text) := by
  have hcalls := hc.callsFor check hcheck
  rw [hliteral] at hcalls
  rcases hcalls.of_literal with rfl | ⟨hdeclared, hplace⟩
  · have hfits : fitsInline o.profile [.boolean true, .boolean false] = true := by
      rw [Options.profile]
      cases o.platform <;> decide +kernel
    exact holds_of_fitsInline (List.cons_ne_nil _ _) hfits
  · have hresolved := resolved_of_resolve h
    obtain ⟨htable, hf⟩ := hc.places.mem h
    rw [Field.enum_supported] at hdeclared
    have hinlines : o.Inlines f.type values := by
      by_contra hpooled
      obtain ⟨_, _, _, _, hcells⟩ := (hc.places.resolution_for hresolved).place?_of_not_inlines hresolved hdeclared hpooled
      cases hplace.symm.trans hcells
    have hne := ((wellFormed_of_resolve h).fields_sound table htable f hf).enum_nonempty
    exact holds_of_fitsInline (fun hnil => hne (hnil ▸ hdeclared)) hinlines.2

theorem fits_of_composes [Libraries] (h : resolve p o = .ok r) (hcompile : compile p o = .ok t) {table : Table} {f : Field}
    {place : ColumnLayout} {res : FieldResolution} {c : Column} (hc : p.Composes o r table f place res c) {rule : Rule}
    (hrule : c.rule = some rule) : rule.kind.Fits o.profile := by
  rcases hc.rule_cases hrule with ⟨formula, hkind⟩ | ⟨check, hcheck, hstates⟩
  · rw [hkind]
    exact fun max => hc.length_le h hcompile hrule hkind
  · generalize hkind : rule.kind = kind at hstates ⊢
    generalize hdirective : check.directive = d at hstates
    cases hstates with
    | number => trivial
    | list origin source =>
      cases source with
      | range => trivial
      | literal values => exact holds_of_literal h hc hcheck hdirective

/-- Every rule of a template is within the limits of its platform, and so is every rule that is written. -/
theorem rules_fit [Libraries] (h : compile p o = .ok t) :
    (∀ s ∈ t.sheets, ∀ c ∈ s.columns, ∀ rule, c.rule = some rule → rule.kind.Fits o.profile) ∧
    ∀ call ∈ t.calls, ∀ range rule, call.action = .validation range rule → rule.kind.Fits o.profile := by
  obtain ⟨r, hresolve⟩ := exists_resolve_of_compile h
  have hcolumns : ∀ s ∈ t.sheets, ∀ c ∈ s.columns, ∀ rule, c.rule = some rule → rule.kind.Fits o.profile := by
    intro s hs c hc rule hrule
    obtain ⟨_, _, _, _, _, _, hcomposes⟩ := exists_composes hresolve h hs hc
    exact fits_of_composes hresolve h hcomposes hrule
  refine ⟨hcolumns, fun call hcall range rule hvalidation => ?_⟩
  rcases Template.mem_calls hcall with ⟨_, _, _, hdeclare | ⟨_, _, _, hvalues⟩⟩ | ⟨s, hs, _, haction⟩
  · cases hdeclare.symm.trans hvalidation
  · cases hvalues.symm.trans hvalidation
  · rw [hvalidation] at haction
    rcases List.mem_cons.1 haction with hdeclare | htail
    · cases hdeclare
    · obtain ⟨c, hc, hrule, _⟩ := (s.mem_actions_tail htail).2.2 range rule rfl
      exact hcolumns s hs c hc rule hrule

/-! ### Grades -/

def remarks : List Value := [.string "très bien", .string "bien", .string "passable"]

def grades : Package where
  tables := [{
    name := "grades"
    fields := [
      { name := "student", type := .string, constraints := { required := true, unique := true } },
      { name := "remark", type := .string, constraints := { enum := some remarks } }] }]

attribute [local instance] Libraries.plain in
private theorem resolve_grades : resolve grades {} = .ok ⟨[0], [[⟨[], none⟩, ⟨[], none⟩]], none, []⟩ := by
  have hrows : Options.checkRows {} = .ok () := rfl
  have hnamed : WellNamed {} [] [Text.lowercase "lists"] grades.tables := by
    constructor <;> decide +kernel
  have htables : checkTables {} grades = .ok () := checkTables_eq_ok.2 ⟨by decide +kernel, hnamed⟩
  have hkeys : grades.tables.mapM (resolveTable grades) = .ok [[]] := rfl
  rw [resolve, hrows, htables, hkeys]
  rfl

private def RuleKind.texts? : RuleKind → Option (List String)
  | .list (.literal values) => some (values.map Value.text)
  | _ => none

attribute [local instance] Libraries.plain in
private theorem exists_remark : ∃ t s c, compile grades {} = .ok t ∧ s ∈ t.sheets ∧ c ∈ s.columns ∧
    c.rule.bind (·.kind.texts?) = some ["très bien", "bien", "passable"] := by
  have hsecond : ((compile grades {}).toOption.bind fun t => t.sheets[0]?.bind fun s =>
      s.columns[1]?.map fun c => decide (c.rule.bind (·.kind.texts?) = some ["très bien", "bien", "passable"])) = some true := by
    rw [compile, resolve_grades]
    decide +kernel
  exact exists_column_of_decide hsecond

attribute [local instance] Libraries.plain in
/-- Remarks are chosen from a list that the rule holds. -/
theorem grades_fit : ∃ t s c rule values, compile grades {} = .ok t ∧ s ∈ t.sheets ∧ c ∈ s.columns ∧ c.rule = some rule ∧
    rule.kind = .list (.literal values) ∧ values.map Value.text = ["très bien", "bien", "passable"] ∧
    Profile.excel.Holds ["très bien", "bien", "passable"] := by
  obtain ⟨t, s, c, ht, hs, hc, htexts⟩ := exists_remark
  obtain ⟨rule, hrule, htexts⟩ := Option.bind_eq_some_iff.1 htexts
  have hfits := (rules_fit ht).1 s hs c hc rule hrule
  generalize hkind : rule.kind = kind at hfits htexts
  unfold RuleKind.texts? at htexts
  split at htexts
  · rename_i values
    rw [Option.some.injEq] at htexts
    rw [RuleKind.Fits, htexts] at hfits
    exact ⟨t, s, c, rule, values, ht, hs, hc, hrule, hkind, htexts, hfits⟩
  · cases htexts

end SheetTemplate
