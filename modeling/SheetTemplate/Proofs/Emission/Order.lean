import SheetTemplate.Proofs.Compile.Templates
import SheetTemplate.Emission

/-!
# Sheets before what refers to them

A writer may insist that a sheet exists before anything is written to it or refers to it. What a call may do
depends on the sheets declared before it, so a run is judged call by call, and runs that are put together are
judged piece by piece.
-/

namespace SheetTemplate

/-! ### What a recorder holds -/

theorem forM_record (calls done : List Call) :
    calls.forM Recorder.record ⟨done, none⟩ = .ok () ⟨calls.reverse ++ done, none⟩ := by
  induction calls generalizing done with
  | nil => rfl
  | cons call rest ih =>
    rw [List.reverse_cons, List.append_assoc]
    exact ih (call :: done)

theorem build_record_eq_ok [Libraries] {p : Package} {o : Options} {t : Template} {r : Recorder} :
    build p o Recorder.record {} = .ok t r ↔ compile p o = .ok t ∧ r = ⟨t.calls.reverse, none⟩ := by
  unfold build
  cases hcompile : compile p o with
  | error e =>
    constructor
    · intro h
      cases h
    · intro h
      cases h.1
  | ok template =>
    have hemit : (template.emit Recorder.record).adaptExcept (BuildError.write (ε := RefusedCall)) {} =
        .ok () ⟨template.calls.reverse, none⟩ := by
      simp only [EStateM.adaptExcept, Template.emit, forM_record, List.append_nil]
    simp only [bind, EStateM.bind, hemit, pure, EStateM.pure, EStateM.Result.ok.injEq, Except.ok.injEq]
    exact and_congr_right fun ht => ht ▸ eq_comm

theorem toList_of_build [Libraries] {p : Package} {o : Options} {t : Template} {r : Recorder}
    (h : build p o Recorder.record {} = .ok t r) : compile p o = .ok t ∧ r.toList = t.calls := by
  obtain ⟨hcompile, rfl⟩ := build_record_eq_ok.1 h
  exact ⟨hcompile, List.reverse_reverse _⟩

/-! ### Calls that need a sheet -/

namespace Call

def declares (call : Call) : Bool :=
  match call.action with
  | .declare _ => true
  | _ => false

def shows (call : Call) : Bool :=
  match call.action with
  | .declare false => true
  | _ => false

/-- A call that does not declare a sheet is about the last one declared, and a rule that is a list of cells
finds their sheet declared. -/
structure Follows (seen : List String) (call : Call) : Prop where
  current : call.declares = false → seen.getLast? = some call.sheet
  known : ∀ range rule l, call.action = .validation range rule → rule.kind = .list (.range l) → l.sheet ∈ seen

theorem follows_declare (seen : List String) (sheet : String) (hidden : Bool) :
    Call.Follows seen ⟨sheet, .declare hidden⟩ where
  current h := by cases h
  known _ _ _ h := by cases h

end Call

def declaredBy (calls : List Call) : List String := (calls.filter (·.declares)).map (·.sheet)

def Ordered (seen : List String) (calls : List Call) : Prop :=
  ∀ before call after, calls = before ++ call :: after → call.Follows (seen ++ declaredBy before)

variable {seen : List String}

theorem declaredBy_append (xs ys : List Call) : declaredBy (xs ++ ys) = declaredBy xs ++ declaredBy ys := by
  rw [declaredBy, List.filter_append, List.map_append]
  rfl

theorem ordered_nil : Ordered seen [] := by
  intro before call after h
  simp at h

theorem ordered_cons {call : Call} {rest : List Call} (hcall : call.Follows seen)
    (hrest : Ordered (seen ++ declaredBy [call]) rest) : Ordered seen (call :: rest) := by
  intro before other after h
  cases before with
  | nil =>
    obtain ⟨rfl, _⟩ := List.cons.inj h
    exact (List.append_nil seen).symm ▸ hcall
  | cons first before =>
    obtain ⟨rfl, hafter⟩ := List.cons.inj h
    have hfollows := hrest before other after hafter
    rwa [List.append_assoc, ← declaredBy_append] at hfollows

theorem ordered_append {xs ys : List Call} (hxs : Ordered seen xs) (hys : Ordered (seen ++ declaredBy xs) ys) :
    Ordered seen (xs ++ ys) := by
  induction xs generalizing seen with
  | nil => exact (List.append_nil seen) ▸ hys
  | cons call rest ih =>
    have hcall := hxs [] call rest rfl
    refine ordered_cons ((List.append_nil seen) ▸ hcall) (ih (fun before other after h => ?_) ?_)
    · have hother := hxs (call :: before) other after (by rw [h]; rfl)
      rwa [List.append_assoc, ← declaredBy_append]
    · rwa [List.append_assoc, ← declaredBy_append]

/-- Calls that declare nothing do not wait for each other. -/
theorem ordered_of_forall {calls : List Call} (h : ∀ call ∈ calls, call.declares = false ∧ call.Follows seen) :
    Ordered seen calls := by
  induction calls with
  | nil => exact ordered_nil
  | cons call rest ih =>
    obtain ⟨⟨hnone, hcall⟩, hrest⟩ := List.forall_mem_cons.1 h
    have hsame : seen ++ declaredBy [call] = seen := by simp [declaredBy, hnone]
    exact ordered_cons hcall (hsame.symm ▸ ih hrest)

/-! ### The calls of a sheet -/

theorem Sheet.mem_actions_tail {s : Sheet} {format : CellFormat} {action : Action}
    (h : action ∈ (s.actions format).tail) : (∀ hidden, action ≠ .declare hidden) ∧
      (∀ column firstRow values, action ≠ .values column firstRow values) ∧
      ∀ range rule, action = .validation range rule → ∃ c ∈ s.columns, c.rule = some rule ∧ c.range = range := by
  simp only [actions, List.cons_append, List.tail_cons, List.mem_append, List.mem_map, Option.mem_toList,
    Option.map_eq_some_iff, List.mem_filterMap] at h
  rcases h with ((((⟨_, _, rfl⟩ | ⟨_, _, rfl⟩) | ⟨_, _, rfl⟩) | ⟨_, _, rfl⟩) | ⟨c, hc, rule, hrule, rfl⟩) | ⟨_, _, _, _, rfl⟩
  all_goals refine ⟨fun _ => Action.noConfusion, fun _ _ _ => Action.noConfusion, fun range other heq => ?_⟩
  all_goals cases heq
  exact ⟨c, hc, hrule, rfl⟩

theorem Sheet.calls_eq (s : Sheet) (format : CellFormat) : s.calls format =
    ⟨s.layout.sheet, .declare false⟩ :: ((s.actions format).tail.map (⟨s.layout.sheet, ·⟩)) := rfl

private theorem declares_eq_false {sheet : String} {action : Action} (h : ∀ hidden, action ≠ .declare hidden) :
    Call.declares ⟨sheet, action⟩ = false := by
  cases action with
  | declare hidden => exact absurd rfl (h hidden)
  | _ => rfl

theorem Sheet.declares_calls (s : Sheet) (format : CellFormat) :
    (s.calls format).filter (·.declares) = [⟨s.layout.sheet, .declare false⟩] := by
  have htail : ((s.actions format).tail.map (⟨s.layout.sheet, ·⟩)).filter Call.declares = [] := by
    refine List.filter_eq_nil_iff.2 fun call hcall => ?_
    obtain ⟨action, haction, rfl⟩ := List.mem_map.1 hcall
    simp [declares_eq_false (s.mem_actions_tail haction).1]
  rw [s.calls_eq format, List.filter_cons_of_pos rfl, htail]

theorem declares_flatMap_calls (sheets : List Sheet) (format : CellFormat) :
    (sheets.flatMap (·.calls format)).filter (·.declares) = sheets.map fun s => ⟨s.layout.sheet, .declare false⟩ := by
  induction sheets with
  | nil => rfl
  | cons s rest ih => rw [List.flatMap_cons, List.filter_append, s.declares_calls, ih, List.map_cons, List.singleton_append]

/-- The cells that the rules of a sheet are lists of. -/
def Sheet.Reads (s : Sheet) (l : Lookup) : Prop :=
  ∃ c ∈ s.columns, ∃ rule, c.rule = some rule ∧ rule.kind = .list (.range l)

theorem Sheet.ordered_calls {s : Sheet} (format : CellFormat)
    (hreads : ∀ l, s.Reads l → l.sheet ∈ seen ++ [s.layout.sheet]) : Ordered seen (s.calls format) := by
  rw [s.calls_eq format]
  refine ordered_cons (Call.follows_declare ..) (ordered_of_forall fun call hcall => ?_)
  obtain ⟨action, haction, rfl⟩ := List.mem_map.1 hcall
  obtain ⟨hnot, _, hrules⟩ := s.mem_actions_tail haction
  refine ⟨declares_eq_false hnot, fun _ => List.getLast?_concat .., fun range rule l hvalidation hkind => ?_⟩
  obtain ⟨c, hc, hrule, _⟩ := hrules range rule hvalidation
  exact hreads l ⟨c, hc, rule, hrule, hkind⟩

/-- Sheets that read only themselves and those before them can be written in order. -/
theorem ordered_flatMap_calls {sheets : List Sheet} (format : CellFormat)
    (hreads : ∀ before s after, sheets = before ++ s :: after → ∀ l, s.Reads l →
      l.sheet ∈ seen ++ (before ++ [s]).map (·.layout.sheet)) : Ordered seen (sheets.flatMap (·.calls format)) := by
  induction sheets generalizing seen with
  | nil => exact ordered_nil
  | cons s rest ih =>
    refine ordered_append (s.ordered_calls format (hreads [] s rest rfl)) (ih fun before other after h l hl => ?_)
    have hother := hreads (s :: before) other after (by rw [h]; rfl) l hl
    rw [declaredBy, s.declares_calls, List.append_assoc]
    exact hother

theorem not_hidden_of_mem_flatMap_calls {sheets : List Sheet} {format : CellFormat} {call : Call}
    (h : call ∈ sheets.flatMap (·.calls format)) : call.action ≠ .declare true := by
  obtain ⟨s, _, hcall⟩ := List.mem_flatMap.1 h
  rw [s.calls_eq format] at hcall
  rcases List.mem_cons.1 hcall with rfl | htail
  · simp
  · obtain ⟨action, haction, rfl⟩ := List.mem_map.1 htail
    exact (s.mem_actions_tail haction).1 true

/-! ### The calls of a template -/

def Template.listCalls (t : Template) : List Call := (t.enumSheet.map EnumSheet.calls).getD []

theorem EnumSheet.mem_calls_tail {s : EnumSheet} {call : Call} (h : call ∈ s.calls.tail) :
    call.sheet = s.name ∧ ∃ column firstRow values, call.action = .values column firstRow values := by
  obtain ⟨x, _, rfl⟩ := List.mem_map.1 h
  exact ⟨rfl, _, _, _, rfl⟩

theorem EnumSheet.declares_calls (s : EnumSheet) : s.calls.filter (·.declares) = [⟨s.name, .declare true⟩] := by
  have htail : s.calls.tail.filter Call.declares = [] := by
    refine List.filter_eq_nil_iff.2 fun call hcall => ?_
    obtain ⟨_, column, firstRow, values, haction⟩ := s.mem_calls_tail hcall
    simp [Call.declares, haction]
  have hcons : s.calls = ⟨s.name, .declare true⟩ :: s.calls.tail := rfl
  rw [hcons, List.filter_cons_of_pos rfl, htail]

theorem EnumSheet.ordered_calls (s : EnumSheet) : Ordered seen s.calls := by
  refine ordered_cons (Call.follows_declare seen s.name true) (ordered_of_forall fun call hcall => ?_)
  obtain ⟨hsheet, column, firstRow, values, haction⟩ := s.mem_calls_tail hcall
  refine ⟨by rw [Call.declares, haction], fun _ => ?_, fun range rule l h => ?_⟩
  · rw [hsheet]
    exact List.getLast?_concat ..
  · rw [haction] at h
    cases h

namespace Template

theorem mem_calls {t : Template} {call : Call} (h : call ∈ t.calls) :
    (∃ lists, t.enumSheet = some lists ∧ call.sheet = lists.name ∧ (call.action = .declare true ∨
      ∃ (i : Nat) (values : List Value), lists.columns[i]? = some values ∧ call.action = .values (UInt16.ofNat i) 0 values)) ∨
    ∃ s ∈ t.sheets, call.sheet = s.layout.sheet ∧ call.action ∈ s.actions t.invalidFormat := by
  rcases List.mem_append.1 h with hlists | hsheets
  · left
    cases henum : t.enumSheet with
    | none => simp [henum] at hlists
    | some lists =>
      rw [henum, Option.map_some, Option.getD_some] at hlists
      refine ⟨lists, rfl, ?_⟩
      rcases List.mem_cons.1 hlists with rfl | hcolumn
      · exact ⟨rfl, .inl rfl⟩
      · obtain ⟨⟨values, i⟩, hi, rfl⟩ := List.mem_map.1 hcolumn
        exact ⟨rfl, .inr ⟨i, values, List.mk_mem_zipIdx_iff_getElem?.1 hi, rfl⟩⟩
  · right
    obtain ⟨s, hs, hcall⟩ := List.mem_flatMap.1 hsheets
    obtain ⟨action, haction, rfl⟩ := List.mem_map.1 hcall
    exact ⟨s, hs, rfl, haction⟩

theorem declares_calls (t : Template) : t.calls.filter (·.declares) =
    (t.enumSheet.map fun s => ⟨s.name, .declare true⟩).toList ++ t.sheets.map fun s => ⟨s.layout.sheet, .declare false⟩ := by
  change (t.listCalls ++ t.sheets.flatMap (·.calls t.invalidFormat)).filter _ = _
  rw [List.filter_append, declares_flatMap_calls, listCalls]
  cases t.enumSheet with
  | none => rfl
  | some s => rw [Option.map_some, Option.getD_some, s.declares_calls]; rfl

theorem declaredBy_calls (t : Template) :
    declaredBy t.calls = (t.enumSheet.map (·.name)).toList ++ t.sheets.map (·.layout.sheet) := by
  rw [declaredBy, t.declares_calls, List.map_append, List.map_map]
  cases t.enumSheet <;> rfl

theorem shows_calls (t : Template) : (t.calls.filter (·.shows)).map (·.sheet) = t.sheets.map (·.layout.sheet) := by
  have hshows : ∀ call : Call, (call.shows && call.declares) = call.shows := by
    intro call
    simp only [Call.shows, Call.declares]
    cases call.action with
    | declare hidden => cases hidden <;> rfl
    | _ => rfl
  have hfilter : t.calls.filter (·.shows) = (t.calls.filter (·.declares)).filter (·.shows) := by
    rw [List.filter_filter]
    exact List.filter_congr fun call _ => (hshows call).symm
  have hsheets : (t.sheets.map fun s => (⟨s.layout.sheet, .declare false⟩ : Call)).filter (·.shows) =
      t.sheets.map fun s => ⟨s.layout.sheet, .declare false⟩ := by
    refine List.filter_eq_self.2 fun call hcall => ?_
    obtain ⟨_, _, rfl⟩ := List.mem_map.1 hcall
    rfl
  rw [hfilter, t.declares_calls, List.filter_append, hsheets, List.map_append, List.map_map]
  cases t.enumSheet <;> rfl

/-- Only the sheet of lists is hidden, and it is declared first. -/
theorem hidden_first {t : Template} {before after : List Call} {call : Call} (h : t.calls = before ++ call :: after)
    (hhidden : call.action = .declare true) : before = [] ∧ ∃ s, t.enumSheet = some s ∧ call.sheet = s.name := by
  change t.listCalls ++ t.sheets.flatMap (·.calls t.invalidFormat) = _ at h
  cases hlists : t.enumSheet with
  | none =>
    have hnone : t.listCalls = [] := by rw [listCalls, hlists]; rfl
    rw [hnone, List.nil_append] at h
    exact absurd hhidden (not_hidden_of_mem_flatMap_calls (h ▸ List.mem_append_right _ List.mem_cons_self))
  | some s =>
    have hcons : t.listCalls = ⟨s.name, .declare true⟩ :: s.calls.tail := by rw [listCalls, hlists]; rfl
    rw [hcons, List.cons_append] at h
    cases before with
    | nil =>
      obtain ⟨rfl, _⟩ := List.cons.inj h
      exact ⟨rfl, s, rfl, rfl⟩
    | cons first before =>
      have hmem : call ∈ s.calls.tail ++ t.sheets.flatMap (·.calls t.invalidFormat) := by
        rw [(List.cons.inj h).2]
        exact List.mem_append_right _ List.mem_cons_self
      rcases List.mem_append.1 hmem with hlist | hsheet
      · obtain ⟨_, _, _, _, haction⟩ := s.mem_calls_tail hlist
        rw [haction] at hhidden
        cases hhidden
      · exact absurd hhidden (not_hidden_of_mem_flatMap_calls hsheet)

theorem ordered_calls (t : Template) (hreads : ∀ before s after, t.sheets = before ++ s :: after → ∀ l, s.Reads l →
    l.sheet ∈ (t.enumSheet.map (·.name)).toList ++ (before ++ [s]).map (·.layout.sheet)) : Ordered [] t.calls := by
  have hdeclared : declaredBy t.listCalls = (t.enumSheet.map (·.name)).toList := by
    rw [declaredBy, listCalls]
    cases t.enumSheet with
    | none => rfl
    | some s => rw [Option.map_some, Option.getD_some, s.declares_calls]; rfl
  have hlists : Ordered [] t.listCalls := by
    rw [listCalls]
    cases t.enumSheet with
    | none => exact ordered_nil
    | some s => exact s.ordered_calls
  refine ordered_append hlists (ordered_flatMap_calls t.invalidFormat fun before s after hsheets l hl => ?_)
  change l.sheet ∈ [] ++ declaredBy t.listCalls ++ _
  rw [List.nil_append, hdeclared]
  exact hreads before s after hsheets l hl

end Template

end SheetTemplate
