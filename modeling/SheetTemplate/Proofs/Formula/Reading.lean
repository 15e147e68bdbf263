import SheetTemplate.Proofs.Formula.Scan

/-!
# Reading formulas

What a formula says follows from what its tests say. Conjunctions and alternatives are taken apart, and so is a
choice that asks whether a cell is blank; every other text is a test. A formula is read as a tree and as a text,
and the two agree where no test pretends to be one of the calls that are taken apart.
-/

namespace SheetTemplate

abbrev Truth := String → Bool

def blankTest (cell : String) : String := "ISBLANK(" ++ cell ++ ")"

namespace Truth

def ofTest (truth : Truth) (text : String) : Bool :=
  if text = "TRUE" then true else if text = "FALSE" then false else truth text

/-- What a call says, from its text, the texts of its arguments and what these say. -/
def ofCall (truth : Truth) (cell text : String) (function : SheetFunction) (texts : List String) (values : List Bool) :
    Bool :=
  match function, texts, values with
  | .and, _, values => values.all id
  | .or, _, values => values.any id
  | .ifElse, [test, _, _], [_, onBlank, otherwise] =>
    if test = blankTest cell then (if truth test then onBlank else otherwise) else truth.ofTest text
  | _, _, _ => truth.ofTest text

end Truth

namespace Formula

mutual

def holds (truth : Truth) (cell : String) : Formula → Bool
  | .call function arguments =>
    truth.ofCall cell (call function arguments).render function (renderAll arguments) (holdsAll truth cell arguments)
  | .atom text => truth.ofTest text
  | .literal content => truth.ofTest (literal content).render
  | .compare comparison left right => truth.ofTest (compare comparison left right).render
  | .asNumber f => truth.ofTest (asNumber f).render

def holdsAll (truth : Truth) (cell : String) : List Formula → List Bool
  | [] => []
  | f :: rest => f.holds truth cell :: holdsAll truth cell rest

end

theorem holdsAll_eq_map (truth : Truth) (cell : String) (fs : List Formula) :
    holdsAll truth cell fs = fs.map (·.holds truth cell) := by
  induction fs with
  | nil => rfl
  | cons f fs ih => rw [holdsAll, ih, List.map_cons]

end Formula

/-! ### Texts -/

/-- The functions whose calls are taken apart. -/
def SheetFunction.joints : List SheetFunction := [.and, .or, .ifElse]

/-- The call that a text is, of a function whose calls are taken apart. -/
def joint? (cs : List Char) : Option (SheetFunction × List (List Char)) :=
  SheetFunction.joints.findSome? fun function => (Scan.call? function.name.toList cs).map (function, ·)

theorem length_lt_of_mem_joint? {cs : List Char} {function : SheetFunction} {args : List (List Char)}
    (h : joint? cs = some (function, args)) : ∀ arg ∈ args, arg.length < cs.length := by
  obtain ⟨other, _, hcall⟩ := List.exists_of_findSome?_eq_some h
  obtain ⟨args', hargs, heq⟩ := Option.map_eq_some_iff.1 hcall
  cases heq
  exact Scan.length_lt_of_mem_call? hargs

def Truth.reads (truth : Truth) (cell : String) (cs : List Char) : Bool :=
  match _h : joint? cs with
  | some (function, args) =>
    truth.ofCall cell (String.ofList cs) function (args.map String.ofList)
      (args.attach.map fun ⟨arg, _⟩ => truth.reads cell arg)
  | none => truth.ofTest (String.ofList cs)
termination_by cs.length
decreasing_by exact length_lt_of_mem_joint? _h arg ‹_›

def Truth.meaning (truth : Truth) (cell : String) (f : Formula) : Bool := truth.reads cell f.render.toList

section Reads

variable {truth : Truth} {cell : String} {cs : List Char}

theorem reads_of_joint? {function : SheetFunction} {args : List (List Char)} (h : joint? cs = some (function, args)) :
    truth.reads cell cs =
      truth.ofCall cell (String.ofList cs) function (args.map String.ofList) (args.map (truth.reads cell)) := by
  rw [Truth.reads]
  split
  · rename_i h'
    cases h.symm.trans h'
    rw [List.attach_map_val]
  · rename_i h'
    cases h.symm.trans h'

theorem reads_of_joint?_eq_none (h : joint? cs = none) : truth.reads cell cs = truth.ofTest (String.ofList cs) := by
  rw [Truth.reads]
  split
  · rename_i h'
    cases h.symm.trans h'
  · rfl

end Reads

/-! ### Texts of formulas -/

/-- A text that does not begin like a call that is taken apart. -/
def IsTest (cs : List Char) : Prop := ∀ function ∈ SheetFunction.joints, ¬function.name.toList ++ ['('] <+: cs

namespace IsTest

theorem joint?_eq_none {cs : List Char} (h : IsTest cs) : joint? cs = none := by
  refine List.findSome?_eq_none_iff.2 fun function hfunction => ?_
  rw [Scan.call?_eq_none (h function hfunction), Option.map_none]

theorem of_not_mem {cs : List Char} (h : '(' ∉ cs) : IsTest cs := by
  intro function _ hbegins
  exact h (hbegins.subset (List.mem_append_right _ List.mem_cons_self))

theorem of_head {c : Char} (hc : c ≠ 'A' ∧ c ≠ 'O' ∧ c ≠ 'I') (cs : List Char) : IsTest (c :: cs) := by
  intro function hfunction hbegins
  obtain ⟨hand, hor, hif⟩ := hc
  obtain ⟨more, hmore⟩ := hbegins
  have hhead := congrArg List.head? hmore
  simp only [SheetFunction.joints, List.mem_cons, List.not_mem_nil, or_false] at hfunction
  rcases hfunction with rfl | rfl | rfl
  · exact hand (by simpa [SheetFunction.name] using hhead.symm)
  · exact hor (by simpa [SheetFunction.name] using hhead.symm)
  · exact hif (by simpa [SheetFunction.name] using hhead.symm)

theorem append {cs : List Char} (h : IsTest cs) (rest : List Char) : IsTest (cs ++ ' ' :: rest) := by
  intro function hfunction hbegins
  rcases List.prefix_or_prefix_of_prefix hbegins (List.prefix_append cs (' ' :: rest)) with hshort | hlong
  · exact h function hfunction hshort
  · obtain ⟨more, hmore⟩ := hlong
    rw [← hmore, List.prefix_append_right_inj] at hbegins
    cases more with
    | nil =>
      rw [List.append_nil] at hmore
      exact h function hfunction (hmore ▸ List.prefix_rfl)
    | cons c more =>
      have hblank : c = ' ' := (List.cons_prefix_cons.1 hbegins).1
      have hmem : ' ' ∈ function.name.toList ++ ['('] := hmore ▸ List.mem_append_right cs (hblank ▸ List.mem_cons_self)
      revert hmem
      cases function <;> decide

end IsTest

theorem toList_call (function : SheetFunction) (args : List Formula) : (Formula.call function args).render.toList =
    function.name.toList ++ '(' :: (Scan.listed (args.map (·.render.toList)) ++ [')']) := by
  simp only [Formula.render, Formula.renderAll_eq_map, String.toList_append, String.toList_intercalate, List.map_map,
    List.append_assoc]
  rfl

private theorem not_prefix_of_ne {function other : SheetFunction} (hother : other ∈ SheetFunction.joints)
    (hne : other ≠ function) (rest : List Char) : ¬other.name.toList ++ ['('] <+: function.name.toList ++ '(' :: rest := by
  intro hbegins
  have happend : function.name.toList ++ '(' :: rest = (function.name.toList ++ ['(']) ++ rest := by simp
  rw [happend] at hbegins
  have hcompare := List.prefix_or_prefix_of_prefix hbegins (List.prefix_append _ rest)
  simp only [SheetFunction.joints, List.mem_cons, List.not_mem_nil, or_false] at hother
  revert hcompare hne
  rcases hother with rfl | rfl | rfl <;> cases function <;> decide

theorem joint?_call {function : SheetFunction} (hfunction : function ∈ SheetFunction.joints) {args : List (List Char)}
    (hne : args ≠ []) (hwhole : ∀ arg ∈ args, Scan.Whole arg) :
    joint? (function.name.toList ++ '(' :: (Scan.listed args ++ [')'])) = some (function, args) := by
  have hself := Scan.call?_listed function.name.toList hne hwhole
  have hothers : ∀ other ∈ SheetFunction.joints, other ≠ function →
      Scan.call? other.name.toList (function.name.toList ++ '(' :: (Scan.listed args ++ [')'])) = none :=
    fun other hother hne => Scan.call?_eq_none (not_prefix_of_ne hother hne _)
  simp only [SheetFunction.joints, List.mem_cons, List.not_mem_nil, or_false] at hfunction
  simp only [joint?, SheetFunction.joints, List.findSome?_cons]
  rcases hfunction with rfl | rfl | rfl
  · rw [hself, Option.map_some]
  · rw [hothers .and (by decide) (by decide), hself, Option.map_some, Option.map_none]
  · rw [hothers .and (by decide) (by decide), hothers .or (by decide) (by decide), hself, Option.map_some, Option.map_none,
      Option.map_none]

theorem isTest_call {function : SheetFunction} (hfunction : function ∉ SheetFunction.joints) (rest : List Char) :
    IsTest (function.name.toList ++ '(' :: rest) := by
  intro other hother
  have hne : other ≠ function := fun heq => hfunction (heq ▸ hother)
  exact not_prefix_of_ne hother hne rest

/-- A formula whose text can be taken apart where the formula was put together. -/
inductive Formula.Legible : Formula → Prop
  | atom {text : String} (whole : Scan.Whole text.toList) (test : IsTest text.toList) : Legible (.atom text)
  | literal (content : String) : Legible (.literal content)
  | call (function : SheetFunction) {args : List Formula} (nonempty : args ≠ []) (legible : ∀ arg ∈ args, arg.Legible) :
    Legible (.call function args)
  | compare (comparison : Comparison) {left right : Formula} (hleft : left.Legible) (hright : right.Legible)
    (test : IsTest left.render.toList) : Legible (.compare comparison left right)
  | asNumber {f : Formula} (h : f.Legible) : Legible (.asNumber f)

namespace Formula.Legible

variable {f : Formula}

theorem whole (h : f.Legible) : Scan.Whole f.render.toList := by
  induction h with
  | atom whole _ => exact whole
  | literal content => exact Scan.whole_quoted (.inl rfl) content
  | call function _ _ ih =>
    rw [toList_call]
    refine Scan.whole_call ?_ (List.forall_mem_map.2 ih)
    cases function <;> decide
  | compare comparison _ _ _ hleft hright =>
    simp only [render, String.toList_append]
    refine (((hleft.append (Scan.whole_plain (by decide))).append (Scan.whole_plain ?_)).append
      (Scan.whole_plain (by decide))).append hright
    cases comparison <;> decide
  | asNumber _ ih =>
    simp only [render, String.toList_append]
    exact (Scan.whole_plain (by decide)).append ih

theorem reads_of_isTest {f : Formula} (h : IsTest f.render.toList) (truth : Truth) (cell : String) :
    truth.reads cell f.render.toList = truth.ofTest f.render := by
  rw [reads_of_joint?_eq_none h.joint?_eq_none, String.ofList_toList]

/-- A text says what its formula does. -/
theorem meaning_eq_holds (h : f.Legible) (truth : Truth) (cell : String) : truth.meaning cell f = f.holds truth cell := by
  unfold Truth.meaning
  induction h with
  | @atom text _ test =>
    have htest : IsTest (Formula.atom text).render.toList := test
    exact reads_of_isTest htest truth cell
  | literal content =>
    refine reads_of_isTest ?_ truth cell
    rw [render, Text.quoted, String.toList_ofList]
    exact .of_head (by decide) _
  | @call function args nonempty legible ih =>
    rw [holds, renderAll_eq_map, holdsAll_eq_map]
    by_cases hfunction : function ∈ SheetFunction.joints
    · have hwhole := List.forall_mem_map.2 fun arg harg => (legible arg harg).whole
      have hjoint := joint?_call hfunction (mt List.map_eq_nil_iff.1 nonempty) hwhole
      rw [← toList_call] at hjoint
      rw [reads_of_joint? hjoint, String.ofList_toList, List.map_map, List.map_map]
      have htexts : args.map (String.ofList ∘ (·.render.toList)) = args.map render :=
        List.map_congr_left fun arg _ => String.ofList_toList
      have hvalues : args.map (truth.reads cell ∘ (·.render.toList)) = args.map (·.holds truth cell) :=
        List.map_congr_left ih
      rw [htexts, hvalues]
    · have htest : IsTest (Formula.call function args).render.toList := toList_call function args ▸ isTest_call hfunction _
      rw [reads_of_isTest htest]
      cases function with
      | and | or | ifElse => exact absurd (by decide) hfunction
      | _ => rfl
  | compare comparison _ _ test =>
    refine reads_of_isTest ?_ truth cell
    simp only [render, String.toList_append, List.append_assoc]
    exact test.append _
  | asNumber =>
    refine reads_of_isTest ?_ truth cell
    simp only [render, String.toList_append]
    exact .of_head (by decide) _

end Formula.Legible

end SheetTemplate
