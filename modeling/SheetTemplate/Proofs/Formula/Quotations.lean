import SheetTemplate.Proofs.Formula.Legible

/-!
# Quotations in formulas

A spreadsheet reads a formula from the left. A quotation ends at its first quote that stands alone, and neither kind
of quotation begins inside the other; outside of them parentheses have to match. What a formula quotes is written with
its quotes doubled, so it is read back as it was, and nothing of it is taken for a part of the formula.
-/

namespace SheetTemplate

namespace Text

/-! ### Reading -/

/-- The content of a quotation that has been opened, and what follows its end. -/
def unquote? (quote : Char) : List Char → Option (List Char × List Char)
  | [] => none
  | [c] => if c = quote then some ([], []) else none
  | c :: d :: rest =>
    if c ≠ quote then (unquote? quote (d :: rest)).map (Prod.map (c :: ·) id)
    else if d = quote then (unquote? quote rest).map (Prod.map (quote :: ·) id)
    else some ([], d :: rest)

theorem length_of_unquote? {quote : Char} {cs content after : List Char} (h : unquote? quote cs = some (content, after)) :
    after.length < cs.length := by
  match cs with
  | [] => cases h
  | [c] =>
    obtain ⟨_, heq⟩ := Option.ite_none_right_eq_some.1 h
    cases heq
    exact Nat.zero_lt_one
  | c :: d :: rest =>
    rw [unquote?] at h
    split at h
    · obtain ⟨⟨inner, _⟩, hinner, heq⟩ := Option.map_eq_some_iff.1 h
      cases heq
      exact Nat.lt_succ_of_lt (length_of_unquote? hinner)
    split at h
    · obtain ⟨⟨inner, _⟩, hinner, heq⟩ := Option.map_eq_some_iff.1 h
      cases heq
      exact Nat.lt_succ_of_lt (Nat.lt_succ_of_lt (length_of_unquote? hinner))
    · cases h
      exact Nat.lt_succ_self _

/-- The literals of a text, read with so many parentheses open. There is no reading where a quotation does not end, or
where a parenthesis is left open or closed that is not open. -/
def literals? (depth : Nat) (cs : List Char) : Option (List String) :=
  match cs with
  | [] => if depth = 0 then some [] else none
  | c :: rest =>
    if c = '"' || c = '\'' then
      match _h : unquote? c rest with
      | some (content, after) => (literals? depth after).map ((if c = '"' then [String.ofList content] else []) ++ ·)
      | none => none
    else if c = '(' then literals? (depth + 1) rest
    else if c = ')' then if depth = 0 then none else literals? (depth - 1) rest
    else literals? depth rest
termination_by cs.length
decreasing_by
  · exact Nat.lt_succ_of_lt (length_of_unquote? _h)
  all_goals exact Nat.lt_succ_self _

/-! ### Steps of a reading -/

theorem unquote?_cons_of_ne {quote c : Char} (hc : c ≠ quote) (cs : List Char) :
    unquote? quote (c :: cs) = (unquote? quote cs).map (Prod.map (c :: ·) id) := by
  cases cs with
  | nil => simp [unquote?, hc]
  | cons d rest => rw [unquote?, if_pos hc]

theorem unquote?_doubled {quote : Char} (content : List Char) {after : List Char} (hafter : after.head? ≠ some quote) :
    unquote? quote (doubled quote content ++ quote :: after) = some (content, after) := by
  induction content with
  | nil =>
    cases after with
    | nil => simp [doubled, unquote?]
    | cons d rest =>
      have hd : d ≠ quote := fun heq => hafter (congrArg some heq)
      simp [doubled, unquote?, hd]
  | cons c content ih =>
    rw [doubled]
    split
    · rename_i hc
      simp [unquote?, ih, hc]
    · rename_i hc
      rw [List.cons_append, unquote?_cons_of_ne hc, ih]
      rfl

section Literals

variable {depth : Nat} {cs content after : List Char}

theorem literals?_nil : literals? 0 [] = some [] := by rw [literals?, if_pos rfl]

theorem literals?_quote {quote : Char} (hquote : quote = '"' ∨ quote = '\'') (h : unquote? quote cs = some (content, after)) :
    literals? depth (quote :: cs) =
      (literals? depth after).map ((if quote = '"' then [String.ofList content] else []) ++ ·) := by
  rw [literals?, if_pos (by simpa using hquote)]
  split
  · rename_i h'
    cases h.symm.trans h'
    rfl
  · rename_i h'
    cases h.symm.trans h'

theorem literals?_open : literals? depth ('(' :: cs) = literals? (depth + 1) cs := by
  rw [literals?, if_neg (by decide), if_pos rfl]

theorem literals?_close : literals? (depth + 1) (')' :: cs) = literals? depth cs := by
  rw [literals?, if_neg (by decide), if_neg (by decide), if_pos rfl, if_neg (Nat.succ_ne_zero depth), Nat.add_sub_cancel]

theorem literals?_skip {c : Char} (hquote : ¬(c = '"' ∨ c = '\'')) (hopen : c ≠ '(') (hclose : c ≠ ')') :
    literals? depth (c :: cs) = literals? depth cs := by
  rw [literals?, if_neg (by simpa using hquote), if_neg hopen, if_neg hclose]

theorem literals?_append_of_plain (h : cs.all Scan.isPlain = true) (rest : List Char) :
    literals? depth (cs ++ rest) = literals? depth rest := by
  induction cs with
  | nil => rfl
  | cons c cs ih =>
    rw [List.all_cons, Bool.and_eq_true] at h
    obtain ⟨hc, hrest⟩ := h
    simp only [Scan.isPlain, ne_eq, decide_not, Bool.and_eq_true, Bool.not_eq_true', decide_eq_false_iff_not] at hc
    obtain ⟨⟨⟨⟨hdouble, hsingle⟩, hopen⟩, hclose⟩, _⟩ := hc
    rw [List.cons_append, literals?_skip (not_or.2 ⟨hdouble, hsingle⟩) hopen hclose, ih hrest]

end Literals

/-! ### Pieces of a text -/

/-- A text that does not begin with a quote, so it cannot continue a quotation that ends before it. -/
def Unquoted (cs : List Char) : Prop := cs.head? ≠ some '"' ∧ cs.head? ≠ some '\''

theorem unquoted_nil : Unquoted [] := ⟨nofun, nofun⟩

theorem unquoted_cons {c : Char} (hdouble : c ≠ '"') (hsingle : c ≠ '\'') (cs : List Char) : Unquoted (c :: cs) :=
  ⟨fun h => hdouble (Option.some.inj h), fun h => hsingle (Option.some.inj h)⟩

theorem Unquoted.head?_ne {cs : List Char} (h : Unquoted cs) {quote : Char} (hquote : quote = '"' ∨ quote = '\'') :
    cs.head? ≠ some quote := by
  rcases hquote with rfl | rfl
  · exact h.1
  · exact h.2

/-- A piece of a text with its literals: whatever surrounds it, they are read where it stands. -/
def Quotes (cs : List Char) (ls : List String) : Prop :=
  ∀ depth rest, Unquoted rest → literals? depth (cs ++ rest) = (literals? depth rest).map (ls ++ ·)

namespace Quotes

variable {cs ds : List Char} {ls ms : List String}

theorem literals?_eq (h : Quotes cs ls) : literals? 0 cs = some ls := by
  have hend := h 0 [] unquoted_nil
  rwa [List.append_nil, literals?_nil, Option.map_some, List.append_nil] at hend

theorem append (h : Quotes cs ls) (hrest : Quotes ds ms) (hds : Unquoted ds) : Quotes (cs ++ ds) (ls ++ ms) := by
  intro depth rest hunquoted
  have hnext : Unquoted (ds ++ rest) := by
    cases ds with
    | nil => exact hunquoted
    | cons d ds => exact hds
  rw [List.append_assoc, h depth _ hnext, hrest depth rest hunquoted, Option.map_map]
  simp only [Function.comp_def, List.append_assoc]

theorem plain_append (hcs : cs.all Scan.isPlain = true) (h : Quotes ds ls) : Quotes (cs ++ ds) ls := by
  intro depth rest hunquoted
  rw [List.append_assoc, literals?_append_of_plain hcs, h depth rest hunquoted]

theorem plain (hcs : cs.all Scan.isPlain = true) : Quotes cs [] := by
  intro depth rest _
  rw [literals?_append_of_plain hcs]
  cases literals? depth rest <;> rfl

end Quotes

theorem quotes_quoted (s : String) : Quotes (quoted '"' s).toList [s] := by
  intro depth rest hunquoted
  have htext : (quoted '"' s).toList ++ rest = '"' :: (doubled '"' s.toList ++ '"' :: rest) := by
    rw [quoted, String.toList_ofList, List.cons_append, List.append_assoc]
    rfl
  rw [htext, literals?_quote (.inl rfl) (unquote?_doubled _ hunquoted.1), if_pos rfl, String.ofList_toList]

end Text

/-! ### Whole texts -/

namespace Scan

open Text

private theorem Passes.eq_of_nil {s last : Scan} (h : Passes s [] last) : s = last := by
  cases h
  rfl

private theorem Passes.of_cons {s last : Scan} {c : Char} {cs : List Char} (h : Passes s (c :: cs) last) :
    ∃ mid, s.next? c = some mid ∧ Passes mid cs last := by
  cases h with
  | cons step _ rest => exact ⟨_, step, rest⟩

/-- A scan that begins inside a quotation and ends outside has passed the end of that quotation. -/
private theorem Passes.of_inside {quote : Char} (hquote : quote = '"' ∨ quote = '\'') {depth last : Nat} {cs : List Char}
    (h : Passes ⟨some quote, depth⟩ cs (outside last)) : ∃ content after, cs = doubled quote content ++ quote :: after ∧
      after.head? ≠ some quote ∧ Passes (outside depth) after (outside last) := by
  match cs with
  | [] => cases h.eq_of_nil
  | c :: rest =>
    obtain ⟨mid, hstep, hrest⟩ := h.of_cons
    simp only [next?, Option.some.injEq] at hstep
    subst hstep
    by_cases hc : c = quote
    · subst hc
      rw [if_pos rfl] at hrest
      cases rest with
      | nil => exact ⟨[], [], rfl, unquoted_nil.head?_ne hquote, hrest⟩
      | cons d rest =>
        by_cases hd : d = c
        · -- The quote stands twice, so the quotation goes on.
          subst hd
          obtain ⟨mid, hstep, hrest⟩ := hrest.of_cons
          have hagain : (outside depth).next? d = some ⟨some d, depth⟩ := by
            rcases hquote with rfl | rfl <;> rfl
          cases hagain.symm.trans hstep
          obtain ⟨content, after, rfl, hafter, hpasses⟩ := of_inside hquote hrest
          exact ⟨d :: content, after, by simp [doubled], hafter, hpasses⟩
        · exact ⟨[], d :: rest, rfl, fun heq => hd (Option.some.inj heq), hrest⟩
    · rw [if_neg hc] at hrest
      obtain ⟨content, after, rfl, hafter, hpasses⟩ := of_inside hquote hrest
      exact ⟨c :: content, after, by simp [doubled, hc], hafter, hpasses⟩

/-- What a scan passes can be read, with any number of further parentheses open around it. -/
private theorem Passes.exists_literals {depth last : Nat} {cs : List Char} (h : Passes (outside depth) cs (outside last)) :
    ∃ ls, ∀ around rest, Unquoted rest →
      literals? (depth + around) (cs ++ rest) = (literals? (last + around) rest).map (ls ++ ·) := by
  match cs with
  | [] =>
    cases h.eq_of_nil
    refine ⟨[], fun around rest _ => ?_⟩
    cases hrest : literals? (depth + around) rest <;> simp [hrest]
  | c :: rest =>
    obtain ⟨mid, hstep, hrest⟩ := h.of_cons
    by_cases hquote : c = '"' ∨ c = '\''
    · have hbegins : (outside depth).next? c = some ⟨some c, depth⟩ := by
        rcases hquote with rfl | rfl <;> rfl
      cases hbegins.symm.trans hstep
      -- A quotation is read to its end at once, and the text goes on after it.
      obtain ⟨content, after, htext, hafter, hpasses⟩ := hrest.of_inside hquote
      have hshorter : after.length < rest.length := by
        rw [htext, List.length_append, List.length_cons]
        omega
      obtain ⟨ls, hls⟩ := exists_literals hpasses
      refine ⟨(if c = '"' then [String.ofList content] else []) ++ ls, fun around next hunquoted => ?_⟩
      have hnext : (after ++ next).head? ≠ some c := by
        cases after with
        | nil => exact hunquoted.head?_ne hquote
        | cons d after => exact hafter
      have hwhole : c :: rest ++ next = c :: (doubled c content ++ c :: (after ++ next)) := by simp [htext]
      rw [hwhole, literals?_quote hquote (unquote?_doubled content hnext), hls around next hunquoted, Option.map_map]
      simp only [Function.comp_def, List.append_assoc]
    by_cases hopen : c = '('
    · subst hopen
      cases hstep
      obtain ⟨ls, hls⟩ := exists_literals (show Passes (outside (depth + 1)) rest (outside last) from hrest)
      refine ⟨ls, fun around rest hunquoted => ?_⟩
      rw [List.cons_append, literals?_open, Nat.add_right_comm, hls around rest hunquoted]
    by_cases hclose : c = ')'
    · subst hclose
      cases depth with
      | zero => cases hstep
      | succ depth =>
        cases hstep
        obtain ⟨ls, hls⟩ := exists_literals (show Passes (outside depth) rest (outside last) from hrest)
        refine ⟨ls, fun around rest hunquoted => ?_⟩
        rw [List.cons_append, Nat.add_right_comm, literals?_close, hls around rest hunquoted]
    · have hstays : (outside depth).next? c = some (outside depth) := by
        simp [next?, outside, not_or.1 hquote, hopen, hclose]
      cases hstays.symm.trans hstep
      obtain ⟨ls, hls⟩ := exists_literals hrest
      refine ⟨ls, fun around rest hunquoted => ?_⟩
      rw [List.cons_append, literals?_skip hquote hopen hclose, hls around rest hunquoted]
termination_by cs.length
decreasing_by
  · exact Nat.lt_succ_of_lt hshorter
  all_goals exact Nat.lt_succ_self _

theorem Whole.exists_quotes {cs : List Char} (h : Whole cs) : ∃ ls, Quotes cs ls := by
  obtain ⟨ls, hls⟩ := (h 0).exists_literals
  refine ⟨ls, fun depth rest hunquoted => ?_⟩
  simpa using hls depth rest hunquoted

end Scan

/-! ### Formulas -/

namespace Formula

mutual

def literals : Formula → List String
  | .atom text => (Text.literals? 0 text.toList).getD []
  | .literal content => [content]
  | .call _ arguments => literalsAll arguments
  | .compare _ left right => left.literals ++ right.literals
  | .asNumber truth => truth.literals

def literalsAll : List Formula → List String
  | [] => []
  | f :: rest => f.literals ++ literalsAll rest

end

theorem literalsAll_eq_flatMap (fs : List Formula) : literalsAll fs = fs.flatMap literals := by
  induction fs with
  | nil => rfl
  | cons f fs ih => rw [literalsAll, ih, List.flatMap_cons]

open Text

private theorem quotes_listed {args : List Formula} (h : ∀ arg ∈ args, Quotes arg.render.toList arg.literals) :
    Quotes (Scan.listed (args.map (·.render.toList))) (args.flatMap literals) := by
  match args with
  | [] => exact .plain rfl
  | [arg] => simpa [Scan.listed] using h arg List.mem_cons_self
  | first :: second :: rest =>
    obtain ⟨hfirst, hrest⟩ := List.forall_mem_cons.1 h
    rw [List.map_cons, List.map_cons, Scan.listed_cons_cons, List.flatMap_cons]
    have hnext : Quotes (',' :: ' ' :: Scan.listed ((second :: rest).map (·.render.toList))) ((second :: rest).flatMap literals) := by
      intro depth after hunquoted
      rw [List.cons_append, List.cons_append, literals?_skip (by decide) (by decide) (by decide),
        literals?_skip (by decide) (by decide) (by decide)]
      exact quotes_listed hrest depth after hunquoted
    exact hfirst.append hnext (unquoted_cons (by decide) (by decide) _)

private theorem quotes_call (function : SheetFunction) {args : List Formula}
    (h : ∀ arg ∈ args, Quotes arg.render.toList arg.literals) :
    Quotes (call function args).render.toList (call function args).literals := by
  rw [toList_call, literals, literalsAll_eq_flatMap]
  have hname : function.name.toList.all Scan.isPlain = true := by cases function <;> decide
  refine .plain_append hname fun depth rest hunquoted => ?_
  rw [List.cons_append, literals?_open, List.append_assoc, List.singleton_append,
    quotes_listed h _ _ (unquoted_cons (by decide) (by decide) rest), literals?_close]

theorem Legible.quotes {f : Formula} (h : f.Legible) : Quotes f.render.toList f.literals := by
  induction h with
  | @atom text whole _ =>
    -- The literals of an atom are those of its text alone, so here it matters that they are the same anywhere.
    obtain ⟨ls, hls⟩ := whole.exists_quotes
    have hliterals : (Formula.atom text).literals = ls := by rw [literals, hls.literals?_eq, Option.getD_some]
    rw [hliterals]
    exact hls
  | literal content => exact quotes_quoted content
  | call function _ _ ih => exact quotes_call function ih
  | @compare comparison left right _ _ _ hleft hright =>
    have hsymbol : (" " ++ comparison.symbol ++ " ").toList.all Scan.isPlain = true := by cases comparison <;> decide
    have htext : (Formula.compare comparison left right).render.toList =
        left.render.toList ++ ((" " ++ comparison.symbol ++ " ").toList ++ right.render.toList) := by
      simp only [render, String.toList_append, List.append_assoc]
    rw [htext, literals]
    refine hleft.append (hright.plain_append hsymbol) ?_
    cases comparison <;> exact unquoted_cons (by decide) (by decide) _
  | @asNumber f _ ih =>
    have htext : (Formula.asNumber f).render.toList = "--".toList ++ f.render.toList := by
      rw [render, String.toList_append]
    rw [htext, literals]
    exact ih.plain_append (by decide)

theorem Legible.literals?_eq {f : Formula} (h : f.Legible) : literals? 0 f.render.toList = some f.literals :=
  h.quotes.literals?_eq

end Formula

end SheetTemplate
