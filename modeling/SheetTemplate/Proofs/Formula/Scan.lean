import Mathlib.Data.List.Basic
import SheetTemplate.Formula.Basic

/-!
# Scanning formulas

A spreadsheet finds the arguments of a call by scanning its text: a comma cuts it, unless it stands in a quotation
or in parentheses that are opened there. A text that leaves a scan as it was, and is nowhere cut, comes out of the
scan in one piece, whatever is quoted in it.
-/

namespace SheetTemplate

/-- Where a scan stands: the quote of the quotation it is in, if any, and the number of open parentheses. -/
structure Scan where
  quote : Option Char
  depth : Nat
  deriving DecidableEq

namespace Scan

def outside (depth : Nat) : Scan := ⟨none, depth⟩

/-- The scan after one more character, unless this closes a parenthesis that is not open. A quote that is written
twice ends a quotation and begins it again. -/
def next? (s : Scan) (c : Char) : Option Scan :=
  match s.quote with
  | some quote => some (if c = quote then ⟨none, s.depth⟩ else s)
  | none =>
    if c = '"' || c = '\'' then some ⟨some c, s.depth⟩
    else if c = '(' then some ⟨none, s.depth + 1⟩
    else if c = ')' then (if s.depth = 0 then none else some ⟨none, s.depth - 1⟩)
    else some s

def cuts (s : Scan) (c : Char) : Bool := s = outside 0 && c = ','

/-! ### Texts that are not cut -/

/-- A scan goes over a text and is cut nowhere. -/
inductive Passes : Scan → List Char → Scan → Prop
  | nil (s : Scan) : Passes s [] s
  | cons {s mid last : Scan} {c : Char} {cs : List Char} (step : s.next? c = some mid) (uncut : s.cuts c = false)
    (rest : Passes mid cs last) : Passes s (c :: cs) last

theorem Passes.append {s mid last : Scan} {cs ds : List Char} (h : Passes s cs mid) (hrest : Passes mid ds last) :
    Passes s (cs ++ ds) last := by
  induction h with
  | nil => exact hrest
  | cons step uncut _ ih => exact .cons step uncut (ih hrest)

theorem Passes.one {s last : Scan} {c : Char} (step : s.next? c = some last) (uncut : s.cuts c = false) :
    Passes s [c] last := .cons step uncut (.nil last)

/-- A text that stays in one piece wherever it stands, quotations apart. -/
def Whole (cs : List Char) : Prop := ∀ depth, Passes (outside depth) cs (outside depth)

theorem Whole.append {cs ds : List Char} (h : Whole cs) (hrest : Whole ds) : Whole (cs ++ ds) :=
  fun depth => (h depth).append (hrest depth)

def isPlain (c : Char) : Bool := c ≠ '"' && c ≠ '\'' && c ≠ '(' && c ≠ ')' && c ≠ ','

theorem whole_plain {cs : List Char} (h : cs.all isPlain = true) : Whole cs := by
  intro depth
  induction cs with
  | nil => exact .nil _
  | cons c cs ih =>
    rw [List.all_cons, Bool.and_eq_true] at h
    obtain ⟨hc, hrest⟩ := h
    simp only [isPlain, ne_eq, decide_not, Bool.and_eq_true, Bool.not_eq_true', decide_eq_false_iff_not] at hc
    obtain ⟨⟨⟨⟨hdouble, hsingle⟩, hopen⟩, hclose⟩, hcomma⟩ := hc
    refine .cons ?_ ?_ (ih hrest)
    · simp [next?, outside, hdouble, hsingle, hopen, hclose]
    · simp [cuts, hcomma]

/-- Inside a quotation a scan stays there: each quote stands twice. -/
private theorem passes_doubled (quote : Char) (hquote : quote = '"' ∨ quote = '\'') (depth : Nat) (cs : List Char) :
    Passes ⟨some quote, depth⟩ (Text.doubled quote cs) ⟨some quote, depth⟩ := by
  have hinside : ∀ c, (⟨some quote, depth⟩ : Scan).cuts c = false := fun c => by simp [cuts, outside]
  induction cs with
  | nil => exact .nil _
  | cons c cs ih =>
    rw [Text.doubled]
    split
    · have hends : (⟨some quote, depth⟩ : Scan).next? quote = some ⟨none, depth⟩ := by simp [next?]
      refine .cons hends (hinside quote) (.cons ?_ ?_ ih)
      · rcases hquote with rfl | rfl <;> rfl
      · rcases hquote with rfl | rfl <;> simp [cuts]
    · rename_i hne
      exact .cons (by simp [next?, hne]) (hinside c) ih

theorem whole_quoted {quote : Char} (hquote : quote = '"' ∨ quote = '\'') (s : String) :
    Whole (Text.quoted quote s).toList := by
  intro depth
  rw [Text.quoted, String.toList_ofList]
  refine .cons ?_ ?_ ((passes_doubled quote hquote depth s.toList).append (.one ?_ ?_))
  · rcases hquote with rfl | rfl <;> rfl
  · rcases hquote with rfl | rfl <;> simp [cuts]
  · simp [next?, outside]
  · simp [cuts, outside]

/-! ### Calls -/

theorem passes_open (depth : Nat) : Passes (outside depth) ['('] (outside (depth + 1)) :=
  .one (by simp [next?, outside]) (by simp [cuts])

theorem passes_close (depth : Nat) : Passes (outside (depth + 1)) [')'] (outside depth) :=
  .one (by simp [next?, outside]) (by simp [cuts])

theorem passes_comma (depth : Nat) : Passes (outside (depth + 1)) [','] (outside (depth + 1)) :=
  .one (by simp [next?, outside]) (by simp [cuts, outside])

def listed (args : List (List Char)) : List Char := [',', ' '].intercalate args

theorem listed_cons_cons (first second : List Char) (rest : List (List Char)) :
    listed (first :: second :: rest) = first ++ ',' :: ' ' :: listed (second :: rest) := by
  rw [listed, List.intercalate_cons_cons, List.append_assoc]
  rfl

private theorem passes_listed {args : List (List Char)} (h : ∀ arg ∈ args, Whole arg) (depth : Nat) :
    Passes (outside (depth + 1)) (listed args) (outside (depth + 1)) := by
  match args with
  | [] => exact .nil _
  | [arg] => simpa [listed] using h arg List.mem_cons_self (depth + 1)
  | first :: second :: rest =>
    obtain ⟨hfirst, hrest⟩ := List.forall_mem_cons.1 h
    have hblank : Whole [' '] := whole_plain (by decide)
    rw [listed_cons_cons]
    exact (hfirst _).append ((passes_comma depth).append ((hblank _).append (passes_listed hrest depth)))

theorem whole_call {name : List Char} (hname : name.all isPlain = true) {args : List (List Char)}
    (h : ∀ arg ∈ args, Whole arg) : Whole (name ++ '(' :: (listed args ++ [')'])) := fun depth =>
  (whole_plain hname depth).append ((passes_open depth).append ((passes_listed h depth).append (passes_close depth)))

/-! ### Cutting -/

/-- Pieces with a text in front of the first. -/
def grow (cs : List Char) : List (List Char) → List (List Char)
  | [] => []
  | piece :: rest => (cs ++ piece) :: rest

/-- The pieces between the cuts, if every quotation and every parenthesis ends. -/
def pieces? (s : Scan) : List Char → Option (List (List Char))
  | [] => if s = outside 0 then some [[]] else none
  | c :: cs =>
    if s.cuts c then (pieces? s cs).map ([] :: ·)
    else (s.next? c).bind fun next => (pieces? next cs).map (grow [c])

theorem Passes.pieces?_append {s last : Scan} {cs : List Char} (h : Passes s cs last) (rest : List Char) :
    s.pieces? (cs ++ rest) = (last.pieces? rest).map (grow cs) := by
  induction h with
  | nil s =>
    have hgrow : grow [] = id := funext fun pieces => by cases pieces <;> rfl
    rw [List.nil_append, hgrow, Option.map_id_fun, id]
  | cons step uncut _ ih =>
    rw [List.cons_append, pieces?, uncut, step, Option.bind_some, ih, Option.map_map]
    simp only [Bool.false_eq_true, if_false]
    refine congrArg (Option.map · _) (funext fun pieces => ?_)
    cases pieces <;> rfl

def dropBlank : List Char → List Char
  | ' ' :: cs => cs
  | cs => cs

/-- The arguments in the text between the parentheses of a call. -/
def arguments? (cs : List Char) : Option (List (List Char)) :=
  ((outside 0).pieces? cs).map fun
    | [] => []
    | first :: rest => first :: rest.map dropBlank

private theorem pieces?_listed {first : List Char} {rest : List (List Char)} (h : ∀ arg ∈ first :: rest, Whole arg) :
    (outside 0).pieces? (listed (first :: rest)) = some (first :: rest.map (' ' :: ·)) := by
  obtain ⟨hfirst, hrest⟩ := List.forall_mem_cons.1 h
  match rest with
  | [] =>
    have hend := (hfirst 0).pieces?_append []
    rw [List.append_nil] at hend
    simpa [listed, pieces?, grow] using hend
  | second :: rest =>
    have hblank : Passes (outside 0) [' '] (outside 0) := .one rfl rfl
    have hlast := hblank.pieces?_append (listed (second :: rest))
    rw [pieces?_listed hrest] at hlast
    have hcut : (outside 0).cuts ',' = true := rfl
    rw [listed_cons_cons, (hfirst 0).pieces?_append, pieces?, if_pos hcut, ← List.singleton_append, hlast]
    simp [grow]

theorem arguments?_listed {args : List (List Char)} (hne : args ≠ []) (h : ∀ arg ∈ args, Whole arg) :
    arguments? (listed args) = some args := by
  obtain ⟨first, rest, rfl⟩ := List.exists_cons_of_ne_nil hne
  rw [arguments?, pieces?_listed h, Option.map_some]
  dsimp only
  rw [List.map_map]
  exact congrArg (fun rest => some (first :: rest)) (List.map_id rest)

private theorem length_le_of_mem_pieces? {s : Scan} {cs : List Char} {pieces : List (List Char)}
    (h : s.pieces? cs = some pieces) : ∀ piece ∈ pieces, piece.length ≤ cs.length := by
  induction cs generalizing s pieces with
  | nil =>
    rw [pieces?, Option.ite_none_right_eq_some, Option.some.injEq] at h
    rw [← h.2]
    simp
  | cons c cs ih =>
    rw [pieces?] at h
    split at h
    · obtain ⟨rest, hrest, rfl⟩ := Option.map_eq_some_iff.1 h
      exact List.forall_mem_cons.2 ⟨Nat.zero_le _, fun piece hpiece => Nat.le_succ_of_le (ih hrest piece hpiece)⟩
    · obtain ⟨next, _, h⟩ := Option.bind_eq_some_iff.1 h
      obtain ⟨pieces, hpieces, rfl⟩ := Option.map_eq_some_iff.1 h
      have hle := ih hpieces
      cases pieces with
      | nil => exact fun _ hpiece => absurd hpiece List.not_mem_nil
      | cons first rest =>
        obtain ⟨hfirst, hrest⟩ := List.forall_mem_cons.1 hle
        refine List.forall_mem_cons.2 ⟨?_, fun piece hpiece => Nat.le_succ_of_le (hrest piece hpiece)⟩
        simpa using hfirst

private theorem length_dropBlank_le (cs : List Char) : (dropBlank cs).length ≤ cs.length := by
  unfold dropBlank
  split <;> simp

theorem length_le_of_mem_arguments? {cs : List Char} {args : List (List Char)} (h : arguments? cs = some args) :
    ∀ arg ∈ args, arg.length ≤ cs.length := by
  obtain ⟨pieces, hpieces, rfl⟩ := Option.map_eq_some_iff.1 h
  have hle := length_le_of_mem_pieces? hpieces
  cases pieces with
  | nil => exact fun _ harg => absurd harg List.not_mem_nil
  | cons first rest =>
    obtain ⟨hfirst, hrest⟩ := List.forall_mem_cons.1 hle
    refine List.forall_mem_cons.2 ⟨hfirst, List.forall_mem_map.2 fun piece hpiece => ?_⟩
    exact Nat.le_trans (length_dropBlank_le piece) (hrest piece hpiece)

/-! ### Taking calls apart -/

/-- The arguments of a call of a function, where a text is one. -/
def call? (name : List Char) (cs : List Char) : Option (List (List Char)) :=
  let inner := cs.drop (name.length + 1)
  if (name ++ ['(']).isPrefixOf cs && inner.getLast? = some ')' then arguments? inner.dropLast else none

theorem call?_listed (name : List Char) {args : List (List Char)} (hne : args ≠ []) (h : ∀ arg ∈ args, Whole arg) :
    call? name (name ++ '(' :: (listed args ++ [')'])) = some args := by
  have hprefixed : (name ++ ['(']).isPrefixOf (name ++ '(' :: (listed args ++ [')'])) = true := by
    rw [List.isPrefixOf_iff_prefix]
    exact ⟨listed args ++ [')'], by simp⟩
  have hinner : (name ++ '(' :: (listed args ++ [')'])).drop (name.length + 1) = listed args ++ [')'] := by simp
  simp only [call?, hinner, hprefixed, List.getLast?_concat, List.dropLast_concat, decide_true, Bool.and_self, if_true]
  exact arguments?_listed hne h

theorem length_lt_of_mem_call? {name cs : List Char} {args : List (List Char)} (h : call? name cs = some args) :
    ∀ arg ∈ args, arg.length < cs.length := by
  unfold call? at h
  dsimp only at h
  split at h
  · rename_i hcall
    rw [Bool.and_eq_true, List.isPrefixOf_iff_prefix] at hcall
    intro arg harg
    have hlong := hcall.1.length_le
    have hshort := length_le_of_mem_arguments? h arg harg
    simp only [List.length_append, List.length_singleton, List.length_dropLast, List.length_drop] at hlong hshort
    omega
  · cases h

theorem call?_eq_none {name cs : List Char} (h : ¬name ++ ['('] <+: cs) : call? name cs = none := by
  unfold call?
  dsimp only
  rw [if_neg]
  rw [Bool.and_eq_true, List.isPrefixOf_iff_prefix]
  exact fun hcall => h hcall.1

end Scan

end SheetTemplate
