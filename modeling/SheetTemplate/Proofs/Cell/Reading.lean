import SheetTemplate.Cell.Range

/-!
# Reading addresses

The letters of a column are capitals and a row is written in digits, so neither can be taken for the other or for a
dollar sign or a colon, and a reader that goes on as long as it can stops where the writer did. The letters have no zero:
each length begins where the one before it ends, so a number has one spelling and it is read back by the same sum.
-/

namespace SheetTemplate

namespace Address

/-! ### Letters -/

/-- The number that letters write in bijective base 26, behind those of the number `n`. -/
def numberAfter (n : Nat) (letters : List Char) : Nat :=
  letters.foldl (fun n c => 26 * n + (c.toNat - 'A'.toNat + 1)) n

theorem numberAfter_lettersBefore (n : Nat) (tail : List Char) :
    numberAfter 0 (lettersBefore n tail) = numberAfter n tail := by
  induction n, tail using lettersBefore.induct with
  | case1 tail => rw [lettersBefore, if_pos rfl]
  | case2 n tail hn ih =>
    have hletter : ∀ m < 26, (Char.ofNat ('A'.toNat + m)).toNat - 'A'.toNat = m := by decide
    have hdigit : 26 * ((n - 1) / 26) + ((n - 1) % 26 + 1) = n := by omega
    rw [lettersBefore, if_neg hn, ih, numberAfter, List.foldl_cons, hletter _ (Nat.mod_lt _ (by decide)), hdigit]
    rfl

theorem numberAfter_letters (column : UInt16) : numberAfter 0 (letters column).toList = column.toNat + 1 := by
  rw [letters, String.toList_ofList, numberAfter_lettersBefore]
  rfl

/-! ### Columns and rows -/

/-- Whether a text begins with a dollar sign, and the text without it. -/
def readMark : List Char → Bool × List Char
  | '$' :: rest => (true, rest)
  | cs => (false, cs)

/-- The column at the beginning of a text, whether it is fixed, and what follows it. -/
def readColumn? (cs : List Char) : Option (UInt16 × Bool × List Char) :=
  let (fixed, cs) := readMark cs
  let number := numberAfter 0 (cs.takeWhile Char.isUpper)
  if number = 0 ∨ UInt16.size < number then none
  else some (UInt16.ofNat (number - 1), fixed, cs.dropWhile Char.isUpper)

/-- The row at the beginning of a text, whether it is fixed, and what follows it. Rows are numbered from one, in 32
bits. -/
def readRow? (cs : List Char) : Option (UInt32 × Bool × List Char) :=
  let (fixed, cs) := readMark cs
  let digits := cs.takeWhile Char.isDigit
  let number := Nat.ofDigitChars 10 digits 0
  if digits = [] ∨ UInt32.size ≤ number then none
  else some (UInt32.ofNat number - 1, fixed, cs.dropWhile Char.isDigit)

theorem readMark_mark (fixed : Bool) {cs : List Char} (h : cs.head? ≠ some '$') :
    readMark ((mark fixed).toList ++ cs) = (fixed, cs) := by
  cases fixed with
  | true => rfl
  | false =>
    change readMark cs = (false, cs)
    unfold readMark
    split
    · exact absurd rfl h
    · rfl

private theorem span_append {p : Char → Bool} {xs ys : List Char} (hxs : ∀ c ∈ xs, p c = true)
    (hys : ∀ c, ys.head? = some c → p c = false) :
    (xs ++ ys).takeWhile p = xs ∧ (xs ++ ys).dropWhile p = ys := by
  rw [List.takeWhile_append_of_pos hxs, List.dropWhile_append_of_pos hxs]
  cases ys with
  | nil => exact ⟨List.append_nil xs, rfl⟩
  | cons y ys => simp [hys y rfl]

private theorem of_head?_append {P : Char → Prop} {xs : List Char} (hxs : ∀ c ∈ xs, P c) (hne : xs ≠ [])
    {rest : List Char} {c : Char} (hc : (xs ++ rest).head? = some c) : P c := by
  cases xs with
  | nil => exact absurd rfl hne
  | cons x xs =>
    cases hc
    exact hxs c List.mem_cons_self

theorem readColumn?_letters (fixed : Bool) (column : UInt16) {rest : List Char}
    (hrest : ∀ c, rest.head? = some c → c.isUpper = false) :
    readColumn? ((mark fixed).toList ++ ((letters column).toList ++ rest)) = some (column, fixed, rest) := by
  have hupper : ∀ c ∈ (letters column).toList, c.isUpper = true := by
    rw [letters, String.toList_ofList]
    exact forall_mem_lettersBefore (P := (Char.isUpper · = true)) (by decide) _ (List.forall_mem_nil _)
  have hnumber := numberAfter_letters column
  have hne : (letters column).toList ≠ [] := fun hnil => by simp [hnil, numberAfter] at hnumber
  have hdollar : ((letters column).toList ++ rest).head? ≠ some '$' := fun hc => by cases of_head?_append hupper hne hc
  have hfits : ¬(column.toNat + 1 = 0 ∨ UInt16.size < column.toNat + 1) := by
    have hlt : column.toNat < UInt16.size := column.toNat_lt
    omega
  obtain ⟨htake, hdrop⟩ := span_append hupper hrest
  simp only [readColumn?, readMark_mark fixed hdollar, htake, hdrop, hnumber, if_neg hfits,
    Nat.add_sub_cancel, UInt16.ofNat_toNat]

private theorem isDigit_of_mem_repr {n : Nat} : ∀ c ∈ n.repr.toList, c.isDigit = true := by
  rw [Nat.toList_repr]
  exact fun c hc => Nat.isDigit_of_mem_toDigits (by decide) (Nat.le_refl 10) hc

private theorem repr_ne_nil {n : Nat} : n.repr.toList ≠ [] := by
  rw [Nat.toList_repr]
  exact Nat.toDigits_ne_nil

theorem readRow?_repr (fixed : Bool) (row : UInt32) {rest : List Char}
    (hrest : ∀ c, rest.head? = some c → c.isDigit = false) :
    readRow? ((mark fixed).toList ++ ((row + 1).toNat.repr.toList ++ rest)) = some (row, fixed, rest) := by
  have hnumber : Nat.ofDigitChars 10 (row + 1).toNat.repr.toList 0 = (row + 1).toNat := by
    rw [Nat.toList_repr, Nat.ofDigitChars_ten_toDigits]
  have hdollar : ((row + 1).toNat.repr.toList ++ rest).head? ≠ some '$' := fun hc => by
    cases of_head?_append isDigit_of_mem_repr repr_ne_nil hc
  have hfits : ¬((row + 1).toNat.repr.toList = [] ∨ UInt32.size ≤ (row + 1).toNat) :=
    not_or.2 ⟨repr_ne_nil, Nat.not_le_of_lt (row + 1).toNat_lt⟩
  obtain ⟨htake, hdrop⟩ := span_append (isDigit_of_mem_repr (n := (row + 1).toNat)) hrest
  simp only [readRow?, readMark_mark fixed hdollar, htake, hdrop, hnumber, if_neg hfits, UInt32.ofNat_toNat,
    UInt32.add_sub_cancel]

private theorem isUpper_of_isDigit {c : Char} (h : c.isDigit = true) : c.isUpper = false := by
  have hdigit : c.val ≤ '9'.val := of_decide_eq_true (Bool.and_eq_true_iff.1 h).2
  exact decide_eq_false fun hletter => absurd (UInt32.le_trans hletter.1 hdigit) (by decide)

private theorem isUpper_of_head? (fixed : Bool) (row : UInt32) (rest : List Char) :
    ∀ c, ((mark fixed).toList ++ ((row + 1).toNat.repr.toList ++ rest)).head? = some c → c.isUpper = false := by
  intro c hc
  cases fixed with
  | true =>
    cases hc
    rfl
  | false =>
    have hdigits : ((row + 1).toNat.repr.toList ++ rest).head? = some c := hc
    exact isUpper_of_isDigit (of_head?_append isDigit_of_mem_repr repr_ne_nil hdigits)

/-! ### Addresses -/

def read? (cs : List Char) : Option (Address × List Char) := do
  let (column, columnFixed, cs) ← readColumn? cs
  let (row, rowFixed, rest) ← readRow? cs
  return ({ row, column, rowFixed, columnFixed }, rest)

theorem read?_text (a : Address) {rest : List Char} (hrest : ∀ c, rest.head? = some c → c.isDigit = false) :
    read? (a.text.toList ++ rest) = some (a, rest) := by
  have htext : a.text.toList ++ rest = (mark a.columnFixed).toList ++ ((letters a.column).toList ++
      ((mark a.rowFixed).toList ++ ((a.row + 1).toNat.repr.toList ++ rest))) := by
    simp only [text, String.toList_append, List.append_assoc]
  have hrow := isUpper_of_head? a.rowFixed a.row rest
  simp only [read?, htext, readColumn?_letters a.columnFixed a.column hrow, readRow?_repr a.rowFixed a.row hrest,
    Option.bind_eq_bind, Option.bind_some, Option.pure_def]

end Address

namespace CellRange

def read? (cs : List Char) : Option CellRange :=
  match Address.read? cs with
  | some (first, []) => some ⟨first, first⟩
  | some (first, ':' :: rest) =>
    match Address.read? rest with
    | some (last, []) => some ⟨first, last⟩
    | _ => none
  | _ => none

theorem read?_text (r : CellRange) : read? r.text.toList = some r := by
  have hlast : Address.read? (r.last.text.toList ++ []) = some (r.last, []) := r.last.read?_text nofun
  rw [List.append_nil] at hlast
  unfold text
  split
  · rename_i hsame
    obtain ⟨first, last⟩ := r
    cases hsame
    rw [read?, hlast]
  · have hfirst : Address.read? (r.first.text.toList ++ ':' :: r.last.text.toList) =
        some (r.first, ':' :: r.last.text.toList) := r.first.read?_text (by rintro c ⟨⟩; rfl)
    have htext : (r.first.text ++ ":" ++ r.last.text).toList = r.first.text.toList ++ ':' :: r.last.text.toList := by
      simp only [String.toList_append, List.append_assoc]
      rfl
    rw [htext, read?, hfirst]
    simp only [hlast]

end CellRange

end SheetTemplate
