import Mathlib.Data.Char
import Mathlib.Data.List.Induction
import Mathlib.Data.List.Shortlex
import SheetTemplate.Proofs.Cell.Reading

/-!
# The order of column letters

The columns are the words over the capital letters, numbered by length and then alphabetically: a letter is worth at least
one and at most twenty-six, so a word with more in front outweighs whatever follows, and every number has a word. The
letters of a column are therefore more than a name that can be read back. They say which columns come before it, and the
words before them are the letters of exactly these columns.
-/

namespace SheetTemplate.Address

/-- A word over the capital letters. -/
structure IsWord (word : List Char) : Prop where
  nonempty : word ≠ []
  capital : ∀ c ∈ word, 'A' ≤ c ∧ c ≤ 'Z'

/-! ### Numbers of words -/

private theorem toNat_of_capital {c : Char} (h : 'A' ≤ c ∧ c ≤ 'Z') : 65 ≤ c.toNat ∧ c.toNat ≤ 90 :=
  ⟨UInt32.le_iff_toNat_le.1 h.1, UInt32.le_iff_toNat_le.1 h.2⟩

theorem numberAfter_cons (n : Nat) (c : Char) (cs : List Char) :
    numberAfter n (c :: cs) = numberAfter (26 * n + (c.toNat - 'A'.toNat + 1)) cs := rfl

theorem numberAfter_append (n : Nat) (front back : List Char) :
    numberAfter n (front ++ back) = numberAfter (numberAfter n front) back := List.foldl_append

theorem le_numberAfter (n : Nat) (word : List Char) : n ≤ numberAfter n word := by
  induction word generalizing n with
  | nil => exact Nat.le_refl n
  | cons c cs ih =>
    have hstep : n ≤ 26 * n + (c.toNat - 'A'.toNat + 1) := by omega
    rw [numberAfter_cons]
    exact Nat.le_trans hstep (ih _)

theorem numberAfter_pos {word : List Char} (h : word ≠ []) : 0 < numberAfter 0 word := by
  cases word with
  | nil => exact absurd rfl h
  | cons c cs => exact Nat.lt_of_lt_of_le (Nat.succ_pos _) (le_numberAfter _ cs)

/-- A letter decides where what stands in front of it does not. -/
private theorem numberAfter_singleton_lt {m n : Nat} {x y : Char} (hx : 'A' ≤ x ∧ x ≤ 'Z')
    (h : m < n ∨ m = n ∧ x < y) : numberAfter m [x] < numberAfter n [y] := by
  have hletter := toNat_of_capital hx
  have hA : 'A'.toNat = 65 := rfl
  change 26 * m + (x.toNat - 'A'.toNat + 1) < 26 * n + (y.toNat - 'A'.toNat + 1)
  rcases h with hfront | ⟨rfl, hletters⟩
  · omega
  · have hlt : x.toNat < y.toNat := UInt32.lt_iff_toNat_lt.1 hletters
    omega

/-- What stands in front decides between words of one length. -/
theorem numberAfter_lt {xs ys : List Char} (hxs : ∀ c ∈ xs, 'A' ≤ c ∧ c ≤ 'Z') (hlength : xs.length = ys.length)
    {m n : Nat} (h : m < n) : numberAfter m xs < numberAfter n ys := by
  induction xs generalizing ys m n with
  | nil =>
    obtain rfl := List.eq_nil_of_length_eq_zero hlength.symm
    exact h
  | cons x xs ih =>
    cases ys with
    | nil => cases hlength
    | cons y ys =>
      obtain ⟨hx, hxs⟩ := List.forall_mem_cons.1 hxs
      exact ih hxs (Nat.succ.inj hlength) (numberAfter_singleton_lt hx (.inl h))

theorem numberAfter_lt_of_lex {xs ys : List Char} (hxs : ∀ c ∈ xs, 'A' ≤ c ∧ c ≤ 'Z')
    (hlength : xs.length = ys.length) (h : List.Lex (· < ·) xs ys) (n : Nat) : numberAfter n xs < numberAfter n ys := by
  induction h generalizing n with
  | nil => cases hlength
  | cons _ ih => exact ih (List.forall_mem_cons.1 hxs).2 (Nat.succ.inj hlength) _
  | @rel x xs y ys hxy =>
    obtain ⟨hx, hxs⟩ := List.forall_mem_cons.1 hxs
    exact numberAfter_lt hxs (Nat.succ.inj hlength) (numberAfter_singleton_lt hx (.inr ⟨rfl, hxy⟩))

theorem numberAfter_lt_of_length_lt {xs ys : List Char} (hxs : ∀ c ∈ xs, 'A' ≤ c ∧ c ≤ 'Z')
    (h : xs.length < ys.length) : numberAfter 0 xs < numberAfter 0 ys := by
  have hfront : ys.take (ys.length - xs.length) ≠ [] := by
    rw [ne_eq, List.take_eq_nil_iff]
    rintro (hzero | rfl)
    · omega
    · cases h
  have hback : xs.length = (ys.drop (ys.length - xs.length)).length := by
    rw [List.length_drop]
    omega
  rw [← List.take_append_drop (ys.length - xs.length) ys, numberAfter_append]
  exact numberAfter_lt hxs hback (numberAfter_pos hfront)

theorem numberAfter_lt_iff {xs ys : List Char} (hxs : ∀ c ∈ xs, 'A' ≤ c ∧ c ≤ 'Z') (hys : ∀ c ∈ ys, 'A' ≤ c ∧ c ≤ 'Z') :
    numberAfter 0 xs < numberAfter 0 ys ↔ List.Shortlex (· < ·) xs ys := by
  have hlt : ∀ {xs ys : List Char}, (∀ c ∈ xs, 'A' ≤ c ∧ c ≤ 'Z') → List.Shortlex (· < ·) xs ys →
      numberAfter 0 xs < numberAfter 0 ys := fun {xs ys} hxs h => by
    rcases List.shortlex_def.1 h with hlength | ⟨hlength, hlex⟩
    · exact numberAfter_lt_of_length_lt hxs hlength
    · exact numberAfter_lt_of_lex hxs hlength hlex 0
  refine ⟨fun h => ?_, hlt hxs⟩
  by_contra hbefore
  have hafter : ¬List.Shortlex (· < ·) ys xs := fun hafter => Nat.lt_asymm h (hlt hys hafter)
  obtain rfl := Std.Trichotomous.trichotomous xs ys hbefore hafter
  exact Nat.lt_irrefl _ h

theorem lettersBefore_numberAfter {word : List Char} (h : ∀ c ∈ word, 'A' ≤ c ∧ c ≤ 'Z') (tail : List Char) :
    lettersBefore (numberAfter 0 word) tail = word ++ tail := by
  induction word using List.reverseRec generalizing tail with
  | nil => rw [numberAfter, List.foldl_nil, lettersBefore, if_pos rfl, List.nil_append]
  | append_singleton word c ih =>
    obtain ⟨hword, hc⟩ := List.forall_mem_append.1 h
    have hletter := toNat_of_capital (hc c List.mem_cons_self)
    have hA : 'A'.toNat = 65 := rfl
    have hnumber : numberAfter 0 (word ++ [c]) = 26 * numberAfter 0 word + (c.toNat - 'A'.toNat + 1) :=
      numberAfter_append 0 word [c]
    have hne : 26 * numberAfter 0 word + (c.toNat - 'A'.toNat + 1) ≠ 0 := by omega
    have hrest : (26 * numberAfter 0 word + (c.toNat - 'A'.toNat + 1) - 1) / 26 = numberAfter 0 word := by omega
    have hlast : 'A'.toNat + (26 * numberAfter 0 word + (c.toNat - 'A'.toNat + 1) - 1) % 26 = c.toNat := by omega
    rw [hnumber, lettersBefore, if_neg hne, hrest, hlast, Char.ofNat_toNat, ih hword, List.append_assoc,
      List.singleton_append]

/-! ### Columns -/

theorem isWord_letters (column : UInt16) : IsWord (letters column).toList where
  nonempty hnil := by
    have hnumber := numberAfter_letters column
    rw [hnil] at hnumber
    cases hnumber
  capital := by
    rw [letters, String.toList_ofList]
    exact forall_mem_lettersBefore (P := fun c => 'A' ≤ c ∧ c ≤ 'Z') (by decide) _ (List.forall_mem_nil _)

/-- The words before the letters of a column are the letters of the columns before it. -/
theorem shortlex_letters_iff (column : UInt16) (word : List Char) :
    IsWord word ∧ List.Shortlex (· < ·) word (letters column).toList ↔
      ∃ earlier < column, (letters earlier).toList = word := by
  constructor
  · rintro ⟨hword, hbefore⟩
    have hlt := (numberAfter_lt_iff hword.capital (isWord_letters column).capital).2 hbefore
    have hpos := numberAfter_pos hword.nonempty
    rw [numberAfter_letters] at hlt
    have hcolumn : column.toNat < 2 ^ 16 := column.toNat_lt
    have hnat : (UInt16.ofNat (numberAfter 0 word - 1)).toNat = numberAfter 0 word - 1 :=
      UInt16.toNat_ofNat_of_lt' (by
        have hsize : UInt16.size = 2 ^ 16 := rfl
        omega)
    refine ⟨UInt16.ofNat (numberAfter 0 word - 1), UInt16.lt_iff_toNat_lt.2 (by omega), ?_⟩
    rw [letters, String.toList_ofList, hnat, Nat.sub_add_cancel hpos, lettersBefore_numberAfter hword.capital,
      List.append_nil]
  · rintro ⟨earlier, hearlier, rfl⟩
    have hword := isWord_letters earlier
    refine ⟨hword, (numberAfter_lt_iff hword.capital (isWord_letters column).capital).1 ?_⟩
    rw [numberAfter_letters, numberAfter_letters]
    exact Nat.succ_lt_succ (UInt16.lt_iff_toNat_lt.1 hearlier)

/-- The text of an address is read back, the columns are numbered by the length of their letters and then alphabetically,
and the text of a range tells its corners, which are one cell if it is the text of an address. -/
theorem text_identifies :
    (∀ a : Address, read? a.text.toList = some (a, [])) ∧
    (∀ column, IsWord (letters column).toList) ∧
    (∀ column word, IsWord word ∧ List.Shortlex (· < ·) word (letters column).toList ↔
      ∃ earlier < column, (letters earlier).toList = word) ∧
    (∀ r s : CellRange, r.text = s.text ↔ r = s) ∧
    ∀ (r : CellRange) (a : Address), r.text = a.text ↔ r.first = a ∧ r.last = a := by
  have hrange : ∀ {r s : CellRange}, r.text = s.text → r = s := fun {r s} h => by
    have hread := r.read?_text
    rw [h, s.read?_text] at hread
    exact (Option.some.inj hread).symm
  have hcell : ∀ a : Address, (CellRange.mk a a).text = a.text := fun a => by rw [CellRange.text, if_pos rfl]
  refine ⟨fun a => ?_, isWord_letters, shortlex_letters_iff, fun r s => ⟨hrange, congrArg _⟩, fun r a => ⟨fun h => ?_, ?_⟩⟩
  · have hread : read? (a.text.toList ++ []) = some (a, []) := a.read?_text nofun
    rwa [List.append_nil] at hread
  · rw [hrange (h.trans (hcell a).symm)]
    exact ⟨rfl, rfl⟩
  · rintro ⟨rfl, hlast⟩
    rw [CellRange.text, if_pos hlast.symm]

example : letters 25 = "Z" ∧ letters 26 = "AA" ∧ letters 701 = "ZZ" ∧ letters 702 = "AAA" := by decide +kernel

end SheetTemplate.Address
