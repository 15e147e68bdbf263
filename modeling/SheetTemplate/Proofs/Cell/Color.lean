import SheetTemplate.Cell.Format

/-!
# Reading colors

The length of a color is counted in bytes, its digits are characters and its parts are cut out at byte offsets. The three
agree because a hexadecimal digit is one byte long: once all characters are digits, six bytes are six characters and every
offset lies between two of them. A text of six bytes with a longer character in it is refused before it is cut.
-/

namespace SheetTemplate.Color

open Text

/-- A text is six hexadecimal digits behind any number of number signs. -/
structure Spells (s : String) (digits : List Char) : Prop where
  signs : ∃ n, s.toList = List.replicate n '#' ++ digits
  six : digits.length = 6
  hex : ∀ d ∈ digits, d.isHexDigit = true

/-! ### Digits -/

private theorem forall_isHexDigit {P : Char → Prop}
    (h : ∀ n < 128, (Char.ofNat n).isHexDigit = true → P (Char.ofNat n)) {c : Char} (hc : c.isHexDigit = true) : P c := by
  have hlt : c.toNat < 128 := by
    simp only [Char.isHexDigit, Char.isDigit, Bool.or_eq_true, Bool.and_eq_true, decide_eq_true_eq, ge_iff_le,
      UInt32.le_iff_toNat_le] at hc
    change c.val.toNat < 128
    rcases hc with (⟨-, hc⟩ | ⟨-, hc⟩) | ⟨-, hc⟩
    · exact Nat.lt_of_le_of_lt hc (by decide)
    · exact Nat.lt_of_le_of_lt hc (by decide)
    · exact Nat.lt_of_le_of_lt hc (by decide)
  have hof := h c.toNat hlt
  rw [Char.ofNat_toNat] at hof
  exact hof hc

theorem utf8Size_of_isHexDigit {c : Char} (h : c.isHexDigit = true) : c.utf8Size = 1 :=
  forall_isHexDigit (P := (·.utf8Size = 1)) (by decide +kernel) h

theorem exists_hexDigit? {c : Char} (h : c.isHexDigit = true) :
    ∃ value < 16, hexDigit? c = some value ∧ Nat.digitChar value = c.toLower :=
  forall_isHexDigit (P := fun c => ∃ value < 16, hexDigit? c = some value ∧ Nat.digitChar value = c.toLower)
    (by decide +kernel) h

theorem hexByte?_pair {high low : Char} {m n : Nat} (hhigh : hexDigit? high = some m) (hlow : hexDigit? low = some n)
    (hm : m < 16) (hn : n < 16) : hexByte? [high, low] = some (UInt8.ofNat (16 * m + n)) := by
  have hplus : [high, low].head? ≠ some '+' := by
    rintro ⟨⟩
    cases hhigh
  have hnumber : hexNumber? [high, low] = some (16 * m + n) := by
    simp [hexNumber?, hhigh, hlow]
  have hlt : 16 * m + n < UInt8.size := by
    have hsize : UInt8.size = 256 := rfl
    omega
  rw [hexByte?, if_neg hplus, hnumber, Option.bind_eq_bind, Option.bind_some, if_pos ⟨List.cons_ne_nil _ _, hlt⟩]

/-- Two digits are a part of a color, which is written back in lowercase. -/
theorem exists_hexByte? {high low : Char} (hhigh : high.isHexDigit = true) (hlow : low.isHexDigit = true) :
    ∃ part, hexByte? [high, low] = some part ∧ digits part = [high.toLower, low.toLower] := by
  obtain ⟨m, hm, hdigit, hlower⟩ := exists_hexDigit? hhigh
  obtain ⟨n, hn, hdigit', hlower'⟩ := exists_hexDigit? hlow
  have hnat : (UInt8.ofNat (16 * m + n)).toNat = 16 * m + n := UInt8.toNat_ofNat_of_lt' (by
    have hsize : UInt8.size = 256 := rfl
    omega)
  have hquot : (16 * m + n) / 16 = m := by omega
  have hrest : (16 * m + n) % 16 = n := by omega
  refine ⟨_, hexByte?_pair hdigit hdigit' hm hn, ?_⟩
  rw [digits, hnat, hquot, hrest, hlower, hlower']

theorem hexByte?_digits (part : UInt8) : hexByte? (digits part) = some part := by
  have hvalue : ∀ value < 16, hexDigit? (Nat.digitChar value) = some value := by decide
  have hlt : part.toNat < 256 := part.toNat_lt
  have hhigh : part.toNat / 16 < 16 := by omega
  have hlow : part.toNat % 16 < 16 := Nat.mod_lt _ (by decide)
  rw [digits, hexByte?_pair (hvalue _ hhigh) (hvalue _ hlow) hhigh hlow, Nat.div_add_mod, UInt8.ofNat_toNat]

/-! ### Texts -/

theorem part_eq_ok {xs ys zs : List Char} (h : ∀ c ∈ xs ++ ys ++ zs, c.isHexDigit = true) (htwo : ys.length = 2)
    {byte : UInt8} (hbyte : hexByte? ys = some byte) : part (String.ofList (xs ++ ys ++ zs)) xs.length = .ok byte := by
  have hstop : xs.length + 2 = (xs ++ ys).length := by rw [List.length_append, htwo]
  rw [part, hstop, between?_ofList fun c hc => utf8Size_of_isHexDigit (h c hc)]
  simp only [String.toList_ofList, hbyte]

theorem Spells.dropWhile {s : String} {digits : List Char} (h : Spells s digits) :
    s.toList.dropWhile (· = '#') = digits := by
  obtain ⟨n, hs⟩ := h.signs
  rw [hs, List.dropWhile_append_of_pos fun c hc => decide_eq_true (List.eq_of_mem_replicate hc)]
  cases digits with
  | nil => rfl
  | cons d ds =>
    have hd : d ≠ '#' := by
      rintro rfl
      cases h.hex '#' List.mem_cons_self
    exact List.dropWhile_cons_of_neg (by simpa using hd)

theorem Spells.read_eq {s : String} {red green blue : List Char} {c : Color} (h : Spells s (red ++ green ++ blue))
    (hred : red.length = 2) (hgreen : green.length = 2) (hblue : blue.length = 2) (hr : hexByte? red = some c.red)
    (hg : hexByte? green = some c.green) (hb : hexByte? blue = some c.blue) : read s = .ok c := by
  have hbytes : (String.ofList (red ++ green ++ blue)).utf8ByteSize = 6 := by
    rw [utf8ByteSize_ofList fun c hc => utf8Size_of_isHexDigit (h.hex c hc), h.six]
  have hall : (String.ofList (red ++ green ++ blue)).toList.all Char.isHexDigit = true := by
    rw [String.toList_ofList, List.all_eq_true]
    exact h.hex
  have hfirst : part (String.ofList (red ++ green ++ blue)) 0 = .ok c.red := by
    have hhex : ∀ c ∈ [] ++ red ++ (green ++ blue), c.isHexDigit = true := by simpa using h.hex
    simpa using part_eq_ok hhex hred hr
  have hsecond : part (String.ofList (red ++ green ++ blue)) 2 = .ok c.green := hred ▸ part_eq_ok h.hex hgreen hg
  have hthird : part (String.ofList (red ++ green ++ blue)) 4 = .ok c.blue := by
    have hhex : ∀ c ∈ red ++ green ++ blue ++ [], c.isHexDigit = true := by simpa using h.hex
    have hcut := part_eq_ok hhex hblue hb
    rwa [List.append_nil, List.length_append, hred, hgreen] at hcut
  have hchecks : ¬((String.ofList (red ++ green ++ blue)).utf8ByteSize ≠ 6 ∨
      (String.ofList (red ++ green ++ blue)).toList.all Char.isHexDigit = false) :=
    not_or.2 ⟨not_not_intro hbytes, Bool.not_eq_false _ ▸ hall⟩
  rw [read, h.dropWhile, if_neg hchecks, hfirst, hsecond, hthird]
  rfl

theorem Spells.exists_read {s : String} {digits : List Char} (h : Spells s digits) :
    ∃ c : Color, read s = .ok c ∧ c.text = String.ofList ('#' :: digits.map Char.toLower) := by
  match digits, h.six with
  | [a, b, c, d, e, f], _ =>
    have hhex := h.hex
    simp only [List.forall_mem_cons] at hhex
    obtain ⟨ha, hb, hc, hd, he, hf, -⟩ := hhex
    obtain ⟨red, hred, htext⟩ := exists_hexByte? ha hb
    obtain ⟨green, hgreen, htext'⟩ := exists_hexByte? hc hd
    obtain ⟨blue, hblue, htext''⟩ := exists_hexByte? he hf
    have hparts : Spells s ([a, b] ++ [c, d] ++ [e, f]) := h
    have hread : read s = .ok ⟨red, green, blue⟩ := hparts.read_eq rfl rfl rfl hred hgreen hblue
    refine ⟨_, hread, ?_⟩
    rw [text, htext, htext', htext'']
    rfl

theorem exists_spells {s : String} (h : read s ≠ .error .malformed) : ∃ digits, Spells s digits := by
  obtain ⟨hbytes, hall⟩ := not_or.1 fun hchecks => h (if_pos hchecks)
  have hhex : ∀ d ∈ s.toList.dropWhile (· = '#'), d.isHexDigit = true := by
    rwa [Bool.not_eq_false, String.toList_ofList, List.all_eq_true] at hall
  refine ⟨s.toList.dropWhile (· = '#'), ⟨(s.toList.takeWhile (· = '#')).length, ?_⟩, ?_, hhex⟩
  · have hsigns : s.toList.takeWhile (· = '#') = List.replicate (s.toList.takeWhile (· = '#')).length '#' :=
      List.eq_replicate_of_mem fun c hc => of_decide_eq_true (List.all_eq_true.1 List.all_takeWhile c hc)
    rw [← hsigns, List.takeWhile_append_dropWhile]
  · rw [← utf8ByteSize_ofList fun c hc => utf8Size_of_isHexDigit (hhex c hc)]
    exact Decidable.of_not_not hbytes

theorem spells_text (c : Color) : Spells c.text (digits c.red ++ digits c.green ++ digits c.blue) := by
  have hdigits : ∀ part : UInt8, ∀ d ∈ digits part, d.isHexDigit = true := by
    have hchar : ∀ value < 16, (Nat.digitChar value).isHexDigit = true := by decide
    intro part
    have hlt : part.toNat < 256 := part.toNat_lt
    exact List.forall_mem_cons.2 ⟨hchar _ (by omega), List.forall_mem_singleton.2 (hchar _ (by omega))⟩
  refine ⟨⟨1, String.toList_ofList⟩, rfl, ?_⟩
  simp only [List.forall_mem_append]
  exact ⟨⟨hdigits c.red, hdigits c.green⟩, hdigits c.blue⟩

theorem read_text (c : Color) : read c.text = .ok c :=
  c.spells_text.read_eq rfl rfl rfl (hexByte?_digits _) (hexByte?_digits _) (hexByte?_digits _)

theorem ofText?_eq_some_iff {s : String} {c : Color} : ofText? s = some c ↔ read s = .ok c := by
  rw [ofText?]
  cases read s with
  | error => exact ⟨nofun, nofun⟩
  | ok d => exact ⟨fun h => congrArg Except.ok (Option.some.inj h), fun h => congrArg some (Except.ok.inj h)⟩

/-- Six digits behind any number of signs are a color and nothing else is one. It is the color that is written with the
same digits in lowercase, and what is written is read back. No text is cut inside a character. -/
theorem ofText?_spelled :
    (∀ s, (∃ c, ofText? s = some c) ↔ ∃ digits, Spells s digits) ∧
    (∀ s c, ofText? s = some c ↔
      ∃ digits, Spells s digits ∧ c.text = String.ofList ('#' :: digits.map Char.toLower)) ∧
    (∀ c : Color, ofText? c.text = some c) ∧ ∀ s, read s ≠ .error .cut := by
  simp only [ofText?_eq_some_iff]
  have hspells : ∀ {s c}, read s = .ok c → ∃ digits, Spells s digits := fun h => exists_spells (by rw [h]; nofun)
  refine ⟨fun s => ⟨fun ⟨_, h⟩ => hspells h, fun ⟨_, h⟩ => h.exists_read.imp fun _ => And.left⟩,
    fun s c => ⟨fun h => ?_, ?_⟩, read_text, fun s hcut => ?_⟩
  · obtain ⟨digits, hdigits⟩ := hspells h
    obtain ⟨c', hc', htext⟩ := hdigits.exists_read
    cases h.symm.trans hc'
    exact ⟨digits, hdigits, htext⟩
  · rintro ⟨digits, hdigits, htext⟩
    obtain ⟨c', hc', htext'⟩ := hdigits.exists_read
    -- Colors with one text are the color that is read from it.
    have hsame := c.read_text
    rw [htext, ← htext', c'.read_text] at hsame
    rw [hc', hsame]
  · obtain ⟨digits, hdigits⟩ := exists_spells (s := s) (by rw [hcut]; nofun)
    obtain ⟨c, hread, -⟩ := hdigits.exists_read
    cases hread.symm.trans hcut

example : ofText? "##FFc7Ce" = some ⟨255, 199, 206⟩ ∧ ofText? "#+fffff" = none ∧ ofText? "aééb" = none := by
  decide +kernel

end SheetTemplate.Color
