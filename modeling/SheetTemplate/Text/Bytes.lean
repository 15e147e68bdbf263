/-!
# Bytes and hexadecimal digits

Texts are measured and cut in bytes where their characters are known to take one byte each, as hexadecimal digits do. The
cut is defined for every offset, also one inside a character, and is refused there.
-/

namespace SheetTemplate.Text

/-! ### Hexadecimal digits -/

def hexDigit? (c : Char) : Option Nat :=
  if c.isDigit then some (c.toNat - '0'.toNat)
  else if 'a' ≤ c && c ≤ 'f' then some (c.toNat - 'a'.toNat + 10)
  else if 'A' ≤ c && c ≤ 'F' then some (c.toNat - 'A'.toNat + 10)
  else none

/-- The number written by hexadecimal digits, zero by none of them. -/
def hexNumber? (digits : List Char) : Option Nat :=
  digits.foldlM (fun value c => (hexDigit? c).map (16 * value + ·)) 0

/-- The byte written by hexadecimal digits, at least one, which may follow a plus sign. -/
def hexByte? (cs : List Char) : Option UInt8 := do
  let digits := if cs.head? = some '+' then cs.tail else cs
  let number ← hexNumber? digits
  if digits ≠ [] ∧ number < UInt8.size then some (UInt8.ofNat number) else none

/-! ### Byte offsets -/

/-- The text between two byte offsets, unless one of them lies inside a character or behind the end. -/
def between? (s : String) (first last : Nat) : Option String := do
  let start ← s.pos? ⟨first⟩
  let stop ← s.pos? ⟨last⟩
  (s.slice? start stop).map String.Slice.copy

/-- Where a text divides there is a position. -/
private theorem exists_pos? {s front back : String} (h : s = front ++ back) :
    ∃ p : s.Pos, s.pos? ⟨front.utf8ByteSize⟩ = some p ∧ p.Splits front back := by
  have hvalid : String.Pos.Raw.IsValid s ⟨front.utf8ByteSize⟩ :=
    String.Pos.Raw.isValid_iff_exists_append.2 ⟨front, back, h, rfl⟩
  have hslice : String.Pos.Raw.isValidForSlice s.toSlice ⟨front.utf8ByteSize⟩ = true := by
    simpa using hvalid
  refine ⟨s.pos _ hvalid, ?_, h, rfl⟩
  rw [String.pos?, String.Slice.pos?, dif_pos hslice, Option.map_some]
  rfl

theorem between?_append (xs ys zs : String) :
    between? (xs ++ ys ++ zs) xs.utf8ByteSize (xs ++ ys).utf8ByteSize = some ys := by
  obtain ⟨start, hstart, hfront⟩ := exists_pos? (String.append_assoc : xs ++ ys ++ zs = xs ++ (ys ++ zs))
  obtain ⟨stop, hstop, hback⟩ := exists_pos? (rfl : xs ++ ys ++ zs = xs ++ ys ++ zs)
  obtain ⟨hle, hcopy⟩ := String.copy_slice_eq_iff_splits.2 ⟨xs, zs, hfront, hback⟩
  simp only [between?, hstart, hstop, Option.bind_eq_bind, Option.bind_some, String.slice?, dif_pos hle,
    Option.map_some, hcopy]

/-! ### Characters of one byte -/

theorem utf8ByteSize_ofList {cs : List Char} (h : ∀ c ∈ cs, c.utf8Size = 1) :
    (String.ofList cs).utf8ByteSize = cs.length := by
  induction cs with
  | nil => rfl
  | cons c cs ih =>
    obtain ⟨hc, hcs⟩ := List.forall_mem_cons.1 h
    rw [← List.singleton_append, String.ofList_append, String.utf8ByteSize_append, ih hcs,
      ← String.singleton_eq_ofList, String.utf8ByteSize_singleton, hc, List.length_append, List.length_singleton]

theorem between?_ofList {xs ys zs : List Char} (h : ∀ c ∈ xs ++ ys ++ zs, c.utf8Size = 1) :
    between? (String.ofList (xs ++ ys ++ zs)) xs.length (xs ++ ys).length = some (String.ofList ys) := by
  have hys : ∀ c ∈ xs ++ ys, c.utf8Size = 1 := fun c hc => h c (List.mem_append_left zs hc)
  have hxs : ∀ c ∈ xs, c.utf8Size = 1 := fun c hc => hys c (List.mem_append_left ys hc)
  rw [← utf8ByteSize_ofList hxs, ← utf8ByteSize_ofList hys, String.ofList_append, String.ofList_append, between?_append]

example : between? "aéb" 1 3 = some "é" ∧ between? "aéb" 0 2 = none := by decide +kernel

end SheetTemplate.Text
