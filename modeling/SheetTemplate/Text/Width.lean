import SheetTemplate.Text.EmojiTail
import SheetTemplate.Text.Ligature

/-!
# Display width

The number of cells a text takes when it is shown in a font of fixed width. The cells of a character
depend on what follows it: a line feed swallows the return before it, a letter joins the letter before
it, an emoji takes two cells together with its skin tone and every emoji joined to its left, and a
selector chooses how the character before it is shown. A text is therefore measured from its end,
carrying what was last seen.
-/

namespace SheetTemplate.Text

/-- What stands after a character, selectors apart, as far as its width depends on it. -/
inductive Tail where
  | plain
  | lineFeed
  | letter (ligature : Ligature)
  | emoji (tail : EmojiTail)
  deriving DecidableEq, Repr

inductive Selector where
  /-- Asks for an emoji. -/
  | emoji
  | text
  /-- Asks for a quotation mark of two cells. -/
  | wideQuote
  deriving DecidableEq, Repr

/-- What a character is followed by: selectors meant for it, and what stands after them. -/
structure Following where
  tail : Tail := .plain
  pending : List Selector := []
  deriving DecidableEq, Repr

/-! ### Single characters -/

/-- The cells of a character with nothing after it. -/
def cellsAlone (c : Char) : Nat :=
  if c.toNat ≤ 0xA0 || c.toNat = 0x2D7F then 1
  else if zeroWidth.includes c then 0
  else if wide.includes c || EmojiTail.isSkinTone c || c.toNat = 0x17A4 then 2
  else if c.toNat = 0x17D8 then 3
  else 1

/-- What a character is to the one before it, whatever follows. -/
def Tail.ofChar (c : Char) : Tail :=
  if c = '\n' then .lineFeed
  else match Ligature.ofChar? c, EmojiTail.ofChar? c with
    | some l, _ => .letter l
    | none, some e => .emoji e
    | none, none => .plain

/-- A character by itself: its cells, and what it is to the character before it. -/
def widthAlone (c : Char) : Int × Following := (cellsAlone c, ⟨.ofChar c, []⟩)

/-! ### Selectors -/

def Selector.ofChar? (c : Char) : Option Selector :=
  if c.toNat = 0xFE01 then some .wideQuote
  else if c.toNat = 0xFE0E then some .text
  else if c.toNat = 0xFE0F then some .emoji
  else none

/-- Whether a selector may turn the character into text: ideographs stay as they are. -/
def takesTextSelector (c : Char) : Bool :=
  selectableEmoji.includes c && c.toNat ≠ 0x1F21A && c.toNat ≠ 0x1F22F

def takesEmojiSelector (c : Char) : Bool := selectableEmoji.includes c || textByDefault.includes c

def isCurlyQuote (c : Char) : Bool := CodePoints.includes [(0x2018, 0x2019), (0x201C, 0x201D)] c

def Tail.isJoined (t : Tail) : Bool := t = .emoji .joined || t = .emoji .joinedKeycap

/-- Whether what stands after a selector still matters before it. -/
def Tail.outlasts (t : Tail) (selector : Selector) : Bool :=
  match t with
  | .letter l => l.outlastsSelectors
  | t => selector = .emoji && t.isJoined

/-- What a selector and all after it are to the character before them. -/
def Following.select (s : Following) (selector : Selector) : Following :=
  if s.tail.outlasts selector then { s with pending := selector :: s.pending } else ⟨.plain, [selector]⟩

/-- What follows once an emoji selector was in vain: letters remain, all else is forgotten. -/
def Following.withoutEmojiSelector (s : Following) : Following :=
  if !s.pending.contains .emoji then s
  else match s.tail with
    | .letter l => ⟨.letter l, s.pending.filter (· ≠ .emoji)⟩
    | _ => {}

/-! ### Texts -/

/-- The cells of a character before a tail, when no selector chooses how it is shown. -/
def widthJoining (c : Char) (t : Tail) : Int × Following :=
  match t with
  | .letter l =>
    if l.isOpen && isJoiner c then (0, ⟨.letter l.join, []⟩)
    else if l.isOpen && Ligature.isIgnored c then (0, ⟨t, []⟩)
    else match l.before? c with
      | some (cells, next) => (cells, ⟨next.elim .plain .letter, []⟩)
      | none => widthAlone c
  | .emoji e =>
    match e.before? c with
    | some (cells, next) => (cells, ⟨.emoji next, []⟩)
    | none => widthAlone c
  | _ => widthAlone c

/-- The cells of a character before what follows it, and what both are to the character before them. -/
def widthBefore (c : Char) (s : Following) : Int × Following :=
  if s.pending.contains .emoji && takesEmojiSelector c then
    (if s.tail.isJoined then 0 else 2, ⟨.emoji .emoji, []⟩)
  else
    let s := s.withoutEmojiSelector
    if c.toNat ≤ 0xA0 then
      if c = '\r' && s.tail = .lineFeed then (0, {}) else widthAlone c
    else match Selector.ofChar? c with
      | some selector => (0, s.select selector)
      | none =>
        if s.pending.contains .text && takesTextSelector c then (1, {})
        else if s.pending.contains .wideQuote && isCurlyQuote c then (2, {})
        else widthJoining c s.tail

/-- The cells of a run of characters, and what the run is to a character before it. -/
def widthOfChars : List Char → Int × Following
  | [] => (0, {})
  | c :: rest =>
    let (cells, next) := widthOfChars rest
    let (own, follows) := widthBefore c next
    (own + cells, follows)

/-- The cells a text takes on one line. A character takes cells away only from the letter or the flag
after it, so the count is never negative. -/
def width (s : String) : Nat := (widthOfChars s.toList).1.toNat

end SheetTemplate.Text
