import SheetTemplate.Text.Table.Emoji

/-!
# Emoji sequences

Emoji, their skin tones, flags and joiners make sequences that are shown as one emoji of two cells. A
sequence is read from its end: of what stands after a character only its place in such a sequence
matters, and the character adds as many cells as the sequence grows by.
-/

namespace SheetTemplate.Text

/-- What a run of characters is to an emoji sequence that may have started before it. -/
inductive EmojiTail where
  /-- An emoji, with all that belongs to it. -/
  | emoji
  | skinTone
  /-- Regional indicators, of which two make a flag. -/
  | indicators (count : Nat)
  /-- A zero width joiner and an emoji. -/
  | joined
  /-- An enclosing keycap before a joiner and an emoji. -/
  | joinedKeycap
  /-- Regional indicators before a joiner and an emoji. -/
  | joinedIndicators (count : Nat)
  /-- Digits and after them letters of a tag sequence, with the tag that ends it, before a joiner and an
  emoji. -/
  | tags (letters digits : Nat)
  deriving DecidableEq, Repr

def isJoiner (c : Char) : Bool := c.toNat = 0x200D

namespace EmojiTail

def isSkinTone (c : Char) : Bool := 0x1F3FB ≤ c.toNat && c.toNat ≤ 0x1F3FF

def isIndicator (c : Char) : Bool := 0x1F1E6 ≤ c.toNat && c.toNat ≤ 0x1F1FF

def isTagLetter (c : Char) : Bool := 0xE0061 ≤ c.toNat && c.toNat ≤ 0xE007A

def isTagDigit (c : Char) : Bool := 0xE0030 ≤ c.toNat && c.toNat ≤ 0xE0039

/-- The tail that a character starts. -/
def ofChar? (c : Char) : Option EmojiTail :=
  if isSkinTone c then some .skinTone
  else if isIndicator c then some (.indicators 1)
  else if emojiByDefault.includes c then some .emoji
  else none

/-- The cells of regional indicators before a joiner and an emoji: the last flag is one with the emoji,
and an indicator without another stands for itself. -/
def cellsOfJoined (count : Nat) : Int := if count % 2 = 0 then count - 2 else count

/-- The cells that a character adds in front of a tail, with the tail they make; none if the character
is not part of the sequence. -/
def before? (c : Char) : EmojiTail → Option (Int × EmojiTail)
  | .emoji => if isJoiner c then some (0, .joined) else none
  | .skinTone =>
    if modifierBases.includes c then some (0, .emoji)
    else if isJoiner c then some (0, .joined)
    else none
  | .indicators n =>
    if isIndicator c then some (1, .indicators (n + 1))
    else if isJoiner c && 2 ≤ n then some (0, .joined)
    else none
  | .joined =>
    if c.toNat = 0x20E3 then some (0, .joinedKeycap)
    else if c.toNat = 0xE007F then some (0, .tags 0 0)
    else if isIndicator c then some (1, .joinedIndicators 1)
    else (ofChar? c).map fun tail => (0, tail)
  | .joinedKeycap => none
  | .joinedIndicators n =>
    if isIndicator c then some (cellsOfJoined (n + 1) - cellsOfJoined n, .joinedIndicators (n + 1))
    else if isJoiner c && 2 ≤ n then some (0, .joined)
    else none
  | .tags letters digits =>
    if isTagLetter c then if digits = 0 && letters < 6 then some (0, .tags (letters + 1) 0) else none
    else if isTagDigit c then if digits < 3 && letters < 5 then some (0, .tags letters (digits + 1)) else none
    else if c.toNat = 0x1F3F4 && (digits = 3 || digits = 0 && 3 ≤ letters) then some (0, .emoji)
    else none

end EmojiTail

end SheetTemplate.Text
