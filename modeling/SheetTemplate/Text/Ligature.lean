import SheetTemplate.Text.Table.Width

/-!
# Ligatures

Letters of some scripts are shown as one with the letters before them: at once, through marks that take
no cell, or only where a zero width joiner asks for it. Read from the end, a letter waits for the one
that joins it.
-/

namespace SheetTemplate.Text

/-- A letter, or a run of them, that a letter before it may join; `joined` when a joiner asks for it. -/
inductive Ligature where
  | alef
  | lamed (joined : Bool)
  | bugineseYa (joined : Bool)
  /-- The Buginese vowel sign I before a joined Ya. -/
  | bugineseYi
  | tifinagh (joined : Bool)
  /-- The Tifinagh consonant joiner before a consonant. -/
  | tifinaghJoiner
  | lisuTone
  | orkhonI (joined : Bool)
  | khmerLetter
  | kiratE
  | kiratAi
  deriving DecidableEq, Repr

namespace Ligature

def isAlef (c : Char) : Bool :=
  CodePoints.includes [(0x622, 0x623), (0x625, 0x625), (0x627, 0x627), (0x671, 0x673), (0x675, 0x675),
    (0x773, 0x774), (0x870, 0x882)] c

def isLam (c : Char) : Bool :=
  CodePoints.includes [(0x644, 0x644), (0x6B5, 0x6B8), (0x76A, 0x76A), (0x8A6, 0x8A6), (0x8C7, 0x8C7)] c

def isTifinagh (c : Char) : Bool := CodePoints.includes [(0x2D31, 0x2D65), (0x2D6F, 0x2D6F)] c

/-- Khmer letters that have a form below the letter before them. -/
def isKhmerLetter (c : Char) : Bool :=
  CodePoints.includes [(0x1780, 0x1782), (0x1784, 0x1787), (0x1789, 0x178C), (0x178E, 0x1793),
    (0x1795, 0x1798), (0x179B, 0x179D), (0x17A0, 0x17A0), (0x17A2, 0x17A2), (0x17A7, 0x17A7),
    (0x17AB, 0x17AC), (0x17AF, 0x17AF)] c

/-- The ligature that a letter may end. Each of these letters takes one cell. -/
def ofChar? (c : Char) : Option Ligature :=
  if isAlef c then some .alef
  else if c.toNat = 0x5DC then some (.lamed false)
  else if c.toNat = 0x1A10 then some (.bugineseYa false)
  else if isTifinagh c then some (.tifinagh false)
  else if 0xA4FC ≤ c.toNat && c.toNat ≤ 0xA4FD then some .lisuTone
  else if c.toNat = 0x10C03 then some (.orkhonI false)
  else if isKhmerLetter c then some .khmerLetter
  else if c.toNat = 0x16D67 then some .kiratE
  else if c.toNat = 0x16D68 then some .kiratAi
  else none

/-- Marks of no width through which Arabic letters still join. -/
def isTransparent (c : Char) : Bool := zeroWidth.includes c && !interrupting.includes c

/-- Characters that leave a ligature open without a trace. -/
def isIgnored (c : Char) : Bool :=
  CodePoints.includes [(0x34F, 0x34F), (0x17B4, 0x17B5), (0x180B, 0x180D), (0x180F, 0x180F),
    (0xFE00, 0xFE0F), (0xE0100, 0xE01EF)] c

/-- Whether a selector before the letter leaves the ligature open. -/
def outlastsSelectors : Ligature → Bool
  | .kiratE | .kiratAi => false
  | _ => true

/-- Whether ignored characters, and joiners, leave the ligature open. -/
def isOpen : Ligature → Bool
  | .alef => false
  | l => l.outlastsSelectors

def join : Ligature → Ligature
  | .lamed _ => .lamed true
  | .bugineseYa _ => .bugineseYa true
  | .tifinagh _ => .tifinagh true
  | .orkhonI _ => .orkhonI true
  | l => l

/-- The cells that a character adds in front of a ligature, with the ligature it is itself waiting in;
none if the character does not join it. -/
def before? (c : Char) : Ligature → Option (Int × Option Ligature)
  | .alef => if isLam c then some (0, none) else if isTransparent c then some (0, some .alef) else none
  | .lamed joined => if joined && c.toNat = 0x5D0 then some (0, none) else none
  | .bugineseYa joined => if joined && c.toNat = 0x1A17 then some (0, some .bugineseYi) else none
  | .bugineseYi => if c.toNat = 0x1A15 then some (0, none) else none
  | .tifinagh joined =>
    if c.toNat = 0x2D7F then some (1, some .tifinaghJoiner)
    else if joined && isTifinagh c then some (0, none)
    else none
  | .tifinaghJoiner => if isTifinagh c then some (-1, none) else none
  | .lisuTone => if 0xA4F8 ≤ c.toNat && c.toNat ≤ 0xA4FB then some (0, none) else none
  | .orkhonI joined => if joined && c.toNat = 0x10C32 then some (0, none) else none
  | .khmerLetter => if c.toNat = 0x17D2 then some (-1, none) else none
  | .kiratE =>
    if c.toNat = 0x16D63 || c.toNat = 0x16D69 then some (0, none)
    else if c.toNat = 0x16D67 then some (0, some .kiratAi)
    else if c.toNat = 0x16D68 then some (1, some .kiratE)
    else none
  | .kiratAi => if c.toNat = 0x16D63 then some (0, none) else none

end Ligature

end SheetTemplate.Text
