/-!
# Texts

Sets of characters, words, lines and quotations. A set of code points is listed as inclusive ranges in ascending order, so
a search stops at the first range that lies above the character. A character is blank when Unicode gives it the property
White_Space; texts are cut into words at blanks and into lines at line feeds, and both are read off `pieces`, which loses
no character but the separators. Inside quotes the quote itself is written twice and every other character once, so a
reader that stops at the first quote standing alone reads the whole text.
-/

namespace SheetTemplate.Text

/-! ### Sets of code points -/

abbrev CodePoints := List (Nat × Nat)

def CodePoints.includes : CodePoints → Char → Bool
  | [], _ => false
  | (first, last) :: rest, c =>
    if c.toNat < first then false else c.toNat ≤ last || CodePoints.includes rest c

/-! ### Blanks, words and lines -/

/-- The characters with the property White_Space. -/
def isBlank (c : Char) : Bool :=
  let n := c.toNat
  (0x9 ≤ n && n ≤ 0xD) || n = 0x20 || n = 0x85 || n = 0xA0 || n = 0x1680 || (0x2000 ≤ n && n ≤ 0x200A) ||
    n = 0x2028 || n = 0x2029 || n = 0x202F || n = 0x205F || n = 0x3000

/-- A text that shows nothing: every character is blank. -/
def isAllBlank (s : String) : Bool :=
  s.toList.all isBlank

/-- The text before the first separator, and the pieces after each separator. -/
def cut (separates : Char → Bool) : List Char → List Char × List (List Char)
  | [] => ([], [])
  | c :: rest =>
    let (piece, others) := cut separates rest
    if separates c then ([], piece :: others) else (c :: piece, others)

/-- The pieces between separators: one more piece than there are separators. -/
def pieces (separates : Char → Bool) (cs : List Char) : List (List Char) :=
  (cut separates cs).1 :: (cut separates cs).2

/-- The maximal runs of characters that are not blank. -/
def words (s : String) : List String :=
  ((pieces isBlank s.toList).filter (!·.isEmpty)).map String.ofList

/-- A line as it stands before its line feed: one carriage return at its end belongs to the line end. -/
def withoutReturn (line : List Char) : List Char :=
  if line.getLast? = some '\r' then line.dropLast else line

/-- The lines of a text. A line feed ends a line, so a text that ends in one has no empty line after it. -/
def lines (s : String) : List String :=
  let parts := pieces (· = '\n') s.toList
  let last := match parts.getLast? with
    | some (c :: cs) => [c :: cs]
    | _ => []
  (parts.dropLast.map withoutReturn ++ last).map String.ofList

/-! ### Quotations -/

/-- A text with every `quote` in it written twice. -/
def doubled (quote : Char) : List Char → List Char
  | [] => []
  | c :: rest => if c = quote then quote :: quote :: doubled quote rest else c :: doubled quote rest

def quoted (quote : Char) (s : String) : String :=
  String.ofList (quote :: (doubled quote s.toList ++ [quote]))

end SheetTemplate.Text
