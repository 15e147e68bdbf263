import Mathlib.Algebra.Ring.Nat
import Mathlib.Data.List.Forall2
import Mathlib.Data.List.Induction
import Mathlib.Order.Bounds.Defs
import SheetTemplate.Comment

/-!
# Wrapping

Words are put on the last row as long as they fit. No other way of breaking the line does better, because it is never
ahead: after the same words it has more rows, or as many and the last of them no shorter. A word that the other way puts on
its last row then fits on this one, and a row that the other way begins is one that this way need not have begun.
-/

namespace SheetTemplate.Comment

/-! ### Rows -/

/-- The cells of a row: its words and one gap between two of them, from the first word that shows. -/
def rowWidth (cells : List Nat) : Nat :=
  let shown := cells.dropWhile (· = 0)
  shown.sum + (shown.length - 1)

def usedWith (used cells : Nat) : Nat := if used = 0 then cells else used + 1 + cells

theorem le_usedWith (used cells : Nat) : used ≤ usedWith used cells := by
  unfold usedWith
  split <;> omega

theorem cells_le_usedWith (used cells : Nat) : cells ≤ usedWith used cells := by
  unfold usedWith
  split <;> omega

theorem usedWith_mono {used more : Nat} (h : used ≤ more) (cells : Nat) : usedWith used cells ≤ usedWith more cells := by
  by_cases hused : used = 0
  · rw [usedWith, if_pos hused]
    exact cells_le_usedWith more cells
  · have hmore : more ≠ 0 := by omega
    rw [usedWith, if_neg hused, usedWith, if_neg hmore]
    omega

theorem rowWidth_concat (cells : List Nat) (c : Nat) : rowWidth (cells ++ [c]) = usedWith (rowWidth cells) c := by
  by_cases hblank : cells.dropWhile (· = 0) = []
  · have hfirst : rowWidth (cells ++ [c]) = c := by
      by_cases hc : c = 0
      · simp [rowWidth, List.dropWhile_append, hblank, hc]
      · simp [rowWidth, List.dropWhile_append, hblank, hc]
    have hnone : rowWidth cells = 0 := by simp [rowWidth, hblank]
    rw [hfirst, hnone, usedWith, if_pos rfl]
  · obtain ⟨d, ds, hshown⟩ := List.exists_cons_of_ne_nil hblank
    have hd : d ≠ 0 := by
      have hhead := List.head?_dropWhile_not (fun c : Nat => decide (c = 0)) cells
      rw [hshown] at hhead
      simpa using hhead
    have hcells : rowWidth cells = d + ds.sum + ds.length := by simp [rowWidth, hshown]
    have hmore : rowWidth (cells ++ [c]) = d + ds.sum + c + (ds.length + 1) := by
      simp [rowWidth, List.dropWhile_append, hshown, Nat.add_assoc]
    have hpos : rowWidth cells ≠ 0 := by omega
    rw [usedWith, if_neg hpos, hcells, hmore]
    omega

theorem rowWidth_le_append (front back : List Nat) : rowWidth front ≤ rowWidth (front ++ back) := by
  induction back generalizing front with
  | nil => exact Nat.le_of_eq (congrArg rowWidth (List.append_nil front).symm)
  | cons c cs ih =>
    rw [List.append_cons]
    refine Nat.le_trans ?_ (ih (front ++ [c]))
    rw [rowWidth_concat]
    exact le_usedWith _ c

/-- Words in rows of bounded width, in their order. -/
structure Fills {α : Type} (measure : α → Nat) (width : Nat) (words : List α) (rows : List (List α)) : Prop where
  nonempty : rows ≠ []
  flatten : rows.flatten = words
  fits : ∀ row ∈ rows, rowWidth (row.map measure) ≤ width

namespace Wrap

theorem add_eq (width : Nat) (s : Wrap) (cells : Nat) :
    s.add width cells =
      if s.used = 0 ∨ usedWith s.used cells ≤ width then ⟨s.rows, usedWith s.used cells⟩ else ⟨s.rows + 1, cells⟩ := by
  unfold add usedWith
  by_cases hused : s.used = 0
  · simp [hused]
  · simp [hused]

/-- No more than so many rows are begun, and no more cells are used if there are as many. -/
def Within (s : Wrap) (rows used : Nat) : Prop := s.rows < rows ∨ s.rows = rows ∧ s.used ≤ used

theorem Within.begin {s : Wrap} {rows used : Nat} (h : s.Within rows used) : s.Within (rows + 1) 0 := by
  rcases h with hless | ⟨hrows, -⟩
  · exact .inl (Nat.lt_succ_of_lt hless)
  · exact .inl (Nat.lt_succ_of_le (Nat.le_of_eq hrows))

theorem Within.add {s : Wrap} {rows used width cells : Nat} (h : s.Within rows used)
    (hfits : usedWith used cells ≤ width) : (s.add width cells).Within rows (usedWith used cells) := by
  rw [add_eq]
  split
  · exact h.imp id fun ⟨hrows, hused⟩ => ⟨hrows, usedWith_mono hused cells⟩
  · rename_i hfull
    rcases h with hless | ⟨-, hused⟩
    · rcases Nat.lt_or_eq_of_le (Nat.succ_le_of_lt hless) with hlt | heq
      · exact .inl hlt
      · exact .inr ⟨heq, cells_le_usedWith used cells⟩
    · -- The other way has room for the word on a row that is no shorter.
      exact absurd (.inr (Nat.le_trans (usedWith_mono hused cells) hfits)) hfull

theorem Within.addRow {s : Wrap} {rows width : Nat} {front : List Nat} (h : s.Within rows (rowWidth front))
    {cells : List Nat} (hfits : rowWidth (front ++ cells) ≤ width) :
    (cells.foldl (Wrap.add width) s).Within rows (rowWidth (front ++ cells)) := by
  induction cells generalizing s front with
  | nil => rwa [List.append_nil]
  | cons c cs ih =>
    rw [List.append_cons] at hfits ⊢
    have hword : usedWith (rowWidth front) c ≤ width := by
      rw [← rowWidth_concat]
      exact Nat.le_trans (rowWidth_le_append _ cs) hfits
    refine ih ?_ hfits
    rw [rowWidth_concat]
    exact h.add hword

theorem Within.addRows {s : Wrap} {width used : Nat} {cells : List (List Nat)} {begun : Nat} (h : s.Within begun used)
    (hfits : ∀ row ∈ cells, rowWidth row ≤ width) :
    ∃ last, (cells.flatten.foldl (Wrap.add width) s).Within (begun + cells.length) last := by
  induction cells generalizing s begun used with
  | nil => exact ⟨used, h⟩
  | cons row rest ih =>
    obtain ⟨hrow, hrest⟩ := List.forall_mem_cons.1 hfits
    have hbegin : s.Within (begun + 1) (rowWidth []) := h.begin
    obtain ⟨last, hlast⟩ := ih (hbegin.addRow hrow) hrest
    refine ⟨last, ?_⟩
    rw [List.flatten_cons, List.foldl_append, List.length_cons, Nat.add_comm rest.length, ← Nat.add_assoc]
    exact hlast

/-! ### The rows that are filled -/

/-- Words are on rows of which all but the last are closed. -/
structure Laid {α : Type} (measure : α → Nat) (width : Nat) (words : List α) (s : Wrap) (closed : List (List α))
    (last : List α) : Prop where
  fills : Fills measure width words (closed ++ [last])
  rows : s.rows = closed.length + 1
  used : s.used = rowWidth (last.map measure)

theorem exists_laid {α : Type} {measure : α → Nat} {width : Nat} {words : List α}
    (h : ∀ word ∈ words, measure word ≤ width) :
    ∃ closed last, Laid measure width words ((words.map measure).foldl (Wrap.add width) ⟨1, 0⟩) closed last := by
  induction words using List.reverseRec with
  | nil => exact ⟨[], [], ⟨List.cons_ne_nil _ _, rfl, List.forall_mem_singleton.2 (Nat.zero_le _)⟩, rfl, rfl⟩
  | append_singleton words word ih =>
    obtain ⟨hwords, hword⟩ := List.forall_mem_append.1 h
    have hfits : measure word ≤ width := hword word List.mem_cons_self
    obtain ⟨closed, last, hfills, hrows, hused⟩ := ih hwords
    obtain ⟨hclosed, hlast⟩ := List.forall_mem_append.1 hfills.fits
    have hflatten : closed.flatten ++ last = words := by simpa using hfills.flatten
    rw [List.map_append, List.map_singleton, List.foldl_append, List.foldl_cons, List.foldl_nil, add_eq]
    split
    · rename_i hroom
      have hwidth : rowWidth ((last ++ [word]).map measure) =
          usedWith (rowWidth (last.map measure)) (measure word) := by
        rw [List.map_append, List.map_singleton, rowWidth_concat]
      have hbound : usedWith (rowWidth (last.map measure)) (measure word) ≤ width := by
        rw [← hused]
        rcases hroom with hblank | hroom
        · rwa [usedWith, if_pos hblank]
        · exact hroom
      refine ⟨closed, last ++ [word], ⟨by simp, ?_, ?_⟩, hrows, by rw [hwidth, hused]⟩
      · rw [← hflatten]
        simp
      · exact List.forall_mem_append.2 ⟨hclosed, List.forall_mem_singleton.2 (hwidth ▸ hbound)⟩
    · have hwidth : rowWidth ([word].map measure) = measure word := rowWidth_concat [] (measure word)
      refine ⟨closed ++ [last], [word], ⟨by simp, ?_, ?_⟩, ?_, hwidth.symm⟩
      · rw [← hflatten]
        simp
      · exact List.forall_mem_append.2 ⟨hfills.fits, List.forall_mem_singleton.2 (hwidth ▸ hfits)⟩
      · simp [hrows]

end Wrap

/-! ### Lines -/

section Line

variable {α : Type} {measure : α → Nat} {width : Nat} {words : List α}

theorem exists_fills (h : ∀ word ∈ words, measure word ≤ width) :
    ∃ filled, Fills measure width words filled ∧ filled.length = rows width (words.map measure) := by
  obtain ⟨closed, last, hlaid⟩ := Wrap.exists_laid h
  exact ⟨_, hlaid.fills, by rw [rows, hlaid.rows, List.length_append, List.length_singleton]⟩

theorem rows_le {filled : List (List α)} (h : Fills measure width words filled) :
    rows width (words.map measure) ≤ filled.length := by
  obtain ⟨first, rest, rfl⟩ := List.exists_cons_of_ne_nil h.nonempty
  obtain ⟨hfirst, hrest⟩ := List.forall_mem_cons.1 h.fits
  have hstart : (⟨1, 0⟩ : Wrap).Within 1 (rowWidth []) := .inr ⟨rfl, Nat.le_refl 0⟩
  have hcells : ∀ row ∈ rest.map (List.map measure), rowWidth row ≤ width := List.forall_mem_map.2 hrest
  obtain ⟨last, hlast⟩ := (hstart.addRow hfirst).addRows hcells
  have hall : words.map measure = first.map measure ++ (rest.map (List.map measure)).flatten := by
    rw [← h.flatten, List.flatten_cons, List.map_append, List.map_flatten]
  rw [rows, hall, List.foldl_append, List.length_cons, Nat.add_comm rest.length]
  rw [List.length_map] at hlast
  rcases hlast with hless | ⟨heq, -⟩
  · exact Nat.le_of_lt hless
  · exact Nat.le_of_eq heq

end Line

/-! ### Texts -/

/-- So many rows hold a text: at least one, and the words of each line in rows of bounded width. -/
def Holds (measure : String → Nat) (width : Nat) (text : String) (n : Nat) : Prop :=
  1 ≤ n ∧ ∃ layout, List.Forall₂ (fun line => Fills measure width (Text.words line)) (Text.lines text) layout ∧
    layout.flatten.length ≤ n

variable {measure : String → Nat} {width : Nat} {lines : List String}

private theorem exists_layout (h : ∀ line ∈ lines, ∀ word ∈ Text.words line, measure word ≤ width) :
    ∃ layout, List.Forall₂ (fun line => Fills measure width (Text.words line)) lines layout ∧
      layout.flatten.length =
        (lines.map fun line => rows width ((Text.words line).map measure)).foldr (· + ·) 0 := by
  induction lines with
  | nil => exact ⟨[], .nil, rfl⟩
  | cons line lines ih =>
    obtain ⟨hline, hlines⟩ := List.forall_mem_cons.1 h
    obtain ⟨filled, hfilled, hlength⟩ := exists_fills hline
    obtain ⟨layout, hlayout, htotal⟩ := ih hlines
    refine ⟨filled :: layout, .cons hfilled hlayout, ?_⟩
    rw [List.flatten_cons, List.length_append, hlength, htotal]
    rfl

private theorem le_length_layout {layout : List (List (List String))}
    (h : List.Forall₂ (fun line => Fills measure width (Text.words line)) lines layout) :
    (lines.map fun line => rows width ((Text.words line).map measure)).foldr (· + ·) 0 ≤ layout.flatten.length := by
  induction h with
  | nil => exact Nat.zero_le _
  | cons hfilled _ ih =>
    rw [List.flatten_cons, List.length_append]
    exact Nat.add_le_add (rows_le hfilled) ih

/-- A text is wrapped to the least number of rows that hold it. -/
theorem wrappedLines_isLeast {text : String} (hpos : 0 < width)
    (h : ∀ line ∈ Text.lines text, ∀ word ∈ Text.words line, measure word ≤ width) :
    IsLeast {n | Holds measure width text n} (wrappedLines measure text width) := by
  rw [wrappedLines, Nat.max_eq_right hpos]
  obtain ⟨layout, hlayout, htotal⟩ := exists_layout h
  refine ⟨⟨Nat.le_max_left 1 _, layout, hlayout, htotal ▸ Nat.le_max_right 1 _⟩, ?_⟩
  rintro n ⟨hn, layout, hlayout, htotal⟩
  exact Nat.max_le.2 ⟨hn, Nat.le_trans (le_length_layout hlayout) htotal⟩

end SheetTemplate.Comment
