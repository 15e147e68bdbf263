import SheetTemplate.Text.Basic

/-!
# Words of longer texts

What follows a text can lengthen its last word and add others, but it takes nothing away: every word is the beginning of
a word of the longer text. A text is cut into lines at characters that are blank, so its words are those of its lines.
-/

namespace SheetTemplate.Text

variable {separates : Char → Bool}

/-- The last piece goes on into what follows, and those before it are left alone. -/
private theorem exists_cut_append (separates : Char → Bool) (xs ys : List Char) :
    (∃ more, (cut separates (xs ++ ys)).1 = (cut separates xs).1 ++ more) ∧
    ∀ piece ∈ (cut separates xs).2, ∃ more, piece ++ more ∈ (cut separates (xs ++ ys)).2 := by
  induction xs with
  | nil => exact ⟨⟨_, rfl⟩, nofun⟩
  | cons c cs ih =>
    obtain ⟨⟨more, hfirst⟩, hothers⟩ := ih
    cases h : separates c with
    | true =>
      simp only [List.cons_append, cut, h, if_true]
      refine ⟨⟨[], rfl⟩, List.forall_mem_cons.2 ⟨⟨more, ?_⟩, fun piece hpiece => ?_⟩⟩
      · exact hfirst ▸ List.mem_cons_self
      · obtain ⟨more, hmore⟩ := hothers piece hpiece
        exact ⟨more, List.mem_cons_of_mem _ hmore⟩
    | false =>
      simp only [List.cons_append, cut, h, Bool.false_eq_true, if_false]
      exact ⟨⟨more, congrArg (c :: ·) hfirst⟩, hothers⟩

theorem exists_mem_pieces_append {xs piece : List Char} (h : piece ∈ pieces separates xs) (ys : List Char) :
    ∃ more, piece ++ more ∈ pieces separates (xs ++ ys) := by
  obtain ⟨⟨more, hfirst⟩, hothers⟩ := exists_cut_append separates xs ys
  rcases List.mem_cons.1 h with rfl | hmem
  · exact ⟨more, hfirst ▸ List.mem_cons_self⟩
  · obtain ⟨more, hmore⟩ := hothers piece hmem
    exact ⟨more, List.mem_cons_of_mem _ hmore⟩

theorem mem_words_iff {s word : String} : word ∈ words s ↔ word.toList ∈ pieces isBlank s.toList ∧ word ≠ "" := by
  rw [words, List.mem_map]
  constructor
  · rintro ⟨piece, hpiece, rfl⟩
    obtain ⟨hmem, hne⟩ := List.mem_filter.1 hpiece
    rw [String.toList_ofList]
    refine ⟨hmem, fun hempty => ?_⟩
    rw [String.ofList_eq_empty_iff] at hempty
    simp [hempty] at hne
  · rintro ⟨hmem, hne⟩
    refine ⟨word.toList, List.mem_filter.2 ⟨hmem, ?_⟩, String.ofList_toList⟩
    simpa using hne

theorem exists_mem_words_append {s word : String} (h : word ∈ words s) (t : String) :
    ∃ more, word ++ more ∈ words (s ++ t) := by
  obtain ⟨hmem, hne⟩ := mem_words_iff.1 h
  obtain ⟨more, hmore⟩ := exists_mem_pieces_append hmem t.toList
  refine ⟨String.ofList more, mem_words_iff.2 ⟨?_, ?_⟩⟩
  · rwa [String.toList_append, String.toList_append, String.toList_ofList]
  · exact fun hempty => hne (String.append_eq_empty_iff.1 hempty).1

/-! ### Lines -/

theorem cut_replicate {separates : Char → Bool} {c : Char} (h : separates c = true) (n : Nat) :
    cut separates (List.replicate n c) = ([], List.replicate n []) := by
  induction n with
  | zero => rfl
  | succ n ih => simp [List.replicate_succ, cut, ih, h]

theorem lines_replicate (n : Nat) : lines (String.ofList (List.replicate n '\n')) = List.replicate n "" := by
  have hparts : pieces (· = '\n') (List.replicate n '\n') = List.replicate (n + 1) [] := by
    rw [pieces, cut_replicate rfl, List.replicate_succ]
  rw [lines, String.toList_ofList, hparts, List.getLast?_replicate, List.dropLast_replicate]
  simp [withoutReturn]

end SheetTemplate.Text
