/-
# Texts in one line

A text in one line is squeezed and trimmed.  What is left of it are its words, with a single space
between one and the next (`normalized_eq`).  So two texts with the same words are the same in one
line, however their blanks are distributed.

A word may be cut by the end of what has been read, so the induction goes over the text with the
beginning of a word in front of it (`trimEnd_squeezeFrom`).
-/
import ApiPages.Markup.Node
import ApiPages.Proofs.Text.Words

namespace ApiPages

namespace Text

variable {cs ds word : List Char}

/-! ## 1. Ends -/

/-- A text behind which there are only blanks is trimmed further in. -/
theorem trimEnd_append_of_blank (h : trimEnd ds = []) : trimEnd (cs ++ ds) = trimEnd cs := by
  have hblank : ∀ c ∈ ds.reverse, isBlank c = true := by
    intro c hc
    have hnil : ds.reverse.dropWhile isBlank = [] := List.reverse_eq_nil_iff.mp h
    exact List.dropWhile_eq_nil_iff.mp hnil c hc
  rw [trimEnd, List.reverse_append, List.dropWhile_append_of_pos hblank]
  rfl

theorem trimEnd_of_visible (hne : word ≠ []) (h : ∀ c ∈ word, isBlank c = false) :
    trimEnd word = word := by
  have hlast : isBlank (word.getLast hne) = false := h _ (List.getLast_mem hne)
  rw [← List.dropLast_concat_getLast hne]
  simp [trimEnd, hlast]

/-- A run of characters that are no blanks is a word. -/
theorem words_of_visible (hne : word ≠ []) (h : ∀ c ∈ word, isBlank c = false) :
    words word = [word] := by
  rw [words, cut_of_forall h]
  simp [hne]

/-- Behind a blank, squeezing drops the blanks at the beginning. -/
theorem dropWhile_squeezeFrom (afterBlank : Bool) (cs : List Char) :
    (squeezeFrom afterBlank cs).dropWhile isBlank = squeezeFrom true cs := by
  have hspace : isBlank ' ' = true := by decide
  induction cs generalizing afterBlank with
  | nil => rfl
  | cons c cs ih =>
    cases hc : isBlank c with
    | true => cases afterBlank <;> simp [squeezeFrom, hc, hspace, ih]
    | false => simp [squeezeFrom, hc]

/-! ## 2. Words with single spaces between them -/

/-- **A squeezed text without the space at its end** is its words with single spaces between them:
that of a text behind a blank, and that of a text behind the beginning of a word. -/
theorem trimEnd_squeezeFrom (cs : List Char) :
    trimEnd (squeezeFrom true cs) = [' '].intercalate (words cs) ∧
      ∀ word : List Char, word ≠ [] → (∀ c ∈ word, isBlank c = false) →
        trimEnd (word ++ squeezeFrom false cs) = [' '].intercalate (words (word ++ cs)) := by
  induction cs with
  | nil =>
    refine ⟨rfl, fun word hne hword => ?_⟩
    simp [squeezeFrom, words_of_visible hne hword, trimEnd_of_visible hne hword]
  | cons c cs ih =>
    obtain ⟨hblank, hpending⟩ := ih
    cases hc : isBlank c with
    | true =>
      refine ⟨by simpa [squeezeFrom, hc, words_cons_blank hc] using hblank, ?_⟩
      intro word hne hword
      rw [words_append_blank hc, words_of_visible hne hword, squeezeFrom, if_pos hc,
        if_neg (by simp)]
      cases hwords : words cs with
      | nil =>
        -- nothing but blanks is left, so the space is at the end of the text
        have hrest : trimEnd (squeezeFrom true cs) = [] := by rw [hblank, hwords]; rfl
        have hspace : trimEnd ([' '] ++ squeezeFrom true cs) = [] := by
          rw [trimEnd_append_of_blank hrest]
          decide
        change trimEnd (word ++ ([' '] ++ squeezeFrom true cs)) = _
        rw [trimEnd_append_of_blank hspace, trimEnd_of_visible hne hword]
        simp
      | cons next rest =>
        have hsame : words (squeezeFrom true cs) = words cs := by
          simpa [words_cons_blank (show isBlank ' ' = true by decide)] using
            (sameWords_squeezeFrom cs).2.words_eq
        have hvisible : ∃ d ∈ squeezeFrom true cs, isBlank d = false := by
          refine exists_of_words ?_
          rw [hsame, hwords]
          exact List.cons_ne_nil next rest
        have hend : trimEnd (word ++ [' '] ++ squeezeFrom true cs) =
            word ++ [' '] ++ trimEnd (squeezeFrom true cs) := trimEnd_append hvisible
        rw [List.append_assoc] at hend
        rw [← List.singleton_append, hend, hblank, hwords]
        simp
    | false =>
      constructor
      · simpa [squeezeFrom, hc] using hpending [c] (by simp) (by simpa using hc)
      · intro word hne hword
        have hlonger : ∀ d ∈ word ++ [c], isBlank d = false := by
          intro d hd
          rcases List.mem_append.mp hd with hd | hd
          · exact hword d hd
          · exact List.mem_singleton.mp hd ▸ hc
        simpa [squeezeFrom, hc] using hpending (word ++ [c]) (by simp) hlonger

/-- **A squeezed and trimmed text is its words with single spaces between them.** -/
theorem trim_squeeze (cs : List Char) : trim (squeeze cs) = [' '].intercalate (words cs) := by
  rw [trim, squeeze, dropWhile_squeezeFrom]
  exact (trimEnd_squeezeFrom cs).1

theorem normalized_eq (s : String) : normalized s = " ".intercalate (wordsOf s) := by
  rw [← String.toList_inj, String.toList_intercalate, normalized, String.toList_ofList,
    trim_squeeze, wordsOf]
  simp [Function.comp_def]

end Text

/-- **The line of an element is its words with single spaces between them.** -/
theorem Element.line_eq (e : Element) : e.line = " ".intercalate (Text.wordsOf e.text) :=
  Text.normalized_eq e.text

end ApiPages
