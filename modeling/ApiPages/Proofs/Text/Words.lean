/-
# The words of a text

What a text says is its words.  A blank parts a text into two whose words come one after the other
(`words_append_blank`), and everything here follows from that: blanks at the ends do not count
(`words_trim`), and how many blanks there are does not count either.

Texts are put together from pieces that are squeezed one by one, and a word may go on from one piece
to the next.  So it is not enough that two pieces have the same words: they have to have them
wherever they stand (`SameWords`).  A squeezed text is like that to the text itself
(`sameWords_squeeze`).

A text of several lines has its line ends for blanks.  When it is trimmed, its lines keep their
words as long as there are words in the first and in the last of them (`cut_trim_lined`).
-/
import ApiPages.Proofs.Text.Pieces
import Mathlib.Data.List.TakeWhile

namespace ApiPages.Text

variable {cs ds : List Char} {c d : Char}

/-! ## 1. Words and blanks -/

/-- **The words of two texts with a blank between them.** -/
theorem words_append_blank (hc : isBlank c = true) :
    words (cs ++ c :: ds) = words cs ++ words ds := by
  rw [words, cut_append_separator hc, List.filter_append]
  rfl

theorem words_cons_blank (hc : isBlank c = true) : words (c :: cs) = words cs :=
  show words ([] ++ c :: cs) = _ from words_append_blank hc

/-- A text of blanks has no words. -/
theorem words_of_blank (h : ∀ c ∈ cs, isBlank c = true) : words cs = [] := by
  induction cs with
  | nil => rfl
  | cons c cs ih =>
    rw [words_cons_blank (h c List.mem_cons_self)]
    exact ih fun d hd => h d (List.mem_cons_of_mem c hd)

theorem words_append_blanks (h : ∀ c ∈ ds, isBlank c = true) : words (cs ++ ds) = words cs := by
  cases ds with
  | nil => rw [List.append_nil]
  | cons d ds =>
    rw [words_append_blank (h d List.mem_cons_self),
      words_of_blank fun c hc => h c (List.mem_cons_of_mem d hc), List.append_nil]

/-- A text with words has a character that is no blank. -/
theorem exists_of_words (h : words cs ≠ []) : ∃ c ∈ cs, isBlank c = false := by
  by_contra hblank
  refine h (words_of_blank fun c hc => ?_)
  by_contra hc'
  exact hblank ⟨c, hc, by simpa using hc'⟩

/-! ## 2. Trimming -/

theorem words_dropWhile (cs : List Char) : words (cs.dropWhile isBlank) = words cs := by
  induction cs with
  | nil => rfl
  | cons c cs ih =>
    cases hc : isBlank c with
    | true => rw [List.dropWhile_cons_of_pos hc, ih, words_cons_blank hc]
    | false => rw [List.dropWhile_cons_of_neg (by simp [hc])]

/-- The blanks that are taken off the end. -/
theorem exists_trimEnd_append (cs : List Char) :
    ∃ blanks, cs = trimEnd cs ++ blanks ∧ ∀ c ∈ blanks, isBlank c = true := by
  refine ⟨(cs.reverse.takeWhile isBlank).reverse, ?_, fun c hc => ?_⟩
  · rw [trimEnd, ← List.reverse_append, List.takeWhile_append_dropWhile, List.reverse_reverse]
  · exact List.mem_takeWhile_imp (List.mem_reverse.mp hc)

theorem words_trimEnd (cs : List Char) : words (trimEnd cs) = words cs := by
  obtain ⟨blanks, heq, hblanks⟩ := exists_trimEnd_append cs
  calc
    words (trimEnd cs) = words (trimEnd cs ++ blanks) := (words_append_blanks hblanks).symm
    _ = words cs := by rw [← heq]

/-- **Trimming changes no words.** -/
theorem words_trim (cs : List Char) : words (trim cs) = words cs := by
  rw [trim, words_trimEnd, words_dropWhile]

/-- A text with a word in it is trimmed at its own end only. -/
theorem trimEnd_append (h : ∃ c ∈ ds, isBlank c = false) :
    trimEnd (cs ++ ds) = cs ++ trimEnd ds := by
  have hkept : ds.reverse.dropWhile isBlank ≠ [] := by
    rw [Ne, List.dropWhile_eq_nil_iff]
    obtain ⟨c, hc, hvisible⟩ := h
    exact fun hall => by simpa [hvisible] using hall c (List.mem_reverse.mpr hc)
  rw [trimEnd, trimEnd, List.reverse_append, List.dropWhile_append, if_neg (by simpa using hkept),
    List.reverse_append, List.reverse_reverse]

theorem dropWhile_isBlank_append (h : ∃ c ∈ cs, isBlank c = false) :
    (cs ++ ds).dropWhile isBlank = cs.dropWhile isBlank ++ ds := by
  have hkept : cs.dropWhile isBlank ≠ [] := by
    rw [Ne, List.dropWhile_eq_nil_iff]
    obtain ⟨c, hc, hvisible⟩ := h
    exact fun hall => by simpa [hvisible] using hall c hc
  rw [List.dropWhile_append, if_neg (by simpa using hkept)]

/-! ## 3. Texts with the same words wherever they stand -/

/-- **Two texts have the same words wherever they stand.** -/
def SameWords (cs ds : List Char) : Prop :=
  ∀ before behind, words (before ++ cs ++ behind) = words (before ++ ds ++ behind)

namespace SameWords

variable {es fs : List Char}

theorem refl (cs : List Char) : SameWords cs cs := fun _ _ => rfl

theorem trans (h : SameWords cs ds) (h' : SameWords ds es) : SameWords cs es :=
  fun before behind => (h before behind).trans (h' before behind)

theorem append (h : SameWords cs ds) (h' : SameWords es fs) :
    SameWords (cs ++ es) (ds ++ fs) := by
  intro before behind
  have hfirst := h before (es ++ behind)
  have hsecond := h' (before ++ ds) behind
  simp only [List.append_assoc] at hfirst hsecond ⊢
  exact hfirst.trans hsecond

theorem cons (c : Char) (h : SameWords cs ds) : SameWords (c :: cs) (c :: ds) :=
  (refl [c]).append h

theorem words_eq (h : SameWords cs ds) : words cs = words ds := by
  simpa using h [] []

/-- Any blank is as good as another. -/
theorem blank (hc : isBlank c = true) (hd : isBlank d = true) : SameWords (c :: cs) (d :: cs) := by
  intro before behind
  simp only [List.append_assoc, List.cons_append, words_append_blank hc, words_append_blank hd]

/-- A blank behind a blank does not count. -/
theorem blank_blank (hc : isBlank c = true) (hd : isBlank d = true) :
    SameWords (c :: cs) (c :: d :: cs) := by
  intro before behind
  simp only [List.append_assoc, List.cons_append, words_append_blank hc, words_cons_blank hd]

end SameWords

/-- A text squeezed at its beginning, and a text squeezed behind a space. -/
theorem sameWords_squeezeFrom (cs : List Char) :
    SameWords (squeezeFrom false cs) cs ∧ SameWords (' ' :: squeezeFrom true cs) (' ' :: cs) := by
  have hspace : isBlank ' ' = true := by decide
  induction cs with
  | nil => exact ⟨.refl _, .refl _⟩
  | cons c cs ih =>
    obtain ⟨hfalse, htrue⟩ := ih
    cases hc : isBlank c with
    | true =>
      constructor
      · simpa [squeezeFrom, hc] using htrue.trans (.blank hspace hc)
      · simpa [squeezeFrom, hc] using htrue.trans (.blank_blank hspace hc)
    | false =>
      constructor
      · simpa [squeezeFrom, hc] using hfalse.cons c
      · simpa [squeezeFrom, hc] using (hfalse.cons c).cons ' '

/-- **Squeezing changes no words.** -/
theorem sameWords_squeeze (cs : List Char) : SameWords (squeeze cs) cs :=
  (sameWords_squeezeFrom cs).1

/-- The only blank in a squeezed text is the space. -/
theorem eq_space_of_mem_squeezeFrom {afterBlank : Bool} (hc : c ∈ squeezeFrom afterBlank cs)
    (hblank : isBlank c = true) : c = ' ' := by
  induction cs generalizing afterBlank with
  | nil => simp [squeezeFrom] at hc
  | cons d cs ih =>
    rw [squeezeFrom] at hc
    split at hc
    · split at hc
      · exact ih hc
      · exact (List.mem_cons.mp hc).elim id ih
    · rename_i hd
      rcases List.mem_cons.mp hc with rfl | hc
      · exact absurd hblank hd
      · exact ih hc

/-! ## 4. Lines -/

/-- Lines as a text, with a line feed behind each. -/
def lined (lines : List (List Char)) : List Char := lines.flatMap (· ++ ['\n'])

theorem lined_cons (line : List Char) (lines : List (List Char)) :
    lined (line :: lines) = line ++ '\n' :: lined lines := by
  simp [lined]

/-- The words of lines are those of the first, then those of the next, and so on. -/
theorem words_lined (lines : List (List Char)) : words (lined lines) = lines.flatMap words := by
  induction lines with
  | nil => rfl
  | cons line lines ih =>
    rw [lined_cons, words_append_blank (by decide), ih, List.flatMap_cons]

section

variable {lines : List (List Char)} (hlines : ∀ line ∈ lines, '\n' ∉ line)
include hlines

/-- The lines of a text without the blanks at its end: if there is a word in the last one, they have
the same words. -/
theorem cut_trimEnd_lined (hlast : ∃ last ∈ lines.getLast?, ∃ c ∈ last, isBlank c = false) :
    (cut (· == '\n') (trimEnd (lined lines))).map words = lines.map words := by
  have hcut {line : List Char} (h : '\n' ∉ line) : cut (· == '\n') line = [line] :=
    cut_of_forall fun c hc => beq_false_of_ne fun heq => h (heq ▸ hc)
  induction lines with
  | nil => simp at hlast
  | cons line lines ih =>
    obtain ⟨hline, hrest⟩ := List.forall_mem_cons.mp hlines
    cases lines with
    | nil =>
      obtain ⟨last, hmem, hword⟩ := hlast
      obtain rfl : line = last := by simpa using hmem
      have hend : trimEnd (lined [line]) = trimEnd line := by
        simp [lined, trimEnd, show isBlank '\n' = true by decide]
      obtain ⟨blanks, heq, -⟩ := exists_trimEnd_append line
      have hkept : '\n' ∉ trimEnd line := fun h => hline (heq ▸ List.mem_append_left blanks h)
      rw [hend, hcut hkept]
      simp [words_trimEnd]
    | cons next lines =>
      have hbelow : ∃ c ∈ lined (next :: lines), isBlank c = false := by
        obtain ⟨last, hmem, c, hc, hvisible⟩ := hlast
        rw [List.getLast?_cons_cons] at hmem
        exact ⟨c, List.mem_flatMap.mpr ⟨last, List.mem_of_getLast? hmem, by simp [hc]⟩, hvisible⟩
      have hword : ∃ c ∈ '\n' :: lined (next :: lines), isBlank c = false := by
        obtain ⟨c, hc, hvisible⟩ := hbelow
        exact ⟨c, List.mem_cons_of_mem _ hc, hvisible⟩
      have htrim : trimEnd (lined (line :: next :: lines)) =
          line ++ '\n' :: trimEnd (lined (next :: lines)) := by
        rw [lined_cons, trimEnd_append hword]
        have hfeed : trimEnd (['\n'] ++ lined (next :: lines)) =
            ['\n'] ++ trimEnd (lined (next :: lines)) := trimEnd_append hbelow
        exact congrArg (line ++ ·) hfeed
      rw [htrim, cut_append_separator (by decide), hcut hline, List.map_append, ih hrest
        (by simpa [List.getLast?_cons_cons] using hlast)]
      rfl

/-- **The lines of a trimmed text have the same words**, if there are words in the first and in the
last one. -/
theorem cut_trim_lined (hfirst : ∃ first ∈ lines.head?, words first ≠ [])
    (hlast : ∃ last ∈ lines.getLast?, words last ≠ []) :
    (cut (· == '\n') (trim (lined lines))).map words = lines.map words := by
  cases lines with
  | nil => simp at hfirst
  | cons line lines =>
    obtain ⟨first, hmem, hfirst⟩ := hfirst
    obtain rfl : line = first := by simpa using hmem
    have hfront : (lined (line :: lines)).dropWhile isBlank =
        lined (line.dropWhile isBlank :: lines) := by
      rw [lined_cons, lined_cons, dropWhile_isBlank_append (exists_of_words hfirst)]
    have hkept : ∀ l ∈ line.dropWhile isBlank :: lines, '\n' ∉ l := by
      obtain ⟨hline, hrest⟩ := List.forall_mem_cons.mp hlines
      refine List.forall_mem_cons.mpr ⟨fun h => hline ?_, hrest⟩
      exact (List.dropWhile_suffix isBlank).subset h
    have hend : ∃ last ∈ (line.dropWhile isBlank :: lines).getLast?, ∃ c ∈ last,
        isBlank c = false := by
      obtain ⟨last, hmem, hlast⟩ := hlast
      cases lines with
      | nil =>
        obtain rfl : line = last := by simpa using hmem
        exact ⟨line.dropWhile isBlank, by simp, exists_of_words (by rwa [words_dropWhile])⟩
      | cons next lines =>
        rw [List.getLast?_cons_cons] at hmem ⊢
        exact ⟨last, hmem, exists_of_words hlast⟩
    rw [trim, hfront, cut_trimEnd_lined hkept hend, List.map_cons, List.map_cons, words_dropWhile]

end

end ApiPages.Text
