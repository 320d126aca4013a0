/-
# Squeezed texts

Squeezing brings a text into a form of its own: the only blank is the space, and no two blanks stand
next to each other (`IsSqueezed`).  The texts of that form are those that squeezing leaves alone
(`squeeze_eq_self_iff`), so it makes no difference to squeeze a text twice.

What is not blank is kept.  The visible characters are the same ones in the same order
(`filter_squeeze`), and they form the same words, wherever the text stands (`sameWords_squeeze`): a
space is kept at the ends too, and parts the words there from what stands around the text.  Nothing
else is kept: texts that have the same words wherever they stand are squeezed to the same text
(`squeeze_eq_squeeze_iff`).  Between two visible characters there is nothing to trim, so this
follows from what is known of trimmed texts.

When the spaces at the ends are taken off, single spaces between the words are all that is left.
That is the line of an element.  Two elements have the same line exactly when they have the same
words (`normalized_eq_iff`), so where a node ends and the next one begins is not to be seen in it.
-/
import ApiPages.Proofs.Markup.Flattening
import ApiPages.Proofs.Text.Normalized
import Mathlib.Data.List.Chain

namespace ApiPages.Text

variable {cs ds : List Char} {c : Char} {s t : String}

/-! ## 1. The form of a squeezed text -/

/-- **A squeezed text**: its only blank is the space, and of two neighbours one is no blank. -/
structure IsSqueezed (cs : List Char) : Prop where
  eq_space : ∀ c ∈ cs, isBlank c = true → c = ' '
  apart : cs.IsChain fun c d => ¬ (isBlank c = true ∧ isBlank d = true)

/-- Behind a blank, a squeezed text goes on with a character that is none. -/
theorem isBlank_head_squeezeFrom : ∀ c ∈ (squeezeFrom true cs).head?, isBlank c = false := by
  induction cs with
  | nil => simp [squeezeFrom]
  | cons d cs ih =>
    rw [squeezeFrom]
    split
    · exact ih
    · rename_i hd
      simpa using hd

/-- Squeezing leaves no blanks next to each other, whether it begins behind a blank or not. -/
theorem isChain_squeezeFrom (afterBlank : Bool) (cs : List Char) :
    (squeezeFrom afterBlank cs).IsChain fun c d => ¬ (isBlank c = true ∧ isBlank d = true) := by
  induction cs generalizing afterBlank with
  | nil => exact .nil
  | cons c cs ih =>
    rw [squeezeFrom]
    split
    · split
      · exact ih true
      · refine List.isChain_cons.mpr ⟨fun d hd => ?_, ih true⟩
        simp [isBlank_head_squeezeFrom d hd]
    · rename_i hc
      exact List.isChain_cons.mpr ⟨fun d _ => by simp [hc], ih false⟩

theorem isSqueezed_squeeze (cs : List Char) : IsSqueezed (squeeze cs) where
  eq_space _ hc hblank := eq_space_of_mem_squeezeFrom hc hblank
  apart := isChain_squeezeFrom false cs

/-- A squeezed text is left alone, behind a blank too if it does not begin with one. -/
theorem IsSqueezed.squeezeFrom_eq (h : IsSqueezed cs) {afterBlank : Bool}
    (hfirst : afterBlank = true → ∀ c ∈ cs.head?, isBlank c = false) :
    squeezeFrom afterBlank cs = cs := by
  induction cs generalizing afterBlank with
  | nil => rfl
  | cons c cs ih =>
    obtain ⟨hnext, hchain⟩ := List.isChain_cons.mp h.apart
    have hrest : IsSqueezed cs := ⟨fun d hd => h.eq_space d (List.mem_cons_of_mem c hd), hchain⟩
    rw [squeezeFrom]
    split
    · rename_i hc
      split
      · rename_i hafter
        simp [hfirst hafter c rfl] at hc
      · have hvisible : ∀ d ∈ cs.head?, isBlank d = false := by
          intro d hd
          simpa [hc] using hnext d hd
        rw [ih hrest fun _ => hvisible, h.eq_space c List.mem_cons_self hc]
    · rw [ih hrest (by simp)]

/-- **The squeezed texts are those that squeezing leaves alone.** -/
theorem squeeze_eq_self_iff : squeeze cs = cs ↔ IsSqueezed cs :=
  ⟨fun h => h ▸ isSqueezed_squeeze cs, fun h => h.squeezeFrom_eq (by simp)⟩

theorem squeeze_squeeze (cs : List Char) : squeeze (squeeze cs) = squeeze cs :=
  squeeze_eq_self_iff.mpr (isSqueezed_squeeze cs)

/-! ## 2. What is kept -/

theorem filter_squeezeFrom (afterBlank : Bool) (cs : List Char) :
    (squeezeFrom afterBlank cs).filter (!isBlank ·) = cs.filter (!isBlank ·) := by
  have hspace : isBlank ' ' = true := by decide
  induction cs generalizing afterBlank with
  | nil => rfl
  | cons c cs ih =>
    cases hc : isBlank c with
    | true => cases afterBlank <;> simp [squeezeFrom, hc, hspace, ih]
    | false => simp [squeezeFrom, hc, ih]

/-- **The characters that are not blank are kept**, in their order. -/
theorem filter_squeeze (cs : List Char) :
    (squeeze cs).filter (!isBlank ·) = cs.filter (!isBlank ·) :=
  filter_squeezeFrom false cs

/-! ## 3. Texts that are squeezed to the same text -/

theorem squeezeFrom_append_visible (hc : isBlank c = false) (afterBlank : Bool) (cs : List Char) :
    squeezeFrom afterBlank (cs ++ [c]) = squeezeFrom afterBlank cs ++ [c] := by
  induction cs generalizing afterBlank with
  | nil => simp [squeezeFrom, hc]
  | cons d cs ih =>
    cases hd : isBlank d with
    | true => cases afterBlank <;> simp [squeezeFrom, hd, ih]
    | false => simp [squeezeFrom, hd, ih]

/-- A squeezed text between two visible characters is words with single spaces between them. -/
theorem framed_squeeze (hc : isBlank c = false) (cs : List Char) :
    [c] ++ squeeze cs ++ [c] = [' '].intercalate (words ([c] ++ cs ++ [c])) := by
  have hsqueeze : squeeze ([c] ++ cs ++ [c]) = [c] ++ squeeze cs ++ [c] := by
    simp [squeeze, squeezeFrom, hc, squeezeFrom_append_visible hc]
  have hlast : ([c] ++ squeeze cs ++ [c]).getLast?.any isBlank = false := by
    rw [List.getLast?_concat]
    exact hc
  have htrim : trim ([] ++ ([c] ++ squeeze cs ++ [c]) ++ []) = [c] ++ squeeze cs ++ [c] :=
    trim_padded (by simp) (by simp) (by simp) (by simp [hc]) hlast
  rw [← trim_squeeze, hsqueeze]
  simpa using htrim.symm

/-- **Texts are squeezed to the same text exactly when they have the same words wherever they
stand.** -/
theorem squeeze_eq_squeeze_iff : squeeze cs = squeeze ds ↔ SameWords cs ds := by
  constructor
  · intro h before behind
    rw [← sameWords_squeeze cs before behind, h, sameWords_squeeze ds before behind]
  · intro h
    -- any letter will do: nothing is trimmed off a text that stands between two of them
    have hletter : isBlank 'x' = false := by decide
    have hframed := framed_squeeze hletter cs
    rw [h ['x'] ['x'], ← framed_squeeze hletter ds] at hframed
    exact List.append_cancel_left (List.append_cancel_right hframed)

/-! ## 4. Texts in one line -/

theorem wordsOf_squeezed (s : String) : wordsOf (squeezed s) = wordsOf s := by
  rw [wordsOf, squeezed, String.toList_ofList, (sameWords_squeeze _).words_eq, wordsOf]

theorem wordsOf_normalized (s : String) : wordsOf (normalized s) = wordsOf s := by
  rw [wordsOf, normalized, String.toList_ofList, words_trim, (sameWords_squeeze _).words_eq,
    wordsOf]

/-- **Texts are the same in one line exactly when they have the same words.** -/
theorem normalized_eq_iff : normalized s = normalized t ↔ wordsOf s = wordsOf t := by
  constructor
  · intro h
    rw [← wordsOf_normalized s, h, wordsOf_normalized]
  · intro h
    rw [normalized_eq, normalized_eq, h]

/-- **To squeeze a text is to part its words by single spaces.**  The line of an element is its
words with single spaces between them, whatever text nodes they are divided into. -/
theorem squeezing_keeps_words (s : String) :
    IsSqueezed (squeezed s).toList ∧
    (squeezed s).toList.filter (!isBlank ·) = s.toList.filter (!isBlank ·) ∧
    SameWords (squeezed s).toList s.toList ∧ wordsOf (squeezed s) = wordsOf s ∧
    (∀ t, squeezed s = squeezed t ↔ SameWords s.toList t.toList) ∧
    squeezed (squeezed s) = squeezed s ∧
    trimmed (squeezed s) = " ".intercalate (wordsOf s) ∧
    ∀ e : Element, e.line = " ".intercalate (wordsOf (String.join (Node.textsOf e.children))) ∧
      ∀ e' : Element, e.line = e'.line ↔ wordsOf e.text = wordsOf e'.text := by
  have hlist : (squeezed s).toList = squeeze s.toList := String.toList_ofList
  refine ⟨?_, ?_, ?_, wordsOf_squeezed s, fun t => ?_, ?_, ?_,
    fun e => ⟨?_, fun e' => normalized_eq_iff⟩⟩
  · rw [hlist]
    exact isSqueezed_squeeze s.toList
  · rw [hlist]
    exact filter_squeeze s.toList
  · rw [hlist]
    exact sameWords_squeeze s.toList
  · rw [squeezed, squeezed, String.ofList_inj]
    exact squeeze_eq_squeeze_iff
  · rw [squeezed, hlist, squeeze_squeeze, squeezed]
  · rw [← normalized_eq, trimmed, hlist, normalized]
  · rw [Node.join_textsOf]
    exact e.line_eq

/-- Blanks of several kinds, and one at each end. -/
example : squeezed "\na \t b\u00a0\u2003c " = " a b c " := by decide

end ApiPages.Text
