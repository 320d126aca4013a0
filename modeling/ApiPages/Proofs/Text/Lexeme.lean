/-
# Reading back what is written

A text falls into lexemes piece by piece, as long as no word runs into the next piece: `Lexes
mark? cs ls` says that the characters `cs` are read as the lexemes `ls` in front of anything that
ends a word.  Words, marks and blanks are such pieces, and pieces are put together by
`Lexes.append` when the second one ends a word.

A text that is read as a whole is described without the reading: `Lexed mark? cs ls` says how
characters fall into lexemes, and holds of one sequence of lexemes only (`lexed_iff`).
-/
import ApiPages.Text.Lexeme
import Mathlib.Data.List.Basic

namespace ApiPages.Text

variable {μ : Type} {mark? : Char → Option μ}

/-- **A plain word**: it has characters, none of which is a blank or a mark. -/
structure IsPlainWord (mark? : Char → Option μ) (w : List Char) : Prop where
  nonempty : w ≠ []
  plain : ∀ c ∈ w, mark? c = none ∧ isBlank c = false

instance (mark? : Char → Option μ) (w : List Char) : Decidable (IsPlainWord mark? w) :=
  decidable_of_iff ((!w.isEmpty && w.all fun c => (mark? c).isNone && !isBlank c) = true) <| by
    simp only [Bool.and_eq_true, Bool.not_eq_true', List.isEmpty_eq_false_iff, List.all_eq_true,
      Option.isNone_iff_eq_none]
    exact ⟨fun h => ⟨h.1, h.2⟩, fun h => ⟨h.1, h.2⟩⟩

/-- A text that ends the word before it: it is empty, or begins with a mark or a blank. -/
def EndsWord (mark? : Char → Option μ) (cs : List Char) : Prop :=
  ∀ c ∈ cs.head?, (mark? c).isSome = true ∨ isBlank c = true

theorem EndsWord.nil : EndsWord mark? [] := by simp [EndsWord]

theorem EndsWord.of_isBlank {cs : List Char} (h : ∀ c ∈ cs, isBlank c = true) :
    EndsWord mark? cs :=
  fun c hc => Or.inr (h c (List.mem_of_mem_head? hc))

theorem EndsWord.append {cs ds : List Char} (h : EndsWord mark? cs) (h' : EndsWord mark? ds) :
    EndsWord mark? (cs ++ ds) := by
  cases cs with
  | nil => exact h'
  | cons c cs => exact h

/-- A text that begins with such a text ends the word as well. -/
theorem EndsWord.append_of_ne_nil {cs : List Char} (h : EndsWord mark? cs) (hne : cs ≠ [])
    (ds : List Char) : EndsWord mark? (cs ++ ds) := by
  intro c hc
  rw [List.head?_append_of_ne_nil _ hne] at hc
  exact h c hc

/-- What has been read of a word is a word where the word ends. -/
theorem lexemesFrom_of_endsWord (pending : List Char) {rest : List Char}
    (h : EndsWord mark? rest) :
    lexemesFrom mark? pending rest = pendingWord pending ++ lexemesFrom mark? [] rest := by
  cases rest with
  | nil => simp [lexemesFrom, pendingWord]
  | cons c rest =>
    have hc := h c rfl
    cases hmark : mark? c with
    | some m => simp [lexemesFrom, hmark, pendingWord]
    | none =>
      have hblank : isBlank c = true := by simpa [hmark] using hc
      simp [lexemesFrom, hmark, hblank, pendingWord]

/-- The characters of a plain word are gathered. -/
theorem lexemesFrom_append {w : List Char} (hw : ∀ c ∈ w, mark? c = none ∧ isBlank c = false)
    (pending rest : List Char) :
    lexemesFrom mark? pending (w ++ rest) = lexemesFrom mark? (w.reverse ++ pending) rest := by
  induction w generalizing pending with
  | nil => rfl
  | cons c w ih =>
    obtain ⟨hmark, hblank⟩ := hw c (by simp)
    simp [lexemesFrom, hmark, hblank, ih fun d hd => hw d (by simp [hd])]

/-- Blanks in front of a text do not count. -/
theorem lexemesFrom_blanks (hmark : ∀ c, isBlank c = true → mark? c = none) {cs : List Char}
    (hcs : ∀ c ∈ cs, isBlank c = true) (ds : List Char) :
    lexemesFrom mark? [] (cs ++ ds) = lexemesFrom mark? [] ds := by
  induction cs with
  | nil => rfl
  | cons c cs ih =>
    have hc := hcs c List.mem_cons_self
    simp [lexemesFrom, hmark c hc, hc, pendingWord,
      ih fun d hd => hcs d (List.mem_cons_of_mem c hd)]

/-- **The characters are read as the lexemes**, in front of anything that ends a word. -/
def Lexes (mark? : Char → Option μ) (cs : List Char) (ls : List (Lexeme μ)) : Prop :=
  ∀ rest, EndsWord mark? rest →
    lexemesFrom mark? [] (cs ++ rest) = ls ++ lexemesFrom mark? [] rest

namespace Lexes

variable {cs ds : List Char} {ls ms : List (Lexeme μ)} {c : Char}

theorem nil : Lexes mark? [] [] := fun _ _ => rfl

theorem word {w : List Char} (hw : IsPlainWord mark? w) :
    Lexes mark? w [.word (String.ofList w)] := by
  intro rest hrest
  rw [lexemesFrom_append hw.plain, List.append_nil, lexemesFrom_of_endsWord _ hrest]
  cases hreverse : w.reverse with
  | nil => exact absurd (List.reverse_eq_nil_iff.mp hreverse) hw.nonempty
  | cons d w' =>
    rw [show w = (d :: w').reverse by rw [← hreverse, List.reverse_reverse]]
    rfl

/-- Behind a mark anything may stand. -/
theorem cons_mark {m : μ} (hc : mark? c = some m) (h : Lexes mark? cs ls) :
    Lexes mark? (c :: cs) (.mark m :: ls) := by
  intro rest hrest
  simp [lexemesFrom, hc, pendingWord, h rest hrest]

theorem cons_blank (hc : mark? c = none) (hblank : isBlank c = true) (h : Lexes mark? cs ls) :
    Lexes mark? (c :: cs) ls := by
  intro rest hrest
  simp [lexemesFrom, hc, hblank, pendingWord, h rest hrest]

/-- **Two pieces**, of which the second does not go on with a word of the first. -/
theorem append (h : Lexes mark? cs ls) (h' : Lexes mark? ds ms) (hends : EndsWord mark? ds) :
    Lexes mark? (cs ++ ds) (ls ++ ms) := by
  intro rest hrest
  rw [List.append_assoc, h _ (hends.append hrest), h' rest hrest, List.append_assoc]

/-- **Pieces with a separator between them**: it ends the word before it, and anything may stand
behind it. -/
theorem intercalate {sep : List Char} {sepLexemes : List (Lexeme μ)}
    (hends : ∀ cs, EndsWord mark? (sep ++ cs))
    (hsep : ∀ cs ls, Lexes mark? cs ls → Lexes mark? (sep ++ cs) (sepLexemes ++ ls))
    {α : Type} {f : α → List Char} {g : α → List (Lexeme μ)} {as : List α}
    (h : ∀ a ∈ as, Lexes mark? (f a) (g a)) :
    Lexes mark? (sep.intercalate (as.map f)) (sepLexemes.intercalate (as.map g)) := by
  induction as with
  | nil => exact nil
  | cons a as ih =>
    have ha := h a (by simp)
    have hrest := ih fun b hb => h b (by simp [hb])
    cases as with
    | nil => simpa using ha
    | cons b as => simpa using ha.append (hsep _ _ hrest) (hends _)

end Lexes

/-- **A text behind which no word goes on**: it is empty, or ends with a mark or a blank. -/
def IsClosed (mark? : Char → Option μ) (cs : List Char) : Prop :=
  ∀ c ∈ cs.getLast?, (mark? c).isSome = true ∨ isBlank c = true

theorem lexemesFrom_append_of_closed {cs : List Char} (hclosed : IsClosed mark? cs)
    (pending ds : List Char) (hpending : cs = [] → pending = []) :
    lexemesFrom mark? pending (cs ++ ds) =
      lexemesFrom mark? pending cs ++ lexemesFrom mark? [] ds := by
  induction cs generalizing pending with
  | nil => simp [hpending rfl, lexemesFrom, pendingWord]
  | cons c cs ih =>
    have hrest : IsClosed mark? cs := by
      cases cs with
      | nil => simp [IsClosed]
      | cons d cs => simpa [IsClosed, List.getLast?_cons_cons] using hclosed
    have hlast : cs = [] → (mark? c).isSome = true ∨ isBlank c = true := by
      rintro rfl
      exact hclosed c rfl
    cases hmark : mark? c with
    | some m => simp [lexemesFrom, hmark, ih hrest [] fun _ => rfl]
    | none =>
      by_cases hblank : isBlank c = true
      · simp [lexemesFrom, hmark, hblank, ih hrest [] fun _ => rfl]
      · have hne : cs ≠ [] := fun h => (hlast h).elim (by simp [hmark]) hblank
        simp [lexemesFrom, hmark, hblank, ih hrest (c :: pending) fun h => absurd h hne]

theorem lexemes_of_lexes {s : String} {ls : List (Lexeme μ)} (h : Lexes mark? s.toList ls) :
    lexemes mark? s = ls := by
  simpa [lexemes, lexemesFrom, pendingWord] using h [] .nil

/-- **Texts between which no word goes on**: the first one is closed, or the second one ends the
word before it. -/
def Parted (mark? : Char → Option μ) (cs ds : List Char) : Prop :=
  IsClosed mark? cs ∨ EndsWord mark? ds

theorem lexemesFrom_append_of_endsWord (pending cs : List Char) {ds : List Char}
    (h : EndsWord mark? ds) :
    lexemesFrom mark? pending (cs ++ ds) =
      lexemesFrom mark? pending cs ++ lexemesFrom mark? [] ds := by
  induction cs generalizing pending with
  | nil => exact lexemesFrom_of_endsWord pending h
  | cons c cs ih =>
    cases hmark : mark? c with
    | some m => simp [lexemesFrom, hmark, ih]
    | none => by_cases hblank : isBlank c = true <;> simp [lexemesFrom, hmark, hblank, ih]

/-- **Texts are read one by one** if no word goes on from the first to the second. -/
theorem lexemes_append_of_parted {s t : String} (h : Parted mark? s.toList t.toList) :
    lexemes mark? (s ++ t) = lexemes mark? s ++ lexemes mark? t := by
  simp only [lexemes, String.toList_append]
  rcases h with hclosed | hends
  · exact lexemesFrom_append_of_closed hclosed [] t.toList fun _ => rfl
  · exact lexemesFrom_append_of_endsWord [] s.toList hends

/-! ## How a text falls into lexemes -/

/-- **The characters fall into the lexemes**: a blank stands between them, a mark is one by itself,
and a word is a run of plain characters that goes on until something ends it. -/
inductive Lexed (mark? : Char → Option μ) : List Char → List (Lexeme μ) → Prop
  | nil : Lexed mark? [] []
  | blank {c : Char} {cs : List Char} {ls : List (Lexeme μ)} (hmark : mark? c = none)
      (hblank : isBlank c = true) (h : Lexed mark? cs ls) : Lexed mark? (c :: cs) ls
  | mark {c : Char} {m : μ} {cs : List Char} {ls : List (Lexeme μ)} (hmark : mark? c = some m)
      (h : Lexed mark? cs ls) : Lexed mark? (c :: cs) (.mark m :: ls)
  | word {w cs : List Char} {ls : List (Lexeme μ)} (hw : IsPlainWord mark? w)
      (hends : EndsWord mark? cs) (h : Lexed mark? cs ls) :
      Lexed mark? (w ++ cs) (.word (String.ofList w) :: ls)

/-- What has been read of a word stands in front of what ends it. -/
theorem Lexed.pending {pending cs : List Char} {ls : List (Lexeme μ)}
    (hplain : ∀ c ∈ pending, mark? c = none ∧ isBlank c = false) (hends : EndsWord mark? cs)
    (h : Lexed mark? cs ls) : Lexed mark? (pending.reverse ++ cs) (pendingWord pending ++ ls) := by
  cases pending with
  | nil => exact h
  | cons c pending =>
    exact .word ⟨by simp, fun d hd => hplain d (List.mem_reverse.mp hd)⟩ hends h

theorem lexed_lexemesFrom {pending : List Char}
    (hplain : ∀ c ∈ pending, mark? c = none ∧ isBlank c = false) (cs : List Char) :
    Lexed mark? (pending.reverse ++ cs) (lexemesFrom mark? pending cs) := by
  induction cs generalizing pending with
  | nil => simpa [lexemesFrom] using Lexed.nil.pending hplain .nil
  | cons c cs ih =>
    have hrest : Lexed mark? cs (lexemesFrom mark? [] cs) := by simpa using @ih [] (by simp)
    cases hmark : mark? c with
    | some m =>
      have hends : EndsWord mark? (c :: cs) := by simp [EndsWord, hmark]
      simpa [lexemesFrom, hmark] using (hrest.mark hmark).pending hplain hends
    | none =>
      cases hblank : isBlank c with
      | true =>
        have hends : EndsWord mark? (c :: cs) := by simp [EndsWord, hblank]
        simpa [lexemesFrom, hmark, hblank] using (hrest.blank hmark hblank).pending hplain hends
      | false =>
        have hmore : ∀ d ∈ c :: pending, mark? d = none ∧ isBlank d = false := by
          simpa [hmark, hblank] using hplain
        simpa [lexemesFrom, hmark, hblank] using ih hmore

/-- **A text falls into the lexemes that are read of it**, and into no others. -/
theorem lexed_iff {cs : List Char} {ls : List (Lexeme μ)} :
    Lexed mark? cs ls ↔ lexemesFrom mark? [] cs = ls := by
  constructor
  · intro h
    induction h with
    | nil => rfl
    | blank hmark hblank _ ih => simp [lexemesFrom, hmark, hblank, pendingWord, ih]
    | mark hmark _ ih => simp [lexemesFrom, hmark, pendingWord, ih]
    | word hw hends _ ih => rw [Lexes.word hw _ hends, ih]; rfl
  · rintro rfl
    exact lexed_lexemesFrom (List.forall_mem_nil _) cs

end ApiPages.Text
