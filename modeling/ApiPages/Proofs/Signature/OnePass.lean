/-
# A signature is its tokens

A signature can also be read in a single pass over its characters (`readInOnePass`): they are
gathered until a mark, a blank or the end of the text ends the word, and each word and each mark
is acted upon before the next character is looked at, so that a failure leaves the rest of the text
unseen.  That is no other reading: from every state it takes the steps of the tokens, up to the same
failure (`scan_eq_run`).

What the tokens are is said without any reading (`Tokenized`).  Hence nothing else of a signature
counts.  How its text is divided into runs, and how many blanks stand where no word goes on, may
change (`Reflow`), and the outcome does not (`determined_by_tokens`).
-/
import ApiPages.Proofs.Signature.Step
import ApiPages.Proofs.Text.Lexeme
import ApiPages.Proofs.Text.Pieces
import Mathlib.Logic.Relation

namespace ApiPages.Signature

open Text (Lexed Parted isBlank isBlankText)

/-! ## 1. Reading in one pass -/

namespace Reader

/-- The end of the word whose characters have been gathered, the last one first; nothing ends if
there are none. -/
def endWord (r : Reader) : List Char → Except Failure Reader
  | [] => .ok r
  | gathered => r.word (String.ofList gathered.reverse)

/-- Reads the characters of a text, of which `gathered` are those of a word that has begun. -/
def scanFrom (r : Reader) (gathered : List Char) : List Char → Except Failure Reader
  | [] => r.endWord gathered
  | c :: rest =>
    match Mark.ofChar? c with
    | some m => do
      let r ← r.endWord gathered
      let r ← r.mark m
      r.scanFrom [] rest
    | none =>
      if isBlank c then do
        let r ← r.endWord gathered
        r.scanFrom [] rest
      else r.scanFrom (c :: gathered) rest

/-- Reads an item of a flattened signature; a word does not go on behind its text. -/
def scan (r : Reader) : Fragment → Except Failure Reader
  | .text content => r.scanFrom [] content.toList
  | .anchor e => r.anchor e
  | .lineBreak => r.lineBreak

end Reader

/-- **The signature that a flattened element spells, read in one pass.** -/
def readInOnePass (kind : MemberKind) (limit : Option Nat) (fragments : List Fragment) :
    Except Failure Signature := do
  let reader ← fragments.foldlM Reader.scan (Reader.start kind limit)
  reader.finish

namespace Reader

/-- The lexemes of a text, as the tokens that they are. -/
def lexemeTokens (gathered cs : List Char) : List Token :=
  (Text.lexemesFrom Mark.ofChar? gathered cs).map Token.ofLexeme

theorem run_pendingWord (r : Reader) (gathered : List Char) :
    r.run ((Text.pendingWord gathered).map Token.ofLexeme) = r.endWord gathered := by
  cases gathered with
  | nil => rfl
  | cons c gathered => exact bind_pure (r.word (String.ofList (c :: gathered).reverse))

/-- **Characters are read as their tokens are**, whatever has been read before. -/
theorem scanFrom_eq_run (r : Reader) (gathered cs : List Char) :
    r.scanFrom gathered cs = r.run (lexemeTokens gathered cs) := by
  induction cs generalizing r gathered with
  | nil => exact (run_pendingWord r gathered).symm
  | cons c cs ih =>
    cases hmark : Mark.ofChar? c with
    | some m =>
      have htokens : lexemeTokens gathered (c :: cs) =
          (Text.pendingWord gathered).map Token.ofLexeme ++ .mark m :: lexemeTokens [] cs := by
        simp [lexemeTokens, Text.lexemesFrom, hmark, Token.ofLexeme]
      rw [htokens, run_append, run_pendingWord]
      simp only [scanFrom, hmark, run_cons, ih]
      rfl
    | none =>
      cases hblank : isBlank c with
      | true =>
        have htokens : lexemeTokens gathered (c :: cs) =
            (Text.pendingWord gathered).map Token.ofLexeme ++ lexemeTokens [] cs := by
          simp [lexemeTokens, Text.lexemesFrom, hmark, hblank]
        rw [htokens, run_append, run_pendingWord]
        simp only [scanFrom, hmark, hblank, if_true, ih]
      | false =>
        have htokens : lexemeTokens gathered (c :: cs) = lexemeTokens (c :: gathered) cs := by
          simp [lexemeTokens, Text.lexemesFrom, hmark, hblank]
        rw [htokens, ← ih]
        simp [scanFrom, hmark, hblank]

/-- An item is read as its tokens are. -/
theorem scan_eq_run (r : Reader) (f : Fragment) : r.scan f = r.run (Token.ofFragment f) := by
  cases f with
  | text content => exact scanFrom_eq_run r [] content.toList
  | anchor e => exact (bind_pure (r.anchor e)).symm
  | lineBreak => exact (bind_pure r.lineBreak).symm

/-- **A sequence of items is read as its tokens are.** -/
theorem foldlM_scan (r : Reader) (fragments : List Fragment) :
    fragments.foldlM scan r = r.run (Token.ofFragments fragments) := by
  induction fragments generalizing r with
  | nil => rfl
  | cons f fragments ih =>
    have htokens : Token.ofFragments (f :: fragments) =
        Token.ofFragment f ++ Token.ofFragments fragments := rfl
    rw [List.foldlM_cons, scan_eq_run, htokens, run_append]
    simp only [ih]

end Reader

theorem readInOnePass_eq (kind : MemberKind) (limit : Option Nat) (fragments : List Fragment) :
    readInOnePass kind limit fragments = ofTokens kind limit (Token.ofFragments fragments) := by
  rw [readInOnePass, Reader.foldlM_scan]
  rfl

/-! ## 2. What the tokens are -/

/-- **The items fall into the tokens**: an anchor and a line break are tokens, and the tokens of a
text are its words and marks. -/
inductive Tokenized : List Fragment → List Token → Prop
  | nil : Tokenized [] []
  | text {content : String} {ls : List (Text.Lexeme Mark)} {fs : List Fragment} {ts : List Token}
      (h : Lexed Mark.ofChar? content.toList ls) (hrest : Tokenized fs ts) :
      Tokenized (.text content :: fs) (ls.map Token.ofLexeme ++ ts)
  | anchor {e : Element} {fs : List Fragment} {ts : List Token} (hrest : Tokenized fs ts) :
      Tokenized (.anchor e :: fs) (.anchor e :: ts)
  | lineBreak {fs : List Fragment} {ts : List Token} (hrest : Tokenized fs ts) :
      Tokenized (.lineBreak :: fs) (.lineBreak :: ts)

/-- Items fall into one sequence of tokens. -/
theorem tokenized_iff {fragments : List Fragment} {ts : List Token} :
    Tokenized fragments ts ↔ Token.ofFragments fragments = ts := by
  constructor
  · intro h
    induction h with
    | nil => rfl
    | text h _ ih => rw [← Text.lexed_iff.mp h, ← ih]; rfl
    | anchor _ ih => rw [← ih]; rfl
    | lineBreak _ ih => rw [← ih]; rfl
  · rintro rfl
    induction fragments with
    | nil => exact .nil
    | cons f fragments ih =>
      cases f with
      | text content => exact .text (Text.lexed_iff.mpr rfl) ih
      | anchor e => exact .anchor ih
      | lineBreak => exact .lineBreak ih

/-! ## 3. What does not count -/

/-- **A signature with its text set otherwise.** -/
inductive Reflow : List Fragment → List Fragment → Prop
  /-- More blanks, where no word goes on: next to a mark or a blank, or at an end of the text. -/
  | blanks (before behind : List Fragment) {front blanks back : String}
      (hblanks : isBlankText blanks = true)
      (hparted : Parted Mark.ofChar? front.toList back.toList) :
      Reflow (before ++ .text (front ++ back) :: behind)
        (before ++ .text (front ++ blanks ++ back) :: behind)
  /-- A text divided into two, where no word goes on. -/
  | division (before behind : List Fragment) {front back : String}
      (hparted : Parted Mark.ofChar? front.toList back.toList) :
      Reflow (before ++ .text (front ++ back) :: behind)
        (before ++ .text front :: .text back :: behind)

theorem Mark.ofChar?_of_isBlank (c : Char) (h : isBlank c = true) : Mark.ofChar? c = none := by
  unfold Mark.ofChar?
  split <;> first | rfl | exact absurd h (by decide)

namespace Token

theorem ofFragment_append {front back : String}
    (h : Parted Mark.ofChar? front.toList back.toList) :
    ofFragment (.text (front ++ back)) = ofFragment (.text front) ++ ofFragment (.text back) := by
  simp only [ofFragment, Text.lexemes_append_of_parted h, List.map_append]

/-- Blanks between two texts end the word before them. -/
theorem ofFragment_blanks {front blanks back : String} (hblanks : isBlankText blanks = true)
    (h : Parted Mark.ofChar? front.toList back.toList) :
    ofFragment (.text (front ++ blanks ++ back)) = ofFragment (.text (front ++ back)) := by
  have hblank := Text.isBlank_of_isBlankText hblanks
  have hparted : Parted Mark.ofChar? front.toList (blanks ++ back).toList := by
    refine h.imp_right fun hback => ?_
    rw [String.toList_append]
    exact (Text.EndsWord.of_isBlank hblank).append hback
  have hback : ofFragment (.text (blanks ++ back)) = ofFragment (.text back) := by
    simp only [ofFragment, Text.lexemes, String.toList_append,
      Text.lexemesFrom_blanks Mark.ofChar?_of_isBlank hblank]
  rw [String.append_assoc, ofFragment_append hparted, hback, ofFragment_append h]

/-- **Text that is set otherwise has the same tokens.** -/
theorem ofFragments_reflow {fs gs : List Fragment} (h : Reflow fs gs) :
    ofFragments gs = ofFragments fs := by
  cases h with
  | blanks before behind hblanks hparted =>
    simp only [ofFragments, List.flatMap_append, List.flatMap_cons,
      ofFragment_blanks hblanks hparted]
  | division before behind hparted =>
    simp only [ofFragments, List.flatMap_append, List.flatMap_cons, ofFragment_append hparted,
      List.append_assoc]

theorem ofFragments_of_eqvGen {fs gs : List Fragment} (h : Relation.EqvGen Reflow fs gs) :
    ofFragments gs = ofFragments fs := by
  induction h with
  | rel fs gs h => exact ofFragments_reflow h
  | refl fs => rfl
  | symm fs gs _ ih => exact ih.symm
  | trans fs gs hs _ _ ih ih' => exact ih'.trans ih

end Token

/-- What holds of the reading of a flattened signature. -/
structure DeterminedByTokens (kind : MemberKind) (limit : Option Nat) (fragments : List Fragment) :
    Prop where
  /-- The items fall into exactly one sequence of tokens. -/
  tokens : ∃! ts, Tokenized fragments ts
  /-- To read them character by character is to take one step for each token, until one fails. -/
  steps : ∀ ts, Tokenized fragments ts →
    readInOnePass kind limit fragments =
      (do (← ts.foldlM Reader.step (Reader.start kind limit)).finish)
  /-- It is what the reader makes of them. -/
  read : ofFragments kind limit fragments = readInOnePass kind limit fragments
  /-- So items with the same tokens make the same signature, or fail in the same way, -/
  same : ∀ others ts, Tokenized fragments ts → Tokenized others ts →
    ofFragments kind limit others = ofFragments kind limit fragments
  /-- and the setting of the text does not count. -/
  reflowed : ∀ others, Relation.EqvGen Reflow fragments others →
    ofFragments kind limit others = ofFragments kind limit fragments

/-- **A signature is read as its tokens are**, of every kind, within every limit, and whether it can
be read or not. -/
theorem determined_by_tokens (kind : MemberKind) (limit : Option Nat)
    (fragments : List Fragment) : DeterminedByTokens kind limit fragments := by
  refine { tokens := ?tokens, steps := ?steps, read := ?read, same := ?same, reflowed := ?reflowed }
  case tokens =>
    exact ⟨Token.ofFragments fragments, tokenized_iff.mpr rfl,
      fun ts h => (tokenized_iff.mp h).symm⟩
  case steps =>
    intro ts h
    rw [readInOnePass_eq, tokenized_iff.mp h]
    rfl
  case read => exact (readInOnePass_eq kind limit fragments).symm
  case same =>
    intro others ts h hothers
    rw [ofFragments, ofFragments, tokenized_iff.mp h, tokenized_iff.mp hothers]
  case reflowed =>
    intro others h
    rw [ofFragments, ofFragments, Token.ofFragments_of_eqvGen h]

end ApiPages.Signature
