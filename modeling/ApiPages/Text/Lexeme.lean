/-
# Words and marks

Signatures and supertype clauses are read as the same kind of sequence: words, and single characters
that mean something by themselves, the marks.  Blanks part words and are not seen otherwise.  Which
characters are marks, and which mark each of them is, is the reader's choice.
-/
import ApiPages.Text.Blank

namespace ApiPages.Text

variable {μ : Type}

/-- A word, or a mark. -/
inductive Lexeme (μ : Type) where
  | word (text : String)
  | mark (mark : μ)
  deriving Repr, DecidableEq

/-- The word whose characters have been read, the last one first; no word if there are none. -/
def pendingWord : List Char → List (Lexeme μ)
  | [] => []
  | pending => [.word (String.ofList pending.reverse)]

/-- The lexemes of a text before which the characters `pending` of a word have been read. -/
def lexemesFrom (mark? : Char → Option μ) (pending : List Char) : List Char → List (Lexeme μ)
  | [] => pendingWord pending
  | c :: rest =>
    match mark? c with
    | some m => pendingWord pending ++ .mark m :: lexemesFrom mark? [] rest
    | none =>
      if isBlank c then pendingWord pending ++ lexemesFrom mark? [] rest
      else lexemesFrom mark? (c :: pending) rest

/-- **The words and marks of a text**, in order: a word is a maximal run of characters that are
neither marks nor blanks. -/
def lexemes (mark? : Char → Option μ) (s : String) : List (Lexeme μ) :=
  lexemesFrom mark? [] s.toList

end ApiPages.Text
