/-
# Tokens of a signature

A signature is read token by token: the words and marks of its text runs, its anchors, and its line
breaks.  The reader sees nothing of how the text is divided into runs and blanks.
-/
import ApiPages.Markup.Fragment
import ApiPages.Text.Lexeme

namespace ApiPages.Signature

/-- A character that means something by itself in a signature. -/
inductive Mark where
  | atSign
  | openList
  | closeList
  | openParameters
  | comma
  | closeParameters
  deriving Repr, DecidableEq

namespace Mark

/-- The character of a mark. -/
def char : Mark → Char
  | atSign => '@'
  | openList => '<'
  | closeList => '>'
  | openParameters => '('
  | comma => ','
  | closeParameters => ')'

/-- The mark that a character is, if it is one. -/
def ofChar? : Char → Option Mark
  | '@' => some atSign
  | '<' => some openList
  | '>' => some closeList
  | '(' => some openParameters
  | ',' => some comma
  | ')' => some closeParameters
  | _ => none

/-- **The character of a mark is read as that mark.** -/
theorem ofChar?_char (m : Mark) : ofChar? m.char = some m := by cases m <;> rfl

/-- The text of a mark. -/
def text (m : Mark) : String := String.singleton m.char

end Mark

/-- A token of a signature. -/
inductive Token where
  | word (text : String)
  | mark (mark : Mark)
  | anchor (element : Element)
  | lineBreak
  deriving Repr

namespace Token

/-- A lexeme of a text run as a token. -/
def ofLexeme : Text.Lexeme Mark → Token
  | .word text => word text
  | .mark m => mark m

/-- The tokens of a fragment. -/
def ofFragment : Fragment → List Token
  | .text content => (Text.lexemes Mark.ofChar? content).map ofLexeme
  | .anchor e => [anchor e]
  | .lineBreak => [lineBreak]

/-- **The tokens of a flattened signature.** -/
def ofFragments (fragments : List Fragment) : List Token := fragments.flatMap ofFragment

end Token

end ApiPages.Signature
