/-
# Blanks, words and squeezed text

The pages wrap their text freely, so every comparison of texts goes through one of three views of
it: the sequence of its words (`words`), the text with each run of blanks turned into a single
space (`squeeze`), and the text without blanks at its ends (`trim`).  Blank means the Unicode
property `White_Space`, which has the no-break space and the line separators but not the
zero-width space.
-/
import ApiPages.Text.Cut
import ApiPages.Text.Interval

namespace ApiPages.Text

/-! ## 1. Blanks -/

/-- The code points of Unicode property `White_Space`. -/
def blankIntervals : List (Nat × Nat) :=
  [(0x9, 0xD), (0x20, 0x20), (0x85, 0x85), (0xA0, 0xA0), (0x1680, 0x1680), (0x2000, 0x200A),
    (0x2028, 0x2029), (0x202F, 0x202F), (0x205F, 0x205F), (0x3000, 0x3000)]

/-- **A blank**: a character of Unicode property `White_Space`. -/
def isBlank (c : Char) : Bool := inIntervals blankIntervals c.toNat

/-! ## 2. Words -/

/-- The words of a text: its maximal runs of characters that are not blank. -/
def words (cs : List Char) : List (List Char) := (cut isBlank cs).filter (!·.isEmpty)

/-- The words of a string. -/
def wordsOf (s : String) : List String := (words s.toList).map String.ofList

/-! ## 3. Squeezing -/

/-- Squeezing, where `afterBlank` says that the character before was blank and has been written. -/
def squeezeFrom : Bool → List Char → List Char
  | _, [] => []
  | afterBlank, c :: rest =>
    if isBlank c then
      if afterBlank then squeezeFrom true rest else ' ' :: squeezeFrom true rest
    else c :: squeezeFrom false rest

/-- Each run of blanks becomes one space, also at the two ends. -/
def squeeze (cs : List Char) : List Char := squeezeFrom false cs

/-- A string with each run of blanks turned into one space. -/
def squeezed (s : String) : String := String.ofList (squeeze s.toList)

/-! ## 4. Trimming -/

/-- The text without the blanks at its end. -/
def trimEnd (cs : List Char) : List Char := (cs.reverse.dropWhile isBlank).reverse

/-- The text without the blanks at its two ends. -/
def trim (cs : List Char) : List Char := trimEnd (cs.dropWhile isBlank)

/-- A string without the blanks at its two ends. -/
def trimmed (s : String) : String := String.ofList (trim s.toList)

/-- A string in one line: squeezed and trimmed. -/
def normalized (s : String) : String := String.ofList (trim (squeeze s.toList))

end ApiPages.Text
