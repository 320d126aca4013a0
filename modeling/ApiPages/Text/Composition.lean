/-
# Composed texts

A text that can be written with composite characters or with their parts has one composed form: it
is taken apart completely (`parts`), the marks of each base are put in order (`arranged`), and
what can be composed is composed from the left (`recomposed`).  The syllables of Hangul are
composed by rule, all other characters by the tables.

Some characters never occur in a composed text because others stand for them.  They are not known
here; whoever composes a text has replaced them before.
-/
import ApiPages.Text.CombiningClass
import ApiPages.Text.Composite

namespace ApiPages.Text

/-! ## 1. Hangul

A syllable has a leading consonant, a vowel and possibly a trailing consonant; there are 19, 21
and 27 of them. -/

namespace Hangul

/-- The code points of the first syllable, leading consonant and vowel, and the one before the first
trailing consonant. -/
def firstSyllable : Nat := 0xAC00
def firstLead : Nat := 0x1100
def firstVowel : Nat := 0x1161
def beforeTrail : Nat := 0x11A7

/-- The two parts of a syllable: an open syllable and a trailing consonant, or a leading consonant
and a vowel. -/
def split? (c : Char) : Option (Char × Char) :=
  let index := c.toNat - firstSyllable
  if c.toNat < firstSyllable ∨ 19 * 21 * 28 ≤ index then none
  else if index % 28 = 0 then
    some (Char.ofNat (firstLead + index / 28 / 21), Char.ofNat (firstVowel + index / 28 % 21))
  else
    some (Char.ofNat (firstSyllable + index / 28 * 28), Char.ofNat (beforeTrail + index % 28))

/-- The syllable that two characters make. -/
def join? (first second : Char) : Option Char :=
  let lead := first.toNat - firstLead
  let vowel := second.toNat - firstVowel
  let syllable := first.toNat - firstSyllable
  let trail := second.toNat - beforeTrail
  if firstLead ≤ first.toNat ∧ lead < 19 ∧ firstVowel ≤ second.toNat ∧ vowel < 21 then
    some (Char.ofNat (firstSyllable + (lead * 21 + vowel) * 28))
  else if firstSyllable ≤ first.toNat ∧ syllable < 19 * 21 * 28 ∧ syllable % 28 = 0
      ∧ beforeTrail < second.toNat ∧ trail < 28 then
    some (Char.ofNat (first.toNat + trail))
  else none

end Hangul

/-! ## 2. Taking apart and composing -/

/-- The two parts of a composite character. -/
def split? (c : Char) : Option (Char × Char) :=
  (Hangul.split? c).or <|
    (composites.find? fun row => row.2.2 == c).map fun row => (row.1, row.2.1)

/-- The character that two characters make. -/
def join? (first second : Char) : Option Char :=
  (Hangul.join? first second).or <|
    (composites.find? fun row => row.1 == first && row.2.1 == second).map fun row => row.2.2

/-- The parts of a character, taken apart in up to `steps` steps. -/
def partsIn : (steps : Nat) → Char → List Char
  | 0, c => [c]
  | steps + 1, c =>
    match split? c with
    | some (first, second) => partsIn steps first ++ [second]
    | none => [c]

/-- **The parts of a character.**  No character is composed in more than three steps. -/
def parts (c : Char) : List Char := partsIn 3 c

/-! ## 3. Order of marks -/

/-- Puts a character before a text whose marks are in order. -/
def arrange (c : Char) : List Char → List Char
  | [] => [c]
  | d :: rest =>
    if combiningClass d ≠ 0 ∧ combiningClass d < combiningClass c then d :: arrange c rest
    else c :: d :: rest

/-- **A text with its marks in order**: those on one base by class, and those of one class as they
are. -/
def arranged (cs : List Char) : List Char := cs.foldr arrange []

/-! ## 4. Composition -/

/-- Composes a text behind `base`, to which the marks `kept`, the last one first, have not been
added.  A mark is added to the base if nothing of its class or a higher one stands between. -/
def recomposedOn (base : Char) (kept : List Char) : List Char → List Char
  | [] => base :: kept.reverse
  | c :: rest =>
    let isNear := kept.head?.all fun d => combiningClass d < combiningClass c
    match if isNear then join? base c else none with
    | some composite => recomposedOn composite kept rest
    | none =>
      if combiningClass c = 0 then base :: kept.reverse ++ recomposedOn c [] rest
      else recomposedOn base (c :: kept) rest

/-- Composes a text; marks without a base stay as they are. -/
def recomposed : List Char → List Char
  | [] => []
  | c :: rest => if combiningClass c = 0 then recomposedOn c [] rest else c :: recomposed rest

/-- **The composed form of a text.** -/
def composed (cs : List Char) : List Char := recomposed (arranged (cs.flatMap parts))

end ApiPages.Text
