/-
# Character references

In a page, `&lt;`, `&#60;` and `&#x3C;` stand for a character that would otherwise be read as
markup.  An ampersand that starts no reference known here stands for itself.
-/
import ApiPages.Text.Cut
import ApiPages.Text.Hexadecimal

namespace ApiPages.Markup

open Text

/-- The characters with a name. -/
def namedReferences : List (List Char × Char) :=
  [("lt".toList, '<'), ("gt".toList, '>'), ("amp".toList, '&'), ("quot".toList, '"'),
    ("apos".toList, '\''), ("nbsp".toList, '\u00A0')]

/-- What the numbers from 128 on stand for that have a printing character in the common Western
encoding. -/
def westernReferences : List (Nat × Nat) :=
  [(0x80, 0x20AC), (0x82, 0x201A), (0x83, 0x0192), (0x84, 0x201E), (0x85, 0x2026), (0x86, 0x2020),
    (0x87, 0x2021), (0x88, 0x02C6), (0x89, 0x2030), (0x8A, 0x0160), (0x8B, 0x2039), (0x8C, 0x0152),
    (0x8E, 0x017D), (0x91, 0x2018), (0x92, 0x2019), (0x93, 0x201C), (0x94, 0x201D), (0x95, 0x2022),
    (0x96, 0x2013), (0x97, 0x2014), (0x98, 0x02DC), (0x99, 0x2122), (0x9A, 0x0161), (0x9B, 0x203A),
    (0x9C, 0x0153), (0x9E, 0x017E), (0x9F, 0x0178)]

/-- The character of a number; a number that is none stands for the replacement character. -/
def charOfNumber (n : Nat) : Char :=
  let n := (westernReferences.lookup n).getD n
  if n = 0 ∨ !(n < 0xD800 ∨ (0xDFFF < n ∧ n < 0x110000)) then '\uFFFD' else Char.ofNat n

/-- The character that the text between `&` and `;` stands for. -/
def referencedChar? : List Char → Option Char
  | '#' :: 'x' :: digits | '#' :: 'X' :: digits => (number? 16 hexValue? digits).map charOfNumber
  | '#' :: digits =>
    let value? := fun c => if c.isDigit then some (c.toNat - 48) else none
    (number? 10 value? digits).map charOfNumber
  | name => namedReferences.lookup name

/-- Resolves the references of a text before which an ampersand and then the characters `pending`,
the last one first, have been read. -/
def unescapeFrom : Option (List Char) → List Char → List Char
  | none, [] => []
  | some pending, [] => '&' :: pending.reverse
  | none, c :: rest => if c = '&' then unescapeFrom (some []) rest else c :: unescapeFrom none rest
  | some pending, c :: rest =>
    if c = '&' then '&' :: pending.reverse ++ unescapeFrom (some []) rest
    else if c = ';' then
      match referencedChar? pending.reverse with
      | some char => char :: unescapeFrom none rest
      | none => '&' :: pending.reverse ++ ';' :: unescapeFrom none rest
    else unescapeFrom (some (c :: pending)) rest

/-- **A text with its character references resolved.** -/
def unescape (cs : List Char) : String := String.ofList (unescapeFrom none cs)

end ApiPages.Markup
