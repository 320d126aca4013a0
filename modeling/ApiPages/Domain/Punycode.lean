/-
# Encoded labels

A label of a domain can be spelled in ASCII alone.  The spelling starts with the ASCII characters
of the label, followed by a hyphen if there are any.  Then the others are inserted, in the order
of their code points: each by a number that says how far to go on, counting through all places of
the label for each code point.  Numbers are written in base 36 with the lowest digit first, and a
digit below a threshold ends a number; thresholds depend on the position of the digit and on the
size of the numbers before (`bias`).
-/
import ApiPages.Text.Cut

namespace ApiPages.Domain.Punycode

open Text

/-! ## 1. Numbers -/

/-- The value of a digit: a letter in either case stands for 0 to 25, a decimal digit for 26 to
35. -/
def digit? (c : Char) : Option Nat :=
  if c.isLower then some (c.toNat - 97)
  else if c.isUpper then some (c.toNat - 65)
  else if c.isDigit then some (c.toNat - 22)
  else none

/-- The threshold for a digit at a position, which is counted in steps of 36 from 36 on. -/
def threshold (position bias : Nat) : Nat :=
  if position ≤ bias then 1 else if bias + 26 ≤ position then 26 else position - bias

/-- Divides a number by 35 until it is at most 455, and adds 36 to `bias` each time. -/
def scaled (bias number : Nat) : Nat × Nat :=
  if 455 < number then scaled (bias + 36) (number / 35) else (bias, number)
termination_by number
decreasing_by omega

/-- The bias after a number by which a label got `size` characters. -/
def biasAfter (number size : Nat) (isFirst : Bool) : Nat :=
  let damped := if isFirst then number / 700 else number / 2
  let (bias, rest) := scaled 0 (damped + damped / size)
  bias + 36 * rest / (rest + 38)

/-! ## 2. Insertions -/

/-- A label that is being decoded. -/
structure Decoder where
  /-- The characters so far. -/
  label : List Char
  codePoint : Nat := 128
  bias : Nat := 72
  /-- The place behind the last insertion. -/
  start : Nat := 0
  /-- The place where `start` and the digits of the number so far lead. -/
  place : Nat := 0
  /-- What the next digit counts. -/
  weight : Nat := 1
  position : Nat := 36
  deriving Repr

namespace Decoder

/-- Inserts a character where the number that has been read leads. -/
def insert (d : Decoder) : Option Decoder :=
  let size := d.label.length + 1
  let codePoint := d.codePoint + d.place / size
  if codePoint.isValidChar then
    let place := d.place % size
    some {
      label := d.label.insertIdx place (Char.ofNat codePoint)
      codePoint
      bias := biasAfter (d.place - d.start) size (d.start == 0)
      start := place + 1
      place := place + 1 }
  else none

/-- **One digit.**  No number has more than 32 bits. -/
def step (d : Decoder) (c : Char) : Option Decoder := do
  let digit ← digit? c
  let d := { d with place := d.place + digit * d.weight }
  let threshold := threshold d.position d.bias
  let weight := d.weight * (36 - threshold)
  if UInt32.size ≤ d.place then none
  else if digit < threshold then d.insert
  else if UInt32.size ≤ weight then none
  else some { d with weight, position := d.position + 36 }

/-- The label, unless a number has been begun. -/
def finish? (d : Decoder) : Option (List Char) := if d.position = 36 then some d.label else none

end Decoder

/-- The ASCII characters that a spelling starts with, and the rest of it. -/
def cutBasic (code : List Char) : List Char × List Char :=
  let pieces := cut (· == '-') code
  match ['-'].intercalate pieces.dropLast with
  | [] => ([], code)
  | basic => (basic, pieces.getLastD [])

/-- **The label that a spelling stands for.** -/
def decode? (code : List Char) : Option (List Char) := do
  let (basic, digits) := cutBasic code
  let decoder ← digits.foldlM Decoder.step { label := basic }
  decoder.finish?

end ApiPages.Domain.Punycode
