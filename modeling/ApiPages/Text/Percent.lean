/-
# Percent-decoding

A percent sign and two hexadecimal digits stand for a byte; every other byte stands for itself, a
percent sign without two digits after it included.
-/
import ApiPages.Text.Hexadecimal
import ApiPages.Text.Utf8

namespace ApiPages.Text.Percent

/-- The value of a hexadecimal digit, given as a byte. -/
def digitValue? (b : UInt8) : Option Nat := hexValue? (Char.ofNat b.toNat)

/-- The bytes that a percent-encoded byte sequence stands for. -/
def decodeBytes : List UInt8 → List UInt8
  | [] => []
  | [a] => [a]
  | [a, b] => [a, b]
  | a :: b :: c :: rest =>
    match a == 37, digitValue? b, digitValue? c with
    | true, some high, some low => UInt8.ofNat (high * 16 + low) :: decodeBytes rest
    | _, _, _ => a :: decodeBytes (b :: c :: rest)

/-- The text that a percent-encoded text stands for, if its bytes are well-formed UTF-8. -/
def decode? (cs : List Char) : Option (List Char) := Utf8.decode? (decodeBytes (Utf8.encode cs))

/-- The text that a percent-encoded text stands for, with malformed bytes replaced. -/
def decodeFilled (cs : List Char) : List Char := Utf8.decodeFilled (decodeBytes (Utf8.encode cs))

end ApiPages.Text.Percent
