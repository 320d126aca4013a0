/-
# Hexadecimal digits

Numbers in base sixteen: the value of a digit in either case, the value of a digit sequence, and the
digits of a number in lower case.
-/
namespace ApiPages.Text

/-- The value of a hexadecimal digit. -/
def hexValue? (c : Char) : Option Nat :=
  if '0' ≤ c ∧ c ≤ '9' then some (c.toNat - 48)
  else if 'a' ≤ c ∧ c ≤ 'f' then some (c.toNat - 87)
  else if 'A' ≤ c ∧ c ≤ 'F' then some (c.toNat - 55)
  else none

/-- The number that a non-empty sequence of digits of a base stands for. -/
def number? (base : Nat) (value? : Char → Option Nat) (digits : List Char) : Option Nat :=
  if digits.isEmpty then none
  else (digits.mapM value?).map fun values => values.foldl (fun n d => n * base + d) 0

/-- The hexadecimal digits of a number, in lower case and without leading zeros. -/
def hexadecimal (n : Nat) : List Char := Nat.toDigits 16 n

end ApiPages.Text
