/-
# UTF-8

Reading bytes as text.  The reader is a machine that holds at most one sequence that has been
begun; a byte that cannot continue it ends it as malformed and is looked at again as a
beginning.  So every maximal malformed part counts once, and what is read is the list of
characters with a gap (`none`) for each such part.  A strict reader refuses gaps (`decode?`), a
lenient one fills them (`decodeFilled`).
-/
namespace ApiPages.Text.Utf8

/-- A sequence that has been begun: the bytes that are missing, the bounds of the next one, and the
value of those that have been read. -/
structure Begun where
  missing : Nat
  low : Nat
  high : Nat
  value : Nat
  deriving Repr

/-- What a byte at the beginning of a sequence yields, and the sequence that it begins.  The
bounds of the second byte leave out overlong forms, surrogates and values above the last code
point. -/
def lead (b : Nat) : List (Option Char) × Option Begun :=
  if b < 0x80 then ([some (Char.ofNat b)], none)
  else if b < 0xC2 then ([none], none)
  else if b < 0xE0 then ([], some ⟨1, 0x80, 0xBF, b - 0xC0⟩)
  else if b < 0xF0 then
    ([], some ⟨2, if b = 0xE0 then 0xA0 else 0x80, if b = 0xED then 0x9F else 0xBF, b - 0xE0⟩)
  else if b < 0xF5 then
    ([], some ⟨3, if b = 0xF0 then 0x90 else 0x80, if b = 0xF4 then 0x8F else 0xBF, b - 0xF0⟩)
  else ([none], none)

/-- What a byte yields after the beginning of a sequence, if any, and what is begun after it. -/
def step (begun : Option Begun) (b : Nat) : List (Option Char) × Option Begun :=
  match begun with
  | none => lead b
  | some sequence =>
    if sequence.low ≤ b ∧ b ≤ sequence.high then
      let value := sequence.value * 64 + (b - 0x80)
      if sequence.missing ≤ 1 then ([some (Char.ofNat value)], none)
      else ([], some ⟨sequence.missing - 1, 0x80, 0xBF, value⟩)
    else
      let (chars, next) := lead b
      (none :: chars, next)

/-- The characters of a byte sequence that follows the beginning of another, with a gap for each
maximal malformed part. -/
def readFrom : Option Begun → List UInt8 → List (Option Char)
  | none, [] => []
  | some _, [] => [none]
  | begun, b :: rest =>
    let (chars, next) := step begun b.toNat
    chars ++ readFrom next rest

/-- The bytes of a text. -/
def encode (cs : List Char) : List UInt8 := cs.flatMap String.utf8EncodeChar

/-- **Strict reading**: the text, if no part is malformed. -/
def decode? (bytes : List UInt8) : Option (List Char) := (readFrom none bytes).mapM id

/-- **Lenient reading**: the replacement character stands for each malformed part. -/
def decodeFilled (bytes : List UInt8) : List Char :=
  (readFrom none bytes).map (·.getD '\uFFFD')

end ApiPages.Text.Utf8
