/-
# The order of the bytes

UTF-8 keeps the order of texts: comparing their bytes compares their characters
(`encode_lt_encode`).  The bytes of a character are a leading byte and the digits of its code point
in base 64 behind it.  A character that needs more bytes has a larger leading byte; with equally
many bytes the leading bytes hold the highest digits, and the first digit that differs decides
(`digits_append_lt`).  Either way the bytes of two characters differ somewhere, so that it does not
matter what comes behind them.
-/
import ApiPages.Text.Utf8
import Mathlib.Algebra.Ring.Nat
import Mathlib.Data.List.Lex

namespace ApiPages.Text.Utf8

/-! ## 1. Digits in base 64 -/

/-- The last `k` digits of a number in base 64, as bytes that continue a sequence. -/
def digits : Nat → Nat → List UInt8
  | 0, _ => []
  | k + 1, v => UInt8.ofNat (v / 64 ^ k % 64 + 128) :: digits k v

/-- A smaller byte decides, and behind equal bytes the rest does. -/
theorem ofNat_cons_lt {a b : Nat} {as bs : List UInt8} (hb : b < 256)
    (h : a < b ∨ a = b ∧ as < bs) : UInt8.ofNat a :: as < UInt8.ofNat b :: bs := by
  rw [List.cons_lt_cons_iff]
  rcases h with hlt | ⟨rfl, hrest⟩
  · left
    rw [UInt8.lt_iff_toNat_lt, UInt8.toNat_ofNat', UInt8.toNat_ofNat']
    omega
  · exact .inr ⟨rfl, hrest⟩

/-- A number is compared by its quotient, and then by its remainder. -/
theorem div_lt_or_mod_lt {m n : Nat} (b : Nat) (h : m < n) :
    m / b < n / b ∨ m / b = n / b ∧ m % b < n % b := by
  rcases Nat.lt_or_ge (m / b) (n / b) with hlt | hge
  · exact .inl hlt
  · have heq : m / b = n / b := Nat.le_antisymm (Nat.div_le_div_right (Nat.le_of_lt h)) hge
    refine .inr ⟨heq, ?_⟩
    have hm := Nat.div_add_mod m b
    have hn := Nat.div_add_mod n b
    rw [heq] at hm
    omega

/-- **The first digit that differs decides**, whatever comes behind the digits. -/
theorem digits_append_lt (k : Nat) {m n : Nat} (h : m % 64 ^ k < n % 64 ^ k)
    (as bs : List UInt8) : digits k m ++ as < digits k n ++ bs := by
  induction k with
  | zero => simp [Nat.mod_one] at h
  | succ k ih =>
    refine ofNat_cons_lt (by omega) ?_
    rw [Nat.pow_succ] at h
    rcases div_lt_or_mod_lt (64 ^ k) h with hdigit | ⟨hdigit, hrest⟩
    · left
      rw [Nat.mod_mul_right_div_self, Nat.mod_mul_right_div_self] at hdigit
      omega
    · right
      rw [Nat.mod_mul_right_div_self, Nat.mod_mul_right_div_self] at hdigit
      rw [Nat.mod_mul_right_mod, Nat.mod_mul_right_mod] at hrest
      exact ⟨by omega, ih hrest⟩

/-! ## 2. Characters -/

/-- The number of bytes behind the leading one. -/
def continuations (v : Nat) : Nat :=
  if v ≤ 0x7F then 0 else if v ≤ 0x7FF then 1 else if v ≤ 0xFFFF then 2 else 3

/-- What the leading byte says besides the highest digit. -/
def mark (k : Nat) : Nat :=
  match k with
  | 0 => 0
  | 1 => 0xC0
  | 2 => 0xE0
  | _ => 0xF0

/-- The leading byte of a code point. -/
def leading (v : Nat) : Nat := mark (continuations v) + v / 64 ^ continuations v

theorem toNat_lt (c : Char) : c.val.toNat < 0x110000 := by
  rcases c.valid with hlow | hhigh
  · omega
  · exact hhigh.2

theorem utf8EncodeChar_eq (c : Char) : String.utf8EncodeChar c =
    UInt8.ofNat (leading c.val.toNat) :: digits (continuations c.val.toNat) c.val.toNat := by
  have hbound := toNat_lt c
  unfold String.utf8EncodeChar leading continuations
  dsimp only
  generalize c.val.toNat = v at hbound ⊢
  split
  · simp [digits, mark]
  · split
    · have hdigit : v / 64 % 32 = v / 64 := Nat.mod_eq_of_lt (by omega)
      simp [digits, mark, hdigit, Nat.add_comm]
    · split
      · have hdigit : v / 4096 % 16 = v / 4096 := Nat.mod_eq_of_lt (by omega)
        simp [digits, mark, hdigit, Nat.add_comm]
      · have hdigit : v / 262144 % 8 = v / 262144 := Nat.mod_eq_of_lt (by omega)
        simp [digits, mark, hdigit, Nat.add_comm]

theorem continuations_le {m n : Nat} (h : m < n) : continuations m ≤ continuations n := by
  unfold continuations
  split_ifs <;> omega

theorem leading_eq (v : Nat) : leading v =
    if v ≤ 0x7F then v
    else if v ≤ 0x7FF then 0xC0 + v / 64
    else if v ≤ 0xFFFF then 0xE0 + v / 4096
    else 0xF0 + v / 262144 := by
  unfold leading continuations
  split_ifs <;> simp [mark]

theorem leading_lt_256 {v : Nat} (h : v < 0x110000) : leading v < 256 := by
  rw [leading_eq]
  split_ifs <;> omega

/-- A code point with more bytes has a larger leading byte. -/
theorem leading_lt {m n : Nat} (h : continuations m < continuations n) : leading m < leading n := by
  rw [leading_eq, leading_eq]
  unfold continuations at h
  split_ifs at h ⊢ <;> omega

/-- **The bytes of two characters are in the order of the characters**, whatever comes behind
them. -/
theorem utf8EncodeChar_append_lt {c d : Char} (h : c < d) (as bs : List UInt8) :
    String.utf8EncodeChar c ++ as < String.utf8EncodeChar d ++ bs := by
  have hlt : c.val.toNat < d.val.toNat := h
  have hbound := toNat_lt d
  rw [utf8EncodeChar_eq, utf8EncodeChar_eq, List.cons_append, List.cons_append]
  refine ofNat_cons_lt (leading_lt_256 hbound) ?_
  rcases Nat.lt_or_eq_of_le (continuations_le hlt) with hmore | hsame
  · exact .inl (leading_lt hmore)
  · unfold leading
    rw [hsame]
    rcases div_lt_or_mod_lt (64 ^ continuations d.val.toNat) hlt with hdigit | ⟨hdigit, hrest⟩
    · left
      omega
    · exact .inr ⟨by rw [hdigit], digits_append_lt _ hrest as bs⟩

/-! ## 3. Texts -/

/-- **UTF-8 keeps the order of texts.** -/
theorem encode_lt_encode {cs ds : List Char} (h : cs < ds) : encode cs < encode ds := by
  induction ds generalizing cs with
  | nil => exact absurd h (List.not_lt_nil cs)
  | cons d ds ih =>
    cases cs with
    | nil =>
      rw [encode, encode, List.flatMap_nil, List.flatMap_cons, utf8EncodeChar_eq]
      exact List.nil_lt_cons _ _
    | cons c cs =>
      rw [encode, encode, List.flatMap_cons, List.flatMap_cons]
      rcases List.cons_lt_cons_iff.mp h with hlt | ⟨rfl, hrest⟩
      · exact utf8EncodeChar_append_lt hlt _ _
      · exact List.append_left_lt (ih hrest)

end ApiPages.Text.Utf8
