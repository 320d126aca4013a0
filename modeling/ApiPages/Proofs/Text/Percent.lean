/-
# Percent-decoding

A text of ASCII characters is a byte for each of them, and is read from these bytes again; without
percent signs no byte is changed in between (`decode?_of_ascii`).

Of any text, an ASCII character that has no part in an escape is found again when the text is
decoded (`mem_of_decode?`): its byte is left alone, and no sequence of UTF-8 can take it in.
-/
import ApiPages.Text.Percent
import Mathlib.Data.List.Basic

namespace ApiPages.Text

namespace Utf8

theorem encode_of_ascii {cs : List Char} (h : ∀ c ∈ cs, c.toNat < 128) :
    encode cs = cs.map fun c => UInt8.ofNat c.toNat := by
  induction cs with
  | nil => rfl
  | cons c cs ih =>
    have hc : c.val.toNat ≤ 127 := Nat.le_of_lt_succ (h c List.mem_cons_self)
    have ih := ih fun d hd => h d (List.mem_cons_of_mem c hd)
    simp only [encode, List.flatMap_cons, List.map_cons] at ih ⊢
    rw [ih, String.utf8EncodeChar, if_pos hc]
    rfl

theorem readFrom_of_ascii {cs : List Char} (h : ∀ c ∈ cs, c.toNat < 128) :
    readFrom none (cs.map fun c => UInt8.ofNat c.toNat) = cs.map some := by
  induction cs with
  | nil => rfl
  | cons c cs ih =>
    have hc := h c List.mem_cons_self
    have hbyte : (UInt8.ofNat c.toNat).toNat = c.toNat := by
      rw [UInt8.toNat_ofNat']
      omega
    simp [readFrom, step, lead, hbyte, hc, Char.ofNat_toNat,
      ih fun d hd => h d (List.mem_cons_of_mem c hd)]

/-- A text is read strictly where the reader meets no gap. -/
theorem decode?_eq_some_iff {bytes : List UInt8} {cs : List Char} :
    decode? bytes = some cs ↔ readFrom none bytes = cs.map some := by
  rw [decode?]
  induction readFrom none bytes generalizing cs with
  | nil => cases cs <;> simp
  | cons o gaps ih =>
    cases o with
    | none => cases cs <;> simp
    | some c =>
      have hcons : (some c :: gaps).mapM id = (gaps.mapM id).map (c :: ·) := by
        rw [List.mapM_cons]
        cases gaps.mapM id <;> rfl
      rw [hcons, Option.map_eq_some_iff]
      constructor
      · rintro ⟨ds, hds, rfl⟩
        rw [ih.mp hds, List.map_cons]
      · intro h
        cases cs with
        | nil => cases h
        | cons d ds =>
          obtain ⟨hc, hds⟩ := List.cons.inj h
          obtain rfl := Option.some.inj hc
          exact ⟨ds, ih.mpr hds, rfl⟩

/-- **What is read strictly is read leniently too.** -/
theorem decodeFilled_of_decode? {bytes : List UInt8} {cs : List Char}
    (h : decode? bytes = some cs) : decodeFilled bytes = cs := by
  rw [decodeFilled, decode?_eq_some_iff.mp h, List.map_map]
  exact List.map_id cs

/-- Only a byte beyond ASCII goes on with a sequence that has been begun. -/
theorem le_low_of_lead {b : Nat} {s : Begun} (h : (lead b).2 = some s) : 128 ≤ s.low := by
  have hle {p : Prop} [Decidable p] {n : Nat} (hn : 128 ≤ n) : 128 ≤ if p then n else 128 := by
    split
    · exact hn
    · exact Nat.le_refl 128
  revert h
  fun_cases lead b with
  | case1 => rintro ⟨⟩
  | case2 => rintro ⟨⟩
  | case3 =>
    rintro ⟨⟩
    exact Nat.le_refl 128
  | case4 =>
    rintro ⟨⟩
    exact hle (by decide)
  | case5 =>
    rintro ⟨⟩
    exact hle (by decide)
  | case6 => rintro ⟨⟩

theorem le_low_of_step {begun : Option Begun} {b : Nat} {s : Begun}
    (h : (step begun b).2 = some s) : 128 ≤ s.low := by
  cases begun with
  | none => exact le_low_of_lead h
  | some sequence =>
    rw [step] at h
    split at h
    · dsimp only at h
      split at h
      · cases h
      · obtain rfl := Option.some.inj h
        exact Nat.le_refl 128
    · exact le_low_of_lead h

theorem mem_step_of_ascii {begun : Option Begun} {b : Nat} (hb : b < 128)
    (hbegun : ∀ s ∈ begun, 128 ≤ s.low) : some (Char.ofNat b) ∈ (step begun b).1 := by
  have hlead : lead b = ([some (Char.ofNat b)], none) := by rw [lead, if_pos hb]
  cases begun with
  | none => rw [step, hlead]; exact List.mem_cons_self
  | some sequence =>
    have hlow := hbegun sequence rfl
    rw [step, if_neg (by omega), hlead]
    exact List.mem_cons_of_mem _ List.mem_cons_self

/-- **An ASCII byte is a character wherever it stands**; it ends the sequence before it. -/
theorem mem_readFrom_of_ascii {bytes : List UInt8} {b : UInt8} (hb : b.toNat < 128)
    {begun : Option Begun} (hbegun : ∀ s ∈ begun, 128 ≤ s.low) (h : b ∈ bytes) :
    some (Char.ofNat b.toNat) ∈ readFrom begun bytes := by
  induction bytes generalizing begun with
  | nil => cases h
  | cons a rest ih =>
    rw [readFrom]
    rcases List.mem_cons.mp h with rfl | h
    · exact List.mem_append_left _ (mem_step_of_ascii hb hbegun)
    · exact List.mem_append_right _ (ih (fun s hs => le_low_of_step hs) h)

end Utf8

namespace Percent

theorem decodeBytes_of_forall {bs : List UInt8} (h : ∀ b ∈ bs, b ≠ 37) : decodeBytes bs = bs := by
  fun_induction decodeBytes bs with
  | case1 => rfl
  | case2 => rfl
  | case3 => rfl
  | case4 a b c rest high low hlow hhigh ha ih =>
    exact absurd (beq_iff_eq.mp ha) (h a List.mem_cons_self)
  | case5 a b c rest hother ih =>
    rw [ih fun d hd => h d (List.mem_cons_of_mem a hd)]

/-- **ASCII text without percent signs stands for itself.** -/
theorem decode?_of_ascii {cs : List Char} (h : ∀ c ∈ cs, c.toNat < 128 ∧ c ≠ '%') :
    decode? cs = some cs := by
  have hascii : ∀ c ∈ cs, c.toNat < 128 := fun c hc => (h c hc).1
  have hplain : decodeBytes (cs.map fun c => UInt8.ofNat c.toNat) =
      cs.map fun c => UInt8.ofNat c.toNat := by
    refine decodeBytes_of_forall fun b hb => ?_
    obtain ⟨c, hc, rfl⟩ := List.mem_map.mp hb
    intro hpercent
    have hvalue := congrArg UInt8.toNat hpercent
    rw [UInt8.toNat_ofNat', Nat.mod_eq_of_lt (by have := (h c hc).1; omega)] at hvalue
    exact (h c hc).2 (Char.toNat_inj.mp hvalue)
  rw [decode?, Utf8.encode_of_ascii hascii, hplain, Utf8.decode?, Utf8.readFrom_of_ascii hascii,
    List.mapM_map]
  exact (List.mapM_pure (m := Option) (f := id) (l := cs)).trans (by simp)

/-- A byte that has no part in an escape is left alone. -/
theorem mem_decodeBytes {bs : List UInt8} {b : UInt8} (hb : b ≠ 37) (hdigit : digitValue? b = none)
    (h : b ∈ bs) : b ∈ decodeBytes bs := by
  fun_induction decodeBytes bs with
  | case1 => exact h
  | case2 => exact h
  | case3 => exact h
  | case4 a high low rest highValue lowValue hlow hhigh ha ih =>
    -- The byte is none of the three that make the escape.
    simp only [List.mem_cons] at h
    rcases h with rfl | rfl | rfl | h
    · exact absurd (beq_iff_eq.mp ha) hb
    · rw [hdigit] at hhigh
      cases hhigh
    · rw [hdigit] at hlow
      cases hlow
    · exact List.mem_cons_of_mem _ (ih h)
  | case5 a b' c rest hother ih =>
    exact (List.mem_cons.mp h).elim (· ▸ List.mem_cons_self) fun h => List.mem_cons_of_mem a (ih h)

/-- **An ASCII character that has no part in an escape is found in the decoded text.** -/
theorem mem_of_decode? {cs ds : List Char} {c : Char} (hascii : c.toNat < 128) (hc : c ≠ '%')
    (hdigit : hexValue? c = none) (h : decode? cs = some ds) (hmem : c ∈ cs) : c ∈ ds := by
  have hbyte : (UInt8.ofNat c.toNat).toNat = c.toNat := by
    rw [UInt8.toNat_ofNat', Nat.mod_eq_of_lt (by omega)]
  have hencoded : UInt8.ofNat c.toNat ∈ Utf8.encode cs := by
    have hsingle : Utf8.encode [c] = [UInt8.ofNat c.toNat] :=
      Utf8.encode_of_ascii (by simpa using hascii)
    rw [Utf8.encode, List.flatMap_singleton] at hsingle
    exact List.mem_flatMap.mpr ⟨c, hmem, by simp [hsingle]⟩
  have hpercent : UInt8.ofNat c.toNat ≠ 37 := by
    intro heq
    rw [← UInt8.toNat_inj, hbyte] at heq
    exact hc (Char.toNat_inj.mp heq)
  have hkept := mem_decodeBytes hpercent (by rw [digitValue?, hbyte, Char.ofNat_toNat, hdigit])
    hencoded
  have hread : some (Char.ofNat (UInt8.ofNat c.toNat).toNat) ∈
      Utf8.readFrom none (decodeBytes (Utf8.encode cs)) :=
    Utf8.mem_readFrom_of_ascii (by omega) (by simp) hkept
  rw [Utf8.decode?_eq_some_iff.mp h, hbyte, Char.ofNat_toNat] at hread
  simpa using hread

end Percent

end ApiPages.Text
