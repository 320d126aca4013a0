/-
# Stored sets of modifiers are read back

The stored form of a set has a part for each of its modifiers, and one for its other bits if there
are any.  A part has no blanks and no bars, so cutting the form at the bars and trimming the pieces
gives the parts again (`trim_cut_intercalate`).  Each part is read as the set of what it stands
for: a flag name as its modifier, the number as the other bits, because the digits of a number are
read as the number (`number?_hexadecimal`).  The union of these sets has the modifiers and the
other bits of the set that was stored (`foldl_union_partSets`).
-/
import ApiPages.Proofs.Declaration.Modifiers
import ApiPages.Proofs.Outcome
import ApiPages.Proofs.Text.Pieces
import Mathlib.Data.List.TakeWhile

namespace ApiPages

namespace Text

/-! ## 1. Hexadecimal digits -/

/-- A number has hexadecimal digits, which make it up. -/
theorem exists_hexadecimal (n : Nat) : ∃ ds : List Nat,
    hexadecimal n = ds.map Nat.digitChar ∧ (∀ d ∈ ds, d < 16) ∧
      ds.foldl (fun n d => n * 16 + d) 0 = n := by
  induction n using Nat.strongRecOn with
  | ind n ih =>
    rcases Nat.lt_or_ge n 16 with hlt | hge
    · refine ⟨[n], ?_, by simpa using hlt, by simp⟩
      rw [hexadecimal, Nat.toDigits_of_lt_base hlt]
      rfl
    · -- the last digit is the remainder, and those before it belong to the quotient
      obtain ⟨ds, hds, hsmall, hvalue⟩ := ih (n / 16) (by omega)
      have hlast : n % 16 < 16 := Nat.mod_lt n (by omega)
      have hsplit : hexadecimal n = hexadecimal (n / 16) ++ [(n % 16).digitChar] := by
        rw [hexadecimal, hexadecimal, ← Nat.toDigits_of_lt_base hlast,
          Nat.toDigits_append_toDigits (by omega) (by omega) hlast, Nat.div_add_mod]
      refine ⟨ds ++ [n % 16], by simp [hsplit, hds], fun d hd => ?_, ?_⟩
      · rcases List.mem_append.mp hd with hd | hd
        · exact hsmall d hd
        · obtain rfl := List.mem_singleton.mp hd
          exact hlast
      · rw [List.foldl_append, hvalue, List.foldl_cons, List.foldl_nil]
        omega

theorem hexValue?_digitChar {d : Nat} (h : d < 16) : hexValue? d.digitChar = some d := by
  have hall : ∀ d : Fin 16, hexValue? d.val.digitChar = some d.val := by decide
  exact hall ⟨d, h⟩

/-- **The hexadecimal digits of a number are read as the number.** -/
theorem number?_hexadecimal (n : Nat) : number? 16 hexValue? (hexadecimal n) = some n := by
  obtain ⟨ds, hds, hsmall, hvalue⟩ := exists_hexadecimal n
  have hne : (hexadecimal n).isEmpty = false := by simp [hexadecimal, Nat.toDigits_ne_nil]
  have hvalues : (hexadecimal n).mapM hexValue? = some ds := by
    rw [hds, mapM_map_eq_some fun d hd => hexValue?_digitChar (hsmall d hd), List.map_id']
  simp [number?, hne, hvalues, hvalue]

/-- What is no digit is not among the digits of a number. -/
theorem ne_of_mem_hexadecimal {n : Nat} {c : Char} (hc : c ∈ hexadecimal n) :
    isBlank c = false ∧ c ≠ '|' ∧ c ≠ '+' := by
  have hall : ∀ d : Fin 16, isBlank d.val.digitChar = false ∧ d.val.digitChar ≠ '|' ∧
      d.val.digitChar ≠ '+' := by decide
  obtain ⟨ds, hds, hsmall, -⟩ := exists_hexadecimal n
  rw [hds] at hc
  obtain ⟨d, hd, rfl⟩ := List.mem_map.mp hc
  exact hall ⟨d, hsmall d hd⟩

/-! ## 2. Parts between bars -/

/-- A part of a stored form: it has characters, none of which is a blank or a bar. -/
structure IsPart (cs : List Char) : Prop where
  nonempty : cs ≠ []
  plain : ∀ c ∈ cs, isBlank c = false ∧ c ≠ '|'

theorem IsPart.trim_padded {cs before behind : List Char} (h : IsPart cs)
    (hbefore : ∀ c ∈ before, isBlank c = true) (hbehind : ∀ c ∈ behind, isBlank c = true) :
    trim (before ++ cs ++ behind) = cs := by
  refine Text.trim_padded hbefore hbehind h.nonempty ?_ ?_
  · rw [Option.any_eq_false]
    intro c hc
    exact (h.plain c (List.mem_of_mem_head? hc)).1
  · rw [Option.any_eq_false]
    intro c hc
    exact (h.plain c (List.mem_of_mem_getLast? hc)).1

/-- **Parts with bars between them are found again**, behind blanks as well. -/
theorem trim_cut_intercalate {parts : List (List Char)} (hne : parts ≠ [])
    (h : ∀ part ∈ parts, IsPart part) {before : List Char}
    (hbefore : ∀ c ∈ before, isBlank c = true ∧ c ≠ '|') :
    (cut (· == '|') (before ++ [' ', '|', ' '].intercalate parts)).map trim = parts := by
  induction parts generalizing before with
  | nil => exact absurd rfl hne
  | cons part rest ih =>
    have hpart := h part List.mem_cons_self
    have hblank : ∀ c ∈ before, isBlank c = true := fun c hc => (hbefore c hc).1
    have hbars : ∀ c ∈ before ++ part, (c == '|') = false := by
      intro c hc
      rcases List.mem_append.mp hc with hc | hc
      · exact beq_false_of_ne (hbefore c hc).2
      · exact beq_false_of_ne (hpart.plain c hc).2
    cases rest with
    | nil =>
      have htrim : trim (before ++ part ++ []) = part :=
        hpart.trim_padded hblank fun c hc => absurd hc List.not_mem_nil
      rw [List.append_nil] at htrim
      rw [List.intercalate_singleton, cut_of_forall hbars, List.map_singleton, htrim]
    | cons next rest =>
      have hsplit : before ++ [' ', '|', ' '].intercalate (part :: next :: rest) =
          (before ++ part ++ [' ']) ++
            '|' :: ([' '] ++ [' ', '|', ' '].intercalate (next :: rest)) := by
        simp [List.intercalate_cons_cons]
      have hfirst : ∀ c ∈ before ++ part ++ [' '], (c == '|') = false := by
        intro c hc
        rcases List.mem_append.mp hc with hc | hc
        · exact hbars c hc
        · obtain rfl := List.mem_singleton.mp hc
          decide
      have hspace : ∀ c ∈ [' '], isBlank c = true ∧ c ≠ '|' :=
        List.forall_mem_singleton.mpr (by decide)
      rw [hsplit, cut_append_separator (by decide), cut_of_forall hfirst, List.map_append,
        List.map_singleton, hpart.trim_padded hblank fun c hc => (hspace c hc).1,
        ih (by simp) (fun p hp => h p (List.mem_cons_of_mem _ hp)) hspace]
      rfl

/-- A text with a character that is no blank is not trimmed to nothing. -/
theorem trim_ne_nil {cs : List Char} {c : Char} (hc : c ∈ cs) (hblank : isBlank c = false) :
    trim cs ≠ [] := by
  have hkept {ds : List Char} (hd : c ∈ ds) : c ∈ ds.dropWhile isBlank := by
    rw [← List.takeWhile_append_dropWhile (p := isBlank) (l := ds)] at hd
    rcases List.mem_append.mp hd with hd | hd
    · rw [List.mem_takeWhile_imp hd] at hblank
      cases hblank
    · exact hd
  have hmem : c ∈ trim cs := by
    rw [trim, trimEnd, List.mem_reverse]
    exact hkept (List.mem_reverse.mpr (hkept hc))
  exact List.ne_nil_of_mem hmem

end Text

namespace Modifiers

open Text

/-! ## 3. The parts of a stored form -/

/-- The parts of the stored form of a set. -/
def parts (s : Modifiers) : List (List Char) :=
  s.toList.map (·.flagName.toList) ++
    if s.otherBits = 0#16 then [] else ['0' :: 'x' :: hexadecimal s.otherBits.toNat]

/-- The sets that the parts stand for. -/
def partSets (s : Modifiers) : List Modifiers :=
  s.toList.map single ++ if s.otherBits = 0#16 then [] else [⟨s.otherBits⟩]

theorem toList_render (s : Modifiers) : s.render.toList = [' ', '|', ' '].intercalate s.parts := by
  rw [render, String.toList_intercalate, parts]
  split <;> simp [Function.comp_def]

theorem isPart_of_mem_parts {s : Modifiers} {part : List Char} (h : part ∈ s.parts) :
    IsPart part := by
  rcases List.mem_append.mp h with h | h
  · obtain ⟨m, -, rfl⟩ := List.mem_map.mp h
    have hplain : m.flagName.toList.all (fun c => !isBlank c && c != '|') = true := by
      cases m <;> decide
    exact ⟨by cases m <;> decide, by simpa using hplain⟩
  · split at h
    · cases h
    · obtain rfl := List.mem_singleton.mp h
      refine ⟨by simp, fun c hc => ?_⟩
      rcases List.mem_cons.mp hc with rfl | hc
      · decide
      · rcases List.mem_cons.mp hc with rfl | hc
        · decide
        · obtain ⟨hblank, hbar, -⟩ := ne_of_mem_hexadecimal hc
          exact ⟨hblank, hbar⟩

theorem hexBits?_hexadecimal (b : BitVec 16) : hexBits? (hexadecimal b.toNat) = some b := by
  have hbound : b.toNat < 65536 := b.isLt
  have hplus : ∀ rest, hexadecimal b.toNat = '+' :: rest → False := by
    intro rest heq
    have hmem : '+' ∈ hexadecimal b.toNat := heq ▸ List.mem_cons_self
    exact (ne_of_mem_hexadecimal hmem).2.2 rfl
  rw [hexBits?, number?_hexadecimal]
  · simp [hbound]
  · exact hplus

/-- **Each part is read as the set that it stands for.** -/
theorem mapM_readPart? (s : Modifiers) : s.parts.mapM readPart? = some s.partSets := by
  have hflag : ∀ m ∈ s.toList, readPart? m.flagName.toList = some (single m) := by
    intro m _
    cases m <;> decide
  rw [parts, partSets, List.mapM_append, mapM_map_eq_some hflag]
  split
  · rfl
  · have hnumber : readPart? ('0' :: 'x' :: hexadecimal s.otherBits.toNat) =
        some ⟨s.otherBits⟩ := by
      simp [readPart?, after?, hexBits?_hexadecimal]
    simp [hnumber]

/-! ## 4. The union of the parts -/

theorem getLsbD_foldl_union (s : Modifiers) (ts : List Modifiers) (i : Nat) :
    (ts.foldl union s).bits.getLsbD i =
      (s.bits.getLsbD i || ts.any (·.bits.getLsbD i)) := by
  induction ts generalizing s with
  | nil => simp
  | cons t ts ih => simp [ih, union, Bool.or_assoc]

/-- Bits from the seventh on belong to no modifier. -/
theorem any_single_of_le (s : Modifiers) {i : Nat} (hi : 7 ≤ i) :
    s.toList.any (fun m => (single m).bits.getLsbD i) = false := by
  rw [List.any_eq_false]
  intro m _
  have hm := m.index_lt
  simp [single, BitVec.getLsbD_twoPow, show m.index ≠ i by omega]

/-- A modifier of the set is one of those that are put together. -/
theorem any_single_index (s : Modifiers) (m : Modifier) :
    s.toList.any (fun n => (single n).bits.getLsbD m.index) = s.has m := by
  have hsingle : ∀ n : Modifier, (single n).bits.getLsbD m.index = decide (n = m) :=
    fun n => has_single n m
  rw [Bool.eq_iff_iff, List.any_eq_true]
  simp [hsingle, toList, Modifier.mem_all]

/-- **A set is the union of what its parts stand for.** -/
theorem foldl_union_partSets (s : Modifiers) : s.partSets.foldl union empty = s := by
  have hother (i : Nat) : (if s.otherBits = 0#16 then [] else [(⟨s.otherBits⟩ : Modifiers)]).any
      (·.bits.getLsbD i) = s.otherBits.getLsbD i := by
    split
    · rename_i hzero
      simp [hzero]
    · simp
  refine congrArg Modifiers.mk (BitVec.eq_of_getLsbD_eq fun i hi => ?_)
  rw [getLsbD_foldl_union, partSets, List.any_append, List.any_map, hother, getLsbD_otherBits s hi]
  by_cases hlow : i < 7
  · obtain ⟨m, rfl⟩ := exists_index hlow
    have hmodifiers := any_single_index s m
    have hnot : decide (7 ≤ m.index) = false := by simpa using hlow
    simp only [Function.comp_def, hmodifiers, has, hnot, empty]
    simp
  · have hmodifiers := any_single_of_le s (i := i) (by omega)
    simp only [Function.comp_def, hmodifiers, empty]
    simp [show 7 ≤ i by omega]

/-! ## 5. The stored form -/

/-- **The stored form of a set is read as the set.** -/
theorem read?_render (s : Modifiers) : read? s.render = some s := by
  rw [read?, toList_render]
  by_cases hparts : s.parts = []
  · -- a set without parts is the empty set
    obtain ⟨hmodifiers, hothers⟩ := List.append_eq_nil_iff.mp hparts
    have hnone : s.toList = [] := List.map_eq_nil_iff.mp hmodifiers
    have hzero : s.otherBits = 0#16 := by
      by_contra hne
      simp [hne] at hothers
    have hsets : s.partSets = [] := by simp [partSets, hnone, hzero]
    have hempty := foldl_union_partSets s
    rw [hsets] at hempty
    rw [hparts, ← hempty]
    rfl
  · have hread : (cut (· == '|') ([' ', '|', ' '].intercalate s.parts)).mapM
        (fun part => readPart? (trim part)) = some s.partSets := by
      have hcut : (cut (· == '|') ([] ++ [' ', '|', ' '].intercalate s.parts)).map trim =
          s.parts := trim_cut_intercalate hparts (fun _ => isPart_of_mem_parts) (by simp)
      rw [List.nil_append] at hcut
      rw [← mapM_readPart? s, ← hcut, List.mapM_map, hcut]
      rfl
    have hne : (trim ([' ', '|', ' '].intercalate s.parts)).isEmpty = false := by
      obtain ⟨part, rest, heq⟩ := List.exists_cons_of_ne_nil hparts
      have hpart : IsPart part := isPart_of_mem_parts (heq ▸ List.mem_cons_self)
      obtain ⟨c, hc⟩ := List.exists_mem_of_ne_nil _ hpart.nonempty
      have hmem : c ∈ [' ', '|', ' '].intercalate s.parts := by
        rw [heq]
        cases rest with
        | nil => simpa using hc
        | cons next rest => simp [List.intercalate_cons_cons, hc]
      simpa using trim_ne_nil hmem (hpart.plain c hc).1
    rw [hne, hread]
    show some (s.partSets.foldl union empty) = some s
    rw [foldl_union_partSets]

end Modifiers

end ApiPages
