/-
# Sets of modifiers are determined by their members

A set is a word of sixteen bits, of which seven stand for modifiers.  Two sets are equal if they
have the same modifiers and the same other bits (`eq_of_has`); so a set without other bits is what
its modifiers put together, in any order and with any repetitions (`ofList_eq_of_mem_iff`).
-/
import ApiPages.Declaration.Modifiers

namespace ApiPages.Modifiers

/-- The bits that belong to no modifier are those from the seventh on. -/
theorem getLsbD_otherBits (s : Modifiers) {i : Nat} (hi : i < 16) :
    s.otherBits.getLsbD i = (s.bits.getLsbD i && decide (7 ≤ i)) := by
  have hmask : ∀ i : Fin 16, (0xFF80#16).getLsbD i = decide (7 ≤ i.val) := by decide
  rw [otherBits, BitVec.getLsbD_and, hmask ⟨i, hi⟩]

/-- The lowest bits are those of the modifiers. -/
theorem exists_index {i : Nat} (hi : i < 7) : ∃ m : Modifier, m.index = i := by
  have h : ∀ i : Fin 7, ∃ m ∈ Modifier.all, m.index = i.val := by decide
  obtain ⟨m, -, hm⟩ := h ⟨i, hi⟩
  exact ⟨m, hm⟩

/-- **Two sets with the same modifiers and the same other bits are equal.** -/
theorem eq_of_has {s t : Modifiers} (hhas : ∀ m, s.has m = t.has m)
    (hother : s.otherBits = t.otherBits) : s = t := by
  obtain ⟨s⟩ := s
  obtain ⟨t⟩ := t
  congr 1
  refine BitVec.eq_of_getLsbD_eq fun i hi => ?_
  by_cases hlow : i < 7
  · obtain ⟨m, rfl⟩ := exists_index hlow
    exact hhas m
  · have h := congrArg (·.getLsbD i) hother
    simpa [getLsbD_otherBits _ hi, show 7 ≤ i by omega] using h

theorem otherBits_insert (s : Modifiers) (m : Modifier) :
    (s.insert m).otherBits = s.otherBits := by
  refine BitVec.eq_of_getLsbD_eq fun i hi => ?_
  have hm := m.index_lt
  rw [getLsbD_otherBits _ hi, getLsbD_otherBits _ hi]
  by_cases hlow : 7 ≤ i
  · simp [insert, union, single, BitVec.getLsbD_twoPow, show m.index ≠ i by omega]
  · simp [hlow]

theorem otherBits_erase (s : Modifiers) (m : Modifier) :
    (s.erase m).otherBits = s.otherBits := by
  refine BitVec.eq_of_getLsbD_eq fun i hi => ?_
  have hm := m.index_lt
  rw [getLsbD_otherBits _ hi, getLsbD_otherBits _ hi]
  by_cases hlow : 7 ≤ i
  · simp [erase, single, hi, show i ≠ m.index by omega]
  · simp [hlow]

/-- Putting in the modifiers of a list. -/
theorem foldl_insert (s : Modifiers) (ms : List Modifier) :
    (∀ m, (ms.foldl insert s).has m = (s.has m || decide (m ∈ ms))) ∧
      (ms.foldl insert s).otherBits = s.otherBits := by
  induction ms generalizing s with
  | nil => simp
  | cons n ms ih =>
    obtain ⟨hhas, hother⟩ := ih (s.insert n)
    refine ⟨fun m => ?_, by rw [List.foldl_cons, hother, otherBits_insert]⟩
    rw [List.foldl_cons, hhas, has_insert]
    simp [Bool.or_assoc, eq_comm]

/-- **A set without other bits is what its modifiers put together.** -/
theorem ofList_eq_of_mem_iff {s : Modifiers} {ms : List Modifier} (hother : s.otherBits = 0#16)
    (h : ∀ m, m ∈ ms ↔ s.has m = true) : ofList ms = s := by
  obtain ⟨hhas, hbits⟩ := foldl_insert empty ms
  refine eq_of_has (fun m => ?_) ?_
  · rw [ofList, hhas, has_empty]
    simp [h m]
  · rw [ofList, hbits, hother]
    rfl

end ApiPages.Modifiers
