/-
# Domains in ASCII

The rules for domains are about characters beyond ASCII: what stands for another character, what is
composed, what joins, and what runs from right to left.  Of a domain in ASCII none of that is left
but small letters for capitals (`canonical?_of_ascii`), and its labels are the pieces between its
dots (`labels?_of_ascii`).

That the tables hold nothing in ASCII is checked once for each of them.
-/
import ApiPages.Domain.Label
import ApiPages.Proofs.Outcome
import ApiPages.Proofs.Text.Pieces
import Mathlib.Data.List.Basic
import Mathlib.Tactic.SplitIfs

namespace ApiPages

/-! ## 1. Composed texts -/

namespace Text

/-- No table in which every interval starts beyond ASCII has an ASCII character. -/
theorem inIntervals_of_ascii {intervals : List (Nat × Nat)} {n : Nat}
    (h : ∀ i ∈ intervals, 128 ≤ i.1) (hn : n < 128) : inIntervals intervals n = false := by
  refine List.any_eq_false.mpr fun i hi => ?_
  have hfirst := h i hi
  simp only [Bool.and_eq_true, decide_eq_true_eq, not_and]
  omega

/-- A composite whose mark and whole are beyond ASCII; its letter need not be. -/
def isBeyondAscii (row : Char × Char × Char) : Bool :=
  128 ≤ row.2.1.toNat && 128 ≤ row.2.2.toNat

theorem isBeyondAscii_of_mark : ∀ row ∈ compositesOfMark,
    (triplesOf (Char.ofNat row.1) row.2.toList).all isBeyondAscii = true := by
  rw [compositesOfMark]
  repeat' refine List.forall_mem_cons.mpr ⟨?_, ?_⟩
  -- A string in the table is taken as the list of its characters: to read it from its bytes would
  -- take the kernel a minute.
  all_goals first
    | exact List.forall_mem_nil _
    | (rw [String.toList_ofList]; decide +kernel)

theorem isBeyondAscii_of_mem {row : Char × Char × Char} (h : row ∈ composites) :
    isBeyondAscii row = true := by
  rcases List.mem_append.mp h with h | h
  · obtain ⟨mark, hmark, hrow⟩ := List.mem_flatMap.mp h
    exact List.all_eq_true.mp (isBeyondAscii_of_mark mark hmark) row hrow
  · have hfurther : ∀ row ∈ furtherComposites,
        isBeyondAscii (Char.ofNat row.1, Char.ofNat row.2.1, Char.ofNat row.2.2) = true := by
      decide +kernel
    obtain ⟨codes, hcodes, rfl⟩ := List.mem_map.mp h
    exact hfurther codes hcodes

section

variable {c : Char} (hc : c.toNat < 128)
include hc

theorem parts_of_ascii : parts c = [c] := by
  have hhangul : Hangul.split? c = none := by
    rw [Hangul.split?, if_pos (Or.inl (by rw [Hangul.firstSyllable]; omega))]
  have htable : composites.find? (fun row => row.2.2 == c) = none := by
    refine List.find?_eq_none.mpr fun row hrow => ?_
    have hrow := isBeyondAscii_of_mem hrow
    simp only [isBeyondAscii, Bool.and_eq_true, decide_eq_true_eq] at hrow
    rw [beq_iff_eq]
    rintro rfl
    omega
  have hsplit : split? c = none := by rw [split?, hhangul, htable]; rfl
  rw [parts, partsIn, hsplit]

theorem join?_of_ascii (base : Char) : join? base c = none := by
  have hhangul : Hangul.join? base c = none := by
    have hvowel : ¬ Hangul.firstVowel ≤ c.toNat := by rw [Hangul.firstVowel]; omega
    have htrail : ¬ Hangul.beforeTrail < c.toNat := by rw [Hangul.beforeTrail]; omega
    simp [Hangul.join?, hvowel, htrail]
  have htable : composites.find? (fun row => row.1 == base && row.2.1 == c) = none := by
    refine List.find?_eq_none.mpr fun row hrow => ?_
    have hrow := isBeyondAscii_of_mem hrow
    simp only [isBeyondAscii, Bool.and_eq_true, decide_eq_true_eq] at hrow
    simp only [Bool.and_eq_true, beq_iff_eq, not_and]
    rintro - rfl
    omega
  rw [join?, hhangul, htable]
  rfl

theorem combiningClass_of_ascii : combiningClass c = 0 := by
  have htable : ∀ row ∈ combiningClasses, ∀ i ∈ row.2, 128 ≤ i.1 := by decide +kernel
  have hfind : combiningClasses.find? (fun row => inIntervals row.2 c.toNat) = none :=
    List.find?_eq_none.mpr fun row hrow => by
      simp [inIntervals_of_ascii (htable row hrow) hc]
  rw [combiningClass, hfind]

end

section

variable {cs : List Char}

theorem arranged_of_ascii (h : ∀ c ∈ cs, c.toNat < 128) : arranged cs = cs := by
  induction cs with
  | nil => rfl
  | cons c cs ih =>
    have ih := ih fun d hd => h d (List.mem_cons_of_mem c hd)
    rw [arranged, List.foldr_cons, ← arranged, ih]
    cases cs with
    | nil => rfl
    | cons d cs => simp [arrange, combiningClass_of_ascii (h d (by simp))]

theorem recomposedOn_of_ascii (base : Char) (h : ∀ c ∈ cs, c.toNat < 128) :
    recomposedOn base [] cs = base :: cs := by
  induction cs generalizing base with
  | nil => rfl
  | cons c cs ih =>
    have hc := h c List.mem_cons_self
    have ih := ih c fun d hd => h d (List.mem_cons_of_mem c hd)
    simp [recomposedOn, join?_of_ascii hc, combiningClass_of_ascii hc, ih]

/-- **An ASCII text is composed.** -/
theorem composed_of_ascii (h : ∀ c ∈ cs, c.toNat < 128) : composed cs = cs := by
  have hparts : cs.flatMap parts = cs := by
    rw [List.flatMap_congr fun c hc => parts_of_ascii (h c hc), List.flatMap_singleton']
  rw [composed, hparts, arranged_of_ascii h]
  cases cs with
  | nil => rfl
  | cons c cs =>
    rw [recomposed, if_pos (combiningClass_of_ascii (h c List.mem_cons_self)),
      recomposedOn_of_ascii c fun d hd => h d (List.mem_cons_of_mem c hd)]

end

end Text

/-! ## 2. Labels -/

namespace Domain

open Text

variable {cs : List Char}

theorem toLower_of_ascii (h : ∀ c ∈ cs, c.toNat < 128) :
    ∀ c ∈ cs.map Char.toLower, c.toNat < 128 := by
  have hlower : ∀ n : Fin 128, (Char.ofNat n).toLower.toNat < 128 := by decide
  intro d hd
  obtain ⟨c, hc, rfl⟩ := List.mem_map.mp hd
  simpa using hlower ⟨c.toNat, h c hc⟩

/-- Small letters for capitals are all that an ASCII text stands for. -/
theorem canonical?_of_ascii (h : ∀ c ∈ cs, c.toNat < 128)
    (hallowed : ∀ c ∈ cs, isForbidden c.toLower = false) :
    canonical? cs = some (cs.map Char.toLower) := by
  have himages : cs.mapM image? = some (cs.map fun c => [c.toLower]) :=
    mapM_eq_some_map fun c hc => by rw [image?, if_pos (h c hc)]
  have hflatten : (cs.map fun c => [c.toLower]).flatten = cs.map Char.toLower := by
    rw [← List.flatMap_def, List.map_eq_flatMap]
  have hany : (cs.map Char.toLower).any isForbidden = false := by simpa using hallowed
  simp [canonical?, himages, hflatten, composed_of_ascii (toLower_of_ascii h), hany]

section

variable {c : Char} (hc : c.toNat < 128)
include hc

theorem isMark_of_ascii : isMark c = false := by
  have hnonspacing : ∀ i ∈ nonspacingIntervals, 128 ≤ i.1 := by decide +kernel
  have hspacing : ∀ i ∈ spacingIntervals, 128 ≤ i.1 := by decide +kernel
  rw [isMark, isNonspacingMark, isSpacingMark, inIntervals_of_ascii hnonspacing hc,
    inIntervals_of_ascii hspacing hc]
  rfl

theorem runsRight_of_ascii : runsRight c = false := by
  have harabic : ∀ i ∈ Direction.arabicDigitIntervals, 128 ≤ i.1 := by decide +kernel
  have hright : ∀ i ∈ Direction.rightBlocks, 128 ≤ i.1 := by decide +kernel
  have hdirection : Direction.ofChar c ≠ .right ∧ Direction.ofChar c ≠ .arabicDigit := by
    simp only [Direction.ofChar, inIntervals_of_ascii harabic hc, inIntervals_of_ascii hright hc,
      Bool.false_eq_true, if_false]
    -- Which of the directions that are left it is does not matter.
    split_ifs <;> decide
  simp [runsRight, hdirection]

end

theorem joinsWellFrom_of_ascii (before : List Char) (h : ∀ c ∈ cs, c.toNat < 128) :
    joinsWellFrom before cs = true := by
  induction cs generalizing before with
  | nil => rfl
  | cons c cs ih =>
    have hc := h c List.mem_cons_self
    have hne (d : Char) (hd : 128 ≤ d.toNat) : c ≠ d := by
      rintro rfl
      omega
    rw [joinsWellFrom, mayJoin, if_neg (hne joiner (by decide)), if_neg (hne nonJoiner (by decide)),
      ih _ fun d hd => h d (List.mem_cons_of_mem c hd)]
    rfl

/-- A label in ASCII has no rules of its own. -/
theorem isWellFormed_of_ascii (h : ∀ c ∈ cs, c.toNat < 128) : isWellFormed cs = true := by
  have hmark : cs.head?.any isMark = false := by
    cases cs with
    | nil => rfl
    | cons c cs => exact isMark_of_ascii (h c List.mem_cons_self)
  have hall : cs.all (fun c => decide (c.toNat < 128)) = true := by simpa using h
  rw [isWellFormed, hmark, joinsWell, joinsWellFrom_of_ascii [] h, hall]
  simp

/-- **The labels of a domain in ASCII** are its pieces between the dots, in small letters, as long
as none of them is encoded. -/
theorem labels?_of_ascii (h : ∀ c ∈ cs, c.toNat < 128)
    (hallowed : ∀ c ∈ cs, isForbidden c.toLower = false)
    (hplain : ∀ label ∈ cut (· == '.') (cs.map Char.toLower), after? "xn--".toList label = none) :
    labels? cs = some (cut (· == '.') (cs.map Char.toLower)) := by
  have hascii : ∀ label ∈ cut (· == '.') (cs.map Char.toLower), ∀ c ∈ label, c.toNat < 128 :=
    fun label hlabel c hc => toLower_of_ascii h c (mem_of_mem_cut hlabel hc)
  have hlabels : (cut (· == '.') (cs.map Char.toLower)).mapM label? =
      some ((cut (· == '.') (cs.map Char.toLower)).map id) :=
    mapM_eq_some_map fun label hlabel => by rw [label?, hplain label hlabel]; rfl
  have hformed : (cut (· == '.') (cs.map Char.toLower)).all isWellFormed = true :=
    List.all_eq_true.mpr fun label hlabel => isWellFormed_of_ascii (hascii label hlabel)
  have hlegible : areLegible (cut (· == '.') (cs.map Char.toLower)) = true := by
    have hleft : ∀ label ∈ cut (· == '.') (cs.map Char.toLower), label.any runsRight = false :=
      fun label hlabel => List.any_eq_false.mpr fun c hc => by
        simp [runsRight_of_ascii (hascii label hlabel c hc)]
    have hany : (cut (· == '.') (cs.map Char.toLower)).any (·.any runsRight) = false :=
      List.any_eq_false.mpr fun label hlabel => by simp [hleft label hlabel]
    rw [areLegible, hany]
    rfl
  rw [List.map_id] at hlabels
  rw [labels?, canonical?_of_ascii h hallowed, Option.bind_eq_bind, Option.bind_some, hlabels]
  simp only [Option.bind_eq_bind, Option.bind_some, hformed, hlegible, Bool.and_self, if_true]

end Domain

end ApiPages
