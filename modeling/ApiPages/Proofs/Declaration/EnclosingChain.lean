/-
# The chain of enclosing names

A name leads outwards to the name of its enclosing class, that one to the next, and so on
(`outward?`).  A step takes the last class off the chain of classes and nothing else
(`classChain_of_enclosing?`): the package in front of it stays, and so does the place where the
chain begins.  That is why the length of the way can be read off the name.  There is one step for
each segment behind the one that begins the chain (`endsAfter_classChain`), whatever these segments
are: they may be empty or start with a small letter.

No step leads back.  The names on the way become shorter and shorter, so however many classes there
are and whatever they are called, they are not nested in a circle (`length_lt_of_nestedAmong`).
-/
import ApiPages.Proofs.Text.Pieces
import Mathlib.Data.List.TakeWhile
import Mathlib.Data.Set.Defs
import Mathlib.Logic.Relation

namespace ApiPages.QualifiedName

variable {name outer segment : String} {i : Nat}

/-! ## 1. One step outwards -/

theorem simpleName_mem_segments (name : String) : simpleName name ∈ segments name :=
  simpleName_eq_getLast name ▸ List.getLast_mem (segments_ne_nil name)

/-- A segment is not divided any further. -/
theorem segments_of_mem_segments (h : segment ∈ segments name) : segments segment = [segment] := by
  have hdot : '.' ∉ segment.toList := Text.not_mem_of_mem_piecesOf h
  have hcut : Text.cut (· == '.') segment.toList = [segment.toList] :=
    Text.cut_of_forall fun c hc => beq_false_of_ne fun heq => hdot (heq ▸ hc)
  rw [segments, Text.piecesOf, hcut, List.map_singleton, String.ofList_toList]

/-- The segments of a nested class are those of the enclosing class and its simple name. -/
theorem segments_of_enclosing? (h : enclosing? name = some outer) :
    segments name = segments outer ++ [simpleName name] := by
  calc
    segments name = segments (outer ++ "." ++ simpleName name) :=
      congrArg segments (eq_of_enclosing?_eq_some h)
    _ = segments outer ++ segments (simpleName name) := Text.piecesOf_append '.' ..
    _ = segments outer ++ [simpleName name] := by
      rw [segments_of_mem_segments (simpleName_mem_segments name)]

theorem exists_enclosing?_iff :
    (∃ outer, enclosing? name = some outer) ↔ 2 ≤ (classChain name).length := by
  simp [enclosing?]

/-- **A step outwards takes the last class off the chain of classes**, and nothing else. -/
theorem classChain_of_enclosing? (h : enclosing? name = some outer) :
    classChain name = classChain outer ++ [simpleName name] := by
  have hchain : 2 ≤ (classChain name).length := exists_enclosing?_iff.mp ⟨outer, h⟩
  rw [classChain, segments_of_enclosing? h, List.dropWhile_append] at hchain ⊢
  split at hchain
  · -- the simple name alone would be a chain of one class
    have hle := (List.dropWhile_suffix (l := [simpleName name])
      fun segment => !isCapitalized segment).length_le
    simp only [List.length_singleton] at hle
    omega
  · rename_i hne
    rw [if_neg hne]
    rfl

/-- The name of an enclosing class has a class in it. -/
theorem exists_isCapitalized (h : enclosing? name = some outer) :
    ∃ segment ∈ segments outer, isCapitalized segment = true := by
  have hchain : 2 ≤ (classChain name).length := exists_enclosing?_iff.mp ⟨outer, h⟩
  rw [classChain_of_enclosing? h, List.length_append, List.length_singleton] at hchain
  have hne : classChain outer ≠ [] := List.ne_nil_of_length_pos (by omega)
  simpa [classChain, List.dropWhile_eq_nil_iff] using hne

/-! ## 2. The way outwards -/

/-- The name that is `n` steps outwards. -/
def outward? : Nat → String → Option String
  | 0, name => some name
  | n + 1, name => (enclosing? name).bind (outward? n)

/-- **The way outwards is over after exactly `n` steps**: they lead to a name without an enclosing
class. -/
def EndsAfter (n : Nat) (name : String) : Prop :=
  ∃ outermost, outward? n name = some outermost ∧ enclosing? outermost = none

/-- There is a step for each class of the chain but the outermost one. -/
theorem endsAfter_classChain (name : String) : EndsAfter ((classChain name).length - 1) name := by
  induction hn : (classChain name).length - 1 generalizing name with
  | zero =>
    refine ⟨name, rfl, ?_⟩
    rw [enclosing?, if_neg (by omega)]
  | succ n ih =>
    have hnested : 2 ≤ (classChain name).length := by omega
    obtain ⟨outer, houter⟩ := exists_enclosing?_iff.mpr hnested
    have hchain := congrArg List.length (classChain_of_enclosing? houter)
    rw [List.length_append, List.length_singleton] at hchain
    obtain ⟨outermost, hout, hend⟩ := ih outer (by omega)
    refine ⟨outermost, ?_, hend⟩
    rw [outward?, houter]
    exact hout

/-- The chain of classes begins with the first capitalized segment. -/
theorem length_classChain (h : (segments name).findIdx? isCapitalized = some i) :
    (classChain name).length = (segments name).length - i := by
  have hi := (List.findIdx?_eq_some_iff_findIdx_eq.mp h).2
  simp [classChain, List.dropWhile_eq_drop_findIdx_not, hi]

theorem classChain_eq_nil (h : (segments name).findIdx? isCapitalized = none) :
    classChain name = [] := by
  simpa [classChain, List.dropWhile_eq_nil_iff] using h

/-! ## 3. No circles -/

/-- Of two names in a set, one is that of the class that encloses the other one. -/
structure NestedAmong (names : Set String) (inner outer : String) : Prop where
  inner_mem : inner ∈ names
  outer_mem : outer ∈ names
  enclosing : enclosing? inner = some outer

/-- The way outwards leads to shorter names only. -/
theorem length_lt_of_nestedAmong {names : Set String}
    (h : Relation.TransGen (NestedAmong names) name outer) : outer.length < name.length := by
  induction h with
  | single hstep => exact length_lt_of_enclosing? hstep.enclosing
  | tail _ hstep ih => exact Nat.lt_trans (length_lt_of_enclosing? hstep.enclosing) ih

/-- **Enclosing names form a finite chain**: a step leads from a nested class to the shorter name of
another class, the number of steps is that of the segments behind the first capitalized one, and in
no set of names do they go in a circle. -/
theorem enclosing_chain (name : String) :
    (∀ outer, enclosing? name = some outer →
      name = outer ++ "." ++ simpleName name ∧
        (∃ segment ∈ segments outer, isCapitalized segment = true) ∧
        outer.length < name.length) ∧
    (∀ i, (segments name).findIdx? isCapitalized = some i →
      i < (segments name).length ∧ EndsAfter ((segments name).length - i - 1) name) ∧
    ((segments name).findIdx? isCapitalized = none → EndsAfter 0 name) ∧
    ∀ names : Set String, ¬ Relation.TransGen (NestedAmong names) name name := by
  have hway := endsAfter_classChain name
  refine ⟨fun outer h => ?_, fun i hi => ?_, fun hnone => ?_, fun names hcircle => ?_⟩
  · exact ⟨eq_of_enclosing?_eq_some h, exists_isCapitalized h, length_lt_of_enclosing? h⟩
  · rw [length_classChain hi] at hway
    exact ⟨(List.findIdx?_eq_some_iff_findIdx_eq.mp hi).1, hway⟩
  · rwa [classChain_eq_nil hnone] at hway
  · exact Nat.lt_irrefl _ (length_lt_of_nestedAmong hcircle)

/-- A capital beyond ASCII with a small segment and an empty one behind it, and a name without a
capitalized segment that begins with a dot. -/
theorem enclosing_chain_of_empty_segment :
    enclosing? "com.example.Äther.inner..Deep" = some "com.example.Äther.inner." ∧
      "com.example.Äther.inner..Deep" =
        "com.example.Äther.inner." ++ "." ++ simpleName "com.example.Äther.inner..Deep" ∧
      (∃ segment ∈ segments "com.example.Äther.inner.", isCapitalized segment = true) ∧
      "com.example.Äther.inner.".length < "com.example.Äther.inner..Deep".length ∧
      (segments "com.example.Äther.inner..Deep").findIdx? isCapitalized = some 2 ∧
      EndsAfter 3 "com.example.Äther.inner..Deep" ∧
      (segments ".x.y").findIdx? isCapitalized = none ∧ EndsAfter 0 ".x.y" := by
  have houter : enclosing? "com.example.Äther.inner..Deep" = some "com.example.Äther.inner." := by
    decide +kernel
  have hi : (segments "com.example.Äther.inner..Deep").findIdx? isCapitalized = some 2 := by
    decide +kernel
  have hnone : (segments ".x.y").findIdx? isCapitalized = none := by decide +kernel
  obtain ⟨hstep, hcapitalized, -, -⟩ := enclosing_chain "com.example.Äther.inner..Deep"
  obtain ⟨-, -, hsmall, -⟩ := enclosing_chain ".x.y"
  obtain ⟨hname, hclass, hshorter⟩ := hstep _ houter
  exact ⟨houter, hname, hclass, hshorter, hi, (hcapitalized 2 hi).2, hnone, hsmall hnone⟩

end ApiPages.QualifiedName
