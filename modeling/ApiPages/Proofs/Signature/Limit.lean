/-
# The limit bounds the types of a signature

A stack under a limit holds no frame that is nested too deeply, where each level counts the lists
that are open below it (`TypeStack.Fits`).  Opening a list is checked, and no other step deepens a
frame beyond what was open, so the reader keeps this for the types it has read and for the one it
is in (`Reader.Fits.step`), and the types of an accepted signature are within the limit
(`within_of_ofTokens`).
-/
import ApiPages.Proofs.Signature.Step

namespace ApiPages

/-! ## 1. Types under construction -/

/-- Frames, the innermost first, of which none is nested too deeply. -/
def FitFrames (limit : Nat) : List TypeFrame → Prop
  | [] => True
  | f :: below => below.length + f.depth ≤ limit ∧ FitFrames limit below

/-- A type is no deeper than its frame. -/
theorem TypeFrame.depth_le_of_toType {f : TypeFrame} {a : TypeName} (h : f.toType = .ok a) :
    a.depth ≤ f.depth := by
  obtain ⟨name, as, isOpen⟩ := f
  cases name with
  | none => simp [toType] at h
  | some n =>
    obtain rfl : ⟨n, as⟩ = a := by simpa [toType] using h
    rw [TypeName.depth_congr n ""]
    exact Nat.le_max_right _ _

namespace TypeStack

/-- The limit of the stack, if there is one, admits every frame on its level. -/
def Fits (s : TypeStack) : Prop := ∀ n, s.limit = some n → FitFrames n s.frames

theorem fits_start (limit : Option Nat) : (start limit).Fits := fun n _ =>
  ⟨Nat.zero_le n, trivial⟩

/-- A step keeps the limit. -/
theorem limit_of_step {s s' : TypeStack} {step : TypeStep} (h : s.step step = .done s') :
    s'.limit = s.limit := by
  have hchange {s s' : TypeStack} {change : TypeFrame → Except Failure TypeFrame}
      (h : s.onCurrent change = .done s') : s'.limit = s.limit := by
    obtain ⟨f, -, rfl⟩ := onCurrent_eq_done_iff.mp h
    exact limit_withCurrent s f
  have hdown {s s' : TypeStack} {change : TypeName → TypeFrame → Except Failure TypeFrame}
      (h : s.handDown change = .done s') : s'.limit = s.limit := by
    obtain ⟨f, below, a, g, -, -, -, rfl⟩ := handDown_eq_done_iff.mp h
    exact limit_withCurrent _ g
  cases step with
  | setName n =>
    simp only [step, setName] at h
    exact hchange h
  | appendSuffix w =>
    simp only [step, appendSuffix] at h
    exact hchange h
  | closeList =>
    simp only [step, closeList] at h
    exact hdown h
  | openList =>
    obtain ⟨-, n, -, -, rfl⟩ := openList_eq_done_iff.mp h
    simp
  | nextArgument =>
    simp only [step, nextArgument] at h
    split at h
    · rename_i next hnext
      obtain rfl : next.push = s' := by simpa using h
      rw [limit_push]
      exact hdown hnext
    · simp at h

/-- The frames after a step fit, if those before fit and there is room for a list that is opened. -/
theorem FrameStep.fits {limit : Nat} {frames frames' : List TypeFrame} {step : TypeStep}
    (h : FrameStep frames step frames') (hfits : FitFrames limit frames)
    (hroom : step = .openList → frames.length ≤ limit) : FitFrames limit frames' := by
  cases h with
  | setName => exact hfits
  | appendSuffix => exact hfits
  | openList hname hopen =>
    obtain ⟨hf, hbelow⟩ := hfits
    have hlist := hroom rfl
    simp only [List.length_cons] at hlist
    refine ⟨?_, ?_, hbelow⟩
    · simpa [TypeFrame.depth, TypeFrame.empty, TypeName.depth] using hlist
    · simp only [TypeFrame.depth, hopen] at hf ⊢
      simp only [Bool.false_eq_true, if_false, if_true] at hf ⊢
      omega
  | @nextArgument f p below a ha hopen =>
    obtain ⟨hf, hp, hbelow⟩ := hfits
    have ha := TypeFrame.depth_le_of_toType ha
    simp only [List.length_cons] at hf
    refine ⟨?_, ?_, hbelow⟩
    · simp [TypeFrame.depth, TypeFrame.empty, TypeName.depth]
      omega
    · simp only [TypeFrame.depth, TypeName.depth_snoc, hopen, if_true] at hp ⊢
      omega
  | @closeList f p below a ha hopen =>
    obtain ⟨hf, hp, hbelow⟩ := hfits
    have ha := TypeFrame.depth_le_of_toType ha
    simp only [List.length_cons] at hf
    refine ⟨?_, hbelow⟩
    simp only [TypeFrame.depth, TypeName.depth_snoc, hopen, if_true] at hp ⊢
    simp
    omega

/-- **No step exceeds the limit.** -/
theorem Fits.step {s s' : TypeStack} {step : TypeStep} (hfits : s.Fits)
    (h : s.step step = .done s') : s'.Fits := by
  intro n hn
  rw [limit_of_step h] at hn
  refine (frames_of_step h).fits (hfits n hn) ?_
  rintro rfl
  obtain ⟨hlimit, -⟩ := openList_eq_done_iff.mp h
  have hbelow : ¬ n ≤ s.depth := by
    simpa using Option.filter_eq_none_iff.mp hlimit n hn
  simp only [frames, depth, List.length_append, List.length_singleton] at hbelow ⊢
  omega

/-- A type that is complete is within the limit. -/
theorem Fits.depth_le {s : TypeStack} (hfits : s.Fits) {t : TypeName} (ht : s.toType = .ok t)
    {n : Nat} (hn : s.limit = some n) : t.depth ≤ n := by
  have h := hfits n hn
  rw [toType_eq_ok_iff.mp ht] at h
  simpa using h.1

end TypeStack

/-! ## 2. The reader -/

namespace Signature

/-- The types of a signature. -/
def types (s : Signature) : List TypeName :=
  s.annotations ++ s.returnType.toList ++ s.parameters.map (·.type) ++ s.exceptions

/-- The limit admits all of the types. -/
def Within (limit : Option Nat) (types : List TypeName) : Prop :=
  ∀ t ∈ types, ∀ n, limit = some n → t.depth ≤ n

namespace Reader

variable {r r' : Reader} {place : Place} {type : TypeStack}

/-- All types that the reader holds are within its limit. -/
structure Fits (r : Reader) : Prop where
  read : Within r.limit r.read.types
  state : ∀ (place : Place) (type : TypeStack), r.state = place.state type →
    type.limit = r.limit ∧ type.Fits

/-- Leaving a type adds it to what has been read, and nothing else. -/
theorem types_of_leaves {t : Token} (h : Leaves place type r t r') :
    ∀ u ∈ r'.read.types, u ∈ r.read.types ∨ type.toType = .ok u := by
  intro u hu
  cases h <;> simp [types, goto] at hu ⊢ <;> grind

/-- Behind a type another one begins, or none, or it is the same. -/
theorem state_of_leaves {t : Token} (h : Leaves place type r t r') {place' : Place}
    {type' : TypeStack} (hs : r'.state = place'.state type') :
    type' = type ∨ type' = r.freshType := by
  cases h <;> cases place' <;> simp_all [Place.state, goto]

/-- **No token exceeds the limit.** -/
theorem Fits.step (hfits : r.Fits) {t : Token} (h : r.step t = .ok r') : r'.Fits := by
  have hlimit : r'.limit = r.limit := (kind_of_step h).2
  -- a type that has just begun
  have fresh {r' : Reader} (hlimit : r'.limit = r.limit) (hread : r'.read.types = r.read.types)
      (hs : ∀ (place : Place) (type : TypeStack), r'.state = place.state type →
        type = r.freshType) : r'.Fits := by
    refine ⟨by rw [hlimit, hread]; exact hfits.read, fun place type h => ?_⟩
    obtain rfl := hs place type h
    exact ⟨hlimit.symm, TypeStack.fits_start r.limit⟩
  rcases r.state.place_or_between with ⟨place, type, hs⟩ | hs | hs | hs
  · obtain ⟨htype, hstack⟩ := hfits.state place type hs
    rcases step_at_place hs h with ⟨_, next, -, hnext, rfl⟩ | hleaves
    · refine ⟨hfits.read, fun place' type' hs' => ?_⟩
      obtain ⟨rfl, rfl⟩ := Place.state_inj hs'
      exact ⟨(TypeStack.limit_of_step hnext).trans htype, hstack.step hnext⟩
    · refine ⟨fun u hu n hn => ?_, fun place' type' hs' => ?_⟩
      · rw [hlimit] at hn
        rcases types_of_leaves hleaves u hu with hu | hu
        · exact hfits.read u hu n hn
        · exact hstack.depth_le hu (htype.trans hn)
      · rcases state_of_leaves hleaves hs' with rfl | rfl
        · exact ⟨htype.trans hlimit.symm, hstack⟩
        · exact ⟨hlimit.symm, TypeStack.fits_start r.limit⟩
  · rcases step_modifiers hs h with ⟨_, _, -, -, rfl⟩ | ⟨-, rfl⟩ | ⟨_, -, -, -, rfl⟩ |
      ⟨n, next, -, -, -, hnext, rfl⟩
    · exact fresh rfl rfl fun place _ h => by cases place <;> simp_all [Place.state]
    · exact fresh rfl rfl fun place _ h => by cases place <;> simp_all [Place.state, goto]
    · exact fresh rfl rfl fun place _ h => by cases place <;> simp_all [Place.state]
    · have hnext : r.freshType.step (.setName n) = .done next := hnext
      refine ⟨hfits.read, fun place' type' hs' => ?_⟩
      have hs' : Place.returnType.state next = place'.state type' := hs'
      obtain ⟨-, rfl⟩ := Place.state_inj hs'
      exact ⟨TypeStack.limit_of_step hnext, (TypeStack.fits_start r.limit).step hnext⟩
  · rcases step_name hs h with ⟨_, -, rfl⟩ | ⟨-, -, rfl⟩ <;>
      exact fresh rfl rfl fun place _ h => by cases place <;> simp_all [Place.state, goto]
  · obtain ⟨-, rfl⟩ := step_complete hs h
    exact fresh rfl rfl fun place _ h => by cases place <;> simp_all [Place.state, goto]

theorem Fits.run {ts : List Token} (hfits : r.Fits) (h : r.run ts = .ok r') : r'.Fits := by
  induction ts generalizing r with
  | nil => exact Except.ok.inj h ▸ hfits
  | cons t ts ih =>
    obtain ⟨middle, hstep, hrun⟩ := ok_of_bind h
    exact ih (hfits.step hstep) hrun

theorem Fits.start (kind : MemberKind) (limit : Option Nat) : (start kind limit).Fits :=
  ⟨by simp [Within, types, Reader.start], fun place type h => by
    cases place <;> simp [Reader.start, Place.state] at h⟩

/-- The end of the signature adds no type but the last exception. -/
theorem types_of_finish {s : Signature} (h : r.finish = .ok s) :
    ∀ u ∈ s.types, u ∈ r.read.types ∨
      ∃ type, r.state = Place.exception.state type ∧ type.toType = .ok u := by
  intro u hu
  simp only [Reader.finish] at h
  split at h
  · obtain rfl := Except.ok.inj h
    exact Or.inl hu
  · rename_i type hs
    split at h
    · obtain ⟨pushed, hpushed, hread⟩ := ok_of_bind h
      obtain ⟨a, ha, rfl⟩ := pushException_eq_ok_iff.mp hpushed
      obtain rfl := Except.ok.inj hread
      have hu : u ∈ r.read.types ∨ u = a := by
        simp only [types, List.mem_append, List.mem_singleton] at hu ⊢
        grind
      rcases hu with hu | rfl
      · exact Or.inl hu
      · exact Or.inr ⟨type, hs, ha⟩
    · simp at h
  · split at h
    · obtain rfl := Except.ok.inj h
      exact Or.inl hu
    · simp at h
  · simp at h

theorem Fits.finish (hfits : r.Fits) {s : Signature} (h : r.finish = .ok s) :
    Within r.limit s.types := by
  intro u hu n hn
  rcases types_of_finish h u hu with hu | ⟨type, hs, ha⟩
  · exact hfits.read u hu n hn
  · obtain ⟨htype, hstack⟩ := hfits.state _ _ hs
    exact hstack.depth_le ha (htype.trans hn)

end Reader

/-- **The types of an accepted signature are within the limit.** -/
theorem within_of_ofTokens {kind : MemberKind} {limit : Option Nat} {ts : List Token}
    {s : Signature} (h : ofTokens kind limit ts = .ok s) : Within limit s.types := by
  obtain ⟨r, hrun, hfinish⟩ := ok_of_bind h
  have hlimit : r.limit = limit := (Reader.kind_of_run hrun).2
  exact hlimit ▸ ((Reader.Fits.start kind limit).run hrun).finish hfinish

end Signature

end ApiPages
