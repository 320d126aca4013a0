/-
# What a failed step leaves behind

Whoever goes on after a failure goes on with the stack that the failed step left behind.  A step
that fails leaves the stack as it was, with one exception: finishing the innermost argument takes
its frame off before it asks for a name, and a frame without one is lost (`TypeStack.loses`,
`step_of_loses`, `eq_of_failed`).  The levels that remain below are named and have their lists
open, whatever has failed before (`Waits.after`), so nothing else can go wrong half-way.

The list of a lost argument has been opened and is not closed.  If it is the list of the type
itself, it stays open for good and no type comes out any more (`toType_of_stuck`); further in, the
level whose argument was lost can still be finished, and is handed down as if its list had never
been opened.  So a type may come out with fewer lists closed than opened, and the difference is
the number of arguments lost (`attempts_accounted`, `unbalanced_accepted`).
-/
import ApiPages.Proofs.Signature.Balance

namespace ApiPages

namespace TypeStack

variable {s s' : TypeStack} {t : TypeStep}

/-! ## 1. Steps that fail -/

/-- Whether a step is about to finish the innermost argument, although it has no name. -/
def loses (s : TypeStack) : TypeStep → Bool
  | .nextArgument | .closeList => s.inArgument && s.current.name.isNone
  | _ => false

/-- The stack without its innermost argument. -/
def withoutInnermost (s : TypeStack) : TypeStack := { s with inner := s.inner.tail }

/-- Every level below the innermost one waits for the argument above it. -/
def Waits (s : TypeStack) : Prop := ∀ f ∈ s.frames.tail, f.Waiting

theorem inner_of_loses (h : s.loses t = true) :
    ∃ f below, s.inner = f :: below ∧ f.name = none := by
  obtain ⟨root, inner, limit⟩ := s
  cases inner with
  | nil => cases t <;> simp [loses, inArgument] at h
  | cons f below => cases t <;> simp_all [loses, inArgument, current]

/-- **An argument without a name is lost** when it is finished. -/
theorem step_of_loses (h : s.loses t = true) :
    s.step t = .failed .unnamedType s.withoutInnermost := by
  obtain ⟨f, below, hinner, hname⟩ := inner_of_loses h
  have htype : f.toType = .error .unnamedType := by simp [TypeFrame.toType, hname]
  cases t with
  | nextArgument => simp [step, nextArgument, handDown, hinner, htype, withoutInnermost]
  | closeList => simp [step, closeList, handDown, hinner, htype, withoutInnermost]
  | setName | appendSuffix | openList => cases h

/-- A loss leaves another stack behind. -/
theorem withoutInnermost_ne (h : s.loses t = true) : s.withoutInnermost ≠ s := by
  obtain ⟨f, below, hinner, -⟩ := inner_of_loses h
  intro heq
  have hlength := congrArg (·.inner.length) heq
  simp [withoutInnermost, hinner] at hlength

theorem eq_of_onCurrent_failed {change : TypeFrame → Except Failure TypeFrame} {failure : Failure}
    (h : s.onCurrent change = .failed failure s') : s' = s := by
  unfold onCurrent at h
  split at h
  · cases h
  · cases h
    rfl

/-- An argument that has a name can be handed to a level that waits for it. -/
theorem eq_of_handDown_failed (hwaits : s.Waits) {failure : Failure}
    {change : TypeName → TypeFrame → Except Failure TypeFrame}
    (hchange : ∀ a p, p.isOpen = true → ∃ g, change a p = .ok g)
    (hnamed : (s.inArgument && s.current.name.isNone) = false)
    (h : s.handDown change = .failed failure s') : s' = s := by
  unfold handDown at h
  split at h
  · cases h
    rfl
  · rename_i f below hinner
    have hname : f.name.isSome = true := by simpa [inArgument, current, hinner] using hnamed
    obtain ⟨n, hn⟩ := Option.isSome_iff_exists.mp hname
    have hwaiting : ({ s with inner := below } : TypeStack).current.Waiting := by
      refine hwaits _ ?_
      rw [frames_of_inner hinner, List.tail_cons, frames_eq_cons]
      exact List.mem_cons_self
    obtain ⟨g, hg⟩ := hchange ⟨n, f.arguments⟩ _ hwaiting.isOpen
    simp [TypeFrame.toType, hn, onCurrent, hg] at h

/-- **Any other step that fails leaves the stack as it was.** -/
theorem eq_of_failed (hwaits : s.Waits) (hloses : s.loses t = false) {failure : Failure}
    (h : s.step t = .failed failure s') : s' = s := by
  cases t with
  | setName n =>
    simp only [step, setName] at h
    exact eq_of_onCurrent_failed h
  | appendSuffix w =>
    simp only [step, appendSuffix] at h
    exact eq_of_onCurrent_failed h
  | openList =>
    simp only [step, openList] at h
    grind
  | nextArgument =>
    simp only [step, nextArgument] at h
    split at h
    · cases h
    · rename_i hdown
      cases h
      exact eq_of_handDown_failed hwaits (fun a _ hp => Balanced.exists_pushArgument a hp) hloses
        hdown
  | closeList =>
    simp only [step, closeList] at h
    exact eq_of_handDown_failed hwaits (fun a _ hp => Balanced.exists_pushLast a hp) hloses h

/-- **A step succeeds, or loses an argument, or fails and changes nothing.** -/
theorem attempt_cases (hwaits : s.Waits) (t : TypeStep) :
    (∃ s', s.step t = .done s' ∧ s.loses t = false) ∨
    (s.step t = .failed .unnamedType s.withoutInnermost ∧ s.loses t = true) ∨
    (∃ failure, s.step t = .failed failure s ∧ s.loses t = false) := by
  cases hloses : s.loses t with
  | true => exact .inr (.inl ⟨step_of_loses hloses, rfl⟩)
  | false =>
    cases hstep : s.step t with
    | done s' => exact .inl ⟨s', rfl, rfl⟩
    | failed failure rest =>
      obtain rfl := eq_of_failed hwaits hloses hstep
      exact .inr (.inr ⟨failure, rfl, rfl⟩)

/-! ## 2. Stacks that wait, and stacks that are stuck -/

theorem waits_start (limit : Option Nat) : (start limit).Waits := by simp [Waits]

/-- The levels below one that is taken off waited before. -/
theorem Waits.withoutInnermost (h : s.Waits) : s.withoutInnermost.Waits := by
  intro f hf
  cases hinner : s.inner with
  | nil => simp [TypeStack.withoutInnermost, frames, hinner] at hf
  | cons g below =>
    refine h f ?_
    rw [frames_of_inner hinner, List.tail_cons]
    simp only [TypeStack.withoutInnermost, hinner, List.tail_cons] at hf
    exact List.mem_of_mem_tail hf

/-- **Whether a step succeeds or fails, all levels below the innermost one wait.** -/
theorem Waits.step (h : s.Waits) (t : TypeStep) : (s.step t).value.Waits := by
  rcases attempt_cases h t with ⟨s', hstep, -⟩ | ⟨hstep, -⟩ | ⟨failure, hstep, -⟩
  · rw [hstep]
    exact (frames_of_step hstep).waiting h
  · rw [hstep]
    exact h.withoutInnermost
  · rw [hstep]
    exact h

/-- No argument is being read, but the list of the type itself is open. -/
structure Stuck (s : TypeStack) : Prop where
  inner : s.inner = []
  root : s.root.Waiting

/-- **A stack that is stuck stays so**: all that it still takes is a suffix. -/
theorem Stuck.step (h : s.Stuck) (t : TypeStep) : (s.step t).value.Stuck := by
  obtain ⟨⟨name, arguments, isOpen⟩, inner, limit⟩ := s
  obtain ⟨rfl, hnamed, rfl⟩ := h
  obtain ⟨n, rfl⟩ := Option.isSome_iff_exists.mp hnamed
  have hstuck : (⟨⟨some n, arguments, true⟩, [], limit⟩ : TypeStack).Stuck := ⟨rfl, rfl, rfl⟩
  cases t with
  | setName m => exact hstuck
  | appendSuffix w => exact ⟨rfl, rfl, rfl⟩
  | openList =>
    simp only [TypeStack.step, openList]
    split
    · exact hstuck
    · exact hstuck
  | nextArgument => exact hstuck
  | closeList => exact hstuck

/-- A stack that is stuck yields no type. -/
theorem Stuck.toType_eq (h : s.Stuck) : s.toType = .error (.incomplete .genericArgument) := by
  simp [toType, h.root.isOpen]

/-- Losing an argument of the type itself leaves its list open for good. -/
theorem stuck_of_loses (hwaits : s.Waits) (hloses : s.loses t = true) (hdepth : s.depth < 2) :
    (s.step t).value.Stuck := by
  obtain ⟨f, below, hinner, -⟩ := inner_of_loses hloses
  have hbelow : below = [] := by
    simp only [depth, hinner, List.length_cons] at hdepth
    exact List.eq_nil_of_length_eq_zero (by omega)
  subst hbelow
  rw [step_of_loses hloses]
  refine ⟨by simp [Attempt.value, withoutInnermost, hinner], hwaits s.root ?_⟩
  simp [frames, hinner]

/-! ## 3. Sequences of attempts -/

/-- The stack after a sequence of steps, of which one that fails does not stop the others. -/
def after (s : TypeStack) (steps : List TypeStep) : TypeStack :=
  steps.foldl (fun s t => (s.step t).value) s

/-- The steps of such a sequence, each with the stack that it is tried on. -/
def attempts (s : TypeStack) : List TypeStep → List (TypeStack × TypeStep)
  | [] => []
  | t :: steps => (s, t) :: (s.step t).value.attempts steps

/-- How often a step has been tried with success. -/
def successes (t : TypeStep) (attempts : List (TypeStack × TypeStep)) : Nat :=
  attempts.countP fun a => a.2 == t && (a.1.step a.2).failure?.isNone

/-- How many arguments have been lost. -/
def losses (attempts : List (TypeStack × TypeStep)) : Nat :=
  attempts.countP fun a => a.1.loses a.2

theorem waits_of_mem_attempts (h : s.Waits) {steps : List TypeStep} {a : TypeStack × TypeStep}
    (ha : a ∈ s.attempts steps) : a.1.Waits := by
  induction steps generalizing s with
  | nil => cases ha
  | cons t steps ih =>
    rcases List.mem_cons.mp ha with rfl | ha
    · exact h
    · exact ih (h.step t) ha

theorem Stuck.after (h : s.Stuck) (steps : List TypeStep) : (s.after steps).Stuck := by
  induction steps generalizing s with
  | nil => exact h
  | cons t steps ih => exact ih (h.step t)

/-- **An argument of the type itself is never lost on the way to a type.** -/
theorem stuck_of_mem_attempts (h : s.Waits) {steps : List TypeStep} {a : TypeStack × TypeStep}
    (ha : a ∈ s.attempts steps) (hloses : a.1.loses a.2 = true) (hdepth : a.1.depth < 2) :
    (s.after steps).Stuck := by
  induction steps generalizing s with
  | nil => cases ha
  | cons t steps ih =>
    rcases List.mem_cons.mp ha with rfl | ha
    · exact (stuck_of_loses h hloses hdepth).after steps
    · exact ih (h.step t) ha

/-- **A list that was opened is open, or closed, or has lost its last argument.** -/
theorem depth_after (h : s.Waits) (steps : List TypeStep) :
    (s.after steps).depth + successes .closeList (s.attempts steps) + losses (s.attempts steps) =
      s.depth + successes .openList (s.attempts steps) := by
  induction steps generalizing s with
  | nil => rfl
  | cons t steps ih =>
    have ih := ih (h.step t)
    have hafter : s.after (t :: steps) = (s.step t).value.after steps := rfl
    have hattempts : s.attempts (t :: steps) = (s, t) :: (s.step t).value.attempts steps := rfl
    rw [hafter, hattempts]
    simp only [successes, losses, List.countP_cons] at ih ⊢
    rcases attempt_cases h t with ⟨s', hstep, hloses⟩ | ⟨hstep, hloses⟩ | ⟨failure, hstep, hloses⟩
    · have hlength := (frames_of_step hstep).length_eq
      rw [length_frames, length_frames] at hlength
      rw [hstep] at ih ⊢
      simp only [Attempt.value, Attempt.failure?, hloses] at ih ⊢
      simp only [List.count_singleton] at hlength
      simp only [Option.isNone_none, Bool.and_true, Bool.false_eq_true, if_false]
      omega
    · obtain ⟨f, below, hinner, -⟩ := inner_of_loses hloses
      have hdepth : s.withoutInnermost.depth + 1 = s.depth := by
        simp [depth, withoutInnermost, hinner]
      rw [hstep] at ih ⊢
      simp only [Attempt.value, Attempt.failure?, hloses] at ih ⊢
      simp
      omega
    · rw [hstep] at ih ⊢
      simp only [Attempt.value, Attempt.failure?, hloses] at ih ⊢
      simp
      omega

/-! ## 4. What comes out -/

/-- What holds of steps that are tried one after the other on a new stack with the given limit. -/
structure AttemptsAccounted (limit : Option Nat) (steps : List TypeStep) : Prop where
  /-- A step that fails leaves another stack behind exactly if it loses an argument. -/
  changed_iff : ∀ a ∈ (start limit).attempts steps, ∀ failure rest,
    a.1.step a.2 = .failed failure rest → (rest ≠ a.1 ↔ a.1.loses a.2 = true)
  /-- The frame of that argument is then gone, and nothing else. -/
  lost : ∀ a ∈ (start limit).attempts steps, a.1.loses a.2 = true →
    a.1.step a.2 = .failed .unnamedType a.1.withoutInnermost
  depth_eq : ((start limit).after steps).depth
      + successes .closeList ((start limit).attempts steps)
      + losses ((start limit).attempts steps)
    = successes .openList ((start limit).attempts steps)
  /-- If a type comes out, then arguments have been lost inside of other arguments only, and as
  many as there are lists that were opened and not closed. -/
  of_toType : ∀ type, ((start limit).after steps).toType = .ok type →
    (∀ a ∈ (start limit).attempts steps, a.1.loses a.2 = true → 2 ≤ a.1.depth) ∧
      successes .closeList ((start limit).attempts steps)
        + losses ((start limit).attempts steps)
      = successes .openList ((start limit).attempts steps)
  /-- So the lists are balanced exactly if no argument was lost. -/
  balanced_iff : ∀ type, ((start limit).after steps).toType = .ok type →
    (successes .closeList ((start limit).attempts steps)
        = successes .openList ((start limit).attempts steps) ↔
      ∀ a ∈ (start limit).attempts steps, a.1.loses a.2 = false)

/-- **The only failure that changes a stack is the loss of an argument**, and only where one was
lost does a type come out of unbalanced lists. -/
theorem attempts_accounted (limit : Option Nat) (steps : List TypeStep) :
    AttemptsAccounted limit steps := by
  have hwaits := waits_start limit
  have hdepth := depth_after hwaits steps
  have hstart : (start limit).depth = 0 := rfl
  rw [hstart, Nat.zero_add] at hdepth
  have hclosed : ∀ type, ((start limit).after steps).toType = .ok type →
      successes .closeList ((start limit).attempts steps) + losses ((start limit).attempts steps)
        = successes .openList ((start limit).attempts steps) := by
    intro type htype
    have hframes := congrArg List.length (toType_eq_ok_iff.mp htype)
    rw [length_frames, List.length_singleton] at hframes
    omega
  refine {
    changed_iff := ?changed
    lost := fun a _ hloses => step_of_loses hloses
    depth_eq := hdepth
    of_toType := fun type htype => ⟨fun a ha hloses => ?inside, hclosed type htype⟩
    balanced_iff := ?balanced }
  case changed =>
    intro a ha failure rest hstep
    cases hloses : a.1.loses a.2 with
    | true =>
      rw [step_of_loses hloses] at hstep
      cases hstep
      simpa using withoutInnermost_ne hloses
    | false => simpa using eq_of_failed (waits_of_mem_attempts hwaits ha) hloses hstep
  case inside =>
    by_contra houtside
    have hstuck := stuck_of_mem_attempts hwaits ha hloses (by omega)
    rw [hstuck.toType_eq] at htype
    cases htype
  case balanced =>
    intro type htype
    have hclosed := hclosed type htype
    have hnone : losses ((start limit).attempts steps) = 0 ↔
        ∀ a ∈ (start limit).attempts steps, a.1.loses a.2 = false := by
      simp [losses, List.countP_eq_zero]
    rw [← hnone]
    omega

/-- `A<B<` and two closing brackets: the first one fails and loses the argument of `B`, the second
one closes the list of `A`, and the list of `B` is never closed. -/
theorem unbalanced_accepted :
    let steps : List TypeStep :=
      [.setName "A", .openList, .setName "B", .openList, .closeList, .closeList]
    let attempts := (start none).attempts steps
    let within := (start none).after (steps.take 4)
    within.step .closeList = .failed .unnamedType within.withoutInnermost ∧
      within.withoutInnermost ≠ within ∧
      ((start none).after steps).toType = .ok ⟨"A", [⟨"B", []⟩]⟩ ∧
      successes .openList attempts = 2 ∧ successes .closeList attempts = 1 :=
  ⟨rfl, by decide, rfl, rfl, rfl⟩

end TypeStack

end ApiPages
