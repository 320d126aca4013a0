/-
# Argument lists are balanced

A stack that has been built by steps of which none failed is in balance (`TypeStack.Balanced`): the
innermost level has no open list, every level below it has a name and waits in its open list for
the level above, and the limit admits all of them.  A new stack is in balance, and a step that
succeeds keeps the balance (`Balanced.step`), because it changes the two innermost frames at most
(`FrameStep.balanced`).

The two ways of being inside a list, the flag of a frame and the height of the stack, are in step
for this reason.  So the depth is what was opened and not closed (`depth_of_run`), a list that is
opened was closed, and a level that takes an argument has its list open: of the failures of a step
only those remain that a reader can bring about (`Balanced.openList_iff`,
`Balanced.nextArgument_iff`, `Balanced.closeList_iff`).
-/
import ApiPages.Proofs.Outcome
import ApiPages.Proofs.Signature.Limit

namespace ApiPages

/-! ## 1. Frames in balance -/

/-- The level waits in its list for the argument above it. -/
structure TypeFrame.Waiting (f : TypeFrame) : Prop where
  named : f.name.isSome = true
  isOpen : f.isOpen = true

/-- Frames, the innermost first, of which all but the innermost one wait for the one above. -/
structure BalancedFrames (frames : List TypeFrame) : Prop where
  innermost : ∀ f ∈ frames.head?, f.isOpen = false
  below : ∀ f ∈ frames.tail, f.Waiting

theorem BalancedFrames.cons {f : TypeFrame} {below : List TypeFrame} (hf : f.isOpen = false)
    (hbelow : ∀ g ∈ below, g.Waiting) : BalancedFrames (f :: below) where
  innermost := by
    intro g hg
    obtain rfl : f = g := by simpa using hg
    exact hf
  below := hbelow

namespace TypeStack

/-- A step that succeeds leaves levels below the innermost one that wait. -/
theorem FrameStep.waiting {frames frames' : List TypeFrame} {step : TypeStep}
    (h : FrameStep frames step frames') (hbelow : ∀ f ∈ frames.tail, f.Waiting) :
    ∀ f ∈ frames'.tail, f.Waiting := by
  cases h with
  | setName hname => exact hbelow
  | appendSuffix hname => exact hbelow
  | openList hname hopen => exact List.forall_mem_cons.mpr ⟨⟨by simp [hname], rfl⟩, hbelow⟩
  | nextArgument ha hopen =>
    obtain ⟨hp, hbelow⟩ := List.forall_mem_cons.mp hbelow
    exact List.forall_mem_cons.mpr ⟨⟨hp.named, hp.isOpen⟩, hbelow⟩
  | closeList ha hopen => exact (List.forall_mem_cons.mp hbelow).2

/-- **A step that succeeds keeps the balance.** -/
theorem FrameStep.balanced {frames frames' : List TypeFrame} {step : TypeStep}
    (h : FrameStep frames step frames') (hframes : BalancedFrames frames) :
    BalancedFrames frames' := by
  have hbelow := h.waiting hframes.below
  cases h with
  | @setName f below n hname =>
    have hf : f.isOpen = false := hframes.innermost f rfl
    exact .cons hf hbelow
  | @appendSuffix f below n w hname =>
    have hf : f.isOpen = false := hframes.innermost f rfl
    exact .cons hf hbelow
  | openList hname hopen => exact .cons rfl hbelow
  | nextArgument ha hopen => exact .cons rfl hbelow
  | closeList ha hopen => exact .cons rfl hbelow

/-- Opening a list adds a frame, closing one takes a frame off, and no other step does either. -/
theorem FrameStep.length_eq {frames frames' : List TypeFrame} {step : TypeStep}
    (h : FrameStep frames step frames') :
    frames'.length + [step].count .closeList = frames.length + [step].count .openList := by
  cases h <;> simp

/-! ## 2. Stacks in balance -/

/-- **The frames of the stack are in balance**, and the limit admits them. -/
structure Balanced (s : TypeStack) : Prop where
  frames : BalancedFrames s.frames
  fits : s.Fits

theorem balanced_start (limit : Option Nat) : (start limit).Balanced where
  frames := .cons rfl (by simp)
  fits := fits_start limit

theorem length_frames (s : TypeStack) : s.frames.length = s.depth + 1 := by
  simp [TypeStack.frames, depth]

theorem length_tail_frames (s : TypeStack) : s.frames.tail.length = s.depth := by
  rw [List.length_tail, length_frames, Nat.add_sub_cancel]

namespace Balanced

variable {s s' : TypeStack}

/-- A step keeps the balance. -/
theorem step {step : TypeStep} (h : s.Balanced) (hstep : s.step step = .done s') :
    s'.Balanced where
  frames := (frames_of_step hstep).balanced h.frames
  fits := h.fits.step hstep

theorem current_isOpen (h : s.Balanced) : s.current.isOpen = false := by
  refine h.frames.innermost s.current ?_
  rw [frames_eq_cons]
  rfl

theorem depth_le (h : s.Balanced) {n : Nat} (hlimit : s.limit = some n) : s.depth ≤ n := by
  have hfits := h.fits n hlimit
  rw [frames_eq_cons] at hfits
  have hinnermost := hfits.1
  rw [length_tail_frames] at hinnermost
  omega

/-- The level below the innermost one waits for it. -/
theorem waiting_of_inner (h : s.Balanced) {f : TypeFrame} {below : List TypeFrame}
    (hinner : s.inner = f :: below) : ({ s with inner := below } : TypeStack).current.Waiting := by
  refine h.frames.below _ ?_
  rw [frames_of_inner hinner, List.tail_cons, frames_eq_cons]
  exact List.mem_cons_self

/-! The failures that remain. -/

/-- **A list is opened unless the limit is reached or the level has no name.** -/
theorem openList_iff (h : s.Balanced) :
    (∃ s', s.openList = .done s') ↔ s.exceeded? = none ∧ s.current.name.isSome = true := by
  simp only [openList_eq_done_iff, Option.isSome_iff_exists]
  constructor
  · rintro ⟨-, hlimit, n, hname, -, -⟩
    exact ⟨hlimit, n, hname⟩
  · rintro ⟨hlimit, n, hname⟩
    exact ⟨_, hlimit, n, hname, h.current_isOpen, rfl⟩

/-- Handing the innermost argument down succeeds if there is one that has a name, as long as the
level below is changed in a way that its open list allows. -/
theorem handDown_iff (h : s.Balanced) {change : TypeName → TypeFrame → Except Failure TypeFrame}
    (hchange : ∀ a p, p.isOpen = true → ∃ g, change a p = .ok g) :
    (∃ s', s.handDown change = .done s') ↔ 0 < s.depth ∧ s.current.name.isSome = true := by
  constructor
  · rintro ⟨s', hs'⟩
    obtain ⟨f, below, a, g, hinner, ha, -, -⟩ := handDown_eq_done_iff.mp hs'
    have hcurrent : s.current = f := by simp [current, hinner]
    refine ⟨by simp [depth, hinner], ?_⟩
    cases hname : f.name with
    | none => simp [TypeFrame.toType, hname] at ha
    | some n => simp [hcurrent, hname]
  · rintro ⟨hdepth, hname⟩
    cases hinner : s.inner with
    | nil => simp [depth, hinner] at hdepth
    | cons f below =>
      have hcurrent : s.current = f := by simp [current, hinner]
      obtain ⟨n, hn⟩ := Option.isSome_iff_exists.mp hname
      have ha : f.toType = .ok ⟨n, f.arguments⟩ := by simp [TypeFrame.toType, ← hcurrent, hn]
      obtain ⟨g, hg⟩ := hchange ⟨n, f.arguments⟩ _ (h.waiting_of_inner hinner).isOpen
      exact ⟨_, handDown_eq_done_iff.mpr ⟨f, below, _, g, hinner, ha, hg, rfl⟩⟩

theorem exists_pushArgument (a : TypeName) {p : TypeFrame} (hp : p.isOpen = true) :
    ∃ g, p.pushArgument a = .ok g :=
  ⟨_, TypeFrame.pushArgument_eq_ok_iff.mpr ⟨hp, rfl⟩⟩

theorem exists_pushLast (a : TypeName) {p : TypeFrame} (hp : p.isOpen = true) :
    ∃ g, (do (← p.pushArgument a).closeList) = .ok g :=
  ⟨_, TypeFrame.pushLast_eq_ok_iff.mpr ⟨hp, rfl⟩⟩

/-- **The next argument is begun unless no list is open or the argument has no name.** -/
theorem nextArgument_iff (h : s.Balanced) :
    (∃ s', s.nextArgument = .done s') ↔ 0 < s.depth ∧ s.current.name.isSome = true := by
  rw [← h.handDown_iff fun a _ hp => exists_pushArgument a hp]
  unfold nextArgument
  constructor
  · rintro ⟨s', hs'⟩
    split at hs'
    · rename_i next hnext
      exact ⟨next, hnext⟩
    · cases hs'
  · rintro ⟨next, hnext⟩
    exact ⟨next.push, by rw [hnext]⟩

/-- **A list is closed unless none is open or its last argument has no name.** -/
theorem closeList_iff (h : s.Balanced) :
    (∃ s', s.closeList = .done s') ↔ 0 < s.depth ∧ s.current.name.isSome = true :=
  h.handDown_iff fun a _ hp => exists_pushLast a hp

/-! The type that has been read. -/

/-- While a list is open there is no type. -/
theorem toType_of_open (hdepth : 0 < s.depth) :
    s.toType = .error (.incomplete .genericArgument) := by
  have hinner : s.inner ≠ [] := List.ne_nil_of_length_pos hdepth
  simp [toType, inArgument, hinner]

/-- With all lists closed, the stack yields what its root yields. -/
theorem toType_of_closed (h : s.Balanced) (hdepth : s.depth = 0) : s.toType = s.root.toType := by
  have hinner : s.inner = [] := List.eq_nil_of_length_eq_zero hdepth
  have hroot : s.root.isOpen = false := by simpa [current, hinner] using h.current_isOpen
  simp [toType, inArgument, hinner, hroot]

/-- **A type has been read when all lists are closed and the root has a name.** -/
theorem toType_iff (h : s.Balanced) :
    (∃ t, s.toType = .ok t) ↔ s.depth = 0 ∧ s.root.name.isSome = true := by
  rcases Nat.eq_zero_or_pos s.depth with hdepth | hdepth
  · rw [h.toType_of_closed hdepth]
    cases hname : s.root.name <;> simp [TypeFrame.toType, hname, hdepth]
  · rw [toType_of_open hdepth]
    have hne : s.depth ≠ 0 := Nat.ne_of_gt hdepth
    simp [hne]

end Balanced

/-! ## 3. Runs of steps -/

/-- The stack after a sequence of steps, of which none fails. -/
def run (s : TypeStack) (steps : List TypeStep) : Except Failure TypeStack :=
  steps.foldlM (fun s step => (s.step step).toExcept) s

variable {s s' : TypeStack} {steps : List TypeStep}

theorem Balanced.run (h : s.Balanced) (hrun : s.run steps = .ok s') : s'.Balanced :=
  foldlM_induction Balanced
    (fun _ _ _ _ hbalanced hstep => hbalanced.step (done_of_toExcept hstep)) h hrun

theorem limit_of_run (hrun : s.run steps = .ok s') : s'.limit = s.limit :=
  foldlM_induction (fun r => r.limit = s.limit)
    (fun _ _ _ _ hlimit hstep => (limit_of_step (done_of_toExcept hstep)).trans hlimit) rfl hrun

/-- **The depth grows by the lists that are opened and shrinks by those that are closed.** -/
theorem depth_of_run (hrun : s.run steps = .ok s') :
    s'.depth + steps.count .closeList = s.depth + steps.count .openList := by
  induction steps generalizing s with
  | nil =>
    obtain rfl : s = s' := Except.ok.inj hrun
    rfl
  | cons step steps ih =>
    rw [run, List.foldlM_cons] at hrun
    obtain ⟨mid, hstep, hrest⟩ := ok_of_bind hrun
    have hlength := (frames_of_step (done_of_toExcept hstep)).length_eq
    rw [length_frames, length_frames] at hlength
    have hdepth := ih hrest
    rw [← List.singleton_append, List.count_append, List.count_append]
    omega

/-! ## 4. What every run keeps -/

/-- What holds of a stack after steps on a new stack with the given limit. -/
structure BalancedRun (limit : Option Nat) (steps : List TypeStep) (s : TypeStack) : Prop where
  /-- The open lists are those that were opened and not closed. -/
  depth_eq : s.depth + steps.count .closeList = steps.count .openList
  depth_le : ∀ n, limit = some n → s.depth ≤ n
  below : ∀ f ∈ s.frames.tail, f.name.isSome = true ∧ f.isOpen = true
  innermost : s.current.isOpen = false
  /-- The list of the innermost level can be opened, so opening fails for other reasons only. -/
  enters : ∃ f, s.current.openList = .ok f
  openList_iff : (∃ s', s.openList = .done s') ↔
    (∀ n, limit = some n → s.depth < n) ∧ s.current.name.isSome = true
  /-- The level below the innermost one can take any argument, and can be closed then; so going on
  and closing fail for other reasons only. -/
  takes : ∀ f below, s.inner = f :: below → ∀ a, ∃ p q,
    ({ s with inner := below } : TypeStack).current.pushArgument a = .ok p ∧ p.closeList = .ok q
  nextArgument_iff : (∃ s', s.nextArgument = .done s') ↔
    0 < s.depth ∧ s.current.name.isSome = true
  closeList_iff : (∃ s', s.closeList = .done s') ↔ 0 < s.depth ∧ s.current.name.isSome = true
  toType_iff : (∃ t, s.toType = .ok t) ↔ s.depth = 0 ∧ s.root.name.isSome = true
  toType_of_open : 0 < s.depth → s.toType = .error (.incomplete .genericArgument)
  toType_of_unnamed : s.depth = 0 → s.root.name = none → s.toType = .error .unnamedType

theorem exceeded?_eq_none_iff (s : TypeStack) :
    s.exceeded? = none ↔ ∀ n, s.limit = some n → s.depth < n := by
  simp [exceeded?, Option.filter_eq_none_iff]

/-- **The argument lists of a type are balanced**, whatever steps have led to it. -/
theorem balance_of_run (limit : Option Nat) (steps : List TypeStep) {s : TypeStack}
    (hrun : (start limit).run steps = .ok s) : BalancedRun limit steps s := by
  have hbalanced := (balanced_start limit).run hrun
  have hlimit : s.limit = limit := limit_of_run hrun
  have hdepth := depth_of_run hrun
  refine {
    depth_eq := hdepth.trans (Nat.zero_add _)
    depth_le := fun n hn => hbalanced.depth_le (hlimit.trans hn)
    below := fun f hf => ⟨(hbalanced.frames.below f hf).named, (hbalanced.frames.below f hf).isOpen⟩
    innermost := hbalanced.current_isOpen
    enters := ?enters
    openList_iff := ?opens
    takes := ?takes
    nextArgument_iff := hbalanced.nextArgument_iff
    closeList_iff := hbalanced.closeList_iff
    toType_iff := hbalanced.toType_iff
    toType_of_open := Balanced.toType_of_open
    toType_of_unnamed := ?unnamed }
  case enters =>
    refine ⟨{ s.current with isOpen := true }, ?_⟩
    simp [TypeFrame.openList, hbalanced.current_isOpen]
  case opens => rw [hbalanced.openList_iff, exceeded?_eq_none_iff, hlimit]
  case takes =>
    intro f below hinner a
    have hopen := (hbalanced.waiting_of_inner hinner).isOpen
    obtain ⟨p, hp⟩ := Balanced.exists_pushArgument a hopen
    obtain ⟨-, rfl⟩ := TypeFrame.pushArgument_eq_ok_iff.mp hp
    exact ⟨_, _, hp, by simp [TypeFrame.closeList, hopen]; rfl⟩
  case unnamed =>
    intro hzero hname
    rw [hbalanced.toType_of_closed hzero]
    simp [TypeFrame.toType, hname]

/-- Within `Map<K, List<T>`, which is allowed two lists and has one closed, one list is open, and
the type is not finished. -/
theorem balance_of_run_nested :
    let steps : List TypeStep := [.setName "Map", .openList, .setName "K", .nextArgument,
      .setName "List", .openList, .setName "T", .closeList]
    let list : TypeFrame := ⟨some "List", [.simple "T"], false⟩
    let s : TypeStack := ⟨⟨some "Map", [.simple "K"], true⟩, [list], some 2⟩
    (start (some 2)).run steps = .ok s ∧ BalancedRun (some 2) steps s ∧ s.depth = 1 := by
  intro steps list s
  have hrun : (start (some 2)).run steps = .ok s := by decide +kernel
  exact ⟨hrun, balance_of_run (some 2) steps hrun, rfl⟩

end TypeStack

end ApiPages
