/-
# The frames of a type under construction

A stack of frames keeps the type itself apart from its open arguments.  For reasoning one list is
better: all frames, the innermost first and the type itself last (`TypeStack.frames`).  This file
says what each operation does to that list when it succeeds (`frames_of_step`), and conversely
when the operations succeed.

Two frames recur: the frame of a type that has been read to its end (`TypeFrame.finished`), and
the place that a frame takes on a stack while its argument list is open or closed
(`TypeStack.seat`).
-/
import ApiPages.Signature.TypeStack
import Mathlib.Data.List.Basic

namespace ApiPages

/-! ## 1. Frames -/

namespace TypeFrame

/-- The frame of a type that has been read to its end. -/
def finished (t : TypeName) : TypeFrame := ⟨some t.name, t.arguments, false⟩

theorem finished_inj {t u : TypeName} (h : finished t = finished u) : t = u := by
  obtain ⟨n, as⟩ := t
  obtain ⟨m, bs⟩ := u
  simpa [finished] using h

@[simp] theorem finished_name (t : TypeName) : (finished t).name = some t.name := rfl

@[simp] theorem finished_isOpen (t : TypeName) : (finished t).isOpen = false := rfl

@[simp] theorem empty_name : empty.name = none := rfl

@[simp] theorem empty_isOpen : empty.isOpen = false := rfl

/-- A closed frame yields the type whose frame it is. -/
theorem toType_eq_ok_iff {f : TypeFrame} (hf : f.isOpen = false) {t : TypeName} :
    f.toType = .ok t ↔ f = finished t := by
  obtain ⟨name, arguments, isOpen⟩ := f
  obtain ⟨n, as⟩ := t
  cases name <;> simp_all [toType, finished]

theorem toType_finished (t : TypeName) : (finished t).toType = .ok t :=
  (toType_eq_ok_iff rfl).mpr rfl

/-- An argument is added only to an open list. -/
theorem pushArgument_eq_ok_iff {f g : TypeFrame} {a : TypeName} :
    f.pushArgument a = .ok g ↔
      f.isOpen = true ∧ g = { f with arguments := f.arguments ++ [a] } := by
  unfold pushArgument
  split <;> rename_i hopen <;> simp [hopen, eq_comm]

/-- The last argument is added, and the list closed, only if it is open. -/
theorem pushLast_eq_ok_iff {f g : TypeFrame} {a : TypeName} :
    (do (← f.pushArgument a).closeList) = .ok g ↔
      f.isOpen = true ∧ g = { f with arguments := f.arguments ++ [a], isOpen := false } := by
  unfold pushArgument closeList
  split <;> rename_i hopen <;> simp [hopen, bind, Except.bind, eq_comm]

end TypeFrame

/-! ## 2. Stacks as lists of frames -/

namespace TypeStack

/-- The frames of all open levels, the innermost first. -/
def frames (s : TypeStack) : List TypeFrame := s.inner ++ [s.root]

@[simp] theorem frames_start (limit : Option Nat) : (start limit).frames = [.empty] := rfl

/-- The innermost frame heads the list. -/
theorem frames_eq_cons (s : TypeStack) : s.frames = s.current :: s.frames.tail := by
  obtain ⟨root, inner, limit⟩ := s
  cases inner <;> rfl

@[simp] theorem frames_withCurrent (s : TypeStack) (f : TypeFrame) :
    (s.withCurrent f).frames = f :: s.frames.tail := by
  obtain ⟨root, inner, limit⟩ := s
  cases inner <;> rfl

@[simp] theorem frames_push (s : TypeStack) : s.push.frames = .empty :: s.frames := rfl

/-- An argument is being read when there is a frame below the innermost one. -/
theorem inArgument_eq_true_iff (s : TypeStack) : s.inArgument = true ↔ s.frames.tail ≠ [] := by
  obtain ⟨root, inner, limit⟩ := s
  cases inner <;> simp [inArgument, frames]

theorem inArgument_eq_false_iff (s : TypeStack) :
    s.inArgument = false ↔ s.frames = [s.current] := by
  obtain ⟨root, inner, limit⟩ := s
  cases inner <;> simp [inArgument, frames, current]

theorem current_of_not_inArgument {s : TypeStack} (h : s.inArgument = false) :
    s.current = s.root := by
  obtain ⟨root, inner, limit⟩ := s
  cases inner with
  | nil => rfl
  | cons => simp [inArgument] at h

/-- A stack yields a type when the frame of that type is all there is. -/
theorem toType_eq_ok_iff {s : TypeStack} {t : TypeName} :
    s.toType = .ok t ↔ s.frames = [.finished t] := by
  obtain ⟨root, inner, limit⟩ := s
  cases inner with
  | cons f below => simp [toType, inArgument, frames]
  | nil =>
    obtain hroot | hroot := Bool.eq_false_or_eq_true root.isOpen
    · simp only [toType, hroot, frames]
      constructor
      · simp
      · rintro ⟨⟩
        simp at hroot
    · simp [toType, inArgument, frames, hroot, TypeFrame.toType_eq_ok_iff hroot]

/-! How the operations compose. -/

@[simp] theorem current_withCurrent (s : TypeStack) (f : TypeFrame) :
    (s.withCurrent f).current = f := by
  obtain ⟨root, inner, limit⟩ := s
  cases inner <;> rfl

@[simp] theorem withCurrent_withCurrent (s : TypeStack) (f g : TypeFrame) :
    (s.withCurrent f).withCurrent g = s.withCurrent g := by
  obtain ⟨root, inner, limit⟩ := s
  cases inner <;> rfl

@[simp] theorem current_push (s : TypeStack) : s.push.current = .empty := rfl

@[simp] theorem limit_withCurrent (s : TypeStack) (f : TypeFrame) :
    (s.withCurrent f).limit = s.limit := by
  obtain ⟨root, inner, limit⟩ := s
  cases inner <;> rfl

@[simp] theorem limit_push (s : TypeStack) : s.push.limit = s.limit := rfl

@[simp] theorem depth_withCurrent (s : TypeStack) (f : TypeFrame) :
    (s.withCurrent f).depth = s.depth := by
  obtain ⟨root, inner, limit⟩ := s
  cases inner <;> rfl

@[simp] theorem depth_push (s : TypeStack) : s.push.depth = s.depth + 1 := rfl

@[simp] theorem inArgument_push (s : TypeStack) : s.push.inArgument = true := rfl

/-! ## 3. Steps that succeed -/

theorem done_of_toExcept {a : Attempt TypeStack} {s : TypeStack} (h : a.toExcept = .ok s) :
    a = .done s := by
  cases a with
  | done result => exact congrArg Attempt.done (Except.ok.inj h)
  | failed failure rest => cases h

/-- What a step does to the frames when it succeeds. -/
inductive FrameStep : List TypeFrame → TypeStep → List TypeFrame → Prop
  | setName {f : TypeFrame} {below : List TypeFrame} {n : String} (hname : f.name = none) :
      FrameStep (f :: below) (.setName n) ({ f with name := some n } :: below)
  | appendSuffix {f : TypeFrame} {below : List TypeFrame} {n w : String}
      (hname : f.name = some n) :
      FrameStep (f :: below) (.appendSuffix w) ({ f with name := some (n ++ w) } :: below)
  | openList {f : TypeFrame} {below : List TypeFrame} {n : String} (hname : f.name = some n)
      (hopen : f.isOpen = false) :
      FrameStep (f :: below) .openList (.empty :: { f with isOpen := true } :: below)
  | nextArgument {f p : TypeFrame} {below : List TypeFrame} {a : TypeName}
      (ha : f.toType = .ok a) (hopen : p.isOpen = true) :
      FrameStep (f :: p :: below) .nextArgument
        (.empty :: { p with arguments := p.arguments ++ [a] } :: below)
  | closeList {f p : TypeFrame} {below : List TypeFrame} {a : TypeName}
      (ha : f.toType = .ok a) (hopen : p.isOpen = true) :
      FrameStep (f :: p :: below) .closeList
        ({ p with arguments := p.arguments ++ [a], isOpen := false } :: below)

/-- Changing the innermost level succeeds when the change does. -/
theorem onCurrent_eq_done_iff {s s' : TypeStack} {change : TypeFrame → Except Failure TypeFrame} :
    s.onCurrent change = .done s' ↔ ∃ f, change s.current = .ok f ∧ s' = s.withCurrent f := by
  unfold onCurrent
  split
  · rename_i f hf
    simp [hf, eq_comm]
  · rename_i e he
    simp [he]

/-- Handing the innermost argument down succeeds when there is one, it is complete, and the level
below takes it. -/
theorem handDown_eq_done_iff {s s' : TypeStack}
    {change : TypeName → TypeFrame → Except Failure TypeFrame} :
    s.handDown change = .done s' ↔ ∃ f below a g, s.inner = f :: below ∧ f.toType = .ok a ∧
      change a { s with inner := below }.current = .ok g ∧
      s' = { s with inner := below }.withCurrent g := by
  unfold handDown
  cases hinner : s.inner with
  | nil => simp
  | cons f below =>
    cases htype : f.toType with
    | error e => simp [htype]
    | ok a => simp [htype, onCurrent_eq_done_iff]

/-- The frames below the innermost one are those of the stack without it. -/
theorem frames_of_inner {s : TypeStack} {f : TypeFrame} {below : List TypeFrame}
    (h : s.inner = f :: below) : s.frames = f :: { s with inner := below : TypeStack }.frames := by
  simp [frames, h]

/-- A list is opened below the limit, on a level that has a name and no open list. -/
theorem openList_eq_done_iff {s s' : TypeStack} :
    s.openList = .done s' ↔ s.exceeded? = none ∧ ∃ n, s.current.name = some n ∧
      s.current.isOpen = false ∧ s' = (s.withCurrent { s.current with isOpen := true }).push := by
  unfold openList
  cases hlimit : s.exceeded? with
  | some limit => simp
  | none =>
    cases hname : s.current.name with
    | none => simp
    | some n => cases hopen : s.current.isOpen <;> simp [TypeFrame.openList, hopen, eq_comm]

/-- **A step that succeeds changes the frames as its kind says.** -/
theorem frames_of_step {s s' : TypeStack} {step : TypeStep} (h : s.step step = .done s') :
    FrameStep s.frames step s'.frames := by
  cases step with
  | setName n =>
    simp only [step, setName] at h
    obtain ⟨f, hf, rfl⟩ := onCurrent_eq_done_iff.mp h
    rw [frames_withCurrent, frames_eq_cons s]
    cases hname : s.current.name with
    | some existing => simp [TypeFrame.setName, hname] at hf
    | none =>
      simp only [TypeFrame.setName, hname, Except.ok.injEq] at hf
      exact hf ▸ .setName hname
  | appendSuffix w =>
    simp only [step, appendSuffix] at h
    obtain ⟨f, hf, rfl⟩ := onCurrent_eq_done_iff.mp h
    rw [frames_withCurrent, frames_eq_cons s]
    cases hname : s.current.name with
    | none => simp [TypeFrame.appendSuffix, hname] at hf
    | some n =>
      simp only [TypeFrame.appendSuffix, hname, Except.ok.injEq] at hf
      exact hf ▸ .appendSuffix hname
  | openList =>
    obtain ⟨-, n, hname, hopen, rfl⟩ := openList_eq_done_iff.mp h
    rw [frames_push, frames_withCurrent, frames_eq_cons s]
    exact .openList hname hopen
  | nextArgument =>
    simp only [step, nextArgument] at h
    split at h
    · rename_i next hnext
      obtain rfl : next.push = s' := by simpa using h
      obtain ⟨f, below, a, g, hinner, ha, hg, rfl⟩ := handDown_eq_done_iff.mp hnext
      obtain ⟨hopen, rfl⟩ := TypeFrame.pushArgument_eq_ok_iff.mp hg
      rw [frames_push, frames_withCurrent, frames_of_inner hinner,
        frames_eq_cons { s with inner := below }]
      exact .nextArgument ha hopen
    · simp at h
  | closeList =>
    simp only [step, closeList] at h
    obtain ⟨f, below, a, g, hinner, ha, hg, rfl⟩ := handDown_eq_done_iff.mp h
    obtain ⟨hopen, rfl⟩ := TypeFrame.pushLast_eq_ok_iff.mp hg
    rw [frames_withCurrent, frames_of_inner hinner, frames_eq_cons { s with inner := below }]
    exact .closeList ha hopen

/-! The other way round: when a step succeeds. -/

theorem setName_of_unnamed {s : TypeStack} (h : s.current.name = none) (n : String) :
    s.setName n = .done (s.withCurrent { s.current with name := some n }) :=
  onCurrent_eq_done_iff.mpr ⟨_, by simp [TypeFrame.setName, h], rfl⟩

theorem appendSuffix_of_named {s : TypeStack} {n : String} (h : s.current.name = some n)
    (w : String) :
    s.appendSuffix w = .done (s.withCurrent { s.current with name := some (n ++ w) }) :=
  onCurrent_eq_done_iff.mpr ⟨_, by simp [TypeFrame.appendSuffix, h], rfl⟩

theorem handDown_of_push {p : TypeStack} {f g : TypeFrame} {a : TypeName}
    {change : TypeName → TypeFrame → Except Failure TypeFrame} (ha : f.toType = .ok a)
    (hg : change a p.current = .ok g) :
    (p.push.withCurrent f).handDown change = .done (p.withCurrent g) :=
  handDown_eq_done_iff.mpr ⟨f, p.inner, a, g, rfl, ha, hg, rfl⟩

theorem nextArgument_of_push {p : TypeStack} {f : TypeFrame} {a : TypeName}
    (ha : f.toType = .ok a) (hopen : p.current.isOpen = true) :
    (p.push.withCurrent f).nextArgument =
      .done (p.withCurrent { p.current with arguments := p.current.arguments ++ [a] }).push := by
  rw [nextArgument, handDown_of_push ha (TypeFrame.pushArgument_eq_ok_iff.mpr ⟨hopen, rfl⟩)]

theorem closeList_of_push {p : TypeStack} {f : TypeFrame} {a : TypeName}
    (ha : f.toType = .ok a) (hopen : p.current.isOpen = true) :
    (p.push.withCurrent f).closeList = .done (p.withCurrent
      { p.current with arguments := p.current.arguments ++ [a], isOpen := false }) := by
  rw [closeList]
  exact handDown_of_push ha (TypeFrame.pushLast_eq_ok_iff.mpr ⟨hopen, rfl⟩)

/-! ## 4. Seats and depth -/

/-- The stack with the given frame for its innermost level, and a new level on top if the list of
the frame is open. -/
def seat (s : TypeStack) (f : TypeFrame) : TypeStack :=
  if f.isOpen then (s.withCurrent f).push else s.withCurrent f

theorem seat_of_closed (s : TypeStack) {f : TypeFrame} (h : f.isOpen = false) :
    s.seat f = s.withCurrent f := by
  simp [seat, h]

theorem seat_of_open (s : TypeStack) {f : TypeFrame} (h : f.isOpen = true) :
    s.seat f = (s.withCurrent f).push := by
  simp [seat, h]

/-- The stack of a type that has been read to its end. -/
def ofType (limit : Option Nat) (t : TypeName) : TypeStack := ⟨.finished t, [], limit⟩

theorem toType_ofType (limit : Option Nat) (t : TypeName) : (ofType limit t).toType = .ok t :=
  toType_eq_ok_iff.mpr rfl

@[simp] theorem seat_ofType (limit : Option Nat) (t u : TypeName) :
    (ofType limit t).seat (.finished u) = ofType limit u := rfl

end TypeStack

/-- How deeply argument lists are nested in a frame, an open list included. -/
def TypeFrame.depth (f : TypeFrame) : Nat :=
  max (if f.isOpen then 1 else 0) (TypeName.depth ⟨"", f.arguments⟩)

theorem TypeName.depth_congr (m n : String) (as : List TypeName) :
    depth ⟨m, as⟩ = depth ⟨n, as⟩ := by
  cases as <;> rfl

theorem TypeName.depth_eq {n : String} {as : List TypeName} :
    depth ⟨n, as⟩ = if as = [] then 0 else 1 + depthAll as := by
  cases as <;> simp [depth, depthAll]

theorem TypeName.depthAll_append (as bs : List TypeName) :
    depthAll (as ++ bs) = max (depthAll as) (depthAll bs) := by
  induction as with
  | nil => simp [depthAll]
  | cons a as ih => simp [depthAll, ih, Nat.max_assoc]

/-- An argument more. -/
theorem TypeName.depth_snoc (n : String) (as : List TypeName) (a : TypeName) :
    depth ⟨n, as ++ [a]⟩ = max (depth ⟨n, as⟩) (1 + a.depth) := by
  rw [depth_eq, depth_eq, depthAll_append]
  by_cases has : as = []
  · simp [has, depthAll]
  · simp [has, depthAll, Nat.add_max_add_left]

@[simp] theorem TypeFrame.depth_finished (t : TypeName) : (finished t).depth = t.depth := by
  obtain ⟨n, as⟩ := t
  simp [depth, finished, TypeName.depth_congr n ""]

/-- A frame of which the list has been opened is no less deep, and at least one level. -/
theorem TypeFrame.depth_opened {f : TypeFrame} (hopen : f.isOpen = false) (name : Option String) :
    f.depth ≤ depth { f with name, isOpen := true } ∧
      1 ≤ depth { f with name, isOpen := true } := by
  simp only [depth, hopen, Bool.false_eq_true, if_false, if_true]
  omega

/-- A frame with an argument more is no less deep, and one level deeper than the argument. -/
theorem TypeFrame.depth_snoc {f : TypeFrame} (hopen : f.isOpen = true) (a : TypeName)
    (isOpen : Bool) :
    f.depth ≤ depth { f with arguments := f.arguments ++ [a], isOpen } ∧
      1 + a.depth ≤ depth { f with arguments := f.arguments ++ [a], isOpen } := by
  simp only [depth, TypeName.depth_snoc, hopen, if_true]
  omega

/-- The limit of the stack admits a frame of that depth on its innermost level. -/
def TypeStack.Admits (s : TypeStack) (depth : Nat) : Prop :=
  ∀ limit, s.limit = some limit → s.depth + depth ≤ limit

theorem TypeStack.Admits.mono {s : TypeStack} {m n : Nat} (h : s.Admits n) (hmn : m ≤ n) :
    s.Admits m := by
  intro limit hlimit
  have := h limit hlimit
  omega

/-- Another list may be opened if a frame with an open list is admitted. -/
theorem TypeStack.Admits.exceeded?_eq_none {s : TypeStack} {n : Nat} (h : s.Admits n) (hn : 1 ≤ n) :
    s.exceeded? = none := by
  cases hlimit : s.limit with
  | none => simp [exceeded?, hlimit]
  | some limit =>
    have := h limit hlimit
    simp [exceeded?, hlimit, Option.filter]
    omega

/-- A list is opened if its frame is admitted with the list open. -/
theorem TypeStack.openList_of_admits {s : TypeStack} {f : TypeFrame} {n : String} {depth : Nat}
    (hname : f.name = some n) (hopen : f.isOpen = false) (hadmits : s.Admits depth)
    (hdepth : 1 ≤ depth) :
    (s.withCurrent f).openList = .done (s.seat { f with isOpen := true }) := by
  have hlimit : (s.withCurrent f).exceeded? = none := by
    simpa [exceeded?] using hadmits.exceeded?_eq_none hdepth
  exact openList_eq_done_iff.mpr
    ⟨hlimit, n, by simpa using hname, by simpa using hopen, by simp [seat]⟩

/-- The level above admits what the level itself admits beneath an open list. -/
theorem TypeStack.Admits.push {s : TypeStack} {f : TypeFrame} {n : Nat} (h : s.Admits (1 + n)) :
    (s.withCurrent f).push.Admits n := by
  intro limit hlimit
  have := h limit (by simpa using hlimit)
  simp
  omega

end ApiPages
