/-
# Names in their places

A type has its names from left to right, and each of them stands in some number of argument lists.
That says all about the type: no other types have these names in these places
(`TypeName.placedAll_inj`).

The frames of a type under construction have names in the same way.  A step of the type puts a name
behind them, in its place, or leaves them all where they are (`TypeStack.FrameStep.placed`).
-/
import ApiPages.Proofs.Signature.Rendering
import ApiPages.Proofs.Signature.Stack

namespace ApiPages

/-! ## 1. Types -/

/-- A name, and in how many argument lists it stands. -/
structure PlacedName where
  name : String
  depth : Nat
  deriving Repr, DecidableEq

namespace TypeName

mutual

/-- The names of a type that stands in `depth` argument lists, from left to right. -/
def placed (depth : Nat) : TypeName → List PlacedName
  | ⟨name, arguments⟩ => ⟨name, depth⟩ :: placedAll (depth + 1) arguments

/-- The names of some types, from left to right. -/
def placedAll (depth : Nat) : List TypeName → List PlacedName
  | [] => []
  | t :: rest => t.placed depth ++ placedAll depth rest

end

theorem placedAll_append (depth : Nat) (ts us : List TypeName) :
    placedAll depth (ts ++ us) = placedAll depth ts ++ placedAll depth us := by
  induction ts with
  | nil => rfl
  | cons t ts ih => simp [placedAll, ih]

mutual

theorem map_name_placed (depth : Nat) : (t : TypeName) → (t.placed depth).map (·.name) = t.names
  | ⟨name, arguments⟩ => by simp [placed, names, map_name_placedAll (depth + 1) arguments]

/-- Without their places these are the names of the types. -/
theorem map_name_placedAll (depth : Nat) : (ts : List TypeName) →
    (placedAll depth ts).map (·.name) = namesAll ts
  | [] => rfl
  | t :: rest => by
    simp [placedAll, namesAll, map_name_placed depth t, map_name_placedAll depth rest]

end

/-- What stands behind the names of a list that is `depth` deep: the next name is one of an outer
list. -/
def Outside (depth : Nat) (ns : List PlacedName) : Prop := ∀ n ∈ ns.head?, n.depth < depth

theorem placedAll_cons (depth : Nat) (t : TypeName) (ts : List TypeName) :
    placedAll depth (t :: ts) =
      ⟨t.name, depth⟩ :: (placedAll (depth + 1) t.arguments ++ placedAll depth ts) := by
  obtain ⟨n, as⟩ := t
  rfl

theorem Outside.append_placedAll {depth : Nat} {ns : List PlacedName} (h : Outside depth ns)
    (ts : List TypeName) : Outside (depth + 1) (placedAll depth ts ++ ns) := by
  cases ts with
  | nil => exact fun n hn => Nat.lt_succ_of_lt (h n hn)
  | cons t ts =>
    intro n hn
    obtain rfl : ⟨t.name, depth⟩ = n := by simpa [placedAll_cons] using hn
    exact Nat.lt_succ_self depth

mutual

theorem placed_append_inj (depth : Nat) {ms ns : List PlacedName} (hms : Outside (depth + 1) ms)
    (hns : Outside (depth + 1) ns) : (t u : TypeName) →
      t.placed depth ++ ms = u.placed depth ++ ns → t = u ∧ ms = ns
  | ⟨m, as⟩, ⟨n, bs⟩ => fun h => by
    simp only [placed, List.cons_append, List.cons.injEq, PlacedName.mk.injEq] at h
    obtain ⟨rfl, rfl⟩ := placedAll_append_inj (depth + 1) hms hns as bs h.2
    exact ⟨by rw [h.1.1], rfl⟩

/-- **The names in their places are the types**, whatever stands behind them. -/
theorem placedAll_append_inj (depth : Nat) {ms ns : List PlacedName} (hms : Outside depth ms)
    (hns : Outside depth ns) : (ts us : List TypeName) →
      placedAll depth ts ++ ms = placedAll depth us ++ ns → ts = us ∧ ms = ns
  | [], [] => fun h => ⟨rfl, h⟩
  | [], u :: us => fun h => by
    have hhead := hms ⟨u.name, depth⟩ (by rw [show ms = _ from h, placedAll_cons]; rfl)
    exact absurd hhead (Nat.lt_irrefl depth)
  | t :: ts, [] => fun h => by
    have hhead := hns ⟨t.name, depth⟩ (by rw [← show _ = ns from h, placedAll_cons]; rfl)
    exact absurd hhead (Nat.lt_irrefl depth)
  | t :: ts, u :: us => fun h => by
    simp only [placedAll, List.append_assoc] at h
    obtain ⟨rfl, hrest⟩ := placed_append_inj depth (hms.append_placedAll ts)
      (hns.append_placedAll us) t u h
    obtain ⟨rfl, rfl⟩ := placedAll_append_inj depth hms hns ts us hrest
    exact ⟨rfl, rfl⟩

end

theorem placedAll_inj {depth : Nat} {ts us : List TypeName}
    (h : placedAll depth ts = placedAll depth us) : ts = us :=
  (placedAll_append_inj depth (by simp [Outside]) (by simp [Outside]) ts us
    (congrArg (· ++ []) h)).1

end TypeName

/-! ## 2. Types under construction -/

namespace TypeFrame

/-- The names in a frame that stands in `depth` argument lists. -/
def placed (depth : Nat) (f : TypeFrame) : List PlacedName :=
  (f.name.map fun name => ⟨name, depth⟩).toList ++ TypeName.placedAll (depth + 1) f.arguments

/-- The names in the frames of a type under construction, the innermost frame first. -/
def placedAll : List TypeFrame → List PlacedName
  | [] => []
  | f :: below => placedAll below ++ f.placed below.length

/-- Nothing is read of a frame before it has a name. -/
def NamedFirst (f : TypeFrame) : Prop := f.name = none → f = .empty

theorem NamedFirst.of_name {f : TypeFrame} {n : String} (h : f.name = some n) : f.NamedFirst :=
  fun hnone => by simp [h] at hnone

theorem NamedFirst.exists_name {f : TypeFrame} (h : f.NamedFirst) (hopen : f.isOpen = true) :
    ∃ n, f.name = some n := by
  cases hname : f.name with
  | some n => exact ⟨n, rfl⟩
  | none => simp [h hname] at hopen

@[simp] theorem placed_empty (depth : Nat) : empty.placed depth = [] := rfl

/-- An argument more. -/
theorem placed_snoc (depth : Nat) (f : TypeFrame) (t : TypeName) (isOpen : Bool) :
    placed depth { f with arguments := f.arguments ++ [t], isOpen } =
      f.placed depth ++ t.placed (depth + 1) := by
  simp [placed, TypeName.placedAll_append, TypeName.placedAll]

theorem placed_of_toType {f : TypeFrame} {t : TypeName} (h : f.toType = .ok t) (depth : Nat) :
    f.placed depth = t.placed depth := by
  obtain ⟨name, arguments, isOpen⟩ := f
  cases name with
  | none => cases h
  | some n =>
    obtain rfl := Except.ok.inj h
    rfl

end TypeFrame

/-- The names that a step of a type adds. -/
def TypeStep.placed (depth : Nat) : TypeStep → List PlacedName
  | .setName name => [⟨name, depth⟩]
  | _ => []

/-- The number of open argument lists behind a step. -/
def TypeStep.depthBehind (depth : Nat) : TypeStep → Nat
  | .openList => depth + 1
  | .closeList => depth - 1
  | _ => depth

/-- **A step adds a name at the end, in its place, or keeps all names where they are.**  A suffix
would change a name. -/
theorem TypeStack.FrameStep.placed {fs gs : List TypeFrame} {step : TypeStep}
    (h : FrameStep fs step gs) (hstep : ∀ w, step ≠ .appendSuffix w)
    (hfs : ∀ f ∈ fs, f.NamedFirst) :
    (∀ g ∈ gs, g.NamedFirst) ∧ gs.length - 1 = step.depthBehind (fs.length - 1) ∧
      TypeFrame.placedAll gs = TypeFrame.placedAll fs ++ step.placed (fs.length - 1) := by
  cases h with
  | setName hname =>
    obtain ⟨hf, hbelow⟩ := List.forall_mem_cons.mp hfs
    refine ⟨List.forall_mem_cons.mpr ⟨.of_name rfl, hbelow⟩, rfl, ?_⟩
    rw [hf hname]
    simp [TypeFrame.placedAll, TypeFrame.placed, TypeStep.placed, TypeFrame.empty,
      TypeName.placedAll]
  | appendSuffix => exact absurd rfl (hstep _)
  | openList hname hopen =>
    obtain ⟨-, hbelow⟩ := List.forall_mem_cons.mp hfs
    have hempty : TypeFrame.empty.NamedFirst := fun _ => rfl
    refine ⟨List.forall_mem_cons.mpr ⟨hempty,
      List.forall_mem_cons.mpr ⟨.of_name hname, hbelow⟩⟩, rfl, ?_⟩
    simp only [TypeFrame.placedAll, TypeFrame.placed_empty, TypeStep.placed, List.append_nil]
    rfl
  | nextArgument ha hopen =>
    obtain ⟨-, hp, hbelow⟩ := by simpa only [List.forall_mem_cons] using hfs
    obtain ⟨n, hname⟩ := hp.exists_name hopen
    have hempty : TypeFrame.empty.NamedFirst := fun _ => rfl
    refine ⟨List.forall_mem_cons.mpr ⟨hempty,
      List.forall_mem_cons.mpr ⟨.of_name hname, hbelow⟩⟩, rfl, ?_⟩
    simp [TypeFrame.placedAll, TypeStep.placed, TypeFrame.placed_snoc,
      TypeFrame.placed_of_toType ha]
  | closeList ha hopen =>
    obtain ⟨-, hp, hbelow⟩ := by simpa only [List.forall_mem_cons] using hfs
    obtain ⟨n, hname⟩ := hp.exists_name hopen
    refine ⟨List.forall_mem_cons.mpr ⟨.of_name hname, hbelow⟩, rfl, ?_⟩
    simp [TypeFrame.placedAll, TypeStep.placed, TypeFrame.placed_snoc,
      TypeFrame.placed_of_toType ha]

end ApiPages
