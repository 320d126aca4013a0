/-
# The interfaces of a declaration

A type is the same as another one only if the two have the same base names in the same places,
through all levels of arguments (`TypeName.eq_iff_nameAt?`).  By this measure a declaration lists an
interface once: adding interfaces leaves the list as it was and appends, in order, the first
occurrence of each type that is not in it yet (`joined_eq_append`).  So the supertypes of a
declaration are those of its header, without the later occurrences of a type, and the kind says
which of them become interfaces (`toDeclaration_ordered`).
-/
import ApiPages.Proofs.Declaration.Modifiers
import ApiPages.Proofs.Header.Declaration

namespace ApiPages

/-! ## 1. Types by their base names -/

namespace TypeName

/-- The base name at a place in a type: the place of an argument is its position and then its place
in the arguments of that one. -/
def nameAt? (t : TypeName) : List Nat → Option String
  | [] => some t.name
  | i :: place => t.arguments[i]?.bind fun argument => argument.nameAt? place

mutual

theorem eq_of_nameAt? : (s t : TypeName) → (∀ place, s.nameAt? place = t.nameAt? place) → s = t
  | ⟨m, ss⟩, ⟨n, ts⟩, h => by
    obtain rfl : m = n := Option.some.inj (h [])
    rw [eqAll_of_nameAt? ss ts fun i place => h (i :: place)]

/-- Lists of types with the same names in all their members are equal. -/
theorem eqAll_of_nameAt? : (ss ts : List TypeName) →
    (∀ (i : Nat) place, (ss[i]?.bind fun s => s.nameAt? place) =
      ts[i]?.bind fun t => t.nameAt? place) → ss = ts
  | [], [], _ => rfl
  | [], t :: _, h => by simpa [nameAt?] using h 0 []
  | s :: _, [], h => by simpa [nameAt?] using h 0 []
  | s :: ss, t :: ts, h => by
    have hhead : s = t := eq_of_nameAt? s t fun place => by simpa using h 0 place
    have htail : ss = ts := eqAll_of_nameAt? ss ts fun i place => by simpa using h (i + 1) place
    rw [hhead, htail]

end

/-- **Types are compared name by name**, at every level of their arguments. -/
theorem beq_iff_nameAt? (s t : TypeName) :
    (s == t) = true ↔ ∀ place, s.nameAt? place = t.nameAt? place := by
  rw [beq_iff_eq]
  constructor
  · rintro rfl place
    rfl
  · exact eq_of_nameAt? s t

end TypeName

/-! ## 2. First occurrences -/

variable {is ts : List TypeName}

/-- **What is joined to a list are the first occurrences of the types that are not in it.** -/
theorem joined_eq_append (is ts : List TypeName) :
    joined is ts = is ++ (ts.filter (· ∉ is)).eraseDups := by
  induction ts generalizing is with
  | nil => simp [joined]
  | cons t ts ih =>
    rw [joined, ih]
    split
    · rename_i ht
      rw [List.filter_cons_of_neg (by simpa using ht)]
    · rename_i ht
      -- of the types behind `t`, those that are not `t` again are left
      have hrest : ts.filter (· ∉ is ++ [t]) = (ts.filter (· ∉ is)).filter fun u => !u == t := by
        rw [List.filter_filter]
        refine List.filter_congr fun u _ => ?_
        simp [and_comm, Bool.beq_eq_decide_eq]
      rw [List.filter_cons_of_pos (by simpa using ht), List.eraseDups_cons, hrest,
        List.append_assoc, List.singleton_append]

theorem joined_nil_eq_eraseDups (ts : List TypeName) : joined [] ts = ts.eraseDups := by
  rw [joined_eq_append, List.nil_append, List.filter_eq_self.mpr (by simp)]

/-! ## 3. Declarations -/

namespace ClassHeader

/-- What the declaration `d` that the header `h` makes of a name and a kind has to be. -/
structure Makes (h : ClassHeader) (name : String) (kind : ClassKind) (d : ClassDeclaration) :
    Prop where
  named : d.name = name ∧ d.kind = kind
  /-- A class has the last type that it extends as its superclass. -/
  ofClass : kind = .classType →
    d.superclass = h.extended.getLast? ∧ d.interfaces = h.implemented.eraseDups
  /-- Anything else has no superclass; what it extends comes first among its interfaces. -/
  ofOther : kind ≠ .classType →
    d.superclass = none ∧ d.interfaces = (h.extended ++ h.implemented).eraseDups
  /-- No interface is listed twice. -/
  distinct : d.interfaces.Nodup
  modifiers : kind ≠ .annotationType → d.modifiers = h.modifiers
  /-- An annotation is not abstract, and keeps its other modifiers and bits. -/
  notAbstract : kind = .annotationType →
    (∀ m, d.modifiers.has m = true ↔ h.modifiers.has m = true ∧ m ≠ .abstract) ∧
      d.modifiers.otherBits = h.modifiers.otherBits
  /-- There are no members yet. -/
  bare : d.fields = [] ∧ d.methods = [] ∧ d.nested = []

theorem exists_makes {h : ClassHeader} {kind : ClassKind} (hkind : h.kind = some kind)
    (name : String) : ∃ d, h.toDeclaration name = .ok d ∧ h.Makes name kind d := by
  refine ⟨_, toDeclaration_eq_ok_iff.mpr ⟨kind, hkind, rfl⟩, ?_⟩
  refine {
    named := ⟨rfl, rfl⟩
    ofClass := ?ofClass
    ofOther := ?ofOther
    distinct := nodup_joined List.nodup_nil
    modifiers := ?modifiers
    notAbstract := ?notAbstract
    bare := ⟨rfl, rfl, rfl⟩ }
  case ofClass =>
    rintro rfl
    exact ⟨rfl, joined_nil_eq_eraseDups h.implemented⟩
  case ofOther =>
    intro hother
    cases kind with
    | classType => exact absurd rfl hother
    | interfaceType => exact ⟨rfl, joined_nil_eq_eraseDups _⟩
    | annotationType => exact ⟨rfl, joined_nil_eq_eraseDups _⟩
  case modifiers =>
    intro hother
    cases kind with
    | classType => rfl
    | interfaceType => rfl
    | annotationType => exact absurd rfl hother
  case notAbstract =>
    rintro rfl
    refine ⟨fun m => ?_, Modifiers.otherBits_erase _ _⟩
    show (h.modifiers.erase .abstract).has m = true ↔ _
    rw [Modifiers.has_erase, Bool.and_eq_true, Bool.not_eq_true', decide_eq_false_iff_not,
      ne_comm]

/-- **A header becomes a declaration with ordered, distinct supertypes.**  Types are equal only if
their base names and all their arguments are; and adding interfaces to a declaration in which they
are distinct appends the first occurrences of the new ones, and changes nothing else. -/
theorem toDeclaration_ordered :
    (∀ (h : ClassHeader) (kind : ClassKind) (name : String), h.kind = some kind →
      ∃ d, h.toDeclaration name = .ok d ∧ h.Makes name kind d) ∧
    (∀ s t : TypeName, (s == t) = true ↔ ∀ place, s.nameAt? place = t.nameAt? place) ∧
    ∀ (d : ClassDeclaration) (ts : List TypeName), d.interfaces.Nodup →
      (ts.foldl .addInterface d).interfaces.Nodup ∧
      ts.foldl .addInterface d =
        { d with interfaces := d.interfaces ++ (ts.filter (· ∉ d.interfaces)).eraseDups } := by
  refine ⟨fun h kind name hkind => exists_makes hkind name, TypeName.beq_iff_nameAt?, ?_⟩
  intro d ts hdistinct
  rw [foldl_addInterface]
  exact ⟨nodup_joined hdistinct, by rw [joined_eq_append]⟩

/-- An annotation that extends `A<B>` and `A<C>` and implements `A<B>` and `C`: it lists the one
repeated type once, where it came first, and is no longer abstract.  `A` is yet another type, which
is added once. -/
theorem toDeclaration_ordered_of_repeated_types :
    let list (t : TypeName) : TypeName := ⟨"A", [t]⟩
    let b := TypeName.simple "B"
    let c := TypeName.simple "C"
    let h : ClassHeader := {
      modifiers := .ofList [.publicAccess, .abstract], kind := some .annotationType
      extended := [list b, list c], implemented := [list b, c] }
    ∃ d, h.toDeclaration "a.D" = .ok d ∧ h.Makes "a.D" .annotationType d ∧
      d.interfaces = [list b, list c, c] ∧ d.modifiers.has .abstract = false ∧
      d.interfaces.Nodup ∧
      ([.simple "A", list c, .simple "A"].foldl .addInterface d).interfaces =
        [list b, list c, c, .simple "A"] := by
  intro list b c h
  obtain ⟨d, hd, hmakes⟩ := toDeclaration_ordered.1 h .annotationType "a.D" rfl
  have hinterfaces : d.interfaces = [list b, list c, c] :=
    (hmakes.ofOther (by decide)).2.trans (by decide +kernel)
  have hadded := (toDeclaration_ordered.2.2 d [.simple "A", list c, .simple "A"] hmakes.distinct).2
  refine ⟨d, hd, hmakes, hinterfaces, ?_, hmakes.distinct, ?_⟩
  · refine Bool.eq_false_iff.mpr fun habstract => ?_
    exact (((hmakes.notAbstract rfl).1 .abstract).mp habstract).2 rfl
  · rw [hadded]
    simp only [hinterfaces]
    decide +kernel

end ClassHeader

end ApiPages
