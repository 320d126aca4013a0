/-
# Type names

A type as a declaration writes it: a base name with a list of type arguments, which are type names
again.  It is displayed as `Map<String, List<Integer>>`.
-/
namespace ApiPages

/-- A type name with its arguments; a type that takes none has an empty list. -/
structure TypeName where
  name : String
  arguments : List TypeName
  deriving Repr

namespace TypeName

/-- A type name without arguments. -/
def simple (name : String) : TypeName := ⟨name, []⟩

instance : Inhabited TypeName := ⟨simple ""⟩

/-- Whether the type carries arguments. -/
def isGeneric (t : TypeName) : Bool := !t.arguments.isEmpty

/-! ## 1. Equality -/

mutual

/-- Two type names are equal if their base names and all their arguments are. -/
def decEq : (s t : TypeName) → Decidable (s = t)
  | ⟨m, ss⟩, ⟨n, ts⟩ =>
    if hname : m = n then
      match decEqAll ss ts with
      | isTrue harguments => isTrue (by rw [hname, harguments])
      | isFalse harguments => isFalse fun h => harguments (by injection h)
    else isFalse fun h => hname (by injection h)

/-- Equality of argument lists, member by member. -/
def decEqAll : (ss ts : List TypeName) → Decidable (ss = ts)
  | [], [] => isTrue rfl
  | [], _ :: _ => isFalse (by simp)
  | _ :: _, [] => isFalse (by simp)
  | s :: ss, t :: ts =>
    match decEq s t with
    | isTrue hhead =>
      match decEqAll ss ts with
      | isTrue htail => isTrue (by rw [hhead, htail])
      | isFalse htail => isFalse fun h => htail (by injection h)
    | isFalse hhead => isFalse fun h => hhead (by injection h)

end

instance : DecidableEq TypeName := decEq

/-! ## 2. Display and depth -/

mutual

/-- **How a type name is displayed**: the base name, and the arguments of a generic one between
angle brackets. -/
def display : TypeName → String
  | ⟨name, arguments⟩ =>
    if isGeneric ⟨name, arguments⟩ then name ++ "<" ++ displayAll arguments ++ ">" else name

/-- Arguments, with a comma and a space between them. -/
def displayAll : List TypeName → String
  | [] => ""
  | first :: rest => first.display ++ displayRest rest

/-- The arguments after the first, each after a comma and a space. -/
def displayRest : List TypeName → String
  | [] => ""
  | t :: rest => ", " ++ t.display ++ displayRest rest

end

theorem display_nil (name : String) : display ⟨name, []⟩ = name := by
  simp [display, isGeneric]

theorem display_cons (name : String) (first : TypeName) (rest : List TypeName) :
    display ⟨name, first :: rest⟩ = name ++ "<" ++ first.display ++ displayRest rest ++ ">" := by
  simp [display, isGeneric, displayAll, String.append_assoc]

mutual

/-- How deeply argument lists are nested: none for a plain name. -/
def depth : TypeName → Nat
  | ⟨_, []⟩ => 0
  | ⟨_, first :: rest⟩ => 1 + max first.depth (depthAll rest)

/-- The greatest depth in a list of type names. -/
def depthAll : List TypeName → Nat
  | [] => 0
  | t :: rest => max t.depth (depthAll rest)

end

end TypeName

end ApiPages
