/-
# Signatures

What a member signature declares, as it stands on the page: modifiers, annotations, a type, a name,
parameters and exceptions.  A method has all of them, a constructor no type, and a field neither
parameters nor exceptions.
-/
import ApiPages.Declaration.Basic

namespace ApiPages

/-- What sort of member a signature declares. -/
inductive MemberKind where
  /-- Modifiers, return type, name, parameters. -/
  | method
  /-- Modifiers, name, parameters. -/
  | constructor
  /-- Modifiers, type, name. -/
  | field
  deriving Repr, DecidableEq

/-- Everything that a signature declares. -/
structure Signature where
  modifiers : Modifiers := .empty
  annotations : List TypeName := []
  /-- The return type of a method, or the type of a field. -/
  returnType : Option TypeName := none
  name : Option String := none
  parameters : List Parameter := []
  exceptions : List TypeName := []
  deriving Repr, DecidableEq

namespace Signature

instance : Inhabited Signature := ⟨{}⟩

/-- How the body of the member is to be filled in: an abstract member has none. -/
def body (s : Signature) : Body := if s.modifiers.has .abstract then .abstract else .throwStub

end Signature

/-- Whether a word is only brackets, or dots, that make the type before it an array or a list of
variable length: any number of `[]`, and then possibly `...`. -/
def isArraySuffix (word : String) : Bool :=
  !word.isEmpty && isBrackets ((Text.before? "...".toList word.toList).getD word.toList)
where
  isBrackets : List Char → Bool
    | [] => true
    | '[' :: ']' :: rest => isBrackets rest
    | _ => false

end ApiPages
