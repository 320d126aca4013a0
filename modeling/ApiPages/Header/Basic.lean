/-
# Class headers

What the header of a page declares, and the declaration that it makes.  A class keeps the last of
the types it extends as its superclass.  An interface or annotation has no superclass: what it
extends are interfaces, and come before those that it implements.  No interface is listed twice.
-/
import ApiPages.Declaration.Basic
import ApiPages.Failure

namespace ApiPages

/-- What a class header declares. -/
structure ClassHeader where
  modifiers : Modifiers := .empty
  /-- The kind, if the header names one. -/
  kind : Option ClassKind := none
  /-- The types behind `extends`. -/
  extended : List TypeName := []
  /-- The types behind `implements`. -/
  implemented : List TypeName := []
  deriving Repr, DecidableEq

namespace ClassHeader

instance : Inhabited ClassHeader := ⟨{}⟩

/-- The header with one more modifier. -/
def withModifier (h : ClassHeader) (m : Modifier) : ClassHeader :=
  { h with modifiers := h.modifiers.insert m }

/-- **The declaration that a header makes**, still without members.  Its page has to name a kind. -/
def toDeclaration (h : ClassHeader) (name : String) : Except Failure ClassDeclaration :=
  match h.kind with
  | none => .error (.unresolvedKind name)
  | some kind =>
    let bare := { ClassDeclaration.empty name kind with modifiers := h.modifiers }
    let supertyped := match kind with
      | .classType => { bare with superclass := h.extended.getLast? }
      | .interfaceType => h.extended.foldl .addInterface bare
      | .annotationType =>
        h.extended.foldl .addInterface { bare with modifiers := h.modifiers.erase .abstract }
    .ok (h.implemented.foldl .addInterface supertyped)

end ClassHeader

end ApiPages
