/-
# One level of a type expression

While a type is being read, each level of it is a frame: its name once it is known, the arguments
that are finished, and whether its argument list is open.
-/
import ApiPages.Declaration.TypeName
import ApiPages.Failure

namespace ApiPages

/-- One level of a type that is being read. -/
structure TypeFrame where
  name : Option String := none
  arguments : List TypeName := []
  /-- Whether the argument list is open. -/
  isOpen : Bool := false
  deriving Repr, DecidableEq

namespace TypeFrame

/-- A frame of which nothing has been read. -/
def empty : TypeFrame := {}

instance : Inhabited TypeFrame := ⟨empty⟩

/-- Names the level, which must not have a name yet. -/
def setName (f : TypeFrame) (name : String) : Except Failure TypeFrame :=
  match f.name with
  | some existing => .error (.nameAlreadySet existing name)
  | none => .ok { f with name := some name }

/-- Puts an array or varargs suffix behind the name, which must be known. -/
def appendSuffix (f : TypeFrame) (suffix : String) : Except Failure TypeFrame :=
  match f.name with
  | some name => .ok { f with name := some (name ++ suffix) }
  | none => .error .unnamedType

/-- Opens the argument list, which must not be open. -/
def openList (f : TypeFrame) : Except Failure TypeFrame :=
  if f.isOpen then .error (.unexpectedOpen (f.name.getD ""))
  else .ok { f with isOpen := true }

/-- Adds a finished argument to the open list. -/
def pushArgument (f : TypeFrame) (argument : TypeName) : Except Failure TypeFrame :=
  if f.isOpen then .ok { f with arguments := f.arguments ++ [argument] }
  else .error .unexpectedClose

/-- Closes the argument list, which must be open. -/
def closeList (f : TypeFrame) : Except Failure TypeFrame :=
  if f.isOpen then .ok { f with isOpen := false } else .error .unexpectedClose

/-- The type that has been read, if it has a name. -/
def toType (f : TypeFrame) : Except Failure TypeName :=
  match f.name with
  | some name => .ok ⟨name, f.arguments⟩
  | none => .error .unnamedType

end TypeFrame

end ApiPages
