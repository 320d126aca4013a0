/-
# Types under construction

A type expression is read from left to right, so at any moment a chain of levels is open: the type
itself, one of its arguments, an argument of that one, and so on.  The stack holds the frames of
all levels that are open.  An angle bracket opens the list of the innermost level and puts a new
frame on top; a comma or a closing bracket finishes the innermost level and hands it to the one
below.

An operation that fails may have done a part of its work before: finishing a level takes its frame
off the stack first, and a frame that turns out to have no name stays off.  Hence the outcome of
an operation (`Attempt`) keeps what was left behind.
-/
import ApiPages.Signature.TypeFrame

namespace ApiPages

/-! ## 1. Attempts -/

/-- The outcome of an operation on a value of type `σ`. -/
inductive Attempt (σ : Type) where
  | done (result : σ)
  /-- The operation failed, and left `rest` behind. -/
  | failed (failure : Failure) (rest : σ)
  deriving Repr

namespace Attempt

variable {σ : Type}

/-- The value after the attempt, whether it failed or not. -/
def value : Attempt σ → σ
  | done result => result
  | failed _ rest => rest

/-- The failure of the attempt, if it failed. -/
def failure? : Attempt σ → Option Failure
  | done _ => none
  | failed failure _ => some failure

/-- The result for a reader that gives up at the first failure. -/
def toExcept : Attempt σ → Except Failure σ
  | done result => .ok result
  | failed failure _ => .error failure

end Attempt

/-! ## 2. The stack -/

/-- The frames of all open levels of a type, with the greatest number of argument lists that may be
open at once. -/
structure TypeStack where
  /-- The type itself. -/
  root : TypeFrame := .empty
  /-- The arguments being read, the innermost first. -/
  inner : List TypeFrame := []
  limit : Option Nat := none
  deriving Repr, DecidableEq

namespace TypeStack

/-- A type of which nothing has been read. -/
def start (limit : Option Nat) : TypeStack := { limit }

instance : Inhabited TypeStack := ⟨start none⟩

/-- The number of open argument lists. -/
def depth (s : TypeStack) : Nat := s.inner.length

/-- Whether an argument is being read, and not the type itself. -/
def inArgument (s : TypeStack) : Bool := !s.inner.isEmpty

/-- The frame of the innermost level. -/
def current (s : TypeStack) : TypeFrame := s.inner.headD s.root

/-- The stack with another frame for the innermost level. -/
def withCurrent (s : TypeStack) (frame : TypeFrame) : TypeStack :=
  match s.inner with
  | [] => { s with root := frame }
  | _ :: below => { s with inner := frame :: below }

/-- The stack with a new level on top. -/
def push (s : TypeStack) : TypeStack := { s with inner := .empty :: s.inner }

/-- Changes the innermost level. -/
def onCurrent (s : TypeStack) (change : TypeFrame → Except Failure TypeFrame) :
    Attempt TypeStack :=
  match change s.current with
  | .ok frame => .done (s.withCurrent frame)
  | .error failure => .failed failure s

/-- Names the innermost level. -/
def setName (s : TypeStack) (name : String) : Attempt TypeStack := s.onCurrent (·.setName name)

/-- Puts an array or varargs suffix behind the name of the innermost level. -/
def appendSuffix (s : TypeStack) (suffix : String) : Attempt TypeStack :=
  s.onCurrent (·.appendSuffix suffix)

/-- Whether another argument list may not be opened. -/
def exceeded? (s : TypeStack) : Option Nat := s.limit.filter (· ≤ s.depth)

/-- **Opens an argument list**: that of the innermost level, which must have a name. -/
def openList (s : TypeStack) : Attempt TypeStack :=
  match s.exceeded? with
  | some limit => .failed (.depthExceeded limit) s
  | none =>
    if s.current.name.isNone then .failed (.unexpectedOpen "") s
    else
      match s.current.openList with
      | .ok frame => .done (s.withCurrent frame).push
      | .error failure => .failed failure s

/-- Takes the innermost argument off the stack and hands it, finished, to `change` together with the
level below. -/
def handDown (s : TypeStack) (change : TypeName → TypeFrame → Except Failure TypeFrame) :
    Attempt TypeStack :=
  match s.inner with
  | [] => .failed .unexpectedClose s
  | frame :: below =>
    let left := { s with inner := below }
    match frame.toType with
    | .ok argument => left.onCurrent (change argument)
    | .error failure => .failed failure left

/-- **Goes on to the next argument** of the list that is open. -/
def nextArgument (s : TypeStack) : Attempt TypeStack :=
  match s.handDown fun argument frame => frame.pushArgument argument with
  | .done next => .done next.push
  | .failed failure rest => .failed failure rest

/-- **Closes the argument list** that was opened last. -/
def closeList (s : TypeStack) : Attempt TypeStack :=
  s.handDown fun argument frame => do (← frame.pushArgument argument).closeList

/-! ## 3. Steps

What a reader may do to a type under construction, as data: a run over a type is a sequence of
steps. -/

end TypeStack

/-- A step in the reading of a type. -/
inductive TypeStep where
  | setName (name : String)
  | appendSuffix (suffix : String)
  | openList
  | nextArgument
  | closeList
  deriving Repr, DecidableEq

namespace TypeStack

/-- **One step.** -/
def step (s : TypeStack) : TypeStep → Attempt TypeStack
  | .setName name => s.setName name
  | .appendSuffix suffix => s.appendSuffix suffix
  | .openList => s.openList
  | .nextArgument => s.nextArgument
  | .closeList => s.closeList

/-- The type that has been read; all its argument lists must be closed. -/
def toType (s : TypeStack) : Except Failure TypeName :=
  if s.inArgument || s.root.isOpen then .error (.incomplete .genericArgument) else s.root.toType

end TypeStack

end ApiPages
