/-
# Reading signatures

The reader goes through a signature token by token.  It is always in one state: among the
modifiers, inside an annotation, in the return type, about to read the name, in a parameter,
behind the parameters, or in the `throws` clause.  Each token either moves it on or is a failure.

Some tokens say by themselves that a part is over: the first word that is no modifier ends the
modifiers, the first word behind a complete type is the name.  An array suffix behind a type
belongs to it.  Angle brackets, and commas between them, are left to the type that is being read.

A signature may only end where its kind of member is complete.
-/
import ApiPages.Link.Reference
import ApiPages.Signature.Basic
import ApiPages.Signature.Token
import ApiPages.Signature.TypeStack

namespace ApiPages.Signature

/-! ## 1. States -/

/-- Where the reader is in a signature. -/
inductive State where
  | modifiers
  | annotated (type : TypeStack)
  | returnType (type : TypeStack)
  | name
  | parameter (type : TypeStack) (name : Option String)
  | complete
  | throwsClause (type : TypeStack)
  deriving Repr, DecidableEq

namespace State

/-- The stage that messages name.  Inside an argument list it is that; an annotation is always
named as a whole. -/
def stage : State → Stage
  | modifiers => .modifiers
  | annotated _ => .annotated
  | returnType type => if type.inArgument then .genericArgument else .returnType
  | name => .name
  | parameter type _ => if type.inArgument then .genericArgument else .parameter
  | complete => .complete
  | throwsClause type => if type.inArgument then .genericArgument else .throwsClause

/-- The state after a step of the type that is being read; none if no type is. -/
def typeStep? (step : TypeStep) : State → Option (Except Failure State)
  | annotated type => some ((type.step step).toExcept.map annotated)
  | returnType type => some ((type.step step).toExcept.map returnType)
  | parameter type word =>
    some ((type.step step).toExcept.map fun changed => parameter changed word)
  | throwsClause type => some ((type.step step).toExcept.map throwsClause)
  | _ => none

end State

/-- The reader of a signature: what it reads, where it is, and what it has read. -/
structure Reader where
  kind : MemberKind
  /-- How deeply argument lists may be nested. -/
  limit : Option Nat
  state : State
  read : Signature
  deriving Repr, DecidableEq

namespace Reader

/-- The reader before the first token. -/
def start (kind : MemberKind) (limit : Option Nat) : Reader := ⟨kind, limit, .modifiers, {}⟩

/-- A type of which nothing has been read. -/
def freshType (r : Reader) : TypeStack := .start r.limit

/-- The reader in another state. -/
def goto (r : Reader) (state : State) : Reader := { r with state }

/-- The failure of a token that the state has no use for. -/
def unexpected (r : Reader) (token : String) : Except Failure Reader :=
  .error (.unexpectedToken token r.state.stage)

/-- A token that is a step of the type being read; it is unexpected if no type is. -/
def typeStep (r : Reader) (token : String) (step : TypeStep) : Except Failure Reader :=
  match r.state.typeStep? step with
  | some state => state.map r.goto
  | none => r.unexpected token

/-- The reader behind the modifiers, where a type or, in a constructor, the name begins. -/
def leaveModifiers (r : Reader) : Reader :=
  match r.state, r.kind with
  | .modifiers, .constructor => r.goto .name
  | .modifiers, _ => r.goto (.returnType r.freshType)
  | _, _ => r

/-- Adds a finished parameter; it must have a name, and its type must be complete. -/
def pushParameter (r : Reader) (type : TypeStack) (name : Option String) :
    Except Failure Reader :=
  match name with
  | none => .error (.missingParameterName r.read.parameters.length)
  | some name => do
    let type ← type.toType
    return { r with read := { r.read with parameters := r.read.parameters ++ [⟨type, name⟩] } }

/-- Adds a finished exception. -/
def pushException (r : Reader) (type : TypeStack) : Except Failure Reader := do
  let type ← type.toType
  return { r with read := { r.read with exceptions := r.read.exceptions ++ [type] } }

/-! ## 2. Steps -/

/-- A word that is no modifier, or stands behind the modifiers. -/
def plainWord (r : Reader) (text : String) : Except Failure Reader :=
  match r.state with
  | .annotated type => return r.goto (.annotated (← (type.setName text).toExcept))
  | .returnType type =>
    if type.current.name.isNone then
      return r.goto (.returnType (← (type.setName text).toExcept))
    else if isArraySuffix text then
      return r.goto (.returnType (← (type.appendSuffix text).toExcept))
    else if type.inArgument then r.unexpected text
    else do
      let type ← type.toType
      return { r with
        state := .name
        read := { r.read with returnType := some type, name := some text } }
  | .name =>
    if r.read.name.isSome then r.unexpected text
    else return { r with read := { r.read with name := some text } }
  | .parameter type name =>
    if type.current.name.isNone then
      return r.goto (.parameter (← (type.setName text).toExcept) name)
    else if name.isNone && isArraySuffix text then
      return r.goto (.parameter (← (type.appendSuffix text).toExcept) name)
    else if type.inArgument || name.isSome then r.unexpected text
    else return r.goto (.parameter type (some text))
  | .complete =>
    if text = "throws" then return r.goto (.throwsClause r.freshType) else r.unexpected text
  | .throwsClause type => return r.goto (.throwsClause (← (type.setName text).toExcept))
  | .modifiers => r.unexpected text

/-- A word. -/
def word (r : Reader) (text : String) : Except Failure Reader :=
  match r.state, Modifier.ofKeyword? text with
  | .modifiers, some m =>
    return { r with read := { r.read with modifiers := r.read.modifiers.insert m } }
  | _, _ => r.leaveModifiers.plainWord text

/-- An anchor: it names the type that is being read. -/
def anchor (r : Reader) (e : Element) : Except Failure Reader := do
  let type ← (← e.classReference).typeName
  r.leaveModifiers.typeStep type.name (.setName type.name)

/-- A line break: it ends an annotation, behind which more modifiers may follow. -/
def lineBreak (r : Reader) : Except Failure Reader :=
  match r.state with
  | .annotated type => do
    let type ← type.toType
    return { r with
      state := .modifiers
      read := { r.read with annotations := r.read.annotations ++ [type] } }
  | _ => r.unexpected "<br>"

/-- An `@`: it starts an annotation. -/
def atSign (r : Reader) : Except Failure Reader :=
  match r.state with
  | .modifiers => return r.goto (.annotated r.freshType)
  | _ => r.unexpected "@"

/-- A `(`: it ends the name of a method or constructor. -/
def openParameters (r : Reader) : Except Failure Reader :=
  if r.state = .name ∧ r.read.name.isSome ∧ r.kind ≠ .field then
    return r.goto (.parameter r.freshType none)
  else r.unexpected "("

/-- A comma: inside an argument list it ends an argument, otherwise a parameter or an exception. -/
def comma (r : Reader) : Except Failure Reader :=
  match r.state with
  | .returnType type =>
    if type.inArgument then return r.goto (.returnType (← type.nextArgument.toExcept))
    else r.unexpected ","
  | .parameter type name =>
    if type.inArgument then return r.goto (.parameter (← type.nextArgument.toExcept) name)
    else return (← r.pushParameter type name).goto (.parameter r.freshType none)
  | .throwsClause type =>
    if type.inArgument then return r.goto (.throwsClause (← type.nextArgument.toExcept))
    else return (← r.pushException type).goto (.throwsClause r.freshType)
  | _ => r.unexpected ","

/-- A `)`: it ends the last parameter.  Only a list without any parameter may have nothing before
it. -/
def closeParameters (r : Reader) : Except Failure Reader :=
  match r.state with
  | .parameter type name =>
    if type.inArgument then r.unexpected ")"
    else if name.isSome then return (← r.pushParameter type name).goto .complete
    else if type.root.name.isSome || !r.read.parameters.isEmpty then
      .error (.missingParameterName r.read.parameters.length)
    else return r.goto .complete
  | _ => r.unexpected ")"

/-- A mark. -/
def mark (r : Reader) : Mark → Except Failure Reader
  | .atSign => r.atSign
  | .openList => r.typeStep "<" .openList
  | .closeList => r.typeStep ">" .closeList
  | .openParameters => r.openParameters
  | .comma => r.comma
  | .closeParameters => r.closeParameters

/-- **One token.** -/
def step (r : Reader) : Token → Except Failure Reader
  | .word text => r.word text
  | .mark m => r.mark m
  | .anchor e => r.anchor e
  | .lineBreak => r.lineBreak

/-- The end of the signature, which must be complete. -/
def finish (r : Reader) : Except Failure Signature :=
  match r.state with
  | .complete => return r.read
  | .throwsClause type =>
    if type.root.name.isSome then return (← r.pushException type).read
    else .error (.incomplete r.state.stage)
  | .name =>
    if r.kind = .field ∧ r.read.name.isSome then return r.read
    else .error (.incomplete r.state.stage)
  | _ => .error (.incomplete r.state.stage)

end Reader

/-! ## 3. Signatures and members -/

/-- The signature that a sequence of tokens spells. -/
def ofTokens (kind : MemberKind) (limit : Option Nat) (tokens : List Token) :
    Except Failure Signature := do
  let reader ← tokens.foldlM Reader.step (Reader.start kind limit)
  reader.finish

/-- The signature that a flattened element spells. -/
def ofFragments (kind : MemberKind) (limit : Option Nat) (fragments : List Fragment) :
    Except Failure Signature := ofTokens kind limit (Token.ofFragments fragments)

/-- **The signature that an element spells.**  A failure shows the text of the element. -/
def ofElement (kind : MemberKind) (limit : Option Nat) (e : Element) : Except Failure Signature :=
  (ofFragments kind limit e.fragments).mapError (.inFragment e.line)

end ApiPages.Signature

namespace ApiPages

/-- The method or constructor whose signature an element spells. -/
def Method.ofElement (isConstructor : Bool) (limit : Option Nat) (doc : String) (e : Element) :
    Except Failure Method := do
  let kind := if isConstructor then .constructor else .method
  let s ← Signature.ofElement kind limit e
  return {
    name := if isConstructor then none else s.name
    modifiers := s.modifiers
    annotations := s.annotations
    returnType := if isConstructor then none else s.returnType
    parameters := s.parameters
    exceptions := s.exceptions
    doc
    body := s.body }

/-- The field whose signature an element spells; it has no initializer. -/
def Field.ofElement (limit : Option Nat) (doc : String) (e : Element) : Except Failure Field := do
  let s ← Signature.ofElement .field limit e
  match s.returnType, s.name with
  | some type, some name => return ⟨name, type, s.modifiers, none, doc⟩
  | _, _ => .error (.inFragment e.line (.incomplete .name))

end ApiPages
