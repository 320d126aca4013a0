/-
# Supertype clauses

Behind the name of a class its header has clauses: `extends` and a list of types, `implements` and
a list of types.  Types are words or anchors with argument lists; a comma ends a type, and so does
the beginning of the next one, since the pages also part types by blanks alone.

The type at the end of a list is pending until something ends it.  While one of its argument lists
is open nothing does: a name then belongs to the argument.  Each of the two lists has its own
pending type, which is resumed when the same keyword comes again.
-/
import ApiPages.Header.Basic
import ApiPages.Link.Reference
import ApiPages.Signature.TypeStack
import ApiPages.Text.Lexeme

namespace ApiPages

/-- The supertypes that every declaration has anyway; they are not recorded. -/
def implicitSupertypes : List String := ["java.lang.Object", "java.lang.annotation.Annotation"]

/-! ## 1. Lists of types -/

/-- A list of types that is being read. -/
structure SupertypeList where
  pending : Option TypeStack := none
  types : List TypeName := []
  /-- How deeply argument lists may be nested. -/
  limit : Option Nat := none
  deriving Repr, DecidableEq

namespace SupertypeList

/-- A list of which nothing has been read. -/
def start (limit : Option Nat) : SupertypeList := { limit }

/-- Adds a finished type to the list, unless it goes without saying. -/
def record (l : SupertypeList) (type : TypeName) : SupertypeList :=
  if type.name ∈ implicitSupertypes then l else { l with types := l.types ++ [type] }

/-- Ends the pending type, which must be complete. -/
def endPending (l : SupertypeList) : Except Failure SupertypeList :=
  match l.pending with
  | none => .ok l
  | some type => return { l with pending := none }.record (← type.toType)

/-- Ends the pending type, unless one of its argument lists is open. -/
def commit (l : SupertypeList) : Except Failure SupertypeList :=
  if l.pending.any (·.inArgument) then .ok l else l.endPending

/-- The list with the pending type one step on from `type`. -/
def typeStep (l : SupertypeList) (type : TypeStack) (step : TypeStep) :
    Except Failure SupertypeList :=
  return { l with pending := some (← (type.step step).toExcept) }

/-- The name of a type: of the pending one or of one of its arguments, or of the next type. -/
def name (l : SupertypeList) (name : String) : Except Failure SupertypeList :=
  match l.pending.filter fun type => type.current.name.isNone || type.inArgument with
  | some type => l.typeStep type (.setName name)
  | none => do (← l.commit).typeStep (.start l.limit) (.setName name)

/-- An opening bracket; there must be a type before it. -/
def openList (l : SupertypeList) : Except Failure SupertypeList :=
  match l.pending with
  | some type => l.typeStep type .openList
  | none => .error (.unexpectedToken "<" .supertypes)

/-- A closing bracket. -/
def closeList (l : SupertypeList) : Except Failure SupertypeList :=
  match l.pending with
  | some type => l.typeStep type .closeList
  | none => .error .unexpectedClose

/-- A comma: it ends an argument or a type. -/
def comma (l : SupertypeList) : Except Failure SupertypeList :=
  match l.pending.filter (·.inArgument) with
  | some type => l.typeStep type .nextArgument
  | none => l.commit

/-- The types of the list, at its end. -/
def finish (l : SupertypeList) : Except Failure (List TypeName) := return (← l.endPending).types

end SupertypeList

/-! ## 2. Clauses -/

/-- A clause of a class header. -/
inductive Clause where
  | extending
  | implementing
  deriving Repr, DecidableEq

namespace Clause

/-- The word that starts a clause. -/
def keyword : Clause → String
  | extending => "extends"
  | implementing => "implements"

/-- The clause that a word starts. -/
def ofKeyword? (word : String) : Option Clause :=
  [extending, implementing].find? (·.keyword == word)

end Clause

/-- A character that means something by itself in a clause. -/
inductive ClauseMark where
  | openList
  | closeList
  | comma
  deriving Repr, DecidableEq

namespace ClauseMark

/-- The mark that a character is, if it is one. -/
def ofChar? : Char → Option ClauseMark
  | '<' => some openList
  | '>' => some closeList
  | ',' => some comma
  | _ => none

/-- The text of a mark. -/
def text : ClauseMark → String
  | openList => "<"
  | closeList => ">"
  | comma => ","

/-- What a mark does to a list of types. -/
def apply : ClauseMark → SupertypeList → Except Failure SupertypeList
  | openList => SupertypeList.openList
  | closeList => SupertypeList.closeList
  | comma => SupertypeList.comma

end ClauseMark

/-- The clauses of a header that is being read. -/
structure Supertypes where
  /-- The clause that has been started last. -/
  clause : Option Clause := none
  extended : SupertypeList
  implemented : SupertypeList
  deriving Repr, DecidableEq

namespace Supertypes

/-- The clauses before anything has been read. -/
def start (limit : Option Nat) : Supertypes :=
  { extended := .start limit, implemented := .start limit }

/-- Changes the list of the current clause; without one `token` is unexpected. -/
def onList (s : Supertypes) (token : String)
    (change : SupertypeList → Except Failure SupertypeList) : Except Failure Supertypes :=
  match s.clause with
  | some .extending => return { s with extended := ← change s.extended }
  | some .implementing => return { s with implemented := ← change s.implemented }
  | none => .error (.unexpectedToken token .header)

/-- Ends the pending type of the current clause; there must be one. -/
def commit (s : Supertypes) : Except Failure Supertypes := s.onList "" (·.commit)

/-- Starts a clause. -/
def goto (s : Supertypes) (clause : Clause) : Except Failure Supertypes := do
  let s ← if s.clause.isSome then s.commit else pure s
  return { s with clause := some clause }

/-- A word.  Other words than the two keywords name types where bare names are allowed. -/
def word (s : Supertypes) (bareNames : Bool) (text : String) : Except Failure Supertypes :=
  match Clause.ofKeyword? text with
  | some clause => s.goto clause
  | none =>
    if bareNames then s.onList text (·.name text)
    else .error (.unexpectedToken text .supertypes)

/-- A word or a mark. -/
def lexeme (bareNames : Bool) (s : Supertypes) :
    Text.Lexeme ClauseMark → Except Failure Supertypes
  | .word text => s.word bareNames text
  | .mark m => s.onList m.text m.apply

/-- A run of text. -/
def text (s : Supertypes) (bareNames : Bool) (content : String) : Except Failure Supertypes :=
  (Text.lexemes ClauseMark.ofChar? content).foldlM (lexeme bareNames) s

/-- An anchor: it names a type. -/
def anchor (s : Supertypes) (e : Element) : Except Failure Supertypes := do
  let type ← (← e.classReference).typeName
  s.onList type.name (·.name type.name)

/-- An element: an anchor names a type, and any other element counts as its text. -/
def element (s : Supertypes) (bareNames : Bool) (e : Element) : Except Failure Supertypes :=
  if e.tag = "a" then s.anchor e else s.text bareNames e.line

/-- Puts the types of both clauses into a header. -/
def finish (s : Supertypes) (h : ClassHeader) : Except Failure ClassHeader := do
  let extended ← s.extended.finish
  let implemented ← s.implemented.finish
  return { h with
    extended := h.extended ++ extended
    implemented := h.implemented ++ implemented }

end Supertypes

end ApiPages
