/-
# Cross-references

A link into the reference tree names a class: its path is `/reference/` or `/android/reference/`
and then the segments of the qualified name, with slashes or dots between them.  There are two
readings.  A signature needs the name, so its links have to have that form
(`resolve`).  Documentation text only shows a symbol, so any link is made as much of a symbol as
it can be (`symbol`).
-/
import ApiPages.Failure
import ApiPages.Declaration.TypeName
import ApiPages.Link.Address
import ApiPages.Markup.Node
import ApiPages.Text.WordChar

namespace ApiPages

namespace Link

open Text

/-! ## 1. Names -/

/-- A character of the name part of a path. -/
def isNameChar (c : Char) : Bool := isWord c || c == '/' || c == '.'

/-- The name part of a path into the reference tree. -/
def namePart? (path : List Char) : Option (List Char) :=
  match after? "/reference/".toList ((after? "/android".toList path).getD path) with
  | some name => if !name.isEmpty && name.all isNameChar then some name else none
  | none => none

/-- The name that a decoded path spells, without a final `.html`. -/
def nameOfPath? (path : String) : Option String :=
  (namePart? (withoutEnding ".html" path).toList).map fun name =>
    withReplaced '/' '.' (String.ofList name)

/-- **The qualified name of the class that a link leads to.** -/
def resolve (link : String) : Except Failure String :=
  match (path? link).bind nameOfPath? with
  | some name => .ok name
  | none => .error (.malformedReference link)

/-! ## 2. Symbols -/

/-- A line without what stands from its first `<` to its last `>`, if there is anything between
them. -/
def lineWithoutArguments (line : List Char) : List Char :=
  let front := line.takeWhile (· != '<')
  let back := (line.reverse.takeWhile (· != '>')).reverse
  if front.length + 2 + back.length < line.length then front ++ back else line

/-- A text with the type arguments taken out of each of its lines. -/
def withoutArguments (s : String) : String :=
  String.ofList (['\n'].intercalate ((cut (· == '\n') s.toList).map lineWithoutArguments))

/-- **The symbol by which documentation text shows a link**: decoded, without `.html` and the
beginning of a reference path, with dots for slashes, and without type arguments. -/
def symbol (link : String) : String :=
  let decoded := String.ofList (Percent.decodeFilled (withReplaced '+' ' ' link).toList)
  let trimmed := withoutPart ".html" decoded
  let tree := withoutStart "/reference/" (withoutStart "/android/reference/" trimmed)
  withoutArguments (withReplaced '/' '.' tree)

end Link

/-! ## 3. References to classes -/

/-- A link to a class as a page shows it: the text, and the link behind it. -/
structure ClassReference where
  name : String
  link : String
  deriving Repr, DecidableEq, Inhabited

namespace ClassReference

/-- The qualified name of the class referred to. -/
def qualifiedName (r : ClassReference) : Except Failure String := Link.resolve r.link

/-- The class referred to, as a type; a failure names the text shown beside the link. -/
def typeName (r : ClassReference) : Except Failure TypeName :=
  match r.qualifiedName with
  | .ok name => .ok (TypeName.simple name)
  | .error (.malformedReference link) =>
    .error (.malformedReference (link ++ " (" ++ r.name ++ ")"))
  | .error failure => .error failure

end ClassReference

/-- The reference that an anchor makes. -/
def Element.classReference (e : Element) : Except Failure ClassReference :=
  match e.attribute? "href" with
  | some link => .ok ⟨e.line, link⟩
  | none => .error (.missingAttribute e.tag "href")

end ApiPages
