/-
# Selectors

The elements that matter on a page are named by selectors: a compound of tag, identifier and
classes that the element itself has to satisfy, and compounds that elements around it have to
satisfy, each either the direct parent or any ancestor of the one before.  Ancestors are looked
for all the way up, also above the element from which a selection starts.

A selector is displayed in the usual notation, which is how failures name it.
-/
import ApiPages.Failure
import ApiPages.Markup.Node

namespace ApiPages

/-- Conditions on a single element. -/
structure Compound where
  tag : Option String := none
  identifier : Option String := none
  classes : List String := []
  /-- Classes that the element must not have. -/
  without : List String := []
  deriving Repr

/-- How an element is related to the one that a condition speaks about. -/
inductive Relation where
  /-- Somewhere below it. -/
  | within
  /-- Directly below it. -/
  | childOf
  deriving Repr, DecidableEq

/-- Conditions on an element and, from the inside out, on elements around it. -/
structure Selector where
  subject : Compound
  context : List (Relation × Compound) := []
  deriving Repr

/-! ## 1. Matching -/

namespace Element

/-- The classes of an element: its `class` attribute cut at ASCII blanks. -/
def classes (e : Element) : List String :=
  let value := (e.attribute? "class").getD ""
  let isSeparator := fun c => c == ' ' || c == '\t' || c == '\n' || c == '\r' || c == '\x0C'
  ((Text.cut isSeparator value.toList).filter (!·.isEmpty)).map String.ofList

end Element

namespace Compound

/-- Whether an element satisfies the conditions. -/
def accepts (c : Compound) (e : Element) : Bool :=
  c.tag.all (· == e.tag)
    && c.identifier.all (fun identifier => e.attribute? "id" == some identifier)
    && c.classes.all (fun name => name ∈ e.classes)
    && c.without.all (fun name => name ∉ e.classes)

end Compound

namespace Selector

/-- Whether the conditions of a context, from the inside out, hold of the enclosing elements. -/
def holdsAround : List (Relation × Compound) → List Element → Bool
  | [], _ => true
  | _ :: _, [] => false
  | (.childOf, c) :: more, e :: enclosing => c.accepts e && holdsAround more enclosing
  | (.within, c) :: more, e :: enclosing =>
    (c.accepts e && holdsAround more enclosing) || holdsAround ((.within, c) :: more) enclosing

/-- Whether a selector matches an element in its place. -/
def accepts (s : Selector) (l : Located) : Bool :=
  s.subject.accepts l.element && holdsAround s.context l.enclosing

end Selector

/-! ## 2. Notation -/

/-- The notation of a compound. -/
def Compound.display (c : Compound) : String :=
  c.tag.getD "" ++ (c.identifier.map ("#" ++ ·)).getD ""
    ++ String.join (c.classes.map ("." ++ ·))
    ++ String.join (c.without.map (":not(." ++ · ++ ")"))

/-- The notation of a selector, the outermost condition first. -/
def Selector.display (s : Selector) : String :=
  s.context.foldl (fun inner (relation, c) =>
    match relation with
    | .within => c.display ++ " " ++ inner
    | .childOf => c.display ++ " > " ++ inner) s.subject.display

/-! ## 3. Selection -/

namespace Located

/-- The elements below an element that a selector matches, in document order. -/
def select (l : Located) (s : Selector) : List Located := l.descendants.filter s.accepts

/-- The elements below an element that one of several selectors matches, in document order. -/
def selectAny (l : Located) (selectors : List Selector) : List Located :=
  l.descendants.filter fun d => selectors.any (·.accepts d)

/-- The one element that a selector matches; a failure if there is none or more than one. -/
def selectSingle (l : Located) (s : Selector) : Except Failure Located :=
  match l.select s with
  | [found] => .ok found
  | found => .error (.expectedSingle s.display found.length)

end Located

end ApiPages
