/-
# Documentation text

The prose of a member is taken from its paragraphs and lists.  A paragraph becomes one line: its
text with blanks squeezed, links kept as links, and code that is nothing but one link turned into
a symbol reference.  A list is kept as markup.  An empty paragraph ends the documentation.
-/
import ApiPages.Layout
import ApiPages.Link.Reference
import ApiPages.Markup.Printer
import ApiPages.Markup.Selector

namespace ApiPages.Documentation

/-- The elements that hold the documentation of a member. -/
def paragraphs : Layout → List Selector
  | .google => [{ subject := { tag := some "p" } }, { subject := { tag := some "ul" } }]
  | .android =>
    [{ subject := { tag := some "p" }
       context := [(.childOf, { tag := some "div", classes := ["jd-tagdescr"] })] }]

/-- The anchors below an element. -/
def anchors : Selector := { subject := { tag := some "a" } }

/-- The target of an anchor. -/
def target (e : Element) : String := (e.attribute? "href").getD ""

/-- An anchor within a paragraph. -/
def link (e : Element) : String := "<a href=\"" ++ target e ++ "\">" ++ e.text ++ "</a>"

/-- Code within a paragraph. -/
def code (e : Element) : String :=
  match (Located.root e).select anchors with
  | [anchor] => "\x7b@link " ++ Link.symbol (target anchor.element) ++ "\x7d"
  | _ => Text.trimmed e.print

/-- A node within a paragraph. -/
def inline : Node → String
  | .text content => Text.squeezed content
  | .comment _ => ""
  | .element tag attributes children =>
    let e : Element := ⟨tag, attributes, children⟩
    if tag = "a" then link e
    else if tag = "code" then code e
    else Text.squeezed e.text

/-- The line of text that a paragraph or list becomes. -/
def block (e : Element) : String :=
  if e.tag = "p" then String.join (e.children.map inline)
  else if e.tag = "ul" then Text.trimmed e.print
  else ""

/-- The paragraphs and lists of a member up to the first empty one. -/
def blocks (layout : Layout) (member : Located) : List Element :=
  ((member.selectAny (paragraphs layout)).map (·.element)).takeWhile fun e => !e.isChildless

/-- **The documentation of a member**: the lines of its paragraphs and lists. -/
def ofMember (layout : Layout) (member : Located) : String :=
  Text.trimmed (String.join ((blocks layout member).map fun e => block e ++ "\n"))

end ApiPages.Documentation
