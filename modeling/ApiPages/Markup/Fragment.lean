/-
# Flattened elements

A signature is an element in which text and anchors alternate.  What its reader sees is the flat
sequence of text runs, anchors and line breaks in document order: an anchor is one item whatever it
holds, a line break holds nothing, and every other element is transparent.
-/
import ApiPages.Markup.Node

namespace ApiPages

/-- An item of a flattened element. -/
inductive Fragment where
  /-- The content of a text node outside all anchors. -/
  | text (content : String)
  /-- An `a` element. -/
  | anchor (element : Element)
  /-- A `br` element. -/
  | lineBreak
  deriving Repr

mutual

/-- What a node contributes. -/
def Node.fragments : Node → List Fragment
  | .text content => [.text content]
  | .comment _ => []
  | .element tag attributes children =>
    if tag = "a" then [.anchor ⟨tag, attributes, children⟩]
    else if tag = "br" then [.lineBreak]
    else Node.fragmentsOf children

/-- What a sequence of nodes contributes. -/
def Node.fragmentsOf : List Node → List Fragment
  | [] => []
  | node :: rest => node.fragments ++ Node.fragmentsOf rest

end

/-- **The flattened content of an element.** -/
def Element.fragments (e : Element) : List Fragment := Node.fragmentsOf e.children

/-- The text that a fragment shows. -/
def Fragment.textContent : Fragment → String
  | .text content => content
  | .anchor e => e.text
  | .lineBreak => ""

end ApiPages
