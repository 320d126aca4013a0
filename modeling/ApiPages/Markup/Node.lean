/-
# Markup trees

A page is a tree of elements, texts and comments.  Everything that is read from it is read through
a few views: the text of an element, its children in order, and the elements below it in document
order, each with the elements that enclose it.
-/
import ApiPages.Text.Blank

namespace ApiPages

/-- A node of a markup tree. -/
inductive Node where
  | text (content : String)
  | comment (content : String)
  | element (tag : String) (attributes : List (String × String)) (children : List Node)
  deriving Repr, Inhabited

/-- An element: a tag with attributes and children. -/
structure Element where
  tag : String
  attributes : List (String × String)
  children : List Node
  deriving Repr, Inhabited

/-- An element as a node. -/
def Element.toNode (e : Element) : Node := .element e.tag e.attributes e.children

/-! ## 1. Text -/

mutual

/-- The text of a node: that of all text nodes in it, in document order. -/
def Node.textContent : Node → String
  | .text content => content
  | .comment _ => ""
  | .element _ _ children => Node.textOf children

/-- The text of a sequence of nodes. -/
def Node.textOf : List Node → String
  | [] => ""
  | node :: rest => node.textContent ++ Node.textOf rest

end

namespace Element

/-- The text of an element. -/
def text (e : Element) : String := Node.textOf e.children

/-- The text of an element in one line, with single spaces between its words. -/
def line (e : Element) : String := Text.normalized e.text

/-- The value of an attribute. -/
def attribute? (e : Element) (name : String) : Option String := e.attributes.lookup name

/-- Whether the element has nothing in it at all. -/
def isChildless (e : Element) : Bool := e.children.isEmpty

end Element

/-! ## 2. Elements in their place -/

/-- An element and the elements that enclose it, the nearest first. -/
structure Located where
  element : Element
  enclosing : List Element
  deriving Repr, Inhabited

mutual

/-- The elements of a node in document order, given what encloses the node. -/
def Node.elements (enclosing : List Element) : Node → List Located
  | .text _ => []
  | .comment _ => []
  | .element tag attributes children =>
    ⟨⟨tag, attributes, children⟩, enclosing⟩
      :: Node.elementsOf (⟨tag, attributes, children⟩ :: enclosing) children

/-- The elements of a sequence of nodes in document order. -/
def Node.elementsOf (enclosing : List Element) : List Node → List Located
  | [] => []
  | node :: rest => node.elements enclosing ++ Node.elementsOf enclosing rest

end

namespace Located

/-- The element at the top of a tree. -/
def root (e : Element) : Located := ⟨e, []⟩

/-- The elements below an element, in document order. -/
def descendants (l : Located) : List Located :=
  Node.elementsOf (l.element :: l.enclosing) l.element.children

/-- The child elements of an element in their place. -/
def childElement (l : Located) (e : Element) : Located := ⟨e, l.element :: l.enclosing⟩

end Located

end ApiPages
