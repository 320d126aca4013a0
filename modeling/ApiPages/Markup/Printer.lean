/-
# Printed markup

The written form of an element: its start tag with the attributes sorted by name, its children,
and its end tag.  A void element has no end tag, and of what is in it only texts and comments are
written, not the tags.  Text and attribute values are escaped as little as possible; the text of a
few elements is not escaped at all.
-/
import ApiPages.Markup.Node

namespace ApiPages

namespace Markup

/-- The elements that are written without an end tag, and without the tags in them. -/
def voidTags : List String :=
  ["area", "base", "basefont", "bgsound", "br", "col", "embed", "frame", "hr", "img", "input",
    "keygen", "link", "meta", "param", "source", "track", "wbr"]

/-- The elements whose text is written as it is. -/
def rawTextTags : List String :=
  ["style", "script", "xmp", "iframe", "noembed", "noframes", "plaintext"]

/-- A character of a text. -/
def escapedTextChar (c : Char) : List Char :=
  match c with
  | '&' => "&amp;".toList
  | '\u00A0' => "&nbsp;".toList
  | '<' => "&lt;".toList
  | '>' => "&gt;".toList
  | _ => [c]

/-- A character of an attribute value. -/
def escapedValueChar (c : Char) : List Char :=
  match c with
  | '&' => "&amp;".toList
  | '\u00A0' => "&nbsp;".toList
  | '"' => "&quot;".toList
  | _ => [c]

/-- A text with the characters escaped that would be read as markup. -/
def escapedText (s : String) : String := String.ofList (s.toList.flatMap escapedTextChar)

/-- An attribute value with the characters escaped that would end it. -/
def escapedValue (s : String) : String := String.ofList (s.toList.flatMap escapedValueChar)

/-- An attribute of a start tag. -/
def printedAttribute : String × String → String
  | (name, value) => " " ++ name ++ "=\"" ++ escapedValue value ++ "\""

/-- A start tag, with its attributes sorted by name. -/
def startTag (tag : String) (attributes : List (String × String)) : String :=
  let sorted := attributes.mergeSort fun a b => a.1 ≤ b.1
  "<" ++ tag ++ String.join (sorted.map printedAttribute) ++ ">"

end Markup

open Markup

mutual

/-- A node that stands directly inside an element with tag `parent`; `tagless` says that this
element is in or is a void element. -/
def Node.print (tagless : Bool) (parent : String) : Node → String
  | .text content => if parent ∈ rawTextTags then content else escapedText content
  | .comment content => "<!--" ++ content ++ "-->"
  | .element tag attributes children =>
    if tagless then Node.printAll true tag children
    else if tag ∈ voidTags then startTag tag attributes ++ Node.printAll true tag children
    else startTag tag attributes ++ Node.printAll false tag children ++ "</" ++ tag ++ ">"

/-- The nodes that stand directly inside an element with tag `parent`. -/
def Node.printAll (tagless : Bool) (parent : String) : List Node → String
  | [] => ""
  | node :: rest => node.print tagless parent ++ Node.printAll tagless parent rest

end

/-- **The written form of an element.** -/
def Element.print (e : Element) : String := e.toNode.print false ""

end ApiPages
