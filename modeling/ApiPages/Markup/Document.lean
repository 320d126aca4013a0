/-
# Reading pages

The reader of a page goes through it character by character and builds the tree as it goes.  It
holds the elements that are open, the text it has met since the last tag, and what it is in the
middle of (`Mode`): text, a tag name, an attribute, a comment, and so on.

Pages are expected to be well nested: an element ends at its end tag.  The tags of the document
frame (`html`, `head`, `body`) and of table bodies do not make elements, so that a page reads the
same with and without them.
-/
import ApiPages.Markup.CharacterReference
import ApiPages.Markup.Node

namespace ApiPages.Markup

/-! ## 1. The tree under construction -/

/-- An element whose end tag has not come yet; the last child is first. -/
structure OpenElement where
  tag : String
  attributes : List (String × String)
  children : List Node

/-- The open elements, the innermost first, and the finished nodes outside of them, the last
first. -/
structure Builder where
  openElements : List OpenElement := []
  top : List Node := []

namespace Builder

/-- Adds a finished node to the innermost open element. -/
def add (b : Builder) (node : Node) : Builder :=
  match b.openElements with
  | [] => { b with top := node :: b.top }
  | inner :: outer =>
    { b with openElements := { inner with children := node :: inner.children } :: outer }

/-- Ends the innermost open element. -/
def closeInnermost (b : Builder) : Builder :=
  match b.openElements with
  | [] => b
  | inner :: outer =>
    add { b with openElements := outer }
      (.element inner.tag inner.attributes inner.children.reverse)

/-- Ends the innermost open element with a tag, and what is open inside it; nothing happens if
there is none. -/
def close (b : Builder) (tag : String) : Builder :=
  match b.openElements.findIdx? (·.tag == tag) with
  | some inside => Nat.repeat closeInnermost (inside + 1) b
  | none => b

/-- The nodes of the finished tree. -/
def finish (b : Builder) : List Node :=
  (Nat.repeat closeInnermost b.openElements.length b).top.reverse

end Builder

/-! ## 2. Tags -/

/-- A tag that is being read; the last attribute is first. -/
structure Tag where
  isEnd : Bool
  name : String
  attributes : List (String × String) := []

/-- The tags that make no element. -/
def transparentTags : List String := ["html", "head", "body", "tbody"]

/-- The elements that have neither children nor end tag. -/
def childlessTags : List String :=
  ["area", "base", "br", "col", "embed", "hr", "img", "input", "link", "meta", "param", "source",
    "track", "wbr"]

/-- Adds an attribute; of two with the same name the first counts. -/
def Tag.addAttribute (t : Tag) (name value : List Char) : Tag :=
  let name := String.ofList name.reverse
  if t.attributes.any (·.1 == name) then t
  else { t with attributes := (name, unescape value.reverse) :: t.attributes }

/-- What a tag does to the tree. -/
def Builder.apply (b : Builder) (t : Tag) : Builder :=
  if t.name ∈ transparentTags then b
  else if t.isEnd then b.close t.name
  else if t.name ∈ childlessTags then b.add (.element t.name t.attributes.reverse [])
  else { b with openElements := ⟨t.name, t.attributes.reverse, []⟩ :: b.openElements }

/-! ## 3. The reader -/

/-- What the reader is in the middle of.  Character lists have the last character first. -/
inductive Mode where
  | text
  /-- Behind `<`. -/
  | tagOpen
  /-- Behind `</`. -/
  | endTagOpen
  /-- Behind `<!`. -/
  | declaration
  /-- Behind `<!-`. -/
  | declarationDash
  /-- In a declaration that is left out. -/
  | skipped
  | comment (content : List Char)
  | tagName (isEnd : Bool) (name : List Char)
  /-- Between the attributes of a tag. -/
  | betweenAttributes (tag : Tag)
  | attributeName (tag : Tag) (name : List Char)
  | afterAttributeName (tag : Tag) (name : List Char)
  /-- Behind the `=` of an attribute. -/
  | beforeValue (tag : Tag) (name : List Char)
  | quotedValue (tag : Tag) (name : List Char) (quote : Char) (value : List Char)
  | bareValue (tag : Tag) (name : List Char) (value : List Char)

/-- The reader of a page. -/
structure DocumentReader where
  builder : Builder := {}
  mode : Mode := .text
  /-- The text since the last tag or comment, the last character first. -/
  pending : List Char := []
  /-- Whether a line feed here is left out, since a `pre` has just started. -/
  skipsLineFeed : Bool := false
  /-- Whether the character before was a carriage return. -/
  afterReturn : Bool := false

/-- A blank between the parts of a tag. -/
def isTagBlank (c : Char) : Bool :=
  c == ' ' || c == '\t' || c == '\n' || c == '\r' || c == '\x0C'

namespace DocumentReader

/-- The reader in another mode. -/
def goto (r : DocumentReader) (mode : Mode) : DocumentReader := { r with mode }

/-- Makes a text node of the text that has been met. -/
def flush (r : DocumentReader) : DocumentReader :=
  match r.pending with
  | [] => r
  | pending => { r with
      pending := []
      builder := r.builder.add (.text (unescape pending.reverse)) }

/-- Behind a finished tag. -/
def finishTag (r : DocumentReader) (t : Tag) : DocumentReader :=
  { r.flush with
    builder := r.flush.builder.apply t
    mode := .text
    skipsLineFeed := !t.isEnd && t.name == "pre" }

/-- Behind a finished comment. -/
def finishComment (r : DocumentReader) (content : List Char) : DocumentReader :=
  { r.flush with
    builder := r.flush.builder.add (.comment (String.ofList content.reverse))
    mode := .text }

/-- A character of the text. -/
def textChar (r : DocumentReader) (c : Char) : DocumentReader :=
  if c = '<' then { r with mode := .tagOpen, skipsLineFeed := false }
  else if c = '\n' && r.skipsLineFeed then { r with mode := .text, skipsLineFeed := false }
  else { r with mode := .text, pending := c :: r.pending, skipsLineFeed := false }

/-- A character where an attribute or the end of the tag is expected. -/
def attributeStart (r : DocumentReader) (t : Tag) (c : Char) : DocumentReader :=
  if isTagBlank c || c == '/' then r.goto (.betweenAttributes t)
  else if c = '>' then r.finishTag t
  else r.goto (.attributeName t [c.toLower])

/-- One character, where every line ends with a line feed. -/
def unifiedStep (r : DocumentReader) (c : Char) : DocumentReader :=
  match r.mode with
  | .text => r.textChar c
  | .tagOpen =>
    if c.isAlpha then r.goto (.tagName false [c.toLower])
    else if c = '/' then r.goto .endTagOpen
    else if c = '!' then r.goto .declaration
    else { r with pending := '<' :: r.pending }.textChar c
  | .endTagOpen =>
    if c.isAlpha then r.goto (.tagName true [c.toLower])
    else { r with pending := '/' :: '<' :: r.pending }.textChar c
  | .declaration =>
    if c = '-' then r.goto .declarationDash
    else if c = '>' then r.goto .text else r.goto .skipped
  | .declarationDash =>
    if c = '-' then r.goto (.comment [])
    else if c = '>' then r.goto .text else r.goto .skipped
  | .skipped => if c = '>' then r.goto .text else r
  | .comment content =>
    match c, content with
    | '>', '-' :: '-' :: content => r.finishComment content
    | _, _ => r.goto (.comment (c :: content))
  | .tagName isEnd name =>
    if isTagBlank c || c == '/' || c == '>' then
      r.attributeStart { isEnd, name := String.ofList name.reverse } c
    else r.goto (.tagName isEnd (c.toLower :: name))
  | .betweenAttributes t => r.attributeStart t c
  | .attributeName t name =>
    if c = '=' then r.goto (.beforeValue t name)
    else if isTagBlank c then r.goto (.afterAttributeName t name)
    else if c == '/' || c == '>' then r.attributeStart (t.addAttribute name []) c
    else r.goto (.attributeName t (c.toLower :: name))
  | .afterAttributeName t name =>
    if c = '=' then r.goto (.beforeValue t name)
    else if isTagBlank c then r
    else r.attributeStart (t.addAttribute name []) c
  | .beforeValue t name =>
    if isTagBlank c then r
    else if c == '"' || c == '\'' then r.goto (.quotedValue t name c [])
    else if c = '>' then r.finishTag (t.addAttribute name [])
    else r.goto (.bareValue t name [c])
  | .quotedValue t name quote value =>
    if c = quote then r.goto (.betweenAttributes (t.addAttribute name value))
    else r.goto (.quotedValue t name quote (c :: value))
  | .bareValue t name value =>
    if isTagBlank c || c == '>' then r.attributeStart (t.addAttribute name value) c
    else r.goto (.bareValue t name (c :: value))

/-- **One character.**  A carriage return, and one with a line feed behind it, counts as a line
feed. -/
def step (r : DocumentReader) (c : Char) : DocumentReader :=
  if c = '\n' && r.afterReturn then { r with afterReturn := false }
  else if c = '\r' then { r.unifiedStep '\n' with afterReturn := true }
  else { r.unifiedStep c with afterReturn := false }

/-- The nodes of the page, at its end.  A tag or comment that is not finished is left out. -/
def finish (r : DocumentReader) : List Node :=
  let r := match r.mode with
    | .tagOpen => { r with pending := '<' :: r.pending }
    | .endTagOpen => { r with pending := '/' :: '<' :: r.pending }
    | _ => r
  r.flush.builder.finish

end DocumentReader

end ApiPages.Markup

namespace ApiPages

/-- **The tree of a page**: an `html` element with everything on the page in it. -/
def Element.ofPage (page : String) : Element :=
  ⟨"html", [], (page.toList.foldl Markup.DocumentReader.step {}).finish⟩

end ApiPages
