/-
# Headers of the Google layout

The header of a page is the element `#jd-header`.  Its children are read in three phases: texts
with the modifiers and the kind, then the name, which is an element and is not looked at, and
behind it the supertype clauses, in which every type is an anchor.
-/
import ApiPages.Header.Supertypes
import ApiPages.Markup.Selector

namespace ApiPages.Header.Google

/-- The element that holds the header. -/
def block : Selector := { subject := { identifier := some "jd-header" } }

/-- How far the reader of a header block has come. -/
inductive Phase where
  | keywords
  /-- Behind the keywords, before the name. -/
  | name
  /-- Behind the name. -/
  | supertypes
  deriving Repr, DecidableEq

/-- A header block that is being read. -/
structure Reader where
  phase : Phase := .keywords
  header : ClassHeader := {}
  supertypes : Supertypes
  deriving Repr, DecidableEq

namespace Reader

/-- A word before the name: a modifier or a kind. -/
def keyword (h : ClassHeader) (word : String) : Except Failure ClassHeader :=
  match Modifier.ofKeyword? word, ClassKind.ofKeyword? word with
  | some m, _ => .ok (h.withModifier m)
  | none, some kind => .ok { h with kind := some kind }
  | none, none => .error (.unknownModifier .keyword word)

/-- A text.  Once there have been keywords, no further text may come before the name. -/
def text (r : Reader) (content : String) : Except Failure Reader :=
  let words := Text.wordsOf content
  match r.phase with
  | .keywords => do
    let header ← words.foldlM keyword r.header
    return { r with header, phase := if words.isEmpty then .keywords else .name }
  | .name =>
    if words.isEmpty then .ok r
    else .error (.unexpectedToken (Text.squeezed content) .name)
  | .supertypes => return { r with supertypes := ← r.supertypes.text false content }

/-- An element.  The first one is the name; line breaks behind it do not count. -/
def element (r : Reader) (e : Element) : Except Failure Reader :=
  match r.phase with
  | .keywords | .name => .ok { r with phase := .supertypes }
  | .supertypes =>
    if e.tag = "br" then .ok r
    else return { r with supertypes := ← r.supertypes.element false e }

/-- A child of the header block. -/
def child (r : Reader) : Node → Except Failure Reader
  | .text content => r.text content
  | .comment _ => .ok r
  | .element tag attributes children => r.element ⟨tag, attributes, children⟩

end Reader

/-- **The header of a page.** -/
def ofPage (limit : Option Nat) (page : Element) : Except Failure ClassHeader := do
  let found ← (Located.root page).selectSingle block
  let r ← found.element.children.foldlM Reader.child { supertypes := Supertypes.start limit }
  r.supertypes.finish r.header

end ApiPages.Header.Google
