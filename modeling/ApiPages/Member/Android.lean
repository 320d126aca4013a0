/-
# Members in the Android layout

All members are blocks, `div` elements directly inside `div#jd-content`.  A comment before them
says which section they belong to; it holds until the next such comment.  Blocks before the first
one belong to no section and are left out, like everything that is not a block.
-/
import ApiPages.Documentation
import ApiPages.Member.Basic
import ApiPages.Member.Constant
import ApiPages.Signature.Reader

namespace ApiPages.Member.Android

/-! ## 1. Sections -/

/-- A section of a page. -/
inductive Section where
  | constants
  | fields
  | constructors
  | methods
  deriving Repr, DecidableEq

namespace Section

/-- The section that a comment announces.  The pages do spell the last one so. -/
def ofMarker? : String → Option Section
  | "Constants" => some constants
  | "Fields" => some fields
  | "Public ctors" => some constructors
  | "Public methdos" => some methods
  | _ => none

end Section

/-- The blocks among the children of the content element, each with its section, where `current`
is the section that has been announced before. -/
def labelled : Option Section → List Node → List (Section × Element)
  | _, [] => []
  | current, .comment content :: rest =>
    labelled ((Section.ofMarker? (Text.trimmed content)).or current) rest
  | current, .text _ :: rest => labelled current rest
  | current, .element tag attributes children :: rest =>
    match current with
    | some name =>
      if tag = "div" then (name, ⟨tag, attributes, children⟩) :: labelled current rest
      else labelled current rest
    | none => labelled current rest

/-! ## 2. Blocks -/

/-- The element that holds all members. -/
def content : Selector := { subject := { tag := some "div", identifier := some "jd-content" } }

/-- The signature of a block. -/
def signature : Selector := { subject := { tag := some "pre", classes := ["api-signature"] } }

/-- The paragraphs of a block, of which the last one holds the value of a constant. -/
def paragraph : Selector := { subject := { tag := some "p" } }

/-- The constant that a block declares. -/
def constant (block : Located) : Except Failure Field := do
  let found ← block.selectSingle signature
  let valueLine := ((block.select paragraph).getLast?.map (·.element.line)).getD ""
  Constant.ofLines found.element.line valueLine (Documentation.ofMember .android block)

/-- **The member that a block declares**, by its section. -/
def ofBlock (limit : Option Nat) (label : Section) (block : Located) : Except Failure Member :=
  let doc := Documentation.ofMember .android block
  match label with
  | .constants => return .field (← constant block)
  | .fields => do
    let found ← block.selectSingle signature
    return .field (← Field.ofElement limit doc found.element)
  | .constructors => do
    let found ← block.selectSingle signature
    return .method (← Method.ofElement true limit doc found.element)
  | .methods => do
    let found ← block.selectSingle signature
    return .method (← Method.ofElement false limit doc found.element)

/-! ## 3. Pages -/

/-- **The members of a page**, block by block. -/
def ofPage (limit : Option Nat) (page : Element) : Except Failure Members := do
  let found ← (Located.root page).selectSingle content
  let members ← (labelled none found.element.children).mapM fun (label, block) =>
    ofBlock limit label (found.childElement block)
  return Members.ofList members

end ApiPages.Member.Android
