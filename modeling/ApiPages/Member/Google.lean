/-
# Members in the Google layout

Each member has a detail block, directly inside the section of its sort.  A constant shows its
parts in elements of their own; a method has its signature as the title of the block.
-/
import ApiPages.Documentation
import ApiPages.Member.Basic
import ApiPages.Member.Constant
import ApiPages.Signature.Reader

namespace ApiPages.Member.Google

/-! ## 1. Where things are -/

/-- The detail blocks of a section. -/
def details (name : String) : Selector where
  subject := { tag := some "div", classes := ["jd-details"] }
  context := [(.childOf, { tag := some "section", identifier := some name })]

/-- The title of a detail block. -/
def title : Compound := { classes := ["jd-details-title"] }

/-- The modifiers and the type of a constant. -/
def declaredType : Selector :=
  { subject := { tag := some "span", classes := ["normal"] }, context := [(.within, title)] }

/-- The name of a constant. -/
def declaredName : Selector :=
  { subject := { tag := some "strong" }, context := [(.within, title)] }

/-- The literal of a constant. -/
def literal : Selector where
  subject := { tag := some "span", without := ["jd-tagdescr"] }
  context := [(.childOf, { tag := some "div", classes := ["jd-tagdata"] })]

/-! ## 2. Members -/

/-- The constant that a detail block declares; the last word before the name is its type. -/
def constant (block : Located) : Except Failure Field := do
  let declared := (← block.selectSingle declaredType).element.line
  let name := (← block.selectSingle declaredName).element.line
  let value := (← block.selectSingle literal).element.line
  let type ← Constant.typeOfWord ((Text.piecesOf ' ' declared).getLastD "")
  return Field.constant name type value (Documentation.ofMember .google block)

/-- The method that a detail block declares. -/
def method (limit : Option Nat) (block : Located) : Except Failure Method := do
  let found ← block.selectSingle { subject := title }
  Method.ofElement false limit (Documentation.ofMember .google block) found.element

/-- **The members of a page**: all constants, then all methods. -/
def ofPage (limit : Option Nat) (page : Element) : Except Failure Members := do
  let root := Located.root page
  let fields ← (root.select (details "constants")).mapM constant
  let methods ← (root.select (details "public-methods")).mapM (method limit)
  return { fields, methods }

end ApiPages.Member.Google
