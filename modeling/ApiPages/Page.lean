/-
# Pages

A page declares one class: its header makes the declaration, its members fill it.  Whatever goes
wrong is reported against the name of the page, and then the page declares nothing.
-/
import ApiPages.Header.Page
import ApiPages.Member.Android
import ApiPages.Member.Google

namespace ApiPages

/-- The members of a page in a given layout. -/
def Members.ofPage (layout : Layout) (limit : Option Nat) (page : Element) :
    Except Failure Members :=
  match layout with
  | .android => Member.Android.ofPage limit page
  | .google => Member.Google.ofPage limit page

namespace ClassDeclaration

/-- What a page declares, with failures as they arise. -/
def read (layout : Layout) (limit : Option Nat) (name : String) (page : Element) :
    Except Failure ClassDeclaration := do
  let header ← ClassHeader.ofPage layout limit page
  let declaration ← header.toDeclaration name
  let members ← Members.ofPage layout limit page
  return { declaration with fields := members.fields, methods := members.methods }

/-- **The declaration of the page with a given name.** -/
def ofPage (layout : Layout) (limit : Option Nat) (name : String) (page : Element) :
    Except Failure ClassDeclaration :=
  (read layout limit name page).mapError (.inPage name)

end ClassDeclaration

end ApiPages
