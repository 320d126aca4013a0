/-
# The header of a page

Each layout has its own form of header; what they declare is the same.
-/
import ApiPages.Header.Android
import ApiPages.Header.Google
import ApiPages.Layout

namespace ApiPages

/-- **The class header of a page in a given layout.** -/
def ClassHeader.ofPage (layout : Layout) (limit : Option Nat) (page : Element) :
    Except Failure ClassHeader :=
  match layout with
  | .android => Header.Android.ofPage limit page
  | .google => Header.Google.ofPage limit page

end ApiPages
