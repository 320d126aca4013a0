/-
# Site paths

A saved site is a directory with the same tree as the site.  The file of a site path is the root
with the segments of the path behind it.  Segments that would lead elsewhere than down are left
out, so the file is always below the root, whatever a link says.
-/
import ApiPages.Text.Cut

namespace ApiPages.Site

/-- Whether a segment names something below the place where it stands. -/
def leadsDown (segment : String) : Bool := segment != "" && segment != "." && segment != ".."

/-- The segments of a site path that lead down. -/
def segments (path : String) : List String := (Text.piecesOf '/' path).filter leadsDown

/-- A path with one more segment behind it. -/
def join (path segment : String) : String :=
  if path = "" ∨ path.toList.getLast? = some '/' then path ++ segment else path ++ "/" ++ segment

/-- **The file of a site path** in a saved site. -/
def fileOf (root path : String) : String := (segments path).foldl join root

end ApiPages.Site
