/-
# Layouts

Two sites publish reference pages, and each has its own layout of class headers, member lists and
index pages.  The layout of a library can be told from the name of its index page.
-/
namespace ApiPages

/-- The layout of a documentation site. -/
inductive Layout where
  /-- Headers of `code.api-signature` elements, members in sections that comments announce. -/
  | android
  /-- A header block `#jd-header`, members in `section` elements. -/
  | google
  deriving Repr, DecidableEq

namespace Layout

/-- All layouts, in the order in which an index page is looked for. -/
def all : List Layout := [android, google]

/-- The name of a layout. -/
def name : Layout → String
  | android => "android"
  | google => "google"

/-- The file name of the index page of a library. -/
def indexPage : Layout → String
  | android => "classes.html"
  | google => "package-summary.html"

/-- The layout with a given name. -/
def ofName? (name : String) : Option Layout := all.find? (·.name == name)

theorem ofName?_name (l : Layout) : ofName? l.name = some l := by cases l <;> decide

end Layout

end ApiPages
