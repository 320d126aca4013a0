/-
# Class indexes

The index page of a library has a table with a link to the page of every class.
-/
import ApiPages.Link.Reference
import ApiPages.Markup.Selector

namespace ApiPages.ClassIndex

/-- The anchors of the table. -/
def links : Selector where
  subject := { tag := some "a" }
  context :=
    [(.within, { tag := some "td", classes := ["jd-linkcol"] }),
      (.within, { tag := some "tr" }), (.within, { tag := some "table" })]

/-- **The classes of an index page**, in page order. -/
def ofPage (page : Element) : Except Failure (List ClassReference) :=
  ((Located.root page).select links).mapM fun l => l.element.classReference

end ApiPages.ClassIndex
