/-
# Members

The members of a page in page order: constants and fields on the one hand, constructors and
methods on the other.
-/
import ApiPages.Declaration.Basic

namespace ApiPages

/-- A member of a class. -/
inductive Member where
  | field (field : Field)
  | method (method : Method)
  deriving Repr, DecidableEq

/-- The members of a page. -/
structure Members where
  fields : List Field
  methods : List Method
  deriving Repr, DecidableEq

namespace Members

/-- Sorts members by what they are; both lists keep the order. -/
def ofList (members : List Member) : Members where
  fields := members.filterMap fun
    | .field f => some f
    | .method _ => none
  methods := members.filterMap fun
    | .field _ => none
    | .method m => some m

end Members

end ApiPages
