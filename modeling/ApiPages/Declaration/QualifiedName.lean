/-
# Qualified names

A qualified class name is a sequence of segments with dots between them.  The segments of the
package come first; the first segment that starts with a capital begins the chain of classes, of
which each one encloses the next.  So a name has an enclosing class exactly when its chain has two
or more classes, and the name of that class is the name without its last segment.
-/
import ApiPages.Text.Cut
import ApiPages.Text.Uppercase

namespace ApiPages.QualifiedName

/-- The segments of a name. -/
def segments (name : String) : List String := Text.piecesOf '.' name

/-- Whether a segment starts with a capital, and so may begin the chain of classes. -/
def isCapitalized (segment : String) : Bool := segment.toList.head?.any Text.isUpper

/-- The chain of classes: the segments from the first capitalized one on. -/
def classChain (name : String) : List String :=
  (segments name).dropWhile fun segment => !isCapitalized segment

/-- The last segment of a name. -/
def simpleName (name : String) : String := (segments name).getLastD name

/-- **The name of the enclosing class**, if the name denotes a nested class. -/
def enclosing? (name : String) : Option String :=
  if 2 ≤ (classChain name).length then some (".".intercalate (segments name).dropLast) else none

end ApiPages.QualifiedName
