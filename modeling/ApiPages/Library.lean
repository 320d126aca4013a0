/-
# Libraries

The declarations of a whole library: its index page lists the classes, every class has a page, and
what the pages declare is brought together in a forest.  A page that cannot be read does not keep
the others from being read; its failure is reported beside the forest, unless the first failure is
to end the run.
-/
import ApiPages.ClassIndex
import ApiPages.Forest
import ApiPages.Markup.Document
import ApiPages.Page

namespace ApiPages

/-- Where pages come from: the text at a path of the site, or why it cannot be had. -/
abbrev PageSource := String → Except Failure String

namespace Library

/-- How a library is to be read. -/
structure Options where
  /-- The layout; without one it is told from the index page that is there. -/
  layout : Option Layout := none
  /-- How deeply argument lists may be nested. -/
  limit : Option Nat := none
  /-- Whether the first failure of a page ends the run. -/
  failFast : Bool := false
  deriving Repr, DecidableEq

/-- What reading a library yields. -/
structure Reconstruction where
  layout : Layout
  /-- The roots of the forest. -/
  declarations : List ClassDeclaration
  /-- The failures of the pages that declare nothing, in index order. -/
  failures : List Failure
  deriving Repr

/-- The number of declarations, nested ones included. -/
def Reconstruction.count (r : Reconstruction) : Nat := ClassDeclaration.countAll r.declarations

/-! ## 1. The index -/

/-- The site path of the index page of a library in a given layout. -/
def indexPath (library : String) (layout : Layout) : String :=
  "/reference/" ++ Text.withReplaced '.' '/' library ++ "/" ++ layout.indexPage

/-- The first layout of which the index page is there, and the text of that page.  Any other failure
than that a page is not there counts. -/
def findIndex (source : PageSource) (library : String) :
    List Layout → Except Failure (Layout × String)
  | [] => .error (.missingIndex library)
  | layout :: rest =>
    match source (indexPath library layout) with
    | .ok page => .ok (layout, page)
    | .error failure =>
      if failure.isNotFound then findIndex source library rest else .error failure

/-- The layouts whose index pages are looked for. -/
def candidates (layout : Option Layout) : List Layout :=
  match layout with
  | some layout => [layout]
  | none => Layout.all

/-! ## 2. The pages -/

/-- The declaration of the class that a reference leads to. -/
def readClass (source : PageSource) (layout : Layout) (limit : Option Nat) (r : ClassReference) :
    Except Failure ClassDeclaration := do
  let name ← r.qualifiedName.mapError (.inPage r.name)
  let path ← match Link.path? r.link with
    | some path => .ok path
    | none => .error (.inPage name (.malformedReference r.link))
  let page ← (source path).mapError (.inPage name)
  ClassDeclaration.ofPage layout limit name (Element.ofPage page)

/-- The site paths of the pages that reading a library needs besides its index. -/
def pagePaths (options : Options) (source : PageSource) (library : String) : List String :=
  match findIndex source library (candidates options.layout) with
  | .ok (_, index) =>
    match ClassIndex.ofPage (Element.ofPage index) with
    | .ok references => references.filterMap fun r => Link.path? r.link
    | .error _ => []
  | .error _ => []

/-- The pages that have been read, and the failures of the others. -/
structure Progress where
  collection : Collection := .empty
  failures : List Failure := []
  deriving Repr

/-- One page more. -/
def advance (failFast : Bool) (progress : Progress) (outcome : Except Failure ClassDeclaration) :
    Except Failure Progress :=
  match outcome with
  | .ok declaration => .ok { progress with collection := progress.collection.insert declaration }
  | .error failure =>
    if failFast then .error failure
    else .ok { progress with failures := progress.failures ++ [failure] }

/-- **The declarations of a library.** -/
def reconstruct (options : Options) (source : PageSource) (library : String) :
    Except Failure Reconstruction := do
  let (layout, index) ← findIndex source library (candidates options.layout)
  let references ← ClassIndex.ofPage (Element.ofPage index)
  let progress ← references.foldlM (fun progress r =>
    advance options.failFast progress (readClass source layout options.limit r)) {}
  return {
    layout
    declarations := progress.collection.forest
    failures := progress.failures }

end Library

end ApiPages
