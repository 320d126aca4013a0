/-
# Failures

Why a declaration could not be read.  A failure is a cause, possibly inside the signature that was
being read and the page it was on; the two wrappers only add what a message says about the
place.  Failures fall into four categories, by which the summary of a run groups them.
-/
import ApiPages.Text.Quoted

namespace ApiPages

/-- The part of a signature or header that was being read. -/
inductive Stage where
  | modifiers
  | annotated
  | genericArgument
  | returnType
  | name
  | parameter
  | complete
  | throwsClause
  | supertypes
  | header
  deriving Repr, DecidableEq

namespace Stage

/-- How messages name a stage. -/
def label : Stage → String
  | modifiers => "Modifiers"
  | annotated => "Annotation"
  | genericArgument => "GenericArgument"
  | returnType => "ReturnType"
  | name => "Name"
  | parameter => "Parameter"
  | complete => "Complete"
  | throwsClause => "Throws"
  | supertypes => "Supertypes"
  | header => "Header"

end Stage

/-- A place of a class header in which one keyword of a fixed choice is expected. -/
inductive Slot where
  | access
  | static
  | final
  | abstract
  | kind
  /-- Any word before the class name. -/
  | keyword
  deriving Repr, DecidableEq

namespace Slot

/-- How messages name a slot. -/
def label : Slot → String
  | access => "access modifier"
  | static => "static"
  | final => "final"
  | abstract => "abstract"
  | kind => "kind"
  | keyword => "keyword"

end Slot

/-- A fixed form of text. -/
inductive TextForm where
  | constantSignature
  | constantValue
  deriving Repr, DecidableEq

namespace TextForm

/-- How messages name a form. -/
def label : TextForm → String
  | constantSignature => "constant signature"
  | constantValue => "constant value"

end TextForm

/-- Why a file could not be read or written: what the system says, and whether it says that there
is no such file. -/
structure FileFault where
  text : String
  notFound : Bool
  deriving Repr, DecidableEq

/-- **Why a declaration could not be read.** -/
inductive Failure where
  /-- A token that the stage has no use for. -/
  | unexpectedToken (token : String) (stage : Stage)
  /-- An argument list opened on a type that has no name, or whose list is open already. -/
  | unexpectedOpen (name : String)
  /-- An argument list closed that is not open. -/
  | unexpectedClose
  /-- Argument lists nested more deeply than allowed. -/
  | depthExceeded (limit : Nat)
  /-- A second name for the same type. -/
  | nameAlreadySet (existing incoming : String)
  /-- A type that was finished before it had a name. -/
  | unnamedType
  /-- A parameter, counted from zero, that has no name. -/
  | missingParameterName (index : Nat)
  /-- A word in a slot that is none of its keywords. -/
  | unknownModifier (slot : Slot) (value : String)
  /-- A word for no kind of declaration. -/
  | unknownKind (word : String)
  /-- A header record that ends before a slot. -/
  | missingSlot (slot : Slot)
  /-- A text that has not the form it should have. -/
  | formMismatch (form : TextForm) (text : String)
  /-- A constant of another type than `int`, `long` and `String`. -/
  | unsupportedFieldType (type : String)
  /-- A selector that should match once and does not. -/
  | expectedSingle (selector : String) (found : Nat)
  /-- An element without an attribute that it needs. -/
  | missingAttribute (element name : String)
  /-- A link that does not lead into the reference tree. -/
  | malformedReference (link : String)
  /-- A signature that ended too early. -/
  | incomplete (stage : Stage)
  /-- A page that never says what kind of type it declares. -/
  | unresolvedKind (page : String)
  /-- A library without an index page. -/
  | missingIndex (library : String)
  /-- A failure in a member signature. -/
  | inFragment (fragment : String) (cause : Failure)
  /-- A failure on a page. -/
  | inPage (page : String) (cause : Failure)
  /-- A page that could not be read. -/
  | unreadable (path : String) (fault : FileFault)
  deriving Repr, DecidableEq

/-- What a failure is about, broadly. -/
inductive Category where
  /-- Something expected is absent, or something found is not known. -/
  | structural
  /-- A link does not lead where it should. -/
  | resolution
  /-- Reading ended too early. -/
  | sequencing
  /-- A page is not there or not readable. -/
  | io
  deriving Repr, DecidableEq

namespace Category

/-- How a summary names a category. -/
def label : Category → String
  | structural => "structural"
  | resolution => "resolution"
  | sequencing => "sequencing"
  | io => "io"

end Category

namespace Failure

open Text (quoted)

/-- **The message of a failure.**  Words that the page chose freely are quoted; names stand as they
are. -/
def message : Failure → String
  | unexpectedToken token stage => "unexpected " ++ quoted token ++ " during " ++ stage.label
  | unexpectedOpen name =>
    "unexpected open-generic marker: `" ++ name ++ "` already has an open argument list"
  | unexpectedClose => "unexpected close-generic marker"
  | depthExceeded limit => "generic nesting exceeds the limit of " ++ toString limit
  | nameAlreadySet existing incoming =>
    "type name already set to `" ++ existing ++ "`, got `" ++ incoming ++ "`"
  | unnamedType => "type name has to be set before it can be materialised"
  | missingParameterName index => "parameter " ++ toString index ++ " is missing its name"
  | unknownModifier slot value => "unrecognised " ++ slot.label ++ ": " ++ quoted value
  | unknownKind word => "unrecognised kind: " ++ quoted word
  | missingSlot slot => "header record is missing its " ++ slot.label ++ " slot"
  | formMismatch form text => "failed to match " ++ form.label ++ " against " ++ quoted text
  | unsupportedFieldType type => "unrecognised field type " ++ quoted type
  | expectedSingle selector found =>
    "expected exactly one match for `" ++ selector ++ "`, found " ++ toString found
  | missingAttribute element name =>
    "<" ++ element ++ "> has no `" ++ name ++ "` attribute"
  | malformedReference link => "malformed cross-reference: " ++ link
  | incomplete stage => "signature ended in " ++ stage.label ++ " instead of completing"
  | unresolvedKind page => "failed to resolve the declaration kind of " ++ page
  | missingIndex library => "no class index found for " ++ library
  | inFragment fragment cause => cause.message ++ " in `" ++ fragment ++ "`"
  | inPage page cause => page ++ ": " ++ cause.message
  | unreadable path fault => "failed to read " ++ path ++ ": " ++ fault.text

/-- The cause inside all wrappers. -/
def cause : Failure → Failure
  | inFragment _ inner => inner.cause
  | inPage _ inner => inner.cause
  | plain => plain

/-- The category of a failure is that of its cause. -/
def category : Failure → Category
  | inFragment _ inner => inner.category
  | inPage _ inner => inner.category
  | malformedReference _ => .resolution
  | incomplete _ | unresolvedKind _ => .sequencing
  | unreadable _ _ | missingIndex _ => .io
  | _ => .structural

/-- Whether the failure itself, not one inside it, says that a page does not exist. -/
def isNotFound : Failure → Bool
  | unreadable _ fault => fault.notFound
  | _ => false

end Failure

end ApiPages
