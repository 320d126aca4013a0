/-
# Headers written out

The nodes of a class header, for both layouts: every name of a type is an anchor that leads to its
class, and the brackets and commas between them are text.  Nodes are written in front of others
(`rest`), so that texts that meet are one text, as on a page that has been read.

What a page is free to choose is left open: the text that an anchor shows (`label`), the blanks
around a keyword, if there are any, and the commas and blanks behind each type of a list.
-/
import ApiPages.Header.Page
import ApiPages.Proofs.Link.Plain
import ApiPages.Proofs.Signature.Rendering
import ApiPages.Proofs.Text.Pieces

namespace ApiPages

/-- A text in front of nodes; with a text there it is one. -/
def Node.withText (content : String) : List Node → List Node
  | .text more :: rest => .text (content ++ more) :: rest
  | rest => if content = "" then rest else .text content :: rest

/-- The text that nodes begin with; it is empty if they begin with something else. -/
def Node.leadingText : List Node → String
  | .text content :: _ => content
  | _ => ""

theorem Node.leadingText_withText (content : String) (ns : List Node) :
    leadingText (withText content ns) = content ++ leadingText ns := by
  unfold withText
  split
  · rfl
  · rename_i hother
    have hleading : leadingText ns = "" := by
      unfold leadingText
      split
      · exact absurd rfl (hother _ _)
      · rfl
    rw [hleading, String.append_empty]
    split
    · rename_i hempty
      rw [hleading, hempty]
    · rfl

section Shown

variable (label : String → List Node)

/-! ## 1. Types -/

/-- The anchor that leads to a class. -/
def Node.anchor (name : String) : Node := .element "a" [("href", Link.reference name)] (label name)

namespace TypeName

open Node (withText anchor)

mutual

/-- A type in front of other nodes. -/
def shown : TypeName → List Node → List Node
  | ⟨name, arguments⟩, rest => anchor label name :: shownArguments arguments rest

/-- The argument list of a type, if it has arguments. -/
def shownArguments : List TypeName → List Node → List Node
  | [], rest => rest
  | first :: others, rest => withText "<" (first.shown (shownOthers others rest))

/-- The arguments behind the first, and the end of the list. -/
def shownOthers : List TypeName → List Node → List Node
  | [], rest => withText ">" rest
  | t :: others, rest => withText "," (t.shown (shownOthers others rest))

end

/-- The types of a list, each with the text behind it. -/
def shownList : List (TypeName × String) → List Node → List Node
  | [], rest => rest
  | (t, separator) :: others, rest => t.shown label (withText separator (shownList others rest))

end TypeName

/-! ## 2. Clauses -/

/-- A text that parts the types of a list: commas and blanks only. -/
def isSeparator (s : String) : Bool := s.toList.all fun c => c == ',' || Text.isBlank c

/-- A clause as a page shows it: the texts before and behind the keyword, and the types. -/
structure ShownClause where
  before : String
  behind : String
  /-- The types, each with the text behind it. -/
  types : List (TypeName × String)

namespace ShownClause

/-- The types of a clause, without what stands between them. -/
def typeNames (c : ShownClause) : List TypeName := c.types.map (·.1)

/-- A clause in front of other nodes. -/
def shown (clause : Clause) (c : ShownClause) (rest : List Node) : List Node :=
  Node.withText (c.before ++ clause.keyword ++ c.behind) (TypeName.shownList label c.types rest)

/-- **A clause that can be read**: nothing but blanks stands next to the keyword, and nothing but
commas and blanks between the types; the types have plain names and are within the limit. -/
structure Readable (limit : Option Nat) (c : ShownClause) : Prop where
  before : Text.isBlankText c.before = true
  behind : Text.isBlankText c.behind = true
  separators : ∀ item ∈ c.types, isSeparator item.2 = true
  names : ∀ n ∈ TypeName.namesAll c.typeNames, Link.IsPlainName n
  within : Signature.Within limit c.typeNames

/-- The keyword of a clause does not run into that of the next one: a type or a blank is between
them. -/
def ApartFrom (c next : ShownClause) : Prop := c.types = [] → c.behind ++ next.before ≠ ""

/-- The types that some clauses show for one list. -/
def typesOf (clauses : List (Clause × ShownClause)) (clause : Clause) : List TypeName :=
  clauses.flatMap fun c => if c.1 = clause then c.2.typeNames else []

end ShownClause

/-- The types of a list that do not go without saying. -/
def explicitTypes (ts : List TypeName) : List TypeName :=
  ts.filter (·.name ∉ implicitSupertypes)

/-! ## 3. Headers -/

/-- A header as a page shows it. -/
structure ShownHeader where
  modifiers : Modifiers
  kind : ClassKind
  extended : ShownClause
  implemented : ShownClause
  /-- Whether a clause without types is left out. -/
  omitsEmpty : Bool

/-- The word that stands for a kind. -/
def ClassKind.keyword : ClassKind → String
  | classType => "class"
  | interfaceType => "interface"
  | annotationType => "@interface"

theorem ClassKind.ofKeyword?_keyword (kind : ClassKind) : ofKeyword? kind.keyword = some kind := by
  cases kind <;> rfl

namespace ShownHeader

/-- The clauses that are shown, in order. -/
def clauses (h : ShownHeader) : List (Clause × ShownClause) :=
  [(.extending, h.extended), (.implementing, h.implemented)].filter fun c =>
    !(h.omitsEmpty && c.2.types.isEmpty)

/-- The children of the header block in the Google layout: the keywords, an element with the name,
and the clauses. -/
def googleBlock (h : ShownHeader) (keywords : String) (name : Element) : List Node :=
  .text keywords :: name.toNode :: h.clauses.foldr (fun c => c.2.shown label c.1) []

/-- The keyword of a modifier that the header has; an empty text if it does not have it. -/
def slot (h : ShownHeader) (m : Modifier) : String :=
  if h.modifiers.has m then m.keyword else ""

/-- The five lines of the modifier record in the Android layout. -/
def record (h : ShownHeader) : String :=
  "\n".intercalate
    [Modifier.publicAccess.keyword, h.slot .static, h.slot .final, h.slot .abstract, h.kind.keyword]

/-- The children of the header elements in the Android layout: the record between blanks, and an
element for each clause. -/
def androidElements (h : ShownHeader) (before behind : String) : List (List Node) :=
  [.text (before ++ h.record ++ behind)] ::
    h.clauses.map fun c => c.2.shown label c.1 []

end ShownHeader

end Shown

end ApiPages
