/-
# Headers of the Android layout

The header of a page is made of its `code.api-signature` elements.  The first text of each says
what it is: a clause keyword, whose clause the rest of the element continues, or a record of five
lines - access, `static`, `final`, `abstract`, kind - of which the middle three may be blank.
-/
import ApiPages.Header.Supertypes
import ApiPages.Markup.Selector

namespace ApiPages.Header.Android

/-- The elements that make up the header. -/
def signatures : Selector := { subject := { tag := some "code", classes := ["api-signature"] } }

/-! ## 1. The modifier record -/

/-- The text in a slot of a record. -/
def slot (slots : List String) (index : Nat) (slot : Slot) : Except Failure String :=
  match slots[index]? with
  | some text => .ok text
  | none => .error (.missingSlot slot)

/-- A slot that is blank or holds one keyword. -/
def optional (slots : List String) (index : Nat) (name : Slot) (modifier : Modifier)
    (h : ClassHeader) : Except Failure ClassHeader := do
  let text ← slot slots index name
  if text = "" then return h
  else if text = modifier.keyword then return h.withModifier modifier
  else .error (.unknownModifier name text)

/-- **The header with what a record says.** -/
def record (h : ClassHeader) (run : String) : Except Failure ClassHeader := do
  let slots := (Text.piecesOf '\n' run).map Text.trimmed
  let access ← slot slots 0 .access
  let h ← if access = Modifier.publicAccess.keyword then pure (h.withModifier .publicAccess)
    else .error (.unknownModifier .access access)
  let h ← optional slots 1 .static .static h
  let h ← optional slots 2 .final .final h
  let h ← optional slots 3 .abstract .abstract h
  let kind ← slot slots 4 .kind
  match ClassKind.ofKeyword? kind with
  | some kind => return { h with kind := some kind }
  | none => .error (.unknownKind kind)

/-! ## 2. Clauses -/

/-- The clause that the first text of an element starts; anything may follow the keyword in it. -/
def clauseOfRun? (run : String) : Option Clause :=
  [Clause.extending, Clause.implementing].find? fun clause =>
    (Text.after? clause.keyword.toList run.toList).isSome

/-- A child of an element that continues a clause. -/
def clauseChild (s : Supertypes) : Node → Except Failure Supertypes
  | .text content => s.text true content
  | .comment _ => .ok s
  | .element tag attributes children => s.element true ⟨tag, attributes, children⟩

/-! ## 3. The header -/

/-- One of the elements of a header. -/
def element (state : ClassHeader × Supertypes) (l : Located) :
    Except Failure (ClassHeader × Supertypes) :=
  let (h, s) := state
  match l.element.children with
  | .text content :: rest =>
    let run := Text.trimmed content
    if run = "" then .ok state
    else
      match clauseOfRun? run with
      | some clause => do
        let s ← rest.foldlM clauseChild (← s.goto clause)
        return (h, ← s.commit)
      | none => return (← record h run, s)
  | _ => .ok state

/-- **The header of a page.** -/
def ofPage (limit : Option Nat) (page : Element) : Except Failure ClassHeader := do
  let (h, s) ← ((Located.root page).select signatures).foldlM element ({}, Supertypes.start limit)
  s.finish h

end ApiPages.Header.Android
