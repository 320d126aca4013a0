/-
# Constants

A constant has a type of three, a name and a literal.  One layout writes them as lines of text of
a fixed form: `public static final int MAX` and `Constant Value: 42 (0x2a)`, or with a quoted word
for a string.
-/
import ApiPages.Declaration.Basic
import ApiPages.Failure
import ApiPages.Text.WordChar

namespace ApiPages.Constant

open Text

/-! ## 1. Types -/

/-- The type that the word in a constant's declaration stands for. -/
def typeOfWord (word : String) : Except Failure TypeName :=
  if word = "int" then .ok (TypeName.simple "int")
  else if word = "long" then .ok (TypeName.simple "long")
  else if word = "String" then .ok (TypeName.simple "java.lang.String")
  else .error (.unsupportedFieldType word)

/-! ## 2. Lines -/

/-- A name: one or more word characters. -/
def isName (cs : List Char) : Bool := !cs.isEmpty && cs.all isWord

/-- The type word and the name of a line `public static final TYPE NAME`, where the type is `int` or
`String`. -/
def signature? (line : String) : Option (String × String) := do
  let rest ← after? "public static final ".toList line.toList
  let (type, name) ← match after? "int ".toList rest, after? "String ".toList rest with
    | some name, _ => some ("int", name)
    | none, some name => some ("String", name)
    | none, none => none
  if isName name then some (type, String.ofList name) else none

/-- Whether a text is an integer literal: decimal digits, possibly behind a minus sign. -/
def isIntLiteral (cs : List Char) : Bool :=
  let digits := (after? "-".toList cs).getD cs
  !digits.isEmpty && digits.all isDecimal

/-- Whether a text is a note of a value in hexadecimal: ` (0x2a)`. -/
def isHexNote (cs : List Char) : Bool :=
  match (after? " (0x".toList cs).bind (before? ")".toList) with
  | some digits => !digits.isEmpty && digits.all fun c => (hexValue? c).isSome
  | none => false

/-- Whether a text is a string literal: word characters between double quotes. -/
def isStringLiteral (cs : List Char) : Bool :=
  match (after? "\"".toList cs).bind (before? "\"".toList) with
  | some content => isName content
  | none => false

/-- The literal in what a value line says behind its label, for a constant of type `int`. -/
def intLiteral? (cs : List Char) : Option (List Char) :=
  let literal := cs.takeWhile (· != ' ')
  if isIntLiteral literal && isHexNote (cs.dropWhile (· != ' ')) then some literal else none

/-- The literal in what a value line says behind its label, for a constant of type `String`. -/
def stringLiteral? (cs : List Char) : Option (List Char) :=
  if isStringLiteral cs then some cs else none

/-- How the literal is found in a value line, for the types that have one. -/
def literalReader (type : String) : Except Failure (List Char → Option (List Char)) :=
  if type = "int" then .ok intLiteral?
  else if type = "String" then .ok stringLiteral?
  else .error (.unsupportedFieldType type)

/-- The literal of a line `Constant Value: LITERAL`. -/
def literal? (reader : List Char → Option (List Char)) (line : String) : Option String :=
  ((after? "Constant Value: ".toList line.toList).bind reader).map String.ofList

/-- **The constant that a signature line and a value line declare.** -/
def ofLines (signatureLine valueLine doc : String) : Except Failure Field :=
  match signature? signatureLine with
  | none => .error (.formMismatch .constantSignature signatureLine)
  | some (type, name) => do
    let reader ← literalReader type
    match literal? reader valueLine with
    | none => .error (.formMismatch .constantValue (name ++ ": " ++ valueLine))
    | some value => return Field.constant name (← typeOfWord type) value doc

end ApiPages.Constant
