/-
# Declarations as JSON

Declarations are stored as JSON objects.  A key is left out where its value says nothing: no
superclass, an empty list, an empty documentation text.  Reading takes the same forms back and
ignores keys that it does not know.  It also takes two other forms: an array of the values of an
object in the order of its keys, and an object of one key over `null` for the name of a kind or of
a body.  A value of any other shape makes the whole declaration invalid, and `null` counts as
absent only where a value may be absent.
-/
import ApiPages.Declaration.Basic
import ApiPages.Json.Basic

namespace ApiPages

namespace Json

/-! ## 1. Keys that may be left out -/

/-- A member that is left out if the value is absent. -/
def optionalMember (key : String) (value : Option Json) : List (String × Json) :=
  match value with
  | some value => [(key, value)]
  | none => []

/-- A member that is left out if the list is empty. -/
def listMember (key : String) (items : List Json) : List (String × Json) :=
  if items.isEmpty then [] else [(key, array items)]

/-- A member that is left out if the text is empty. -/
def textMember (key text : String) : List (String × Json) :=
  if text = "" then [] else [(key, string text)]

/-- The string under a key that must be there. -/
def stringAt? (members : List (String × Json)) (key : String) : Option String :=
  (members.lookup key).bind string?

/-- The string under a key, empty if the key is absent. -/
def textAt? (members : List (String × Json)) (key : String) : Option String :=
  match members.lookup key with
  | some value => value.string?
  | none => some ""

/-- What is under a key, if it is there and not `null`. -/
def optionalAt? {α : Type} (read? : Json → Option α) (members : List (String × Json))
    (key : String) : Option (Option α) :=
  match members.lookup key with
  | none | some null => some none
  | some value => (read? value).map some

/-- The members of a record with the given keys, which is an object, or the array of its values in
the order of the keys.  Values at the end of the array may be left out just as keys may. -/
def membersOf? (keys : List String) : Json → Option (List (String × Json))
  | object members => some members
  | array items => if items.length ≤ keys.length then some (keys.zip items) else none
  | _ => none

/-- The name that a value chooses: a string, or the only key of an object, over `null`. -/
def choice? : Json → Option String
  | string name => some name
  | object [(name, null)] => some name
  | _ => none

/-- The list under a key, empty if the key is absent. -/
def listAt? {α : Type} (read? : Json → Option α) (members : List (String × Json))
    (key : String) : Option (List α) :=
  match members.lookup key with
  | none => some []
  | some value => value.items?.bind fun items => items.mapM read?

end Json

open Json

/-! ## 2. Types -/

namespace TypeName

mutual

/-- The stored form of a type. -/
def toJson : TypeName → Json
  | ⟨name, arguments⟩ =>
    .object (("name", .string name) :: listMember "arguments" (allToJson arguments))

/-- The stored forms of a list of types. -/
def allToJson : List TypeName → List Json
  | [] => []
  | t :: rest => t.toJson :: allToJson rest

end

mutual

/-- Reads the stored form of a type. -/
def ofJson? : Json → Option TypeName
  | .object members =>
    match stringAt? members "name", argumentsIn? members with
    | some name, some arguments => some ⟨name, arguments⟩
    | _, _ => none
  | .array (name :: rest) =>
    match name.string?, argumentsBehindName? rest with
    | some name, some arguments => some ⟨name, arguments⟩
    | _, _ => none
  | _ => none

/-- The arguments among the members of a type. -/
def argumentsIn? : List (String × Json) → Option (List TypeName)
  | [] => some []
  | (key, value) :: rest => if "arguments" == key then arrayOf? value else argumentsIn? rest

/-- The arguments behind the name of a type in an array. -/
def argumentsBehindName? : List Json → Option (List TypeName)
  | [] => some []
  | [value] => arrayOf? value
  | _ => none

/-- Reads an array of types. -/
def arrayOf? : Json → Option (List TypeName)
  | .array items => allOfJson? items
  | _ => none

/-- Reads the items of an array of types. -/
def allOfJson? : List Json → Option (List TypeName)
  | [] => some []
  | item :: rest =>
    match ofJson? item, allOfJson? rest with
    | some t, some ts => some (t :: ts)
    | _, _ => none

end

end TypeName

/-! ## 3. Members -/

namespace ClassKind

/-- The stored name of a kind. -/
def storedName : ClassKind → String
  | classType => "class"
  | interfaceType => "interface"
  | annotationType => "annotation"

/-- Reads the stored name of a kind. -/
def ofStoredName? (name : String) : Option ClassKind :=
  [classType, interfaceType, annotationType].find? (·.storedName == name)

end ClassKind

namespace Body

/-- The stored name of a body. -/
def storedName : Body → String
  | abstract => "abstract"
  | throwStub => "throw_stub"

/-- Reads the stored name of a body. -/
def ofStoredName? (name : String) : Option Body :=
  [abstract, throwStub].find? (·.storedName == name)

end Body

namespace Modifiers

/-- The stored form of a set of modifiers. -/
def toJson (s : Modifiers) : Json := .string s.render

/-- The modifiers among the members of a declaration. -/
def inMembers? (members : List (String × Json)) : Option Modifiers :=
  (stringAt? members "modifiers").bind read?

end Modifiers

namespace Parameter

/-- The stored form of a parameter. -/
def toJson (p : Parameter) : Json := .object [("type", p.type.toJson), ("name", .string p.name)]

/-- Reads the stored form of a parameter. -/
def ofJson? (json : Json) : Option Parameter := do
  let members ← membersOf? ["type", "name"] json
  let type ← (members.lookup "type").bind TypeName.ofJson?
  let name ← stringAt? members "name"
  return { type, name }

end Parameter

namespace Field

/-- The stored form of a field. -/
def toJson (f : Field) : Json :=
  .object
    ([("name", .string f.name), ("type", f.type.toJson), ("modifiers", f.modifiers.toJson)]
      ++ optionalMember "value" (f.value.map .string)
      ++ textMember "doc" f.doc)

/-- Reads the stored form of a field. -/
def ofJson? (json : Json) : Option Field := do
  let members ← membersOf? ["name", "type", "modifiers", "value", "doc"] json
  let name ← stringAt? members "name"
  let type ← (members.lookup "type").bind TypeName.ofJson?
  let modifiers ← Modifiers.inMembers? members
  let value ← optionalAt? Json.string? members "value"
  let doc ← textAt? members "doc"
  return { name, type, modifiers, value, doc }

end Field

namespace Method

/-- The stored form of a method. -/
def toJson (m : Method) : Json :=
  .object
    (optionalMember "name" (m.name.map .string)
      ++ [("modifiers", m.modifiers.toJson)]
      ++ listMember "annotations" (m.annotations.map TypeName.toJson)
      ++ optionalMember "return_type" (m.returnType.map TypeName.toJson)
      ++ [("parameters", .array (m.parameters.map Parameter.toJson))]
      ++ listMember "exceptions" (m.exceptions.map TypeName.toJson)
      ++ textMember "doc" m.doc
      ++ [("body", .string m.body.storedName)])

/-- The keys of a method. -/
def keys : List String :=
  ["name", "modifiers", "annotations", "return_type", "parameters", "exceptions", "doc", "body"]

/-- Reads the stored form of a method. -/
def ofJson? (json : Json) : Option Method := do
  let members ← membersOf? keys json
  let name ← optionalAt? Json.string? members "name"
  let modifiers ← Modifiers.inMembers? members
  let annotations ← listAt? TypeName.ofJson? members "annotations"
  let returnType ← optionalAt? TypeName.ofJson? members "return_type"
  let parameters ← listAt? Parameter.ofJson? members "parameters"
  let exceptions ← listAt? TypeName.ofJson? members "exceptions"
  let doc ← textAt? members "doc"
  let body ← ((members.lookup "body").bind choice?).bind Body.ofStoredName?
  return { name, modifiers, annotations, returnType, parameters, exceptions, doc, body }

end Method

/-! ## 4. Declarations -/

namespace ClassDeclaration

mutual

/-- **The stored form of a declaration.** -/
def toJson : ClassDeclaration → Json
  | ⟨name, modifiers, kind, superclass, interfaces, fields, methods, nested⟩ =>
    .object
      ([("name", .string name), ("modifiers", modifiers.toJson), ("kind", .string kind.storedName)]
        ++ optionalMember "superclass" (superclass.map TypeName.toJson)
        ++ listMember "interfaces" (interfaces.map TypeName.toJson)
        ++ listMember "fields" (fields.map Field.toJson)
        ++ listMember "methods" (methods.map Method.toJson)
        ++ listMember "nested" (allToJson nested))

/-- The stored forms of a list of declarations. -/
def allToJson : List ClassDeclaration → List Json
  | [] => []
  | d :: rest => d.toJson :: allToJson rest

end

/-- The keys of a declaration, the nested declarations apart. -/
def flatKeys : List String :=
  ["name", "modifiers", "kind", "superclass", "interfaces", "fields", "methods"]

/-- What the members of a stored declaration say, the nested declarations apart. -/
def flatIn? (members : List (String × Json)) : Option ClassDeclaration := do
  let name ← stringAt? members "name"
  let modifiers ← Modifiers.inMembers? members
  let kind ← ((members.lookup "kind").bind choice?).bind ClassKind.ofStoredName?
  let superclass ← optionalAt? TypeName.ofJson? members "superclass"
  let interfaces ← listAt? TypeName.ofJson? members "interfaces"
  let fields ← listAt? Field.ofJson? members "fields"
  let methods ← listAt? Method.ofJson? members "methods"
  return { name, modifiers, kind, superclass, interfaces, fields, methods, nested := [] }

mutual

/-- **Reads the stored form of a declaration.** -/
def ofJson? : Json → Option ClassDeclaration
  | .object members =>
    match flatIn? members, nestedIn? members with
    | some d, some nested => some { d with nested }
    | _, _ => none
  | .array items =>
    match flatIn? (flatKeys.zip items), nestedBehind? flatKeys items with
    | some d, some nested => some { d with nested }
    | _, _ => none
  | _ => none

/-- The nested declarations among the members of a stored declaration. -/
def nestedIn? : List (String × Json) → Option (List ClassDeclaration)
  | [] => some []
  | (key, value) :: rest => if "nested" == key then arrayOf? value else nestedIn? rest

/-- The nested declarations in the array of the values of a declaration, behind the values of the
given keys. -/
def nestedBehind? : List String → List Json → Option (List ClassDeclaration)
  | _, [] => some []
  | [], [value] => arrayOf? value
  | [], _ => none
  | _ :: keys, _ :: rest => nestedBehind? keys rest

/-- Reads an array of declarations. -/
def arrayOf? : Json → Option (List ClassDeclaration)
  | .array items => allOfJson? items
  | _ => none

/-- Reads the items of an array of declarations. -/
def allOfJson? : List Json → Option (List ClassDeclaration)
  | [] => some []
  | item :: rest =>
    match ofJson? item, allOfJson? rest with
    | some d, some ds => some (d :: ds)
    | _, _ => none

end

end ClassDeclaration

end ApiPages
