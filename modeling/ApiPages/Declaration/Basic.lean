/-
# Declarations

What a reference page declares: a class, interface or annotation with its supertypes, its fields
and its methods.  Nested declarations are attached only when the pages of a library are brought
together.
-/
import ApiPages.Declaration.Modifiers
import ApiPages.Declaration.QualifiedName
import ApiPages.Declaration.TypeName

namespace ApiPages

/-- What sort of type a page declares. -/
inductive ClassKind where
  | classType
  | interfaceType
  | annotationType
  deriving Repr, DecidableEq

namespace ClassKind

/-- The kind that a word of a class header stands for. -/
def ofKeyword? : String → Option ClassKind
  | "class" => some classType
  | "interface" => some interfaceType
  | "@interface" => some annotationType
  | _ => none

end ClassKind

/-- How the body of a method is to be filled in. -/
inductive Body where
  /-- The method has no body. -/
  | abstract
  /-- The body only says that it is not implemented. -/
  | throwStub
  deriving Repr, DecidableEq

/-- A method parameter. -/
structure Parameter where
  type : TypeName
  name : String
  deriving Repr, DecidableEq, Inhabited

/-- A constant or field. -/
structure Field where
  name : String
  type : TypeName
  modifiers : Modifiers
  /-- The literal initializer, as the page prints it. -/
  value : Option String
  doc : String
  deriving Repr, DecidableEq

namespace Field

/-- A `public static final` constant with a literal initializer. -/
def constant (name : String) (type : TypeName) (value doc : String) : Field :=
  ⟨name, type, Modifiers.ofList [.publicAccess, .static, .final], some value, doc⟩

end Field

/-- A constructor or method. -/
structure Method where
  /-- The name; a constructor has none. -/
  name : Option String
  modifiers : Modifiers
  annotations : List TypeName
  returnType : Option TypeName
  parameters : List Parameter
  exceptions : List TypeName
  doc : String
  body : Body
  deriving Repr, DecidableEq

namespace Method

/-- Whether the method is a constructor. -/
def isConstructor (m : Method) : Bool := m.name.isNone

end Method

/-- A class, interface or annotation. -/
structure ClassDeclaration where
  name : String
  modifiers : Modifiers
  kind : ClassKind
  superclass : Option TypeName
  interfaces : List TypeName
  fields : List Field
  methods : List Method
  nested : List ClassDeclaration
  deriving Repr

namespace ClassDeclaration

/-- A declaration that has nothing but its name and kind. -/
def empty (name : String) (kind : ClassKind) : ClassDeclaration :=
  ⟨name, Modifiers.empty, kind, none, [], [], [], []⟩

instance : Inhabited ClassDeclaration := ⟨empty "" .classType⟩

/-- The name of the declaration that encloses this one, if it is nested. -/
def enclosing? (d : ClassDeclaration) : Option String := QualifiedName.enclosing? d.name

/-- Adds an interface unless an equal one is there already. -/
def addInterface (d : ClassDeclaration) (interface : TypeName) : ClassDeclaration :=
  if interface ∈ d.interfaces then d else { d with interfaces := d.interfaces ++ [interface] }

mutual

/-- The number of declarations in a declaration, itself and all nested ones included. -/
def count : ClassDeclaration → Nat
  | ⟨_, _, _, _, _, _, _, nested⟩ => 1 + countAll nested

/-- The number of declarations in a forest. -/
def countAll : List ClassDeclaration → Nat
  | [] => 0
  | d :: rest => d.count + countAll rest

end

end ClassDeclaration

end ApiPages
