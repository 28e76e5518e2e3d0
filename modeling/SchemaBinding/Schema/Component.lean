import SchemaBinding.Source.Locator

/-! # Schema components
The nodes of a schema graph: element declarations, complex and simple types, attributes and model
groups. Components refer to each other by their position in a schema set, so the graph may be
cyclic. -/

namespace SchemaBinding

/-- The namespace of the XML Schema language itself. -/
def xmlSchemaNs : String := "http://www.w3.org/2001/XMLSchema"

/-- A component of a schema set, by position. -/
structure ComponentId where
  index : Nat
  deriving DecidableEq, Repr, Inhabited

/-- The text of a component's position. -/
def ComponentId.text (id : ComponentId) : String := "#" ++ toString id.index

/-- How a complex type relates to its base. -/
inductive Derivation where
  | extension
  | restriction
  deriving DecidableEq, Repr, Inhabited

/-- The word for a derivation. -/
def Derivation.keyword : Derivation → String
  | extension => "extension"
  | restriction => "restriction"

/-- How the particles of a model group combine. -/
inductive Compositor where
  | sequence
  | choice
  | all
  deriving DecidableEq, Repr, Inhabited

/-- The word for a compositor. -/
def Compositor.keyword : Compositor → String
  | sequence => "sequence"
  | choice => "choice"
  | all => "all"

/-- A **particle**: one occurrence of an element or a model group in a content model. Whether it
repeats belongs to the occurrence and not to the term. -/
structure Particle where
  term : ComponentId
  repeated : Bool := false
  deriving DecidableEq, Repr, Inhabited

/-- An element declaration; without a type it carries `xs:anyType`. -/
structure ElementDecl where
  type : Option ComponentId := none
  isAbstract : Bool := false
  deriving DecidableEq, Repr, Inhabited

/-- A complex type. -/
structure ComplexType where
  base : Option ComponentId := none
  derivation : Derivation := .extension
  content : List Particle := []
  attributes : List ComponentId := []
  isAbstract : Bool := false
  /-- The element that declares the type, if it is anonymous. -/
  declaringElement : Option ComponentId := none
  deriving DecidableEq, Repr, Inhabited

/-- A simple type: a built-in one, or the restriction of another. -/
structure SimpleType where
  base : Option ComponentId := none
  builtin : Option String := none
  deriving DecidableEq, Repr, Inhabited

/-- An attribute declaration; without a type it carries `xs:anySimpleType`. -/
structure AttributeDecl where
  type : Option ComponentId := none
  deriving DecidableEq, Repr, Inhabited

/-- A model group. -/
structure ModelGroup where
  compositor : Compositor
  particles : List Particle := []
  deriving DecidableEq, Repr, Inhabited

/-- What a component is. -/
inductive ComponentKind where
  | element (decl : ElementDecl)
  | complexType (type : ComplexType)
  | simpleType (type : SimpleType)
  | attribute (decl : AttributeDecl)
  | group (group : ModelGroup)
  deriving DecidableEq, Repr, Inhabited

/-- A customization of the property for a declaration, possibly with its name. -/
structure PropertyCustomization where
  name : Option String := none
  deriving DecidableEq, Repr, Inhabited

/-- The **customizations** at a declaration. -/
structure Customization where
  documentation : Option String := none
  className : Option String := none
  property : Option PropertyCustomization := none
  deriving DecidableEq, Repr, Inhabited

/-- Whether nothing is customized. -/
def Customization.isEmpty (c : Customization) : Bool :=
  c.documentation.isNone && c.className.isNone && c.property.isNone

/-- A **component** of a schema set. -/
structure Component where
  kind : ComponentKind
  /-- The local name; anonymous types and model groups have none. -/
  name : Option String := none
  /-- The target namespace. -/
  ns : String := ""
  /-- Whether the component stands at the top level of its schema. -/
  isGlobal : Bool := false
  locator : Option Locator := none
  custom : Customization := {}
  deriving DecidableEq, Repr, Inhabited

namespace Component

/-- The element declaration, if the component is one. -/
def asElement (c : Component) : Option ElementDecl :=
  match c.kind with
  | .element decl => some decl
  | _ => none

/-- The complex type, if the component is one. -/
def asComplexType (c : Component) : Option ComplexType :=
  match c.kind with
  | .complexType type => some type
  | _ => none

/-- The simple type, if the component is one. -/
def asSimpleType (c : Component) : Option SimpleType :=
  match c.kind with
  | .simpleType type => some type
  | _ => none

/-- The attribute declaration, if the component is one. -/
def asAttribute (c : Component) : Option AttributeDecl :=
  match c.kind with
  | .attribute decl => some decl
  | _ => none

/-- The model group, if the component is one. -/
def asGroup (c : Component) : Option ModelGroup :=
  match c.kind with
  | .group group => some group
  | _ => none

/-- Whether the component is an element. -/
def isElement (c : Component) : Bool := c.asElement.isSome

/-- Whether the component is a complex type. -/
def isComplexType (c : Component) : Bool := c.asComplexType.isSome

/-- Whether the component is a simple type. -/
def isSimpleType (c : Component) : Bool := c.asSimpleType.isSome

/-- Whether the component is a model group. -/
def isGroup (c : Component) : Bool := c.asGroup.isSome

/-- **Global declarations** stand at the top level; model groups never declare anything. -/
def isGlobalDeclaration (c : Component) : Bool := c.isGlobal && !c.isGroup

/-- The local name, empty for anonymous components. -/
def nameOrEmpty (c : Component) : String := c.name.getD ""

end Component

end SchemaBinding
