import SchemaBinding.Schema.Component

/-! # Schema sets
All components of a compilation in the order of their declaration, grouped into schemas by target
namespace. Every set starts with `xs:anyType` and the built-in simple types. -/

namespace SchemaBinding

/-- A **schema**: what is known about a target namespace. -/
structure Schema where
  ns : String
  locator : Option Locator := none
  /-- The package that a customization names. -/
  package : Option String := none
  /-- The top-level components in the order of their declaration. -/
  components : List ComponentId := []
  deriving DecidableEq, Repr, Inhabited

/-- A **schema set**; its schemas stand in the order in which their namespaces were first
mentioned. -/
structure SchemaSet where
  components : Array Component := #[]
  schemas : List Schema := []
  deriving DecidableEq, Repr, Inhabited

/-- The built-in simple types of XML Schema that every set holds. -/
def builtinSimpleTypes : List String :=
  ["anySimpleType", "string", "normalizedString", "token", "boolean", "decimal", "integer", "int",
   "long", "short", "byte", "float", "double", "date", "dateTime", "time", "duration", "QName",
   "anyURI", "base64Binary", "hexBinary"]

namespace SchemaSet

/-- The number of components. -/
def size (set : SchemaSet) : Nat := set.components.size

/-- A component by its id. -/
def component (set : SchemaSet) (id : ComponentId) : Component :=
  set.components.getD id.index default

/-- The ids of all components in the order of their declaration. -/
def ids (set : SchemaSet) : List ComponentId := (List.range set.size).map ComponentId.mk

/-- The schema of a namespace, if it was mentioned. -/
def schema? (set : SchemaSet) (ns : String) : Option Schema :=
  set.schemas.find? fun s => s.ns == ns

/-- Changes the schema of a namespace in a list of schemas; a namespace that was never mentioned
gets a new schema at the end. -/
def modifySchemas (ns : String) (f : Schema → Schema) : List Schema → List Schema
  | [] => [f { ns }]
  | s :: rest => if s.ns = ns then f s :: rest else s :: modifySchemas ns f rest

/-- Changes the schema of a namespace, which is mentioned from now on. -/
def modifySchema (set : SchemaSet) (ns : String) (f : Schema → Schema) : SchemaSet :=
  { set with schemas := modifySchemas ns f set.schemas }

/-- Changes a component in place. -/
def modifyComponent (set : SchemaSet) (id : ComponentId) (f : Component → Component) : SchemaSet :=
  { set with components := set.components.modify id.index f }

/-- Inserts a component at the end. A global component is also listed in its schema. -/
def insert (set : SchemaSet) (c : Component) : ComponentId × SchemaSet :=
  let id : ComponentId := ⟨set.size⟩
  (id, { set with components := set.components.push c }.modifySchema c.ns fun s =>
    if c.isGlobal then { s with components := s.components ++ [id] } else s)

/-- The component of `xs:anyType`. -/
def anyTypeComponent : Component :=
  { kind := .complexType {}, name := some "anyType", ns := xmlSchemaNs, isGlobal := true }

/-- The component of a built-in simple type. -/
def builtinComponent (name : String) : Component :=
  { kind := .simpleType { builtin := some name }, name := some name, ns := xmlSchemaNs,
    isGlobal := true }

/-- The set of the built-in types alone. -/
def initial : SchemaSet :=
  (anyTypeComponent :: builtinSimpleTypes.map builtinComponent).foldl
    (fun set c => (set.insert c).2) {}

/-- The universal type `xs:anyType`, the first component of every set. -/
def anyType : ComponentId := ⟨0⟩

/-- A built-in simple type by its local name. -/
def builtin? (name : String) : Option ComponentId :=
  (builtinSimpleTypes.idxOf? name).map fun index => ⟨index + 1⟩

/-- The first global element of a name, or the first global type if `wantType` is set. -/
def findGlobal? (set : SchemaSet) (ns name : String) (wantType : Bool) : Option ComponentId :=
  (set.schema? ns).bind fun s =>
    s.components.find? fun id =>
      let c := set.component id
      c.name == some name && c.isElement != wantType && !c.isGroup

/-- The type that an element carries; none for other components. -/
def elementType? (set : SchemaSet) (element : ComponentId) : Option ComponentId :=
  (set.component element).asElement.map fun decl => decl.type.getD anyType

/-- Whether a type is anonymous and declared by an element. Anonymous simple types do not say by
which one. -/
def isAnonymousTypeOf (set : SchemaSet) (type element : ComponentId) : Bool :=
  let c := set.component type
  match c.kind with
  | .complexType t => t.declaringElement = some element
  | .simpleType _ => c.name.isNone && !c.isGlobal
  | _ => false

/-- The direct parts of a component: the anonymous type of an element or an attribute, the
attributes and then the particles of a complex type, the particles of a model group. -/
def children (set : SchemaSet) (id : ComponentId) : List ComponentId :=
  match (set.component id).kind with
  | .element decl => (decl.type.filter fun type => set.isAnonymousTypeOf type id).toList
  | .complexType type => type.attributes ++ type.content.map Particle.term
  | .group group => group.particles.map Particle.term
  | .attribute decl => (decl.type.filter fun type => !(set.component type).isGlobal).toList
  | .simpleType _ => []

/-- The **global declarations** of all schemas but that of XML Schema itself, schema by schema. -/
def globalDeclarations (set : SchemaSet) : List ComponentId :=
  ((set.schemas.filter fun s => s.ns != xmlSchemaNs).flatMap Schema.components).filter fun id =>
    (set.component id).isGlobalDeclaration

end SchemaSet

end SchemaBinding
