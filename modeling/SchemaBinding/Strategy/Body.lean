import SchemaBinding.Resolver.Question
import SchemaBinding.Schema.Occurrence

/-! # Standard bodies
The content of a complex type as properties of its class: simple content as a value, one property
for each occurrence of an element, and one for each attribute. The base of a complex type becomes
the base class, which is complete before the properties are added. -/

namespace SchemaBinding.Resolver

/-- Adds a property to a class. -/
def addProperty (classId : ClassId) (p : Property) : Resolving Unit :=
  Resolving.changeModel fun m => m.modifyClass classId fun c => c.addProperty p

/-- The name of the property for a declaration: the customized one, whose customization is thereby
used, or the one derived from the name of the declaration. -/
def propertyName (r : Resolver) (component : ComponentId) : Resolving String := do
  let info := r.schema.component component
  let derived := r.naming.propertyName info.nameOrEmpty
  match info.custom.property with
  | none => return derived
  | some customization =>
    Resolving.acknowledge component
    return customization.name.getD derived

/-- Adds the property for simple content. -/
def addValue (r : Resolver) (classId : ClassId) (type : ComponentId) : Resolving Unit := do
  let value ← r.bindSchemaType type
  addProperty classId { name := "value", kind := .value, type := value }

/-- Makes the class of a complex type the base of a class. -/
def addBase (r : Resolver) (classId : ClassId) (type : ComponentId) : Resolving Unit := do
  match ← r.bindComplexType type true with
  | some base =>
    Resolving.changeModel fun m => m.modifyClass classId fun c => { c with base := some base }
  | none => pure ()

/-- Adds the property for an occurrence of an element: a reference to a global one, or the type of
a local one. -/
def addOccurrence (r : Resolver) (classId : ClassId) (occurrence : Particle) :
    Resolving Unit := do
  let element := occurrence.term
  let info := r.schema.component element
  let type ←
    if info.isGlobal then r.isBound element
    else match r.schema.elementType? element with
      | some type => r.bindSchemaType type
      | none => pure none
  let name ← r.propertyName element
  addProperty classId
    { name, kind := if info.isGlobal then .reference else .element, type,
      repeated := occurrence.repeated }

/-- Adds the property for an attribute. -/
def addAttribute (r : Resolver) (classId : ClassId) (id : ComponentId) : Resolving Unit := do
  match (r.schema.component id).asAttribute with
  | none => pure ()
  | some decl =>
    let type ← match decl.type with
      | some type => r.bindSchemaType type
      | none => pure (some (.leaf .anySimpleType))
    let name ← r.propertyName id
    addProperty classId { name, kind := .attribute, type }

/-- Fills a class with the content of a complex type. -/
def addContent (r : Resolver) (classId : ClassId) (id : ComponentId) (type : ComplexType) :
    Resolving Unit := do
  match type.base with
  | none => pure ()
  | some base =>
    if base = SchemaSet.anyType then pure ()
    else if (r.schema.component base).isSimpleType then r.addValue classId base
    else r.addBase classId base
  match r.schema.occurrences? type.content with
  | none => throw (.endless id)
  | some occurrences => occurrences.forM (r.addOccurrence classId)
  type.attributes.forM (r.addAttribute classId)

/-- The complex or simple type that the body of a component is about. -/
def bodyType? (set : SchemaSet) (component : ComponentId) : Option ComponentId :=
  match (set.component component).kind with
  | .element _ => set.elementType? component
  | .complexType _ => some component
  | _ => none

/-- The **standard** body of a class. An element with a simple type holds a value, and one with a
type that it does not declare itself extends the class of that type. -/
def standardBody (r : Resolver) (component : ComponentId) (classId : ClassId) :
    Resolving Unit :=
  match bodyType? r.schema component with
  | none => pure ()
  | some id =>
    match (r.schema.component id).kind with
    | .simpleType _ => r.addValue classId id
    | .complexType type =>
      if id ≠ component && !r.schema.isAnonymousTypeOf id component then r.addBase classId id
      else r.addContent classId id type
    | _ => pure ()

end SchemaBinding.Resolver
