import SchemaBinding.Resolver.Question

/-! # Standard proposals
Which components get a type of their own. Global elements become classes if they declare their
complex type themselves or a class name is customized, and element wrappers otherwise. Complex types
become classes; an anonymous one shares the class of its element. All else gets nothing. -/

namespace SchemaBinding.Resolver

/-- Where a new type goes: in the current scope, or in the package of its namespace when no scope is
open. -/
def placement (r : Resolver) (ns : String) : Resolving Scope := do
  match (← get).scopes.current with
  | .root => .package <$> r.packageFor ns
  | scope => return scope

/-- Allocates a class that is named after a component. -/
def allocateClass (r : Resolver) (named : ComponentId) : Resolving ClassId := do
  let info := r.schema.component named
  let name := info.custom.className.getD (r.naming.className info.nameOrEmpty)
  let scope ← r.placement info.ns
  Resolving.allocate fun m => m.newClass name scope

/-- Whether an element declares its complex type itself. -/
def declaresComplexType (set : SchemaSet) (element : ComponentId) : Bool :=
  match set.elementType? element with
  | some type => set.isAnonymousTypeOf type element && (set.component type).isComplexType
  | none => false

/-- Allocates the wrapper of a global element. It is noted before the type of its content is bound,
which may refer back to the element. -/
def allocateWrapper (r : Resolver) (element : ComponentId) : Resolving ElementId := do
  let info := r.schema.component element
  let scope ← r.placement info.ns
  let wrapper ← Resolving.allocate fun m => m.newElement info.nameOrEmpty info.ns scope
  Resolving.markBound element (.wrapper wrapper)
  match r.schema.elementType? element with
  | none => pure ()
  | some type =>
    let content ← r.bindSchemaType type
    Resolving.changeModel fun m => m.modifyElement wrapper fun e => { e with content }
  return wrapper

/-- The type for a global element. -/
def proposeGlobalElement (r : Resolver) (element : ComponentId) : Resolving TypeRef := do
  if declaresComplexType r.schema element
      || (r.schema.component element).custom.className.isSome then
    .classRef <$> r.allocateClass element
  else .wrapper <$> r.allocateWrapper element

/-- The class for a complex type. An anonymous one takes that of its element, or is named after it
when the element has no class. -/
def proposeComplexType (r : Resolver) (id : ComponentId) (type : ComplexType) :
    Resolving ClassId := do
  match (r.schema.component id).name, type.declaringElement with
  | none, some element =>
    match ← r.isBound element with
    | some (.classRef classId) => return classId
    | _ => r.allocateClass element
  | _, _ => r.allocateClass id

/-- The **plain** proposal, which does not tell abstract declarations apart. -/
def proposePlainly (r : Resolver) (component : ComponentId) : Resolving (Option TypeRef) := do
  let info := r.schema.component component
  match info.kind with
  | .element _ =>
    if info.isGlobal then some <$> r.proposeGlobalElement component
    else
      Resolving.markUnbound component
      return none
  | .complexType type => (some ∘ .classRef) <$> r.proposeComplexType component type
  | _ => return none

/-- A proposal for which abstract elements get nothing, and abstract complex types get abstract
classes. -/
def respectingAbstract (inner : Resolver → ComponentId → Resolving (Option TypeRef))
    (r : Resolver) (component : ComponentId) : Resolving (Option TypeRef) := do
  match (r.schema.component component).kind with
  | .element decl => if decl.isAbstract then return none else inner r component
  | .complexType type =>
    let proposal ← inner r component
    match proposal with
    | some (.classRef classId) =>
      if type.isAbstract then
        Resolving.changeModel fun m =>
          m.modifyClass classId fun c => { c with isAbstract := true }
    | _ => pure ()
    return proposal
  | _ => inner r component

/-- The **standard** proposal. -/
def proposeStandard : Resolver → ComponentId → Resolving (Option TypeRef) :=
  respectingAbstract proposePlainly

end SchemaBinding.Resolver
