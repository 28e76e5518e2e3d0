import SchemaBinding.Resolver.Basic
import SchemaBinding.Resolver.Leaf

/-! # Questions to a resolver
The types of components, asked for by what the components are, and the building of the bodies that
the answers have queued. -/

namespace SchemaBinding.Resolver

/-- Binds a component; its body is built later. -/
def bindToType (r : Resolver) (component : ComponentId) : Resolving (Option TypeRef) :=
  r.resolve component false

/-- Binds a component and builds its body. -/
def bindToTypeImmediately (r : Resolver) (component : ComponentId) :
    Resolving (Option TypeRef) :=
  r.resolve component true

/-- Binds an element; other components are declined. -/
def bindElement (r : Resolver) (element : ComponentId) : Resolving (Option TypeRef) :=
  if (r.schema.component element).isElement then r.bindToType element else pure none

/-- Binds a complex type to a class, with its body complete if it is wanted immediately; other
components are declined. -/
def bindComplexType (r : Resolver) (type : ComponentId) (immediately : Bool) :
    Resolving (Option ClassId) :=
  if (r.schema.component type).isComplexType then
    return (← r.resolve type immediately).bind TypeRef.asClass
  else pure none

/-- The type of the values of a schema type: a leaf for a simple type, the class of a complex
one. -/
def bindSchemaType (r : Resolver) (type : ComponentId) : Resolving (Option TypeRef) :=
  match (r.schema.component type).kind with
  | .simpleType _ => pure (some (.leaf (r.schema.leaf type)))
  | .complexType _ => r.bindToType type
  | _ => pure none

/-- The type of an element, as far as it was noted before its content was bound. -/
def isBound (r : Resolver) (element : ComponentId) : Resolving (Option TypeRef) := do
  match (← get).elements.lookup element with
  | some type => return type
  | none => r.bindToType element

/-- Takes the latest binding off the queue. -/
def takeQueued : Resolving (Option Binding) :=
  modifyGet fun s =>
    match s.queue with
    | [] => (none, s)
    | binding :: rest => (some binding, { s with queue := rest })

/-- Builds the queued bodies, at most so many, and counts them. -/
def drainWithin (r : Resolver) : Nat → Resolving Nat
  | 0 => do
    match ← takeQueued with
    | none => return 0
    | some binding => throw (.endless binding.component)
  | steps + 1 => do
    match ← takeQueued with
    | none => return 0
    | some binding =>
      r.build binding
      return (← drainWithin r steps) + 1

/-- Builds the queued bodies, the latest first, until none is left, and counts them. A component is
queued at most once. -/
def drain (r : Resolver) : Resolving Nat := r.drainWithin (r.schema.size + 1)

end SchemaBinding.Resolver
