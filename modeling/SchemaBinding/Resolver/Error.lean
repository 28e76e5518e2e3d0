import SchemaBinding.Model.ScopeStack
import SchemaBinding.Schema.Component

/-! # Errors of a resolver
The broken invariants that stop a run. Problems of a schema are findings and stop nothing. -/

namespace SchemaBinding

/-- The label of a type in messages. -/
def TypeRef.label : TypeRef → String
  | .classRef id => "Class(ClassId(" ++ toString id.index ++ "))"
  | .wrapper id => "Element(ElementId(" ++ toString id.index ++ "))"
  | .leaf l => "Builtin(" ++ l.label ++ ")"

/-- Why a run stops. -/
inductive ResolveError where
  /-- A component is bound to two types. -/
  | conflictingBinding (component : ComponentId) (existing proposed : TypeRef)
  /-- Scopes are pushed and popped out of order. -/
  | misplaced (cause : ScopeError)
  /-- A body has to be complete before itself. -/
  | buildCycle (path : List ComponentId)
  /-- A proposal for a component asks for the type of that component. -/
  | proposalCycle (path : List ComponentId)
  /-- A component contains itself, so that it has no finite content. -/
  | endless (component : ComponentId)
  deriving DecidableEq, Repr

namespace ResolveError

/-- The text of a path of components. -/
def pathText (path : List ComponentId) : String :=
  String.intercalate " -> " (path.map ComponentId.text)

/-- The message of an error. -/
def message : ResolveError → String
  | conflictingBinding component existing proposed =>
    "component " ++ component.text ++ " is already bound to " ++ existing.label
      ++ ", cannot rebind it to " ++ proposed.label
  | misplaced cause => cause.message
  | buildCycle path => "cyclic immediate build: " ++ pathText path
  | proposalCycle path => "cyclic type proposal: " ++ pathText path
  | endless component => "component " ++ component.text ++ " contains itself"

end ResolveError

end SchemaBinding
