import SchemaBinding.Model.Leaf
import SchemaBinding.Schema.Basic

/-! # Leaves of simple types
The values of a simple type are those of the built-in type at the end of its restrictions. -/

namespace SchemaBinding.SchemaSet

/-- The leaf for a simple type, through at most `steps` restrictions. -/
def leafWithin (set : SchemaSet) : Nat → ComponentId → Leaf
  | 0, _ => .anySimpleType
  | steps + 1, type =>
    match (set.component type).asSimpleType with
    | none => .anySimpleType
    | some simple =>
      match simple.builtin with
      | some name => (Leaf.ofTypeName? name).getD .anySimpleType
      | none =>
        match simple.base with
        | some base => set.leafWithin steps base
        | none => .anySimpleType

/-- The **leaf** for a simple type: that of the built-in type at the end of its restrictions. A
chain of distinct types is no longer than the set. -/
def leaf (set : SchemaSet) (type : ComponentId) : Leaf := set.leafWithin set.size type

end SchemaBinding.SchemaSet
