import SchemaBinding.Schema.Basic

/-! # Labels of components
How a component is called in documentation and in diagnostics. -/

namespace SchemaBinding.SchemaSet

/-- The label of a component that may have a name. -/
def namedLabel (what : String) : Option String → String
  | some name => what ++ " \"" ++ name ++ "\""
  | none => "anonymous " ++ what

/-- The **label** of a component. An anonymous complex type is called after the element that
declares it, which stands before it in the set. -/
def label (set : SchemaSet) (id : ComponentId) : String :=
  let c := set.component id
  match c.kind with
  | .element _ => namedLabel "element" c.name
  | .attribute _ => namedLabel "attribute" c.name
  | .simpleType _ => namedLabel "simple type" c.name
  | .complexType type =>
    match c.name, type.declaringElement with
    | none, some element =>
      "anonymous complex type of " ++
        if _h : element.index < id.index then set.label element else ""
    | name, _ => namedLabel "complex type" name
  | .group group => "model group (" ++ group.compositor.keyword ++ ")"
termination_by id.index

end SchemaBinding.SchemaSet
