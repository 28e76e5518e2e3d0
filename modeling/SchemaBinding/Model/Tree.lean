import SchemaBinding.Model.Basic

/-! # The model as text
A model is written as a tree of lines: the classes without a package, then each package with its
classes and element wrappers. Below a class stand its constructors, its properties and the classes
inside it, one level deeper. -/

namespace SchemaBinding.Model

/-- The text of a type. -/
def typeText (m : Model) : TypeRef → String
  | .classRef id => m.fullName id
  | .wrapper id => "element " ++ m.elementFullName id
  | .leaf leaf => leaf.name

/-- The text of a type that may be unknown. -/
def typeText? (m : Model) : Option TypeRef → String
  | some type => m.typeText type
  | none => "?"

/-- Two spaces for each level. -/
def indent (depth : Nat) : String := String.join (List.replicate depth "  ")

/-- What stands before the name of a property. -/
def marker : PropertyKind → String
  | .attribute => "@"
  | .value => "#"
  | .element | .reference => ""

/-- The line that opens a class. -/
def classLine (m : Model) (c : ClassInfo) : String :=
  (if c.isAbstract then "abstract " else "") ++ "class " ++ c.name
    ++ match c.base with
      | some base => " extends " ++ m.fullName base
      | none => ""

/-- The line of a constructor. -/
def constructorLine (params : List String) : String :=
  "new(" ++ String.intercalate ", " params ++ ")"

/-- The line of a property. -/
def propertyLine (m : Model) (p : Property) : String :=
  marker p.kind ++ p.name ++ ": " ++ m.typeText? p.type ++ if p.repeated then "[]" else ""

/-- The lines of a class at a level, each with its level, following at most `steps` levels of nested
classes. -/
def classLines (m : Model) : Nat → Nat → ClassId → List (Nat × String)
  | 0, _, _ => []
  | steps + 1, depth, id =>
    let c := m.classInfo id
    (depth, m.classLine c)
      :: c.constructors.map (fun params => (depth + 1, constructorLine params))
      ++ c.properties.map (fun p => (depth + 1, m.propertyLine p))
      ++ (m.classesIn (.nested id)).flatMap (classLines m steps (depth + 1))

/-- The lines of all classes in a scope. -/
def scopeLines (m : Model) (scope : Scope) : List (Nat × String) :=
  (m.classesIn scope).flatMap (m.classLines m.classes.size 1)

/-- The line of an element wrapper. -/
def elementLine (m : Model) (e : ElementInfo) : String :=
  "element " ++ e.name ++ ": " ++ m.typeText? e.content

/-- The lines of a package. -/
def packageLines (m : Model) (index : Nat) (name : String) : List (Nat × String) :=
  let scope := Scope.package ⟨index⟩
  (0, "package " ++ name)
    :: m.scopeLines scope
    ++ (m.elements.toList.filter fun e => e.scope == scope).map fun e => (1, m.elementLine e)

/-- The lines of a model, each with its level. -/
def lines (m : Model) : List (Nat × String) :=
  let rootLines := m.scopeLines .root
  (if rootLines.isEmpty then [] else (0, "(no package)") :: rootLines)
    ++ (m.packages.toList.zipIdx.flatMap fun (name, index) => m.packageLines index name)

/-- The **tree text** of a model. -/
def tree (m : Model) : String :=
  String.join (m.lines.map fun (depth, text) => indent depth ++ text ++ "\n")

end SchemaBinding.Model
