import SchemaBinding.Model.Leaf

/-! # The model of generated code
A model holds packages, classes and element wrappers in the order of their allocation, and refers to
them by position. Classes lie in scopes: at the root, in a package or inside another class. The full
name of a class is the dotted path of its scopes. -/

namespace SchemaBinding

/-- A package of a model, by position. -/
structure PackageId where
  index : Nat
  deriving DecidableEq, Repr, Inhabited

/-- A class of a model, by position. -/
structure ClassId where
  index : Nat
  deriving DecidableEq, Repr, Inhabited

/-- An element wrapper of a model, by position. -/
structure ElementId where
  index : Nat
  deriving DecidableEq, Repr, Inhabited

/-- Where a class or an element wrapper is placed. -/
inductive Scope where
  | root
  | package (id : PackageId)
  | nested (outer : ClassId)
  deriving DecidableEq, Repr, Inhabited

/-- A **type** of generated code: a class, an element wrapper or a leaf. -/
inductive TypeRef where
  | classRef (id : ClassId)
  | wrapper (id : ElementId)
  | leaf (leaf : Leaf)
  deriving DecidableEq, Repr, Inhabited

namespace TypeRef

/-- The class behind a type, if it is one. -/
def asClass : TypeRef → Option ClassId
  | .classRef id => some id
  | _ => none

/-- The element wrapper behind a type, if it is one. -/
def asElement : TypeRef → Option ElementId
  | .wrapper id => some id
  | _ => none

/-- Leaves exist before any run; classes and wrappers have to be generated. -/
def isPrebuilt : TypeRef → Bool
  | .leaf _ => true
  | _ => false

end TypeRef

/-- What a property stands for. -/
inductive PropertyKind where
  | element
  | attribute
  | value
  | reference
  deriving DecidableEq, Repr, Inhabited

/-- A **property** of a class; its type may be unknown. -/
structure Property where
  name : String
  kind : PropertyKind
  type : Option TypeRef
  repeated : Bool := false
  deriving DecidableEq, Repr, Inhabited

/-- A generated **class**. -/
structure ClassInfo where
  name : String
  scope : Scope
  isAbstract : Bool := false
  base : Option ClassId := none
  constructors : List (List String) := []
  doc : Option String := none
  properties : List Property := []
  deriving DecidableEq, Repr, Inhabited

namespace ClassInfo

/-- Adds a constructor unless one with the same parameters exists. -/
def addConstructor (c : ClassInfo) (params : List String) : ClassInfo :=
  if c.constructors.contains params then c
  else { c with constructors := c.constructors ++ [params] }

/-- Adds a paragraph to the documentation. -/
def appendDoc (c : ClassInfo) (text : String) : ClassInfo :=
  { c with doc := some (match c.doc with
      | some doc => doc ++ "\n\n" ++ text
      | none => text) }

/-- Adds a property at the end. -/
def addProperty (c : ClassInfo) (p : Property) : ClassInfo :=
  { c with properties := c.properties ++ [p] }

/-- The first property of a name. -/
def property? (c : ClassInfo) (name : String) : Option Property :=
  c.properties.find? fun p => p.name == name

end ClassInfo

/-- An **element wrapper**: generated code for a global element that has no class of its own. -/
structure ElementInfo where
  name : String
  ns : String
  scope : Scope
  content : Option TypeRef := none
  deriving DecidableEq, Repr, Inhabited

/-- A **model** of generated code. -/
structure Model where
  packages : Array String := #[]
  classes : Array ClassInfo := #[]
  elements : Array ElementInfo := #[]
  deriving DecidableEq, Repr, Inhabited

namespace Model

/-- The package of a name, if the model has it. -/
def findPackage? (m : Model) (name : String) : Option PackageId :=
  (m.packages.toList.idxOf? name).map PackageId.mk

/-- The package of a name, added if the model does not have it. -/
def package (m : Model) (name : String) : PackageId × Model :=
  match m.findPackage? name with
  | some id => (id, m)
  | none => (⟨m.packages.size⟩, { m with packages := m.packages.push name })

/-- The name of a package; empty for a package of another model. -/
def packageName (m : Model) (id : PackageId) : String := m.packages.getD id.index ""

/-- Allocates a class. -/
def newClass (m : Model) (name : String) (scope : Scope) : ClassId × Model :=
  (⟨m.classes.size⟩, { m with classes := m.classes.push { name, scope } })

/-- A class by its id. -/
def classInfo (m : Model) (id : ClassId) : ClassInfo := m.classes.getD id.index default

/-- Changes a class. -/
def modifyClass (m : Model) (id : ClassId) (f : ClassInfo → ClassInfo) : Model :=
  { m with classes := m.classes.modify id.index f }

/-- Allocates an element wrapper. -/
def newElement (m : Model) (name ns : String) (scope : Scope) : ElementId × Model :=
  (⟨m.elements.size⟩, { m with elements := m.elements.push { name, ns, scope } })

/-- An element wrapper by its id. -/
def elementInfo (m : Model) (id : ElementId) : ElementInfo := m.elements.getD id.index default

/-- Changes an element wrapper. -/
def modifyElement (m : Model) (id : ElementId) (f : ElementInfo → ElementInfo) : Model :=
  { m with elements := m.elements.modify id.index f }

/-- The ids of all classes in the order of their allocation. -/
def classIds (m : Model) : List ClassId := (List.range m.classes.size).map ClassId.mk

/-- The ids of all element wrappers in the order of their allocation. -/
def elementIds (m : Model) : List ElementId := (List.range m.elements.size).map ElementId.mk

/-- The classes placed directly in a scope, in the order of their allocation. -/
def classesIn (m : Model) (scope : Scope) : List ClassId :=
  m.classIds.filter fun id => (m.classInfo id).scope == scope

/-- A name inside the scope of another. -/
def qualify (outer name : String) : String :=
  if outer.isEmpty then name else outer ++ "." ++ name

/-- The name of a scope, following at most `steps` enclosing classes. -/
def scopeNameWithin (m : Model) : Nat → Scope → String
  | _, .root => ""
  | _, .package id => m.packageName id
  | 0, .nested _ => ""
  | steps + 1, .nested id =>
    qualify (scopeNameWithin m steps (m.classInfo id).scope) (m.classInfo id).name

/-- The name of a scope: that of its package, or the full name of its class. A chain of distinct
enclosing classes is no longer than the number of classes. -/
def scopeName (m : Model) (scope : Scope) : String := m.scopeNameWithin m.classes.size scope

/-- The **full name** of a class: its name behind those of its scopes. -/
def fullName (m : Model) (id : ClassId) : String := m.scopeName (.nested id)

/-- The full name of an element wrapper. -/
def elementFullName (m : Model) (id : ElementId) : String :=
  qualify (m.scopeName (m.elementInfo id).scope) (m.elementInfo id).name

/-- The first class of a full name. -/
def findClass? (m : Model) (fullName : String) : Option ClassId :=
  m.classIds.find? fun id => m.fullName id == fullName

end Model

end SchemaBinding
