import SchemaBinding.Schema.Component

/-! # Manifests
A manifest describes a schema set compactly: a list of schemas with their elements and types. An
element either refers to a global element or declares one, and may then have a complex type of its
own with elements inside. -/

namespace SchemaBinding

/-- An attribute of a complex type. -/
structure AttributeEntry where
  name : String := ""
  type : Option String := none
  line : Option Nat := none
  deriving DecidableEq, Repr, Inhabited

/-- A global simple type. -/
structure SimpleTypeEntry where
  name : String := ""
  base : String := ""
  line : Option Nat := none
  deriving DecidableEq, Repr, Inhabited

/-- What a complex type says apart from its elements. -/
structure TypeHead where
  name : Option String := none
  base : Option String := none
  derivation : Derivation := .extension
  isAbstract : Bool := false
  doc : Option String := none
  className : Option String := none
  line : Option Nat := none
  attributes : List AttributeEntry := []
  deriving DecidableEq, Repr, Inhabited

/-- What an element says apart from its anonymous type. -/
structure ElementHead where
  name : Option String := none
  reference : Option String := none
  type : Option String := none
  isAbstract : Bool := false
  repeated : Bool := false
  doc : Option String := none
  className : Option String := none
  property : Option String := none
  line : Option Nat := none
  deriving DecidableEq, Repr, Inhabited

/-- An **element entry**, with or without an anonymous complex type. -/
inductive ElementEntry where
  | plain (head : ElementHead)
  | typed (head : ElementHead) (type : TypeHead) (elements : List ElementEntry)
  deriving Repr, Inhabited

/-- A complex type with its elements. -/
structure ComplexTypeEntry where
  head : TypeHead := {}
  elements : List ElementEntry := []
  deriving Repr, Inhabited

namespace ElementEntry

/-- What the element says apart from its anonymous type. -/
def head : ElementEntry → ElementHead
  | plain head => head
  | typed head _ _ => head

/-- The anonymous complex type of the element. -/
def anonymous? : ElementEntry → Option ComplexTypeEntry
  | plain _ => none
  | typed _ type elements => some ⟨type, elements⟩

/-- The first key of the entry that a reference cannot have. -/
def declarationKey? (e : ElementEntry) : Option String :=
  ([("name", e.head.name.isSome),
    ("type", e.head.type.isSome),
    ("complex_type", e.anonymous?.isSome),
    ("abstract", e.head.isAbstract),
    ("doc", e.head.doc.isSome),
    ("class", e.head.className.isSome),
    ("property", e.head.property.isSome),
    ("line", e.head.line.isSome)].find? Prod.snd).map Prod.fst

end ElementEntry

/-- A **schema entry**: the declarations of one document. -/
structure SchemaEntry where
  ns : String := ""
  package : Option String := none
  location : Option String := none
  elements : List ElementEntry := []
  complexTypes : List ComplexTypeEntry := []
  simpleTypes : List SimpleTypeEntry := []
  deriving Repr, Inhabited

/-- A **manifest**. -/
structure Manifest where
  schemas : List SchemaEntry := []
  deriving Repr, Inhabited

end SchemaBinding
