import SchemaBinding.Schema.Basic

/-! # Schema fragments
A component written back as an excerpt of its schema: one tag a line, indented by its depth. Types
of the home namespace are written with `tns:`, those of XML Schema with `xs:`, all others with their
namespace in braces. -/

namespace SchemaBinding

/-- A **tag** with its attributes. -/
inductive Tag where
  | opening (keyword : String) (attributes : List (String × String))
  | closing (keyword : String)
  | single (keyword : String) (attributes : List (String × String))
  deriving DecidableEq, Repr

namespace Tag

/-- The attributes of a tag. -/
def attributesText (attributes : List (String × String)) : String :=
  String.join (attributes.map fun (name, value) => " " ++ name ++ "=\"" ++ value ++ "\"")

/-- The text of a tag. -/
def text : Tag → String
  | opening keyword attributes => "<" ++ keyword ++ attributesText attributes ++ ">"
  | closing keyword => "</" ++ keyword ++ ">"
  | single keyword attributes => "<" ++ keyword ++ attributesText attributes ++ "/>"

end Tag

/-- A tag on a line of its own, at a depth. -/
structure FragmentLine where
  depth : Nat
  tag : Tag
  deriving DecidableEq, Repr

/-- The text of a line, with two spaces for each level of depth. -/
def FragmentLine.text (l : FragmentLine) : String :=
  String.join (List.replicate l.depth "  ") ++ l.tag.text ++ "\n"

namespace SchemaSet

/-- The name of a component as seen from a home namespace. -/
def qualifiedName (set : SchemaSet) (home : String) (id : ComponentId) : String :=
  let c := set.component id
  if c.ns = xmlSchemaNs then "xs:" ++ c.nameOrEmpty
  else if c.ns = home then "tns:" ++ c.nameOrEmpty
  else "\x7b" ++ c.ns ++ "\x7d" ++ c.nameOrEmpty

/-- The attribute for a name that may be missing. -/
def nameAttribute (name : Option String) : List (String × String) :=
  (name.map fun name => ("name", name)).toList

/-- The attribute for abstract declarations. -/
def abstractAttribute (isAbstract : Bool) : List (String × String) :=
  if isAbstract then [("abstract", "true")] else []

/-- The attribute for repeated occurrences. -/
def repeatedAttribute (repeated : Bool) : List (String × String) :=
  if repeated then [("maxOccurs", "unbounded")] else []

/-- The lines of a tag with what it encloses. -/
def enclosed (depth : Nat) (keyword : String) (attributes : List (String × String))
    (inner : List FragmentLine) : List FragmentLine :=
  ⟨depth, .opening keyword attributes⟩ :: inner ++ [⟨depth, .closing keyword⟩]

/-- The lines of a component, through at most `steps` levels of components; none if there are more.
A global element inside another component is written as a reference. -/
def fragmentLines (set : SchemaSet) (home : String) :
    Nat → ComponentId → (depth : Nat) → (top repeated : Bool) → Option (List FragmentLine)
  | 0, _, _, _, _ => none
  | steps + 1, id, depth, top, repeated =>
    let c := set.component id
    let name := nameAttribute c.name
    let many := repeatedAttribute repeated
    let particles (depth : Nat) (ps : List Particle) : Option (List FragmentLine) :=
      (ps.mapM fun p => fragmentLines set home steps p.term depth false p.repeated).map
        List.flatten
    match c.kind with
    | .element decl =>
      if c.isGlobal && !top then
        some [⟨depth, .single "element" (("ref", set.qualifiedName home id) :: many)⟩]
      else
        let flags := abstractAttribute decl.isAbstract ++ many
        match decl.type with
        | some type =>
          if set.isAnonymousTypeOf type id then
            (fragmentLines set home steps type (depth + 1) false false).map fun inner =>
              enclosed depth "element" (name ++ flags) inner
          else
            some [⟨depth, .single "element"
              (name ++ ("type", set.qualifiedName home type) :: flags)⟩]
        | none => some [⟨depth, .single "element" (name ++ flags)⟩]
    | .attribute decl =>
      some [⟨depth, .single "attribute"
        (name ++ (decl.type.map fun type => ("type", set.qualifiedName home type)).toList)⟩]
    | .simpleType type =>
      match type.base with
      | some base => some (enclosed depth "simpleType" name
          [⟨depth + 1, .single "restriction" [("base", set.qualifiedName home base)]⟩])
      | none => some [⟨depth, .single "simpleType" name⟩]
    | .group group =>
      (particles (depth + 1) group.particles).map fun inner =>
        enclosed depth group.compositor.keyword [] inner
    | .complexType type =>
      let flags := name ++ abstractAttribute type.isAbstract
      let body (depth : Nat) : Option (List FragmentLine) := do
        let content ← particles depth type.content
        let attributes ← type.attributes.mapM fun id =>
          fragmentLines set home steps id depth false false
        return content ++ attributes.flatten
      match type.base with
      | some base =>
        (body (depth + 3)).map fun inner =>
          enclosed depth "complexType" flags <|
            enclosed (depth + 1) "complexContent" [] <|
              enclosed (depth + 2) type.derivation.keyword
                [("base", set.qualifiedName home base)] inner
      | none =>
        if type.content.isEmpty && type.attributes.isEmpty then
          some [⟨depth, .single "complexType" flags⟩]
        else (body (depth + 1)).map fun inner => enclosed depth "complexType" flags inner

/-- The lines of a component's fragment. A chain of distinct components is no longer than the set,
so only a component that contains itself has no fragment. -/
def fragmentLines? (set : SchemaSet) (id : ComponentId) : Option (List FragmentLine) :=
  set.fragmentLines (set.component id).ns (set.size + 1) id 0 true false

/-- The **fragment** of a component. -/
def fragment? (set : SchemaSet) (id : ComponentId) : Option String :=
  (set.fragmentLines? id).map fun lines => String.join (lines.map FragmentLine.text)

end SchemaSet

end SchemaBinding
