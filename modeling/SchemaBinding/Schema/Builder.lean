import SchemaBinding.Schema.Basic

/-! # Building schema sets
A set is built one component at a time. A step that is misused fails, but what it did before it
failed stays in the set: a component that was inserted and could not be attached is still there. -/

namespace SchemaBinding

/-- Misuse of a building step. -/
inductive Misuse where
  /-- A set of some size has no component at an index. -/
  | outOfBounds (size index : Nat)
  | notBuiltin (name : String)
  | notAttributeOwner
  | notParticleOwner
  | notSimpleType
  | notElement
  | notComplexType
  | cannotBeAbstract
  | noParticles
  | noOccurrence (term owner : ComponentId)
  deriving DecidableEq, Repr

/-- The message of a misuse. -/
def Misuse.message : Misuse → String
  | outOfBounds size index =>
    "index out of bounds: the len is " ++ toString size ++ " but the index is " ++ toString index
  | notBuiltin name => "'" ++ name ++ "' is not a built-in simple type"
  | notAttributeOwner => "cannot attach an attribute to"
  | notParticleOwner => "cannot attach a particle to"
  | notSimpleType => "expected a simple type"
  | notElement => "expected an element declaration"
  | notComplexType => "expected a complex type"
  | cannotBeAbstract => "cannot be abstract"
  | noParticles => "has no particles"
  | noOccurrence term owner => term.text ++ " does not occur in " ++ owner.text

/-- A **building step** changes a schema set and may fail; the set keeps what was done so far. -/
abbrev Builder (α : Type) := ExceptT Misuse (StateM SchemaSet) α

namespace Builder

/-- Inserts a component. -/
def insert (c : Component) : Builder ComponentId :=
  modifyGet fun (set : SchemaSet) => set.insert c

/-- The component of an id, or fails if the set has none. -/
def component (id : ComponentId) : Builder Component := do
  let set ← get
  if id.index < set.size then return set.component id
  else throw (.outOfBounds set.size id.index)

/-- Changes a component. -/
def change (id : ComponentId) (f : Component → Component) : Builder Unit := do
  let _ ← component id
  modify fun (set : SchemaSet) => set.modifyComponent id f

/-- Changes the kind of a component, or fails if it is of the wrong kind. -/
def changeKind (id : ComponentId) (f : ComponentKind → Except Misuse ComponentKind) :
    Builder Unit := do
  let c ← component id
  match f c.kind with
  | .ok kind => change id fun c => { c with kind }
  | .error misuse => throw misuse

/-- The target namespace of a component. -/
def namespaceOf (id : ComponentId) : Builder String := do
  let c ← component id
  return c.ns

/-- Mentions a namespace. -/
def schema (ns : String) : Builder Unit :=
  modify fun (set : SchemaSet) => set.modifySchema ns id

/-- Names the package of a namespace. -/
def package (ns name : String) : Builder Unit :=
  modify fun (set : SchemaSet) => set.modifySchema ns fun s => { s with package := some name }

/-- Records where the schema of a namespace comes from. -/
def schemaLocator (ns : String) (locator : Locator) : Builder Unit :=
  modify fun (set : SchemaSet) => set.modifySchema ns fun s => { s with locator := some locator }

/-- Looks up a built-in simple type. -/
def builtin (name : String) : Builder ComponentId :=
  match SchemaSet.builtin? name with
  | some id => pure id
  | none => throw (.notBuiltin name)

/-- Declares a global element. -/
def globalElement (ns name : String) (type : Option ComponentId) : Builder ComponentId :=
  insert { kind := .element { type }, name := some name, ns, isGlobal := true }

/-- Declares a global complex type without content. -/
def globalComplexType (ns name : String) : Builder ComponentId :=
  insert { kind := .complexType {}, name := some name, ns, isGlobal := true }

/-- Declares a global simple type. -/
def globalSimpleType (ns name : String) (base : ComponentId) : Builder ComponentId :=
  insert { kind := .simpleType { base := some base }, name := some name, ns, isGlobal := true }

/-- Sets the declared type of an element. -/
def setElementType (element type : ComponentId) : Builder Unit :=
  changeKind element fun
    | .element decl => .ok (.element { decl with type := some type })
    | _ => .error .notElement

/-- Sets the base of a simple type. -/
def setSimpleBase (type base : ComponentId) : Builder Unit :=
  changeKind type fun
    | .simpleType t => .ok (.simpleType { t with base := some base })
    | _ => .error .notSimpleType

/-- Gives an element an anonymous complex type. -/
def anonymousComplexType (element : ComponentId) : Builder ComponentId := do
  let type ← insert
    { kind := .complexType { declaringElement := some element }, ns := ← namespaceOf element }
  setElementType element type
  return type

/-- Gives an element an anonymous simple type. -/
def anonymousSimpleType (element base : ComponentId) : Builder ComponentId := do
  let type ← insert { kind := .simpleType { base := some base }, ns := ← namespaceOf element }
  setElementType element type
  return type

/-- Adds an occurrence to the content of a complex type or a model group. -/
def pushParticle (owner term : ComponentId) : Builder Unit :=
  changeKind owner fun
    | .complexType t => .ok (.complexType { t with content := t.content ++ [⟨term, false⟩] })
    | .group g => .ok (.group { g with particles := g.particles ++ [⟨term, false⟩] })
    | _ => .error .notParticleOwner

/-- Declares a local element inside a complex type or a model group. -/
def localElement (owner : ComponentId) (name : String) (type : Option ComponentId) :
    Builder ComponentId := do
  let element ← insert { kind := .element { type }, name := some name, ns := ← namespaceOf owner }
  pushParticle owner element
  return element

/-- Refers to a component from the content of a complex type or a model group. -/
def elementRef (owner term : ComponentId) : Builder Unit := pushParticle owner term

/-- Declares an attribute of a complex type. -/
def localAttribute (owner : ComponentId) (name : String) (type : Option ComponentId) :
    Builder ComponentId := do
  let id ← insert { kind := .attribute { type }, name := some name, ns := ← namespaceOf owner }
  changeKind owner fun
    | .complexType t => .ok (.complexType { t with attributes := t.attributes ++ [id] })
    | _ => .error .notAttributeOwner
  return id

/-- Opens a model group inside a complex type or another group. -/
def group (owner : ComponentId) (compositor : Compositor) : Builder ComponentId := do
  let id ← insert { kind := .group { compositor }, ns := ← namespaceOf owner }
  pushParticle owner id
  return id

/-- Derives a complex type from a base. -/
def derive (type base : ComponentId) (derivation : Derivation) : Builder Unit :=
  changeKind type fun
    | .complexType t => .ok (.complexType { t with base := some base, derivation })
    | _ => .error .notComplexType

/-- Makes an element or a complex type abstract. -/
def setAbstract (id : ComponentId) : Builder Unit :=
  changeKind id fun
    | .element decl => .ok (.element { decl with isAbstract := true })
    | .complexType t => .ok (.complexType { t with isAbstract := true })
    | _ => .error .cannotBeAbstract

/-- Marks the last occurrence of a term as repeated; none if the term does not occur. -/
def repeatLast (term : ComponentId) : List Particle → Option (List Particle)
  | [] => none
  | p :: rest =>
    match repeatLast term rest with
    | some rest => some (p :: rest)
    | none => if p.term = term then some ({ p with repeated := true } :: rest) else none

/-- Marks the last occurrence of a term in an owner as repeated. -/
def setRepeated (owner term : ComponentId) : Builder Unit :=
  changeKind owner fun
    | .complexType t =>
      match repeatLast term t.content with
      | some content => .ok (.complexType { t with content })
      | none => .error (.noOccurrence term owner)
    | .group g =>
      match repeatLast term g.particles with
      | some particles => .ok (.group { g with particles })
      | none => .error (.noOccurrence term owner)
    | _ => .error .noParticles

/-- Records where a component was declared. -/
def setLocator (id : ComponentId) (locator : Locator) : Builder Unit :=
  change id fun c => { c with locator := some locator }

/-- Changes the customizations of a component. -/
def customize (id : ComponentId) (f : Customization → Customization) : Builder Unit :=
  change id fun c => { c with custom := f c.custom }

/-- Customizes the documentation of a component. -/
def documentation (id : ComponentId) (text : String) : Builder Unit :=
  customize id fun c => { c with documentation := some text }

/-- Customizes the class name for a component. -/
def className (id : ComponentId) (name : String) : Builder Unit :=
  customize id fun c => { c with className := some name }

/-- Customizes the property for a component; without a name it is only marked as customized. -/
def property (id : ComponentId) (name : Option String) : Builder Unit :=
  customize id fun c => { c with property := some ⟨name⟩ }

end Builder

end SchemaBinding
