import SchemaBinding.Manifest.Decode
import SchemaBinding.Schema.Builder
import SchemaBinding.Text.Split

/-! # Loading manifests
A manifest is loaded in two passes: first all global declarations of all schemas are declared, so
that references may point forward, then each of them is filled in the order of the manifest.

A type is referred to as `xs:local`, as a name in the enclosing namespace, or as a name behind its
namespace in braces; an element in the latter two ways. -/

namespace SchemaBinding

/-- Why a manifest is not accepted. -/
inductive ManifestError where
  | malformed (cause : Toml.DecodeError)
  | unknownType (name ns : String)
  | unknownElement (name ns : String)
  | unnamedElement (ns : String)
  | conflictingReference (reference key ns : String)
  | repeatedTopLevel (name ns : String)
  /-- A building step was misused; loading never does. -/
  | misuse (cause : Misuse)
  deriving DecidableEq, Repr

/-- The message of a manifest error. -/
def ManifestError.message : ManifestError → String
  | malformed cause => "malformed manifest: " ++ cause.message?.getD ""
  | unknownType name ns =>
    "unknown type '" ++ name ++ "' referenced from namespace '" ++ ns ++ "'"
  | unknownElement name ns =>
    "unknown element '" ++ name ++ "' referenced from namespace '" ++ ns ++ "'"
  | unnamedElement ns => "element in namespace '" ++ ns ++ "' has neither a name nor a ref"
  | conflictingReference reference key ns =>
    "reference to '" ++ reference ++ "' in namespace '" ++ ns ++ "' cannot also set '" ++ key ++ "'"
  | repeatedTopLevel name ns =>
    "top-level element '" ++ name ++ "' in namespace '" ++ ns ++ "' cannot be repeated"
  | misuse cause => cause.message

/-- A step of loading a manifest into a schema set. -/
abbrev Loading (α : Type) := ExceptT ManifestError (StateM SchemaSet) α

namespace Loading

/-- A building step as a step of loading. -/
def building {α : Type} (step : Builder α) : Loading α :=
  ExceptT.mk do
    let result ← step.run
    return result.mapError .misuse

/-- The namespace and local name of a reference: those in and behind braces, or the name itself in
the enclosing namespace. -/
def splitQualified (ns name : String) : String × String :=
  match name.toList with
  | '\x7b' :: rest =>
    match Text.cutAt '\x7d' rest with
    | some (inner, localName) => (String.ofList inner, String.ofList localName)
    | none => (ns, name)
  | _ => (ns, name)

/-- The type that a reference means in a set. -/
def findType? (set : SchemaSet) (ns name : String) : Option ComponentId :=
  match Text.afterStart ['x', 's', ':'] name.toList with
  | some localName => SchemaSet.builtin? (String.ofList localName)
  | none =>
    let (ns, name) := splitQualified ns name
    set.findGlobal? ns name true

/-- The element that a reference means in a set. -/
def findElement? (set : SchemaSet) (ns name : String) : Option ComponentId :=
  let (ns, name) := splitQualified ns name
  set.findGlobal? ns name false

/-- Resolves a reference to a type. -/
def resolveType (ns name : String) : Loading ComponentId := do
  match findType? (← get) ns name with
  | some id => return id
  | none => throw (.unknownType name ns)

/-- Resolves a reference to an element. -/
def resolveElement (ns name : String) : Loading ComponentId := do
  match findElement? (← get) ns name with
  | some id => return id
  | none => throw (.unknownElement name ns)

/-- Runs a step for a value that may be missing. -/
def whenSome {α : Type} (value : Option α) (step : α → Loading Unit) : Loading Unit :=
  match value with
  | some a => step a
  | none => pure ()

/-- Records the line of a declaration. -/
def locate (id : ComponentId) (document : String) (line : Option Nat) : Loading Unit :=
  whenSome line fun line => building (.setLocator id (.atLine document line))

/-- Fills what a complex type says apart from its elements and attributes. -/
def fillHead (ns : String) (head : TypeHead) (id : ComponentId) : Loading Unit := do
  whenSome head.base fun base => do
    building (.derive id (← resolveType ns base) head.derivation)
  if head.isAbstract then building (.setAbstract id)
  whenSome head.doc fun doc => building (.documentation id doc)
  whenSome head.className fun name => building (.className id name)

/-- Adds the attributes of a complex type. -/
def fillAttributes (ns document : String) (id : ComponentId) : List AttributeEntry → Loading Unit
  | [] => pure ()
  | entry :: rest => do
    let type ← match entry.type with
      | some type => some <$> resolveType ns type
      | none => pure none
    let declared ← building (.localAttribute id entry.name type)
    locate declared document entry.line
    fillAttributes ns document id rest

/-- Fills what an element says apart from its type. -/
def customizeElement (head : ElementHead) (id : ComponentId) : Loading Unit := do
  if head.isAbstract then building (.setAbstract id)
  whenSome head.doc fun doc => building (.documentation id doc)
  whenSome head.className fun name => building (.className id name)
  whenSome head.property fun name => building (.property id (some name))

mutual

/-- Fills a declared element: its anonymous or named type, then the rest. -/
def fillElement (ns document : String) : ElementEntry → ComponentId → Loading Unit
  | .plain head, id => do
    whenSome head.type fun type => do
      building (.setElementType id (← resolveType ns type))
    customizeElement head id
  | .typed head type elements, id => do
    let anonymous ← building (.anonymousComplexType id)
    locate anonymous document (type.line.or head.line)
    fillHead ns type anonymous
    fillElements ns document anonymous elements
    fillAttributes ns document anonymous type.attributes
    customizeElement head id

/-- Adds the elements of a complex type, references and declarations in their order. -/
def fillElements (ns document : String) (owner : ComponentId) : List ElementEntry → Loading Unit
  | [] => pure ()
  | entry :: rest => do
    let term ← match entry.head.reference with
      | some reference => do
        whenSome entry.declarationKey? fun key =>
          throw (.conflictingReference reference key ns)
        let target ← resolveElement ns reference
        building (.elementRef owner target)
        pure target
      | none => do
        match entry.head.name with
        | none => throw (.unnamedElement ns)
        | some name =>
          let element ← building (.localElement owner name none)
          locate element document entry.head.line
          fillElement ns document entry element
          pure element
    if entry.head.repeated then building (.setRepeated owner term)
    fillElements ns document owner rest

end

/-- Fills a declared complex type. -/
def fillComplexType (ns document : String) (entry : ComplexTypeEntry) (id : ComponentId) :
    Loading Unit := do
  fillHead ns entry.head id
  fillElements ns document id entry.elements
  fillAttributes ns document id entry.head.attributes

/-- The global components declared for a schema entry. -/
structure Globals where
  simpleTypes : List ComponentId
  complexTypes : List ComponentId
  elements : List ComponentId

/-- Declares the global components of a schema entry. -/
def declare (sourceName : String) (schema : SchemaEntry) : Loading Globals := do
  let ns := schema.ns
  let document := schema.location.getD sourceName
  building (.schemaLocator ns { systemId := some document })
  whenSome schema.package fun name => building (.package ns name)
  let placeholder ← building (.builtin "anySimpleType")
  let simpleTypes ← schema.simpleTypes.mapM fun entry => do
    let id ← building (.globalSimpleType ns entry.name placeholder)
    locate id document entry.line
    return id
  let complexTypes ← schema.complexTypes.mapM fun entry => do
    let id ← building (.globalComplexType ns (entry.head.name.getD ""))
    locate id document entry.head.line
    return id
  let elements ← schema.elements.mapM fun entry => do
    let id ← building (.globalElement ns (entry.head.name.getD "") none)
    locate id document entry.head.line
    return id
  return { simpleTypes, complexTypes, elements }

/-- Fills the global components of a schema entry. -/
def fill (sourceName : String) (schema : SchemaEntry) (globals : Globals) : Loading Unit := do
  let ns := schema.ns
  let document := schema.location.getD sourceName
  (schema.simpleTypes.zip globals.simpleTypes).forM fun (entry, id) => do
    building (.setSimpleBase id (← resolveType ns entry.base))
  (schema.complexTypes.zip globals.complexTypes).forM fun (entry, id) =>
    fillComplexType ns document entry id
  (schema.elements.zip globals.elements).forM fun (entry, id) => do
    if entry.head.repeated then throw (.repeatedTopLevel (entry.head.name.getD "") ns)
    fillElement ns document entry id

/-- Loads a manifest. -/
def manifest (sourceName : String) (m : Manifest) : Loading Unit := do
  let globals ← m.schemas.mapM (declare sourceName)
  (m.schemas.zip globals).forM fun (schema, globals) => fill sourceName schema globals

end Loading

/-- The schema set of a manifest. Schemas without a location are located by the name of the
manifest. -/
def Manifest.schemaSet (m : Manifest) (sourceName : String) : Except ManifestError SchemaSet :=
  match (Loading.manifest sourceName m).run.run SchemaSet.initial with
  | (.ok (), set) => .ok set
  | (.error e, _) => .error e

/-- The schema set that the text of a manifest describes. -/
def SchemaSet.ofManifest (text sourceName : String) : Except ManifestError SchemaSet :=
  match Manifest.ofText text with
  | .ok m => m.schemaSet sourceName
  | .error cause => .error (.malformed cause)

end SchemaBinding
