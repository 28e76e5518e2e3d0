import SchemaBinding.Proofs.Reordering.Mirroring

/-! # Declarations of a manifest
The global declarations of a manifest are declared one after the other, and then filled one after
the other. To fill a declaration at another position mirrors filling it, as all that it refers to is
found by its name. -/

namespace SchemaBinding

/-! ## Declarations -/

/-- An entry for a global declaration. -/
inductive DeclarationEntry where
  | simpleType (entry : SimpleTypeEntry)
  | complexType (entry : ComplexTypeEntry)
  | element (entry : ElementEntry)

/-- A **declaration** of a manifest: an entry of a schema, with the namespace and the document of
that schema. -/
structure Declaration where
  ns : String
  document : String
  entry : DeclarationEntry

namespace Declaration

variable (d : Declaration)

/-- The name of a declaration. -/
def name : String :=
  match d.entry with
  | .simpleType entry => entry.name
  | .complexType entry => entry.head.name.getD ""
  | .element entry => entry.head.name.getD ""

/-- Whether an element is declared. -/
def isElement : Bool :=
  match d.entry with
  | .element _ => true
  | _ => false

/-- The line of a declaration. -/
def line : Option Nat :=
  match d.entry with
  | .simpleType entry => entry.line
  | .complexType entry => entry.head.line
  | .element entry => entry.head.line

/-- What a declaration declares, before it is filled. -/
def kind : ComponentKind :=
  match d.entry with
  | .simpleType _ => .simpleType { base := some ⟨1⟩ }
  | .complexType _ => .complexType {}
  | .element _ => .element {}

/-- The component of a declaration, before it is filled. -/
def placeholder : Component where
  kind := d.kind
  name := some d.name
  ns := d.ns
  isGlobal := true
  locator := d.line.map (Locator.atLine d.document)

/-- Fills the component of a declaration. -/
def fill (id : ComponentId) : Loading Unit :=
  match d.entry with
  | .simpleType entry => do
    Loading.building (.setSimpleBase id (← Loading.resolveType d.ns entry.base))
  | .complexType entry => Loading.fillComplexType d.ns d.document entry id
  | .element entry => do
    if entry.head.repeated then throw (.repeatedTopLevel (entry.head.name.getD "") d.ns)
    Loading.fillElement d.ns d.document entry id

end Declaration

/-! ## Filling at other positions -/

namespace Mirror

variable {M : Mirror} {id owner : ComponentId} {ns document : String}

/-- A type is found at its place. -/
theorem Mirrors.findType? {set set' : SchemaSet} (h : M.Mirrors set set') (ns name : String) :
    Loading.findType? set' ns name = (Loading.findType? set ns name).map M.place := by
  unfold Loading.findType?
  split
  · rename_i localName _
    cases hbuiltin : SchemaSet.builtin? (String.ofList localName) with
    | none => rfl
    | some id => exact congrArg some (M.builtin _ id hbuiltin).symm
  · dsimp only
    rw [h.spares'.found, M.found, h.spares.found]

/-- An element is found at its place. -/
theorem Mirrors.findElement? {set set' : SchemaSet} (h : M.Mirrors set set') (ns name : String) :
    Loading.findElement? set' ns name = (Loading.findElement? set ns name).map M.place := by
  unfold Loading.findElement?
  dsimp only
  rw [h.spares'.found, M.found, h.spares.found]

/-- A reference to a type is resolved alike. -/
theorem mirroring_resolveType (ns name : String) :
    M.Mirroring (Loading.resolveType ns name) (Loading.resolveType ns name)
      fun t t' => t' = M.place t := by
  refine .reading fun set set' hset => ?_
  rw [hset.findType?]
  cases Loading.findType? set ns name with
  | none => exact .error
  | some id => exact .ok hset rfl

/-- A reference to an element is resolved alike. -/
theorem mirroring_resolveElement (ns name : String) :
    M.Mirroring (Loading.resolveElement ns name) (Loading.resolveElement ns name)
      fun e e' => e' = M.place e := by
  refine .reading fun set set' hset => ?_
  rw [hset.findElement?]
  cases Loading.findElement? set ns name with
  | none => exact .error
  | some id => exact .ok hset rfl

/-- A component is located alike. -/
theorem mirroring_locate (hid : M.inner id) (document : String) (line : Option Nat) :
    M.Mirroring (Loading.locate id document line) (Loading.locate (M.place id) document line)
      fun _ _ => True :=
  .whenSome fun _ => .building (mirroring_setLocator hid _)

/-- What a complex type says apart from its elements is filled alike. -/
theorem mirroring_fillHead (hid : M.inner id) (ns : String) (head : TypeHead) :
    M.Mirroring (Loading.fillHead ns head id) (Loading.fillHead ns head (M.place id))
      fun _ _ => True := by
  unfold Loading.fillHead
  refine (Mirroring.whenSome fun base => ?_).bind fun _ _ _ => ?_
  · refine (mirroring_resolveType ns base).bind fun b b' hb => ?_
    subst hb
    exact .building (mirroring_derive hid b _)
  · refine .optional (.building (mirroring_setAbstract hid)) ?_
    refine (Mirroring.whenSome fun doc => ?_).bind fun _ _ _ => .whenSome fun name => ?_
    · exact .building (mirroring_customize hid _)
    · exact .building (mirroring_customize hid _)

/-- Attributes are filled alike. -/
theorem mirroring_fillAttributes (hid : M.inner id) (ns document : String)
    (entries : List AttributeEntry) :
    M.Mirroring (Loading.fillAttributes ns document id entries)
      (Loading.fillAttributes ns document (M.place id) entries) fun _ _ => True := by
  induction entries with
  | nil => exact .pure trivial
  | cons entry rest ih =>
    unfold Loading.fillAttributes
    -- the attributes after the first, whatever its type is
    have hrest (type : Option ComponentId) : M.Mirroring (do
          let declared ← Loading.building (.localAttribute id entry.name type)
          Loading.locate declared document entry.line
          Loading.fillAttributes ns document id rest)
        (do
          let declared ← Loading.building
            (.localAttribute (M.place id) entry.name (type.map M.place))
          Loading.locate declared document entry.line
          Loading.fillAttributes ns document (M.place id) rest) fun _ _ => True := by
      refine (Mirroring.building (mirroring_localAttribute hid _ type)).bind fun a a' ha => ?_
      obtain ⟨hinner, rfl⟩ := ha
      exact (mirroring_locate hinner document _).bind fun _ _ _ => ih
    split
    · rw [map_eq_pure_bind, bind_assoc, bind_assoc]
      refine (mirroring_resolveType ns _).bind fun type type' htype => ?_
      subst htype
      exact .given (hrest (some type))
    · exact .given (hrest none)

/-- An element is customized alike. -/
theorem mirroring_customizeElement (hid : M.inner id) (head : ElementHead) :
    M.Mirroring (Loading.customizeElement head id) (Loading.customizeElement head (M.place id))
      fun _ _ => True := by
  unfold Loading.customizeElement
  refine .optional (.building (mirroring_setAbstract hid)) ?_
  refine (Mirroring.whenSome fun doc => .building (mirroring_customize hid _)).bind fun _ _ _ => ?_
  refine (Mirroring.whenSome fun name => .building (mirroring_customize hid _)).bind fun _ _ _ => ?_
  exact .whenSome fun name => .building (mirroring_customize hid _)

mutual

/-- An element is filled alike, with all that is inside of it. -/
theorem mirroring_fillElement (ns document : String) : ∀ (entry : ElementEntry)
    {id : ComponentId}, M.inner id →
      M.Mirroring (Loading.fillElement ns document entry id)
        (Loading.fillElement ns document entry (M.place id)) fun _ _ => True
  | .plain head, id, hid => by
    unfold Loading.fillElement
    refine (Mirroring.whenSome fun type => ?_).bind fun _ _ _ =>
      mirroring_customizeElement hid head
    refine (mirroring_resolveType ns type).bind fun t t' ht => ?_
    subst ht
    exact .building (mirroring_setElementType hid t)
  | .typed head type elements, id, hid => by
    unfold Loading.fillElement
    refine (Mirroring.building (mirroring_anonymousComplexType hid)).bind fun a a' ha => ?_
    obtain ⟨hinner, rfl⟩ := ha
    refine (mirroring_locate hinner document _).bind fun _ _ _ => ?_
    refine (mirroring_fillHead hinner ns type).bind fun _ _ _ => ?_
    refine (mirroring_fillElements ns document elements hinner).bind fun _ _ _ => ?_
    refine (mirroring_fillAttributes hinner ns document _).bind fun _ _ _ => ?_
    exact mirroring_customizeElement hid head

/-- So are the elements of a content, one after the other. -/
theorem mirroring_fillElements (ns document : String) : ∀ (entries : List ElementEntry)
    {owner : ComponentId}, M.inner owner →
      M.Mirroring (Loading.fillElements ns document owner entries)
        (Loading.fillElements ns document (M.place owner) entries) fun _ _ => True
  | [], _, _ => .pure trivial
  | entry :: rest, owner, howner => by
    unfold Loading.fillElements
    -- after an occurrence it may be repeated, and the next ones follow
    have hrest (term : ComponentId) : M.Mirroring
        (if entry.head.repeated = true then
          Loading.building (.setRepeated owner term) >>= fun _ =>
            Loading.fillElements ns document owner rest
        else Loading.fillElements ns document owner rest)
        (if entry.head.repeated = true then
          Loading.building (.setRepeated (M.place owner) (M.place term)) >>= fun _ =>
            Loading.fillElements ns document (M.place owner) rest
        else Loading.fillElements ns document (M.place owner) rest) fun _ _ => True :=
      .optional (.building (mirroring_setRepeated howner term))
        (mirroring_fillElements ns document rest howner)
    dsimp only
    cases entry.head.reference with
    | some reference =>
      refine (Mirroring.whenSome fun key => .throw _ _).bind fun _ _ _ => ?_
      refine (mirroring_resolveElement ns reference).bind fun target target' htarget => ?_
      subst htarget
      refine (Mirroring.building (mirroring_pushParticle howner target)).bind fun _ _ _ => ?_
      exact .given (hrest target)
    | none =>
      cases entry.head.name with
      | none => exact .failed _ _
      | some name =>
        refine (Mirroring.building (mirroring_localElement howner name)).bind fun id id' hid => ?_
        obtain ⟨hinner, rfl⟩ := hid
        refine (mirroring_locate hinner document _).bind fun _ _ _ => ?_
        refine (mirroring_fillElement ns document entry hinner).bind fun _ _ _ => ?_
        exact .given (hrest id)

end

/-- To fill a declaration **at its place** mirrors filling it. -/
theorem mirroring_fill (hid : M.inner id) (d : Declaration) :
    M.Mirroring (d.fill id) (d.fill (M.place id)) fun _ _ => True := by
  unfold Declaration.fill
  cases d.entry with
  | simpleType entry =>
    refine (mirroring_resolveType d.ns _).bind fun base base' hbase => ?_
    subst hbase
    exact .building (mirroring_setSimpleBase hid base)
  | complexType entry =>
    dsimp only
    unfold Loading.fillComplexType
    refine (mirroring_fillHead hid d.ns _).bind fun _ _ _ => ?_
    refine (mirroring_fillElements d.ns d.document _ hid).bind fun _ _ _ => ?_
    exact mirroring_fillAttributes hid d.ns d.document _
  | element entry =>
    dsimp only
    split
    · exact .failed _ _
    · exact mirroring_fillElement d.ns d.document entry hid

end Mirror

end SchemaBinding
