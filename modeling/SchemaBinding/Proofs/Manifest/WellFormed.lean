import SchemaBinding.Proofs.Manifest.Ownership
import SchemaBinding.Proofs.Schema.Depth
import SchemaBinding.Proofs.Schema.Manifest

/-! # Well-formed schema sets
All ids that are stored in the schema set of a manifest are those of components of the right kind,
and its local components form a forest behind the global ones: each of them belongs to one owner,
which stands before it. -/

namespace SchemaBinding

variable {m : Manifest} {set : SchemaSet} {ns document sourceName : String} {id k : ComponentId}

/-! ## Well-formed sets -/

/-- Whether the component is a type, simple or complex. -/
def Component.isType (c : Component) : Bool := c.isSimpleType || c.isComplexType

/-- Whether the component is an attribute. -/
def Component.isAttribute (c : Component) : Bool := c.asAttribute.isSome

/-- What stands in a complex type: its attributes, and the terms of its content. -/
def ComplexType.members (type : ComplexType) : List ComponentId :=
  type.attributes ++ type.content.map Particle.term

namespace SchemaSet

/-- A set **has** a component of a kind. -/
def Has (set : SchemaSet) (kind : Component → Bool) (id : ComponentId) : Prop :=
  id.index < set.size ∧ kind (set.component id) = true

/-- What a component says is **sound** when all ids in it are those of components of the right
kind. -/
def Sound (set : SchemaSet) : ComponentKind → Prop
  | .element decl => ∀ type ∈ decl.type, set.Has Component.isType type
  | .attribute decl => ∀ type ∈ decl.type, set.Has Component.isType type
  | .simpleType type => ∀ base ∈ type.base, set.Has Component.isType base
  | .complexType type =>
    (∀ base ∈ type.base, set.Has Component.isType base) ∧
      (∀ p ∈ type.content, set.Has Component.isElement p.term) ∧
        (∀ a ∈ type.attributes, set.Has Component.isAttribute a) ∧
          ∀ element ∈ type.declaringElement, set.Has Component.isElement element
  | .group _ => False

/-- A set is **well-formed** when it is a graph of sound components in which the local ones form a
forest. -/
structure WellFormed (set : SchemaSet) : Prop where
  listed : ∀ s ∈ set.schemas, ∀ id ∈ s.components,
    set.Has Component.isGlobal id ∧ (set.component id).ns = s.ns
  anyType : set.Has Component.isComplexType anyType
  builtin : ∀ name id, builtin? name = some id → set.Has Component.isSimpleType id
  sound : ∀ id : ComponentId, id.index < set.size → set.Sound (set.component id).kind
  /-- A local element or an attribute occurs in **one complex type**, and there only once. -/
  member : ∀ id : ComponentId, id.index < set.size →
    (set.component id).isElement = true ∧ (set.component id).isGlobal = false ∨
      (set.component id).isAttribute = true →
    ∃ owner type, (set.component owner).asComplexType = some type ∧ owner.index < id.index ∧
      type.members.count id = 1 ∧
        ∀ owner' type', (set.component owner').asComplexType = some type' →
          id ∈ type'.members → owner' = owner
  /-- A complex type without a name is the type of **one element**, the one that declares it. -/
  anonymous : ∀ id type, (set.component id).asComplexType = some type →
    (set.component id).name = none →
      ∃ element decl, type.declaringElement = some element ∧ element.index < id.index ∧
        (set.component element).asElement = some decl ∧ decl.type = some id ∧
          ∀ element' decl', (set.component element').asElement = some decl' →
            decl'.type = some id → element' = element
  /-- What occurs in a complex type without being local is a global element of its schema. -/
  global : ∀ id type, (set.component id).asComplexType = some type → ∀ p ∈ type.content,
    (set.component p.term).isGlobal = true → p.term ∈ set.listedIn (set.component p.term).ns

/-- Types exist. -/
theorem has_isType (h : (set.component id).isType = true) : set.Has Component.isType id := by
  refine ⟨Nat.lt_of_not_le fun hbeyond => ?_, h⟩
  rw [component_of_size_le hbeyond] at h
  cases h

/-- Attributes exist. -/
theorem has_isAttribute (h : (set.component id).isAttribute = true) :
    set.Has Component.isAttribute id := by
  refine ⟨Nat.lt_of_not_le fun hbeyond => ?_, h⟩
  rw [component_of_size_le hbeyond] at h
  cases h

end SchemaSet

namespace Component

variable {c : Component}

/-- An attribute is nothing else. -/
theorem of_isAttribute (h : c.isAttribute = true) : c.isElement = false ∧ c.isType = false := by
  obtain ⟨decl, hdecl⟩ := Option.isSome_iff_exists.1 h
  have hkind := asAttribute_eq_some.1 hdecl
  simp [isElement, asElement, isType, isSimpleType, asSimpleType, isComplexType, asComplexType,
    hkind]

/-- An element is no type. -/
theorem isType_of_isElement (h : c.isElement = true) : c.isType = false := by
  obtain ⟨decl, hkind⟩ := isElement_iff.1 h
  simp [isType, isSimpleType, asSimpleType, isComplexType, asComplexType, hkind]

end Component

/-! ## Sound components -/

/-- The types that references mean are **types**. -/
def References.Typed (refs : References) (set : SchemaSet) : Prop :=
  ∀ ns name id, refs.type? ns name = some id → set.Has Component.isType id

section Typed

variable {refs : References} (hrefs : refs.Typed set)

include hrefs

/-- A reference is answered by a type. -/
theorem References.Answers.has_isType {reference : Option String} {type : Option ComponentId}
    (h : refs.Answers ns reference type) : ∀ id ∈ type, set.Has Component.isType id := by
  intro id hid
  obtain ⟨name, -, hmeans⟩ := h.exists_name hid
  exact hrefs ns name id hmeans

/-- The type of an element is a type. -/
theorem TypeOf.has_isType {element : ComponentId} {entry : ElementEntry}
    {type : Option ComponentId} {first last : Nat}
    (h : TypeOf set refs ns document element entry type first last) :
    ∀ id ∈ type, set.Has Component.isType id := by
  cases h with
  | plain typed => exact typed.has_isType hrefs
  | typed _ _ _ anonymous =>
    rintro _ ⟨⟩
    refine SchemaSet.has_isType ?_
    rw [anonymous]
    rfl

end Typed

/-- The built-in types are sound in any set. -/
theorem SchemaSet.sound_initial (hid : id.index < initial.size) (set : SchemaSet) :
    set.Sound (initial.component id).kind := by
  have hkinds : ∀ id ∈ initial.ids, (initial.component id).kind = .complexType {} ∨
      (initial.component id).kind ∈
        builtinSimpleTypes.map fun name => ComponentKind.simpleType { builtin := some name } := by
    decide +kernel
  rcases hkinds id (mem_ids hid) with hkind | hkind
  · rw [hkind]
    simp [Sound]
  · obtain ⟨name, -, hkind⟩ := List.mem_map.1 hkind
    rw [← hkind]
    simp [Sound]

namespace Manifest.Describes

variable (h : m.Describes sourceName set)

include h

/-- A global component is a type or an element. -/
theorem isType_of_isGlobal (hglobal : (set.component id).isGlobal = true)
    (hother : (set.component id).isElement = false) : (set.component id).isType = true := by
  cases h.role (SchemaSet.index_lt_of_isGlobal hglobal) with
  | builtin hindex hcomponent =>
    have htypes : ∀ id ∈ SchemaSet.initial.ids, (SchemaSet.initial.component id).isType = true := by
      decide +kernel
    rw [hcomponent]
    exact htypes id (SchemaSet.mem_ids hindex)
  | declaration _ _ describes =>
    cases describes with
    | simpleType _ _ component =>
      rw [component]
      rfl
    | complexType _ _ _ _ component =>
      rw [component]
      rfl
    | element _ _ _ component =>
      rw [component] at hother
      cases hother
  | part part =>
    rw [part.isGlobal] at hglobal
    cases hglobal

/-- The references of a manifest mean types of its set. -/
theorem typed_references : (m.references sourceName).Typed set := by
  intro ns name id hid
  obtain ⟨hglobal, hother⟩ := h.of_type? hid
  exact SchemaSet.has_isType (h.isType_of_isGlobal hglobal hother)

/-- Every component of the schema set of a manifest is **sound**. -/
theorem sound (hloaded : set.Loaded fun _ => True) (hid : id.index < set.size) :
    set.Sound (set.component id).kind := by
  have hfits := hloaded.fits id
  have hrefs := h.typed_references
  -- a complex type is sound when its base is
  have hcomplex {type : ComplexType} (hkind : (set.component id).kind = .complexType type)
      (hbase : ∀ base ∈ type.base, set.Has Component.isType base) :
      set.Sound (set.component id).kind := by
    have htype := Component.asComplexType_eq_some.2 hkind
    rw [hkind]
    refine ⟨hbase, fun p hp => ?_, fun a ha => ?_, fun element helement => ?_⟩
    · obtain ⟨hindex, hkind, -⟩ := hfits.content type p htype hp
      exact ⟨hindex, hkind⟩
    · exact SchemaSet.has_isAttribute (hfits.attributes type a htype ha)
    · obtain ⟨hindex, hkind, -⟩ := hfits.declaring element (by
        rw [Component.declaringElement?, htype]
        exact helement)
      exact ⟨hindex, hkind⟩
  cases h.role hid with
  | builtin hindex hcomponent =>
    rw [hcomponent]
    exact SchemaSet.sound_initial hindex set
  | declaration _ _ describes =>
    cases describes with
    | simpleType _ derives component =>
      rw [component]
      rintro _ ⟨⟩
      exact hrefs _ _ _ derives
    | complexType _ derives _ _ component =>
      exact hcomplex (congrArg Component.kind component) (derives.has_isType hrefs)
    | element _ _ typed component =>
      rw [component]
      exact typed.has_isType hrefs
  | part part =>
    cases part with
    | localElement typed component =>
      rw [component]
      exact typed.has_isType hrefs
    | anonymousType _ _ derives _ _ component =>
      exact hcomplex (congrArg Component.kind component) (derives.has_isType hrefs)
    | localAttribute typed component =>
      rw [component]
      exact typed.has_isType hrefs

/-! ## Owners -/

/-- A complex type stands **before** its attributes. -/
theorem index_lt_of_mem_attributes (hid : id.index < set.size) {type : ComplexType}
    (htype : (set.component id).asComplexType = some type) (hk : k ∈ type.attributes) :
    id.index < k.index := by
  have hkind := Component.asComplexType_eq_some.1 htype
  have hparts : k ∈ (set.component id).parts := by
    rw [Component.parts, hkind]
    exact List.mem_append_left _ hk
  cases h.role hid with
  | builtin hindex hcomponent =>
    rw [hcomponent, SchemaSet.parts_initial hindex] at hparts
    cases hparts
  | declaration _ before describes =>
    cases describes with
    | simpleType _ _ component =>
      rw [component] at hkind
      cases hkind
    | complexType _ _ contents _ component =>
      rw [component] at hkind
      cases hkind
      -- the content is laid out first, and the attributes behind it
      have hinner := contents.le
      have hfirst := (ComponentId.mem_following.1 hk).1
      omega
    | element _ _ _ component =>
      rw [component] at hkind
      cases hkind
  | part part =>
    cases part with
    | anonymousType _ _ _ contents _ component =>
      rw [component] at hkind
      cases hkind
      exact Nat.lt_of_lt_of_le contents.le (ComponentId.mem_following.1 hk).1
    | localElement _ component | localAttribute _ component =>
      rw [component] at hkind
      cases hkind

/-- An owner stands **before** what it owns. -/
theorem index_lt_of_mem_owned (hloaded : set.Loaded fun _ => True) (hid : id.index < set.size)
    (hk : k ∈ set.owned id) : id.index < k.index := by
  have hfits := hloaded.fits id
  obtain ⟨hpart, hlocal⟩ := List.mem_filter.1 hk
  have hlocal : (set.component k).isGlobal = false := by simpa [SchemaSet.isLocal] using hlocal
  cases hkind : (set.component id).kind with
  | element decl =>
    rw [Component.parts, hkind, Option.mem_toList] at hpart
    rcases hfits.carried decl k (Component.asElement_eq_some.2 hkind) hpart with hglobal | hdeclared
    · rw [hglobal] at hlocal
      cases hlocal
    · exact ((hloaded.fits k).declaring id hdeclared).2.2
  | complexType type =>
    rw [Component.parts, hkind, List.mem_append] at hpart
    have htype := Component.asComplexType_eq_some.2 hkind
    rcases hpart with hattribute | hterm
    · exact h.index_lt_of_mem_attributes hid htype hattribute
    · obtain ⟨p, hp, rfl⟩ := List.mem_map.1 hterm
      obtain ⟨-, -, hplace⟩ := hfits.content type p htype hp
      exact hplace.resolve_left (by simp [hlocal])
  | _ => simp [Component.parts, hkind] at hpart

/-- A local element, or an attribute, occurs in **one complex type**. -/
theorem member (hloaded : set.Loaded fun _ => True) (hid : id.index < set.size)
    (hmember : (set.component id).isElement = true ∧ (set.component id).isGlobal = false ∨
      (set.component id).isAttribute = true) :
    ∃ owner type, (set.component owner).asComplexType = some type ∧ owner.index < id.index ∧
      type.members.count id = 1 ∧
        ∀ owner' type', (set.component owner').asComplexType = some type' →
          id ∈ type'.members → owner' = owner := by
  have htype : (set.component id).isType = false :=
    hmember.elim (fun hm => Component.isType_of_isElement hm.1)
      fun hm => (Component.of_isAttribute hm).2
  have hlocal : set.isLocal id = true := by
    rw [SchemaSet.isLocal, Bool.not_eq_true']
    rcases hmember with ⟨-, hlocal⟩ | hattribute
    · exact hlocal
    · by_contra hglobal
      have hother := (Component.of_isAttribute hattribute).1
      have hglobal := h.isType_of_isGlobal (by simpa using hglobal) hother
      rw [htype] at hglobal
      cases hglobal
  obtain ⟨owner, howner, hcount, hunique⟩ := h.exists_owner hid hlocal
  have howned : id ∈ set.owned owner := List.count_pos_iff.1 (by omega)
  have hindex := SchemaSet.index_lt_of_mem_ids howner
  have hsound := h.sound hloaded hindex
  -- what owns it is a complex type, since no element has an element or an attribute as its type
  have hpart := (List.mem_filter.1 howned).1
  rw [SchemaSet.owned, List.count_filter hlocal] at hcount
  cases hkind : (set.component owner).kind with
  | complexType type =>
    refine ⟨owner, type, Component.asComplexType_eq_some.2 hkind,
      h.index_lt_of_mem_owned hloaded hindex howned, ?_, fun owner' type' htype' hin => ?_⟩
    · rw [Component.parts, hkind] at hcount
      exact hcount
    · have hkind' := Component.asComplexType_eq_some.1 htype'
      refine hunique owner' (SchemaSet.mem_ids (SchemaSet.index_lt_of_isComplexType
        (Component.isComplexType_iff.2 ⟨type', hkind'⟩))) (List.mem_filter.2 ⟨?_, hlocal⟩)
      rw [Component.parts, hkind']
      exact hin
  | element decl =>
    rw [Component.parts, hkind, Option.mem_toList] at hpart
    rw [hkind] at hsound
    exact absurd (hsound id hpart).2 (by simp [htype])
  | _ => simp [Component.parts, hkind] at hpart

/-- A complex type without a name is the type of **one element**. -/
theorem anonymous (hloaded : set.Loaded fun _ => True) {type : ComplexType}
    (htype : (set.component id).asComplexType = some type)
    (hname : (set.component id).name = none) :
    ∃ element decl, type.declaringElement = some element ∧ element.index < id.index ∧
      (set.component element).asElement = some decl ∧ decl.type = some id ∧
        ∀ element' decl', (set.component element').asElement = some decl' →
          decl'.type = some id → element' = element := by
  have hkind := Component.asComplexType_eq_some.1 htype
  have hid := SchemaSet.index_lt_of_isComplexType (Component.isComplexType_iff.2 ⟨type, hkind⟩)
  -- a global type would have a name
  have hlocal : (set.component id).isGlobal = false := by
    by_contra hglobal
    have hnamed := (hloaded.fits id).named (by simpa using hglobal)
    rw [hname] at hnamed
    cases hnamed
  obtain ⟨ns, document, part⟩ := h.part_of_local hid hlocal
  cases part with
  | localElement _ component | localAttribute _ component =>
    rw [component] at hkind
    cases hkind
  | @anonymousType _ _ _ _ _ element _ carried before _ _ _ component =>
    rw [component] at hkind
    cases hkind
    obtain ⟨decl, hdecl, htypeOf⟩ := Option.bind_eq_some_iff.1 carried
    obtain ⟨owner, -, -, hunique⟩ := h.exists_owner hid (by simp [SchemaSet.isLocal, hlocal])
    have howns {e : ComponentId} {d : ElementDecl} (hd : (set.component e).asElement = some d)
        (htype : d.type = some id) : e = owner := by
      refine hunique e (SchemaSet.mem_ids (Nat.lt_of_not_le fun hbeyond => ?_)) ?_
      · rw [SchemaSet.component_of_size_le hbeyond] at hd
        cases hd
        cases htype
      · rw [SchemaSet.owned_of_element (Component.asElement_eq_some.1 hd), htype]
        simp [SchemaSet.isLocal, hlocal]
    exact ⟨element, decl, rfl, before, hdecl, htypeOf,
      fun element' decl' hdecl' htype' => (howns hdecl' htype').trans (howns hdecl htypeOf).symm⟩

end Manifest.Describes

/-! ## Schema sets of texts -/

/-- The schema set of a manifest is **well-formed**. -/
theorem Manifest.wellFormed_schemaSet (h : m.schemaSet sourceName = .ok set) : set.WellFormed := by
  have hdescribes := m.describes_schemaSet h
  have hloaded : set.Loaded fun _ => True := loaded_of_schemaSet (fun _ _ => trivial) h
  refine ⟨fun s hs id hid => ?listed, ?anyType, fun name id hid => ?builtin,
    fun id hid => hdescribes.sound hloaded hid, fun id hid => hdescribes.member hloaded hid,
    fun id type => hdescribes.anonymous hloaded, fun id type htype p hp hglobal => ?global⟩
  case listed =>
    obtain ⟨hindex, hglobal, hns⟩ := hdescribes.indexed.within s hs id hid
    exact ⟨⟨hindex, hglobal⟩, hns⟩
  case anyType =>
    have hcomplex : (set.component SchemaSet.anyType).isComplexType = true := by
      rw [hloaded.stays_anyType.isComplexType]
      rfl
    exact ⟨SchemaSet.index_lt_of_isComplexType hcomplex, hcomplex⟩
  case builtin =>
    have hinitial : SchemaSet.initial.Loaded fun _ => True := SchemaSet.loaded_initial
    have hindex := SchemaSet.index_lt_of_isGlobal (Loading.isGlobal_of_builtin? hinitial hid)
    -- the universal type is the only complex one, and no name of a built-in simple type leads to it
    have hsimple : ∀ id ∈ SchemaSet.initial.ids, id ≠ SchemaSet.anyType →
        (SchemaSet.initial.component id).isSimpleType = true := by
      decide +kernel
    refine ⟨Nat.lt_of_lt_of_le hindex hloaded.grown.size, ?_⟩
    rw [hdescribes.builtin id hindex]
    refine hsimple id (SchemaSet.mem_ids hindex) ?_
    obtain ⟨index, -, rfl⟩ := Option.map_eq_some_iff.1 hid
    simp [SchemaSet.anyType]
  case global =>
    have hindex := ((hloaded.fits id).content type p htype hp).1
    rw [hdescribes.indexed.listedIn]
    exact List.mem_filter.2 ⟨SchemaSet.mem_ids hindex, by simp [hglobal]⟩

/-- What a text is loaded into is **well-formed**, or else the manifest is at fault: no building
step is ever misused, be it for a component of another kind or for an id out of bounds. -/
theorem SchemaSet.ofManifest_wellFormed (text sourceName : String) :
    match ofManifest text sourceName with
    | .ok set => set.WellFormed
    | .error e => ∀ cause, e ≠ .misuse cause := by
  unfold ofManifest
  cases Manifest.ofText text with
  | error cause => simp
  | ok m =>
    dsimp only
    cases hset : m.schemaSet sourceName with
    | ok set => exact m.wellFormed_schemaSet hset
    | error e =>
      rintro cause rfl
      exact m.ne_misuse sourceName cause hset

/-- A manifest of an element in an element, each of an anonymous type, the inner one with an
attribute. -/
def SchemaSet.nestedText : String :=
  "schema=[\x7bnamespace=\"a\",element=[\x7bname=\"x\",complex_type=\x7belement=[" ++
    "\x7bname=\"y\",complex_type=\x7battribute=[\x7bname=\"z\"\x7d]\x7d\x7d]\x7d\x7d]\x7d]"

set_option maxRecDepth 100000 in
/-- Anonymous types in anonymous types are accepted, and the set is well-formed. -/
theorem SchemaSet.ofManifest_wellFormed_nestedText :
    ∃ set, ofManifest nestedText "a.toml" = .ok set ∧ set.WellFormed := by
  have haccepted : (ofManifest nestedText "a.toml").isOk = true := by decide +kernel
  have hwellFormed := ofManifest_wellFormed nestedText "a.toml"
  cases hset : ofManifest nestedText "a.toml" with
  | ok set =>
    rw [hset] at hwellFormed
    exact ⟨set, rfl, hwellFormed⟩
  | error e =>
    rw [hset] at haccepted
    cases haccepted

end SchemaBinding
