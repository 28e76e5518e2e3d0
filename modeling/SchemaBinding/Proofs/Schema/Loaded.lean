import SchemaBinding.Manifest.Load
import SchemaBinding.Proofs.Schema.Built
import SchemaBinding.Proofs.Schema.Kind

/-! # Loaded schema sets
Loading a manifest only lets a set grow: what a component is, is decided when it is inserted. So
what components say about each other stays right while more of them are added, and every component
of a loaded set **fits**: bases are global types, what a complex type contains are elements behind
it or global ones, and an anonymous type belongs to an element before it. A local element occurs in
one complex type only. -/

namespace SchemaBinding

variable {α β ε : Type} {allowed : String → Prop}

/-! ## Growing sets -/

/-- The element that declares a component, if it is an anonymous complex type. -/
def Component.declaringElement? (c : Component) : Option ComponentId :=
  c.asComplexType.bind ComplexType.declaringElement

/-- A complex type **contains** what occurs in its content. -/
def Component.Contains (c : Component) (e : ComponentId) : Prop :=
  ∃ type p, c.asComplexType = some type ∧ p ∈ type.content ∧ p.term = e

/-- Complex types of the same kind contain the same. -/
theorem Component.Contains.congr {c c' : Component} {e : ComponentId} (h : c'.Contains e)
    (hkind : c'.kind = c.kind) : c.Contains e := by
  obtain ⟨type, p, htype, hp⟩ := h
  rw [asComplexType_eq_some, hkind, ← asComplexType_eq_some] at htype
  exact ⟨type, p, htype, hp⟩

/-- A component **stays** what it is under a change. -/
structure Component.Stays (c c' : Component) : Prop where
  name : c'.name = c.name
  ns : c'.ns = c.ns
  isGlobal : c'.isGlobal = c.isGlobal
  isElement : c'.isElement = c.isElement
  isComplexType : c'.isComplexType = c.isComplexType
  asAttribute : c'.asAttribute.isSome = c.asAttribute.isSome
  declaring : c'.declaringElement? = c.declaringElement?

namespace Component.Stays

variable {c c' c'' : Component}

/-- A component stays what it is if nothing is done to it. -/
theorem refl (c : Component) : Stays c c := ⟨rfl, rfl, rfl, rfl, rfl, rfl, rfl⟩

/-- A component that stays twice in a row stays what it was. -/
theorem trans (h : Stays c c') (h' : Stays c' c'') : Stays c c'' where
  name := h'.name.trans h.name
  ns := h'.ns.trans h.ns
  isGlobal := h'.isGlobal.trans h.isGlobal
  isElement := h'.isElement.trans h.isElement
  isComplexType := h'.isComplexType.trans h.isComplexType
  asAttribute := h'.asAttribute.trans h.asAttribute
  declaring := h'.declaring.trans h.declaring

end Component.Stays

namespace SchemaSet

variable {set set' set'' : SchemaSet} {id e t : ComponentId} {c : Component}

/-- A set **grows** when components are added and none becomes another. -/
structure Grows (set set' : SchemaSet) : Prop where
  size : set.size ≤ set'.size
  stays : ∀ id : ComponentId, id.index < set.size → (set.component id).Stays (set'.component id)

namespace Grows

/-- A set has grown from itself. -/
theorem refl (set : SchemaSet) : Grows set set := ⟨Nat.le_refl _, fun _ _ => .refl _⟩

/-- Growing twice in a row is growing. -/
theorem trans (h : Grows set set') (h' : Grows set' set'') : Grows set set'' where
  size := Nat.le_trans h.size h'.size
  stays id hid := (h.stays id hid).trans (h'.stays id (Nat.lt_of_lt_of_le hid h.size))

/-- A set grows by a component inserted. -/
theorem insert (set : SchemaSet) (c : Component) : Grows set (set.insert c).2 where
  size := by
    rw [size_insert]
    exact Nat.le_succ _
  stays id hid := by
    rw [component_insert, if_neg]
    · exact .refl _
    · rintro rfl
      exact absurd hid (Nat.lt_irrefl _)

/-- A set grows by a change under which the component stays what it is. -/
theorem modifyComponent {f : Component → Component}
    (hf : (set.component id).Stays (f (set.component id))) :
    Grows set (set.modifyComponent id f) where
  size := Nat.le_of_eq (size_modifyComponent set id f).symm
  stays k hk := by
    rw [component_modifyComponent]
    split
    · rename_i hself
      rw [hself.1]
      exact hf
    · exact .refl _

/-- The schemas of a set may change while it grows. -/
theorem modifySchema (set : SchemaSet) (ns : String) (f : Schema → Schema) :
    Grows set (set.modifySchema ns f) := ⟨Nat.le_refl _, fun _ _ => .refl _⟩

/-- A component that exists goes on existing. -/
theorem index_lt (h : Grows set set') (hid : id.index < set.size) : id.index < set'.size :=
  Nat.lt_of_lt_of_le hid h.size

/-- A global component exists, and stays global. -/
theorem isGlobal (h : Grows set set') (hglobal : (set.component id).isGlobal = true) :
    (set'.component id).isGlobal = true := by
  by_cases hid : id.index < set.size
  · rw [(h.stays id hid).isGlobal]
    exact hglobal
  · rw [component_of_size_le (Nat.not_lt.1 hid)] at hglobal
    cases hglobal

/-- An attribute exists, and stays one. -/
theorem asAttribute (h : Grows set set')
    (hattribute : (set.component id).asAttribute.isSome = true) :
    (set'.component id).asAttribute.isSome = true := by
  by_cases hid : id.index < set.size
  · rw [(h.stays id hid).asAttribute]
    exact hattribute
  · rw [component_of_size_le (Nat.not_lt.1 hid)] at hattribute
    cases hattribute

/-- An anonymous type exists, and stays that of its element. -/
theorem declaring (h : Grows set set')
    (hdeclaring : (set.component id).declaringElement? = some e) :
    (set'.component id).declaringElement? = some e := by
  by_cases hid : id.index < set.size
  · rw [(h.stays id hid).declaring]
    exact hdeclaring
  · rw [component_of_size_le (Nat.not_lt.1 hid)] at hdeclaring
    cases hdeclaring

end Grows

/-! ## Components that fit -/

/-- A component **fits** into a set at a position. Global complex types belong to allowed
namespaces. -/
structure Fits (allowed : String → Prop) (set : SchemaSet) (id : ComponentId) (c : Component) :
    Prop where
  named : c.isGlobal = true → c.name.isSome = true
  /-- The universal type is there before any manifest. -/
  foreign : c.isGlobal = true → c.isComplexType = true → id ≠ anyType → allowed c.ns
  /-- The element that declares an anonymous type stands before it. -/
  declaring : ∀ e, c.declaringElement? = some e →
    e.index < set.size ∧ (set.component e).isElement = true ∧ e.index < id.index
  /-- An anonymous type is not global. -/
  anonymous : ∀ e, c.declaringElement? = some e → c.isGlobal = false
  /-- The type of an element is a global one, or declared by the element. -/
  carried : ∀ decl t, c.asElement = some decl → decl.type = some t →
    (set.component t).isGlobal = true ∨ (set.component t).declaringElement? = some id
  base : ∀ type b, c.asComplexType = some type → type.base = some b →
    (set.component b).isGlobal = true
  /-- Global elements may be referred to from anywhere, local ones stand behind their owner. -/
  content : ∀ type p, c.asComplexType = some type → p ∈ type.content →
    p.term.index < set.size ∧ (set.component p.term).isElement = true ∧
      ((set.component p.term).isGlobal = true ∨ id.index < p.term.index)
  attributes : ∀ type a, c.asComplexType = some type → a ∈ type.attributes →
    (set.component a).asAttribute.isSome = true
  /-- The type of an attribute is a global one. -/
  attributed : ∀ decl t, c.asAttribute = some decl → decl.type = some t →
    (set.component t).isGlobal = true
  /-- The base of a simple type is a global one. -/
  restricted : ∀ type b, c.asSimpleType = some type → type.base = some b →
    (set.component b).isGlobal = true
  /-- Manifests have no model groups. -/
  ungrouped : c.asGroup = none

namespace Fits

/-- What fits into a set still does when the set has grown. -/
theorem grows (h : set.Fits allowed id c) (hgrows : set.Grows set') : set'.Fits allowed id c where
  named := h.named
  foreign := h.foreign
  declaring e he := by
    obtain ⟨hsize, helement, hlt⟩ := h.declaring e he
    refine ⟨hgrows.index_lt hsize, ?_, hlt⟩
    rw [(hgrows.stays e hsize).isElement]
    exact helement
  anonymous := h.anonymous
  carried decl t hdecl ht := (h.carried decl t hdecl ht).imp hgrows.isGlobal hgrows.declaring
  base type b htype hb := hgrows.isGlobal (h.base type b htype hb)
  content type p htype hp := by
    obtain ⟨hsize, helement, hplace⟩ := h.content type p htype hp
    refine ⟨hgrows.index_lt hsize, ?_, hplace.imp_left hgrows.isGlobal⟩
    rw [(hgrows.stays p.term hsize).isElement]
    exact helement
  attributes type a htype ha := hgrows.asAttribute (h.attributes type a htype ha)
  attributed decl t hdecl ht := hgrows.isGlobal (h.attributed decl t hdecl ht)
  restricted type b htype hb := hgrows.isGlobal (h.restricted type b htype hb)
  ungrouped := h.ungrouped

/-- A component that says nothing about other ones, unless it is an attribute of a global type or
restricts one, fits anywhere. -/
theorem of_plain (hnamed : c.isGlobal = true → c.name.isSome = true)
    (hkind : c.asElement.bind ElementDecl.type = none) (hcomplex : c.asComplexType = none)
    (hattribute : ∀ t ∈ c.asAttribute.bind AttributeDecl.type,
      (set.component t).isGlobal = true)
    (hsimple : ∀ b ∈ c.asSimpleType.bind SimpleType.base, (set.component b).isGlobal = true)
    (hgroup : c.asGroup = none) : set.Fits allowed id c where
  named := hnamed
  foreign _ h := by simp [Component.isComplexType, hcomplex] at h
  declaring _ h := by simp [Component.declaringElement?, hcomplex] at h
  anonymous _ h := by simp [Component.declaringElement?, hcomplex] at h
  carried decl t hdecl ht := by simp [hdecl, ht] at hkind
  base _ _ h := by simp [hcomplex] at h
  content _ _ h := by simp [hcomplex] at h
  attributes _ _ h := by simp [hcomplex] at h
  attributed decl t hdecl ht := hattribute t (by rw [hdecl]; exact ht)
  restricted type b htype hb := hsimple b (by rw [htype]; exact hb)
  ungrouped := hgroup

/-- A complex type fits when all that it says does. -/
theorem of_complexType {type : ComplexType} (hkind : c.kind = .complexType type)
    (hnamed : c.isGlobal = true → c.name.isSome = true)
    (hforeign : c.isGlobal = true → id ≠ anyType → allowed c.ns)
    (hdeclaring : ∀ e, type.declaringElement = some e → e.index < set.size ∧
      (set.component e).isElement = true ∧ e.index < id.index)
    (hanonymous : ∀ e, type.declaringElement = some e → c.isGlobal = false)
    (hbase : ∀ b, type.base = some b → (set.component b).isGlobal = true)
    (hcontent : ∀ p ∈ type.content, p.term.index < set.size ∧
      (set.component p.term).isElement = true ∧
        ((set.component p.term).isGlobal = true ∨ id.index < p.term.index))
    (hattributes : ∀ a ∈ type.attributes, (set.component a).asAttribute.isSome = true) :
    set.Fits allowed id c := by
  have htype : c.asComplexType = some type := Component.asComplexType_eq_some.2 hkind
  have hsame {type' : ComplexType} (h : c.asComplexType = some type') : type' = type := by
    rw [htype] at h
    exact (Option.some.inj h).symm
  -- what is asked of components of another kind is asked of none here
  refine ⟨hnamed, fun hglobal _ => hforeign hglobal, ?declaring, ?anonymous, ?carried, ?base,
    ?content, ?attributes, ?attributed, ?restricted, ?ungrouped⟩
  case declaring =>
    intro e he
    rw [Component.declaringElement?, htype] at he
    exact hdeclaring e he
  case anonymous =>
    intro e he
    rw [Component.declaringElement?, htype] at he
    exact hanonymous e he
  case carried =>
    intro decl t hdecl
    rw [Component.asElement_eq_some, hkind] at hdecl
    cases hdecl
  case base =>
    intro type' b htype' hb
    exact hbase b (hsame htype' ▸ hb)
  case content =>
    intro type' p htype' hp
    exact hcontent p (hsame htype' ▸ hp)
  case attributes =>
    intro type' a htype' ha
    exact hattributes a (hsame htype' ▸ ha)
  case attributed =>
    intro decl t hdecl
    rw [Component.asAttribute_eq_some, hkind] at hdecl
    cases hdecl
  case restricted =>
    intro type b hsimple
    rw [Component.asSimpleType_eq_some, hkind] at hsimple
    cases hsimple
  case ungrouped =>
    rw [Component.asGroup, hkind]

/-- A new complex type fits when it is global and named, or belongs to an element before it. -/
theorem of_empty {declaringElement : Option ComponentId}
    (hkind : c.kind = .complexType { declaringElement })
    (hnamed : c.isGlobal = true → c.name.isSome = true ∧ (id ≠ anyType → allowed c.ns))
    (hdeclaring : ∀ e ∈ declaringElement, e.index < set.size ∧
      (set.component e).isElement = true ∧ e.index < id.index)
    (hanonymous : declaringElement.isSome = true → c.isGlobal = false) :
    set.Fits allowed id c := by
  refine of_complexType hkind (fun h => (hnamed h).1) (fun h => (hnamed h).2) hdeclaring
    (fun e he => hanonymous (Option.isSome_iff_exists.2 ⟨e, he⟩)) ?_ ?_ ?_
  · rintro b ⟨⟩
  · rintro p ⟨⟩
  · rintro a ⟨⟩

/-- What a component is apart from its kind does not matter, if it stays what it is. -/
theorem congr {c' : Component} (h : set.Fits allowed id c) (hstays : c.Stays c')
    (hkind : c'.kind = c.kind) : set.Fits allowed id c' where
  named hglobal := by
    rw [hstays.name]
    exact h.named (hstays.isGlobal ▸ hglobal)
  foreign hglobal hcomplex := by
    rw [hstays.ns]
    exact h.foreign (hstays.isGlobal ▸ hglobal) (hstays.isComplexType ▸ hcomplex)
  declaring e he := h.declaring e (hstays.declaring ▸ he)
  anonymous e he := hstays.isGlobal.trans (h.anonymous e (hstays.declaring ▸ he))
  carried decl t hdecl := by
    rw [Component.asElement_eq_some, hkind, ← Component.asElement_eq_some] at hdecl
    exact h.carried decl t hdecl
  base type b htype := by
    rw [Component.asComplexType_eq_some, hkind, ← Component.asComplexType_eq_some] at htype
    exact h.base type b htype
  content type p htype := by
    rw [Component.asComplexType_eq_some, hkind, ← Component.asComplexType_eq_some] at htype
    exact h.content type p htype
  attributes type a htype := by
    rw [Component.asComplexType_eq_some, hkind, ← Component.asComplexType_eq_some] at htype
    exact h.attributes type a htype
  attributed decl t hdecl := by
    rw [Component.asAttribute_eq_some, hkind, ← Component.asAttribute_eq_some] at hdecl
    exact h.attributed decl t hdecl
  restricted type b htype := by
    rw [Component.asSimpleType_eq_some, hkind, ← Component.asSimpleType_eq_some] at htype
    exact h.restricted type b htype
  ungrouped := by
    rw [Component.asGroup, hkind]
    exact h.ungrouped

end Fits

end SchemaSet

/-! ## Changes of kinds -/

namespace Component

variable {c : Component}

/-- An element stays one with another declaration. -/
theorem stays_element {decl decl' : ElementDecl} (hkind : c.kind = .element decl) :
    c.Stays { c with kind := .element decl' } := by
  refine ⟨rfl, rfl, rfl, ?_, ?_, ?_, ?_⟩ <;>
    simp [isElement, asElement, isComplexType, asComplexType, asAttribute, declaringElement?, hkind]

/-- A complex type stays one with another description. -/
theorem stays_complexType {type type' : ComplexType} (hkind : c.kind = .complexType type)
    (hdeclaring : type'.declaringElement = type.declaringElement) :
    c.Stays { c with kind := .complexType type' } := by
  refine ⟨rfl, rfl, rfl, ?_, ?_, ?_, ?_⟩ <;>
    simp [isElement, asElement, isComplexType, asComplexType, asAttribute, declaringElement?, hkind,
      hdeclaring]

/-- A simple type stays one with another description. -/
theorem stays_simpleType {type type' : SimpleType} (hkind : c.kind = .simpleType type) :
    c.Stays { c with kind := .simpleType type' } := by
  refine ⟨rfl, rfl, rfl, ?_, ?_, ?_, ?_⟩ <;>
    simp [isElement, asElement, isComplexType, asComplexType, asAttribute, declaringElement?, hkind]

end Component

namespace SchemaSet.Fits

variable {set : SchemaSet} {id : ComponentId} {c : Component}

/-- An element fits with another declaration if its type does. -/
theorem element (h : set.Fits allowed id c) {decl' : ElementDecl}
    (htype : ∀ t, decl'.type = some t → (set.component t).isGlobal = true ∨
      (set.component t).declaringElement? = some id) :
    set.Fits allowed id { c with kind := .element decl' } where
  named := h.named
  foreign _ hcomplex := by simp [Component.isComplexType, Component.asComplexType] at hcomplex
  declaring _ he := by simp [Component.declaringElement?, Component.asComplexType] at he
  anonymous _ he := by simp [Component.declaringElement?, Component.asComplexType] at he
  carried declared t hdecl ht := by
    obtain rfl : decl' = declared := by simpa [Component.asElement] using hdecl
    exact htype t ht
  base _ _ htype := by simp [Component.asComplexType] at htype
  content _ _ htype := by simp [Component.asComplexType] at htype
  attributes _ _ htype := by simp [Component.asComplexType] at htype
  attributed _ _ hdecl := by simp [Component.asAttribute] at hdecl
  restricted _ _ hsimple := by simp [Component.asSimpleType] at hsimple
  ungrouped := rfl

/-- A complex type fits with another description if what is **new** in it does. -/
theorem complexType (h : set.Fits allowed id c) {type type' : ComplexType}
    (hkind : c.kind = .complexType type)
    (hdeclaring : type'.declaringElement = type.declaringElement)
    (hbase : ∀ b, type'.base = some b →
      type.base = some b ∨ (set.component b).isGlobal = true)
    (hcontent : ∀ p ∈ type'.content, (∃ q ∈ type.content, q.term = p.term) ∨
      p.term.index < set.size ∧ (set.component p.term).isElement = true ∧
        ((set.component p.term).isGlobal = true ∨ id.index < p.term.index))
    (hattributes : ∀ a ∈ type'.attributes,
      a ∈ type.attributes ∨ (set.component a).asAttribute.isSome = true) :
    set.Fits allowed id { c with kind := .complexType type' } := by
  have hcomplex := Component.isComplexType_iff.2 ⟨type, hkind⟩
  have htype := Component.asComplexType_eq_some.2 hkind
  have hsame {e : ComponentId} (he : type'.declaringElement = some e) :
      c.declaringElement? = some e := by
    rw [Component.declaringElement?, htype]
    exact hdeclaring.symm.trans he
  refine of_complexType rfl h.named (fun hglobal => h.foreign hglobal hcomplex)
    (fun e he => h.declaring e (hsame he)) (fun e he => h.anonymous e (hsame he)) ?_ ?_ ?_
  · intro b hb
    exact (hbase b hb).elim (h.base type b htype) fun hnew => hnew
  · intro p hp
    rcases hcontent p hp with ⟨q, hq, hterm⟩ | hnew
    · rw [← hterm]
      exact h.content type q htype hq
    · exact hnew
  · intro a ha
    exact (hattributes a ha).elim (h.attributes type a htype) fun hnew => hnew

end SchemaSet.Fits

/-! ## Loaded sets -/

namespace SchemaSet

variable {set : SchemaSet} {id : ComponentId} {c : Component}

/-- A **loaded** set has grown from the initial one, and all its components fit. -/
structure Loaded (allowed : String → Prop) (set : SchemaSet) : Prop where
  grown : initial.Grows set
  listed : set.Listed
  listing : ∀ s ∈ set.schemas, ∀ id ∈ s.components, (set.component id).isGlobal = true
  fits : ∀ id, set.Fits allowed id (set.component id)
  /-- A local element belongs to one complex type. -/
  owned : ∀ e o o', (set.component e).isGlobal = false → (set.component o).Contains e →
    (set.component o').Contains e → o = o'

namespace Loaded

/-- What a complex type contains exists. -/
theorem index_lt_of_contains (h : set.Loaded allowed) {o e : ComponentId}
    (hcontains : (set.component o).Contains e) : e.index < set.size := by
  obtain ⟨type, p, htype, hp, rfl⟩ := hcontains
  exact ((h.fits o).content type p htype hp).1

/-- A new component contains nothing as yet. -/
theorem insert (h : set.Loaded allowed) (hfits : (set.insert c).2.Fits allowed ⟨set.size⟩ c)
    (hempty : ∀ e, ¬ c.Contains e) : (set.insert c).2.Loaded allowed where
  grown := h.grown.trans (.insert set c)
  listed := h.listed.insert c
  listing s hs id hid := by
    -- what was listed before is global still, and a schema that is mentioned first lists nothing
    have hold (s : Schema) (hs : s ∈ set.schemas ∨ s = { ns := c.ns }) (hid : id ∈ s.components) :
        ((set.insert c).2.component id).isGlobal = true := by
      rcases hs with hs | rfl
      · exact (Grows.insert set c).isGlobal (h.listing s hs id hid)
      · cases hid
    rcases of_mem_modifySchemas hs with hbefore | ⟨s, hbefore, -, rfl⟩
    · exact hold s (.inl hbefore) hid
    · split at hid
      · rename_i hglobal
        rcases List.mem_append.1 hid with hid | hid
        · exact hold s hbefore hid
        · obtain rfl := List.mem_singleton.1 hid
          rw [component_insert, if_pos rfl]
          exact hglobal
      · exact hold s hbefore hid
  fits k := by
    rw [component_insert]
    split
    · rename_i hlast
      rw [hlast]
      exact hfits
    · exact (h.fits k).grows (.insert set c)
  owned e o o' hlocal ho ho' := by
    have hold {k : ComponentId} (hk : ((set.insert c).2.component k).Contains e) :
        (set.component k).Contains e := by
      rw [component_insert] at hk
      split at hk
      · exact absurd hk (hempty e)
      · exact hk
    refine h.owned e o o' ?_ (hold ho) (hold ho')
    rwa [← ((Grows.insert set c).stays e (h.index_lt_of_contains (hold ho))).isGlobal]

/-- What is new in the content of a component is global, or belonged to nothing before. -/
theorem modifyComponent (h : set.Loaded allowed) {f : Component → Component}
    (hstays : (set.component id).Stays (f (set.component id)))
    (hfits : set.Fits allowed id (f (set.component id)))
    (hcontent : ∀ e, (f (set.component id)).Contains e → (set.component id).Contains e ∨
      (set.component e).isGlobal = true ∨ ∀ o, ¬ (set.component o).Contains e) :
    (set.modifyComponent id f).Loaded allowed where
  grown := h.grown.trans (.modifyComponent hstays)
  listed := h.listed.modifyComponent hstays.isGlobal hstays.ns
  listing s hs k hk := (Grows.modifyComponent hstays).isGlobal (h.listing s hs k hk)
  fits k := by
    rw [component_modifyComponent]
    split
    · rename_i hself
      rw [hself.1]
      exact hfits.grows (.modifyComponent hstays)
    · exact (h.fits k).grows (.modifyComponent hstays)
  owned e o o' hlocal ho ho' := by
    have hlocal : (set.component e).isGlobal = false := by
      refine Bool.eq_false_iff.2 fun hglobal => ?_
      rw [(Grows.modifyComponent hstays).isGlobal hglobal] at hlocal
      cases hlocal
    -- an element that is contained now was so before, or belongs to the changed component alone
    have hold {k : ComponentId} (hk : ((set.modifyComponent id f).component k).Contains e) :
        (set.component k).Contains e ∨ k = id ∧ ∀ o, ¬ (set.component o).Contains e := by
      rw [component_modifyComponent] at hk
      split at hk
      · rename_i hself
        rw [hself.1] at hk ⊢
        refine (hcontent e hk).imp_right fun hnew => ⟨rfl, hnew.resolve_left ?_⟩
        simp [hlocal]
      · exact .inl hk
    rcases hold ho with hbefore | ⟨hid, hnone⟩
    · rcases hold ho' with hbefore' | ⟨-, hnone⟩
      · exact h.owned e o o' hlocal hbefore hbefore'
      · exact absurd hbefore (hnone o)
    · rcases hold ho' with hbefore' | ⟨hid', -⟩
      · exact absurd hbefore' (hnone o')
      · rw [hid, hid']

/-- A change of a schema that keeps its namespace and its list keeps a set loaded. -/
theorem modifySchema (h : set.Loaded allowed) {ns : String} {f : Schema → Schema}
    (hf : ∀ s, (f s).ns = s.ns ∧ (f s).components = s.components) :
    (set.modifySchema ns f).Loaded allowed where
  grown := h.grown.trans (.modifySchema set ns f)
  listed := h.listed.modifySchema fun s => ⟨(hf s).1, (hf s).2 ▸ List.Subset.refl _⟩
  listing s hs id hid := by
    rcases of_mem_modifySchemas hs with hbefore | ⟨s, hbefore | rfl, -, rfl⟩
    · exact h.listing s hbefore id hid
    · rw [(hf s).2] at hid
      exact h.listing s hbefore id hid
    · rw [(hf _).2] at hid
      cases hid
  fits id := (h.fits id).grows (.modifySchema set ns f)
  owned := h.owned

end Loaded

/-- The built-in types fit into the initial set. -/
theorem loaded_initial : initial.Loaded allowed := by
  have hany : initial.component anyType = anyTypeComponent := by decide +kernel
  have hkinds : ∀ id ∈ initial.ids, (initial.component id).name.isSome = true ∧
      (initial.component id).asElement = none ∧ (initial.component id).asAttribute = none ∧
        (initial.component id).asSimpleType.bind SimpleType.base = none ∧
          (initial.component id).asGroup = none ∧
            (id = anyType ∨ (initial.component id).asComplexType = none) := by
    decide +kernel
  -- only the universal type is complex, and it contains nothing
  have hcontains (o e : ComponentId) : ¬ (initial.component o).Contains e := by
    rintro ⟨type, p, htype, hp, -⟩
    by_cases ho : o.index < initial.size
    · obtain ⟨-, -, -, -, -, rfl | hcomplex⟩ :=
        hkinds o (List.mem_map.2 ⟨o.index, List.mem_range.2 ho, rfl⟩)
      · rw [hany] at htype
        cases htype
        cases hp
      · rw [hcomplex] at htype
        cases htype
    · rw [component_of_size_le (Nat.not_lt.1 ho)] at htype
      cases htype
  refine ⟨.refl _, listed_initial, by decide +kernel, fun id => ?_,
    fun e o _ _ ho => absurd ho (hcontains o e)⟩
  by_cases hid : id.index < initial.size
  · obtain ⟨hname, helement, hattribute, hsimple, hgroup, rfl | hcomplex⟩ :=
      hkinds id (List.mem_map.2 ⟨id.index, List.mem_range.2 hid, rfl⟩)
    · rw [hany]
      exact .of_empty rfl (fun _ => ⟨rfl, fun h => absurd rfl h⟩) (by simp) (by rintro ⟨⟩)
    · exact .of_plain (fun _ => hname) (by rw [helement]; rfl) hcomplex (by simp [hattribute])
        (by simp [hsimple]) hgroup
  · rw [component_of_size_le (Nat.not_lt.1 hid)]
    exact .of_plain (fun h => by cases h) rfl rfl (by rintro t ⟨⟩) (by rintro b ⟨⟩) rfl

end SchemaSet

end SchemaBinding
