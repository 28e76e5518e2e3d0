import SchemaBinding.Proofs.Completion

/-! # What a schema prescribes
The base and the properties of a class, and the content of a wrapper, are read off the schema once
all bindings are final. A run that comes to its end has generated just that, although the bodies
were filled while other components were still unbound. -/

namespace SchemaBinding

open Resolver (State)

/-! ## Occurrences in document order -/

namespace SchemaSet

variable {set : SchemaSet} {content more occurrences others : List Particle} {p : Particle}

/-- A content **flattens** to the occurrences of elements in it: groups are replaced by what they
hold, in the order of the document. -/
inductive Flattens (set : SchemaSet) : List Particle → List Particle → Prop
  | nil : Flattens set [] []
  | element {p : Particle} {rest occurrences : List Particle}
      (element : (set.component p.term).isElement = true) (later : Flattens set rest occurrences) :
      Flattens set (p :: rest) (p :: occurrences)
  | group {p : Particle} {rest occurrences inner : List Particle} {g : ModelGroup}
      (group : (set.component p.term).asGroup = some g) (inside : Flattens set g.particles inner)
      (later : Flattens set rest occurrences) : Flattens set (p :: rest) (inner ++ occurrences)
  /-- Other components do not occur as elements. -/
  | other {p : Particle} {rest occurrences : List Particle}
      (plain : (set.component p.term).isElement = false)
      (ungrouped : (set.component p.term).asGroup = none) (later : Flattens set rest occurrences) :
      Flattens set (p :: rest) occurrences

/-- Contents in a row flatten to their occurrences in a row. -/
theorem Flattens.append (h : Flattens set content occurrences) (hmore : Flattens set more others) :
    Flattens set (content ++ more) (occurrences ++ others) := by
  induction h with
  | nil => exact hmore
  | element element _ ih => exact .element element ih
  | group group inside _ _ ih =>
    rw [List.append_assoc]
    exact .group group inside ih
  | other plain ungrouped _ ih => exact .other plain ungrouped ih

/-- Elements are no groups. -/
theorem asGroup_of_isElement {c : Component} (h : c.isElement = true) : c.asGroup = none := by
  obtain ⟨decl, hkind⟩ := Component.isElement_iff.1 h
  rw [Component.asGroup, hkind]

/-- A content flattens in **one way** only. -/
theorem Flattens.unique (h : Flattens set content occurrences)
    (h' : Flattens set content others) : others = occurrences := by
  induction h generalizing others with
  | nil =>
    cases h'
    rfl
  | element element _ ih =>
    -- the kind of the first term decides which rule applies
    cases h' with
    | element _ later => rw [ih later]
    | group group =>
      rw [asGroup_of_isElement element] at group
      cases group
    | other plain =>
      rw [element] at plain
      cases plain
  | group group _ _ ihinside ih =>
    cases h' with
    | element element =>
      rw [asGroup_of_isElement element] at group
      cases group
    | group group' inside later =>
      obtain rfl := Option.some.inj (group.symm.trans group')
      rw [ihinside inside, ih later]
    | other _ ungrouped =>
      rw [group] at ungrouped
      cases ungrouped
  | other plain ungrouped _ ih =>
    cases h' with
    | element element =>
      rw [plain] at element
      cases element
    | group group =>
      rw [ungrouped] at group
      cases group
    | other _ _ later => exact ih later

/-- Particles that flatten one by one flatten together. -/
theorem flattens_of_mapM {f : Particle → Option (List Particle)}
    (hf : ∀ p occurrences, f p = some occurrences → Flattens set [p] occurrences)
    {lists : List (List Particle)} (h : content.mapM f = some lists) :
    Flattens set content lists.flatten := by
  induction content generalizing lists with
  | nil =>
    obtain rfl : [] = lists := by simpa using h
    exact .nil
  | cons p rest ih =>
    rw [List.mapM_cons] at h
    obtain ⟨first, hfirst, h⟩ := Option.bind_eq_some_iff.1 h
    obtain ⟨later, hlater, h⟩ := Option.bind_eq_some_iff.1 h
    obtain rfl : first :: later = lists := Option.some.inj h
    rw [List.flatten_cons]
    exact (hf p first hfirst).append (ih hlater)

/-- The occurrences in a particle are what it flattens to. -/
theorem flattens_particleOccurrences {steps : Nat}
    (h : set.particleOccurrences steps p = some occurrences) : Flattens set [p] occurrences := by
  induction steps generalizing p occurrences with
  | zero => cases h
  | succ steps ih =>
    unfold particleOccurrences at h
    cases hkind : (set.component p.term).kind with
    | element decl =>
      simp only [hkind] at h
      obtain rfl := Option.some.inj h
      exact .element (Component.isElement_iff.2 ⟨decl, hkind⟩) .nil
    | group g =>
      simp only [hkind] at h
      obtain ⟨lists, hlists, rfl⟩ := Option.map_eq_some_iff.1 h
      have hinside := flattens_of_mapM (fun p occurrences => ih) hlists
      have hflat := Flattens.group (Component.asGroup_eq_some.2 hkind) hinside .nil
      rwa [List.append_nil] at hflat
    | _ =>
      simp only [hkind] at h
      obtain rfl := Option.some.inj h
      refine .other ?_ ?_ .nil
      · simp [Component.isElement, Component.asElement, hkind]
      · simp [Component.asGroup, hkind]

/-- The **occurrences** in a content are what it flattens to. -/
theorem flattens_occurrences? (h : set.occurrences? content = some occurrences) :
    Flattens set content occurrences := by
  obtain ⟨lists, hlists, rfl⟩ := Option.map_eq_some_iff.1 h
  exact flattens_of_mapM (fun p occurrences => flattens_particleOccurrences) hlists

end SchemaSet

/-! ## Prescribed bodies -/

namespace SchemaSet

/-- Whether a component is a **type**. -/
def IsType (set : SchemaSet) (type : ComponentId) : Prop :=
  (set.component type).isSimpleType = true ∨ (set.component type).isComplexType = true

/-- A set is **typed** when its elements and attributes carry types. -/
structure Typed (set : SchemaSet) : Prop where
  elements : ∀ e type, set.elementType? e = some type → set.IsType type
  attributes : ∀ a decl type, (set.component a).asAttribute = some decl →
    decl.type = some type → set.IsType type

instance (set : SchemaSet) (type : ComponentId) : Decidable (set.IsType type) :=
  inferInstanceAs (Decidable (_ ∨ _))

/-- Whether a set is typed can be told from the components that it has. -/
theorem typed_of_ids {set : SchemaSet} (hany : set.IsType anyType)
    (helements : ∀ e ∈ set.ids, ∀ type ∈ set.elementType? e, set.IsType type)
    (hattributes : ∀ a ∈ set.ids, ∀ decl ∈ (set.component a).asAttribute, ∀ type ∈ decl.type,
      set.IsType type) : set.Typed where
  elements e type htype := by
    by_cases he : e.index < set.size
    · exact helements e (List.mem_map.2 ⟨e.index, List.mem_range.2 he, rfl⟩) type htype
    · rw [elementType?, component_of_size_le (Nat.not_lt.1 he)] at htype
      obtain rfl : anyType = type := Option.some.inj htype
      exact hany
  attributes a decl type hdecl htype := by
    by_cases ha : a.index < set.size
    · exact hattributes a (List.mem_map.2 ⟨a.index, List.mem_range.2 ha, rfl⟩) decl hdecl type htype
    · rw [component_of_size_le (Nat.not_lt.1 ha)] at hdecl
      cases hdecl

/-- The type of the values of a schema type, with all bindings final: the leaf of a simple type, or
what a complex type is bound to. -/
def finalType? (set : SchemaSet) (registry : Registry) (type : ComponentId) : Option TypeRef :=
  if (set.component type).isSimpleType then some (.leaf (set.leaf type)) else registry.target? type

/-- The complex type that a component is or declares. -/
inductive Owns (set : SchemaSet) (c : ComponentId) : ComplexType → Prop
  | itself {type : ComplexType} (complex : (set.component c).asComplexType = some type) :
      Owns set c type
  | anonymous {id : ComponentId} {type : ComplexType} (carried : set.elementType? c = some id)
      (anonymous : set.isAnonymousTypeOf id c = true)
      (complex : (set.component id).asComplexType = some type) : Owns set c type

end SchemaSet

namespace Context

variable (x : Context) (registry : Registry)

/-- The property for a value. -/
def valueProperty (type : ComponentId) : Property :=
  { name := "value", kind := .value, type := some (.leaf (x.schema.leaf type)) }

/-- The property for a complex type with values, which are those of its simple base. -/
def baseProperties (type : ComplexType) : List Property :=
  match type.base with
  | some base =>
    if base ≠ SchemaSet.anyType && (x.schema.component base).isSimpleType then
      [x.valueProperty base]
    else []
  | none => []

/-- The property for an occurrence of an element. -/
def occurrenceProperty (p : Particle) : Property :=
  { name := x.propertyName p.term
    kind := if (x.schema.component p.term).isGlobal then .reference else .element
    type :=
      if (x.schema.component p.term).isGlobal then registry.target? p.term
      else (x.schema.elementType? p.term).bind (x.schema.finalType? registry)
    repeated := p.repeated }

/-- The property for an attribute. -/
def attributeProperty? (a : ComponentId) : Option Property :=
  (x.schema.component a).asAttribute.map fun decl =>
    { name := x.propertyName a
      kind := .attribute
      type := match decl.type with
        | some type => x.schema.finalType? registry type
        | none => some (.leaf .anySimpleType) }

/-- The class that the class of a complex type extends: that of its complex base, unless this is the
universal type. -/
def baseClass? (type : ComplexType) : Option ClassId :=
  (type.base.filter fun base =>
    base ≠ SchemaSet.anyType && (x.schema.component base).isComplexType).bind fun base =>
      (registry.target? base).bind TypeRef.asClass

/-- The base and the properties that a schema **prescribes** for the class of a component. -/
inductive Prescribes (c : ComponentId) : Option ClassId → List Property → Prop
  /-- An element with a simple type holds a value. -/
  | value {type : ComponentId} (carried : x.schema.elementType? c = some type)
      (simple : (x.schema.component type).isSimpleType = true) :
      Prescribes c none [x.valueProperty type]
  /-- An element with a complex type that it does not declare itself extends the class of it. -/
  | extension {type : ComponentId} (carried : x.schema.elementType? c = some type)
      (complex : (x.schema.component type).isComplexType = true)
      (foreign : x.schema.isAnonymousTypeOf type c = false) :
      Prescribes c ((registry.target? type).bind TypeRef.asClass) []
  /-- Otherwise the class has a value, the occurrences of elements and the attributes, in this
  order. -/
  | content {type : ComplexType} {occurrences : List Particle} (owns : x.schema.Owns c type)
      (flattens : x.schema.Flattens type.content occurrences) :
      Prescribes c (x.baseClass? registry type)
        (x.baseProperties type ++ occurrences.map (x.occurrenceProperty registry) ++
          type.attributes.filterMap (x.attributeProperty? registry))

variable {x registry} {c id : ComponentId} {type : ComplexType}

/-! ## The plan of the standard strategy prescribes the same -/

/-- The source for a type gives its final type. -/
theorem type_valueSource {t : ComponentId} (h : x.schema.IsType t) :
    (x.schema.valueSource t).type registry = x.schema.finalType? registry t := by
  unfold SchemaSet.valueSource SchemaSet.finalType?
  unfold SchemaSet.IsType Component.isSimpleType Component.asSimpleType Component.isComplexType
    Component.asComplexType at *
  cases hkind : (x.schema.component t).kind <;> simp [hkind, TypeSource.type] at h ⊢

/-- In a typed set, every occurrence of an element prescribes a property. -/
theorem property?_occurrence (htyped : x.schema.Typed) (p : Particle) :
    x.property? registry (.occurrence p) = some (x.occurrenceProperty registry p) := by
  unfold property? itemProperty? occurrenceProperty SchemaSet.itemSource SchemaSet.elementSource
  dsimp only
  congr 2
  split
  · rfl
  · cases htype : x.schema.elementType? p.term with
    | none => rfl
    | some type => exact type_valueSource (htyped.elements _ _ htype)

/-- In a typed set, an attribute prescribes the property that it has by its type. -/
theorem property?_attr (htyped : x.schema.Typed) (a : ComponentId) :
    x.property? registry (.attr a) = x.attributeProperty? registry a := by
  unfold property? itemProperty? attributeProperty? SchemaSet.itemSource
  dsimp only
  cases hdecl : (x.schema.component a).asAttribute with
  | none => rfl
  | some decl =>
    unfold SchemaSet.attributeSource
    simp only [Option.isSome_some, if_true, Option.map_some, Option.some.injEq]
    congr 1
    cases htype : decl.type with
    | none => rfl
    | some type => exact type_valueSource (htyped.attributes a decl type hdecl htype)

/-- A value of a simple type prescribes a property. -/
theorem property?_value {t : ComponentId} (h : (x.schema.component t).isSimpleType = true) :
    x.property? registry (.value t) = some (x.valueProperty t) := by
  unfold property? itemProperty? valueProperty SchemaSet.itemSource
  dsimp only
  rw [type_valueSource (.inl h), SchemaSet.finalType?, if_pos h]

/-- The items of a content give the **prescribed** properties. -/
theorem prescribes_content (htyped : x.schema.Typed) (howns : x.schema.Owns c type)
    (hkind : x.schema.bodyKind c = .content id type) {properties : List Property}
    (hproperties : x.bodyProperties? registry c = some properties) :
    x.Prescribes registry c (x.base? registry c) properties := by
  have hbase : x.base? registry c = x.baseClass? registry type := by
    unfold base? baseClass? SchemaSet.extended?
    rw [hkind]
  unfold bodyProperties? SchemaSet.items? SchemaSet.contentItems? at hproperties
  rw [hkind] at hproperties
  obtain ⟨items, hitems, rfl⟩ := Option.map_eq_some_iff.1 hproperties
  obtain ⟨content, hcontent, rfl⟩ := Option.map_eq_some_iff.1 hitems
  obtain ⟨occurrences, hoccurrences, rfl⟩ := Option.map_eq_some_iff.1 hcontent
  -- the three parts of a body, each with its own properties
  have hvalues : (x.schema.baseItems type).filterMap (x.property? registry) =
      x.baseProperties type := by
    unfold SchemaSet.baseItems baseProperties
    cases type.base with
    | none => rfl
    | some base =>
      dsimp only
      split
      · rename_i hsimple
        simp only [Bool.and_eq_true] at hsimple
        rw [List.filterMap_cons, property?_value hsimple.2]
        rfl
      · rfl
  have helements : (occurrences.map Item.occurrence).filterMap (x.property? registry) =
      occurrences.map (x.occurrenceProperty registry) := by
    rw [List.filterMap_map, ← List.filterMap_eq_map]
    exact List.filterMap_congr fun p _ => property?_occurrence htyped p
  have hattributes : (type.attributes.map Item.attr).filterMap (x.property? registry) =
      type.attributes.filterMap (x.attributeProperty? registry) := by
    rw [List.filterMap_map]
    exact List.filterMap_congr fun a _ => property?_attr htyped a
  rw [List.filterMap_append, List.filterMap_append, hvalues, helements, hattributes, hbase,
    ← List.append_assoc]
  exact .content howns (SchemaSet.flattens_occurrences? hoccurrences)

/-- A complete class of an element is as the schema **prescribes**. -/
theorem prescribes_element (htyped : x.schema.Typed) {decl : ElementDecl}
    (hkind : (x.schema.component c).kind = .element decl) {properties : List Property}
    (hproperties : x.bodyProperties? registry c = some properties) :
    x.Prescribes registry c (x.base? registry c) properties := by
  have helement := Component.isElement_iff.2 ⟨decl, hkind⟩
  obtain ⟨t, ht⟩ := SchemaSet.exists_elementType? helement
  have hbody : Resolver.bodyType? x.schema c = some t := by
    unfold Resolver.bodyType?
    rw [hkind]
    exact ht
  cases htype : (x.schema.component t).kind with
  | simpleType simple =>
    have hvalue : x.schema.bodyKind c = .value t := by
      simp [SchemaSet.bodyKind, hbody, htype]
    have hsimple := Component.isSimpleType_iff.2 ⟨simple, htype⟩
    have hbase : x.base? registry c = none := by
      simp [base?, SchemaSet.extended?, hvalue]
    obtain rfl : [x.valueProperty t] = properties := by
      simpa [bodyProperties?, SchemaSet.items?, hvalue, property?_value hsimple] using hproperties
    rw [hbase]
    exact .value ht hsimple
  | complexType type =>
    have hcomplex := Component.isComplexType_iff.2 ⟨type, htype⟩
    have hne : t ≠ c := by
      rintro rfl
      rw [hkind] at htype
      cases htype
    -- an element that declares its type has the content of it, any other one extends its class
    cases hanonymous : x.schema.isAnonymousTypeOf t c with
    | true =>
      have hcontent : x.schema.bodyKind c = .content t type := by
        simp [SchemaSet.bodyKind, hbody, htype, hanonymous]
      have hdeclared := Component.asComplexType_eq_some.2 htype
      exact prescribes_content htyped (.anonymous ht hanonymous hdeclared) hcontent hproperties
    | false =>
      have hextension : x.schema.bodyKind c = .extension t := by
        simp [SchemaSet.bodyKind, hbody, htype, hanonymous, hne]
      have hbase : x.base? registry c = (registry.target? t).bind TypeRef.asClass := by
        simp [base?, SchemaSet.extended?, hextension]
      obtain rfl : [] = properties := by
        simpa [bodyProperties?, SchemaSet.items?, hextension] using hproperties
      rw [hbase]
      exact .extension ht hcomplex hanonymous
  | _ =>
    have htype' := htyped.elements c t ht
    simp [SchemaSet.IsType, Component.isSimpleType_iff, Component.isComplexType_iff,
      htype] at htype'

/-- A complete class of a complex type is as the schema **prescribes**. -/
theorem prescribes_complexType (htyped : x.schema.Typed)
    (hkind : (x.schema.component c).kind = .complexType type) {properties : List Property}
    (hproperties : x.bodyProperties? registry c = some properties) :
    x.Prescribes registry c (x.base? registry c) properties := by
  have hcontent : x.schema.bodyKind c = .content c type := by
    simp [SchemaSet.bodyKind, Resolver.bodyType?, hkind]
  exact prescribes_content htyped (.itself (Component.asComplexType_eq_some.2 hkind)) hcontent
    hproperties

end Context

namespace Ledger.Finished

variable {x : Context} {declared : List ComponentId} {l : Ledger} {k : ClassId} {w : ElementId}

/-- Every class is as the schema **prescribes** for the component that it was built for. -/
theorem exists_prescribes (h : l.Finished x declared) (htyped : x.schema.Typed)
    (hk : k.index < l.model.classes.size) :
    ∃ c, l.target? c = some (.classRef k) ∧ l.marks k = [.done c k, .begun c k] ∧
      x.Prescribes l.registry c (l.model.classInfo k).base (l.model.classInfo k).properties := by
  obtain ⟨c, hc, hmarks⟩ := h.exists_marks (h.mem_built hk)
  have hdone : Mark.done c k ∈ l.marks k := by
    rw [hmarks]
    exact List.mem_cons_self
  have hcomplete := h.reachable.written.complete c k (mem_marks.1 hdone).1
  refine ⟨c, hc, hmarks, ?_⟩
  rw [hcomplete.base]
  -- a class belongs to an element or a complex type, as nothing else is bindable
  rcases h.reachable.inOrder.bindable c _ hc with rfl | hbindable
  · rw [h.reachable.inOrder.anyType] at hc
    cases hc
  · cases hkind : (x.schema.component c).kind with
    | element decl => exact Context.prescribes_element htyped hkind hcomplete.properties
    | complexType type => exact Context.prescribes_complexType htyped hkind hcomplete.properties
    | _ => simp [SchemaSet.isBindable, hkind] at hbindable

/-- Every wrapper has the values of the type that its element carries. -/
theorem exists_content (h : l.Finished x declared) (htyped : x.schema.Typed)
    (hw : w.index < l.model.elements.size) :
    ∃ e type, l.target? e = some (.wrapper w) ∧ x.schema.elementType? e = some type ∧
      (l.model.elementInfo w).content = x.schema.finalType? l.registry type := by
  obtain ⟨e, he⟩ := h.exists_wrapper hw
  have htarget := (he e).2 rfl
  have hnoted := h.reachable.wrapped.bound e w htarget
  have hwrapped := (h.reachable.wrapped.noted e _ hnoted).1
  obtain ⟨type, htype⟩ := SchemaSet.exists_elementType? (SchemaSet.isElement_of_isWrapped hwrapped)
  refine ⟨e, type, htarget, htype, ?_⟩
  -- the wrapper was filled when it was concluded, and its content has settled since
  rw [(h.reachable.filled e w htarget).1, SchemaSet.contentSource, htype]
  exact Context.type_valueSource (htyped.elements e type htype)

end Ledger.Finished

/-! ## Runs -/

namespace Compilation

variable {c : Compilation} {s : State}

/-- When a standard run over a typed set comes to its end, the classes and the wrappers are as the
schema **prescribes**, with the final bindings of all components. -/
theorem prescribed_of_run (hstandard : c.strategy = .standard) (htyped : c.schema.Typed)
    (hrun : c.run = (.ok (), s)) :
    (∀ k ∈ s.model.classIds, ∃ d, s.registry.target? d = some (.classRef k) ∧
      s.ledger.marks k = [.done d k, .begun d k] ∧
      c.context.Prescribes s.registry d (s.model.classInfo k).base
        (s.model.classInfo k).properties) ∧
    ∀ w ∈ s.model.elementIds, ∃ e type, s.registry.target? e = some (.wrapper w) ∧
      c.schema.elementType? e = some type ∧
      (s.model.elementInfo w).content = c.schema.finalType? s.registry type := by
  have hfinished := finished_of_run hstandard hrun
  constructor
  · intro k hk
    exact hfinished.exists_prescribes htyped (Model.mem_classIds.1 hk)
  · intro w hw
    exact hfinished.exists_content htyped (Model.mem_elementIds.1 hw)

/-- The shelf is typed. -/
theorem typed_shelf : shelf.schema.Typed :=
  SchemaSet.typed_of_ids (by decide +kernel) (by decide +kernel) (by decide +kernel)

/-- Every class of the shelf has the base and the properties that the schema prescribes, after a
body that was begun and finished once. -/
theorem prescribed_of_run_shelf :
    shelf.schema.Typed ∧ shelf.run = (.ok (), shelf.run.2) ∧
      (∀ k ∈ shelf.run.2.model.classIds, ∃ d,
        shelf.run.2.registry.target? d = some (.classRef k) ∧
          shelf.run.2.ledger.marks k = [.done d k, .begun d k] ∧
          shelf.context.Prescribes shelf.run.2.registry d (shelf.run.2.model.classInfo k).base
            (shelf.run.2.model.classInfo k).properties) :=
  have hrun : shelf.run = (.ok (), shelf.run.2) := run_of_fst (by decide +kernel)
  ⟨typed_shelf, hrun, (prescribed_of_run rfl typed_shelf hrun).1⟩

end Compilation

end SchemaBinding
