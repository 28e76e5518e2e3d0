import SchemaBinding.Proofs.Running
import SchemaBinding.Proofs.Schema.Kind
import SchemaBinding.Strategy.Standard

/-! # What the standard strategy plans
Which components are bound at all, what a proposal asks about and what a body consists of are read
off a schema set, before anything is run. A **body** is a class to extend and a list of items, each
of which becomes a property; the steps of the standard strategy are restated along this plan. -/

namespace SchemaBinding

/-! ## Bindable components -/

namespace SchemaSet

/-- Whether a component is **bindable**: a complex type, or a global element that is not abstract.
Nothing is generated for any other component. -/
def isBindable (set : SchemaSet) (c : ComponentId) : Bool :=
  match (set.component c).kind with
  | .element decl => (set.component c).isGlobal && !decl.isAbstract
  | .complexType _ => true
  | _ => false

/-- Whether a component is a bindable element that gets a **wrapper** instead of a class. -/
def isWrapped (set : SchemaSet) (c : ComponentId) : Bool :=
  (set.component c).isElement && set.isBindable c &&
    !(Resolver.declaresComplexType set c || (set.component c).custom.className.isSome)

/-- Wrapped elements are bindable. -/
theorem isBindable_of_isWrapped {set : SchemaSet} {c : ComponentId} (h : set.isWrapped c = true) :
    set.isBindable c = true := by
  unfold isWrapped at h
  simp only [Bool.and_eq_true] at h
  exact h.1.2

/-- Wrapped components are elements. -/
theorem isElement_of_isWrapped {set : SchemaSet} {c : ComponentId} (h : set.isWrapped c = true) :
    (set.component c).isElement = true := by
  unfold isWrapped at h
  simp only [Bool.and_eq_true] at h
  exact h.1.1

/-- Every element carries a type. -/
theorem exists_elementType? {set : SchemaSet} {c : ComponentId}
    (h : (set.component c).isElement = true) : ∃ type, set.elementType? c = some type := by
  obtain ⟨decl, hdecl⟩ := Option.isSome_iff_exists.1 h
  exact ⟨_, by rw [elementType?, hdecl]; rfl⟩

/-- Complex types are bindable. -/
theorem isBindable_of_isComplexType {set : SchemaSet} {c : ComponentId}
    (h : (set.component c).isComplexType = true) : set.isBindable c = true := by
  obtain ⟨type, hkind⟩ := Component.isComplexType_iff.1 h
  simp [isBindable, hkind]

/-- Complex types are not wrapped. -/
theorem isWrapped_of_isComplexType {set : SchemaSet} {c : ComponentId}
    (h : (set.component c).isComplexType = true) : set.isWrapped c = false := by
  simp [isWrapped, Component.isElement_of_isComplexType h]

/-- The component that a proposal **asks** about: the complex type of a wrapped element, or the
element that declares an anonymous complex type. -/
def asked? (set : SchemaSet) (c : ComponentId) : Option ComponentId :=
  match (set.component c).kind with
  | .element _ =>
    if set.isWrapped c then
      (set.elementType? c).filter fun type => (set.component type).isComplexType
    else none
  | .complexType type => if (set.component c).name.isNone then type.declaringElement else none
  | _ => none

end SchemaSet

/-! ## Bodies -/

/-- What the body of a component is made of. -/
inductive BodyKind where
  | empty
  /-- The value of a simple type. -/
  | value (type : ComponentId)
  /-- An extension of the class of a complex type that is declared elsewhere. -/
  | extension (type : ComponentId)
  /-- The content of a complex type of the component's own. -/
  | content (id : ComponentId) (type : ComplexType)

/-- An **item** of a body. -/
inductive Item where
  | value (type : ComponentId)
  | occurrence (particle : Particle)
  | attr (id : ComponentId)

namespace SchemaSet

/-- The kind of body that a component has. -/
def bodyKind (set : SchemaSet) (c : ComponentId) : BodyKind :=
  match Resolver.bodyType? set c with
  | none => .empty
  | some id =>
    match (set.component id).kind with
    | .simpleType _ => .value id
    | .complexType type =>
      if id ≠ c && !set.isAnonymousTypeOf id c then .extension id else .content id type
    | _ => .empty

/-- What is extended by an element is a complex type. -/
theorem isComplexType_of_extension {set : SchemaSet} {c type : ComponentId}
    (h : set.bodyKind c = .extension type) : (set.component type).isComplexType = true := by
  unfold bodyKind at h
  cases hid : Resolver.bodyType? set c with
  | none => simp [hid] at h
  | some id =>
    simp only [hid] at h
    cases hkind : (set.component id).kind with
    | complexType t =>
      simp only [hkind] at h
      split at h
      · obtain rfl : id = type := by simpa using h
        exact Component.isComplexType_iff.2 ⟨t, hkind⟩
      · cases h
    | _ => simp [hkind] at h

/-- The complex type that the class for a component **extends**. -/
def extended? (set : SchemaSet) (c : ComponentId) : Option ComponentId :=
  match set.bodyKind c with
  | .extension type => some type
  | .content _ type =>
    type.base.filter fun base => base ≠ anyType && (set.component base).isComplexType
  | _ => none

/-- The items for the base of a complex type: its values, if the base is simple. -/
def baseItems (set : SchemaSet) (type : ComplexType) : List Item :=
  match type.base with
  | some base =>
    if base ≠ anyType && (set.component base).isSimpleType then [.value base] else []
  | none => []

/-- The items for the content of a complex type; none if there is no end to them. -/
def contentItems? (set : SchemaSet) (type : ComplexType) : Option (List Item) :=
  (set.occurrences? type.content).map fun occurrences =>
    occurrences.map .occurrence ++ type.attributes.map .attr

/-- The **items** of the body of a component. -/
def items? (set : SchemaSet) (c : ComponentId) : Option (List Item) :=
  match set.bodyKind c with
  | .value type => some [.value type]
  | .content _ type => (set.contentItems? type).map fun items => set.baseItems type ++ items
  | _ => some []

end SchemaSet

/-! ## Properties -/

/-- Where a type comes from: it is known beforehand, or it is the binding of a component. Elements
are asked for with regard to what was noted about them. -/
inductive TypeSource where
  | known (type : Option TypeRef)
  | complexType (c : ComponentId)
  | element (c : ComponentId)

/-- The type that a source gives when all bindings are known. -/
def TypeSource.type (registry : Registry) : TypeSource → Option TypeRef
  | known type => type
  | complexType c | element c => registry.target? c

/-- The component whose binding a source gives. -/
def TypeSource.component? : TypeSource → Option ComponentId
  | known _ => none
  | complexType c | element c => some c

namespace SchemaSet

/-- The source of the type for the values of a schema type. -/
def valueSource (set : SchemaSet) (type : ComponentId) : TypeSource :=
  match (set.component type).kind with
  | .simpleType _ => .known (some (.leaf (set.leaf type)))
  | .complexType _ => .complexType type
  | _ => .known none

/-- The values of a type are not those of an element. -/
theorem valueSource_ne_element {set : SchemaSet} (type e : ComponentId) :
    set.valueSource type ≠ .element e := by
  unfold valueSource
  cases (set.component type).kind <;> simp

/-- A wrapped element is asked about the complex type of its content. -/
theorem asked?_of_isWrapped {set : SchemaSet} {c type d : ComponentId}
    (h : set.isWrapped c = true) (htype : set.elementType? c = some type)
    (hd : d ∈ (set.valueSource type).component?) : set.asked? c = some d := by
  have hcomplex : (set.component type).isComplexType = true ∧ type = d := by
    unfold valueSource at hd
    cases hkind : (set.component type).kind with
    | complexType t =>
      rw [hkind] at hd
      exact ⟨Component.isComplexType_iff.2 ⟨t, hkind⟩, by simpa [TypeSource.component?] using hd⟩
    | _ =>
      rw [hkind] at hd
      cases hd
  obtain ⟨hcomplex, rfl⟩ := hcomplex
  obtain ⟨decl, hkind⟩ := Component.isElement_iff.1 (isElement_of_isWrapped h)
  simp [asked?, hkind, h, htype, hcomplex]

/-- The source of the type for an occurrence of an element. -/
def elementSource (set : SchemaSet) (element : ComponentId) : TypeSource :=
  if (set.component element).isGlobal then .element element
  else match set.elementType? element with
    | some type => set.valueSource type
    | none => .known none

/-- The source of the type for an attribute. -/
def attributeSource (set : SchemaSet) (decl : AttributeDecl) : TypeSource :=
  match decl.type with
  | some type => set.valueSource type
  | none => .known (some (.leaf .anySimpleType))

/-- The source of the type for an item. -/
def itemSource (set : SchemaSet) : Item → TypeSource
  | .value type => set.valueSource type
  | .occurrence particle => set.elementSource particle.term
  | .attr id =>
    match (set.component id).asAttribute with
    | some decl => set.attributeSource decl
    | none => .known none

end SchemaSet

namespace Context

/-- The name of the property for a declaration. -/
def propertyName (x : Context) (c : ComponentId) : String :=
  ((x.schema.component c).custom.property.bind PropertyCustomization.name).getD
    (x.naming.propertyName (x.schema.component c).nameOrEmpty)

/-- The property for an item, once its type is known. Only attributes become attribute
properties. -/
def itemProperty? (x : Context) (item : Item) (type : Option TypeRef) : Option Property :=
  match item with
  | .value _ => some { name := "value", kind := .value, type }
  | .occurrence particle =>
    some
      { name := x.propertyName particle.term
        kind := if (x.schema.component particle.term).isGlobal then .reference else .element
        type
        repeated := particle.repeated }
  | .attr id =>
    if (x.schema.component id).asAttribute.isSome then
      some { name := x.propertyName id, kind := .attribute, type }
    else none

/-- The property for an item when all bindings are known. -/
def property? (x : Context) (registry : Registry) (item : Item) : Option Property :=
  x.itemProperty? item ((x.schema.itemSource item).type registry)

end Context

/-! ## Proposals restated -/

namespace Resolver

variable (r : Resolver)

/-- Allocates the wrapper of an element in a scope, and notes it. -/
def noteWrapper (element : ComponentId) (scope : Scope) : Resolving ElementId := do
  let info := r.schema.component element
  let wrapper ← Resolving.allocate fun m => m.newElement info.nameOrEmpty info.ns scope
  Resolving.markBound element (.wrapper wrapper)
  return wrapper

/-- Fills in the content of a wrapper: the type of the values of its element. -/
def fillWrapper (element : ComponentId) (wrapper : ElementId) : Resolving Unit :=
  match r.schema.elementType? element with
  | none => pure ()
  | some type => do
    let content ← r.bindSchemaType type
    Resolving.changeModel fun m => m.modifyElement wrapper fun e => { e with content }

/-- A wrapper is **noted** before its content is asked for, and filled afterwards. -/
theorem allocateWrapper_eq (element : ComponentId) :
    r.allocateWrapper element =
      (r.placement (r.schema.component element).ns >>= fun scope =>
        r.noteWrapper element scope >>= fun wrapper =>
          r.fillWrapper element wrapper >>= fun _ => pure wrapper) := by
  unfold allocateWrapper noteWrapper fillWrapper
  simp only [bind_assoc, pure_bind]
  cases r.schema.elementType? element with
  | none => simp only [pure_bind]
  | some type => simp only [bind_assoc]

/-- Makes the class for a complex type abstract, if the type is. -/
def settleClass (type : ComplexType) (k : ClassId) : Resolving (Option TypeRef) := do
  if type.isAbstract then
    Resolving.changeModel fun m => m.modifyClass k fun c => { c with isAbstract := true }
  return some (.classRef k)

/-- The proposal for an element: none if it is abstract, that for a global one, or a mark that it is
not bound. -/
theorem proposeStandard_element {c : ComponentId} {decl : ElementDecl}
    (h : (r.schema.component c).kind = .element decl) :
    r.proposeStandard c =
      if decl.isAbstract then pure none
      else if (r.schema.component c).isGlobal then some <$> r.proposeGlobalElement c
      else Resolving.markUnbound c >>= fun _ => pure none := by
  unfold proposeStandard respectingAbstract proposePlainly
  simp only [h]

/-- A bindable element is **wrapped**, or gets a class of its own. -/
theorem proposeGlobalElement_eq {c : ComponentId}
    (helement : (r.schema.component c).isElement = true)
    (hbindable : r.schema.isBindable c = true) :
    r.proposeGlobalElement c =
      if r.schema.isWrapped c then .wrapper <$> r.allocateWrapper c
      else .classRef <$> r.allocateClass c := by
  unfold proposeGlobalElement SchemaSet.isWrapped
  rw [helement, hbindable]
  cases declaresComplexType r.schema c || (r.schema.component c).custom.className.isSome <;> rfl

/-- The proposal for a complex type: a class, which is made abstract if the type is. -/
theorem proposeStandard_complexType {c : ComponentId} {type : ComplexType}
    (h : (r.schema.component c).kind = .complexType type) :
    r.proposeStandard c = r.proposeComplexType c type >>= settleClass type := by
  unfold proposeStandard respectingAbstract proposePlainly
  simp only [h, map_eq_pure_bind, bind_assoc, pure_bind, Function.comp]
  refine bind_congr fun k => ?_
  unfold settleClass
  split <;> rfl

/-- Nothing is proposed for other components. -/
theorem proposeStandard_other {c : ComponentId}
    (helement : (r.schema.component c).isElement = false)
    (hcomplex : (r.schema.component c).isComplexType = false) :
    r.proposeStandard c = pure none := by
  unfold Component.isElement Component.asElement at helement
  unfold Component.isComplexType Component.asComplexType at hcomplex
  unfold proposeStandard respectingAbstract proposePlainly
  cases h : (r.schema.component c).kind <;> simp [h] at helement hcomplex ⊢

/-- The state in which a wrapper is noted. -/
def State.wrapping (s : State) (info : Component) (element : ComponentId) (scope : Scope) : State :=
  { s with
    model := (s.model.newElement info.nameOrEmpty info.ns scope).2
    elements := (element, some (.wrapper ⟨s.model.elements.size⟩)) :: s.elements }

@[simp] theorem runFrom_noteWrapper (element : ComponentId) (scope : Scope) (s : State) :
    (r.noteWrapper element scope).runFrom s =
      (.ok ⟨s.model.elements.size⟩, s.wrapping (r.schema.component element) element scope) :=
  rfl

/-- A new type goes to the innermost scope, if one is open. -/
theorem runFrom_placement (ns : String) {s : State} (h : s.scopes.current ≠ .root) :
    (r.placement ns).runFrom s = (.ok s.scopes.current, s) := by
  unfold placement
  rw [Resolving.runFrom_get_bind]
  cases hcurrent : s.scopes.current with
  | root => exact absurd hcurrent h
  | _ => rfl

/-- A new type goes to the package of its namespace if no scope is open. -/
theorem runFrom_placement_root (ns : String) {s : State} (h : s.scopes.current = .root) :
    (r.placement ns).runFrom s = (Scope.package <$> r.packageFor ns).runFrom s := by
  unfold placement
  rw [Resolving.runFrom_get_bind, h]

/-! ## Bodies restated -/

variable (k : ClassId)

/-- The type that a source gives, which may have to be asked for. -/
def sourceType : TypeSource → Resolving (Option TypeRef)
  | .known type => pure type
  | .complexType c => r.bindToType c
  | .element c => r.isBound c

/-- Marks the property customization of a component as used, if it has one. -/
def acknowledgeName (c : ComponentId) : Resolving Unit :=
  if (r.schema.component c).custom.property.isSome then Resolving.acknowledge c else pure ()

/-- Marks the customization behind the name of an item as used. -/
def acknowledgeItem : Item → Resolving Unit
  | .value _ => pure ()
  | .occurrence particle => r.acknowledgeName particle.term
  | .attr id =>
    if (r.schema.component id).asAttribute.isSome then r.acknowledgeName id else pure ()

/-- Adds the property for an item. -/
def addItem : Item → Resolving Unit
  | .value type => r.addValue k type
  | .occurrence particle => r.addOccurrence k particle
  | .attr id => r.addAttribute k id

/-- Adds a property, if there is one. -/
def addProperty? : Option Property → Resolving Unit
  | some p => addProperty k p
  | none => pure ()

/-- Adds the properties for items, which a component must have. -/
def addItems (c : ComponentId) : Option (List Item) → Resolving Unit
  | some items => items.forM (r.addItem k)
  | none => throw (.endless c)

/-- Adds what the base of a complex type gives. -/
def addDerivation (type : ComplexType) : Resolving Unit :=
  match type.base with
  | none => pure ()
  | some base =>
    if base = SchemaSet.anyType then pure ()
    else if (r.schema.component base).isSimpleType then r.addValue k base
    else r.addBase k base

/-- The body of a component **by its kind**. -/
theorem standardBody_eq (c : ComponentId) :
    r.standardBody c k =
      match r.schema.bodyKind c with
      | .empty => pure ()
      | .value type => r.addValue k type
      | .extension type => r.addBase k type
      | .content id type => r.addContent k id type := by
  unfold standardBody SchemaSet.bodyKind
  cases bodyType? r.schema c with
  | none => rfl
  | some id =>
    dsimp only
    cases (r.schema.component id).kind with
    | complexType type =>
      dsimp only
      split <;> rfl
    | _ => rfl

/-- The type for the values of a schema type comes from its source. -/
theorem bindSchemaType_eq (type : ComponentId) :
    r.bindSchemaType type = r.sourceType (r.schema.valueSource type) := by
  unfold bindSchemaType SchemaSet.valueSource
  cases (r.schema.component type).kind <;> rfl

/-- A property is named by its declaration once a customized name is acknowledged. -/
theorem propertyName_eq (c : ComponentId) :
    r.propertyName c = (r.acknowledgeName c >>= fun _ => pure (r.toContext.propertyName c)) := by
  unfold propertyName acknowledgeName Context.propertyName
  dsimp only
  cases (r.schema.component c).custom.property with
  | none => rfl
  | some customization => rfl

/-- Every item is added in the **same way**: its type is asked for, its customization is used, and
the property is added to the class. -/
theorem addItem_eq (item : Item) :
    r.addItem k item =
      (r.sourceType (r.schema.itemSource item) >>= fun type =>
        r.acknowledgeItem item >>= fun _ =>
          addProperty? k (r.toContext.itemProperty? item type)) := by
  cases item with
  | value type =>
    show r.addValue k type = _
    unfold addValue
    rw [bindSchemaType_eq]
    rfl
  | occurrence particle =>
    show r.addOccurrence k particle = _
    unfold addOccurrence SchemaSet.itemSource SchemaSet.elementSource
    simp only [propertyName_eq, bindSchemaType_eq, bind_assoc, pure_bind]
    -- a global element is referred to, a local one has its type
    by_cases hglobal : (r.schema.component particle.term).isGlobal
    · simp only [hglobal, if_true, sourceType, acknowledgeItem, Context.itemProperty?,
        addProperty?]
    · simp only [hglobal, Bool.false_eq_true, if_false, acknowledgeItem, Context.itemProperty?,
        addProperty?]
      cases r.schema.elementType? particle.term with
      | some type => rfl
      | none => simp only [sourceType, pure_bind]
  | attr id =>
    show r.addAttribute k id = _
    unfold addAttribute SchemaSet.itemSource SchemaSet.attributeSource
    simp only [propertyName_eq, bindSchemaType_eq, bind_assoc, pure_bind, acknowledgeItem,
      Context.itemProperty?]
    cases (r.schema.component id).asAttribute with
    | none => simp [sourceType, addProperty?]
    | some decl =>
      dsimp only
      cases decl.type with
      | some type => rfl
      | none =>
        simp only [sourceType, pure_bind]
        rfl

/-- The content of a complex type is its derivation, and the properties for its items. -/
theorem addContent_eq (id : ComponentId) (type : ComplexType) :
    r.addContent k id type =
      (r.addDerivation k type >>= fun _ => r.addItems k id (r.schema.contentItems? type)) := by
  unfold addContent addDerivation SchemaSet.contentItems?
  cases r.schema.occurrences? type.content with
  | none =>
    dsimp only
    cases type.base with
    | none => rfl
    | some base =>
      dsimp only
      split
      · rfl
      · split <;> rfl
  | some occurrences =>
    -- items are added one by one, so two lists are added one after the other
    have hitems : r.addItems k id
        (some (occurrences.map Item.occurrence ++ type.attributes.map Item.attr)) =
          (occurrences.forM (r.addOccurrence k) >>= fun _ =>
            type.attributes.forM (r.addAttribute k)) := by
      simp only [addItems, List.forM_eq_forM, List.forM_append, List.forM_map]
      rfl
    rw [Option.map_some, hitems]
    cases type.base with
    | none => rfl
    | some base =>
      dsimp only
      split
      · rfl
      · split <;> rfl

end Resolver

end SchemaBinding
