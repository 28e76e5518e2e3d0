import SchemaBinding.Proofs.Acknowledging.Basic

/-! # Customizations that a resolver uses
The standard proposals use no customization of a property, and the standard body of a component uses
those of what its items name. So whatever a resolver is asked, the customizations that it uses are
those that the bodies serve which it finishes (`Resolver.uses_within`). -/

namespace SchemaBinding.Resolver

open Resolving (Using runFrom_bind_ok)

variable {set : SchemaSet} {r : Resolver} {c : ComponentId} {k : ClassId} {s t : State}

/-- A resolver **uses** customizations for the bodies only that it finishes. -/
structure Uses (set : SchemaSet) (r : Resolver) : Prop where
  schema : r.schema = set
  keeping : r.Keeping
  answers : ∀ c immediately, Using set [] (r.resolve c immediately)

/-! ## Questions -/

/-- To bind a component uses what the bodies serve that are finished for it. -/
theorem using_bindToType (hr : r.Uses set) (c : ComponentId) : Using set [] (r.bindToType c) :=
  hr.answers c false

/-- To bind the type of a value uses no more than to bind the type itself. -/
theorem using_bindSchemaType (hr : r.Uses set) (type : ComponentId) :
    Using set [] (r.bindSchemaType type) := by
  unfold bindSchemaType
  split
  · exact .pure _
  · exact using_bindToType hr type
  · exact .pure _

/-- To bind a complex type uses no more than to bind it as any component. -/
theorem using_bindComplexType (hr : r.Uses set) (type : ComponentId) (immediately : Bool) :
    Using set [] (r.bindComplexType type immediately) := by
  unfold bindComplexType
  split
  · exact (hr.answers type immediately).nil_bind fun _ => .pure _
  · exact .pure _

/-- To ask whether an element is bound uses no more than to bind it. -/
theorem using_isBound (hr : r.Uses set) (element : ComponentId) :
    Using set [] (r.isBound element) := by
  refine .reading fun s => ?_
  split
  · exact .pure _
  · exact using_bindToType hr element

/-! ## Proposals -/

/-- Where something is placed is decided without any use. -/
theorem using_placement (r : Resolver) (ns : String) : Using set [] (r.placement ns) := by
  refine .reading fun s => ?_
  split
  · exact (Using.packageFor _ ns).map _
  · exact .pure _

/-- A class is allocated without any use. -/
theorem using_allocateClass (r : Resolver) (named : ComponentId) :
    Using set [] (r.allocateClass named) :=
  (using_placement r _).nil_bind fun _ => .allocate _

/-- A wrapper is allocated without any use but for the content that is bound for it. -/
theorem using_allocateWrapper (hr : r.Uses set) (element : ComponentId) :
    Using set [] (r.allocateWrapper element) := by
  have hmark (w : ElementId) : Using set [] (Resolving.markBound element (.wrapper w)) :=
    .modify fun _ => .of_eq rfl rfl rfl
  unfold allocateWrapper
  refine (using_placement r _).nil_bind fun scope => (Using.allocate _).nil_bind fun w =>
    (hmark w).nil_bind fun _ => ?_
  split
  · exact .pure _
  · refine (using_bindSchemaType hr _).nil_bind fun _ => ?_
    exact (Using.changeModel _).nil_bind fun _ => .pure _

/-- A complex type is proposed a class without any use, also when it asks for its element first. -/
theorem using_proposeComplexType (hr : r.Uses set) (c : ComponentId) (type : ComplexType) :
    Using set [] (r.proposeComplexType c type) := by
  unfold proposeComplexType
  split
  · refine (using_isBound hr _).nil_bind fun bound => ?_
    split
    · exact .pure _
    · exact using_allocateClass r _
  · exact using_allocateClass r _

/-- A standard **proposal** uses nothing. -/
theorem using_proposeStandard (hr : r.Uses set) (c : ComponentId) :
    Using set [] (r.proposeStandard c) := by
  cases hkind : (r.schema.component c).kind with
  | complexType type =>
    rw [r.proposeStandard_complexType hkind]
    refine (using_proposeComplexType hr c type).nil_bind fun k => ?_
    unfold settleClass
    split
    · exact (Using.changeModel _).nil_bind fun _ => .pure _
    · exact .pure _
  | element decl =>
    rw [r.proposeStandard_element hkind]
    split
    · exact .pure _
    · split
      · refine Using.map ?_ _
        unfold proposeGlobalElement
        split
        · exact (using_allocateClass r c).map _
        · exact (using_allocateWrapper hr c).map _
      · have hunbound : Using set [] (Resolving.markUnbound c) :=
          .modify fun _ => .of_eq rfl rfl rfl
        exact hunbound.nil_bind fun _ => .pure _
  | _ =>
    rw [r.proposeStandard_other (by simp [Component.isElement, Component.asElement, hkind])
      (by simp [Component.isComplexType, Component.asComplexType, hkind])]
    exact .pure _

/-! ## Bodies -/

/-- A name is used by a customization that gives it. -/
theorem using_acknowledgeName (hr : r.Uses set) (c : ComponentId) :
    Using set [c] (r.acknowledgeName c) := by
  have hschema := hr.schema
  unfold acknowledgeName
  split
  · rename_i hc
    exact .acknowledge (by rwa [hschema] at hc)
  · rename_i hc
    rw [hschema] at hc
    -- a component without a customization is never acknowledged
    rintro s _ _ ⟨⟩
    refine ⟨⟨[], rfl, fun id => ?_⟩, rfl⟩
    have hid (h : id = c) : set.customizesProperty id ≠ true := h ▸ hc
    simp only [List.mem_singleton, List.not_mem_nil, false_and, exists_false, or_false]
    grind

/-- An item that is acknowledged is used in all that it names. -/
theorem using_acknowledgeItem (hr : r.Uses set) (item : Item) :
    Using set (item.named set) (r.acknowledgeItem item) := by
  cases item with
  | value type => exact .pure _
  | occurrence particle => exact using_acknowledgeName hr particle.term
  | attr id =>
    show Using set (if _ then _ else _) (if _ then _ else _)
    rw [hr.schema]
    split
    · exact using_acknowledgeName hr id
    · exact .pure _

/-- An item is added with the use of what it names. -/
theorem using_addItem (hr : r.Uses set) (k : ClassId) (item : Item) :
    Using set (item.named set) (r.addItem k item) := by
  have hsource (source : TypeSource) : Using set [] (r.sourceType source) := by
    cases source with
    | known type => exact .pure _
    | complexType d => exact using_bindToType hr d
    | element d => exact using_isBound hr d
  rw [addItem_eq]
  refine (hsource _).nil_bind fun type => (using_acknowledgeItem hr item).bind_nil fun _ => ?_
  cases r.toContext.itemProperty? item type with
  | some p => exact (Using.changeModel _ : Using set [] (addProperty k p))
  | none => exact .pure _

/-- Items are added with the use of what each of them names. -/
theorem using_addItems (hr : r.Uses set) (k : ClassId) (c : ComponentId)
    (items : Option (List Item)) :
    Using set ((items.getD []).flatMap (Item.named set)) (r.addItems k c items) := by
  cases items with
  | none => exact .throw _
  | some items => exact .forM fun item => using_addItem hr k item

/-- A base is added without any use. -/
theorem using_addBase (hr : r.Uses set) (k : ClassId) (type : ComponentId) :
    Using set [] (r.addBase k type) := by
  refine (using_bindComplexType hr type true).nil_bind fun base => ?_
  split
  · exact .changeModel _
  · exact .pure _

/-- A derivation is added without any use, whichever part of it is called for. -/
theorem using_addDerivation (hr : r.Uses set) (k : ClassId) (type : ComplexType) :
    Using set [] (r.addDerivation k type) := by
  unfold addDerivation
  split
  · exact .pure _
  · split
    · exact .pure _
    · split
      · exact using_addItem hr k (.value _)
      · exact using_addBase hr k _

/-- A standard **body** uses the customizations of everything that its items name. -/
theorem using_standardBody (hr : r.Uses set) (c : ComponentId) (k : ClassId) :
    Using set (set.named c) (r.standardBody c k) := by
  have hschema := hr.schema
  subst hschema
  rw [standardBody_eq]
  cases hbody : r.schema.bodyKind c with
  | empty =>
    simp only [SchemaSet.named, SchemaSet.items?, hbody]
    exact .pure _
  | value type =>
    simp only [SchemaSet.named, SchemaSet.items?, hbody]
    exact using_addItem hr k (.value type)
  | extension type =>
    simp only [SchemaSet.named, SchemaSet.items?, hbody]
    exact using_addBase hr k type
  | content id type =>
    rw [SchemaSet.named_content hbody]
    dsimp only
    rw [addContent_eq]
    exact (using_addDerivation hr k type).nil_bind fun _ => using_addItems hr k id _

/-! ## Building -/

/-- What comes before a body uses nothing. -/
theorem using_prepareBody (r : Resolver) (c : ComponentId) (k : ClassId) :
    Using set [] (prepareBody .standard r c k) := by
  have hkey : Finding.reservedClassNameKey ≠ Finding.unusedCustomizationKey := by decide
  refine .nil_bind ?name fun _ => .nil_bind ?constructor fun _ => ?documentation
  case name =>
    refine .reading fun s => ?_
    dsimp only
    split
    · exact .report hkey
    · exact .pure _
  case constructor =>
    unfold addValueConstructor
    split
    · split
      · exact .changeModel _
      · exact .pure _
    · exact .pure _
  case documentation =>
    refine .reading fun s => ?_
    split
    · split
      · exact .throw _
      · exact .changeModel _
    · exact .pure _

/-- A body that is run to its end has **filled** its class. -/
theorem fills_runBody (hr : r.Uses set) {u : State}
    (hrun : (runBody .standard r c k).runFrom s = (.ok (), u)) : s.Fills set c k u := by
  unfold runBody at hrun
  rw [Resolving.runFrom_get_bind, Resolving.runFrom_record_bind] at hrun
  obtain ⟨_, t, hbody, hdone⟩ := runFrom_bind_ok.1 hrun
  rw [Resolving.runFrom_get_bind] at hdone
  cases hdone
  have hbegun : s.Uses set [] { s with journal := .begun c k s.place :: s.journal } :=
    ⟨⟨[.begun c k], rfl, by simp [Mark.Serves]⟩, rfl⟩
  exact ⟨t, hbegun.trans (using_standardBody hr c k _ _ _ hbody), rfl, rfl, rfl⟩

/-- A body that is **built** to its end is filled. -/
theorem fills_buildBody (hr : r.Uses set) {u : State}
    (hrun : (buildBody .standard r c k).runFrom s = (.ok (), u)) : s.Fills set c k u := by
  rw [buildBody_eq] at hrun
  obtain ⟨_, t, hprepared, hplaced⟩ := runFrom_bind_ok.1 hrun
  rw [runFrom_placeBody hr.keeping Strategy.keeping_standard] at hplaced
  obtain ⟨hran, rfl⟩ := Prod.mk.inj hplaced
  obtain ⟨v, hused, hdone, hacknowledged, hreports⟩ := fills_runBody hr (Prod.ext hran rfl)
  -- the bracket around the body is about scopes and the cursor only
  have hentered : t.Uses set [] ((t.under c k).enclosed (r.innerScope t.model k)) := by
    unfold State.enclosed
    split
    · exact .of_eq rfl rfl rfl
    · exact .of_eq rfl rfl rfl
  have hbegun := (using_prepareBody r c k _ _ _ hprepared).trans hentered
  exact ⟨v, hbegun.trans hused, hdone, hacknowledged, hreports⟩

/-- When a body has been built, it has **served** its component and everything that its items
name. -/
theorem using_buildBinding (hr : r.Uses set) (b : Binding) :
    Using set [] (buildBinding .standard r b) := by
  intro s a v
  refine runFrom_buildBinding_cases .standard r b s (fun _ hrun => ?begun)
    (fun cycle _ hrun => ?cyclic) fun k _ _ _ hrun => ?claimed
  case begun =>
    cases hrun
    exact .refl s
  case cyclic => cases hrun
  case claimed =>
    obtain ⟨_, u, hclosed, hserved⟩ := runFrom_bind_ok.1 hrun
    rw [Resolving.runFrom_closing] at hclosed
    obtain ⟨hbody, rfl⟩ := Prod.mk.inj hclosed
    have hfilled := fills_buildBody hr (Prod.ext hbody rfl)
    have hclaimed : s.Uses set [] (s.claimed b.component k) := .of_eq rfl rfl rfl
    refine hclaimed.trans ?_
    -- the component itself is served as well if it customizes its property
    split at hserved
    · rename_i hc
      rw [hr.schema] at hc
      cases hserved
      refine hfilled.finish rfl (fun id => ?_) rfl
      have hid (h : id = b.component) : set.customizesProperty id = true := h ▸ hc
      exact (List.mem_cons (a := id)).trans (by grind)
    · rename_i hc
      rw [hr.schema] at hc
      cases hserved
      refine hfilled.finish rfl (fun id => ?_) rfl
      have hid (h : id = b.component) : set.customizesProperty id ≠ true := h ▸ hc
      grind

/-! ## Answers -/

/-- A proposal uses nothing, whatever it is about. -/
theorem using_propose (hr : r.Uses set) (c : ComponentId) :
    Using set [] (propose .standard r c) := by
  intro s a t hrun
  by_cases hidle : c ∈ s.proposing.active
  · obtain ⟨path, hfails⟩ := runFrom_propose_active .standard r hidle
    rw [hfails] at hrun
    cases hrun
  · rw [runFrom_propose .standard r hidle] at hrun
    obtain ⟨hproposed, rfl⟩ := Prod.mk.inj hrun
    obtain ⟨hacknowledged, hwarnings⟩ :=
      using_proposeStandard hr c (s.proposal c) a _ (Prod.ext hproposed rfl)
    exact ⟨hacknowledged, hwarnings⟩

/-- A proposal uses nothing either with the path of proposals around it. -/
theorem using_proposeFor (hr : r.Uses set) (c : ComponentId) :
    Using set [] (proposeFor .standard r c) := by
  unfold proposeFor
  split
  · refine (Using.packageFor _ _).nil_bind fun p => ?_
    exact (using_propose hr c).withScope (by simp)
      (keeping_propose hr.keeping Strategy.keeping_standard c)
  · exact using_propose hr c

/-- The binding of a component is found or made without any use. -/
theorem using_bindingFor (hr : r.Uses set) (c : ComponentId) :
    Using set [] (bindingFor .standard r c) := by
  intro s found t hrun
  rw [runFrom_bindingFor] at hrun
  split at hrun
  · cases hrun
    exact .refl s
  · refine ((using_proposeFor hr c).nil_bind fun outcome => ?_) s found t hrun
    cases outcome with
    | none => exact .pure _
    | some target =>
      refine Using.map (fun u b v hqueued => ?_) _
      rw [runFrom_queueBuild] at hqueued
      split at hqueued
      · split at hqueued
        · cases hqueued
          exact .refl u
        · cases hqueued
      · cases hqueued
        exact .of_eq rfl rfl rfl

/-- A component is resolved without any use, whether or not its body is built at once. -/
theorem using_resolveWith (hr : r.Uses set) (c : ComponentId) (immediately : Bool) :
    Using set [] (resolveWith .standard r c immediately) := by
  unfold resolveWith
  refine (using_bindingFor hr c).nil_bind fun found => ?_
  cases found with
  | none => exact .pure _
  | some b =>
    dsimp only
    split
    · refine .reading fun s => ?_
      split
      · exact .throw _
      · exact (using_buildBinding hr b).nil_bind fun _ => .pure _
    · exact .pure _

/-- The **standard** resolver uses customizations for the bodies only that it finishes, at any depth
of questions. -/
theorem uses_within (x : Context) (steps : Nat) : (within x .standard steps).Uses x.schema := by
  induction steps with
  | zero => exact ⟨rfl, keeping_within x Strategy.keeping_standard 0, fun c _ => .throw _⟩
  | succ steps ih =>
    exact ⟨rfl, keeping_within x Strategy.keeping_standard (steps + 1),
      fun c immediately => using_resolveWith ih c immediately⟩

end SchemaBinding.Resolver
