import SchemaBinding.Proofs.Frame.Resolver
import SchemaBinding.Proofs.Standard.Plan

/-! # The frame of the standard strategy
The standard proposals and bodies keep the state when the questions they ask do
(`Strategy.keeping_standard`), so the standard resolver does (`Resolver.keeping_of`). -/

namespace SchemaBinding

namespace Resolver

open Resolving (Keeping runFrom_bind)

variable {r : Resolver} {inner : Option ClassId} {s : State}

/-! ## Questions -/

/-- To ask for the binding of a component keeps the state. -/
theorem keeping_bindToType (hr : r.Keeping) (c : ComponentId) :
    Resolving.Keeping inner (r.bindToType c) :=
  (hr c false).ofQuestion

/-- To ask for the type of an element or attribute keeps the state. -/
theorem keeping_bindSchemaType (hr : r.Keeping) (type : ComponentId) :
    Resolving.Keeping inner (r.bindSchemaType type) := by
  unfold bindSchemaType
  split
  · exact .pure _
  · exact keeping_bindToType hr type
  · exact .pure _

/-- To ask for a complex type keeps the state, be it needed immediately or not. -/
theorem keeping_bindComplexType (hr : r.Keeping) (type : ComponentId) (immediately : Bool) :
    Resolving.Keeping inner (r.bindComplexType type immediately) := by
  unfold bindComplexType
  split
  · exact (hr type immediately).ofQuestion.bind fun _ => .pure _
  · exact .pure _

/-- To ask whether an element is bound keeps the state. -/
theorem keeping_isBound (hr : r.Keeping) (element : ComponentId) :
    Resolving.Keeping inner (r.isBound element) := by
  refine .reading fun s => ?_
  split
  · exact .refl _ s
  · exact keeping_bindToType hr element s

/-! ## Proposals -/

/-- Finding the package and the visibility for a namespace keeps the state. -/
theorem keeping_placement (ns : String) : Resolving.Keeping inner (r.placement ns) := by
  refine .reading fun s => ?_
  split
  · exact (Resolving.Keeping.packageFor _ _).map _ s
  · exact .refl _ s

/-- A class allocated for a component is a new one. -/
theorem keeping_allocateClass (named : ComponentId) :
    Resolving.Keeping inner (r.allocateClass named) :=
  (keeping_placement _).bind fun _ => .newClass _ _

/-- A wrapper allocated for an element is a new one. -/
theorem keeping_allocateWrapper (hr : r.Keeping) (element : ComponentId) :
    Resolving.Keeping none (r.allocateWrapper element) := by
  rw [allocateWrapper_eq]
  refine (keeping_placement _).bind fun scope => ?_
  intro u
  rw [runFrom_bind, runFrom_noteWrapper]
  dsimp only
  -- the wrapper is new from outside, so that its content may still be changed
  have hnoted : u.model.Grows (u.Settled none)
      (u.wrapping (r.schema.component element) element scope).model := .newElement _ _ _ _
  unfold fillWrapper
  cases r.schema.elementType? element with
  | none => exact { State.Keeps.refl none u with model := hnoted }
  | some type =>
    dsimp only
    have hcontent : Resolving.Keeping none (r.bindSchemaType type) := keeping_bindSchemaType hr type
    replace hcontent := hcontent (u.wrapping (r.schema.component element) element scope)
    rw [bind_assoc, runFrom_bind]
    rcases hrun : (r.bindSchemaType type).runFrom
      (u.wrapping (r.schema.component element) element scope) with ⟨_ | content, t⟩
    · rw [hrun] at hcontent
      exact { hcontent with model := hnoted.trans hcontent.model fun _ h => h }
    · rw [hrun] at hcontent
      have hmodel := hnoted.trans hcontent.model fun _ h => h
      exact { hcontent with model := hmodel.modifyElement le_rfl _ }

/-- The proposal for a global element keeps the state. -/
theorem keeping_proposeGlobalElement (hr : r.Keeping) (element : ComponentId) :
    Resolving.Keeping none (r.proposeGlobalElement element) := by
  unfold proposeGlobalElement
  split
  · exact (keeping_allocateClass _).map _
  · exact (keeping_allocateWrapper hr _).map _

/-- The proposal for a complex type keeps the state. -/
theorem keeping_proposeComplexType (hr : r.Keeping) (id : ComponentId) (type : ComplexType) :
    Resolving.Keeping none (r.proposeComplexType id type) := by
  unfold proposeComplexType
  split
  · refine (keeping_isBound hr _).bind fun bound => ?_
    split
    · exact .pure _
    · exact keeping_allocateClass _
  · exact keeping_allocateClass _

/-- The proposal without regard to abstract types keeps the state. -/
theorem keeping_proposePlainly (hr : r.Keeping) (c : ComponentId) :
    Resolving.Keeping none (r.proposePlainly c) := by
  unfold proposePlainly
  dsimp only
  split
  · split
    · exact (keeping_proposeGlobalElement hr c).map _
    · exact (Resolving.Keeping.markUnbound c).bind fun _ => .pure _
  · exact (keeping_proposeComplexType hr c _).map _
  · exact .pure _

/-- The standard proposal keeps the state. -/
theorem keeping_proposeStandard (hr : r.Keeping) (c : ComponentId) :
    Resolving.Keeping none (r.proposeStandard c) := by
  unfold proposeStandard respectingAbstract
  split
  · split
    · exact .pure _
    · exact keeping_proposePlainly hr c
  · refine (keeping_proposePlainly hr c).bind fun proposal => ?_
    split
    · split
      · exact (Resolving.Keeping.makeAbstract _).bind fun _ => .pure _
      · exact .pure _
    · exact .pure _
  · exact keeping_proposePlainly hr c

/-! ## Bodies -/

/-- A property is added to the class whose body is built. -/
theorem keeping_addProperty (k : ClassId) (p : Property) :
    Resolving.Keeping (some k) (addProperty k p) :=
  .modifyClass (fun _ => rfl) fun _ => rfl

/-- Acknowledging a class name keeps the state. -/
theorem keeping_acknowledgeName (c : ComponentId) :
    Resolving.Keeping inner (r.acknowledgeName c) := by
  unfold acknowledgeName
  split
  · exact .acknowledge c
  · exact .pure _

/-- Acknowledging an item keeps the state. -/
theorem keeping_acknowledgeItem (item : Item) :
    Resolving.Keeping inner (r.acknowledgeItem item) := by
  cases item with
  | value type => exact .pure _
  | occurrence particle => exact keeping_acknowledgeName particle.term
  | attr id =>
    show Resolving.Keeping inner (if _ then _ else _)
    split
    · exact keeping_acknowledgeName id
    · exact .pure _

/-- The type of a property is asked for, which keeps the state. -/
theorem keeping_sourceType (hr : r.Keeping) (source : TypeSource) :
    Resolving.Keeping inner (r.sourceType source) := by
  cases source with
  | known type => exact .pure _
  | complexType c => exact keeping_bindToType hr c
  | element c => exact keeping_isBound hr c

/-- The property for an item is added to the class whose body is built. -/
theorem keeping_addItem (hr : r.Keeping) (k : ClassId) (item : Item) :
    Resolving.Keeping (some k) (r.addItem k item) := by
  rw [addItem_eq]
  refine (keeping_sourceType hr _).bind fun type => (keeping_acknowledgeItem item).bind fun _ => ?_
  cases r.toContext.itemProperty? item type with
  | some p => exact keeping_addProperty k p
  | none => exact .pure _

/-- So are the properties for a list of items. -/
theorem keeping_addItems (hr : r.Keeping) (k : ClassId) (c : ComponentId)
    (items : Option (List Item)) : Resolving.Keeping (some k) (r.addItems k c items) := by
  cases items with
  | none => exact .throw _
  | some items => exact .forM fun item _ => keeping_addItem hr k item

/-- The base is set for the class whose body is built. -/
theorem keeping_addBase (hr : r.Keeping) (k : ClassId) (type : ComponentId) :
    Resolving.Keeping (some k) (r.addBase k type) := by
  refine (keeping_bindComplexType hr type true).bind fun base => ?_
  split
  · exact .modifyClass (fun _ => rfl) fun _ => rfl
  · exact .pure _

/-- The derivation of a type is a base for the class whose body is built, or nothing. -/
theorem keeping_addDerivation (hr : r.Keeping) (k : ClassId) (type : ComplexType) :
    Resolving.Keeping (some k) (r.addDerivation k type) := by
  unfold addDerivation
  split
  · exact .pure _
  · split
    · exact .pure _
    · split
      · exact keeping_addItem hr k (.value _)
      · exact keeping_addBase hr k _

/-- The standard body keeps all settled classes but its own. -/
theorem keeping_standardBody (hr : r.Keeping) (c : ComponentId) (k : ClassId) :
    Resolving.Keeping (some k) (r.standardBody c k) := by
  rw [standardBody_eq]
  split
  · exact .pure _
  · exact keeping_addItem hr k (.value _)
  · exact keeping_addBase hr k _
  · rw [addContent_eq]
    exact (keeping_addDerivation hr k _).bind fun _ => keeping_addItems hr k _ _

/-! ## The queue -/

/-- There is nothing to take from an empty queue. -/
theorem runFrom_takeQueued_nil (h : s.queue = []) : takeQueued.runFrom s = (.ok none, s) := by
  unfold takeQueued
  rw [Resolving.runFrom_modifyGet, h]

/-- The queue is taken from at its front. -/
theorem runFrom_takeQueued_cons {b : Binding} {rest : List Binding} (h : s.queue = b :: rest) :
    takeQueued.runFrom s = (.ok (some b), { s with queue := rest }) := by
  unfold takeQueued
  rw [Resolving.runFrom_modifyGet, h]

end Resolver

/-- The **standard** strategy keeps the state. -/
theorem Strategy.keeping_standard : Strategy.standard.Keeping where
  propose _ hr c := Resolver.keeping_proposeStandard hr c
  body _ hr c k := Resolver.keeping_standardBody hr c k

/-- The standard resolver keeps the state. -/
theorem Resolver.keeping_of (context : Context) : (Resolver.of context .standard).Keeping :=
  Resolver.keeping_within context Strategy.keeping_standard _

end SchemaBinding
