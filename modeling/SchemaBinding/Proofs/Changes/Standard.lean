import SchemaBinding.Proofs.Changes.Basic
import SchemaBinding.Proofs.Moves.Allocation

/-! # Standard proposals and bodies as changes
Asking a resolver that leads by changes, the standard proposals and bodies lead by changes as well.
What a proposal comes to does not depend on the answers: it is what the component is destined for,
and a wrapper that it gives stays noted while the content of the wrapper is asked for. -/

namespace SchemaBinding.Resolver

open Resolving (Leading Failed runFrom_bind_ok runFrom_map_ok)

variable {set : SchemaSet} {top : Option ComponentId} {r : Resolver} {c : ComponentId} {s t : State}

/-- A resolver **leads** by changes when its answers do. -/
structure Leads (set : SchemaSet) (r : Resolver) : Prop where
  schema : r.schema = set
  keeping : r.Keeping
  answers : ∀ c immediately, Leading set none (r.resolve c immediately)

/-! ## Questions -/

/-- To bind a component leads by changes. -/
theorem leading_bindToType (hr : r.Leads set) (c : ComponentId) :
    Leading set top (r.bindToType c) := (hr.answers c false).ofQuestion

/-- To bind the type of a value leads by changes. -/
theorem leading_bindSchemaType (hr : r.Leads set) (type : ComponentId) :
    Leading set top (r.bindSchemaType type) := by
  unfold bindSchemaType
  split
  · exact .pure _
  · exact leading_bindToType hr type
  · exact .pure _

/-- To bind a complex type leads by changes. -/
theorem leading_bindComplexType (hr : r.Leads set) (type : ComponentId) (immediately : Bool) :
    Leading set top (r.bindComplexType type immediately) := by
  unfold bindComplexType
  split
  · exact (hr.answers type immediately).ofQuestion.bind fun _ => .pure _
  · exact .pure _

/-- To ask whether an element is bound leads by changes. -/
theorem leading_isBound (hr : r.Leads set) (element : ComponentId) :
    Leading set top (r.isBound element) := by
  refine .reading fun s => ?_
  split
  · exact .refl s
  · exact leading_bindToType hr element s

/-! ## Proposals -/

/-- Where something is placed is decided by changes aside. -/
theorem leading_placement (r : Resolver) (ns : String) : Leading set top (r.placement ns) := by
  refine .reading fun s => ?_
  split
  · exact (Leading.packageFor _ ns).map _ s
  · exact .refl s

/-- A class is allocated by changes aside. -/
theorem leading_allocateClass (r : Resolver) (named : ComponentId) :
    Leading set top (r.allocateClass named) :=
  (leading_placement r _).bind fun _ => .allocate _

/-- A complex type is proposed a class by changes. -/
theorem leading_proposeComplexType (hr : r.Leads set) (c : ComponentId) (type : ComplexType) :
    Leading set top (r.proposeComplexType c type) := by
  unfold proposeComplexType
  split
  · refine (leading_isBound hr _).bind fun bound => ?_
    split
    · exact .pure _
    · exact leading_allocateClass r _
  · exact leading_allocateClass r _

/-- The class of a complex type is settled by changes aside. -/
theorem leading_settleClass (type : ComplexType) (k : ClassId) :
    Leading set top (settleClass type k) := by
  unfold settleClass
  split
  · exact (Leading.changeModel _).bind fun _ => .pure _
  · exact .pure _

/-- A wrapper is filled by changes. -/
theorem leading_fillWrapper (hr : r.Leads set) (element : ComponentId) (w : ElementId) :
    Leading set top (r.fillWrapper element w) := by
  unfold fillWrapper
  split
  · exact .pure _
  · exact (leading_bindSchemaType hr _).bind fun _ => .changeModel _

/-- A wrapper is **noted** for the wrapped element that is being proposed. -/
theorem leads_wrapping (info : Component) (scope : Scope) (hwrapped : set.isWrapped c = true)
    (htop : c ∈ s.proposing.active.head?) {failed : Prop} :
    s.Leads set (some c) failed (s.wrapping info c scope) where
  changes := .tail
    (.single (.aside (t := { s with
      model := (s.model.newElement info.nameOrEmpty info.ns scope).2 }) ⟨rfl, rfl, rfl, rfl, rfl⟩))
    (.noted hwrapped htop)
  proposing := rfl
  notes d _ hd := (Ledger.lookup_noted _ c d _).trans (if_neg fun h => hd (by rw [h]))

/-- The wrapper of the element that is being proposed is noted and filled. -/
theorem leads_allocateWrapper (hr : r.Leads set) (hwrapped : set.isWrapped c = true)
    (htop : c ∈ s.proposing.active.head?) :
    s.Leads set (some c) ((r.allocateWrapper c).Failed s) ((r.allocateWrapper c).runFrom s).2 := by
  rw [allocateWrapper_eq]
  refine Leading.bind_from (leading_placement r _ s) fun scope u hplaced => ?_
  refine Leading.bind_from ?_ fun w v _ => ?_
  · have hplaces : s.Keeps none u := (keeping_placement _).of_run hplaced
    exact leads_wrapping _ scope hwrapped (hplaces.proposing ▸ htop)
  · exact ((leading_fillWrapper hr c w).bind fun _ => .pure w) v

/-- The note about a wrapper **stays** while its content is asked for. -/
theorem lookup_of_allocateWrapper (hr : r.Leads set) (hc : c ∈ s.proposing.active) {w : ElementId}
    (hrun : (r.allocateWrapper c).runFrom s = (.ok w, t)) :
    t.elements.lookup c = some (some (.wrapper w)) := by
  rw [allocateWrapper_eq] at hrun
  obtain ⟨scope, u, hplaced, hrun⟩ := runFrom_bind_ok.1 hrun
  obtain ⟨w', v, hnoted, hrun⟩ := runFrom_bind_ok.1 hrun
  obtain ⟨_, t', hfilled, hrun⟩ := runFrom_bind_ok.1 hrun
  cases hrun
  rw [runFrom_noteWrapper] at hnoted
  cases hnoted
  have hplaces : s.Keeps none u := (keeping_placement _).of_run hplaced
  have hfills : (u.wrapping _ c scope).Leads set none False t :=
    (leading_fillWrapper hr c _).of_ok hfilled
  rw [hfills.notes c (hplaces.proposing ▸ hc) (by simp)]
  exact (Ledger.lookup_noted _ c c _).trans (if_pos rfl)

/-- The **outcomes** of a proposal, by what the schema set says about the component. -/
inductive Outcome (r : Resolver) (c : ComponentId) (s : State) : Option TypeRef → State → Prop
  | declined {t : State} (unbindable : r.schema.isBindable c = false) : Outcome r c s none t
  | fresh {k : ClassId} {t : State} (bindable : r.schema.isBindable c = true)
      (plain : r.schema.isWrapped c = false) : Outcome r c s (some (.classRef k)) t
  | wrapped {w : ElementId} {t : State} (wrapped : r.schema.isWrapped c = true)
      (allocated : (r.allocateWrapper c).runFrom s = (.ok w, t)) :
      Outcome r c s (some (.wrapper w)) t

/-- A global element that is not abstract gets a wrapper, unless it gets a class of its own. -/
theorem outcome_of_proposeGlobalElement (helement : (r.schema.component c).isElement = true)
    (hbindable : r.schema.isBindable c = true) {target : TypeRef}
    (hrun : (r.proposeGlobalElement c).runFrom s = (.ok target, t)) :
    Outcome r c s (some target) t := by
  rw [r.proposeGlobalElement_eq helement hbindable] at hrun
  cases hwrapped : r.schema.isWrapped c with
  | true =>
    rw [hwrapped] at hrun
    obtain ⟨w, hallocated, rfl⟩ := runFrom_map_ok.1 hrun
    exact .wrapped hwrapped hallocated
  | false =>
    rw [hwrapped] at hrun
    obtain ⟨k, -, rfl⟩ := runFrom_map_ok.1 hrun
    exact .fresh hbindable hwrapped

/-- Whatever a standard proposal asks, it comes to one of the **outcomes**. -/
theorem outcome_of_proposeStandard {a : Option TypeRef}
    (hrun : (r.proposeStandard c).runFrom s = (.ok a, t)) : Outcome r c s a t := by
  cases hkind : (r.schema.component c).kind with
  | complexType type =>
    have hcomplex := Component.isComplexType_iff.2 ⟨type, hkind⟩
    rw [r.proposeStandard_complexType hkind] at hrun
    obtain ⟨k, u, -, hsettled⟩ := runFrom_bind_ok.1 hrun
    -- the class is proposed whether or not it becomes abstract
    obtain rfl : a = some (.classRef k) := by
      unfold settleClass at hsettled
      split at hsettled
      · obtain ⟨_, v, -, hv⟩ := runFrom_bind_ok.1 hsettled
        cases hv
        rfl
      · cases hsettled
        rfl
    exact .fresh (SchemaSet.isBindable_of_isComplexType hcomplex)
      (SchemaSet.isWrapped_of_isComplexType hcomplex)
  | element decl =>
    have helement := Component.isElement_iff.2 ⟨decl, hkind⟩
    rw [r.proposeStandard_element hkind] at hrun
    split at hrun
    · rename_i habstract
      cases hrun
      exact .declined (by simp [SchemaSet.isBindable, hkind, habstract])
    · rename_i hconcrete
      split at hrun
      · rename_i hglobal
        obtain ⟨target, hproposed, rfl⟩ := runFrom_map_ok.1 hrun
        refine outcome_of_proposeGlobalElement helement ?_ hproposed
        simp [SchemaSet.isBindable, hkind, hglobal, hconcrete]
      · rename_i hlocal
        obtain ⟨_, u, -, hu⟩ := runFrom_bind_ok.1 hrun
        cases hu
        exact .declined (by simp [SchemaSet.isBindable, hkind, hlocal])
  | _ =>
    rw [r.proposeStandard_other (by simp [Component.isElement, Component.asElement, hkind])
      (by simp [Component.isComplexType, Component.asComplexType, hkind])] at hrun
    cases hrun
    exact .declined (by simp [SchemaSet.isBindable, hkind])

/-- A component gets what it is **destined** for. -/
theorem Outcome.destined {a : Option TypeRef} (h : Outcome r c s a t) : r.schema.Destined c a := by
  cases h with
  | declined unbindable => exact unbindable
  | fresh bindable plain => exact ⟨bindable, plain⟩
  | wrapped wrapped _ => exact ⟨SchemaSet.isBindable_of_isWrapped wrapped, wrapped⟩

/-- A **standard** proposal leads by changes, and may note something about its component only. -/
theorem leads_proposeStandard (hr : r.Leads set) (htop : c ∈ s.proposing.active.head?) :
    s.Leads set (some c) ((r.proposeStandard c).Failed s) ((r.proposeStandard c).runFrom s).2 := by
  have hset := hr.schema
  cases hkind : (r.schema.component c).kind with
  | complexType type =>
    rw [r.proposeStandard_complexType hkind]
    exact ((leading_proposeComplexType hr c type).bind fun k => leading_settleClass type k) s
  | element decl =>
    have helement := Component.isElement_iff.2 ⟨decl, hkind⟩
    rw [r.proposeStandard_element hkind]
    split
    · exact .refl s
    · rename_i hconcrete
      split
      · rename_i hglobal
        rw [map_eq_pure_bind]
        refine Leading.bind_from ?_ fun target u _ => .refl u
        have hbindable : r.schema.isBindable c = true := by
          simp [SchemaSet.isBindable, hkind, hglobal, hconcrete]
        rw [r.proposeGlobalElement_eq helement hbindable]
        cases hwrapped : r.schema.isWrapped c with
        | true =>
          rw [if_pos rfl, map_eq_pure_bind]
          exact Leading.bind_from (leads_allocateWrapper hr (hset ▸ hwrapped) htop)
            fun w u _ => .refl u
        | false => exact (leading_allocateClass r c).map _ s
      · rename_i hlocal
        refine Leading.bind_from ?_ fun _ u _ => .refl u
        rw [hset] at helement hlocal
        exact
          { changes := .single (.unbound helement (by simpa using hlocal) htop)
            proposing := rfl
            notes := fun d _ hd =>
              (Ledger.lookup_noted _ c d _).trans (if_neg fun h => hd (by rw [h])) }
  | _ =>
    rw [r.proposeStandard_other (by simp [Component.isElement, Component.asElement, hkind])
      (by simp [Component.isComplexType, Component.asComplexType, hkind])]
    exact .refl s

/-! ## Bodies -/

/-- An item is acknowledged by changes aside. -/
theorem leading_acknowledgeItem (r : Resolver) (item : Item) :
    Leading set top (r.acknowledgeItem item) := by
  have hname (d : ComponentId) : Leading set top (r.acknowledgeName d) := by
    unfold acknowledgeName
    split
    · exact .acknowledge d
    · exact .pure _
  cases item with
  | value type => exact .pure _
  | occurrence particle => exact hname particle.term
  | attr id =>
    show Leading set top (if _ then _ else _)
    split
    · exact hname id
    · exact .pure _

/-- An item is added by changes. -/
theorem leading_addItem (hr : r.Leads set) (k : ClassId) (item : Item) :
    Leading set top (r.addItem k item) := by
  have hsource (source : TypeSource) : Leading set top (r.sourceType source) := by
    cases source with
    | known type => exact .pure _
    | complexType d => exact leading_bindToType hr d
    | element d => exact leading_isBound hr d
  rw [addItem_eq]
  refine (hsource _).bind fun type => (leading_acknowledgeItem r item).bind fun _ => ?_
  cases r.toContext.itemProperty? item type with
  | some p => exact .changeModel _
  | none => exact .pure _

/-- A base is added by changes. -/
theorem leading_addBase (hr : r.Leads set) (k : ClassId) (type : ComponentId) :
    Leading set top (r.addBase k type) := by
  refine (leading_bindComplexType hr type true).bind fun base => ?_
  split
  · exact .changeModel _
  · exact .pure _

/-- A derivation is added by changes. -/
theorem leading_addDerivation (hr : r.Leads set) (k : ClassId) (type : ComplexType) :
    Leading set top (r.addDerivation k type) := by
  unfold addDerivation
  split
  · exact .pure _
  · split
    · exact .pure _
    · split
      · exact leading_addItem hr k (.value _)
      · exact leading_addBase hr k _

/-- A **standard** body leads by changes. -/
theorem leading_standardBody (hr : r.Leads set) (c : ComponentId) (k : ClassId) :
    Leading set top (r.standardBody c k) := by
  rw [standardBody_eq]
  split
  · exact .pure _
  · exact leading_addItem hr k (.value _)
  · exact leading_addBase hr k _
  · rw [addContent_eq]
    refine (leading_addDerivation hr k _).bind fun _ => ?_
    unfold addItems
    split
    · exact .forM fun item => leading_addItem hr k item
    · exact .throw _

end SchemaBinding.Resolver
