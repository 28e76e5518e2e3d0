import SchemaBinding.Proofs.Termination.Basic

/-! # Questions that come to an end
A resolver foretells another one when its answers do, wherever the bodies under construction are
stacked. A standard proposal only asks for types that may be built later. A standard body asks for
one type that must be complete, and that is the type which its component extends. So the standard
proposals and bodies foretell each other as well. -/

namespace SchemaBinding.Resolver

open Resolving (Foretells runFrom_get_bind)

variable {r r' : Resolver} {s : State} {c : ComponentId} {k : ClassId}

/-- A resolver **foretells** another one for the same context when its answers do. What is wanted
immediately must be due. -/
structure Foretells (r r' : Resolver) : Prop where
  context : r'.toContext = r.toContext
  keeping : r.Keeping
  answers : ∀ c immediately s, s.Stacked r.schema → (immediately = true → s.Due r.schema c) →
    (r.resolve c immediately).Foretells (r'.resolve c immediately) s

namespace Foretells

/-! ## Questions -/

/-- Questions for bindings are foretold. -/
theorem bindToType (h : r.Foretells r') (hs : s.Stacked r.schema) (c : ComponentId) :
    (r.bindToType c).Foretells (r'.bindToType c) s :=
  h.answers c false s hs (by simp)

/-- The type that a source gives is foretold. -/
theorem sourceType (h : r.Foretells r') (hs : s.Stacked r.schema) (source : TypeSource) :
    (r.sourceType source).Foretells (r'.sourceType source) s := by
  cases source with
  | known type => exact .refl _ s
  | complexType c => exact h.bindToType hs c
  | element e =>
    refine .reading ?_
    split
    · exact .refl _ s
    · exact h.bindToType hs e

/-! ## Proposals -/

/-- Where a new type goes does not depend on any answer. -/
theorem placement (h : r.Foretells r') (ns : String) : r'.placement ns = r.placement ns := by
  unfold Resolver.placement
  rw [h.context]

/-- Classes are allocated the same for the same context. -/
theorem allocateClass (h : r.Foretells r') (named : ComponentId) :
    r'.allocateClass named = r.allocateClass named := by
  unfold Resolver.allocateClass
  simp only [h.placement, h.context]

/-- Wrappers are foretold. -/
theorem allocateWrapper (h : r.Foretells r') (hs : s.Stacked r.schema) (element : ComponentId) :
    (r.allocateWrapper element).Foretells (r'.allocateWrapper element) s := by
  have hnote (scope : Scope) : r'.noteWrapper element scope = r.noteWrapper element scope := by
    unfold noteWrapper
    rw [h.context]
  rw [allocateWrapper_eq, allocateWrapper_eq, h.placement, h.context]
  refine (Resolving.Foretells.refl _ s).bind fun scope t hplaced => ?_
  rw [hnote]
  refine (Resolving.Foretells.refl _ t).bind fun w u hnoted => ?_
  -- neither the note about the wrapper nor what comes before it touches the bodies
  have hkeeps : s.Keeps none t := (keeping_placement _).of_run hplaced
  have hu : u.Stacked r.schema := by
    have ht := hs.keeps hkeeps
    cases hnoted
    exact ⟨ht.nodup, ht.chain, ht.anyType⟩
  refine Resolving.Foretells.bind ?_ fun _ v _ => .refl _ v
  unfold fillWrapper
  rw [h.context]
  split
  · exact .refl _ u
  · rw [bindSchemaType_eq, bindSchemaType_eq, h.context]
    exact (h.sourceType hu _).bind fun content v _ => .refl _ v

/-- Proposals for global elements are foretold. -/
theorem proposeGlobalElement (h : r.Foretells r') (hs : s.Stacked r.schema)
    (element : ComponentId) :
    (r.proposeGlobalElement element).Foretells (r'.proposeGlobalElement element) s := by
  unfold Resolver.proposeGlobalElement
  rw [h.context, h.allocateClass]
  split
  · exact .refl _ s
  · exact (h.allocateWrapper hs element).map _

/-- Proposals for complex types are foretold. -/
theorem proposeComplexType (h : r.Foretells r') (hs : s.Stacked r.schema) (id : ComponentId)
    (type : ComplexType) :
    (r.proposeComplexType id type).Foretells (r'.proposeComplexType id type) s := by
  unfold Resolver.proposeComplexType
  simp only [h.context, h.allocateClass]
  split
  · rename_i element _ _
    exact (h.sourceType hs (.element element)).bind fun bound t _ => .refl _ t
  · exact .refl _ s

/-- A **proposal** asks for nothing that must be complete. -/
theorem proposeStandard (h : r.Foretells r') (hs : s.Stacked r.schema) (c : ComponentId) :
    (r.proposeStandard c).Foretells (r'.proposeStandard c) s := by
  have hcontext := h.context
  cases hkind : (r.schema.component c).kind with
  | element decl =>
    rw [proposeStandard_element r hkind, proposeStandard_element r' (by rw [hcontext, hkind]),
      hcontext]
    split
    · exact .refl _ s
    · split
      · exact (h.proposeGlobalElement hs c).map _
      · exact .refl _ s
  | complexType type =>
    rw [proposeStandard_complexType r hkind,
      proposeStandard_complexType r' (by rw [hcontext, hkind])]
    exact (h.proposeComplexType hs c type).bind fun k t _ => .refl _ t
  | _ =>
    have helement : (r.schema.component c).isElement = false := by
      simp [Component.isElement, Component.asElement, hkind]
    have hcomplex : (r.schema.component c).isComplexType = false := by
      simp [Component.isComplexType, Component.asComplexType, hkind]
    rw [proposeStandard_other r helement hcomplex,
      proposeStandard_other r' (by rw [hcontext, helement]) (by rw [hcontext, hcomplex])]
    exact .refl _ s

/-! ## Bodies -/

/-- Properties for items are foretold. -/
theorem addItem (h : r.Foretells r') (hs : s.Stacked r.schema) (k : ClassId) (item : Item) :
    (r.addItem k item).Foretells (r'.addItem k item) s := by
  rw [addItem_eq, addItem_eq]
  have hacknowledge : r'.acknowledgeItem item = r.acknowledgeItem item := by
    unfold acknowledgeItem acknowledgeName
    rw [h.context]
  rw [hacknowledge, h.context]
  exact (h.sourceType hs _).bind fun type t _ => .refl _ t

/-- Properties for lists of items are foretold. -/
theorem addItems (h : r.Foretells r') (hs : s.Stacked r.schema) (k : ClassId) (c : ComponentId)
    (items : Option (List Item)) : (r.addItems k c items).Foretells (r'.addItems k c items) s := by
  cases items with
  | none => exact .refl _ s
  | some items =>
    refine .forM (P := fun t => t.Stacked r.schema) hs (fun item t ht => h.addItem ht k item) ?_
    intro item t u ht hrun
    exact ht.keeps ((keeping_addItem h.keeping k item).of_run hrun)

/-- What a body extends must be complete. -/
theorem addBase (h : r.Foretells r') (hs : s.Stacked r.schema) (k : ClassId) {b : ComponentId}
    (hdue : s.Due r.schema b) : (r.addBase k b).Foretells (r'.addBase k b) s := by
  refine Resolving.Foretells.bind ?_ fun base t _ => .refl _ t
  unfold Resolver.bindComplexType
  rw [h.context]
  split
  · exact (h.answers b true s hs fun _ => hdue).bind fun type t _ => .refl _ t
  · exact .refl _ s

/-- The latest body is **due** to ask for what it extends. -/
theorem due_of_top {set : SchemaSet} {b : ComponentId} {rest : List ComponentId}
    (htop : s.building.active = c :: rest) (hextended : set.extended? c = some b) :
    s.Due set b := by
  intro a ha
  rw [htop] at ha
  obtain rfl : c = a := by simpa using ha
  exact hextended

/-- A standard **body** asks for what its component extends, and for nothing else that must be
complete. -/
theorem standardBody (h : r.Foretells r') (hs : s.Stacked r.schema) {rest : List ComponentId}
    (htop : s.building.active = c :: rest) (k : ClassId) :
    (r.standardBody c k).Foretells (r'.standardBody c k) s := by
  rw [standardBody_eq, standardBody_eq, h.context]
  cases hkind : r.schema.bodyKind c with
  | empty => exact .refl _ s
  | value type => exact h.addItem hs k (.value type)
  | extension type =>
    have hextended : r.schema.extended? c = some type := by simp [SchemaSet.extended?, hkind]
    exact h.addBase hs k (due_of_top htop hextended)
  | content id type =>
    show (r.addContent k id type).Foretells (r'.addContent k id type) s
    rw [addContent_eq, addContent_eq, h.context]
    refine Resolving.Foretells.bind ?_ fun _ t hrun => ?_
    · unfold addDerivation
      rw [h.context]
      cases hbase : type.base with
      | none => exact .refl _ s
      | some base =>
        dsimp only
        split
        · exact .refl _ s
        · rename_i hany
          split
          · exact h.addItem hs k (.value base)
          · -- only a complex type is asked for, and that is what is extended
            by_cases hcomplex : (r.schema.component base).isComplexType = true
            · have hextended : r.schema.extended? c = some base := by
                simp [SchemaSet.extended?, hkind, hbase, hany, hcomplex]
              exact h.addBase hs k (due_of_top htop hextended)
            · refine .of_eq ?_
              unfold Resolver.addBase Resolver.bindComplexType
              rw [h.context, if_neg hcomplex, if_neg hcomplex]
    · exact h.addItems (hs.keeps ((keeping_addDerivation h.keeping k type).of_run hrun)) k id _

end Foretells

end SchemaBinding.Resolver
