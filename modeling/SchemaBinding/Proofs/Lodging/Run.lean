import SchemaBinding.Proofs.Changes.Run
import SchemaBinding.Proofs.Following.Run
import SchemaBinding.Proofs.Lodging.Basic

/-! # Runs that lodge types
A standard resolver places new types in the innermost scope, which the model hosts, or in the
package that it has just determined. Wrappers are proposed for global elements only, directly in the
package of their namespace. So every state of a run is lodged, whatever the run comes to
(`Compilation.lodged_run`). -/

namespace SchemaBinding

open Resolver (State)
open Resolving (Lodging runFrom_bind runFrom_get_bind)

variable {x : Context} {r : Resolver} {s : State} {c : ComponentId} {k : ClassId}

/-- A resolver **lodges** what it places when its answers do. -/
structure Resolver.Lodges (r : Resolver) : Prop where
  keeping : r.Keeping
  answers : ∀ c immediately, Lodging (r.resolve c immediately)

namespace Resolver.Lodges

/-! ## Questions -/

/-- To ask for the binding of a component lodges. -/
theorem bindToType (h : r.Lodges) (c : ComponentId) : Lodging (r.bindToType c) := h.answers c false

/-- To ask for the type of an element or attribute lodges. -/
theorem bindSchemaType (h : r.Lodges) (type : ComponentId) : Lodging (r.bindSchemaType type) := by
  unfold Resolver.bindSchemaType
  split
  · exact .pure _
  · exact h.bindToType type
  · exact .pure _

/-- To ask for a complex type lodges, be it needed immediately or not. -/
theorem bindComplexType (h : r.Lodges) (type : ComponentId) (immediately : Bool) :
    Lodging (r.bindComplexType type immediately) := by
  unfold Resolver.bindComplexType
  split
  · exact (h.answers type immediately).bind fun _ => .pure _
  · exact .pure _

/-- To ask whether an element is bound lodges. -/
theorem isBound (h : r.Lodges) (element : ComponentId) : Lodging (r.isBound element) := by
  refine .reading fun s hs => ?_
  split
  · exact hs
  · exact h.bindToType element s hs

/-! ## Proposals -/

/-- A class is placed in the innermost scope, or in the package of its namespace. -/
theorem allocateClass (r : Resolver) (named : ComponentId) : Lodging (r.allocateClass named) := by
  intro s hs
  unfold Resolver.allocateClass
  dsimp only
  by_cases hroot : s.scopes.current = .root
  · have hplacement := r.runFrom_placement_root (r.schema.component named).ns hroot
    refine Lodging.bind_from ?_ fun scope t hrun ht => ?_
    · rw [hplacement, Resolving.runFrom_map]
      exact Lodging.packageFor _ _ s hs
    · -- the scope is the package that was just determined
      have hpackage := hs.packageOf r.toContext (r.schema.component named).ns
      rw [hplacement, Resolving.runFrom_map] at hrun
      obtain ⟨hscope, rfl⟩ := Prod.mk.inj hrun
      obtain rfl := Except.ok.inj hscope
      exact Lodging.newClass_from ht _ hpackage.2
  · have hplacement := r.runFrom_placement (r.schema.component named).ns hroot
    refine Lodging.bind_from (by rwa [hplacement]) fun scope t hrun ht => ?_
    rw [hplacement] at hrun
    obtain ⟨hscope, rfl⟩ := Prod.mk.inj hrun
    obtain rfl := Except.ok.inj hscope
    exact Lodging.newClass_from ht _ ht.current

/-- A wrapper is placed **directly in the package** that is open. -/
theorem allocateWrapper (h : r.Lodges) (element : ComponentId) (hs : s.Lodged) {p : PackageId}
    (hpackage : s.scopes.current = .package p) :
    ((r.allocateWrapper element).runFrom s).2.Lodged := by
  have hplacement := r.runFrom_placement (r.schema.component element).ns
    (s := s) (by simp [hpackage])
  have hfill (w : ElementId) : Lodging (r.fillWrapper element w) := by
    unfold Resolver.fillWrapper
    split
    · exact .pure _
    · exact (h.bindSchemaType _).bind fun content => .fillContent w content
  rw [Resolver.allocateWrapper_eq]
  refine Lodging.bind_from (by rwa [hplacement]) fun scope t hrun ht => ?_
  rw [hplacement, hpackage] at hrun
  obtain ⟨hscope, rfl⟩ := Prod.mk.inj hrun
  obtain rfl := Except.ok.inj hscope
  have hp : s.model.Hosts (.package p) := hpackage ▸ hs.current
  refine Lodging.bind_from (Lodging.noteWrapper_from hs r element hp) fun w u _ hu => ?_
  exact ((hfill w).bind fun _ => .pure w) u hu

/-- The class proposed for a complex type is placed in the current scope. -/
theorem proposeComplexType (h : r.Lodges) (c : ComponentId) (type : ComplexType) :
    Lodging (r.proposeComplexType c type) := by
  unfold Resolver.proposeComplexType
  split
  · refine (h.isBound _).bind fun bound => ?_
    split
    · exact .pure _
    · exact allocateClass r _
  · exact allocateClass r c

/-- A **proposal** lodges its type when a global declaration is proposed in a package. -/
theorem proposeStandard (h : r.Lodges) (c : ComponentId) (hs : s.Lodged)
    (hplaced : (r.schema.component c).isGlobalDeclaration = true →
      ∃ p, s.scopes.current = .package p) :
    ((r.proposeStandard c).runFrom s).2.Lodged := by
  cases hkind : (r.schema.component c).kind with
  | complexType type =>
    rw [proposeStandard_complexType r hkind]
    refine ((h.proposeComplexType c type).bind fun k => ?_) s hs
    unfold settleClass
    split
    · exact .bind (.modifyClass k fun _ => rfl) fun _ => .pure _
    · exact .pure _
  | element decl =>
    rw [proposeStandard_element r hkind]
    split
    · exact hs
    · split
      · rename_i hglobal
        obtain ⟨p, hp⟩ := hplaced (by
          have helement := Component.isElement_iff.2 ⟨decl, hkind⟩
          simp [Component.isGlobalDeclaration, hglobal, Component.isGroup_of_isElement helement])
        rw [Resolving.runFrom_map]
        unfold Resolver.proposeGlobalElement
        split
        · exact (allocateClass r c).map _ s hs
        · rw [Resolving.runFrom_map]
          exact h.allocateWrapper c hs hp
      · exact ((Lodging.markUnbound c).bind fun _ => .pure none) s hs
  | _ =>
    have helement : (r.schema.component c).isElement = false := by
      simp [Component.isElement, Component.asElement, hkind]
    have hcomplex : (r.schema.component c).isComplexType = false := by
      simp [Component.isComplexType, Component.asComplexType, hkind]
    rw [proposeStandard_other r helement hcomplex]
    exact hs

/-- The proposal for a component lodges; a global declaration is asked for inside a package. -/
theorem propose (h : r.Lodges) (c : ComponentId) (hs : s.Lodged)
    (hplaced : (r.schema.component c).isGlobalDeclaration = true →
      ∃ p, s.scopes.current = .package p) :
    ((Resolver.propose .standard r c).runFrom s).2.Lodged := by
  by_cases hc : c ∈ s.proposing.active
  · obtain ⟨path, hrun⟩ := runFrom_propose_active .standard r hc
    rw [hrun]
    exact hs
  · rw [runFrom_propose .standard r hc]
    have hinside := h.proposeStandard c (s := s.proposal c) (hs.congr rfl rfl rfl) hplaced
    exact hinside.congr rfl rfl rfl

/-- Inside the package of its namespace, the proposal for any component lodges. -/
theorem proposeFor (h : r.Lodges) (c : ComponentId) :
    Lodging (Resolver.proposeFor .standard r c) := by
  intro s hs
  unfold Resolver.proposeFor
  split
  · have hpackage := hs.packageOf r.toContext (r.schema.component c).ns
    refine Lodging.bind_from hpackage.1 fun p t hrun ht => ?_
    obtain ⟨hp, rfl⟩ := Prod.mk.inj hrun
    obtain rfl := Except.ok.inj hp
    refine Lodging.withScope_from (by simp)
      (keeping_propose h.keeping Strategy.keeping_standard c) ?_
    exact h.propose c (ht.inside hpackage.2) fun _ => ⟨_, rfl⟩
  · rename_i hlocal
    exact h.propose c hs fun hglobal => absurd hglobal hlocal

/-- To register a component places nothing. -/
theorem queueBuild (c : ComponentId) (target : TypeRef) :
    Lodging (Resolving.queueBuild c target) := by
  intro s hs
  rw [runFrom_queueBuild]
  split
  · split <;> exact hs
  · exact hs.congr rfl rfl rfl

/-- The binding for a component lodges. -/
theorem bindingFor (h : r.Lodges) (c : ComponentId) :
    Lodging (Resolver.bindingFor .standard r c) := by
  intro s hs
  rw [runFrom_bindingFor]
  split
  · exact hs
  · refine ((h.proposeFor c).bind fun proposal => ?_) s hs
    cases proposal with
    | none => exact .pure none
    | some target => exact (queueBuild c target).map some

/-! ## Bodies -/

/-- The preparation of a body places nothing. -/
theorem prepareBody (r : Resolver) (c : ComponentId) (k : ClassId) :
    Lodging (Resolver.prepareBody .standard r c k) := by
  refine .bind ?name fun _ => .bind ?constructor fun _ => ?documentation
  case name =>
    refine .reading fun s hs => ?_
    dsimp only
    split
    · exact Lodging.report _ s hs
    · exact hs
  case constructor =>
    unfold addValueConstructor
    split
    · split
      · refine .modifyClass k fun info => ?_
        obtain ⟨constructors, hinfo⟩ := info.addConstructor_eq ["value"]
        rw [hinfo]
      · exact .pure _
    · exact .pure _
  case documentation =>
    refine .reading fun s hs => ?_
    split
    · split
      · exact hs
      · rename_i paragraphs _
        refine Lodging.modifyClass k (fun info => ?_) s hs
        obtain ⟨doc, hinfo⟩ := info.foldl_appendDoc paragraphs
        rw [hinfo]
    · exact hs

/-- Acknowledging an item places nothing. -/
theorem acknowledgeItem (r : Resolver) (item : Item) : Lodging (r.acknowledgeItem item) := by
  have hname (d : ComponentId) : Lodging (r.acknowledgeName d) := by
    unfold acknowledgeName
    split
    · exact .acknowledge d
    · exact .pure _
  cases item with
  | value type => exact .pure _
  | occurrence particle => exact hname particle.term
  | attr id =>
    unfold Resolver.acknowledgeItem
    dsimp only
    split
    · exact hname id
    · exact .pure _

/-- The property for an item lodges if the question for its type does. -/
theorem addItem (h : r.Lodges) (k : ClassId) (item : Item) : Lodging (r.addItem k item) := by
  have hsource (source : TypeSource) : Lodging (r.sourceType source) := by
    cases source with
    | known type => exact .pure _
    | complexType d => exact h.bindToType d
    | element d => exact h.isBound d
  rw [addItem_eq]
  refine (hsource _).bind fun type => (acknowledgeItem r item).bind fun _ => ?_
  cases r.toContext.itemProperty? item type with
  | some p => exact .modifyClass k fun _ => rfl
  | none => exact .pure _

/-- The base of a class lodges if the question for it does. -/
theorem addBase (h : r.Lodges) (k : ClassId) (type : ComponentId) : Lodging (r.addBase k type) := by
  refine (h.bindComplexType type true).bind fun base => ?_
  split
  · exact .modifyClass k fun _ => rfl
  · exact .pure _

/-- The standard body lodges. -/
theorem standardBody (h : r.Lodges) (c : ComponentId) (k : ClassId) :
    Lodging (r.standardBody c k) := by
  have hderivation (type : ComplexType) : Lodging (r.addDerivation k type) := by
    unfold addDerivation
    split
    · exact .pure _
    · split
      · exact .pure _
      · split
        · exact h.addItem k (.value _)
        · exact h.addBase k _
  rw [standardBody_eq]
  split
  · exact .pure _
  · exact h.addItem k (.value _)
  · exact h.addBase k _
  · rw [addContent_eq]
    refine (hderivation _).bind fun _ => ?_
    unfold addItems
    split
    · exact .forM fun item => h.addItem k item
    · exact .throw _

/-- The strategy fills a class without placing it. -/
theorem runBody (h : r.Lodges) (c : ComponentId) (k : ClassId) :
    Lodging (Resolver.runBody .standard r c k) := by
  refine .reading fun s hs => ?_
  refine ((Lodging.record _).bind fun _ => (h.standardBody c k).bind fun _ => ?_) s hs
  exact .reading fun u hu => Lodging.record _ u hu

/-- What is found in a body goes inside the class, or next to it in a scope that is **hosted**. -/
theorem hosts_innerScope (hs : s.Lodged) (r : Resolver) (k : ClassId) :
    s.model.Hosts (r.innerScope s.model k) := by
  unfold innerScope
  cases r.config.localScoping with
  | nested => trivial
  | toplevel =>
    by_cases hk : k.index < s.model.classes.size
    · exact hs.classes k _ (Model.scope?_classRef hk)
    · have hnone : s.model.classInfo k = default := by
        simp [Model.classInfo, Array.getD_eq_getD_getElem?, hk]
      rw [hnone]
      trivial

/-- A body is built inside its class, which the model hosts. -/
theorem placeBody (h : r.Lodges) (c : ComponentId) (k : ClassId) :
    Lodging (Resolver.placeBody .standard r c k) := by
  intro s hs
  have hkeeping := keeping_runBody h.keeping Strategy.keeping_standard c k
  have hunder : (s.under c k).Lodged := hs.congr rfl rfl rfl
  rw [runFrom_placeBody h.keeping Strategy.keeping_standard]
  dsimp only
  unfold State.enclosed
  split
  · have hrun := h.runBody c k _ hunder
    refine (hrun.outside s.scopes ?_).congr rfl rfl rfl
    rw [(hkeeping (s.under c k)).scopes]
    exact fun _ => id
  · have hinside := hunder.inside (hosts_innerScope hs r k)
    have hrun := h.runBody c k _ hinside
    refine (hrun.outside s.scopes ?_).congr rfl rfl rfl
    rw [(hkeeping (Resolving.inside _ _)).scopes, Resolving.pushed_inside]
    exact List.subset_cons_self _ _

/-- Building a binding lodges. -/
theorem buildBinding (h : r.Lodges) (b : Binding) :
    Lodging (Resolver.buildBinding .standard r b) := by
  have hbody (c : ComponentId) (k : ClassId) : Lodging (Resolver.buildBody .standard r c k) := by
    rw [buildBody_eq]
    exact (prepareBody r c k).bind fun _ => h.placeBody c k
  intro s hs
  refine runFrom_buildBinding_cases .standard r b s (fun _ => hs) (fun _ _ => hs)
    fun k _ _ _ => Lodging.bind_from ?_ fun _ t _ ht => ?_
  · rw [Resolving.runFrom_closing]
    have hclaimed : (s.claimed b.component k).Lodged := hs.congr rfl rfl rfl
    exact (hbody b.component k _ hclaimed).congr rfl rfl rfl
  · split
    · exact Lodging.acknowledge _ t ht
    · exact ht

/-! ## Answers -/

/-- An answer of a resolver lodges if those of the resolver inside do. -/
theorem resolveWith (h : r.Lodges) (c : ComponentId) (immediately : Bool) :
    Lodging (Resolver.resolveWith .standard r c immediately) := by
  refine (h.bindingFor c).bind fun found => ?_
  cases found with
  | none => exact .pure none
  | some b =>
    dsimp only
    split
    · refine .reading fun s hs => ?_
      split
      · exact hs
      · exact ((h.buildBinding b).bind fun _ => .pure _) s hs
    · exact .pure _

/-- **Standard resolvers** lodge what they place, at any depth of questions. -/
theorem within (x : Context) (steps : Nat) : (Resolver.within x .standard steps).Lodges := by
  have hkeeping (steps : Nat) : (Resolver.within x .standard steps).Keeping :=
    keeping_within x Strategy.keeping_standard steps
  induction steps with
  | zero => exact ⟨hkeeping 0, fun c _ => .throw (.endless c)⟩
  | succ steps ih => exact ⟨hkeeping _, fun c immediately => ih.resolveWith c immediately⟩

/-- So does the loop that builds what is queued, however often it goes round. -/
theorem drain (x : Context) : Lodging (Resolver.of x .standard).drain := by
  have htake : Lodging takeQueued := by
    intro s hs
    obtain ⟨queue, hqueue⟩ := exists_queue_takeQueued s
    rw [hqueue]
    exact hs.congr rfl rfl rfl
  have hbuild (b : Binding) : Lodging ((Resolver.of x .standard).build b) :=
    (within x (2 * x.schema.size + 1)).buildBinding b
  exact drainWithin_of_steps (P := Lodging) .pure .throw .bind htake hbuild _

end Resolver.Lodges

namespace Compilation

end Compilation

end SchemaBinding
