import SchemaBinding.Proofs.Simulation.Basic

/-! # Resolvers that simulate each other
Two standard resolvers stand on common grounds for a simulation when they are about the same schema
set, name things alike, and run alike in what their contexts decide: packages, reserved names,
documentation and scopes. Then they run alike in all that they do, at any depth of questions
(`Simulation.Matches.within`). -/

namespace SchemaBinding

open Resolver (State)
open Resolving (runFrom_set_bind)

/-- The common **grounds** of two resolvers: how their contexts are related. -/
structure Simulation.Grounds (S : Simulation) (r r' : Resolver) : Prop where
  schema : r'.schema = r.schema
  naming : r'.naming = r.naming
  packageFor : ∀ ns, S.Simulates (r.packageFor ns) (r'.packageFor ns)
  innerScope : ∀ k {s t : State}, S.Rel s t → r'.innerScope t.model k = r.innerScope s.model k
  checkClassName : ∀ c k, S.Simulates (r.checkClassName c k) (r'.checkClassName c k)
  documentClass : ∀ c k, S.Simulates (Resolver.documentClass .standard r c k)
    (Resolver.documentClass .standard r' c k)

/-- Resolvers are **related** by a simulation when their answers are, on common grounds. -/
structure Simulation.Relates (S : Simulation) (r r' : Resolver) : Prop extends S.Grounds r r' where
  keeping : r.Keeping
  keeping' : r'.Keeping
  answers : ∀ c immediately, S.Simulates (r.resolve c immediately) (r'.resolve c immediately)

namespace Simulation

variable {S : Simulation} {r r' : Resolver} {s t : State}

namespace Relates

/-! ## Questions -/

/-- Questions for the binding of a component are simulated. -/
theorem bindToType (h : S.Relates r r') (c : ComponentId) :
    S.Simulates (r.bindToType c) (r'.bindToType c) := h.answers c false

/-- Questions for the type of an occurrence are simulated. -/
theorem bindElement (h : S.Relates r r') (element : ComponentId) :
    S.Simulates (r.bindElement element) (r'.bindElement element) := by
  unfold Resolver.bindElement
  rw [h.schema]
  split
  · exact h.bindToType element
  · exact .pure _

/-- Questions for the type of an element or attribute are simulated. -/
theorem bindSchemaType (h : S.Relates r r') (type : ComponentId) :
    S.Simulates (r.bindSchemaType type) (r'.bindSchemaType type) := by
  unfold Resolver.bindSchemaType
  rw [h.schema]
  split
  · exact .pure _
  · exact h.bindToType type
  · exact .pure _

/-- Questions for a complex type are simulated, be it needed immediately or not. -/
theorem bindComplexType (h : S.Relates r r') (type : ComponentId) (immediately : Bool) :
    S.Simulates (r.bindComplexType type immediately) (r'.bindComplexType type immediately) := by
  unfold Resolver.bindComplexType
  rw [h.schema]
  split
  · exact (h.answers type immediately).bind fun _ => .pure _
  · exact .pure _

/-- Questions whether an element is bound are simulated. -/
theorem isBound (h : S.Relates r r') (element : ComponentId) :
    S.Simulates (r.isBound element) (r'.isBound element) := by
  refine .reading fun s t hst => ?_
  rw [(S.abreast hst).elements]
  split
  · exact S.pure _ hst
  · exact h.bindToType element s t hst

/-! ## Proposals -/

/-- Packages are found alike on common grounds. -/
theorem placement (h : S.Relates r r') (ns : String) :
    S.Simulates (r.placement ns) (r'.placement ns) := by
  refine .reading fun s t hst => ?_
  rw [(S.abreast hst).scopes]
  split
  · exact (h.packageFor ns).map _ s t hst
  · exact S.pure _ hst

/-- Classes are allocated alike. -/
theorem allocateClass (h : S.Relates r r') (named : ComponentId) :
    S.Simulates (r.allocateClass named) (r'.allocateClass named) := by
  unfold Resolver.allocateClass
  dsimp only
  rw [h.schema, h.naming]
  exact (h.placement _).bind fun scope _ _ hst => S.newClass _ scope hst

/-- Wrappers are allocated alike. -/
theorem allocateWrapper (h : S.Relates r r') (element : ComponentId) :
    S.Simulates (r.allocateWrapper element) (r'.allocateWrapper element) := by
  unfold Resolver.allocateWrapper
  dsimp only
  rw [h.schema]
  refine (h.placement _).bind fun scope => .bind (fun _ _ hst => S.newElement _ _ scope hst) ?_
  intro w
  refine (Simulates.markBound element _).bind fun _ => ?_
  split
  · exact .pure w
  · refine (h.bindSchemaType _).bind fun _ => .bind (fun _ _ hst => ?_) fun _ => .pure w
    exact S.modifyElement w _ hst

/-- Proposals for complex types are simulated. -/
theorem proposeComplexType (h : S.Relates r r') (c : ComponentId) (type : ComplexType) :
    S.Simulates (r.proposeComplexType c type) (r'.proposeComplexType c type) := by
  unfold Resolver.proposeComplexType
  rw [h.schema]
  split
  · refine (h.isBound _).bind fun bound => ?_
    split
    · exact .pure _
    · exact h.allocateClass _
  · exact h.allocateClass c

/-- Proposals for global elements are simulated. -/
theorem proposeGlobalElement (h : S.Relates r r') (element : ComponentId) :
    S.Simulates (r.proposeGlobalElement element) (r'.proposeGlobalElement element) := by
  unfold Resolver.proposeGlobalElement
  rw [h.schema]
  split
  · exact (h.allocateClass element).map _
  · exact (h.allocateWrapper element).map _

/-- So are all standard proposals. -/
theorem proposeStandard (h : S.Relates r r') (c : ComponentId) :
    S.Simulates (r.proposeStandard c) (r'.proposeStandard c) := by
  cases hkind : (r.schema.component c).kind with
  | complexType type =>
    rw [r.proposeStandard_complexType hkind, r'.proposeStandard_complexType (h.schema ▸ hkind)]
    refine (h.proposeComplexType c type).bind fun k => ?_
    unfold Resolver.settleClass
    split
    · exact Simulates.bind (fun _ _ hst => S.modifyClass k (fun _ => rfl) hst) fun _ => .pure _
    · exact .pure _
  | element decl =>
    rw [r.proposeStandard_element hkind, r'.proposeStandard_element (h.schema ▸ hkind), h.schema]
    split
    · exact .pure _
    · split
      · exact (h.proposeGlobalElement c).map _
      · exact (Simulates.markUnbound c).bind fun _ => .pure _
  | _ =>
    have helement : (r.schema.component c).isElement = false := by
      simp [Component.isElement, Component.asElement, hkind]
    have hcomplex : (r.schema.component c).isComplexType = false := by
      simp [Component.isComplexType, Component.asComplexType, hkind]
    rw [r.proposeStandard_other helement hcomplex,
      r'.proposeStandard_other (h.schema ▸ helement) (h.schema ▸ hcomplex)]
    exact .pure _

/-! ## Bodies -/

/-- Items are acknowledged alike. -/
theorem acknowledgeItem (h : S.Relates r r') (item : Item) :
    S.Simulates (r.acknowledgeItem item) (r'.acknowledgeItem item) := by
  have hname (d : ComponentId) : S.Simulates (r.acknowledgeName d) (r'.acknowledgeName d) := by
    unfold Resolver.acknowledgeName
    rw [h.schema]
    split
    · exact .acknowledge d
    · exact .pure _
  cases item with
  | value type => exact .pure _
  | occurrence particle => exact hname particle.term
  | attr id =>
    unfold Resolver.acknowledgeItem
    rw [h.schema]
    dsimp only
    split
    · exact hname id
    · exact .pure _

/-- Properties for items are simulated. -/
theorem addItem (h : S.Relates r r') (k : ClassId) (item : Item) :
    S.Simulates (r.addItem k item) (r'.addItem k item) := by
  have hsource (source : TypeSource) :
      S.Simulates (r.sourceType source) (r'.sourceType source) := by
    cases source with
    | known type => exact .pure _
    | complexType d => exact h.bindToType d
    | element d => exact h.isBound d
  have hproperty (type : Option TypeRef) :
      r'.toContext.itemProperty? item type = r.toContext.itemProperty? item type := by
    unfold Context.itemProperty? Context.propertyName
    rw [h.schema, h.naming]
  rw [Resolver.addItem_eq, Resolver.addItem_eq, h.schema]
  refine (hsource _).bind fun type => (h.acknowledgeItem item).bind fun _ => ?_
  rw [hproperty]
  cases r.toContext.itemProperty? item type with
  | some p => exact fun _ _ hst => S.modifyClass k (fun _ => rfl) hst
  | none => exact .pure _

/-- Bases are simulated. -/
theorem addBase (h : S.Relates r r') (k : ClassId) (type : ComponentId) :
    S.Simulates (r.addBase k type) (r'.addBase k type) := by
  refine (h.bindComplexType type true).bind fun base => ?_
  split
  · exact fun _ _ hst => S.modifyClass k (fun _ => rfl) hst
  · exact .pure _

/-- What derivations give is simulated. -/
theorem addDerivation (h : S.Relates r r') (k : ClassId) (type : ComplexType) :
    S.Simulates (r.addDerivation k type) (r'.addDerivation k type) := by
  unfold Resolver.addDerivation
  rw [h.schema]
  split
  · exact .pure _
  · split
    · exact .pure _
    · split
      · exact h.addItem k (.value _)
      · exact h.addBase k _

/-- Standard bodies are simulated. -/
theorem standardBody (h : S.Relates r r') (c : ComponentId) (k : ClassId) :
    S.Simulates (r.standardBody c k) (r'.standardBody c k) := by
  rw [Resolver.standardBody_eq, Resolver.standardBody_eq, h.schema]
  split
  · exact .pure _
  · exact h.addItem k (.value _)
  · exact h.addBase k _
  · rw [Resolver.addContent_eq, Resolver.addContent_eq, h.schema]
    refine (h.addDerivation k _).bind fun _ => ?_
    unfold Resolver.addItems
    split
    · exact .forM fun item => h.addItem k item
    · exact .throw _

/-! ## Building -/

/-- Bodies are prepared alike. -/
theorem prepareBody (h : S.Relates r r') (c : ComponentId) (k : ClassId) :
    S.Simulates (Resolver.prepareBody .standard r c k)
      (Resolver.prepareBody .standard r' c k) := by
  refine (h.checkClassName c k).bind fun _ => .bind ?constructor fun _ => h.documentClass c k
  unfold Resolver.addValueConstructor
  rw [h.schema]
  split
  · split
    · exact fun _ _ hst => S.modifyClass k (.addConstructor ["value"]) hst
    · exact .pure _
  · exact .pure _

/-- Classes are filled alike. -/
theorem runBody (h : S.Relates r r') (c : ComponentId) (k : ClassId) :
    S.Simulates (Resolver.runBody .standard r c k) (Resolver.runBody .standard r' c k) := by
  refine .reading fun s t hst => ?_
  rw [(S.abreast hst).place]
  refine ((Simulates.record _).bind fun _ => (h.standardBody c k).bind fun _ => ?_) s t hst
  refine .reading fun u v huv => ?_
  rw [(S.abreast huv).place]
  exact Simulates.record _ u v huv

/-- Bodies are built alike at their cursors. -/
theorem placeBody (h : S.Relates r r') (c : ComponentId) (k : ClassId) :
    S.Simulates (Resolver.placeBody .standard r c k) (Resolver.placeBody .standard r' c k) := by
  refine .reading fun s t hst => ?_
  have hbody := h.runBody c k
  dsimp only
  rw [h.innerScope k hst, (S.abreast hst).cursor]
  refine Simulates.entering (.closing ?_ fun _ _ _ _ _ => rfl) hst (f := fun s => s.under c k)
    (fun _ _ _ _ _ => rfl) (runFrom_set_bind _ _ _) (runFrom_set_bind _ _ _)
  split
  · exact hbody
  · rename_i hscope
    exact hbody.withScope hscope
      (Resolver.keeping_runBody h.keeping Strategy.keeping_standard c k)
      (Resolver.keeping_runBody h.keeping' Strategy.keeping_standard c k)

/-- Bindings off the queue are built alike. -/
theorem buildBinding (h : S.Relates r r') (b : Binding) :
    S.Simulates (Resolver.buildBinding .standard r b) (Resolver.buildBinding .standard r' b) := by
  have hbody (c : ComponentId) (k : ClassId) : S.Simulates (Resolver.buildBody .standard r c k)
      (Resolver.buildBody .standard r' c k) := by
    rw [Resolver.buildBody_eq, Resolver.buildBody_eq]
    exact (h.prepareBody c k).bind fun _ => h.placeBody c k
  intro s t hst
  -- whether the body is built now, was built before or contains itself is decided by both alike
  have hstep := Resolver.runFrom_buildBinding .standard r b s
  have hother := Resolver.runFrom_buildBinding .standard r' b t
  rw [(S.abreast hst).built, (S.abreast hst).building, h.schema] at hother
  cases hclass : b.classId? with
  | none =>
    rw [hclass] at hstep hother
    exact congr (S.pure () hst) hstep hother
  | some k =>
    rw [hclass] at hstep hother
    dsimp only at hstep hother
    by_cases hk : k ∈ s.built
    · rw [if_pos hk] at hstep hother
      exact congr (S.pure () hst) hstep hother
    · rw [if_neg hk] at hstep hother
      cases henter : s.building.enter b.component with
      | error cycle =>
        rw [henter] at hstep hother
        exact congr (S.throw _ hst) hstep hother
      | ok d =>
        rw [henter] at hstep hother
        refine Simulates.entering (.bind ?_ fun _ => ?_) hst
          (f := fun s => s.claimed b.component k) (fun _ _ _ _ _ => rfl) hstep hother
        · exact (hbody b.component k).closing fun _ _ _ _ _ => rfl
        · split
          · exact .acknowledge _
          · exact .pure _

/-! ## Answers -/

/-- Proposals are simulated, abstract types included. -/
theorem propose (h : S.Relates r r') (c : ComponentId) :
    S.Simulates (Resolver.propose .standard r c) (Resolver.propose .standard r' c) := by
  refine .reading fun s t hst => ?_
  have hscope : t.scopes.current = s.scopes.current := by rw [(S.abreast hst).scopes]
  rw [(S.abreast hst).proposing, hscope]
  split
  · exact S.throw _ hst
  · rename_i proposing _
    refine Simulates.entering ((Simulates.record _).bind fun _ => ?_) hst
      (f := fun s => { s with proposing }) (fun _ _ _ _ _ => rfl) (runFrom_set_bind _ _ _)
      (runFrom_set_bind _ _ _)
    exact (h.proposeStandard c).closing fun _ _ _ _ _ => rfl

end Relates

/-- Bodies are queued alike. -/
theorem queueBuild (c : ComponentId) (target : TypeRef) :
    S.Simulates (Resolving.queueBuild c target) (Resolving.queueBuild c target) := by
  intro s t hst
  have hstep := Resolver.runFrom_queueBuild c target s
  have hother := Resolver.runFrom_queueBuild c target t
  rw [(S.abreast hst).registry, (S.abreast hst).queue] at hother
  cases hbound : s.registry.target? c with
  | some existing =>
    rw [hbound] at hstep hother
    dsimp only at hstep hother
    -- two targets for one component contradict each other in both runs
    by_cases hsame : existing = target
    · rw [if_pos hsame] at hstep hother
      exact congr (S.pure _ hst) hstep hother
    · rw [if_neg hsame] at hstep hother
      exact congr (S.throw _ hst) hstep hother
  | none =>
    rw [hbound] at hstep hother
    exact (Simulates.pure _).entering hst
      (f := fun u => { u with registry := _, queue := _ }) (fun _ _ _ _ _ => rfl) hstep hother

/-- The same binding is taken off the queue. -/
theorem takeQueued : S.Simulates Resolver.takeQueued Resolver.takeQueued := by
  intro s t hst
  have hqueue' := (S.abreast hst).queue
  cases hqueue : s.queue with
  | nil =>
    exact congr (S.pure none hst) (Resolver.runFrom_takeQueued_nil hqueue)
      (Resolver.runFrom_takeQueued_nil (hqueue'.trans hqueue))
  | cons b rest =>
    exact (Simulates.pure (some b)).entering hst (f := fun u => { u with queue := rest })
      (fun _ _ _ _ _ => rfl) (Resolver.runFrom_takeQueued_cons hqueue)
      (Resolver.runFrom_takeQueued_cons (hqueue'.trans hqueue))

namespace Relates

/-- Bindings are simulated. -/
theorem bindingFor (h : S.Relates r r') (c : ComponentId) :
    S.Simulates (Resolver.bindingFor .standard r c) (Resolver.bindingFor .standard r' c) := by
  have hproposal : S.Simulates (Resolver.proposeFor .standard r c)
      (Resolver.proposeFor .standard r' c) := by
    unfold Resolver.proposeFor
    rw [h.schema]
    split
    · refine (h.packageFor _).bind fun p => ?_
      exact (h.propose c).withScope (by simp)
        (Resolver.keeping_propose h.keeping Strategy.keeping_standard c)
        (Resolver.keeping_propose h.keeping' Strategy.keeping_standard c)
    · exact h.propose c
  intro s t hst
  have hstep := Resolver.runFrom_bindingFor .standard r c s
  have hother := Resolver.runFrom_bindingFor .standard r' c t
  rw [(S.abreast hst).registry] at hother
  cases hfound : s.registry.find? c with
  | some b =>
    rw [hfound] at hstep hother
    exact congr (S.pure (some b) hst) hstep hother
  | none =>
    rw [hfound] at hstep hother
    refine congr (hproposal.bind (fun proposal => ?_) s t hst) hstep hother
    cases proposal with
    | none => exact .pure _
    | some target => exact (queueBuild c target).map _

/-- Answers are simulated if those of the resolvers inside are. -/
theorem resolveWith (h : S.Relates r r') (c : ComponentId) (immediately : Bool) :
    S.Simulates (Resolver.resolveWith .standard r c immediately)
      (Resolver.resolveWith .standard r' c immediately) := by
  refine (h.bindingFor c).bind fun found => ?_
  cases found with
  | none => exact .pure _
  | some b =>
    dsimp only
    split
    · refine .reading fun s t hst => ?_
      rw [(S.abreast hst).building]
      split
      · exact S.throw _ hst
      · exact ((h.buildBinding b).bind fun _ => .pure _) s t hst
    · exact .pure _

/-- The queue is worked off alike. -/
theorem drainWithin (h : S.Relates r r') {outer outer' : Resolver}
    (hbuild : outer.build = Resolver.buildBinding .standard r)
    (hbuild' : outer'.build = Resolver.buildBinding .standard r') (turns : Nat) :
    S.Simulates (outer.drainWithin turns) (outer'.drainWithin turns) := by
  induction turns with
  | zero =>
    refine takeQueued.bind fun taken => ?_
    cases taken with
    | none => exact .pure 0
    | some b => exact .throw (.endless b.component)
  | succ turns ih =>
    refine takeQueued.bind fun taken => ?_
    cases taken with
    | none => exact .pure 0
    | some b =>
      dsimp only
      rw [hbuild, hbuild']
      exact (h.buildBinding b).bind fun _ => ih.bind fun n => .pure (n + 1)

end Relates

/-! ## Standard resolvers -/

variable {x y : Context}

/-- Contexts are **matched** by a simulation when their standard resolvers have common grounds. -/
def Matches (S : Simulation) (x y : Context) : Prop :=
  ∀ steps, S.Grounds (.within x .standard steps) (.within y .standard steps)

/-- **Standard resolvers** for matched contexts are related, at any depth of questions. -/
theorem Matches.within (h : S.Matches x y) (steps : Nat) :
    S.Relates (.within x .standard steps) (.within y .standard steps) := by
  have hkeeping (z : Context) (steps : Nat) : (Resolver.within z .standard steps).Keeping :=
    Resolver.keeping_within z Strategy.keeping_standard steps
  induction steps with
  | zero => exact ⟨h 0, hkeeping x 0, hkeeping y 0, fun c _ => .throw (.endless c)⟩
  | succ steps ih =>
    exact ⟨h _, hkeeping x _, hkeeping y _, fun c immediately => ih.resolveWith c immediately⟩

end Simulation

end SchemaBinding
