import SchemaBinding.Proofs.Frame.Basic

/-! # The frame of a resolver
Proposals and bodies are run inside brackets of their own. A resolver keeps the state as soon as its
strategy does, by induction on the number of questions that may be asked inside each other. -/

namespace SchemaBinding

/-! ## Cycle detectors -/

namespace CycleDetector

variable {α : Type} [DecidableEq α] {d : CycleDetector α} {node : α}

@[simp] theorem isActive_iff : d.isActive node = true ↔ node ∈ d.active := by
  simp [isActive]

/-- A node that is not on the path can be entered. -/
theorem enter_of_notMem (h : node ∉ d.active) : d.enter node = .ok ⟨node :: d.active⟩ := by
  simp [enter, h]

/-- A node on the path cannot be entered again. -/
theorem enter_of_mem (h : node ∈ d.active) : ∃ cycle, d.enter node = .error cycle := by
  simp [enter, h]

/-- The cycle that is shown leads through nodes on the path. -/
theorem mem_path_of_enter {cycle : Cycle α} (h : d.enter node = .error cycle) {a : α}
    (ha : a ∈ cycle.path) : a ∈ d.active ∨ a = node := by
  unfold enter at h
  split at h
  · cases h
    simp only [Cycle.path, List.mem_append, List.mem_cons, List.not_mem_nil, or_false] at ha
    rcases ha with (hlead | rfl | hsince) | rfl
    · exact .inl (List.mem_reverse.1 ((List.takeWhile_sublist _).subset hlead))
    · exact .inr rfl
    · have hdropped := (List.dropWhile_sublist _).subset (List.mem_of_mem_drop hsince)
      exact .inl (List.mem_reverse.1 hdropped)
    · exact .inr rfl
  · cases h

end CycleDetector

namespace Resolver

open Resolving (runFrom_bind runFrom_get_bind runFrom_set_bind runFrom_record_bind runFrom_bind_ok)

variable {strategy : Strategy} {r : Resolver} {c : ComponentId} {s t : State}
  {inner : Option ClassId}

/-! ## Proposals -/

/-- The state in which the type of a component is proposed. -/
def State.proposal (s : State) (c : ComponentId) : State :=
  { s with
    proposing := ⟨c :: s.proposing.active⟩
    journal := .proposal c s.scopes.current :: s.journal }

/-- A proposal is made **inside its bracket**, and the bracket is closed in any case. -/
theorem runFrom_propose (strategy : Strategy) (r : Resolver) (h : c ∉ s.proposing.active) :
    (propose strategy r c).runFrom s =
      (((strategy.propose r c).runFrom (s.proposal c)).1,
        { ((strategy.propose r c).runFrom (s.proposal c)).2 with
          proposing := ((strategy.propose r c).runFrom (s.proposal c)).2.proposing.leave }) := by
  unfold propose
  rw [runFrom_get_bind, CycleDetector.enter_of_notMem h]
  dsimp only
  rw [runFrom_set_bind, runFrom_record_bind]
  exact Resolving.runFrom_closing _ _ (s.proposal c)

/-- A proposal inside a proposal for the same component fails at once. -/
theorem runFrom_propose_active (strategy : Strategy) (r : Resolver) (h : c ∈ s.proposing.active) :
    ∃ path, (propose strategy r c).runFrom s = (.error (.proposalCycle path), s) := by
  obtain ⟨cycle, hcycle⟩ := CycleDetector.enter_of_mem h
  refine ⟨cycle.path, ?_⟩
  unfold propose
  rw [runFrom_get_bind, hcycle]
  rfl

/-- A proposal keeps the state if the strategy and the resolver that it asks do. -/
theorem keeping_propose (hr : r.Keeping) (hs : strategy.Keeping) (c : ComponentId) :
    Resolving.Keeping none (propose strategy r c) := by
  intro s
  by_cases hc : c ∈ s.proposing.active
  · obtain ⟨path, hrun⟩ := runFrom_propose_active strategy r hc
    rw [hrun]
    exact .refl _ s
  · -- inside of the bracket one more component is being proposed, which is left out again
    have hinside := hs.propose r hr c (s.proposal c)
    rw [runFrom_propose strategy r hc]
    exact
      { hinside with
        proposing := by
          show CycleDetector.leave _ = s.proposing
          rw [hinside.proposing]
          rfl
        proposed := fun hd => hinside.proposed (List.mem_cons_of_mem c hd)
        journal := (List.suffix_cons _ _).trans hinside.journal }

/-- The proposal for a component, in the package of its namespace if it is a global declaration. -/
def proposeFor (strategy : Strategy) (r : Resolver) (c : ComponentId) :
    Resolving (Option TypeRef) :=
  if (r.schema.component c).isGlobalDeclaration then do
    let package ← r.packageFor (r.schema.component c).ns
    Resolving.withScope (.package package) (propose strategy r c)
  else propose strategy r c

/-- The same holds inside the package for a global declaration. -/
theorem keeping_proposeFor (hr : r.Keeping) (hs : strategy.Keeping) (c : ComponentId) :
    Resolving.Keeping none (proposeFor strategy r c) := by
  unfold proposeFor
  split
  · exact (Resolving.Keeping.packageFor _ _).bind fun _ => (keeping_propose hr hs c).withScope _
  · exact keeping_propose hr hs c

/-- A component with a proposal under way gets no other one. -/
theorem runFrom_proposeFor_active (strategy : Strategy) (hr : r.Keeping) (hs : strategy.Keeping)
    (h : c ∈ s.proposing.active) :
    ∃ path t, (proposeFor strategy r c).runFrom s = (.error (.proposalCycle path), t) := by
  unfold proposeFor
  split
  · rcases hpackage : (r.packageFor (r.schema.component c).ns).runFrom s with ⟨_ | package, u⟩
    · cases hpackage
    · -- looking for the package does not end the proposal that is under way
      have hu : c ∈ (Resolving.inside (.package package) u).proposing.active := by
        have hkeeps : s.Keeps none ((r.packageFor (r.schema.component c).ns).runFrom s).2 :=
          Resolving.Keeping.packageFor _ _ s
        rw [hpackage] at hkeeps
        exact hkeeps.proposing ▸ h
      obtain ⟨path, hrun⟩ := runFrom_propose_active strategy r hu
      rw [runFrom_bind, hpackage]
      dsimp only
      rw [Resolving.runFrom_withScope (by simp) (keeping_propose hr hs c _).scopes, hrun]
      exact ⟨path, _, rfl⟩
  · obtain ⟨path, hrun⟩ := runFrom_propose_active strategy r h
    exact ⟨path, s, hrun⟩

/-- Only a component without a proposal under way gets one. -/
theorem notMem_of_proposeFor (hr : r.Keeping) (hs : strategy.Keeping) {a : Option TypeRef}
    (h : (proposeFor strategy r c).runFrom s = (.ok a, t)) : c ∉ s.proposing.active := by
  intro hc
  obtain ⟨path, u, hrun⟩ := runFrom_proposeFor_active strategy hr hs hc
  rw [hrun] at h
  cases h

/-! ## Bindings -/

/-- Registers what was proposed for a component, if anything was. -/
def register (c : ComponentId) : Option TypeRef → Resolving (Option Binding)
  | none => pure none
  | some target => some <$> Resolving.queueBuild c target

/-- A component is bound once it has been proposed for and registered, unless it was before. -/
theorem runFrom_bindingFor (strategy : Strategy) (r : Resolver) (c : ComponentId) (s : State) :
    (bindingFor strategy r c).runFrom s =
      match s.registry.find? c with
      | some b => (.ok (some b), s)
      | none => (proposeFor strategy r c >>= register c).runFrom s := by
  unfold bindingFor proposeFor
  rw [runFrom_get_bind]
  cases s.registry.find? c with
  | some b => rfl
  | none =>
    dsimp only
    split
    · rw [bind_assoc]
      rfl
    · rfl

/-- What registering a component does. -/
theorem runFrom_queueBuild (c : ComponentId) (target : TypeRef) (s : State) :
    (Resolving.queueBuild c target).runFrom s =
      match s.registry.target? c with
      | some existing =>
        if existing = target then (.ok ⟨c, target⟩, s)
        else (.error (.conflictingBinding c existing target), s)
      | none =>
        (.ok ⟨c, target⟩,
          { s with
            registry := s.registry.insert ⟨c, target⟩
            queue := if target.isPrebuilt then s.queue else ⟨c, target⟩ :: s.queue }) := by
  unfold Resolving.queueBuild
  rw [runFrom_get_bind]
  cases s.registry.target? c with
  | some existing =>
    dsimp only
    split <;> rfl
  | none => rfl

/-- Registering a component keeps the state when no proposal for it is under way. -/
theorem keeps_queueBuild (h : c ∉ s.proposing.active) (target : TypeRef) :
    s.Keeps inner ((Resolving.queueBuild c target).runFrom s).2 := by
  rw [runFrom_queueBuild]
  cases htarget : s.registry.target? c with
  | some existing =>
    dsimp only
    split <;> exact .refl _ s
  | none =>
    -- the new binding is for a component that was neither bound nor being proposed
    have hfresh : s.registry.find? c = none := by
      simpa [Registry.target?] using htarget
    exact
      { State.Keeps.refl inner s with
        bound := fun {d b} hd => by
          show (s.registry.insert _).find? d = some b
          rw [Registry.find?_insert hfresh, if_neg]
          · exact hd
          · rintro rfl
            rw [hfresh] at hd
            cases hd
        proposed := fun {d} hd => by
          show (s.registry.insert _).find? d = _
          rw [Registry.find?_insert hfresh, if_neg]
          rintro rfl
          exact h hd
        queue := by
          dsimp only
          split
          · exact List.suffix_refl _
          · exact List.suffix_cons _ _
        books := .single (.register (b := ⟨c, target⟩) hfresh) }

/-- The binding for a component is registered after others, so the state is kept. -/
theorem keeping_bindingFor (hr : r.Keeping) (hs : strategy.Keeping) (c : ComponentId) :
    Resolving.Keeping none (bindingFor strategy r c) := by
  intro s
  rw [runFrom_bindingFor]
  cases s.registry.find? c with
  | some b => exact .refl _ s
  | none =>
    dsimp only
    have hpropose := keeping_proposeFor hr hs c s
    rw [runFrom_bind]
    rcases hrun : (proposeFor strategy r c).runFrom s with ⟨_ | _ | target, u⟩
    · rwa [hrun] at hpropose
    · rwa [hrun] at hpropose
    · rw [hrun] at hpropose
      dsimp only
      unfold register
      rw [Resolving.runFrom_map]
      -- a proposal that succeeds was not inside of another one for the component
      refine hpropose.trans (keeps_queueBuild ?_ target)
      rw [hpropose.proposing]
      exact notMem_of_proposeFor hr hs hrun

/-! ## Bodies -/

/-- The check of a class name only reports. -/
theorem keeping_checkClassName (c : ComponentId) (k : ClassId) :
    Resolving.Keeping inner (r.checkClassName c k) := by
  refine .reading fun s => ?_
  dsimp only
  split
  · exact Resolving.Keeping.report _ s
  · exact .refl _ s

/-- The value constructor goes to the class whose body is built. -/
theorem keeping_addValueConstructor (c : ComponentId) (k : ClassId) :
    Resolving.Keeping (some k) (r.addValueConstructor c k) := by
  unfold addValueConstructor
  split
  · split
    · refine .modifyClass (fun c => ?_) (fun c => ?_)
      · unfold ClassInfo.addConstructor
        split <;> rfl
      · unfold ClassInfo.addConstructor
        split <;> rfl
    · exact .pure _
  · exact .pure _

/-- The documentation goes to the class whose body is built. -/
theorem keeping_documentClass (c : ComponentId) (k : ClassId) :
    Resolving.Keeping (some k) (documentClass strategy r c k) := by
  refine .reading fun s => ?_
  split
  · split
    · exact .refl _ s
    · rename_i paragraphs _
      refine Resolving.Keeping.modifyClass (fun info => ?_) (fun info => ?_) s
      · obtain ⟨doc, hdoc⟩ := ClassInfo.foldl_appendDoc paragraphs info
        rw [hdoc]
      · obtain ⟨doc, hdoc⟩ := ClassInfo.foldl_appendDoc paragraphs info
        rw [hdoc]
  · exact .refl _ s

/-- The strategy fills the class whose body is built, and no other settled one. -/
theorem keeping_runBody (hr : r.Keeping) (hs : strategy.Keeping) (c : ComponentId) (k : ClassId) :
    Resolving.Keeping (some k) (runBody strategy r c k) := by
  unfold runBody
  refine .reading fun s => ?_
  refine ((Resolving.Keeping.record _).bind fun _ => (hs.body r hr c k).bind fun _ => ?_) s
  exact .reading fun u => Resolving.Keeping.record _ u

/-- The state in which a class is built. -/
def State.under (s : State) (c : ComponentId) (k : ClassId) : State :=
  { s with cursor := some ⟨c, k⟩ }

/-- The steps of a body before the strategy is asked. -/
def prepareBody (strategy : Strategy) (r : Resolver) (c : ComponentId) (k : ClassId) :
    Resolving Unit := do
  r.checkClassName c k
  r.addValueConstructor c k
  documentClass strategy r c k

/-- What comes before the strategy is asked concerns the class whose body is built. -/
theorem keeping_prepareBody (c : ComponentId) (k : ClassId) :
    Resolving.Keeping (some k) (prepareBody strategy r c k) :=
  (keeping_checkClassName c k).bind fun _ =>
    (keeping_addValueConstructor c k).bind fun _ => keeping_documentClass c k

/-- The steps of a body from the cursor on. -/
def placeBody (strategy : Strategy) (r : Resolver) (c : ComponentId) (k : ClassId) :
    Resolving Unit := do
  let s ← get
  let scope := r.innerScope s.model k
  set (s.under c k)
  let body := runBody strategy r c k
  (if scope = .root then body else Resolving.withScope scope body).closing fun after =>
    { after with cursor := s.cursor }

/-- A body is its preparation and, after it, what is built at the cursor. -/
theorem buildBody_eq (strategy : Strategy) (r : Resolver) (c : ComponentId) (k : ClassId) :
    buildBody strategy r c k =
      (prepareBody strategy r c k >>= fun _ => placeBody strategy r c k) := by
  unfold buildBody prepareBody placeBody
  simp only [bind_assoc]
  rfl

/-- The scope in which the body of a class is built, if it is not the root. -/
def State.enclosed (s : State) (scope : Scope) : State :=
  if scope = .root then s else Resolving.inside scope s

/-- A body is **placed** in the scope for inner classes, with the cursor on its class. -/
theorem runFrom_placeBody (hr : r.Keeping) (hs : strategy.Keeping) (c : ComponentId) (k : ClassId)
    (s : State) :
    (placeBody strategy r c k).runFrom s =
      let ran := (runBody strategy r c k).runFrom
        ((s.under c k).enclosed (r.innerScope s.model k))
      (ran.1, { ran.2 with scopes := s.scopes, cursor := s.cursor }) := by
  unfold placeBody State.enclosed
  rw [runFrom_get_bind]
  dsimp only
  rw [runFrom_set_bind, Resolving.runFrom_closing]
  split
  · have hscopes := (keeping_runBody hr hs c k (s.under c k)).scopes
    exact Prod.ext rfl (by rw [show s.scopes = (s.under c k).scopes from rfl, ← hscopes])
  · rename_i hscope
    rw [Resolving.runFrom_withScope hscope (keeping_runBody hr hs c k _).scopes]
    rfl

/-- A body built at its cursor keeps all but its own class. -/
theorem keeping_placeBody (hr : r.Keeping) (hs : strategy.Keeping) (c : ComponentId) (k : ClassId) :
    Resolving.Keeping (some k) (placeBody strategy r c k) := by
  intro s
  rw [runFrom_placeBody hr hs]
  have hrun := keeping_runBody hr hs c k ((s.under c k).enclosed (r.innerScope s.model k))
  unfold State.enclosed at hrun ⊢
  by_cases hscope : r.innerScope s.model k = .root
  · simp only [hscope, if_true] at hrun ⊢
    exact { hrun with scopes := rfl, cursor := rfl }
  · simp only [hscope, if_false] at hrun ⊢
    exact { hrun.inside with scopes := rfl, cursor := rfl }

/-- A body keeps all settled classes but its own. -/
theorem keeping_buildBody (hr : r.Keeping) (hs : strategy.Keeping) (c : ComponentId) (k : ClassId) :
    Resolving.Keeping (some k) (buildBody strategy r c k) := by
  rw [buildBody_eq]
  exact (keeping_prepareBody c k).bind fun _ => keeping_placeBody hr hs c k

/-- The state in which a class is claimed. -/
def State.claimed (s : State) (c : ComponentId) (k : ClassId) : State :=
  { s with building := ⟨c :: s.building.active⟩, built := k :: s.built }

/-- A class is **built** once: a binding to no class or to one that was begun is left alone. -/
theorem runFrom_buildBinding (strategy : Strategy) (r : Resolver) (b : Binding) (s : State) :
    (buildBinding strategy r b).runFrom s =
      match b.classId? with
      | none => (.ok (), s)
      | some k =>
        if k ∈ s.built then (.ok (), s)
        else match s.building.enter b.component with
          | .error cycle => (.error (.buildCycle cycle.path), s)
          | .ok _ =>
            ((buildBody strategy r b.component k).closing
                (fun s => { s with building := s.building.leave }) >>= fun _ =>
              if (r.schema.component b.component).custom.property.isSome then
                Resolving.acknowledge b.component
              else pure ()).runFrom (s.claimed b.component k) := by
  unfold buildBinding
  cases b.classId? with
  | none => rfl
  | some k =>
    dsimp only
    rw [runFrom_get_bind]
    by_cases hk : k ∈ s.built
    · simp [hk]
    · simp only [hk, List.contains_eq_mem, decide_false, Bool.false_eq_true, if_false]
      -- the detector refuses exactly what is under construction
      by_cases hc : b.component ∈ s.building.active
      · obtain ⟨cycle, hcycle⟩ := CycleDetector.enter_of_mem hc
        rw [hcycle]
        rfl
      · rw [CycleDetector.enter_of_notMem hc]
        rfl

/-- What to **build** a binding comes to: nothing if there is no class to build, a cycle if its body
is under construction, and otherwise the body of a class that is claimed for it. -/
@[elab_as_elim]
theorem runFrom_buildBinding_cases {motive : Except ResolveError Unit × State → Prop}
    (strategy : Strategy) (r : Resolver) (b : Binding) (s : State)
    (begun : (∀ k, b.classId? = some k → k ∈ s.built) → motive (.ok (), s))
    (cyclic : ∀ cycle, s.building.enter b.component = .error cycle →
      motive (.error (.buildCycle cycle.path), s))
    (claimed : ∀ k, b.classId? = some k → k ∉ s.built → b.component ∉ s.building.active →
      motive (((buildBody strategy r b.component k).closing
          (fun s => { s with building := s.building.leave }) >>= fun _ =>
        if (r.schema.component b.component).custom.property.isSome then
          Resolving.acknowledge b.component
        else pure ()).runFrom (s.claimed b.component k))) :
    motive ((buildBinding strategy r b).runFrom s) := by
  rw [runFrom_buildBinding]
  cases hclass : b.classId? with
  | none => exact begun (by simp [hclass])
  | some k =>
    dsimp only
    split
    · rename_i hk
      exact begun fun j hj => Option.some.inj (hclass.symm.trans hj) ▸ hk
    · rename_i hk
      split
      · rename_i cycle hcycle
        exact cyclic cycle hcycle
      · rename_i henter
        refine claimed k hclass hk fun hactive => ?_
        obtain ⟨cycle, hcycle⟩ := CycleDetector.enter_of_mem hactive
        rw [hcycle] at henter
        cases henter

/-- Building a binding keeps the settled classes: the class that it claims was not begun. -/
theorem keeping_buildBinding (hr : r.Keeping) (hs : strategy.Keeping) (b : Binding) :
    Resolving.Keeping none (buildBinding strategy r b) := by
  intro s
  refine runFrom_buildBinding_cases strategy r b s (fun _ => .refl _ s) (fun _ _ => .refl _ s)
    fun k _ hk _ => ?_
  have hbody := keeping_buildBody hr hs b.component k (s.claimed b.component k)
  -- from outside, the class that is built was not settled before
  have hclosed : s.Keeps none
      (((buildBody strategy r b.component k).closing
        fun s => { s with building := s.building.leave }).runFrom (s.claimed b.component k)).2 := by
    rw [Resolving.runFrom_closing]
    exact
      { hbody with
        building := by
          show CycleDetector.leave _ = s.building
          rw [hbody.building]
          rfl
        built := fun d hd => hbody.built (List.mem_cons_of_mem _ hd)
        books := .head (.claim k) hbody.books
        model := hbody.model.weaken fun d hd => by
          refine ⟨List.mem_cons_of_mem _ hd.1, fun hdk => hk ?_⟩
          rw [← Option.some.inj hdk]
          exact hd.1 }
  rw [runFrom_bind]
  rcases hrun : ((buildBody strategy r b.component k).closing
    fun s => { s with building := s.building.leave }).runFrom
      (s.claimed b.component k) with ⟨_ | _, u⟩
  · rwa [hrun] at hclosed
  · rw [hrun] at hclosed
    refine hclosed.trans ?_
    dsimp only
    split
    · exact Resolving.Keeping.acknowledge _ u
    · exact .refl _ u

/-! ## Answers -/

/-- An answer of a resolver keeps the state if those of the resolver inside do. -/
theorem keeping_resolveWith (hr : r.Keeping) (hs : strategy.Keeping) (c : ComponentId)
    (immediately : Bool) : Resolving.Keeping none (resolveWith strategy r c immediately) := by
  unfold resolveWith
  refine (keeping_bindingFor hr hs c).bind fun found => ?_
  cases found with
  | none => exact .pure _
  | some b =>
    dsimp only
    split
    · refine .reading fun s => ?_
      split
      · exact .refl _ s
      · exact ((keeping_buildBinding hr hs b).bind fun _ => .pure _) s
    · exact .pure _

/-- **Resolvers keep the state** if their strategy does, at any depth of questions. -/
theorem keeping_within (context : Context) (hs : strategy.Keeping) (steps : Nat) :
    (within context strategy steps).Keeping := by
  induction steps with
  | zero => exact fun c _ => .throw _
  | succ steps ih => exact fun c immediately => keeping_resolveWith ih hs c immediately

end Resolver

end SchemaBinding
