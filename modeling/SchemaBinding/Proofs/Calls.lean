import SchemaBinding.Proofs.Completion
import SchemaBinding.Proofs.Frame.Standard
import SchemaBinding.Resolver.Question

/-! # Sequences of calls
A resolver may be called in any order: for the types of components, to register a binding, to build
a body, to build all bodies that are owed, or for a package. Whatever the calls are and whatever
comes of each, a component that was bound stays bound to the same type, and the queue holds each
component at most once. As long as no call fails, every class that a component is bound to is built
or waits in the queue. -/

namespace SchemaBinding.Resolver

open Resolving (runFrom_bind runFrom_get_bind runFrom_map)

/-- A **call** of a resolver. -/
inductive Call where
  | bindToType (component : ComponentId)
  | bindToTypeImmediately (component : ComponentId)
  | bindElement (element : ComponentId)
  | bindComplexType (type : ComponentId) (immediately : Bool)
  | bindSchemaType (type : ComponentId)
  | isBound (element : ComponentId)
  | queueBuild (component : ComponentId) (target : TypeRef)
  | build (binding : Binding)
  | drain
  | packageFor (ns : String)
  deriving DecidableEq, Repr

/-- The step of a call, without its answer. -/
def Call.step (r : Resolver) : Call → Resolving Unit
  | bindToType c => (fun _ => ()) <$> r.bindToType c
  | bindToTypeImmediately c => (fun _ => ()) <$> r.bindToTypeImmediately c
  | bindElement c => (fun _ => ()) <$> r.bindElement c
  | bindComplexType c immediately => (fun _ => ()) <$> r.bindComplexType c immediately
  | bindSchemaType c => (fun _ => ()) <$> r.bindSchemaType c
  | isBound c => (fun _ => ()) <$> r.isBound c
  | queueBuild c target => (fun _ => ()) <$> Resolving.queueBuild c target
  | build b => r.build b
  | drain => (fun _ => ()) <$> r.drain
  | packageFor ns => (fun _ => ()) <$> r.packageFor ns

/-- The state after calls that are made one after the other, also after one that fails. -/
def after (r : Resolver) (calls : List Call) (s : State) : State :=
  calls.foldl (fun s call => ((call.step r).runFrom s).2) s

/-- No call of a sequence fails. -/
def Succeeds (r : Resolver) : List Call → State → Prop
  | [], _ => True
  | call :: rest, s =>
    ((call.step r).runFrom s).1 = .ok () ∧ Succeeds r rest ((call.step r).runFrom s).2

/-! ## What a call leaves -/

/-- What one state is to an earlier one outside of all bodies; `succeeded` says that nothing has
failed in between. -/
structure State.Continues (succeeded : Prop) (s t : State) : Prop where
  building : t.building = s.building
  registry : s.registry.bindings <+: t.registry.bindings
  orderly : s.books.Orderly → t.books.Orderly
  attended : succeeded → s.books.Attended → t.books.Attended

namespace State.Continues

variable {succeeded also : Prop} {s t u : State}

/-- A state continues itself. -/
theorem refl (succeeded : Prop) (s : State) : Continues succeeded s s :=
  ⟨rfl, List.prefix_refl _, id, fun _ => id⟩

/-- What continues a continuation continues the first state, and has succeeded where both did. -/
theorem trans (h₁ : Continues succeeded s t) (h₂ : Continues also t u) :
    Continues (succeeded ∧ also) s u where
  building := h₂.building.trans h₁.building
  registry := h₁.registry.trans h₂.registry
  orderly := h₂.orderly ∘ h₁.orderly
  attended h := h₂.attended h.2 ∘ h₁.attended h.1

/-- A state continues another one also when less is known to have succeeded. -/
theorem imp (h : Continues succeeded s t) (himp : also → succeeded) : Continues also s t :=
  { h with attended := fun hs => h.attended (himp hs) }

/-- What keeps the state also continues it, even when it fails. -/
theorem ofKeeps (h : s.Keeps none t) : Continues succeeded s t where
  building := h.building
  registry := h.books.registry_prefix
  orderly := h.books.orderly
  attended _ := h.books.attended

end State.Continues

/-! ## Draining -/

variable {strategy : Strategy} {r : Resolver} {s t : State}

/-- Outside of all bodies a binding is built with its class **claimed**, unless the class has been
claimed before. -/
theorem entries_buildBinding (hr : r.Keeping) (hs : strategy.Keeping) {b : Binding} {k : ClassId}
    (hclass : b.classId? = some k) (hk : k ∉ s.built) (outside : s.building.active = []) :
    Books.Entries (s.books.claim k) ((buildBinding strategy r b).runFrom s).2.books := by
  rw [runFrom_buildBinding, hclass]
  dsimp only
  rw [if_neg hk, CycleDetector.enter_of_notMem (by simp [outside])]
  dsimp only
  have hbody := keeping_buildBody hr hs b.component k (s.claimed b.component k)
  rw [runFrom_bind, Resolving.runFrom_closing]
  rcases hrun : (buildBody strategy r b.component k).runFrom (s.claimed b.component k) with
    ⟨_ | _, u⟩
  · rw [hrun] at hbody
    exact hbody.books
  · rw [hrun] at hbody
    dsimp only
    split
    · exact hbody.books
    · exact hbody.books

/-- A binding is **served** when it is taken off the queue and built. -/
theorem continues_served (hr : r.Keeping) (hs : strategy.Keeping) {b : Binding}
    {rest : List Binding} (hqueue : s.queue = b :: rest) (outside : s.building.active = []) :
    State.Continues True s
      ((buildBinding strategy r b).runFrom { s with queue := rest }).2 := by
  have hkeeps := keeping_buildBinding hr hs b { s with queue := rest }
  refine ⟨hkeeps.building, hkeeps.books.registry_prefix,
    fun h => hkeeps.books.orderly (h.take hqueue), fun _ h => ?_⟩
  cases hclass : b.classId? with
  | none => exact hkeeps.books.attended (h.drop hqueue (by simp [hclass]))
  | some k =>
    by_cases hk : k ∈ s.built
    · refine hkeeps.books.attended (h.drop hqueue fun j hj => ?_)
      rw [hclass] at hj
      exact Option.some.inj hj ▸ hk
    · exact (entries_buildBinding (s := { s with queue := rest }) hr hs hclass hk
        outside).attended (h.take hqueue hclass)

/-- The queue is worked off **from the latest binding**, each served in its turn. -/
theorem continues_drainWithin (hr : r.Keeping) (hs : strategy.Keeping) {outer : Resolver}
    (hbuild : outer.build = buildBinding strategy r) (steps : Nat)
    (outside : s.building.active = []) :
    State.Continues (((outer.drainWithin steps).runFrom s).1.isOk = true) s
      ((outer.drainWithin steps).runFrom s).2 := by
  induction steps generalizing s with
  | zero =>
    unfold drainWithin
    cases hqueue : s.queue with
    | nil =>
      rw [runFrom_bind, runFrom_takeQueued_nil hqueue]
      exact .refl _ s
    | cons b rest =>
      -- a queue for which no steps are left loses a binding, and the call fails
      rw [runFrom_bind, runFrom_takeQueued_cons hqueue]
      exact ⟨rfl, List.prefix_refl _, fun h => h.take hqueue, fun h => by cases h⟩
  | succ steps ih =>
    unfold drainWithin
    cases hqueue : s.queue with
    | nil =>
      rw [runFrom_bind, runFrom_takeQueued_nil hqueue]
      exact .refl _ s
    | cons b rest =>
      rw [runFrom_bind, runFrom_takeQueued_cons hqueue]
      dsimp only
      have hserved := continues_served hr hs hqueue outside
      rw [← hbuild] at hserved
      rw [runFrom_bind]
      rcases hrun : (outer.build b).runFrom { s with queue := rest } with ⟨e | _, u⟩
      · rw [hrun] at hserved
        exact hserved.imp fun _ => trivial
      · rw [hrun] at hserved
        dsimp only
        have hrest := ih (s := u) (by rw [hserved.building, outside])
        rw [runFrom_bind]
        rcases hrun' : (outer.drainWithin steps).runFrom u with ⟨e | n, v⟩
        · rw [hrun'] at hrest
          exact (hserved.trans hrest).imp fun h => ⟨trivial, h⟩
        · rw [hrun'] at hrest
          exact (hserved.trans hrest).imp fun h => ⟨trivial, h⟩

/-! ## Calls -/

/-- The binding of a component that nothing is being proposed for can be registered. -/
theorem continues_queueBuild (succeeded : Prop) (c : ComponentId) (target : TypeRef) (s : State) :
    State.Continues succeeded s ((Resolving.queueBuild c target).runFrom s).2 := by
  rw [runFrom_queueBuild]
  cases htarget : s.registry.target? c with
  | some existing =>
    dsimp only
    split <;> exact .refl _ s
  | none =>
    have hfresh : s.registry.find? c = none := by simpa [Registry.target?] using htarget
    have hentry : Books.Entry s.books (s.books.register ⟨c, target⟩) := .register hfresh
    exact ⟨rfl, hentry.registry_prefix, hentry.orderly, fun _ => hentry.attended⟩

/-- A call **continues** the state outside of all bodies. -/
theorem Call.continues (x : Context) (call : Call) (outside : s.building.active = []) :
    State.Continues (((call.step (.of x .standard)).runFrom s).1 = .ok ()) s
      ((call.step (.of x .standard)).runFrom s).2 := by
  have hr := Resolver.keeping_of x
  have hstandard := Strategy.keeping_standard
  have hwithin := keeping_within x hstandard (2 * x.schema.size + 1)
  have hbuild : (Resolver.of x .standard).build =
      buildBinding .standard (within x .standard (2 * x.schema.size + 1)) := rfl
  cases call with
  | bindToType c => exact .ofKeeps ((keeping_bindToType hr c).map _ s)
  | bindToTypeImmediately c => exact .ofKeeps ((hr c true).map _ s)
  | bindElement c =>
    refine .ofKeeps (Resolving.Keeping.map ?_ _ s)
    unfold Resolver.bindElement
    split
    · exact keeping_bindToType hr c
    · exact .pure _
  | bindComplexType c immediately =>
    exact .ofKeeps ((keeping_bindComplexType hr c immediately).map _ s)
  | bindSchemaType c => exact .ofKeeps ((keeping_bindSchemaType hr c).map _ s)
  | isBound c => exact .ofKeeps ((keeping_isBound hr c).map _ s)
  | queueBuild c target =>
    unfold Call.step
    rw [runFrom_map]
    exact continues_queueBuild _ c target s
  | build b =>
    show State.Continues _ s (((Resolver.of x .standard).build b).runFrom s).2
    rw [hbuild]
    exact .ofKeeps (keeping_buildBinding hwithin hstandard b s)
  | drain =>
    unfold Call.step Resolver.drain
    rw [runFrom_map]
    refine (continues_drainWithin hwithin hstandard hbuild _ outside).imp fun h => ?_
    rcases hresult : ((drainWithin (of x .standard) _).runFrom s).1 with e | n
    · rw [hresult] at h
      cases h
    · rfl
  | packageFor ns => exact .ofKeeps ((Resolving.Keeping.packageFor _ ns).map _ s)

/-- Calls **continue** the state, one after the other. -/
theorem continues_after (x : Context) (calls : List Call) (outside : s.building.active = []) :
    State.Continues (Succeeds (.of x .standard) calls s) s
      (after (.of x .standard) calls s) := by
  induction calls generalizing s with
  | nil => exact .refl _ s
  | cons call rest ih =>
    have hcall := call.continues x outside
    exact hcall.trans (ih (by rw [hcall.building, outside]))

/-! ## From the start of a run -/

/-- At the start only a leaf is bound. -/
theorem target?_initial {reports : Reports} {c : ComponentId} {target : TypeRef}
    (h : (State.initial reports SchemaSet.anyType).registry.target? c = some target) :
    target = .leaf .anyType := by
  obtain ⟨b, hb, rfl⟩ := Option.map_eq_some_iff.1 h
  have hmem := List.mem_of_find?_eq_some hb
  rw [List.mem_singleton.1 hmem]

/-- The books of the initial state are in order: it has only registered the universal type. -/
theorem orderly_initial (reports : Reports) :
    (State.initial reports SchemaSet.anyType).books.Orderly :=
  ⟨by simp [State.books, State.initial], by simp [State.books, State.initial], List.nodup_nil⟩

/-- In the initial state no component is bound to a class, so every class is attended to. -/
theorem attended_initial (reports : Reports) :
    (State.initial reports SchemaSet.anyType).books.Attended := by
  intro c k hc
  cases @target?_initial reports _ _ hc

/-- A component keeps its binding in a registry with more bindings. -/
theorem target?_of_prefix {before later : Registry} (h : before.bindings <+: later.bindings)
    {c : ComponentId} {target : TypeRef} (hc : before.target? c = some target) :
    later.target? c = some target := by
  obtain ⟨added, hadded⟩ := h
  obtain ⟨b, hb, rfl⟩ := Option.map_eq_some_iff.1 hc
  have hlater : later.find? c = some b := by
    unfold Registry.find? at hb ⊢
    rw [← hadded, List.find?_append, hb]
    rfl
  exact Option.map_eq_some_iff.2 ⟨b, hlater, rfl⟩

/-- What is bound is **found**, and nothing else changes. -/
theorem bindToType_of_bound (x : Context) {c : ComponentId} {target : TypeRef}
    (hc : s.registry.target? c = some target) :
    ((Resolver.of x .standard).bindToType c).runFrom s = (.ok (some target), s) := by
  obtain ⟨b, hb, rfl⟩ := Option.map_eq_some_iff.1 hc
  show (resolveWith .standard (within x .standard (2 * x.schema.size + 1)) c false).runFrom s = _
  unfold resolveWith
  rw [runFrom_bind, runFrom_bindingFor, hb]
  rfl

/-- The **bookkeeping** from one state to a later one. -/
structure State.Accounted (x : Context) (s t : State) : Prop where
  /-- The registry only grows. -/
  grown : s.registry.bindings <+: t.registry.bindings
  /-- A component that was bound is bound to the same type, and asking for it once more changes
  nothing. -/
  stable : ∀ c target, s.registry.target? c = some target →
    t.registry.target? c = some target ∧
      ((Resolver.of x .standard).bindToType c).runFrom t = (.ok (some target), t)
  /-- It can be registered for the same type once more, which changes nothing, and for no other
  one. -/
  settled : ∀ c target other, s.registry.target? c = some target →
    (Resolving.queueBuild c other).runFrom t =
      if other = target then (.ok ⟨c, target⟩, t)
      else (.error (.conflictingBinding c target other), t)
  /-- No component is queued twice. -/
  once : (t.queue.map Binding.component).Nodup
  /-- Only registered bindings are queued, and none to a leaf. -/
  queued : ∀ b ∈ t.queue,
    t.registry.find? b.component = some b ∧ b.target.isPrebuilt = false

/-- **The books are kept over all sequences of calls**: between any two moments, whatever has
failed, and with every class queued or begun as long as nothing has. -/
theorem accounted_after (x : Context) (reports : Reports) (calls later : List Call) :
    let r := Resolver.of x .standard
    let s := r.after calls (.initial reports SchemaSet.anyType)
    s.Accounted x (r.after later s) ∧
      (r.Succeeds calls (.initial reports SchemaSet.anyType) →
        ∀ c k, s.registry.target? c = some (.classRef k) →
          ⟨c, .classRef k⟩ ∈ s.queue ∨ k ∈ s.built) := by
  intro r s
  have hcalls : State.Continues _ (.initial reports SchemaSet.anyType) s :=
    continues_after x calls rfl
  have hlater : State.Continues _ s (r.after later s) :=
    continues_after x later (by rw [hcalls.building]; rfl)
  -- no call leaves a body under construction, so each one starts outside of all bodies
  have horderly := hlater.orderly (hcalls.orderly (orderly_initial reports))
  have hstable {c target} (hc : s.registry.target? c = some target) :
      (r.after later s).registry.target? c = some target :=
    target?_of_prefix hlater.registry hc
  refine ⟨⟨hlater.registry, ?stable, ?settled, horderly.nodup, ?queued⟩, ?attended⟩
  case stable =>
    intro c target hc
    exact ⟨hstable hc, bindToType_of_bound x (hstable hc)⟩
  case settled =>
    intro c target other hc
    rw [runFrom_queueBuild, hstable hc]
    dsimp only
    by_cases h : target = other
    · rw [if_pos h, if_pos h.symm, h]
    · rw [if_neg h, if_neg (fun h' => h h'.symm)]
  case queued => exact fun b hb => ⟨horderly.registered b hb, horderly.owed b hb⟩
  case attended => exact fun h => hcalls.attended h (attended_initial reports)

/-- Two elements of the shelf are asked for, one of them with its body, and the bodies that are then
owed are built. -/
theorem accounted_after_shelf :
    let r := Resolver.of Compilation.shelf.context .standard
    let calls := [.bindToType ⟨22⟩, .bindToTypeImmediately ⟨23⟩, .drain]
    let s := r.after calls (.initial {} SchemaSet.anyType)
    r.Succeeds calls (.initial {} SchemaSet.anyType) ∧
      s.Accounted Compilation.shelf.context (r.after [.queueBuild ⟨23⟩ (.leaf .anyType)] s) ∧
      s.registry.target? ⟨23⟩ = some (.classRef ⟨0⟩) ∧ ⟨0⟩ ∈ s.built := by
  intro r calls s
  have hsucceeds : r.Succeeds calls (.initial {} SchemaSet.anyType) :=
    ⟨by decide +kernel, by decide +kernel, by decide +kernel, trivial⟩
  have htarget : s.registry.target? ⟨23⟩ = some (.classRef ⟨0⟩) := by decide +kernel
  have hempty : s.queue = [] := by decide +kernel
  have haccounted := accounted_after Compilation.shelf.context {} calls
    [.queueBuild ⟨23⟩ (.leaf .anyType)]
  refine ⟨hsucceeds, haccounted.1, htarget, ?_⟩
  rcases haccounted.2 hsucceeds _ _ htarget with hqueued | hbuilt
  · rw [show r.after calls _ = s from rfl, hempty] at hqueued
    cases hqueued
  · exact hbuilt

end SchemaBinding.Resolver
