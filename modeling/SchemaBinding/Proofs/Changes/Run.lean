import SchemaBinding.Proofs.Calls
import SchemaBinding.Proofs.Changes.Standard

/-! # Runs as changes
A resolver with the standard strategy leads by changes, at any depth of questions, whether its
answers succeed or fail (`Resolver.leads_within`). So does every sequence of calls in which nothing
is registered from outside, whatever has failed before (`Resolver.leads_after`). -/

namespace SchemaBinding.Resolver

open Resolving (Leading runFrom_bind runFrom_bind_ok runFrom_bind_error)

variable {set : SchemaSet} {top : Option ComponentId} {r : Resolver} {c : ComponentId} {s t : State}

/-! ## Building -/

/-- What comes before a body leads. -/
theorem leading_prepareBody (r : Resolver) (c : ComponentId) (k : ClassId) :
    Leading set top (prepareBody .standard r c k) := by
  refine .bind ?_ fun _ => .bind ?_ fun _ => ?_
  · refine .reading fun s => ?_
    dsimp only
    split
    · exact Leading.report _ s
    · exact .refl s
  · unfold addValueConstructor
    split
    · split
      · exact .changeModel _
      · exact .pure _
    · exact .pure _
  · refine .reading fun s => ?_
    split
    · split
      · exact .refl s
      · exact Leading.changeModel _ s
    · exact .refl s

/-- A body is recorded in its place, before and after. -/
theorem leading_runBody (hr : r.Leads set) (c : ComponentId) (k : ClassId) :
    Leading set none (runBody .standard r c k) := by
  unfold runBody
  refine .reading fun s => Leading.bind_from (.single (.recorded rfl) rfl rfl) fun _ t _ => ?_
  refine (Leading.bind (leading_standardBody hr c k) fun _ => .reading fun u => ?_) t
  exact .single (.recorded rfl) rfl rfl

/-- A body leads from the place that it is built in. -/
theorem leading_placeBody (hr : r.Leads set) (c : ComponentId) (k : ClassId) :
    Leading set none (placeBody .standard r c k) := by
  intro s
  have hkeeping := keeping_runBody hr.keeping Strategy.keeping_standard c k
  unfold Resolving.Failed
  rw [runFrom_placeBody hr.keeping Strategy.keeping_standard]
  dsimp only
  -- the cursor is moved to the class before, and back afterwards
  have hunder {failed : Prop} : s.Leads set none failed (s.under c k) :=
    .aside ⟨rfl, rfl, rfl, rfl, rfl⟩
  have hback (u : State) {failed : Prop} :
      State.Leads set none failed { u with scopes := s.scopes }
        { u with scopes := s.scopes, cursor := s.cursor } := .aside ⟨rfl, rfl, rfl, rfl, rfl⟩
  refine (hunder.trans ?_).trans (hback _)
  unfold State.enclosed
  split
  · have hscopes := (hkeeping (s.under c k)).scopes
    have hrun := leading_runBody hr c k (s.under c k)
    exact hrun.trans (.aside ⟨rfl, rfl, rfl, hscopes.symm, rfl⟩)
  · rename_i hscope
    exact (leading_runBody hr c k _).inside hscope (hkeeping _).scopes

/-- A body that is **built** leads by changes, whichever binding asks for it. -/
theorem leading_buildBinding (hr : r.Leads set) (b : Binding) :
    Leading set none (buildBinding .standard r b) := by
  intro s
  unfold Resolving.Failed
  refine runFrom_buildBinding_cases .standard r b s (fun _ => .refl s) (fun _ _ => .refl s)
    fun k _ _ _ => ?_
  have hclaimed {failed : Prop} : s.Leads set none failed (s.claimed b.component k) :=
    .aside ⟨rfl, rfl, rfl, rfl, rfl⟩
  refine hclaimed.trans (Leading.bind_from ?_ fun _ u _ => ?_)
  · have hbody : Leading set none (buildBody .standard r b.component k) := by
      rw [buildBody_eq]
      exact (leading_prepareBody r _ k).bind fun _ => leading_placeBody hr _ k
    unfold Resolving.Failed
    rw [Resolving.runFrom_closing]
    exact (hbody _).trans (.aside ⟨rfl, rfl, rfl, rfl, rfl⟩)
  · split
    · exact Leading.acknowledge _ u
    · exact .refl u

/-! ## Answering -/

/-- What happens inside the bracket of a proposal leads **from outside** to where the bracket is
closed. -/
theorem leads_of_proposal {failed : Prop} {u v : State} (hunbound : s.registry.find? c = none)
    (hidle : c ∉ s.proposing.active) (hinside : (s.proposal c).Leads set (some c) failed u)
    (hclose : Change set failed u v) (hproposing : v.proposing = s.proposing)
    (helements : v.elements = u.elements) : s.Leads set none failed v where
  changes := ((Relation.ReflTransGen.single (.proposed hunbound hidle)).tail
    (.recorded rfl)).trans (hinside.changes.tail hclose)
  proposing := hproposing
  notes d hd _ := by
    rw [helements]
    refine hinside.notes d (List.mem_cons_of_mem c hd) fun h => hidle ?_
    exact Option.some.inj h ▸ hd

/-- What a proposal comes to is what the strategy proposes inside the bracket. -/
theorem exists_proposal (hidle : c ∉ s.proposing.active) {result : Except ResolveError _}
    (hrun : (propose .standard r c).runFrom s = (result, t)) :
    ∃ u, (r.proposeStandard c).runFrom (s.proposal c) = (result, u) ∧
      t = { u with proposing := u.proposing.leave } := by
  rw [runFrom_propose .standard r hidle] at hrun
  obtain ⟨rfl, rfl⟩ := Prod.mk.inj hrun
  exact ⟨_, rfl, rfl⟩

/-- A proposal that fails is **abandoned**. -/
theorem leads_propose_error (hr : r.Leads set) (hunbound : s.registry.find? c = none)
    {e : ResolveError} (hrun : (propose .standard r c).runFrom s = (.error e, t)) :
    s.Leads set none True t := by
  by_cases hidle : c ∈ s.proposing.active
  · obtain ⟨path, hfails⟩ := runFrom_propose_active .standard r hidle
    rw [hfails] at hrun
    cases hrun
    exact .refl s
  · obtain ⟨u, hproposed, rfl⟩ := exists_proposal hidle hrun
    have hinside := leads_proposeStandard (c := c) (s := s.proposal c) hr rfl
    rw [hproposed] at hinside
    refine leads_of_proposal hunbound hidle (hinside.imp fun _ => trivial) (.abandoned trivial) ?_
      rfl
    show u.proposing.leave = s.proposing
    rw [hinside.proposing]
    rfl

/-- What a proposal has led to when it succeeds: its outcome is what the component is destined for,
and the proposal is **concluded** once it is registered, for which there is room. -/
structure Proposed (set : SchemaSet) (c : ComponentId) (s : State) (a : Option TypeRef)
    (t : State) : Prop where
  destined : set.Destined c a
  vacant : t.registry.find? c = none
  leads : s.Leads set none False (t.registering c a)

/-- A proposal for a component without a binding comes to what the component is **destined** for. -/
theorem proposed_of_propose (hr : r.Leads set) (hunbound : s.registry.find? c = none)
    {a : Option TypeRef} (hrun : (propose .standard r c).runFrom s = (.ok a, t)) :
    Proposed set c s a t := by
  -- a proposal inside one for the same component fails
  have hidle : c ∉ s.proposing.active := by
    intro hc
    obtain ⟨path, hfails⟩ := runFrom_propose_active .standard r hc
    rw [hfails] at hrun
    cases hrun
  obtain ⟨u, hproposed, rfl⟩ := exists_proposal hidle hrun
  have hkeeps : (s.proposal c).Keeps none u :=
    (keeping_proposeStandard hr.keeping c).of_run hproposed
  have hinside := leads_proposeStandard (c := c) (s := s.proposal c) hr rfl
  rw [hproposed] at hinside
  -- questions leave the path of proposals as they found it
  have hoccupied : u.proposing = ⟨c :: s.proposing.active⟩ := hkeeps.proposing
  have hleft : u.proposing.leave = s.proposing := by
    rw [hoccupied]
    rfl
  have hvacant : u.registry.find? c = none := (hkeeps.proposed List.mem_cons_self).trans hunbound
  have houtcome := outcome_of_proposeStandard hproposed
  have hdestined : set.Destined c a := hr.schema ▸ houtcome.destined
  have hconcluded : Change set False u
      (({ u with proposing := s.proposing } : State).registering c a) := by
    refine .concluded (by rw [hoccupied]) hvacant hdestined ?_
    rintro w rfl
    cases houtcome with
    | wrapped _ allocated => exact lookup_of_allocateWrapper hr List.mem_cons_self allocated
  rw [hleft]
  refine ⟨hdestined, hvacant, leads_of_proposal hunbound hidle (hinside.imp ?_) hconcluded ?_ ?_⟩
  · simp [Resolving.Failed, hproposed, Except.isOk, Except.toBool]
  · simp
  · simp

/-- A global declaration is proposed in the package of its namespace, with the same consequences
outside of the package. -/
theorem proposed_of_proposeFor (hr : r.Leads set) (hunbound : s.registry.find? c = none) :
    (∀ e t, (proposeFor .standard r c).runFrom s = (.error e, t) → s.Leads set none True t) ∧
      ∀ a t, (proposeFor .standard r c).runFrom s = (.ok a, t) → Proposed set c s a t := by
  unfold proposeFor
  split
  · obtain ⟨p, u, hpackage⟩ : ∃ p u, (r.packageFor (r.schema.component c).ns).runFrom s =
        (.ok p, u) := ⟨_, _, rfl⟩
    have haside : s.Aside u := by
      have h := r.aside_packageOf (r.schema.component c).ns s
      rwa [show r.packageOf (r.schema.component c).ns s = (p, u) by cases hpackage; rfl] at h
    have hkeeps := keeping_propose hr.keeping Strategy.keeping_standard c
      (Resolving.inside (.package p) u)
    have hunbound' : (Resolving.inside (.package p) u).registry.find? c = none := by
      show u.registry.find? c = none
      rwa [haside.registry]
    rw [runFrom_bind, hpackage]
    dsimp only
    rw [Resolving.runFrom_withScope (by simp) hkeeps.scopes]
    rcases hrun : (propose .standard r c).runFrom (Resolving.inside (.package p) u) with ⟨e | a, t⟩
    · rw [hrun] at hkeeps
      have hinside := leads_propose_error hr hunbound' hrun
      constructor
      · rintro _ _ ⟨⟩
        exact (State.Leads.aside haside).trans (hinside.inside (by simp) hkeeps.scopes)
      · rintro _ _ ⟨⟩
    · rw [hrun] at hkeeps
      obtain ⟨hdestined, hvacant, hinside⟩ := proposed_of_propose hr hunbound' hrun
      constructor
      · rintro _ _ ⟨⟩
      · rintro _ _ ⟨⟩
        refine ⟨hdestined, hvacant, (State.Leads.aside haside).trans ?_⟩
        have hclosed := hinside.inside (by simp) (by simpa using hkeeps.scopes)
        cases a <;> exact hclosed
  · exact ⟨fun e t hrun => leads_propose_error hr hunbound hrun,
      fun a t hrun => proposed_of_propose hr hunbound hrun⟩

/-- A component is **bound** by changes. -/
theorem leading_bindingFor (hr : r.Leads set) (c : ComponentId) :
    Leading set none (bindingFor .standard r c) := by
  intro s
  cases hfind : s.registry.find? c with
  | some b =>
    unfold Resolving.Failed
    rw [runFrom_bindingFor, hfind]
    exact .refl s
  | none =>
    obtain ⟨herror, hok⟩ := proposed_of_proposeFor (r := r) hr hfind
    have hrunFrom : (bindingFor .standard r c).runFrom s =
        (proposeFor .standard r c >>= register c).runFrom s := by
      rw [runFrom_bindingFor, hfind]
    refine Leading.of_run (fun {a t} hrun => ?_) fun {e t} hrun => ?_
    · rw [hrunFrom] at hrun
      obtain ⟨outcome, u, hproposed, hregistered⟩ := runFrom_bind_ok.1 hrun
      obtain ⟨-, hvacant, hleads⟩ := hok outcome u hproposed
      cases outcome with
      | none =>
        cases hregistered
        exact hleads
      | some target =>
        -- the component is registered and may be queued, which changes nothing else
        obtain ⟨b, hqueued, rfl⟩ := Resolving.runFrom_map_ok.1 hregistered
        rw [runFrom_queueBuild, Registry.find?_eq_none_iff.1 hvacant] at hqueued
        cases hqueued
        exact hleads.trans (.aside ⟨rfl, rfl, rfl, rfl, rfl⟩)
    · rw [hrunFrom] at hrun
      rcases runFrom_bind_error.1 hrun with hproposed | ⟨outcome, u, hproposed, hregistered⟩
      · exact herror e t hproposed
      · -- what has been proposed can be registered
        have hvacant := (hok outcome u hproposed).vacant
        cases outcome with
        | none => cases hregistered
        | some target =>
          unfold register at hregistered
          rw [Resolving.runFrom_map, runFrom_queueBuild,
            Registry.find?_eq_none_iff.1 hvacant] at hregistered
          cases hregistered

/-- A component is resolved by changes, whether or not its body is built at once. -/
theorem leading_resolveWith (hr : r.Leads set) (c : ComponentId) (immediately : Bool) :
    Leading set none (resolveWith .standard r c immediately) := by
  unfold resolveWith
  refine (leading_bindingFor hr c).bind fun found => ?_
  cases found with
  | none => exact .pure _
  | some b =>
    dsimp only
    split
    · refine .reading fun s => ?_
      split
      · exact .refl s
      · exact ((leading_buildBinding hr b).bind fun _ => .pure _) s
    · exact .pure _

/-- The **standard** resolver leads by changes, at any depth of questions. -/
theorem leads_within (x : Context) (steps : Nat) : (within x .standard steps).Leads x.schema := by
  induction steps with
  | zero => exact ⟨rfl, keeping_within x Strategy.keeping_standard 0, fun c _ => .throw _⟩
  | succ steps ih =>
    exact ⟨rfl, keeping_within x Strategy.keeping_standard (steps + 1),
      fun c immediately => leading_resolveWith ih c immediately⟩

/-! ## Calls -/

/-- Taking from the queue changes the queue only. -/
theorem exists_queue_takeQueued (s : State) :
    ∃ queue, (takeQueued.runFrom s).2 = { s with queue } := by
  unfold takeQueued
  rw [Resolving.runFrom_modifyGet]
  split
  · exact ⟨s.queue, rfl⟩
  · exact ⟨_, rfl⟩

/-- **Draining** has what is kept in sequence, if taking from the queue and building bodies have
it. -/
theorem drainWithin_of_steps {P : {α : Type} → Resolving α → Prop}
    (pure : ∀ n : Nat, P (Pure.pure n : Resolving Nat))
    (throw : ∀ e, P (MonadExcept.throw e : Resolving Nat))
    (bind : ∀ {α β : Type} {step : Resolving α} {next : α → Resolving β}, P step →
      (∀ a, P (next a)) → P (step >>= next))
    (htake : P takeQueued) (hbuild : ∀ b, P (r.build b)) (steps : Nat) :
    P (r.drainWithin steps) := by
  induction steps with
  | zero =>
    unfold drainWithin
    refine bind htake fun b => ?_
    split
    · exact pure _
    · exact throw _
  | succ steps ih =>
    unfold drainWithin
    refine bind htake fun b => ?_
    split
    · exact pure _
    · exact bind (hbuild _) fun _ => bind ih fun _ => pure _

/-- The queue is worked off by changes if its bodies are built by changes. -/
theorem leading_drainWithin (hbuild : ∀ b, Leading set none (r.build b)) (steps : Nat) :
    Leading set none (r.drainWithin steps) := by
  refine drainWithin_of_steps (P := Leading set none) .pure .throw .bind (fun s => ?_) hbuild steps
  obtain ⟨queue, hqueue⟩ := exists_queue_takeQueued s
  rw [hqueue]
  exact .aside ⟨rfl, rfl, rfl, rfl, rfl⟩

/-- Whether a call **registers** a binding from outside. -/
def Call.registers : Call → Bool
  | queueBuild .. => true
  | _ => false

/-- A call that registers nothing from outside leads by changes. -/
theorem Call.leading (x : Context) {call : Call} (h : call.registers = false) :
    Leading x.schema none (call.step (.of x .standard)) := by
  have hr : (Resolver.of x .standard).Leads x.schema := leads_within x _
  have hbuild (b : Binding) : Leading x.schema none ((Resolver.of x .standard).build b) :=
    leading_buildBinding (leads_within x (2 * x.schema.size + 1)) b
  cases call with
  | bindToType c => exact (leading_bindToType hr c).map _
  | bindToTypeImmediately c => exact (hr.answers c true).map _
  | bindElement c =>
    refine Leading.map ?_ _
    unfold Resolver.bindElement
    split
    · exact leading_bindToType hr c
    · exact .pure _
  | bindComplexType c immediately => exact (leading_bindComplexType hr c immediately).map _
  | bindSchemaType c => exact (leading_bindSchemaType hr c).map _
  | isBound c => exact (leading_isBound hr c).map _
  | queueBuild c target => cases h
  | build b => exact hbuild b
  | drain => exact (leading_drainWithin hbuild _).map _
  | packageFor ns => exact (Leading.packageFor _ ns).map _

/-- Calls that register nothing from outside **lead by changes**, one after the other, and abandon
nothing as long as none of them fails. -/
theorem leads_after (x : Context) {calls : List Call}
    (hcalls : ∀ call ∈ calls, call.registers = false) (s : State) :
    s.Leads x.schema none (¬ Succeeds (.of x .standard) calls s)
      (after (.of x .standard) calls s) := by
  induction calls generalizing s with
  | nil => exact .refl s
  | cons call rest ih =>
    have hcall := Call.leading x (hcalls call List.mem_cons_self) s
    have hrest := ih (fun other h => hcalls other (List.mem_cons_of_mem call h))
      ((call.step (.of x .standard)).runFrom s).2
    refine (hcall.imp fun hfailed hall => ?_).trans (hrest.imp fun hrest hall => hrest hall.2)
    unfold Resolving.Failed at hfailed
    rw [hall.1] at hfailed
    cases hfailed

end SchemaBinding.Resolver
