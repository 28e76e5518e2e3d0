import SchemaBinding.Proofs.Changes.Run

/-! # What every call restores
A call of the resolver may open scopes, move the cursor and enter components into the paths of its
proposals and of its bodies. Whatever comes of the call, these brackets are afterwards as they were
before it. Scopes may also be pushed and popped from outside. In no state that is reached in one way
or the other is the root anywhere but below all other scopes. -/

namespace SchemaBinding

open Resolver (State Event Place Change Changes Call)

variable {α β : Type} {s t u : State}

namespace Resolver.State

/-- The brackets that one state is inside of are **restored** in another. -/
structure Restored (s t : State) : Prop where
  scopes : t.scopes = s.scopes
  cursor : t.cursor = s.cursor
  proposing : t.proposing = s.proposing
  building : t.building = s.building

/-- A state is restored in itself. -/
theorem Restored.refl (s : State) : Restored s s := ⟨rfl, rfl, rfl, rfl⟩

/-- What is restored twice in a row is restored. -/
theorem Restored.trans (h : Restored s t) (h' : Restored t u) : Restored s u where
  scopes := h'.scopes.trans h.scopes
  cursor := h'.cursor.trans h.cursor
  proposing := h'.proposing.trans h.proposing
  building := h'.building.trans h.building

end Resolver.State

namespace Resolving

/-! ## Restoring -/

/-- A step **restores** the brackets that it is run in, whatever comes of it. -/
def Restoring (step : Resolving α) : Prop := ∀ s : State, s.Restored (step.runFrom s).2

namespace Restoring

variable {step : Resolving α} {next : α → Resolving β}

/-- What keeps the state restores its brackets. -/
theorem ofKeeping (h : Keeping none step) : Restoring step := fun s =>
  { scopes := (h s).scopes
    cursor := (h s).cursor
    proposing := (h s).proposing
    building := (h s).building }

/-- To return restores every bracket. -/
theorem pure (a : α) : Restoring (Pure.pure a : Resolving α) := fun s => .refl s

/-- To fail restores every bracket. -/
theorem throw (e : ResolveError) : Restoring (MonadExcept.throw e : Resolving α) :=
  fun s => .refl s

/-- Steps in a row restore the brackets if each does. -/
theorem bind (h : Restoring step) (hnext : ∀ a, Restoring (next a)) :
    Restoring (step >>= next) := by
  intro s
  have hstep := h s
  rw [runFrom_bind]
  rcases hrun : step.runFrom s with ⟨_ | a, t⟩
  · rw [hrun] at hstep
    exact hstep
  · rw [hrun] at hstep
    exact hstep.trans (hnext a t)

/-- Rewriting the answer of a step opens no bracket. -/
theorem map (h : Restoring step) (f : α → β) : Restoring (f <$> step) := by
  intro s
  rw [runFrom_map]
  exact h s

/-- Queueing a body opens no bracket. -/
theorem queueBuild (c : ComponentId) (target : TypeRef) :
    Restoring (Resolving.queueBuild c target) := by
  intro s
  rw [Resolver.runFrom_queueBuild]
  split
  · split <;> exact .refl s
  · exact ⟨rfl, rfl, rfl, rfl⟩

/-- Working off the queue restores the brackets if building a body does. -/
theorem drainWithin {r : Resolver} (hbuild : ∀ b, Restoring (r.build b)) (steps : Nat) :
    Restoring (r.drainWithin steps) := by
  refine Resolver.drainWithin_of_steps (P := Restoring) pure throw bind (fun s => ?_) hbuild steps
  obtain ⟨queue, hqueue⟩ := Resolver.exists_queue_takeQueued s
  rw [hqueue]
  exact ⟨rfl, rfl, rfl, rfl⟩

end Restoring

end Resolving

namespace Resolver

open Resolving (Restoring)

/-- Building a body restores the brackets, at any depth of questions. -/
theorem restoring_build (x : Context) (n : Nat) (b : Binding) :
    Restoring ((within x .standard n).build b) := by
  cases n with
  | zero => exact .throw _
  | succ n =>
    have hr := keeping_within x Strategy.keeping_standard n
    exact .ofKeeping (keeping_buildBinding hr Strategy.keeping_standard b)

/-- Every **call** restores the brackets, at any depth of questions. -/
theorem Call.restoring (x : Context) (n : Nat) (call : Call) :
    Restoring (call.step (within x .standard n)) := by
  have hr := keeping_within x Strategy.keeping_standard n
  have hbuild := restoring_build x n
  cases call with
  | bindToType c => exact (Restoring.ofKeeping (hr c false)).map _
  | bindToTypeImmediately c => exact (Restoring.ofKeeping (hr c true)).map _
  | bindElement c =>
    refine Restoring.map ?_ _
    unfold Resolver.bindElement
    split
    · exact .ofKeeping (hr c false)
    · exact .pure _
  | bindComplexType c immediately =>
    exact (Restoring.ofKeeping (keeping_bindComplexType hr c immediately)).map _
  | bindSchemaType c =>
    exact (Restoring.ofKeeping (keeping_bindSchemaType hr c)).map _
  | isBound c => exact (Restoring.ofKeeping (keeping_isBound hr c)).map _
  | queueBuild c target => exact (Restoring.queueBuild c target).map _
  | build b => exact hbuild b
  | drain => exact (Restoring.drainWithin hbuild _).map _
  | packageFor ns =>
    exact (Restoring.ofKeeping (Resolving.Keeping.packageFor _ ns)).map _

/-! ## The root -/

/-- An **operation** on a resolver: a call, or a step of a bracket around calls. -/
inductive Operation where
  | call (call : Call)
  | pushScope (scope : Scope)
  | popScope
  | closeScope (depth : Nat)
  deriving DecidableEq, Repr

/-- The step of an operation, without its answer. -/
def Operation.step (r : Resolver) : Operation → Resolving Unit
  | call c => c.step r
  | pushScope scope => Resolving.pushScope scope
  | popScope => (fun _ => ()) <$> Resolving.popScope
  | closeScope depth => Resolving.closeScope depth

/-- The state that operations **reach** one after the other, also after one that fails. -/
def reach (r : Resolver) (operations : List Operation) (s : State) : State :=
  operations.foldl (fun s operation => ((operation.step r).runFrom s).2) s

/-- A place is **rooted** when the root is its scope exactly if no other scope is open. -/
def Place.Rooted (p : Place) : Prop := p.scope = .root ↔ p.depth = 0

/-- A state is **rooted** when the root has not been pushed, nor had been wherever a body was
built. -/
structure State.Rooted (s : State) : Prop where
  inner : .root ∉ s.scopes.pushed
  begun : ∀ {c k place}, .begun c k place ∈ s.journal → place.Rooted
  done : ∀ {c k place}, .done c k place ∈ s.journal → place.Rooted

namespace State.Rooted

/-- The place of a rooted state is rooted. -/
theorem place (h : s.Rooted) : s.place.Rooted := by
  unfold Place.Rooted State.place
  dsimp only
  rw [ScopeStack.current_eq, ScopeStack.depth_eq]
  have hinner := h.inner
  cases hpushed : s.scopes.pushed with
  | nil => simp
  | cons scope rest =>
    rw [hpushed] at hinner
    simpa using fun hroot : scope = .root => hinner (hroot ▸ List.mem_cons_self)

/-- A rooted state stays so while nothing but new scopes change. -/
theorem congr (h : s.Rooted) (hinner : .root ∉ t.scopes.pushed) (hjournal : t.journal = s.journal) :
    t.Rooted where
  inner := hinner
  begun hmem := h.begun (hjournal ▸ hmem)
  done hmem := h.done (hjournal ▸ hmem)

/-- Every **change** leaves a rooted state rooted. -/
theorem change {set : SchemaSet} {failed : Prop} (hchange : Change set failed s t)
    (h : s.Rooted) : t.Rooted := by
  cases hchange with
  | aside aside => exact h.congr (aside.scopes ▸ h.inner) aside.journal
  | opened inner =>
    refine h.congr ?_ rfl
    simpa using ⟨fun hroot => inner hroot.symm, h.inner⟩
  | @closed scope rest top =>
    refine h.congr (fun hmem => h.inner ?_) rfl
    rw [ScopeStack.pushed_above] at hmem
    rw [top]
    exact .tail scope hmem
  | recorded happens =>
    -- a body is recorded where it is built
    refine ⟨h.inner, fun hmem => ?_, fun hmem => ?_⟩
    · rcases List.mem_cons.1 hmem with rfl | hmem
      · exact happens ▸ h.place
      · exact h.begun hmem
    · rcases List.mem_cons.1 hmem with rfl | hmem
      · exact happens ▸ h.place
      · exact h.done hmem
  | concluded => exact h.congr (by simpa using h.inner) (by simp)
  | proposed | noted | unbound | abandoned => exact h.congr h.inner rfl

/-- Every **operation** leaves a rooted state rooted. -/
theorem operation (x : Context) (h : s.Rooted) (operation : Operation) :
    ((operation.step (.of x .standard)).runFrom s).2.Rooted := by
  cases operation with
  | call c =>
    show ((c.step (.of x .standard)).runFrom s).2.Rooted
    cases hregisters : c.registers with
    | false => exact (Call.leading x hregisters s).changes.induct change h
    | true =>
      cases c with
      | queueBuild c target =>
        unfold Call.step
        rw [Resolving.runFrom_map, runFrom_queueBuild]
        split
        · split <;> exact h
        · exact h.congr h.inner rfl
      | _ => cases hregisters
  | pushScope scope =>
    unfold Operation.step Resolving.pushScope
    rw [Resolving.runFrom_get_bind]
    by_cases hscope : scope = .root
    · simpa [ScopeStack.push, hscope] using h
    · rw [ScopeStack.push_of_ne hscope]
      refine h.congr ?_ rfl
      simpa using ⟨fun hroot => hscope hroot.symm, h.inner⟩
  | popScope =>
    unfold Operation.step
    rw [Resolving.runFrom_map]
    unfold Resolving.popScope
    rw [Resolving.runFrom_get_bind]
    have hinner := h.inner
    cases hpushed : s.scopes.pushed with
    | nil =>
      rw [ScopeStack.pop_of_nil hpushed]
      exact h
    | cons scope rest =>
      rw [hpushed] at hinner
      have hrest : .root ∉ (ScopeStack.above rest).pushed := by
        rw [ScopeStack.pushed_above]
        exact fun hmem => hinner (List.mem_cons_of_mem scope hmem)
      rw [ScopeStack.pop_of_cons hpushed]
      exact h.congr hrest rfl
  | closeScope depth =>
    unfold Operation.step Resolving.closeScope
    rw [Resolving.runFrom_get_bind]
    by_cases hdepth : s.scopes.depth = depth + 1
    · have hrest : .root ∉ (ScopeStack.above (s.scopes.pushed.drop 1)).pushed := by
        rw [ScopeStack.pushed_above]
        exact fun hmem => h.inner (List.mem_of_mem_drop hmem)
      rw [ScopeStack.popTo_of_eq hdepth]
      exact h.congr hrest rfl
    · rw [ScopeStack.popTo_of_ne hdepth]
      exact h

end State.Rooted

/-- Every state that is **reached** from a rooted one is rooted. -/
theorem rooted_reach (x : Context) (operations : List Operation) (h : s.Rooted) :
    (reach (.of x .standard) operations s).Rooted := by
  induction operations generalizing s with
  | nil => exact h
  | cons operation rest ih => exact ih (h.operation x operation)

/-- **Brackets are restored on every exit**, from any state and at any depth of questions, and no
state that is reached from the initial one has the root above another scope. -/
theorem restored_on_every_exit (x : Context) :
    (∀ (n : Nat) (call : Call) (s : State),
      s.Restored ((call.step (within x .standard n)).runFrom s).2) ∧
    (∀ (n steps : Nat) (s : State),
      s.Restored (((within x .standard n).drainWithin steps).runFrom s).2) ∧
    ∀ reports operations,
      let s := reach (.of x .standard) operations (.initial reports SchemaSet.anyType)
      (∃ above, s.scopes.scopes = above ++ [.root] ∧ .root ∉ above) ∧
      ∀ c k place, .begun c k place ∈ s.journal ∨ .done c k place ∈ s.journal →
        (place.scope = .root ↔ place.depth = 0) := by
  refine ⟨fun n call s => call.restoring x n s,
    fun n steps s => Restoring.drainWithin (restoring_build x n) steps s,
    fun reports operations => ?_⟩
  have hinitial : (State.initial reports SchemaSet.anyType).Rooted :=
    ⟨by simp [State.initial], by simp [State.initial], by simp [State.initial]⟩
  have hrooted := rooted_reach x operations hinitial
  refine ⟨⟨_, ScopeStack.scopes_eq _, hrooted.inner⟩, fun c k place hmem => ?_⟩
  exact hmem.elim hrooted.begun hrooted.done

end Resolver

end SchemaBinding
