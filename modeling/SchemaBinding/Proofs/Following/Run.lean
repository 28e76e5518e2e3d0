import Mathlib.Data.List.Perm.Subperm
import SchemaBinding.Compilation
import SchemaBinding.Proofs.Following.Resolver

/-! # Runs as moves
A run binds its declarations and drains the queue. If it comes to its end, the ledger it has reached
is **finished**: nothing is queued, proposed or built any more. If it fails, it was stuck. -/

namespace SchemaBinding

open Resolver (State)

variable {x : Context} {limit n : Nat} {s t : State}

/-! ## The size of a registry -/

/-- Bindable components exist. -/
theorem SchemaSet.index_lt_of_isBindable {set : SchemaSet} {c : ComponentId}
    (h : set.isBindable c = true) : c.index < set.size := by
  by_contra hsize
  have hdefault : set.component c = default := by
    unfold component
    rw [Array.getD_eq_getD_getElem?, Array.getElem?_eq_none (Nat.not_lt.1 hsize)]
    rfl
  rw [isBindable, hdefault] at h
  cases h

/-- There is at most one binding for each component, besides that of the universal type. -/
theorem Reachable.size_registry_le {l : Ledger} (h : Reachable x l) :
    l.registry.size ≤ x.schema.size + 1 := by
  have hsubset : l.registry.bindings.map Binding.component ⊆ SchemaSet.anyType :: x.schema.ids := by
    intro c hc
    obtain ⟨b, hb, rfl⟩ := List.mem_map.1 hc
    have htarget := Registry.target?_of_mem h.inOrder.once hb
    rcases h.inOrder.bindable b.component b.target htarget with hany | hbindable
    · exact List.mem_cons.2 (.inl hany)
    · refine .tail _ (List.mem_map.2 ⟨b.component.index, ?_, rfl⟩)
      exact List.mem_range.2 (SchemaSet.index_lt_of_isBindable hbindable)
  -- bindings have distinct components, so there are no more of them than components
  have hlength := (List.Nodup.subperm h.inOrder.once hsubset).length_le
  simpa [SchemaSet.ids, Registry.size] using hlength

namespace Resolving

/-! ## Draining -/

/-- The bodies in the queue are built until **none is left**. Each of them is taken off for good,
and with each new one a binding is registered, so the steps suffice. -/
theorem follows_drainWithin {steps : Nat} (hs : Reachable x s.ledger)
    (alone : s.ledger.proposing = []) (outside : s.ledger.building = []) (hdeep : limit ≤ n + 1)
    (hsteps : x.schema.size + 1 + s.ledger.queue.length ≤ s.ledger.registry.size + steps) :
    Follows x limit ((Resolver.within x .standard (n + 1)).drainWithin steps) s fun _ t =>
      t.ledger.queue = [] ∧ t.ledger.proposing = [] ∧ t.ledger.building = [] := by
  induction steps generalizing s with
  | zero =>
    -- as many bindings are registered as there can be, so no body waits any more
    have hsize := hs.size_registry_le
    have hempty : s.queue = [] := List.length_eq_zero_iff.1 (by
      show s.ledger.queue.length = 0
      omega)
    exact .of_run (Resolver.runFrom_takeQueued_nil hempty) (Follows.pure ⟨hempty, alone, outside⟩)
  | succ steps ih =>
    cases hqueue : s.queue with
    | nil =>
      exact .of_run (Resolver.runFrom_takeQueued_nil hqueue) (Follows.pure ⟨hqueue, alone, outside⟩)
    | cons b rest =>
      have htake := Resolver.runFrom_takeQueued_cons hqueue
      have hlast : s.ledger.queue = b :: rest := hqueue
      have hbound : s.ledger.target? b.component = some b.target :=
        hs.building.queued b (by rw [hlast]; exact List.mem_cons_self)
      -- the binding has left the queue before its body is built
      have hbuild := followsFrom_buildBinding (Resolver.sound_within x limit n) hs
        (s := { s with queue := rest }) rfl (.inr hlast) alone (by simp [outside]) hbound
        (by simp [outside]) (hdeep.trans (by omega))
      refine .of_run htake (hbuild.bind fun _ t hrun hmoves ⟨_, hwaiting⟩ => ?_)
      have hwaiting : t.ledger.queue.length + s.ledger.registry.size ≤
          rest.length + t.ledger.registry.size := hwaiting
      have hkeeps : State.Keeps none { s with queue := rest } t :=
        (Resolver.keeping_buildBinding (Resolver.sound_within x limit n).keeping
          Strategy.keeping_standard b).of_run hrun
      -- the queue has grown by no more than the registry since then
      have hsteps : x.schema.size + 1 + t.ledger.queue.length ≤ t.ledger.registry.size + steps := by
        rw [hlast, List.length_cons] at hsteps
        omega
      exact (ih (hs.moves hmoves) (hkeeps.ledger_proposing.trans alone)
        (hkeeps.ledger_building.trans outside) hsteps).bind fun _ _ _ _ h => .pure h

/-! ## Declarations -/

/-- Declarations are bound one after the other. -/
theorem follows_declarations {ids : List ComponentId} (hs : Reachable x s.ledger)
    (alone : s.ledger.proposing = []) (outside : s.ledger.building = []) (hdeep : limit ≤ n) :
    Follows x limit (ids.forM fun id => do
      let _ ← (Resolver.within x .standard n).bindToType id) s fun _ t =>
        t.ledger.proposing = [] ∧ t.ledger.building = [] ∧ ∀ d ∈ ids, x.Answered t.ledger d := by
  induction ids generalizing s with
  | nil => exact .pure ⟨alone, outside, by simp⟩
  | cons c rest ih =>
    have hsound := Resolver.sound_within x limit n
    -- outside of proposals any component may be asked for
    have hready : s.Ready x limit n c :=
      ⟨hs, by simp [alone], hdeep.trans (Nat.le_add_left _ _)⟩
    have hfirst : Follows x limit (do
        let _ ← (Resolver.within x .standard n).bindToType c) s fun _ t =>
          t.ledger.proposing = [] ∧ t.ledger.building = [] ∧ x.Answered t.ledger c := by
      refine (hsound.answers c false s hready (by simp)).bind fun _ t hrun _ hreply => .pure ?_
      have hkeeps : s.Keeps none t := (hsound.keeping c false).of_run hrun
      exact ⟨hkeeps.ledger_proposing.trans alone, hkeeps.ledger_building.trans outside,
        hreply.answered⟩
    refine hfirst.bind fun _ t _ hmoves ⟨halone, houtside, hanswered⟩ => ?_
    have ht := hs.moves hmoves
    refine (ih ht halone houtside).imp fun _ u _ hmoves' ⟨halone', houtside', hrest⟩ => ?_
    refine ⟨halone', houtside', fun d hd => ?_⟩
    rcases List.mem_cons.1 hd with rfl | hd
    · exact ht.answered_moves hmoves' hanswered
    · exact hrest d hd

end Resolving

/-! ## Whole runs -/

/-- A ledger is **finished** when nothing is left to do for the declarations of a run. -/
structure Ledger.Finished (x : Context) (declared : List ComponentId) (l : Ledger) : Prop where
  reachable : Reachable x l
  queue : l.queue = []
  proposing : l.proposing = []
  building : l.building = []
  answered : ∀ d ∈ declared, x.Answered l d

namespace Compilation

variable {c : Compilation}

/-- A compilation by the standard strategy resolves by it. -/
theorem resolver_of_standard (hstandard : c.strategy = .standard) :
    c.resolver = .of c.context .standard := by
  rw [resolver, hstandard]

/-- A run that succeeds is a compilation with its model and its reports. -/
theorem outcome_of_ok (hrun : c.run = (.ok (), s)) :
    c.outcome = .ok ⟨c.schema, s.model, s.reports⟩ := by
  unfold outcome
  rw [hrun]

/-- The outcome of a run that fails is its error. -/
theorem outcome_of_error {e : ResolveError} (hrun : c.run.1 = .error e) : c.outcome = .error e := by
  unfold outcome
  rw [show c.run = (.error e, c.run.2) from Prod.ext hrun rfl]

/-- What compiles has been **run** to its end. -/
theorem exists_run_of_compile {o : Outcome} (h : c.compile = .ok o) :
    ∃ s, c.run = (.ok (), s) ∧ o = ⟨c.schema, s.model, s.reports⟩ := by
  unfold compile outcome at h
  rcases hrun : c.run with ⟨e | _, s⟩
  · rw [hrun] at h
    cases h
  · rw [hrun] at h
    cases h
    exact ⟨s, rfl, rfl⟩

/-- A manifest that compiles has a schema set, over which the compilation is **run**. -/
theorem exists_run_of_compileManifest {text name : String} {o : Outcome}
    (h : c.compileManifest text name = .ok o) :
    SchemaSet.ofManifest text name = .ok o.schema ∧
      ∃ s, ({ c with schema := o.schema } : Compilation).run = (.ok (), s) ∧
        o = ⟨o.schema, s.model, s.reports⟩ := by
  unfold compileManifest at h
  cases hset : SchemaSet.ofManifest text name with
  | error cause =>
    rw [hset] at h
    cases h
  | ok set =>
    rw [hset] at h
    obtain ⟨s, hrun, rfl⟩ := exists_run_of_compile h
    exact ⟨rfl, s, hrun, rfl⟩

/-- Registering sources reports nothing. -/
@[simp] theorem diagnostics_start (c : Compilation) : c.start.reports.diagnostics = [] := by
  have hreports (sources : List SourceFile) (reports : Reports) :
      (sources.foldl (fun r file => (r.addSource file.name file.text).2) reports).diagnostics =
        reports.diagnostics := by
    induction sources generalizing reports with
    | nil => rfl
    | cons file rest ih => exact ih _
  exact hreports c.sources {}

/-- A run starts at the empty ledger. -/
theorem ledger_start (c : Compilation) : c.start.ledger = .start := by
  unfold State.ledger Reports.withKey
  rw [diagnostics_start]
  rfl

/-- The steps that bind the declarations of the run. -/
def bindDeclarations (c : Compilation) (r : Resolver) : Resolving Unit :=
  c.declarations.forM fun id => do
    let _ ← r.bindToType id

/-- The steps of the run with another resolver, taking at most so many bindings off the queue. -/
def stepsWith (c : Compilation) (r : Resolver) (turns : Nat) : Resolving Unit := do
  c.bindDeclarations r
  let _ ← r.drainWithin turns
  c.context.reportUnacknowledged

/-- A run with a standard resolver follows the moves, if it may take off as many bindings as there
are components. -/
theorem follows_stepsWith (hdeep : limit ≤ n + 1) {turns : Nat} (hturns : c.schema.size ≤ turns) :
    Resolving.Follows c.context limit
      (c.stepsWith (.within c.context .standard (n + 1)) turns) c.start fun _ t =>
        t.ledger.Finished c.context c.declarations := by
  have hstart : Reachable c.context c.start.ledger := by
    rw [ledger_start]
    exact .start _
  unfold stepsWith bindDeclarations
  refine (Resolving.follows_declarations hstart ?_ ?_ hdeep).bind fun _ t _ hmoves hdeclared => ?_
  · rw [ledger_start]
    rfl
  · rw [ledger_start]
    rfl
  · obtain ⟨halone, houtside, hanswered⟩ := hdeclared
    have ht := hstart.moves hmoves
    -- every queued binding is registered, and so is the universal type, so the turns suffice
    have hwaiting : t.ledger.queue.length + 1 ≤ t.ledger.registry.size := by
      have hmoves := Ledger.waiting_moves hmoves
      rw [ledger_start] at hmoves
      simpa [Ledger.start, Registry.size] using hmoves
    have hdrain : Resolving.Follows c.context limit
        ((Resolver.within c.context .standard (n + 1)).drainWithin turns) t fun _ u =>
          u.ledger.queue = [] ∧ u.ledger.proposing = [] ∧ u.ledger.building = [] :=
      Resolving.follows_drainWithin ht halone houtside hdeep (by
        show c.schema.size + 1 + _ ≤ _
        omega)
    refine hdrain.bind fun _ u _ hmoves' hdrained => ?_
    obtain ⟨hqueue, hproposing, hbuilding⟩ := hdrained
    refine (Resolving.Silent.reportUnacknowledged c.context).follows fun _ v _ hledger => ?_
    rw [hledger]
    exact ⟨ht.moves hmoves', hqueue, hproposing, hbuilding,
      fun d hd => ht.answered_moves hmoves' (hanswered d hd)⟩

/-- The standard run follows the moves. -/
theorem follows_steps (hstandard : c.strategy = .standard) :
    Resolving.Follows c.context (2 * c.schema.size + 2) c.steps c.start fun _ t =>
      t.ledger.Finished c.context c.declarations := by
  have hsteps : c.steps = c.stepsWith
      (.within c.context .standard (2 * c.schema.size + 2)) (c.schema.size + 1) := by
    rw [← hstandard]
    rfl
  rw [hsteps]
  exact follows_stepsWith le_rfl (Nat.le_succ _)

/-- A standard run that **comes to its end** leaves a finished ledger. -/
theorem finished_of_run (hstandard : c.strategy = .standard) (hrun : c.run = (.ok (), s)) :
    s.ledger.Finished c.context c.declarations :=
  ((follows_steps hstandard).of_ok hrun).2

/-- A standard run that **fails** was stuck. -/
theorem stuck_of_run (hstandard : c.strategy = .standard) {e : ResolveError}
    (hrun : c.run = (.error e, s)) :
    ∃ l, Reachable c.context l ∧ Stuck c.context (2 * c.schema.size + 2) l e := by
  obtain ⟨l, hmoves, hstuck⟩ := (follows_steps hstandard).of_error hrun
  rw [ledger_start] at hmoves
  exact ⟨l, hmoves, hstuck⟩

end Compilation

end SchemaBinding
