import SchemaBinding.Proofs.Frame.Standard
import SchemaBinding.Proofs.Moves.Content

/-! # Steps as moves
A step **follows** the moves when it takes the ledger of a state to another one by moves, and, if it
fails, has come to a ledger at which it is stuck. Steps that only concern scopes, packages and
customizations leave the ledger alone. -/

namespace SchemaBinding

open Resolver (State Event)

variable {α β : Type} {x : Context} {limit : Nat} {s t : State}

/-! ## Ledgers of states -/

namespace Finding

@[simp] theorem code_diagnostic (f : Finding) (sources : Sources) :
    (f.diagnostic sources).code = f.key := by
  unfold diagnostic
  dsimp only
  split <;> rfl

@[simp] theorem message_diagnostic (f : Finding) (sources : Sources) :
    (f.diagnostic sources).message = f.message := by
  unfold diagnostic
  dsimp only
  split <;> rfl

end Finding

namespace Reports

/-- A finding is reported under its own key. -/
theorem withKey_raise (r : Reports) (f : Finding) (key : String) :
    (r.raise f).withKey key =
      r.withKey key ++ if f.key = key then [f.diagnostic r.sources] else [] := by
  unfold raise withKey
  rw [List.filter_append]
  by_cases hkey : f.key = key
  · simp [hkey]
  · simp [hkey]

/-- A finding is counted under its own key. -/
theorem length_withKey_raise (r : Reports) (f : Finding) (key : String) :
    ((r.raise f).withKey key).length =
      (r.withKey key).length + if f.key = key then 1 else 0 := by
  rw [withKey_raise, List.length_append]
  split <;> rfl

end Reports

namespace Resolver.State

@[simp] theorem ledger_inside (scope : Scope) (s : State) :
    (Resolving.inside scope s).ledger = s.ledger := rfl

@[simp] theorem ledger_proposal (s : State) (c : ComponentId) :
    (s.proposal c).ledger = s.ledger.proposal c := rfl

@[simp] theorem ledger_wrapping (s : State) (info : Component) (c : ComponentId) (scope : Scope) :
    (s.wrapping info c scope).ledger = s.ledger.wrapping info c scope := rfl

/-- A report about something else than a reserved class name leaves the ledger alone. -/
theorem ledger_raise {finding : Finding} (h : finding.key ≠ Finding.reservedClassNameKey) :
    ({ s with reports := s.reports.raise finding } : State).ledger = s.ledger := by
  unfold ledger
  simp only [Reports.length_withKey_raise, if_neg h, Nat.add_zero]

namespace Keeps

variable {inner : Option ClassId}

@[simp] theorem ledger_proposing (h : s.Keeps inner t) :
    t.ledger.proposing = s.ledger.proposing := congrArg CycleDetector.active h.proposing

@[simp] theorem ledger_building (h : s.Keeps inner t) :
    t.ledger.building = s.ledger.building := congrArg CycleDetector.active h.building

/-- The depth of the ledger is that of the bodies being built, which is kept. -/
theorem ledger_depth (h : s.Keeps inner t) : t.ledger.depth = s.ledger.depth := by
  unfold Ledger.depth
  rw [h.ledger_proposing, h.ledger_building]

/-- Events stay in the log. -/
theorem ledger_log (h : s.Keeps inner t) : s.ledger.log ⊆ t.ledger.log :=
  List.filterMap_subset _ h.journal.subset

end Keeps

end Resolver.State

/-! ## Following moves -/

namespace Resolving

/-- A step **follows** the moves from a ledger on: it succeeds with an answer, or gets stuck. -/
def FollowsFrom (x : Context) (limit : Nat) (l : Ledger) (step : Resolving α) (s : State)
    (answer : α → State → Prop) : Prop :=
  match step.runFrom s with
  | (.ok a, t) => Moves x l t.ledger ∧ answer a t
  | (.error e, _) => ∃ m, Moves x l m ∧ Stuck x limit m e

/-- A step follows the moves from the state that it is run from. -/
abbrev Follows (x : Context) (limit : Nat) (step : Resolving α) (s : State)
    (answer : α → State → Prop) : Prop := FollowsFrom x limit s.ledger step s answer

namespace FollowsFrom

variable {l : Ledger} {step : Resolving α} {answer : α → State → Prop}

/-- A step that succeeds. -/
theorem ok {a : α} (hrun : step.runFrom s = (.ok a, t)) (hmoves : Moves x l t.ledger)
    (hanswer : answer a t) : FollowsFrom x limit l step s answer := by
  unfold FollowsFrom
  rw [hrun]
  exact ⟨hmoves, hanswer⟩

/-- A step that gets stuck. -/
theorem error {e : ResolveError} {m : Ledger} (hrun : step.runFrom s = (.error e, t))
    (hmoves : Moves x l m) (hstuck : Stuck x limit m e) :
    FollowsFrom x limit l step s answer := by
  unfold FollowsFrom
  rw [hrun]
  exact ⟨m, hmoves, hstuck⟩

/-- What is known of a step that succeeded. -/
theorem of_ok (h : FollowsFrom x limit l step s answer) {a : α}
    (hrun : step.runFrom s = (.ok a, t)) : Moves x l t.ledger ∧ answer a t := by
  unfold FollowsFrom at h
  rwa [hrun] at h

/-- What is known of a step that failed. -/
theorem of_error (h : FollowsFrom x limit l step s answer) {e : ResolveError}
    (hrun : step.runFrom s = (.error e, t)) : ∃ m, Moves x l m ∧ Stuck x limit m e := by
  unfold FollowsFrom at h
  rwa [hrun] at h

/-- A step that is known to succeed may come before. -/
theorem of_run {before : Resolving β} {next : β → Resolving α} {b : β}
    (hrun : before.runFrom s = (.ok b, t)) (h : FollowsFrom x limit l (next b) t answer) :
    FollowsFrom x limit l (before >>= next) s answer := by
  rcases hrun' : (next b).runFrom t with ⟨e | a, u⟩
  · obtain ⟨m, hmoves, hstuck⟩ := h.of_error hrun'
    exact .error (runFrom_bind_error.2 (.inr ⟨b, t, hrun, hrun'⟩)) hmoves hstuck
  · obtain ⟨hmoves, hanswer⟩ := h.of_ok hrun'
    exact .ok (runFrom_bind_ok.2 ⟨b, t, hrun, hrun'⟩) hmoves hanswer

/-- Steps **compose**: the second one starts from where the first one has come to. -/
theorem bind {next : α → Resolving β} {answer' : β → State → Prop}
    (h : FollowsFrom x limit l step s answer)
    (hnext : ∀ a t, step.runFrom s = (.ok a, t) → Moves x l t.ledger → answer a t →
      Follows x limit (next a) t answer') : FollowsFrom x limit l (step >>= next) s answer' := by
  rcases hrun : step.runFrom s with ⟨e | a, t⟩
  · obtain ⟨m, hmoves, hstuck⟩ := h.of_error hrun
    exact .error (runFrom_bind_error.2 (.inl hrun)) hmoves hstuck
  · obtain ⟨hmoves, hanswer⟩ := h.of_ok hrun
    have hlater := hnext a t hrun hmoves hanswer
    rcases hrun' : (next a).runFrom t with ⟨e | b, u⟩
    · obtain ⟨m, hmoves', hstuck⟩ := hlater.of_error hrun'
      exact .error (runFrom_bind_error.2 (.inr ⟨a, t, hrun, hrun'⟩)) (hmoves.trans hmoves') hstuck
    · obtain ⟨hmoves', hanswer'⟩ := hlater.of_ok hrun'
      exact .ok (runFrom_bind_ok.2 ⟨a, t, hrun, hrun'⟩) (hmoves.trans hmoves') hanswer'

/-- A step that follows the moves to one answer follows them to any answer that the first
implies. -/
theorem imp {later : α → State → Prop} (h : FollowsFrom x limit l step s answer)
    (himp : ∀ a t, step.runFrom s = (.ok a, t) → Moves x l t.ledger → answer a t → later a t) :
    FollowsFrom x limit l step s later := by
  rcases hrun : step.runFrom s with ⟨e | a, t⟩
  · obtain ⟨m, hmoves, hstuck⟩ := h.of_error hrun
    exact .error hrun hmoves hstuck
  · obtain ⟨hmoves, hanswer⟩ := h.of_ok hrun
    exact .ok hrun hmoves (himp a t hrun hmoves hanswer)

end FollowsFrom

namespace Follows

variable {step : Resolving α} {answer : α → State → Prop}

/-- A step that first looks at the state. -/
theorem of_reading {next : State → Resolving α} (h : Follows x limit (next s) s answer) :
    Follows x limit (MonadState.get >>= next) s answer := by
  unfold Follows FollowsFrom
  rw [runFrom_get_bind]
  exact h

/-- To return an answer makes no move. -/
theorem pure {a : α} (h : answer a s) : Follows x limit (Pure.pure a) s answer :=
  .ok (runFrom_pure a s) .refl h

end Follows

/-! ## Silent steps -/

/-- A **silent** step succeeds and leaves the ledger alone. -/
def Silent (step : Resolving α) : Prop :=
  ∀ s : State, ∃ a t, step.runFrom s = (.ok a, t) ∧ t.ledger = s.ledger

namespace Silent

/-- To return is **silent**. -/
theorem pure (a : α) : Silent (Pure.pure a : Resolving α) := fun s => ⟨a, s, rfl, rfl⟩

/-- Silent steps in a row are silent. -/
theorem bind {step : Resolving α} {next : α → Resolving β} (h : Silent step)
    (hnext : ∀ a, Silent (next a)) : Silent (step >>= next) := by
  intro s
  obtain ⟨a, t, hrun, hledger⟩ := h s
  obtain ⟨b, u, hrun', hledger'⟩ := hnext a t
  exact ⟨b, u, runFrom_bind_ok.2 ⟨a, t, hrun, hrun'⟩, hledger'.trans hledger⟩

/-- A change outside the ledger is silent. -/
theorem modify {f : State → State} (h : ∀ s : State, (f s).ledger = s.ledger) :
    Silent (modify f : Resolving PUnit) := fun s => ⟨⟨⟩, f s, rfl, h s⟩

/-- A loop over silent steps is silent. -/
theorem forM {items : List α} {f : α → Resolving Unit} (h : ∀ a, Silent (f a)) :
    Silent (items.forM f) := by
  induction items with
  | nil => exact pure ()
  | cons a rest ih => exact (h a).bind fun _ => ih

/-- Acknowledging a component is silent: acknowledgements are not in the ledger. -/
theorem acknowledge (c : ComponentId) : Silent (Resolving.acknowledge c) := modify fun _ => rfl

/-- A silent step follows the moves without making one. -/
theorem follows {step : Resolving α} {answer : α → State → Prop} (h : Silent step)
    (hanswer : ∀ a t, step.runFrom s = (.ok a, t) → t.ledger = s.ledger → answer a t) :
    Follows x limit step s answer := by
  obtain ⟨a, t, hrun, hledger⟩ := h s
  refine .ok hrun ?_ (hanswer a t hrun hledger)
  rw [hledger]

/-- The search for a package is silent, be it found or created. -/
theorem packageFor (c : Context) (ns : String) : Silent (c.packageFor ns) := by
  intro s
  refine ⟨_, _, rfl, ?_⟩
  show (c.packageOf ns s).2.ledger = s.ledger
  cases hlookup : s.packages.lookup ns with
  | some id => rw [c.packageOf_known hlookup]
  | none =>
    rw [c.packageOf_unknown hlookup]
    -- the check of a package name reports under a key of its own
    have hcheck : (c.checkPackageName ns (c.packageName ns) s).ledger = s.ledger := by
      have hkey : Finding.incorrectPackageNameKey ≠ Finding.reservedClassNameKey := by decide
      refine c.checkPackageName_cases _ _ s (fun _ => rfl) (fun _ _ => rfl) fun _ _ => ?_
      exact State.ledger_raise (s := { s with checkedNames := _ }) hkey
    -- the new package is left out of ledgers
    refine .trans ?_ hcheck
    unfold State.ledger
    dsimp only
    congr 1
    unfold Model.package
    split <;> rfl

/-- Finding the package and the visibility for a namespace is silent. -/
theorem placement (r : Resolver) (ns : String) : Silent (r.placement ns) := by
  intro s
  unfold Resolver.placement
  rw [runFrom_get_bind]
  split
  · obtain ⟨a, t, hrun, hledger⟩ := packageFor r.toContext ns s
    exact ⟨.package a, t, runFrom_map_ok.2 ⟨a, hrun, rfl⟩, hledger⟩
  · exact ⟨_, s, rfl, rfl⟩

/-- Acknowledging an item is silent. -/
theorem acknowledgeItem (r : Resolver) (item : Item) : Silent (r.acknowledgeItem item) := by
  have hname (c : ComponentId) : Silent (r.acknowledgeName c) := by
    unfold Resolver.acknowledgeName
    split
    · exact acknowledge c
    · exact pure _
  cases item with
  | value type => exact pure _
  | occurrence particle => exact hname particle.term
  | attr id =>
    show Silent (if _ then _ else _)
    split
    · exact hname id
    · exact pure _

/-- The final report on customizations is silent. -/
theorem reportUnacknowledged (c : Context) : Silent c.reportUnacknowledged := by
  have hkey : Finding.unusedCustomizationKey ≠ Finding.reservedClassNameKey := by decide
  refine forM fun id => ?_
  intro s
  rw [runFrom_get_bind]
  split
  · exact ⟨_, _, rfl, State.ledger_raise hkey⟩
  · exact ⟨_, s, rfl, rfl⟩

end Silent

end Resolving

end SchemaBinding
