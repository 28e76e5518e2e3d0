import SchemaBinding.Resolver.State

/-! # Outcomes of steps
A composed step succeeds when each of its parts does, and fails with the first part that fails. The
brackets around scopes are closed whatever comes of the step inside them. -/

namespace SchemaBinding.Resolving

open Resolver (State)

variable {α β : Type} {step : Resolving α} {next : α → Resolving β} {s t : State}

/-- A step is run to the state that it leaves, whatever comes of it. -/
theorem runFrom_of_fst {result : Except ResolveError α} (h : (step.runFrom s).1 = result) :
    step.runFrom s = (result, (step.runFrom s).2) := Prod.ext h rfl

/-- A step after another **succeeds** when both do. -/
theorem runFrom_bind_ok {b : β} :
    (step >>= next).runFrom s = (.ok b, t) ↔
      ∃ a u, step.runFrom s = (.ok a, u) ∧ (next a).runFrom u = (.ok b, t) := by
  rw [runFrom_bind]
  rcases step.runFrom s with ⟨_ | a, u⟩
  · simp
  · constructor
    · exact fun h => ⟨a, u, rfl, h⟩
    · rintro ⟨a', u', ⟨rfl, rfl⟩, h⟩
      exact h

/-- A step after another **fails** when the first one fails, or the second one after it. -/
theorem runFrom_bind_error {e : ResolveError} :
    (step >>= next).runFrom s = (.error e, t) ↔
      step.runFrom s = (.error e, t) ∨
        ∃ a u, step.runFrom s = (.ok a, u) ∧ (next a).runFrom u = (.error e, t) := by
  rw [runFrom_bind]
  rcases step.runFrom s with ⟨_ | a, u⟩
  · simp
  · constructor
    · exact fun h => .inr ⟨a, u, rfl, h⟩
    · rintro (h | ⟨a', u', ⟨rfl, rfl⟩, h⟩)
      · cases h
      · exact h

/-- A step whose first part fails **fails** with it. -/
theorem fst_runFrom_bind_of_error {e : ResolveError} (h : (step.runFrom s).1 = .error e) :
    ((step >>= next).runFrom s).1 = .error e := by
  rw [runFrom_bind, runFrom_of_fst h]

/-- A mapped step succeeds with a value when the step itself gives what is mapped to it. -/
theorem runFrom_map_ok {f : α → β} {b : β} :
    (f <$> step).runFrom s = (.ok b, t) ↔ ∃ a, step.runFrom s = (.ok a, t) ∧ f a = b := by
  rw [runFrom_map]
  rcases step.runFrom s with ⟨_ | a, u⟩
  · simp [Except.map]
  · simp only [Except.map, Prod.mk.injEq, Except.ok.injEq]
    constructor
    · rintro ⟨hb, rfl⟩
      exact ⟨a, ⟨rfl, rfl⟩, hb⟩
    · rintro ⟨a', ⟨rfl, rfl⟩, hb⟩
      exact ⟨hb, rfl⟩

/-! ## Steps after single changes -/

/-- What reads the state goes on in it. -/
theorem runFrom_get_bind (next : State → Resolving β) (s : State) :
    (MonadState.get >>= next).runFrom s = (next s).runFrom s := by
  rw [runFrom_bind, runFrom_get]

/-- What goes on after a state is set starts there. -/
theorem runFrom_set_bind (next : PUnit → Resolving β) (s t : State) :
    (MonadStateOf.set t >>= next).runFrom s = (next ⟨⟩).runFrom t := by
  rw [runFrom_bind]
  rfl

/-- What goes on after an event is recorded finds it in the journal. -/
theorem runFrom_record_bind (event : Resolver.Event) (next : Unit → Resolving β) (s : State) :
    (record event >>= next).runFrom s =
      (next ()).runFrom { s with journal := event :: s.journal } := by
  rw [runFrom_bind]
  rfl

/-! ## Scopes -/

/-- A state with a scope pushed. -/
def inside (scope : Scope) (s : State) : State :=
  { s with scopes := .above (scope :: s.scopes.pushed) }

@[simp] theorem pushed_inside (scope : Scope) (s : State) :
    (inside scope s).scopes.pushed = scope :: s.scopes.pushed := ScopeStack.pushed_above _

@[simp] theorem depth_inside (scope : Scope) (s : State) :
    (inside scope s).scopes.depth = s.scopes.depth + 1 := by
  rw [ScopeStack.depth_eq, pushed_inside, ScopeStack.depth_eq, List.length_cons]

/-- A bracket is closed when it can be, and otherwise the state stays. -/
theorem runFrom_closeScope (depth : Nat) (s : State) :
    (closeScope depth).runFrom s = match s.scopes.popTo depth with
      | .ok scopes => (.ok (), { s with scopes })
      | .error e => (.error (.misplaced e), s) := by
  unfold closeScope
  rw [runFrom_bind, runFrom_get]
  dsimp only
  cases s.scopes.popTo depth <;> rfl

/-- A step inside a scope has its own outcome, if the scope can be **closed** behind it. -/
theorem runFrom_withScope_eq {scope : Scope} (hscope : scope ≠ .root) (step : Resolving α)
    (s : State) :
    (withScope scope step).runFrom s =
      match (step.runFrom (inside scope s)).2.scopes.popTo s.scopes.depth with
      | .ok scopes =>
        ((step.runFrom (inside scope s)).1, { (step.runFrom (inside scope s)).2 with scopes })
      | .error e => (.error (.misplaced e), (step.runFrom (inside scope s)).2) := by
  have hpush : (pushScope scope).runFrom s = (.ok (), inside scope s) := by
    unfold pushScope
    rw [runFrom_get_bind, ScopeStack.push_of_ne hscope]
    rfl
  unfold withScope
  rw [runFrom_bind, runFrom_get]
  dsimp only
  rw [runFrom_bind, hpush]
  dsimp only
  rw [runFrom_bind, runFrom_attempt]
  dsimp only
  rw [runFrom_bind, runFrom_closeScope]
  cases (step.runFrom (inside scope s)).2.scopes.popTo s.scopes.depth with
  | error e => rfl
  | ok scopes => exact runFrom_settle _ _

/-- A step **inside a scope** that leaves the stack as it found it ends outside of the scope, with
the outcome that it has inside. -/
theorem runFrom_withScope {scope : Scope} (hscope : scope ≠ .root)
    (hbalanced : (step.runFrom (inside scope s)).2.scopes = (inside scope s).scopes) :
    (withScope scope step).runFrom s =
      ((step.runFrom (inside scope s)).1,
        { (step.runFrom (inside scope s)).2 with scopes := s.scopes }) := by
  have hpop : (inside scope s).scopes.popTo s.scopes.depth = .ok s.scopes := by
    rw [ScopeStack.popTo_of_eq (depth_inside scope s), pushed_inside, List.drop_one,
      List.tail_cons, ScopeStack.above_pushed]
  rw [runFrom_withScope_eq hscope, hbalanced, hpop]

end SchemaBinding.Resolving
