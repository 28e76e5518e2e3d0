import SchemaBinding.Proofs.Running

/-! # Brackets around callbacks
A bracket pushes a scope, hands the run over to a callback and pops the scope afterwards. The
callback may push and pop scopes as it likes, and all that is asked of it is to leave the **depth**
that it was given. So the scopes below the lowest depth on its way are kept. A callback that takes
no scope from outside of its bracket restores the whole stack; one that does is not noticed, if it
leaves as many scopes in their place. -/

namespace SchemaBinding

open Resolver (State)

/-! ## The outermost scopes -/

namespace ScopeStack

variable {s t : ScopeStack} {scope : Scope} {n : Nat}

/-- A scope **is pushed** onto a stack when it is not the root. -/
theorem push_eq_ok : s.push scope = .ok t ↔ scope ≠ .root ∧ t = above (scope :: s.pushed) := by
  by_cases hroot : scope = .root
  · simp [push, hroot]
  · simp [push_of_ne hroot, hroot, eq_comm]

/-- A scope **is popped** from a stack when it was pushed onto the one that is left. -/
theorem pop_eq_ok : s.pop = .ok (scope, t) ↔ s.pushed = scope :: t.pushed := by
  cases hpushed : s.pushed with
  | nil => simp [pop_of_nil hpushed]
  | cons top below =>
    rw [pop_of_cons hpushed]
    constructor
    · rintro ⟨⟩
      rw [pushed_above]
    · rintro ⟨⟩
      rw [above_pushed]

/-- The **outermost** scopes of a stack, as many as are asked for. -/
def outermost (s : ScopeStack) (n : Nat) : List Scope := s.pushed.drop (s.depth - n)

/-- All scopes that are pushed are the outermost ones, as many as there are. -/
theorem outermost_depth (s : ScopeStack) : s.outermost s.depth = s.pushed := by
  simp [outermost]

/-- A scope is pushed inside of all others. -/
theorem outermost_push (h : s.push scope = .ok t) (hn : n ≤ s.depth) :
    t.outermost n = s.outermost n := by
  obtain ⟨-, rfl⟩ := push_eq_ok.1 h
  unfold outermost
  rw [depth_above, pushed_above, List.length_cons, ← depth_eq, Nat.succ_sub hn,
    List.drop_succ_cons]

/-- The innermost scope is popped, and the others stay. -/
theorem outermost_pop (h : s.pop = .ok (scope, t)) (hn : n ≤ t.depth) :
    t.outermost n = s.outermost n := by
  unfold outermost
  rw [depth_eq s, pop_eq_ok.1 h, List.length_cons, ← depth_eq, Nat.succ_sub hn,
    List.drop_succ_cons]

/-- Closing a bracket takes the innermost scope away. -/
theorem outermost_drop_one (hn : n < s.depth) :
    (above (s.pushed.drop 1)).outermost n = s.outermost n := by
  unfold outermost
  rw [depth_above, pushed_above, List.drop_drop, List.length_drop, ← depth_eq]
  congr 1
  omega

end ScopeStack

/-! ## Callbacks -/

/-- A **callback** of pushes and pops, which goes on after each call as it is answered. -/
inductive ScopeCallback (α : Type) where
  | done (result : α)
  | push (scope : Scope) (next : Except ResolveError Unit → ScopeCallback α)
  | pop (next : Except ResolveError Scope → ScopeCallback α)

namespace ScopeCallback

variable {α : Type} {n : Nat}

/-- The step of a callback. A call that fails is answered with its error. -/
def step : ScopeCallback α → Resolving α
  | done result => pure result
  | push scope next => do (next (← (Resolving.pushScope scope).attempt)).step
  | pop next => do (next (← Resolving.popScope.attempt)).step

/-- What a callback returns, and the stack that it **leaves**. -/
def leave : ScopeCallback α → ScopeStack → α × ScopeStack
  | done result, s => (result, s)
  | push scope next, s => match s.push scope with
    | .ok t => (next (.ok ())).leave t
    | .error e => (next (.error (.misplaced e))).leave s
  | pop next, s => match s.pop with
    | .ok (scope, t) => (next (.ok scope)).leave t
    | .error e => (next (.error (.misplaced e))).leave s

/-- The stacks on the **way** of a callback, from the one that it is given to the one that it
leaves. -/
def way : ScopeCallback α → ScopeStack → List ScopeStack
  | done _, s => [s]
  | push scope next, s => s :: match s.push scope with
    | .ok t => (next (.ok ())).way t
    | .error e => (next (.error (.misplaced e))).way s
  | pop next, s => s :: match s.pop with
    | .ok (scope, t) => (next (.ok scope)).way t
    | .error e => (next (.error (.misplaced e))).way s

/-- A callback starts its way with the stack that it is given. -/
theorem mem_way_self (f : ScopeCallback α) (s : ScopeStack) : s ∈ f.way s := by
  cases f <;> simp [way]

/-- A callback changes nothing but the stack. -/
theorem runFrom_step (f : ScopeCallback α) (s : State) :
    f.step.runFrom s = (.ok (f.leave s.scopes).1, { s with scopes := (f.leave s.scopes).2 }) := by
  induction f generalizing s with
  | done result => rfl
  | push scope next ih =>
    unfold step leave
    rw [Resolving.runFrom_bind, Resolving.runFrom_attempt]
    unfold Resolving.pushScope
    rw [Resolving.runFrom_get_bind]
    cases s.scopes.push scope with
    | error e => exact ih (.error (.misplaced e)) s
    | ok scopes => exact ih (.ok ()) { s with scopes }
  | pop next ih =>
    unfold step leave
    rw [Resolving.runFrom_bind, Resolving.runFrom_attempt]
    unfold Resolving.popScope
    rw [Resolving.runFrom_get_bind]
    cases s.scopes.pop with
    | error e => exact ih (.error (.misplaced e)) s
    | ok popped => exact ih (.ok popped.1) { s with scopes := popped.2 }

/-- The outermost scopes **stay** all the way, as many of them as there are at its lowest depth. -/
theorem outermost_leave (f : ScopeCallback α) {s : ScopeStack}
    (hway : ∀ t ∈ f.way s, n ≤ t.depth) : (f.leave s).2.outermost n = s.outermost n := by
  -- call by call: what is pushed or popped lies inside of the outermost scopes, since the stack
  -- is deep enough before a push and after a pop
  induction f generalizing s with
  | done result => rfl
  | push scope next ih =>
    unfold way at hway
    obtain ⟨hs, hrest⟩ := List.forall_mem_cons.1 hway
    unfold leave
    cases hpush : s.push scope with
    | error e =>
      rw [hpush] at hrest
      exact ih _ hrest
    | ok t =>
      rw [hpush] at hrest
      exact (ih _ hrest).trans (ScopeStack.outermost_push hpush hs)
  | pop next ih =>
    unfold way at hway
    obtain ⟨-, hrest⟩ := List.forall_mem_cons.1 hway
    unfold leave
    cases hpop : s.pop with
    | error e =>
      rw [hpop] at hrest
      exact ih _ hrest
    | ok popped =>
      obtain ⟨scope, t⟩ := popped
      rw [hpop] at hrest
      have ht : n ≤ t.depth := hrest t (mem_way_self _ t)
      exact (ih _ hrest).trans (ScopeStack.outermost_pop hpop ht)

/-! ## Callbacks that replace the stack -/

/-- The callback that pops scopes, as many as it is told to, and goes on. -/
def popping : Nat → ScopeCallback α → ScopeCallback α
  | 0, f => f
  | n + 1, f => pop fun _ => popping n f

/-- The callback that pushes scopes, the last of the list first, and goes on. -/
def pushing : List Scope → ScopeCallback α → ScopeCallback α
  | [], f => f
  | scope :: scopes, f => pushing scopes (push scope fun _ => f)

/-- What comes after scopes have been popped finds the stack without them. -/
theorem leave_popping (f : ScopeCallback α) (s : ScopeStack) :
    (popping n f).leave s = f.leave (.above (s.pushed.drop n)) := by
  induction n generalizing s with
  | zero => rw [List.drop_zero, ScopeStack.above_pushed, popping]
  | succ n ih =>
    rw [popping, leave]
    cases hpushed : s.pushed with
    | nil =>
      rw [ScopeStack.pop_of_nil hpushed]
      exact (ih s).trans (by rw [hpushed, List.drop_nil, List.drop_nil])
    | cons scope rest =>
      rw [ScopeStack.pop_of_cons hpushed]
      exact (ih (.above rest)).trans (by rw [ScopeStack.pushed_above, List.drop_succ_cons])

/-- What comes after scopes have been pushed finds the stack with them. -/
theorem leave_pushing (f : ScopeCallback α) (s : ScopeStack) {scopes : List Scope}
    (h : ∀ scope ∈ scopes, scope ≠ .root) :
    (pushing scopes f).leave s = f.leave (.above (scopes ++ s.pushed)) := by
  induction scopes generalizing f with
  | nil => rw [List.nil_append, ScopeStack.above_pushed, pushing]
  | cons scope scopes ih =>
    obtain ⟨hscope, hscopes⟩ := List.forall_mem_cons.1 h
    have hpush : (ScopeStack.above (scopes ++ s.pushed)).push scope =
        .ok (.above (scope :: (scopes ++ s.pushed))) := by
      rw [ScopeStack.push_of_ne hscope, ScopeStack.pushed_above]
    calc (pushing (scope :: scopes) f).leave s
        = (push scope fun _ => f).leave (.above (scopes ++ s.pushed)) := ih _ hscopes
      _ = f.leave (.above (scope :: scopes ++ s.pushed)) := by rw [leave, hpush]; rfl

end ScopeCallback

/-! ## Brackets -/

namespace Resolving

variable {α : Type} {scope : Scope}

/-- A bracket around a callback fails **exactly** when the callback leaves another depth. Otherwise
it gives what the callback returns, and keeps as many of the outermost scopes as there are at the
lowest depth on the way of the callback: all of them, if the callback stays inside of its
bracket. -/
theorem withScope_callback (f : ScopeCallback α) (hscope : scope ≠ .root) (s : State) :
    let given : ScopeStack := .above (scope :: s.scopes.pushed)
    let left := f.leave given
    let ran := (withScope scope f.step).runFrom s
    (left.2.depth ≠ s.scopes.depth + 1 →
      ran = (.error (.misplaced (.unbalanced (s.scopes.depth + 1) left.2.depth)),
        { s with scopes := left.2 })) ∧
    (left.2.depth = s.scopes.depth + 1 → ∃ t : ScopeStack,
      ran = (.ok left.1, { s with scopes := t }) ∧ t.depth = s.scopes.depth ∧
      (∀ n ≤ s.scopes.depth, (∀ u ∈ f.way given, n ≤ u.depth) →
        t.outermost n = s.scopes.outermost n) ∧
      ((∀ u ∈ f.way given, s.scopes.depth ≤ u.depth) → t = s.scopes)) := by
  intro given left ran
  have hran : ran = match left.2.popTo s.scopes.depth with
      | .ok scopes => (.ok left.1, { s with scopes })
      | .error e => (.error (.misplaced e), { s with scopes := left.2 }) := by
    have hrun := ScopeCallback.runFrom_step f (inside scope s)
    exact (runFrom_withScope_eq hscope f.step s).trans (by rw [hrun]; rfl)
  rw [hran]
  constructor
  · intro hdepth
    rw [ScopeStack.popTo_of_ne hdepth]
  · intro hdepth
    -- the scope that is taken away at the end lies inside of all that the bracket was opened in
    have hkept : ∀ n ≤ s.scopes.depth, (∀ u ∈ f.way given, n ≤ u.depth) →
        (ScopeStack.above (left.2.pushed.drop 1)).outermost n = s.scopes.outermost n := by
      intro n hn hway
      calc (ScopeStack.above (left.2.pushed.drop 1)).outermost n
          = left.2.outermost n := ScopeStack.outermost_drop_one (by omega)
        _ = given.outermost n := ScopeCallback.outermost_leave f hway
        _ = s.scopes.outermost n :=
          ScopeStack.outermost_push (ScopeStack.push_eq_ok.2 ⟨hscope, rfl⟩) hn
    have hdropped : (ScopeStack.above (left.2.pushed.drop 1)).depth = s.scopes.depth := by
      rw [ScopeStack.depth_above, List.length_drop, ← ScopeStack.depth_eq, hdepth,
        Nat.add_sub_cancel]
    refine ⟨.above (left.2.pushed.drop 1), ?_, hdropped, hkept, ?_⟩
    · rw [ScopeStack.popTo_of_eq hdepth]
    · intro hway
      have hall := hkept _ (Nat.le_refl _) hway
      rw [← hdropped, ScopeStack.outermost_depth, hdropped, ScopeStack.outermost_depth] at hall
      exact ScopeStack.eq_of_pushed hall

/-- A state inside of the first of four packages. -/
def packaged : State :=
  { model := { packages := #["a", "b", "c", "d"] }, scopes := .above [.package ⟨0⟩] }

/-- Puts another scope in the place of the one of the bracket. -/
def exchanging : ScopeCallback Unit :=
  .pop fun _ => .push (.package ⟨2⟩) fun _ => .done ()

/-- Leaves a scope pushed. -/
def leaking : ScopeCallback Unit :=
  .push (.package ⟨2⟩) fun _ => .done ()

/-- A callback stays inside of its bracket, where it may change scopes, or it leaves one too
many. -/
theorem withScope_callback_packaged :
    Scope.package ⟨1⟩ ≠ .root ∧
      (withScope (.package ⟨1⟩) exchanging.step).runFrom packaged = (.ok (), packaged) ∧
      (withScope (.package ⟨1⟩) leaking.step).runFrom packaged =
        (.error (.misplaced (.unbalanced 2 3)),
          { packaged with scopes := .above [.package ⟨2⟩, .package ⟨1⟩, .package ⟨0⟩] }) := by
  have hscope : Scope.package ⟨1⟩ ≠ .root := by decide
  refine ⟨hscope, ?_, ?_⟩
  · obtain ⟨t, hran, -, -, hstays⟩ :=
      (withScope_callback exchanging hscope packaged).2 (by decide)
    rw [hran, hstays (by decide)]
  · exact (withScope_callback leaking hscope packaged).1 (by decide)

/-- **Any other** stack of the same depth is left by some callback, without an error. -/
theorem exists_callback_leaving (hscope : scope ≠ .root) (s : State) {t : ScopeStack}
    (ht : ∀ x ∈ t.pushed, x ≠ .root) (hdepth : t.depth = s.scopes.depth) :
    ∃ f : ScopeCallback Unit,
      (withScope scope f.step).runFrom s = (.ok (), { s with scopes := t }) := by
  -- the callback pops everything, the scope of the bracket too, and pushes it again onto `t`
  let f := ScopeCallback.popping (s.scopes.depth + 1)
    (.pushing (scope :: t.pushed) (.done ()))
  have hleave : f.leave (.above (scope :: s.scopes.pushed)) =
      ((), .above (scope :: t.pushed)) := by
    rw [ScopeCallback.leave_popping,
      ScopeCallback.leave_pushing _ _ (List.forall_mem_cons.2 ⟨hscope, ht⟩)]
    simp [ScopeStack.depth_eq, ScopeCallback.leave]
  have hrun := ScopeCallback.runFrom_step f (inside scope s)
  have hpop : (ScopeStack.above (scope :: t.pushed)).popTo s.scopes.depth = .ok t := by
    rw [ScopeStack.popTo_of_eq (by simp [← hdepth, ScopeStack.depth_eq]), ScopeStack.pushed_above,
      List.drop_one, List.tail_cons, ScopeStack.above_pushed]
  refine ⟨f, ?_⟩
  rw [runFrom_withScope_eq hscope, hrun]
  simp only [inside, hleave, hpop]

/-- Takes the scope of the bracket and the one around it, and puts two others in their places. -/
def dipping : ScopeCallback Unit :=
  .pop fun _ => .pop fun _ =>
    .push (.package ⟨2⟩) fun _ => .push (.package ⟨3⟩) fun _ => .done ()

/-- A callback takes two scopes from outside of its bracket and leaves two others, and the bracket
is closed without an error. -/
theorem exists_bypassed_bracket :
    ∃ (s : State) (scope : Scope) (f : ScopeCallback Unit), scope ≠ .root ∧
      ((withScope scope f.step).runFrom s).1 = .ok () ∧
      ((withScope scope f.step).runFrom s).2.scopes ≠ s.scopes :=
  ⟨packaged, .package ⟨1⟩, dipping, by decide, rfl, by decide⟩

end Resolving
end SchemaBinding
