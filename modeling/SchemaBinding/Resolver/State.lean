import SchemaBinding.Cycle
import SchemaBinding.Diagnostic
import SchemaBinding.Resolver.Error
import SchemaBinding.Resolver.Registry

/-! # The state of a run
What a run keeps while it binds components: the model and the reports it has made so far, the
registry with the bodies still to be built, and the brackets it is inside of. A step that fails
keeps the state it has reached, so every bracket is closed on failure as well. -/

namespace SchemaBinding.Resolver

/-- The body under construction. -/
structure Cursor where
  component : ComponentId
  classId : ClassId
  deriving DecidableEq, Repr, Inhabited

/-- Where a body is built: the scope for new classes, the depth of the scope stack and the body
under construction. -/
structure Place where
  scope : Scope
  depth : Nat
  cursor : Option Cursor
  deriving DecidableEq, Repr, Inhabited

/-- An **event** of a run. -/
inductive Event where
  /-- A type is proposed for a component. -/
  | proposal (component : ComponentId) (scope : Scope)
  /-- The body of a class is begun. -/
  | begun (component : ComponentId) (classId : ClassId) (place : Place)
  /-- The body of a class is done. -/
  | done (component : ComponentId) (classId : ClassId) (place : Place)
  deriving DecidableEq, Repr

/-- The **state** of a run. -/
structure State where
  model : Model := {}
  reports : Reports := {}
  registry : Registry := {}
  /-- The bindings whose bodies are still to be built, the latest first. -/
  queue : List Binding := []
  /-- The classes whose bodies have been begun. -/
  built : List ClassId := []
  /-- What is known about the types of elements, the latest first; an element without a type of its
  own is known by `none`. -/
  elements : List (ComponentId × Option TypeRef) := []
  /-- The packages of the namespaces that were asked for. -/
  packages : List (String × PackageId) := []
  /-- The package names that have been checked. -/
  checkedNames : List String := []
  /-- The components whose property customization was used. -/
  acknowledged : List ComponentId := []
  scopes : ScopeStack := .above []
  proposing : CycleDetector ComponentId := {}
  building : CycleDetector ComponentId := {}
  cursor : Option Cursor := none
  /-- The events so far, the latest first. -/
  journal : List Event := []
  deriving DecidableEq, Repr, Inhabited

/-- The state before a run: `xs:anyType` is bound, and nothing has to be built for it. -/
def State.initial (reports : Reports) (anyType : ComponentId) : State :=
  { reports, registry := ⟨[⟨anyType, .leaf .anyType⟩]⟩ }

/-- The place of the body under construction. -/
def State.place (s : State) : Place := ⟨s.scopes.current, s.scopes.depth, s.cursor⟩

end Resolver

open Resolver (State Event)

/-- A **step** of a run. When it fails, the state that it has reached is kept. -/
abbrev Resolving (α : Type) := ExceptT ResolveError (StateM State) α

namespace Resolving

variable {α β : Type}

/-! ## Running steps -/

/-- Runs a step from a state. -/
def runFrom (step : Resolving α) (s : State) : Except ResolveError α × State := step.run.run s

@[simp] theorem runFrom_pure (a : α) (s : State) :
    (pure a : Resolving α).runFrom s = (.ok a, s) := rfl

@[simp] theorem runFrom_throw (e : ResolveError) (s : State) :
    (throw e : Resolving α).runFrom s = (.error e, s) := rfl

@[simp] theorem runFrom_get (s : State) : (get : Resolving State).runFrom s = (.ok s, s) := rfl

@[simp] theorem runFrom_set (s t : State) :
    (set t : Resolving PUnit).runFrom s = (.ok ⟨⟩, t) := rfl

@[simp] theorem runFrom_modify (f : State → State) (s : State) :
    (modify f : Resolving PUnit).runFrom s = (.ok ⟨⟩, f s) := rfl

@[simp] theorem runFrom_modifyGet (f : State → α × State) (s : State) :
    (modifyGet f : Resolving α).runFrom s = (.ok (f s).1, (f s).2) := rfl

/-- A step after another runs from the state that the first one reached; a failure ends both. -/
theorem runFrom_bind (step : Resolving α) (next : α → Resolving β) (s : State) :
    (step >>= next).runFrom s =
      match step.runFrom s with
      | (.ok a, t) => (next a).runFrom t
      | (.error e, t) => (.error e, t) := by
  show (match step.run s with
    | (r, t) => (ExceptT.bindCont next r).run t) = _
  unfold runFrom ExceptT.run StateT.run
  rcases step s with ⟨_ | _, t⟩ <;> rfl

/-- A mapped step leaves the same state and maps the value that it gives. -/
theorem runFrom_map (step : Resolving α) (f : α → β) (s : State) :
    (f <$> step).runFrom s = ((step.runFrom s).1.map f, (step.runFrom s).2) := by
  show (step >>= fun a => pure (f a)).runFrom s = _
  rw [runFrom_bind]
  rcases step.runFrom s with ⟨_ | _, t⟩ <;> rfl

/-- Runs a step and shows its failure as a value. -/
def attempt (step : Resolving α) : Resolving (Except ResolveError α) :=
  ExceptT.mk (Except.ok <$> step.run)

@[simp] theorem runFrom_attempt (step : Resolving α) (s : State) :
    step.attempt.runFrom s = (.ok (step.runFrom s).1, (step.runFrom s).2) := rfl

/-- The value of a step that was attempted, or its failure. -/
def settle (result : Except ResolveError α) : Resolving α := ExceptT.mk (pure result)

@[simp] theorem runFrom_settle (result : Except ResolveError α) (s : State) :
    (settle result).runFrom s = (result, s) := rfl

/-- Runs a step and then changes the state, also after a failure. -/
def closing (step : Resolving α) (close : State → State) : Resolving α := do
  let result ← attempt step
  modify close
  settle result

/-- A closed step ends in the changed state, whatever came of it. -/
@[simp] theorem runFrom_closing (step : Resolving α) (close : State → State) (s : State) :
    (step.closing close).runFrom s = ((step.runFrom s).1, close (step.runFrom s).2) := by
  unfold closing
  rw [runFrom_bind, runFrom_attempt]
  exact runFrom_bind (modify close) (fun _ => settle (step.runFrom s).1) (step.runFrom s).2

/-- Records an event. -/
def record (event : Event) : Resolving Unit :=
  modify fun s => { s with journal := event :: s.journal }

/-! ## Scopes -/

/-- Pushes a scope. -/
def pushScope (scope : Scope) : Resolving Unit := do
  let s ← get
  match s.scopes.push scope with
  | .ok scopes => set { s with scopes }
  | .error e => throw (.misplaced e)

/-- Pops the innermost scope. -/
def popScope : Resolving Scope := do
  let s ← get
  match s.scopes.pop with
  | .ok (scope, scopes) =>
    set { s with scopes }
    return scope
  | .error e => throw (.misplaced e)

/-- Closes a bracket that was opened at a depth. -/
def closeScope (depth : Nat) : Resolving Unit := do
  let s ← get
  match s.scopes.popTo depth with
  | .ok scopes => set { s with scopes }
  | .error e => throw (.misplaced e)

/-- Runs a step inside a scope, which is closed whether or not the step fails. A step that leaves
the stack at another depth fails for that reason. -/
def withScope (scope : Scope) (step : Resolving α) : Resolving α := do
  let depth := (← get).scopes.depth
  pushScope scope
  let result ← attempt step
  closeScope depth
  settle result

/-! ## Reports, customizations and the types of elements -/

/-- Raises a finding. -/
def report (finding : Finding) : Resolving Unit :=
  modify fun s => { s with reports := s.reports.raise finding }

/-- Changes the model. -/
def changeModel (f : Model → Model) : Resolving Unit :=
  modify fun s => { s with model := f s.model }

/-- Changes the model and gives a value. -/
def allocate (f : Model → α × Model) : Resolving α :=
  modifyGet fun s => ((f s.model).1, { s with model := (f s.model).2 })

/-- Marks the property customization of a component as used. -/
def acknowledge (component : ComponentId) : Resolving Unit :=
  modify fun s => { s with acknowledged := component :: s.acknowledged }

/-- Notes the type of an element before its content is bound. -/
def markBound (element : ComponentId) (type : TypeRef) : Resolving Unit :=
  modify fun s => { s with elements := (element, some type) :: s.elements }

/-- Notes that an element has no type of its own. -/
def markUnbound (element : ComponentId) : Resolving Unit :=
  modify fun s => { s with elements := (element, none) :: s.elements }

/-! ## Registration -/

/-- Registers a binding and queues its body, unless its target needs none. To bind a component once
more to the same type changes nothing; to bind it to another one fails. -/
def queueBuild (component : ComponentId) (target : TypeRef) : Resolving Binding := do
  let s ← get
  let binding : Binding := ⟨component, target⟩
  match s.registry.target? component with
  | some existing =>
    if existing = target then return binding
    else throw (.conflictingBinding component existing target)
  | none =>
    set { s with
      registry := s.registry.insert binding
      queue := if target.isPrebuilt then s.queue else binding :: s.queue }
    return binding

end Resolving

end SchemaBinding
