import SchemaBinding.Proofs.Following.Basic

/-! # Simulations
Many facts about runs hold because they hold of each step. A **simulation** says which states are
related, and when two steps run alike from two states. It has to be shown for returns and failures,
for sequences and brackets, and for the changes of the model; that two standard resolvers run alike
in all that they do then follows once and for all. What concerns one run only is shown of that run
and itself. -/

namespace SchemaBinding

open Resolver (State)

/-! ## Changes of classes that leave documentation alone -/

/-- A class without its **documentation**. -/
def ClassInfo.undocumented (c : ClassInfo) : ClassInfo := { c with doc := none }

/-- A change of classes is **unread** when documentation makes no difference to it. -/
def ClassInfo.Unread (f : ClassInfo → ClassInfo) : Prop :=
  ∀ c : ClassInfo, (f c).undocumented = f c.undocumented

/-- Adding a constructor does not read documentation. -/
theorem ClassInfo.Unread.addConstructor (params : List String) :
    Unread fun c => c.addConstructor params := by
  intro c
  unfold ClassInfo.addConstructor undocumented
  dsimp only
  split <;> rfl

/-! ## States -/

namespace Resolver.State

/-- States are **abreast** when they agree on what decides about the course of a run: bindings,
brackets and what is known about elements. -/
structure Abreast (s t : State) : Prop where
  registry : t.registry = s.registry
  queue : t.queue = s.queue
  built : t.built = s.built
  elements : t.elements = s.elements
  scopes : t.scopes = s.scopes
  proposing : t.proposing = s.proposing
  building : t.building = s.building
  cursor : t.cursor = s.cursor

/-- A state is abreast of itself. -/
theorem Abreast.refl (s : State) : s.Abreast s := ⟨rfl, rfl, rfl, rfl, rfl, rfl, rfl, rfl⟩

/-- Equal states are abreast. -/
theorem Abreast.of_eq {s t : State} (h : s = t) : s.Abreast t := h ▸ .refl s

/-- States that are abreast are at the same place. -/
theorem Abreast.place {s t : State} (h : s.Abreast t) : t.place = s.place := by
  unfold State.place
  rw [h.scopes, h.cursor]

/-- A change of states **steers** a run when it is about its course alone: models, packages and
reports are kept and make no difference to it. -/
def Steers (f : State → State) : Prop :=
  ∀ (s : State) model reports packages checkedNames,
    f { s with model, reports, packages, checkedNames } =
      { f s with model, reports, packages, checkedNames }

namespace Steers

variable {f : State → State}

/-- What is kept when a run is **steered**. -/
theorem keeps (h : Steers f) (s : State) :
    (f s).model = s.model ∧ (f s).reports = s.reports ∧ (f s).packages = s.packages ∧
      (f s).checkedNames = s.checkedNames := by
  have hsame := h s s.model s.reports s.packages s.checkedNames
  exact ⟨(congrArg State.model hsame :), (congrArg State.reports hsame :),
    (congrArg State.packages hsame :), (congrArg State.checkedNames hsame :)⟩

/-- A change that steers passes models and reports by. -/
theorem model_reports (h : Steers f) (s : State) (model : Model) (reports : Reports) :
    f { s with model, reports } = { f s with model, reports } := by
  obtain ⟨-, -, hpackages, hchecked⟩ := h.keeps s
  refine (h s model reports s.packages s.checkedNames).trans ?_
  rw [← hpackages, ← hchecked]

end Steers

end Resolver.State

open Resolver.State (Steers)

/-! ## Simulations -/

/-- A **simulation** of steps by steps. -/
structure Simulation where
  /-- The states that are related. -/
  Rel : State → State → Prop
  /-- The steps that run alike from two states. -/
  Runs : {α : Type} → Resolving α → Resolving α → State → State → Prop
  abreast : ∀ {s t : State}, Rel s t → s.Abreast t
  steer : ∀ {f : State → State} {s t : State}, Steers f → Rel s t → Rel (f s) (f t)
  pure : ∀ {α : Type} (a : α) {s t : State}, Rel s t →
    Runs (Pure.pure a : Resolving α) (Pure.pure a) s t
  throw : ∀ {α : Type} (e : ResolveError) {s t : State}, Rel s t →
    Runs (MonadExcept.throw e : Resolving α) (MonadExcept.throw e) s t
  bind : ∀ {α β : Type} {step other : Resolving α} {next next' : α → Resolving β} {s t : State},
    Runs step other s t → (∀ a u v, Rel u v → Runs (next a) (next' a) u v) →
      Runs (step >>= next) (other >>= next') s t
  /-- Steps that run as others do from states that are steered. -/
  entering : ∀ {α : Type} {step step' other other' : Resolving α} {f : State → State}
    {s t : State}, Steers f → Runs step other (f s) (f t) →
      step'.runFrom s = step.runFrom (f s) → other'.runFrom t = other.runFrom (f t) →
        Runs step' other' s t
  closing : ∀ {α : Type} {step other : Resolving α} {close : State → State} {s t : State},
    Steers close → Runs step other s t → Runs (step.closing close) (other.closing close) s t
  newClass : ∀ (name : String) (scope : Scope) {s t : State}, Rel s t →
    Runs (Resolving.allocate fun m => m.newClass name scope)
      (Resolving.allocate fun m => m.newClass name scope) s t
  newElement : ∀ (name ns : String) (scope : Scope) {s t : State}, Rel s t →
    Runs (Resolving.allocate fun m => m.newElement name ns scope)
      (Resolving.allocate fun m => m.newElement name ns scope) s t
  modifyElement : ∀ (w : ElementId) (f : ElementInfo → ElementInfo) {s t : State}, Rel s t →
    Runs (Resolving.changeModel fun m => m.modifyElement w f)
      (Resolving.changeModel fun m => m.modifyElement w f) s t
  modifyClass : ∀ (k : ClassId) {f : ClassInfo → ClassInfo} {s t : State}, ClassInfo.Unread f →
    Rel s t → Runs (Resolving.changeModel fun m => m.modifyClass k f)
      (Resolving.changeModel fun m => m.modifyClass k f) s t

namespace Simulation

variable {S : Simulation} {α β : Type} {step other : Resolving α} {s t : State}

/-- One step **simulates** another when they run alike from all related states. -/
def Simulates (S : Simulation) (step other : Resolving α) : Prop :=
  ∀ s t : State, S.Rel s t → S.Runs step other s t

/-- Steps run alike that run as others do. -/
theorem congr {step' other' : Resolving α} (h : S.Runs step other s t)
    (hstep : step'.runFrom s = step.runFrom s) (hother : other'.runFrom t = other.runFrom t) :
    S.Runs step' other' s t :=
  S.entering (f := id) (fun _ _ _ _ _ => rfl) h hstep hother

namespace Simulates

variable {next next' : α → Resolving β}

/-- To return is simulated by returning the same. -/
theorem pure (a : α) : S.Simulates (Pure.pure a : Resolving α) (Pure.pure a) :=
  fun _ _ hst => S.pure a hst

/-- To fail is simulated by failing for the same reason. -/
theorem throw (e : ResolveError) :
    S.Simulates (MonadExcept.throw e : Resolving α) (MonadExcept.throw e) :=
  fun _ _ hst => S.throw e hst

/-- Steps in a row simulate each other if all those that follow do. -/
theorem bind (h : S.Simulates step other) (hnext : ∀ a, S.Simulates (next a) (next' a)) :
    S.Simulates (step >>= next) (other >>= next') :=
  fun s t hst => S.bind (h s t hst) hnext

/-- Steps that first look at the state. -/
theorem reading {next next' : State → Resolving β}
    (h : ∀ s t : State, S.Rel s t → S.Runs (next s) (next' t) s t) :
    S.Simulates (MonadState.get >>= next) (MonadState.get >>= next') := by
  intro s t hst
  exact congr (h s t hst) (Resolving.runFrom_get_bind next s) (Resolving.runFrom_get_bind next' t)

/-- Answers may be rewritten alike. -/
theorem map (h : S.Simulates step other) (f : α → β) : S.Simulates (f <$> step) (f <$> other) := by
  rw [map_eq_pure_bind, map_eq_pure_bind]
  exact h.bind fun _ => .pure _

/-- Loops simulate each other if their steps do. -/
theorem forM {items : List α} {f g : α → Resolving Unit} (h : ∀ a, S.Simulates (f a) (g a)) :
    S.Simulates (items.forM f) (items.forM g) := by
  induction items with
  | nil => exact pure ()
  | cons a rest ih =>
    show S.Simulates (f a >>= fun _ => rest.forM f) (g a >>= fun _ => rest.forM g)
    exact (h a).bind fun _ => ih

/-! ### Brackets -/

/-- Brackets that steer may be closed around both steps. -/
theorem closing (h : S.Simulates step other) {close : State → State} (hclose : Steers close) :
    S.Simulates (step.closing close) (other.closing close) :=
  fun s t hst => S.closing hclose (h s t hst)

/-- Steps that run as steps that are simulated do, from states that are steered. -/
theorem entering (h : S.Simulates step other) (hst : S.Rel s t) {f : State → State}
    (hf : Steers f) {step' other' : Resolving α} (hstep : step'.runFrom s = step.runFrom (f s))
    (hother : other'.runFrom t = other.runFrom (f t)) : S.Runs step' other' s t :=
  S.entering hf (h _ _ (S.steer hf hst)) hstep hother

/-- Steps inside a scope that both leave as they found it. -/
theorem withScope (h : S.Simulates step other) {scope : Scope} (hscope : scope ≠ .root)
    {inner : Option ClassId} (hkeeping : Resolving.Keeping inner step)
    (hkeeping' : Resolving.Keeping inner other) :
    S.Simulates (Resolving.withScope scope step) (Resolving.withScope scope other) := by
  intro s t hst
  -- with the scopes restored, the bracket is one that changes nothing else
  have hclosed : S.Simulates (step.closing fun u => { u with scopes := s.scopes })
      (other.closing fun u => { u with scopes := s.scopes }) := h.closing fun _ _ _ _ _ => rfl
  refine hclosed.entering hst (f := Resolving.inside scope) (fun _ _ _ _ _ => rfl) ?_ ?_
  · rw [Resolving.runFrom_withScope hscope (hkeeping _).scopes, Resolving.runFrom_closing]
  · rw [Resolving.runFrom_withScope hscope (hkeeping' _).scopes, Resolving.runFrom_closing,
      (S.abreast hst).scopes]

/-! ### Steering -/

/-- A change that steers simulates itself. -/
theorem modify {f : State → State} (hf : Steers f) :
    S.Simulates (modify f : Resolving PUnit) (modify f) :=
  fun _ _ hst => (pure PUnit.unit).entering hst hf rfl rfl

/-- Recording an event steers. -/
theorem record (event : Resolver.Event) :
    S.Simulates (Resolving.record event) (Resolving.record event) := modify fun _ _ _ _ _ => rfl

/-- Acknowledging a component steers. -/
theorem acknowledge (c : ComponentId) :
    S.Simulates (Resolving.acknowledge c) (Resolving.acknowledge c) := modify fun _ _ _ _ _ => rfl

/-- Marking an element as bound steers. -/
theorem markBound (element : ComponentId) (type : TypeRef) :
    S.Simulates (Resolving.markBound element type) (Resolving.markBound element type) :=
  modify fun _ _ _ _ _ => rfl

/-- Marking an element as unbound steers. -/
theorem markUnbound (element : ComponentId) :
    S.Simulates (Resolving.markUnbound element) (Resolving.markUnbound element) :=
  modify fun _ _ _ _ _ => rfl

end Simulates

end Simulation

end SchemaBinding
