import SchemaBinding.Proofs.Moves.Registry
import SchemaBinding.Proofs.Placement.Basic

/-! # Single changes of a run
What a run does to its registry, to its notes about elements, to the path of its proposals and to
its scopes is a series of single **changes**, whether or not the run succeeds. A proposal that fails
is abandoned; every other one is concluded with an outcome that the schema set alone decides on.

Unlike the moves of a ledger, changes do not depend on what is asked and what is built, so they also
describe runs after a failure and bodies that are built out of turn. -/

namespace SchemaBinding

open Resolver (State Event)

/-- The outcome that a component is **destined** for: no type if it is not bindable, and one that
suits it otherwise. -/
def SchemaSet.Destined (set : SchemaSet) (c : ComponentId) : Option TypeRef → Prop
  | none => set.isBindable c = false
  | some target => set.isBindable c = true ∧ set.Suits c target

namespace Resolver

/-- An event **happens** in the state in which it is recorded. -/
def Event.HappensIn (s : State) : Event → Prop
  | .proposal _ scope => scope = s.scopes.current
  | .begun _ _ place | .done _ _ place => place = s.place

namespace State

/-- The states differ **aside**: in the model, in reports and in what is built. -/
structure Aside (s t : State) : Prop where
  registry : t.registry = s.registry
  elements : t.elements = s.elements
  proposing : t.proposing = s.proposing
  scopes : t.scopes = s.scopes
  journal : t.journal = s.journal

/-- The state with a note about an element. -/
def noting (s : State) (element : ComponentId) (note : Option TypeRef) : State :=
  { s with elements := (element, note) :: s.elements }

/-- The state with the outcome of a proposal registered, if it is a type. -/
def registering (s : State) (c : ComponentId) : Option TypeRef → State
  | none => s
  | some target => { s with registry := s.registry.insert ⟨c, target⟩ }

section registering

variable (s : State) (c : ComponentId) (outcome : Option TypeRef)

@[simp] theorem elements_registering : (s.registering c outcome).elements = s.elements := by
  cases outcome <;> rfl

@[simp] theorem proposing_registering : (s.registering c outcome).proposing = s.proposing := by
  cases outcome <;> rfl

@[simp] theorem scopes_registering : (s.registering c outcome).scopes = s.scopes := by
  cases outcome <;> rfl

@[simp] theorem journal_registering : (s.registering c outcome).journal = s.journal := by
  cases outcome <;> rfl

variable {s c}

/-- A component that was not bound is bound to the outcome afterwards, and all others are bound as
before. -/
theorem target?_registering (hvacant : s.registry.find? c = none) (d : ComponentId) :
    (s.registering c outcome).registry.target? d =
      if d = c then outcome else s.registry.target? d := by
  cases outcome with
  | none =>
    show s.registry.target? d = _
    split
    · rename_i hdc
      rw [hdc, Registry.find?_eq_none_iff.1 hvacant]
    · rfl
  | some target => exact Registry.target?_insert hvacant d

end registering

end State

/-- A single **change** of a state. Proposals are abandoned by a run that has failed only. -/
inductive Change (set : SchemaSet) (failed : Prop) : State → State → Prop
  | aside {s t : State} (aside : s.Aside t) : Change set failed s t
  /-- A scope is opened. -/
  | opened {s : State} {scope : Scope} (inner : scope ≠ .root) :
      Change set failed s (Resolving.inside scope s)
  /-- The innermost scope is closed. -/
  | closed {s : State} {scope : Scope} {rest : List Scope} (top : s.scopes.pushed = scope :: rest) :
      Change set failed s { s with scopes := .above rest }
  /-- An event is recorded. -/
  | recorded {s : State} {event : Event} (happens : event.HappensIn s) :
      Change set failed s { s with journal := event :: s.journal }
  /-- A type is proposed for a component without one. -/
  | proposed {s : State} {c : ComponentId} (unbound : s.registry.find? c = none)
      (idle : c ∉ s.proposing.active) :
      Change set failed s { s with proposing := ⟨c :: s.proposing.active⟩ }
  /-- A wrapper is noted for the element that is being proposed. -/
  | noted {s : State} {e : ComponentId} {w : ElementId} (wrapped : set.isWrapped e = true)
      (top : e ∈ s.proposing.active.head?) : Change set failed s (s.noting e (some (.wrapper w)))
  /-- The element that is being proposed is local, which is noted. -/
  | unbound {s : State} {e : ComponentId} (element : (set.component e).isElement = true)
      (inner : (set.component e).isGlobal = false) (top : e ∈ s.proposing.active.head?) :
      Change set failed s (s.noting e none)
  /-- The latest proposal is concluded. A wrapper that it gives has been noted. -/
  | concluded {s : State} {c : ComponentId} {rest : List ComponentId} {outcome : Option TypeRef}
      (top : s.proposing.active = c :: rest) (unbound : s.registry.find? c = none)
      (destined : set.Destined c outcome)
      (noted : ∀ w, outcome = some (.wrapper w) →
        s.elements.lookup c = some (some (.wrapper w))) :
      Change set failed s (({ s with proposing := ⟨rest⟩ } : State).registering c outcome)
  /-- The latest proposal is abandoned. -/
  | abandoned {s : State} (given : failed) :
      Change set failed s { s with proposing := s.proposing.leave }

/-- A series of **changes**. -/
abbrev Changes (set : SchemaSet) (failed : Prop) : State → State → Prop :=
  Relation.ReflTransGen (Change set failed)

variable {set : SchemaSet} {failed also : Prop} {s t u : State}

/-- What a run may do that has not failed, any run may do. -/
theorem Change.imp (h : Change set failed s t) (himp : failed → also) : Change set also s t := by
  cases h with
  | aside aside => exact .aside aside
  | opened inner => exact .opened inner
  | closed top => exact .closed top
  | recorded happens => exact .recorded happens
  | proposed unbound idle => exact .proposed unbound idle
  | noted wrapped top => exact .noted wrapped top
  | unbound element inner top => exact .unbound element inner top
  | concluded top unbound destined noted => exact .concluded top unbound destined noted
  | abandoned given => exact .abandoned (himp given)

/-- What every single change preserves holds **after all changes**. -/
theorem Changes.induct {P : State → Prop} (h : Changes set failed s t)
    (change : ∀ {s t}, Change set failed s t → P s → P t) (hs : P s) : P t := by
  induction h with
  | refl => exact hs
  | tail _ hchange ih => exact change hchange ih

namespace State

/-! ## What changes lead to -/

/-- A state **leads** to another by changes. What is noted about a component with a proposal under
way stays, save for the `top` one, whose own proposal may note something. -/
structure Leads (set : SchemaSet) (top : Option ComponentId) (failed : Prop) (s t : State) :
    Prop where
  changes : Changes set failed s t
  proposing : t.proposing = s.proposing
  notes : ∀ c ∈ s.proposing.active, some c ≠ top → t.elements.lookup c = s.elements.lookup c

namespace Leads

variable {top : Option ComponentId}

/-- A state leads to itself. -/
theorem refl (s : State) : Leads set top failed s s := ⟨.refl, rfl, fun _ _ _ => rfl⟩

/-- What a state leads to leads on. -/
theorem trans (h : Leads set top failed s t) (h' : Leads set top failed t u) :
    Leads set top failed s u where
  changes := h.changes.trans h'.changes
  proposing := h'.proposing.trans h.proposing
  notes c hc htop := (h'.notes c (h.proposing ▸ hc) htop).trans (h.notes c hc htop)

/-- What a state may lead to without failure, it may lead to with it. -/
theorem imp (h : Leads set top failed s t) (himp : failed → also) : Leads set top also s t :=
  { h with changes := h.changes.lift id fun _ _ hchange => hchange.imp himp }

/-- What a question leads to, a step inside a proposal leads to as well. -/
theorem ofQuestion (h : Leads set none failed s t) : Leads set top failed s t :=
  { h with notes := fun c hc _ => h.notes c hc (by simp) }

/-- A state leads to those that differ from it aside. -/
theorem aside (h : s.Aside t) : Leads set top failed s t where
  changes := .single (.aside h)
  proposing := h.proposing
  notes _ _ _ := by rw [h.elements]

/-- A change of anything but the notes and the proposals. -/
theorem single (h : Change set failed s t) (hproposing : t.proposing = s.proposing)
    (helements : t.elements = s.elements) : Leads set top failed s t :=
  ⟨.single h, hproposing, fun _ _ _ => by rw [helements]⟩

/-- What a state inside a scope leads to, it also leads to **from outside**, once the scope is
closed. -/
theorem inside {scope : Scope} (inner : scope ≠ .root)
    (h : Leads set top failed (Resolving.inside scope s) t)
    (hscopes : t.scopes = (Resolving.inside scope s).scopes) :
    Leads set top failed s { t with scopes := s.scopes } := by
  have hopened : Leads set top failed s (Resolving.inside scope s) :=
    .single (.opened inner) rfl rfl
  have hclosed : Leads set top failed t { t with scopes := s.scopes } := by
    have hclosed : Change set failed t { t with scopes := .above s.scopes.pushed } :=
      .closed (by rw [hscopes, Resolving.pushed_inside])
    rw [ScopeStack.above_pushed] at hclosed
    exact .single hclosed rfl rfl
  exact (hopened.trans h).trans hclosed

end Leads

end State

end Resolver

/-- To determine a package changes nothing else. -/
theorem Context.aside_packageOf (x : Context) (ns : String) (s : State) :
    s.Aside (x.packageOf ns s).2 := by
  cases hlookup : s.packages.lookup ns with
  | some id =>
    rw [x.packageOf_known hlookup]
    exact ⟨rfl, rfl, rfl, rfl, rfl⟩
  | none =>
    rw [x.packageOf_unknown hlookup]
    have hcheck : s.Aside (x.checkPackageName ns (x.packageName ns) s) :=
      x.checkPackageName_cases _ _ s (fun _ => ⟨rfl, rfl, rfl, rfl, rfl⟩)
        (fun _ _ => ⟨rfl, rfl, rfl, rfl, rfl⟩) fun _ _ => ⟨rfl, rfl, rfl, rfl, rfl⟩
    obtain ⟨hregistry, helements, hproposing, hscopes, hjournal⟩ := hcheck
    exact ⟨hregistry, helements, hproposing, hscopes, hjournal⟩

namespace Resolving

variable {α β : Type} {set : SchemaSet} {top : Option ComponentId} {s t : State}

/-- A step has **failed** when it ends with an error. -/
def Failed (step : Resolving α) (s : State) : Prop := (step.runFrom s).1.isOk = false

/-- A step **leads** from every state to the one that it leaves, whatever comes of it. -/
def Leading (set : SchemaSet) (top : Option ComponentId) (step : Resolving α) : Prop :=
  ∀ s : State, s.Leads set top (step.Failed s) (step.runFrom s).2

namespace Leading

variable {step : Resolving α} {next : α → Resolving β}

/-- A step that succeeds leads by changes that abandon nothing. -/
theorem of_ok (h : Leading set top step) {a : α} (hrun : step.runFrom s = (.ok a, t)) :
    s.Leads set top False t := by
  have hs := h s
  unfold Failed at hs
  rw [hrun] at hs
  exact hs.imp (by simp [Except.isOk, Except.toBool])

/-- Whatever a step does from a state it may do when it succeeds, and when it fails. -/
theorem of_run (h : ∀ {a t}, step.runFrom s = (.ok a, t) → s.Leads set top False t)
    (h' : ∀ {e t}, step.runFrom s = (.error e, t) → s.Leads set top True t) :
    s.Leads set top (step.Failed s) (step.runFrom s).2 := by
  unfold Failed
  rcases hrun : step.runFrom s with ⟨e | a, t⟩
  · exact (h' hrun).imp fun _ => rfl
  · exact (h hrun).imp False.elim

/-- A step from a state on: the first part leads to where the second one starts. -/
theorem bind_from (h : s.Leads set top (step.Failed s) (step.runFrom s).2)
    (hnext : ∀ a t, step.runFrom s = (.ok a, t) →
      t.Leads set top ((next a).Failed t) ((next a).runFrom t).2) :
    s.Leads set top ((step >>= next).Failed s) ((step >>= next).runFrom s).2 := by
  unfold Failed at *
  rw [runFrom_bind]
  rcases hrun : step.runFrom s with ⟨e | a, t⟩
  · rw [hrun] at h
    exact h
  · rw [hrun] at h
    exact (h.imp (by simp [Except.isOk, Except.toBool])).trans (hnext a t hrun)

/-- A value leads nowhere else. -/
theorem pure (a : α) : Leading set top (Pure.pure a : Resolving α) := fun s => .refl s

/-- A failure leads nowhere else. -/
theorem throw (e : ResolveError) : Leading set top (MonadExcept.throw e : Resolving α) :=
  fun s => .refl s

/-- A step after another leads on from wherever the first one led. -/
theorem bind (h : Leading set top step) (hnext : ∀ a, Leading set top (next a)) :
    Leading set top (step >>= next) := fun s => bind_from (h s) fun a t _ => hnext a t

/-- A step that first looks at the state. -/
theorem reading {next : State → Resolving β}
    (hnext : ∀ s : State, s.Leads set top ((next s).Failed s) ((next s).runFrom s).2) :
    Leading set top (MonadState.get >>= next) := by
  intro s
  unfold Failed
  rw [runFrom_get_bind]
  exact hnext s

/-- To map the value of a step leaves open where it leads. -/
theorem map (h : Leading set top step) (f : α → β) : Leading set top (f <$> step) := by
  rw [map_eq_pure_bind]
  exact h.bind fun _ => .pure _

/-- A loop leads as far as its turns do. -/
theorem forM {items : List α} {f : α → Resolving Unit} (h : ∀ a, Leading set top (f a)) :
    Leading set top (items.forM f) := by
  induction items with
  | nil => exact pure ()
  | cons a rest ih =>
    show Leading set top (f a >>= fun _ => rest.forM f)
    exact (h a).bind fun _ => ih

/-- What a question leads to, a step inside a proposal leads to as well. -/
theorem ofQuestion (h : Leading set none step) : Leading set top step := fun s => (h s).ofQuestion

/-! ### Single changes -/

/-- A change of the state that differs from it aside leads. -/
theorem modify {f : State → State} (h : ∀ s : State, s.Aside (f s)) :
    Leading set top (modify f : Resolving PUnit) := fun s => .aside (h s)

/-- A finding is raised aside. -/
theorem report (finding : Finding) : Leading set top (Resolving.report finding) :=
  modify fun _ => ⟨rfl, rfl, rfl, rfl, rfl⟩

/-- A component is acknowledged aside. -/
theorem acknowledge (c : ComponentId) : Leading set top (Resolving.acknowledge c) :=
  modify fun _ => ⟨rfl, rfl, rfl, rfl, rfl⟩

/-- The model is changed aside. -/
theorem changeModel (f : Model → Model) : Leading set top (Resolving.changeModel f) :=
  modify fun _ => ⟨rfl, rfl, rfl, rfl, rfl⟩

/-- What is allocated in the model is allocated aside. -/
theorem allocate (f : Model → α × Model) : Leading set top (Resolving.allocate f) :=
  fun _ => .aside ⟨rfl, rfl, rfl, rfl, rfl⟩

/-- The package for a namespace is found aside. -/
theorem packageFor (x : Context) (ns : String) : Leading set top (x.packageFor ns) :=
  fun s => .aside (x.aside_packageOf ns s)

end Leading

end Resolving

end SchemaBinding
