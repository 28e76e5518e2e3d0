import Mathlib.Data.List.Infix
import SchemaBinding.Proofs.Frame.Books
import SchemaBinding.Proofs.ModelGrowth
import SchemaBinding.Proofs.Running
import SchemaBinding.Resolver.Basic

/-! # What a run keeps
Every question to a resolver, whether it is answered or fails, leaves the brackets it was asked in
as they were, keeps all bindings, forgets no queued binding and changes no class whose body was
begun before. The one exception is the class whose own body asks the question: `State.Keeps (some
k)` is the frame of a step inside the body of `k`, `State.Keeps none` that of a question.

A resolver keeps the state if its strategy does (`Resolver.keeping_within`). -/

namespace SchemaBinding.Resolver

namespace State

/-- The classes that a step must not change: their bodies were begun, and they are not the class
whose body the step belongs to. -/
def Settled (s : State) (inner : Option ClassId) (k : ClassId) : Prop :=
  k ∈ s.built ∧ some k ≠ inner

/-- A state **keeps** what an earlier one holds. -/
structure Keeps (inner : Option ClassId) (s t : State) : Prop where
  scopes : t.scopes = s.scopes
  proposing : t.proposing = s.proposing
  building : t.building = s.building
  cursor : t.cursor = s.cursor
  /-- Bindings stay. -/
  bound : ∀ {c b}, s.registry.find? c = some b → t.registry.find? c = some b
  /-- A component for which a type is being proposed is not bound behind the proposal's back. -/
  proposed : ∀ {c}, c ∈ s.proposing.active → t.registry.find? c = s.registry.find? c
  built : s.built ⊆ t.built
  queue : s.queue <:+ t.queue
  /-- The books of the run are changed by entries only. -/
  books : Books.Entries s.books t.books
  packages : s.packages <+: t.packages
  journal : s.journal <:+ t.journal
  model : s.model.Grows (s.Settled inner) t.model

namespace Keeps

variable {inner : Option ClassId} {s t u : State}

/-- A state keeps what it holds itself. -/
theorem refl (inner : Option ClassId) (s : State) : Keeps inner s s where
  scopes := rfl
  proposing := rfl
  building := rfl
  cursor := rfl
  bound := id
  proposed _ := rfl
  built := fun _ => id
  queue := List.suffix_refl _
  books := .refl
  packages := List.prefix_refl _
  journal := List.suffix_refl _
  model := .refl _

/-- A state keeps what it holds when its model grows. -/
theorem ofModel (s : State) {m : Model} (h : s.model.Grows (s.Settled inner) m) :
    Keeps inner s { s with model := m } :=
  { refl inner s with model := h }

/-- What is kept twice in a row is kept. -/
theorem trans (h₁ : Keeps inner s t) (h₂ : Keeps inner t u) : Keeps inner s u where
  scopes := h₂.scopes.trans h₁.scopes
  proposing := h₂.proposing.trans h₁.proposing
  building := h₂.building.trans h₁.building
  cursor := h₂.cursor.trans h₁.cursor
  bound := fun h => h₂.bound (h₁.bound h)
  proposed := fun h => (h₂.proposed (h₁.proposing ▸ h)).trans (h₁.proposed h)
  built := fun _ h => h₂.built (h₁.built h)
  queue := h₁.queue.trans h₂.queue
  books := h₁.books.trans h₂.books
  packages := h₁.packages.trans h₂.packages
  journal := h₁.journal.trans h₂.journal
  model := h₁.model.trans h₂.model fun _ hk => ⟨h₁.built hk.1, hk.2⟩

/-- The frame of a question is also one of a step inside a body. -/
theorem ofQuestion (h : Keeps none s t) : Keeps inner s t :=
  { h with model := h.model.weaken fun _ hk => ⟨hk.1, by simp⟩ }

/-- What a state keeps inside a scope it also keeps outside of it. -/
theorem inside {scope : Scope} (h : Keeps inner (Resolving.inside scope s) t) :
    Keeps inner s { t with scopes := s.scopes } :=
  { h with scopes := rfl }

end Keeps

end State

end Resolver

open Resolver (State Event Cursor)

namespace Context

variable {s : State} {ns : String}

/-- What to **check** the name of a package comes to: nothing if the name was checked before, a note
about it if it is empty or valid, and a finding as well if it is not. -/
@[elab_as_elim]
theorem checkPackageName_cases {motive : State → Prop} (c : Context) (ns name : String) (s : State)
    (known : name ∈ s.checkedNames → motive s)
    (fine : name ∉ s.checkedNames → name = "" ∨ Naming.isPackageName name = true →
      motive { s with checkedNames := name :: s.checkedNames })
    (reported : name ∉ s.checkedNames → ¬ (name = "" ∨ Naming.isPackageName name = true) →
      motive { s with
        checkedNames := name :: s.checkedNames
        reports := s.reports.raise (Finding.incorrectPackageName name ns
          ((c.schema.schema? ns).bind Schema.locator)) }) :
    motive (c.checkPackageName ns name s) := by
  unfold checkPackageName
  split
  · rename_i hchecked
    exact known (by simpa using hchecked)
  · rename_i hfresh
    have hfresh : name ∉ s.checkedNames := by simpa using hfresh
    dsimp only
    split
    · rename_i hvalid
      exact fine hfresh (by simpa using hvalid)
    · rename_i hinvalid
      exact reported hfresh (by simpa using hinvalid)

/-- A package that is known is not determined again. -/
theorem packageOf_known (c : Context) {id : PackageId} (h : s.packages.lookup ns = some id) :
    c.packageOf ns s = (id, s) := by
  unfold packageOf
  rw [h]

/-- A package that is not known is added under the checked name. -/
theorem packageOf_unknown (c : Context) (h : s.packages.lookup ns = none) :
    c.packageOf ns s =
      let u := c.checkPackageName ns (c.packageName ns) s
      let p := u.model.package (c.packageName ns)
      (p.1, { u with model := p.2, packages := u.packages ++ [(ns, p.1)] }) := by
  unfold packageOf
  rw [h]

end Context

namespace Resolving

variable {α β : Type} {inner : Option ClassId}

/-! ## Steps that keep the state -/

/-- A step **keeps** the state it is run from, whatever its outcome. -/
def Keeping (inner : Option ClassId) (step : Resolving α) : Prop :=
  ∀ s : State, s.Keeps inner (step.runFrom s).2

namespace Keeping

/-- To return keeps the state. -/
theorem pure (a : α) : Keeping inner (Pure.pure a : Resolving α) := fun _ => .refl _ _

/-- To fail keeps the state. -/
theorem throw (e : ResolveError) : Keeping inner (MonadExcept.throw e : Resolving α) :=
  fun _ => .refl _ _

/-- The frame of a step that succeeded. -/
theorem of_run {s t : State} {step : Resolving α} (h : Keeping inner step)
    {result : Except ResolveError α} (hrun : step.runFrom s = (result, t)) : s.Keeps inner t := by
  have hs := h s
  rwa [hrun] at hs

/-- Steps in a row keep the state if each does. -/
theorem bind {step : Resolving α} {next : α → Resolving β} (h : Keeping inner step)
    (hnext : ∀ a, Keeping inner (next a)) : Keeping inner (step >>= next) := by
  intro s
  have hstep := h s
  rw [runFrom_bind]
  rcases hrun : step.runFrom s with ⟨_ | a, t⟩
  · rw [hrun] at hstep
    exact hstep
  · rw [hrun] at hstep
    exact hstep.trans (hnext a t)

/-- A step that first looks at the state. -/
theorem reading {next : State → Resolving β}
    (hnext : ∀ s : State, s.Keeps inner ((next s).runFrom s).2) :
    Keeping inner (MonadState.get >>= next) := by
  intro s
  rw [runFrom_bind, runFrom_get]
  exact hnext s

/-- Rewriting the answer of a step does not touch the state. -/
theorem map {step : Resolving α} (h : Keeping inner step) (f : α → β) :
    Keeping inner (f <$> step) := by
  intro s
  rw [runFrom_map]
  exact h s

/-- A loop keeps the state if each of its steps does. -/
theorem forM {items : List α} {f : α → Resolving Unit} (h : ∀ a ∈ items, Keeping inner (f a)) :
    Keeping inner (items.forM f) := by
  induction items with
  | nil => exact pure ()
  | cons a rest ih =>
    show Keeping inner (f a >>= fun _ => rest.forM f)
    exact (h a List.mem_cons_self).bind fun _ => ih fun b hb => h b (List.mem_cons_of_mem _ hb)

/-- A change keeps the state if it keeps every state. -/
theorem modify {f : State → State} (h : ∀ s : State, s.Keeps inner (f s)) :
    Keeping inner (modify f : Resolving PUnit) := h

/-- The frame of a question is also one of a step inside a body. -/
theorem ofQuestion {step : Resolving α} (h : Keeping none step) : Keeping inner step :=
  fun s => (h s).ofQuestion

/-- A step inside a scope keeps the state if the step does. -/
theorem withScope {step : Resolving α} (h : Keeping inner step) (scope : Scope) :
    Keeping inner (Resolving.withScope scope step) := by
  intro s
  by_cases hscope : scope = .root
  · have hrun : (Resolving.withScope scope step).runFrom s =
        (.error (.misplaced .rootPushed), s) := by
      unfold Resolving.withScope pushScope
      rw [runFrom_bind, runFrom_get]
      dsimp only
      rw [runFrom_bind, runFrom_bind, runFrom_get]
      simp [ScopeStack.push, hscope]
    rw [hrun]
    exact .refl _ s
  · have hinside := h (inside scope s)
    rw [runFrom_withScope hscope hinside.scopes]
    exact hinside.inside

/-! ### Single changes -/

/-- Events are only appended. -/
theorem record (event : Event) : Keeping inner (Resolving.record event) :=
  modify fun s => { State.Keeps.refl _ s with journal := List.suffix_cons _ _ }

/-- Findings are only raised. -/
theorem report (finding : Finding) : Keeping inner (Resolving.report finding) :=
  modify fun s => { State.Keeps.refl _ s with }

/-- Components are only acknowledged. -/
theorem acknowledge (c : ComponentId) : Keeping inner (Resolving.acknowledge c) :=
  modify fun s => { State.Keeps.refl _ s with }

/-- Marking an element as unbound changes no class and no binding. -/
theorem markUnbound (e : ComponentId) : Keeping inner (Resolving.markUnbound e) :=
  modify fun s => { State.Keeps.refl _ s with }

/-- A change of the model under which every model grows, whatever is settled. -/
theorem changeModel {f : Model → Model}
    (h : ∀ (m : Model) (settled : ClassId → Prop), (∀ k, some k = inner → ¬ settled k) →
      m.Grows settled (f m)) : Keeping inner (Resolving.changeModel f) :=
  modify fun s => .ofModel s (h _ _ fun _ hk hs => hs.2 hk)

/-- The body of a class may change the class. -/
theorem modifyClass {k : ClassId} {f : ClassInfo → ClassInfo} (hname : ∀ c, (f c).name = c.name)
    (hscope : ∀ c, (f c).scope = c.scope) :
    Keeping (some k) (Resolving.changeModel fun m => m.modifyClass k f) :=
  changeModel fun m _ hinner => .modifyClass m hname hscope fun hs => (hinner k rfl hs).elim

/-- Every class may become abstract. -/
theorem makeAbstract (k : ClassId) :
    Keeping inner (Resolving.changeModel fun m =>
      m.modifyClass k fun c => { c with isAbstract := true }) :=
  changeModel fun m _ _ => .modifyClass m (fun _ => rfl) (fun _ => rfl) fun _ _ => rfl

/-- A new class is none of the settled ones. -/
theorem newClass (name : String) (scope : Scope) :
    Keeping inner (Resolving.allocate fun m => m.newClass name scope) :=
  fun s => .ofModel s (.newClass _ _ _)

/-- A package that is created is none of those there are. -/
theorem packageFor (c : Context) (ns : String) : Keeping inner (c.packageFor ns) := by
  intro s
  show s.Keeps inner (c.packageOf ns s).2
  cases hlookup : s.packages.lookup ns with
  | some id =>
    rw [c.packageOf_known hlookup]
    exact .refl _ s
  | none =>
    rw [c.packageOf_unknown hlookup]
    have hcheck : s.Keeps inner (c.checkPackageName ns (c.packageName ns) s) :=
      c.checkPackageName_cases _ _ s (fun _ => .refl _ s)
        (fun _ _ => { State.Keeps.refl _ s with }) fun _ _ => { State.Keeps.refl _ s with }
    exact hcheck.trans
      { State.Keeps.refl inner _ with
        packages := List.prefix_append _ _
        model := .of_eq (by simp) (by simp) }

end Keeping

end Resolving

/-! ## Resolvers and strategies -/

open Resolving (Keeping)

/-- A resolver keeps the state when its answers do. -/
def Resolver.Keeping (r : Resolver) : Prop :=
  ∀ c immediately, Resolving.Keeping none (r.resolve c immediately)

/-- A strategy keeps the state when its proposals and bodies do, asking a resolver that does. -/
structure Strategy.Keeping (strategy : Strategy) : Prop where
  propose : ∀ r : Resolver, r.Keeping → ∀ c, Resolving.Keeping none (strategy.propose r c)
  body : ∀ r : Resolver, r.Keeping → ∀ c k, Resolving.Keeping (some k) (strategy.body r c k)

end SchemaBinding
