import Mathlib.Data.List.Forall2
import SchemaBinding.Proofs.Frame.Standard
import SchemaBinding.Proofs.Scoping.Basic

/-! # Steps that differ in placement
A run that nests local classes inside the class whose body it is building is compared with one that
keeps them flat. Their states are **similar** when the second model is the first one flattened, the
pushed scopes of the second replace those of the first, and all else agrees. Two steps **match**
when, from similar states, they give the same answer and leave similar states, or fail alike. -/

namespace SchemaBinding

open Resolver (State Event)

variable {α β : Type}

namespace Resolver.State

/-- States that **differ in placement** alone. The types that the first one holds exist in its
model, so that it is known where classes are that are built later. -/
structure Similar (s t : State) : Prop where
  model : s.model.Flattened t.model
  reports : t.reports = s.reports
  registry : t.registry = s.registry
  queue : t.queue = s.queue
  built : t.built = s.built
  elements : t.elements = s.elements
  packages : t.packages = s.packages
  checkedNames : t.checkedNames = s.checkedNames
  acknowledged : t.acknowledged = s.acknowledged
  scopes : List.Forall₂ s.model.Replaces s.scopes.pushed t.scopes.pushed
  proposing : t.proposing = s.proposing
  building : t.building = s.building
  cursor : t.cursor = s.cursor
  bound : ∀ b ∈ s.registry.bindings, s.model.HasType b.target
  queued : ∀ b ∈ s.queue, s.model.HasType b.target
  noted : ∀ e ∈ s.elements, ∀ type ∈ e.2, s.model.HasType type

namespace Similar

variable {s t : State}

/-- The models may be changed alike. -/
theorem withModel (h : Similar s t) {m n : Model} (hmodel : m.Flattened n)
    (hkeeps : s.model.KeepsScopes m) : Similar { s with model := m } { t with model := n } :=
  { h with
    model := hmodel
    scopes := h.scopes.imp fun _ _ hscope => hscope.keep hkeeps
    bound := fun b hb => (h.bound b hb).keep hkeeps
    queued := fun b hb => (h.queued b hb).keep hkeeps
    noted := fun e he type htype => (h.noted e he type htype).keep hkeeps }

/-- The scopes may be put back to earlier ones. -/
theorem withScopes (h : Similar s t) {u v : State} (hearlier : Similar u v)
    (hkeeps : u.model.KeepsScopes s.model) :
    Similar { s with scopes := u.scopes } { t with scopes := v.scopes } :=
  { h with scopes := hearlier.scopes.imp fun _ _ hscope => hscope.keep hkeeps }

/-- A scope may be entered together with the package that replaces it. -/
theorem inside (h : Similar s t) {scope flat : Scope} (hscope : s.model.Replaces scope flat) :
    Similar (Resolving.inside scope s) (Resolving.inside flat t) :=
  { h with
    scopes := by
      rw [Resolving.pushed_inside, Resolving.pushed_inside]
      exact .cons hscope h.scopes }

/-- The innermost scopes replace each other, unless both are the root. -/
theorem current (h : Similar s t) :
    (s.scopes.current = .root ∧ t.scopes.current = .root) ∨
      s.model.Replaces s.scopes.current t.scopes.current := by
  have hscopes := h.scopes
  rw [ScopeStack.current_eq, ScopeStack.current_eq]
  cases hs : s.scopes.pushed with
  | nil =>
    rw [hs] at hscopes
    cases ht : t.scopes.pushed with
    | nil => exact .inl ⟨rfl, rfl⟩
    | cons => rw [ht] at hscopes; cases hscopes
  | cons scope rest =>
    rw [hs] at hscopes
    cases ht : t.scopes.pushed with
    | nil => rw [ht] at hscopes; cases hscopes
    | cons flat rest' =>
      rw [ht] at hscopes
      cases hscopes with
      | cons hscope _ => exact .inr hscope

/-- What a component is bound to exists. -/
theorem hasType_of_find? (h : Similar s t) {c : ComponentId} {b : Binding}
    (hb : s.registry.find? c = some b) : s.model.HasType b.target :=
  h.bound b (List.mem_of_find?_eq_some hb)

end Similar

end Resolver.State

namespace Resolving

/-! ## Matching steps -/

/-- Two steps **match** from two states on: they have the same outcome, and if they succeed, they
leave similar states in which the answer has a property. -/
def Matching (step flat : Resolving α) (s t : State) (answer : α → Model → Prop) : Prop :=
  (flat.runFrom t).1 = (step.runFrom s).1 ∧
    ∀ a u, step.runFrom s = (.ok a, u) → u.Similar (flat.runFrom t).2 ∧ answer a u.model

/-- Any answer will do. -/
abbrev anyAnswer : α → Model → Prop := fun _ _ => True

namespace Matching

variable {step flat : Resolving α} {s t : State} {answer : α → Model → Prop}

/-- Steps that succeed alike. -/
theorem ok {a : α} {u v : State} (hstep : step.runFrom s = (.ok a, u))
    (hflat : flat.runFrom t = (.ok a, v)) (hsimilar : u.Similar v) (hanswer : answer a u.model) :
    Matching step flat s t answer := by
  refine ⟨by rw [hstep, hflat], fun b w hrun => ?_⟩
  rw [hstep] at hrun
  cases hrun
  rw [hflat]
  exact ⟨hsimilar, hanswer⟩

/-- Steps that fail alike. -/
theorem error {e : ResolveError} {u v : State} (hstep : step.runFrom s = (.error e, u))
    (hflat : flat.runFrom t = (.error e, v)) : Matching step flat s t answer := by
  refine ⟨by rw [hstep, hflat], fun b w hrun => ?_⟩
  rw [hstep] at hrun
  cases hrun

/-- Equal answers match in similar states. -/
theorem pure (h : s.Similar t) {a : α} (hanswer : answer a s.model) :
    Matching (Pure.pure a) (Pure.pure a) s t answer := .ok rfl rfl h hanswer

/-- Equal errors match. -/
theorem throw (e : ResolveError) :
    Matching (MonadExcept.throw e : Resolving α) (MonadExcept.throw e) s t answer := .error rfl rfl

/-- A property of answers may be weakened. -/
theorem imp (h : Matching step flat s t answer) {weaker : α → Model → Prop}
    (himp : ∀ a m, answer a m → weaker a m) : Matching step flat s t weaker :=
  ⟨h.1, fun a u hrun => (h.2 a u hrun).imp_right (himp a u.model)⟩

/-- Steps that match may be followed by steps that match. -/
theorem bind (h : Matching step flat s t answer) {next next' : α → Resolving β}
    {after : β → Model → Prop}
    (hnext : ∀ a u v, step.runFrom s = (.ok a, u) → u.Similar v → answer a u.model →
      Matching (next a) (next' a) u v after) :
    Matching (step >>= next) (flat >>= next') s t after := by
  obtain ⟨hresult, hanswer⟩ := h
  rcases hstep : step.runFrom s with ⟨e | a, u⟩
  · rcases hflat : flat.runFrom t with ⟨result, v⟩
    rw [hstep, hflat] at hresult
    obtain rfl : result = .error e := hresult
    exact .error (runFrom_bind_error.2 (.inl hstep)) (runFrom_bind_error.2 (.inl hflat))
  · obtain ⟨hsimilar, ha⟩ := hanswer a u hstep
    rcases hflat : flat.runFrom t with ⟨result, v⟩
    rw [hstep, hflat] at hresult
    obtain rfl : result = .ok a := hresult
    rw [hflat] at hsimilar
    have hafter := hnext a u v hstep hsimilar ha
    unfold Matching
    rw [runFrom_bind, runFrom_bind, hstep, hflat]
    exact hafter

/-- Answers may be rewritten alike. -/
theorem map (h : Matching step flat s t answer) {f : α → β} {after : β → Model → Prop}
    (hafter : ∀ a m, answer a m → after (f a) m) :
    Matching (f <$> step) (f <$> flat) s t after := by
  rw [map_eq_pure_bind, map_eq_pure_bind]
  exact h.bind fun a u v _ hsimilar ha => .pure hsimilar (hafter a u.model ha)

/-- Steps match when they run as others do that match. -/
theorem congr {step' flat' : Resolving α} {s' t' : State} (h : Matching step flat s t answer)
    (hstep : step'.runFrom s' = step.runFrom s) (hflat : flat'.runFrom t' = flat.runFrom t) :
    Matching step' flat' s' t' answer := by
  unfold Matching
  rw [hstep, hflat]
  exact h

/-- Steps that first look at the state. -/
theorem reading {next next' : State → Resolving α} (h : Matching (next s) (next' t) s t answer) :
    Matching (MonadState.get >>= next) (MonadState.get >>= next') s t answer := by
  unfold Matching
  rw [runFrom_get_bind, runFrom_get_bind]
  exact h

/-- Steps over a list match when the steps for its members do, from any similar states. -/
theorem forM {items : List α} {f g : α → Resolving Unit} (hsimilar : s.Similar t)
    (h : ∀ a ∈ items, ∀ u v, u.Similar v → Matching (f a) (g a) u v anyAnswer) :
    Matching (items.forM f) (items.forM g) s t anyAnswer := by
  induction items generalizing s t with
  | nil => exact pure hsimilar trivial
  | cons a rest ih =>
    show Matching (f a >>= fun _ => rest.forM f) (g a >>= fun _ => rest.forM g) s t anyAnswer
    refine (h a List.mem_cons_self s t hsimilar).bind fun _ u v _ huv _ => ?_
    exact ih huv fun b hb => h b (List.mem_cons_of_mem _ hb)

/-- A change of the states under which they stay similar. -/
theorem modify {f g : State → State} (h : (f s).Similar (g t)) :
    Matching (modify f : Resolving PUnit) (modify g) s t anyAnswer := .ok rfl rfl h trivial

/-! ### Brackets -/

/-- Closed steps match when what is closed stays similar. -/
theorem closing (h : Matching step flat s t answer) (close : State → State)
    (hclose : ∀ u v, u.Similar v → (close u).Similar (close v))
    (hmodel : ∀ u : State, (close u).model = u.model) :
    Matching (step.closing close) (flat.closing close) s t answer := by
  refine ⟨by simpa using h.1, fun a u hrun => ?_⟩
  rw [runFrom_closing] at hrun ⊢
  obtain ⟨hresult, rfl⟩ := Prod.mk.inj hrun
  obtain ⟨hsimilar, hanswer⟩ := h.2 a _ (Prod.ext hresult rfl)
  exact ⟨hclose _ _ hsimilar, by rwa [hmodel]⟩

/-- Steps inside scopes match when the scope of the second **replaces** that of the first. -/
theorem withScope {inner : Option ClassId} {scope replaced : Scope} (hsimilar : s.Similar t)
    (hscope : s.model.Replaces scope replaced) (hstep : Keeping inner step)
    (hflat : Keeping inner flat)
    (h : Matching step flat (inside scope s) (inside replaced t) answer) :
    Matching (Resolving.withScope scope step) (Resolving.withScope replaced flat) s t answer := by
  have hkeeps := hstep (inside scope s)
  unfold Matching
  rw [runFrom_withScope hscope.ne_root.1 hkeeps.scopes,
    runFrom_withScope hscope.ne_root.2 (hflat (inside replaced t)).scopes]
  refine ⟨h.1, fun a u hrun => ?_⟩
  obtain ⟨hresult, rfl⟩ := Prod.mk.inj hrun
  obtain ⟨hinside, hanswer⟩ := h.2 a _ (Prod.ext hresult rfl)
  exact ⟨hinside.withScopes hsimilar hkeeps.model.keepsScopes, hanswer⟩

/-! ### Single changes -/

/-- Events are recorded alike, even different ones: the journal is not compared. -/
theorem record (h : s.Similar t) (event event' : Event) :
    Matching (Resolving.record event) (Resolving.record event') s t anyAnswer :=
  modify { h with }

/-- Findings are reported alike. -/
theorem report (h : s.Similar t) (finding : Finding) :
    Matching (Resolving.report finding) (Resolving.report finding) s t anyAnswer :=
  modify { h with reports := congrArg (Reports.raise · finding) h.reports }

/-- Components are acknowledged alike. -/
theorem acknowledge (h : s.Similar t) (c : ComponentId) :
    Matching (Resolving.acknowledge c) (Resolving.acknowledge c) s t anyAnswer :=
  modify { h with acknowledged := congrArg (c :: ·) h.acknowledged }

/-- Elements are marked as unbound alike. -/
theorem markUnbound (h : s.Similar t) (e : ComponentId) :
    Matching (Resolving.markUnbound e) (Resolving.markUnbound e) s t anyAnswer :=
  modify
    { h with
      elements := congrArg ((e, none) :: ·) h.elements
      noted := fun d hd type htype => by
        rcases List.mem_cons.1 hd with rfl | hd
        · cases htype
        · exact h.noted d hd type htype }

/-- A class may be changed **locally**. -/
theorem modifyClass (h : s.Similar t) (k : ClassId) {f : ClassInfo → ClassInfo}
    (hlocal : ClassInfo.Local f) :
    Matching (Resolving.changeModel fun m => m.modifyClass k f)
      (Resolving.changeModel fun m => m.modifyClass k f) s t anyAnswer :=
  modify (h.withModel (h.model.modifyClass k hlocal) (.modifyClass _ k hlocal))

/-- Wrappers are changed alike. -/
theorem modifyElement (h : s.Similar t) (w : ElementId) (f : ElementInfo → ElementInfo) :
    Matching (Resolving.changeModel fun m => m.modifyElement w f)
      (Resolving.changeModel fun m => m.modifyElement w f) s t anyAnswer :=
  modify (h.withModel (h.model.modifyElement w f) (.of_eq rfl))

/-- A class is allocated **under the same id**, each in its scope. -/
theorem newClass (h : s.Similar t) (name : String) {scope replaced : Scope}
    (hscope : s.model.Replaces scope replaced) :
    Matching (Resolving.allocate fun m => m.newClass name scope)
      (Resolving.allocate fun m => m.newClass name replaced) s t
      fun k m => m.HasType (.classRef k) := by
  refine .ok (a := ⟨s.model.classes.size⟩) rfl ?_
    (h.withModel (h.model.newClass name hscope) (.newClass _ name scope)) ?_
  · show (Except.ok (t.model.newClass name replaced).1, _) = _
    rw [h.model.newClass_fst name scope replaced]
    rfl
  · show s.model.classes.size < (s.model.newClass name scope).2.classes.size
    simp

/-- A wrapper is allocated and noted **under the same id**, in the same scope. -/
theorem noteWrapper {r r' : Resolver} (h : s.Similar t) (hschema : r'.schema = r.schema)
    (element : ComponentId) (scope : Scope) :
    Matching (r.noteWrapper element scope) (r'.noteWrapper element scope) s t anyAnswer := by
  have hstep := Resolver.runFrom_noteWrapper r element scope s
  have hflat := Resolver.runFrom_noteWrapper r' element scope t
  rw [hschema, h.model.elements] at hflat
  refine .ok hstep hflat ?_ trivial
  have hmodel := h.withModel (h.model.newElement (r.schema.component element).nameOrEmpty
    (r.schema.component element).ns scope) (.of_eq rfl)
  refine
    { hmodel with
      elements := ?_
      noted := fun e he type htype => ?_ }
  · show (element, some (TypeRef.wrapper ⟨t.model.elements.size⟩)) :: t.elements = _
    rw [h.model.elements, h.elements]
    rfl
  · rcases List.mem_cons.1 he with rfl | he
    · cases htype
      trivial
    · exact hmodel.noted e he type htype

/-- A component is registered alike. -/
theorem queueBuild (h : s.Similar t) (c : ComponentId) {target : TypeRef}
    (htarget : s.model.HasType target) :
    Matching (Resolving.queueBuild c target) (Resolving.queueBuild c target) s t
      fun b m => m.HasType b.target := by
  have hstep := Resolver.runFrom_queueBuild c target s
  have hflat := Resolver.runFrom_queueBuild c target t
  rw [h.registry] at hflat
  cases hbound : s.registry.target? c with
  | some existing =>
    rw [hbound] at hstep hflat
    -- both registries refuse another target, for the same reason
    by_cases hsame : existing = target
    · simp only [if_pos hsame] at hstep hflat
      exact .ok hstep hflat h htarget
    · simp only [if_neg hsame] at hstep hflat
      exact .error hstep hflat
  | none =>
    rw [hbound] at hstep hflat
    refine .ok hstep hflat
      { h with
        registry := rfl
        queue := by rw [h.queue]
        bound := fun b hb => ?_
        queued := fun b hb => ?_ } htarget
    · rcases List.mem_append.1 hb with hb | hb
      · exact h.bound b hb
      · obtain rfl := List.mem_singleton.1 hb
        exact htarget
    · dsimp only at hb
      split at hb
      · exact h.queued b hb
      · rcases List.mem_cons.1 hb with rfl | hb
        · exact htarget
        · exact h.queued b hb

end Matching

end Resolving

end SchemaBinding
