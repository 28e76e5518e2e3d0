import SchemaBinding.Proofs.Placement.Steps

/-! # Lodged types
A package is only ever the scope of a class or of a wrapper when the model has it, and a wrapper is
never anywhere else than directly in a package. A state in which this is so, and in which it will be
so of everything that is placed in the scopes that are open, is lodged. -/

namespace SchemaBinding

open Resolver (State Event)

variable {α β : Type} {s t : State}

/-! ## Lodged states -/

/-- A model **hosts** a scope unless the scope is a package that the model lacks. -/
def Model.Hosts (m : Model) : Scope → Prop
  | .package p => p.index < m.packages.size
  | _ => True

/-- A model hosts what it hosted when it had fewer packages. -/
theorem Model.Hosts.mono {m n : Model} {scope : Scope} (h : m.Hosts scope)
    (hpackages : m.packages.size ≤ n.packages.size) : n.Hosts scope := by
  cases scope with
  | package p => exact lt_of_lt_of_le h hpackages
  | root => trivial
  | nested k => trivial

namespace Resolver.State

/-- A state is **lodged** when all that is in a package, or may come to be, is in one that the model
has. -/
structure Lodged (s : State) : Prop where
  known : ∀ ns p, (ns, p) ∈ s.packages → s.model.Hosts (.package p)
  opened : ∀ scope ∈ s.scopes.pushed, s.model.Hosts scope
  classes : ∀ k scope, s.model.scope? (.classRef k) = some scope → s.model.Hosts scope
  wrappers : ∀ w scope, s.model.scope? (.wrapper w) = some scope →
    ∃ p, scope = .package p ∧ s.model.Hosts scope

namespace Lodged

/-- What is about neither packages nor scopes may change. -/
theorem congr (h : s.Lodged) (hmodel : t.model = s.model) (hpackages : t.packages = s.packages)
    (hscopes : t.scopes = s.scopes) : t.Lodged where
  known := by
    rw [hmodel, hpackages]
    exact h.known
  opened := by
    rw [hmodel, hscopes]
    exact h.opened
  classes := by
    rw [hmodel]
    exact h.classes
  wrappers := by
    rw [hmodel]
    exact h.wrappers

/-- The model may change as long as every type **stays** where it is, or is placed where it may
be. -/
theorem withModel (h : s.Lodged) {m : Model}
    (hpackages : s.model.packages.size ≤ m.packages.size)
    (hclasses : ∀ k scope, m.scope? (.classRef k) = some scope →
      s.model.scope? (.classRef k) = some scope ∨ m.Hosts scope)
    (hwrappers : ∀ w scope, m.scope? (.wrapper w) = some scope →
      s.model.scope? (.wrapper w) = some scope ∨ ∃ p, scope = .package p ∧ m.Hosts scope) :
    Lodged { s with model := m } where
  known ns p hp := (h.known ns p hp).mono hpackages
  opened scope hscope := (h.opened scope hscope).mono hpackages
  classes k scope hk := by
    rcases hclasses k scope hk with hbefore | hnow
    · exact (h.classes k scope hbefore).mono hpackages
    · exact hnow
  wrappers w scope hw := by
    rcases hwrappers w scope hw with hbefore | hnow
    · obtain ⟨p, rfl, hp⟩ := h.wrappers w scope hbefore
      exact ⟨p, rfl, hp.mono hpackages⟩
    · exact hnow

/-- Nothing is placed anew. -/
theorem withModel_of_scope? (h : s.Lodged) {m : Model}
    (hpackages : s.model.packages.size ≤ m.packages.size)
    (hscope : ∀ type, m.scope? type = s.model.scope? type) : Lodged { s with model := m } :=
  h.withModel hpackages (fun k _ hk => .inl (hscope (.classRef k) ▸ hk))
    fun w _ hw => .inl (hscope (.wrapper w) ▸ hw)

/-- A scope that the model hosts may be opened. -/
theorem inside (h : s.Lodged) {scope : Scope} (hscope : s.model.Hosts scope) :
    Lodged (Resolving.inside scope s) :=
  { h with
    opened := by
      rw [Resolving.pushed_inside]
      exact List.forall_mem_cons.2 ⟨hscope, h.opened⟩ }

/-- Scopes that were open inside of others may be the only ones. -/
theorem outside (h : t.Lodged) (scopes : ScopeStack) (hscopes : scopes.pushed ⊆ t.scopes.pushed) :
    Lodged { t with scopes } :=
  { h with opened := fun scope hscope => h.opened scope (hscopes hscope) }

/-- The innermost scope is hosted. -/
theorem current (h : s.Lodged) : s.model.Hosts s.scopes.current := by
  rw [ScopeStack.current_eq]
  cases hpushed : s.scopes.pushed with
  | nil => trivial
  | cons scope rest => exact h.opened scope (by simp [hpushed])

/-- The package for a namespace is one that the model has **afterwards**. -/
theorem packageOf (h : s.Lodged) (x : Context) (ns : String) :
    (x.packageOf ns s).2.Lodged ∧
      (x.packageOf ns s).2.model.Hosts (.package (x.packageOf ns s).1) := by
  cases hlookup : s.packages.lookup ns with
  | some p =>
    rw [x.packageOf_known hlookup]
    obtain ⟨before, rest, hsplit, -⟩ := List.lookup_eq_some_iff.1 hlookup
    exact ⟨h, h.known ns p (by simp [hsplit])⟩
  | none =>
    rw [x.packageOf_unknown hlookup]
    dsimp only
    have hchecked : (x.checkPackageName ns (x.packageName ns) s).Lodged :=
      x.checkPackageName_cases _ _ s (fun _ => h) (fun _ _ => h.congr rfl rfl rfl)
        fun _ _ => h.congr rfl rfl rfl
    generalize x.checkPackageName ns (x.packageName ns) s = u at hchecked ⊢
    have hlodged := hchecked.withModel_of_scope? (u.model.size_packages_package_le _)
      (Model.scope?_package (x.packageName ns))
    have hnew : (u.model.package (x.packageName ns)).2.Hosts
        (.package (u.model.package (x.packageName ns)).1) := by
      have hname := u.model.getElem?_package (x.packageName ns)
      exact (Array.getElem?_eq_some_iff.1 hname).1
    refine ⟨{ hlodged with known := fun ns' p hp => ?_ }, hnew⟩
    rcases List.mem_append.1 hp with hp | hp
    · exact hlodged.known ns' p hp
    · obtain ⟨-, rfl⟩ := Prod.mk.inj (List.mem_singleton.1 hp)
      exact hnew

end Lodged

end Resolver.State

/-! ## Steps that lodge types -/

namespace Resolving

/-- A step **lodges** what it places: it takes lodged states to lodged ones, whatever its
outcome. -/
def Lodging (step : Resolving α) : Prop := ∀ s : State, s.Lodged → (step.runFrom s).2.Lodged

namespace Lodging

variable {step : Resolving α} {next : α → Resolving β}

/-- To return lodges what is lodged. -/
theorem pure (a : α) : Lodging (Pure.pure a : Resolving α) := fun _ h => h

/-- To fail lodges what is lodged. -/
theorem throw (e : ResolveError) : Lodging (MonadExcept.throw e : Resolving α) := fun _ h => h

/-- What follows a step is run from the lodged state that the step leaves. -/
theorem bind_from (h : (step.runFrom s).2.Lodged)
    (hnext : ∀ a t, step.runFrom s = (.ok a, t) → t.Lodged → ((next a).runFrom t).2.Lodged) :
    ((step >>= next).runFrom s).2.Lodged := by
  rw [runFrom_bind]
  rcases hrun : step.runFrom s with ⟨e | a, t⟩
  · rwa [hrun] at h
  · rw [hrun] at h
    exact hnext a t hrun h

/-- Steps in a row lodge if each does. -/
theorem bind (h : Lodging step) (hnext : ∀ a, Lodging (next a)) : Lodging (step >>= next) :=
  fun s hs => bind_from (h s hs) fun a t _ => hnext a t

/-- A step that first looks at the state. -/
theorem reading {next : State → Resolving β}
    (hnext : ∀ s : State, s.Lodged → ((next s).runFrom s).2.Lodged) :
    Lodging (MonadState.get >>= next) := by
  intro s hs
  rw [runFrom_get_bind]
  exact hnext s hs

/-- Rewriting the answer of a step places nothing. -/
theorem map (h : Lodging step) (f : α → β) : Lodging (f <$> step) := by
  rw [map_eq_pure_bind]
  exact h.bind fun _ => .pure _

/-- A loop lodges if each of its steps does. -/
theorem forM {items : List α} {f : α → Resolving Unit} (h : ∀ a, Lodging (f a)) :
    Lodging (items.forM f) := by
  induction items with
  | nil => exact pure ()
  | cons a rest ih =>
    show Lodging (f a >>= fun _ => rest.forM f)
    exact (h a).bind fun _ => ih

/-- A step inside a scope that the model hosts. -/
theorem withScope_from {inner : Option ClassId} {scope : Scope} (hscope : scope ≠ .root)
    (hkeeping : Keeping inner step) (h : (step.runFrom (inside scope s)).2.Lodged) :
    ((Resolving.withScope scope step).runFrom s).2.Lodged := by
  have hscopes := (hkeeping (inside scope s)).scopes
  rw [runFrom_withScope hscope hscopes]
  refine h.outside s.scopes fun outer houter => ?_
  rw [hscopes, pushed_inside]
  exact List.mem_cons_of_mem scope houter

/-! ### Single changes -/

/-- A change of neither the model nor the packages nor the scopes places nothing. -/
theorem modify {f : State → State} (hmodel : ∀ s, (f s).model = s.model)
    (hpackages : ∀ s, (f s).packages = s.packages) (hscopes : ∀ s, (f s).scopes = s.scopes) :
    Lodging (modify f : Resolving PUnit) :=
  fun s hs => hs.congr (hmodel s) (hpackages s) (hscopes s)

/-- Recording an event places nothing. -/
theorem record (event : Event) : Lodging (Resolving.record event) :=
  modify (fun _ => rfl) (fun _ => rfl) fun _ => rfl

/-- Reporting a finding places nothing. -/
theorem report (finding : Finding) : Lodging (Resolving.report finding) :=
  modify (fun _ => rfl) (fun _ => rfl) fun _ => rfl

/-- Acknowledging a component places nothing. -/
theorem acknowledge (c : ComponentId) : Lodging (Resolving.acknowledge c) :=
  modify (fun _ => rfl) (fun _ => rfl) fun _ => rfl

/-- Marking an element as unbound places nothing. -/
theorem markUnbound (e : ComponentId) : Lodging (Resolving.markUnbound e) :=
  modify (fun _ => rfl) (fun _ => rfl) fun _ => rfl

/-- A class may be changed where it is. -/
theorem modifyClass (k : ClassId) {f : ClassInfo → ClassInfo}
    (hscope : ∀ c, (f c).scope = c.scope) :
    Lodging (Resolving.changeModel fun m => m.modifyClass k f) :=
  fun _ hs => hs.withModel_of_scope? le_rfl (Model.scope?_modifyClass hscope k)

/-- The content of a wrapper may be filled in. -/
theorem fillContent (w : ElementId) (content : Option TypeRef) :
    Lodging (Resolving.changeModel fun m => m.modifyElement w fun e => { e with content }) :=
  fun _ hs => hs.withModel_of_scope? le_rfl (Model.scope?_modifyElement w content)

/-- The package found or created for a namespace is in the model. -/
theorem packageFor (x : Context) (ns : String) : Lodging (x.packageFor ns) :=
  fun _ hs => (hs.packageOf x ns).1

/-- A class may be placed in a scope that the model hosts. -/
theorem newClass_from (h : s.Lodged) (name : String) {scope : Scope}
    (hscope : s.model.Hosts scope) :
    ((Resolving.allocate fun m => m.newClass name scope).runFrom s).2.Lodged := by
  refine h.withModel (m := (s.model.newClass name scope).2) le_rfl (fun k scope' hk => ?_)
    fun w scope' hw => ?_
  · rw [Model.scope?_newClass] at hk
    split at hk
    · exact .inr (Option.some.inj hk ▸ hscope)
    · exact .inl hk
  · rw [Model.scope?_newClass, if_neg (by simp)] at hw
    exact .inl hw

/-- A wrapper may be placed in a package that the model has. -/
theorem noteWrapper_from (h : s.Lodged) (r : Resolver) (element : ComponentId) {p : PackageId}
    (hp : s.model.Hosts (.package p)) :
    ((r.noteWrapper element (.package p)).runFrom s).2.Lodged := by
  rw [Resolver.runFrom_noteWrapper]
  refine State.Lodged.congr (h.withModel (m := (s.wrapping _ element (.package p)).model) le_rfl
    (fun k scope hk => ?_) fun w scope hw => ?_) rfl rfl rfl
  · unfold State.wrapping at hk
    rw [Model.scope?_newElement, if_neg (by simp)] at hk
    exact .inl hk
  · unfold State.wrapping at hw
    rw [Model.scope?_newElement] at hw
    split at hw
    · exact .inr ⟨p, (Option.some.inj hw).symm, Option.some.inj hw ▸ hp⟩
    · exact .inl hw

end Lodging

end Resolving

end SchemaBinding
