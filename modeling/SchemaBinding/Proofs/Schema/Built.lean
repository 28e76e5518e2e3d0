import SchemaBinding.Proofs.Schema.Kind
import SchemaBinding.Schema.Builder

/-! # Built schema sets
A schema set is **built** from the initial one by any sequence of building steps, those included
that are misused. Whatever the sequence, every global component is listed in the schema of its
namespace. -/

namespace SchemaBinding

variable {α β : Type}

/-! ## Changes of a set -/

namespace SchemaSet

variable {set : SchemaSet} {ns : String} {f : Schema → Schema} {id k : ComponentId}

@[simp] theorem size_insert (set : SchemaSet) (c : Component) :
    (set.insert c).2.size = set.size + 1 := by
  simp [insert, modifySchema, size]

/-- A component that is inserted stands at the end; all others stay. -/
theorem component_insert (set : SchemaSet) (c : Component) (k : ComponentId) :
    (set.insert c).2.component k = if k = ⟨set.size⟩ then c else set.component k := by
  unfold insert modifySchema component size
  dsimp only
  rw [Array.getD_eq_getD_getElem?, Array.getD_eq_getD_getElem?, Array.getElem?_push]
  by_cases hk : k = ⟨set.components.size⟩
  · subst hk
    simp
  · have hindex : k.index ≠ set.components.size := fun h => hk (by cases k; simpa using h)
    rw [if_neg hindex, if_neg hk]

@[simp] theorem size_modifyComponent (set : SchemaSet) (id : ComponentId)
    (f : Component → Component) : (set.modifyComponent id f).size = set.size := by
  simp [modifyComponent, size]

/-- Changing a component is seen at that component alone, provided it exists. -/
theorem component_modifyComponent (set : SchemaSet) (id k : ComponentId)
    (f : Component → Component) :
    (set.modifyComponent id f).component k =
      if k = id ∧ k.index < set.size then f (set.component k) else set.component k := by
  unfold modifyComponent component size
  simp only [Array.getD_eq_getD_getElem?, Array.getElem?_modify]
  by_cases hk : k = id
  · subst hk
    by_cases hsize : k.index < set.components.size
    · simp [hsize]
    · simp [hsize]
  · have hindex : id.index ≠ k.index := fun h => hk (by cases k; cases id; simpa using h.symm)
    simp [hk, hindex]

/-- A component beyond the end is the default one. -/
theorem component_of_size_le (h : set.size ≤ id.index) : set.component id = default := by
  unfold component
  rw [Array.getD_eq_getD_getElem?, Array.getElem?_eq_none h]
  rfl

/-- Schemas stay mentioned, with the components that they list. -/
theorem exists_modifySchemas_of_mem (ns : String)
    (hf : ∀ s, (f s).ns = s.ns ∧ s.components ⊆ (f s).components) {schemas : List Schema}
    {s : Schema} (hs : s ∈ schemas) :
    ∃ s' ∈ modifySchemas ns f schemas, s'.ns = s.ns ∧ s.components ⊆ s'.components := by
  induction schemas with
  | nil => cases hs
  | cons first rest ih =>
    unfold modifySchemas
    split
    · rcases List.mem_cons.1 hs with rfl | hs
      · exact ⟨f s, List.mem_cons_self, hf s⟩
      · exact ⟨s, .tail _ hs, rfl, List.Subset.refl _⟩
    · rcases List.mem_cons.1 hs with rfl | hs
      · exact ⟨s, List.mem_cons_self, rfl, List.Subset.refl _⟩
      · obtain ⟨s', hs', h⟩ := ih hs
        exact ⟨s', .tail _ hs', h⟩

/-- The schema of a namespace is changed, or mentioned for the first time. -/
theorem exists_modifySchemas (ns : String) (f : Schema → Schema) (schemas : List Schema) :
    ∃ s : Schema, s.ns = ns ∧ f s ∈ modifySchemas ns f schemas := by
  induction schemas with
  | nil => exact ⟨{ ns }, rfl, List.mem_cons_self⟩
  | cons first rest ih =>
    unfold modifySchemas
    split
    · rename_i hns
      exact ⟨first, hns, List.mem_cons_self⟩
    · obtain ⟨s, hs, hmem⟩ := ih
      exact ⟨s, hs, .tail _ hmem⟩

/-- A schema after a change was there before, or is the changed one of the namespace. -/
theorem of_mem_modifySchemas {schemas : List Schema} {s' : Schema}
    (h : s' ∈ modifySchemas ns f schemas) :
    s' ∈ schemas ∨ ∃ s, (s ∈ schemas ∨ s = { ns }) ∧ s.ns = ns ∧ s' = f s := by
  induction schemas with
  | nil => exact .inr ⟨{ ns }, .inr rfl, rfl, List.mem_singleton.1 h⟩
  | cons first rest ih =>
    unfold modifySchemas at h
    split at h
    · rename_i hns
      rcases List.mem_cons.1 h with rfl | h
      · exact .inr ⟨first, .inl List.mem_cons_self, hns, rfl⟩
      · exact .inl (.tail _ h)
    · rcases List.mem_cons.1 h with rfl | h
      · exact .inl List.mem_cons_self
      · rcases ih h with h | ⟨s, hs, hns, rfl⟩
        · exact .inl (.tail _ h)
        · exact .inr ⟨s, hs.imp_left (.tail _), hns, rfl⟩

/-! ## Listed components -/

/-- Every global component is **listed** in the schema of its namespace. -/
def Listed (set : SchemaSet) : Prop :=
  ∀ id, (set.component id).isGlobal = true →
    ∃ s ∈ set.schemas, s.ns = (set.component id).ns ∧ id ∈ s.components

/-- A change of a schema that takes nothing off its list keeps global components listed. -/
theorem Listed.modifySchema (h : set.Listed)
    (hf : ∀ s, (f s).ns = s.ns ∧ s.components ⊆ (f s).components) :
    (set.modifySchema ns f).Listed := by
  intro id hglobal
  obtain ⟨s, hs, hns, hid⟩ := h id hglobal
  obtain ⟨s', hs', hns', hsubset⟩ := exists_modifySchemas_of_mem ns hf hs
  exact ⟨s', hs', hns'.trans hns, hsubset hid⟩

/-- A change of a component that keeps it global, or local, in its namespace keeps it listed. -/
theorem Listed.modifyComponent (h : set.Listed) {f : Component → Component}
    (hglobal : (f (set.component id)).isGlobal = (set.component id).isGlobal)
    (hns : (f (set.component id)).ns = (set.component id).ns) :
    (set.modifyComponent id f).Listed := by
  intro k hk
  have hsame : ((set.modifyComponent id f).component k).isGlobal = (set.component k).isGlobal ∧
      ((set.modifyComponent id f).component k).ns = (set.component k).ns := by
    rw [component_modifyComponent]
    split
    · rename_i hself
      rw [hself.1]
      exact ⟨hglobal, hns⟩
    · exact ⟨rfl, rfl⟩
  rw [hsame.1] at hk
  rw [hsame.2]
  exact h k hk

/-- An inserted component is listed if it is global. -/
theorem Listed.insert (h : set.Listed) (c : Component) : (set.insert c).2.Listed := by
  intro k hk
  let list (s : Schema) : Schema :=
    if c.isGlobal then { s with components := s.components ++ [(⟨set.size⟩ : ComponentId)] } else s
  have hlist : ∀ s, (list s).ns = s.ns ∧ s.components ⊆ (list s).components := by
    intro s
    unfold list
    split
    · exact ⟨rfl, List.subset_append_left _ _⟩
    · exact ⟨rfl, List.Subset.refl _⟩
  rw [component_insert] at hk ⊢
  split at hk
  · rename_i hlast
    rw [if_pos hlast]
    -- a new global component is added to the schema of its namespace
    obtain ⟨s, hs, hmem⟩ := exists_modifySchemas c.ns list set.schemas
    refine ⟨list s, hmem, (hlist s).1.trans hs, ?_⟩
    unfold list
    rw [if_pos hk, hlast]
    exact List.mem_append_right _ (List.mem_singleton_self _)
  · rename_i hother
    rw [if_neg hother]
    -- the others stay where they are listed
    obtain ⟨s, hs, hns, hid⟩ := h k hk
    obtain ⟨s', hs', hns', hsubset⟩ := exists_modifySchemas_of_mem c.ns hlist hs
    exact ⟨s', hs', hns'.trans hns, hsubset hid⟩

/-- The built-in types are listed. -/
theorem listed_initial : initial.Listed := by
  have hfold (components : List Component) (set : SchemaSet) (h : set.Listed) :
      (components.foldl (fun set c => (set.insert c).2) set).Listed := by
    induction components generalizing set with
    | nil => exact h
    | cons c rest ih => exact ih _ (h.insert c)
  refine hfold _ _ fun id hglobal => ?_
  rw [component_of_size_le (Nat.zero_le _)] at hglobal
  cases hglobal

/-! ## Complex types -/

/-- A set **has** a complex type under an id. -/
def HasComplexType (id : ComponentId) (set : SchemaSet) : Prop :=
  id.index < set.size ∧ (set.component id).isComplexType = true

/-- An inserted component is none of those that there are. -/
theorem HasComplexType.insert (h : set.HasComplexType id) (c : Component) :
    (set.insert c).2.HasComplexType id := by
  refine ⟨by rw [size_insert]; exact Nat.lt_succ_of_lt h.1, ?_⟩
  rw [component_insert, if_neg fun hid => ?_]
  · exact h.2
  · -- what is inserted stands behind
    exact absurd h.1 (by simp [hid])

/-- A component that stays a complex type does not take one away. -/
theorem HasComplexType.modifyComponent (h : set.HasComplexType id) {f : Component → Component}
    (hcomplex : (set.component k).isComplexType = true →
      (f (set.component k)).isComplexType = true) :
    (set.modifyComponent k f).HasComplexType id := by
  refine ⟨by rw [size_modifyComponent]; exact h.1, ?_⟩
  rw [component_modifyComponent]
  split
  · rename_i hself
    exact hself.1 ▸ hcomplex (hself.1 ▸ h.2)
  · exact h.2

/-! ## Runs of composed steps -/

section Runs

variable {ε : Type} {set' : SchemaSet} {step : ExceptT ε (StateM SchemaSet) α}
  {next : α → ExceptT ε (StateM SchemaSet) β}

/-- A step after another runs from the set that the first one leaves. -/
theorem run_bind (step : ExceptT ε (StateM SchemaSet) α)
    (next : α → ExceptT ε (StateM SchemaSet) β) (set : SchemaSet) :
    (step >>= next).run.run set =
      match step.run.run set with
      | (.ok a, u) => (next a).run.run u
      | (.error e, u) => (.error e, u) := by
  show (match step.run set with
    | (r, t) => (ExceptT.bindCont next r).run t) = _
  unfold ExceptT.run StateT.run
  rcases step set with ⟨_ | _, t⟩ <;> rfl

/-- A step after one whose outcome is known. -/
theorem run_bind_of_ok {a : α} (h : step.run.run set = (.ok a, set'))
    (next : α → ExceptT ε (StateM SchemaSet) β) :
    (step >>= next).run.run set = (next a).run.run set' := by
  rw [run_bind, h]

/-- A composed step succeeds when both steps do. -/
theorem run_bind_ok {b : β} (h : (step >>= next).run.run set = (.ok b, set')) :
    ∃ a u, step.run.run set = (.ok a, u) ∧ (next a).run.run u = (.ok b, set') := by
  rw [run_bind] at h
  rcases hrun : step.run.run set with ⟨_ | a, u⟩
  · rw [hrun] at h
    cases h
  · rw [hrun] at h
    exact ⟨a, u, rfl, h⟩

end Runs

end SchemaSet

/-! ## Building steps -/

namespace Builder

/-- The set after a building step, also if it was misused. -/
def after (step : Builder α) (set : SchemaSet) : SchemaSet := (step.run.run set).2

/-- A **call** of a building step. -/
inductive Call : {α : Type} → Builder α → Prop
  | schema (ns : String) : Call (schema ns)
  | package (ns name : String) : Call (package ns name)
  | schemaLocator (ns : String) (locator : Locator) : Call (schemaLocator ns locator)
  | builtin (name : String) : Call (builtin name)
  | globalElement (ns name : String) (type : Option ComponentId) :
      Call (globalElement ns name type)
  | globalComplexType (ns name : String) : Call (globalComplexType ns name)
  | globalSimpleType (ns name : String) (base : ComponentId) : Call (globalSimpleType ns name base)
  | setElementType (element type : ComponentId) : Call (setElementType element type)
  | setSimpleBase (type base : ComponentId) : Call (setSimpleBase type base)
  | anonymousComplexType (element : ComponentId) : Call (anonymousComplexType element)
  | anonymousSimpleType (element base : ComponentId) : Call (anonymousSimpleType element base)
  | localElement (owner : ComponentId) (name : String) (type : Option ComponentId) :
      Call (localElement owner name type)
  | elementRef (owner term : ComponentId) : Call (elementRef owner term)
  | localAttribute (owner : ComponentId) (name : String) (type : Option ComponentId) :
      Call (localAttribute owner name type)
  | group (owner : ComponentId) (compositor : Compositor) : Call (group owner compositor)
  | derive (type base : ComponentId) (derivation : Derivation) : Call (derive type base derivation)
  | setAbstract (id : ComponentId) : Call (setAbstract id)
  | setRepeated (owner term : ComponentId) : Call (setRepeated owner term)
  | setLocator (id : ComponentId) (locator : Locator) : Call (setLocator id locator)
  | documentation (id : ComponentId) (text : String) : Call (documentation id text)
  | className (id : ComponentId) (name : String) : Call (className id name)
  | property (id : ComponentId) (name : Option String) : Call (property id name)

/-- A component that **is there** is found. -/
theorem run_component {set : SchemaSet} {id : ComponentId} (h : id.index < set.size) :
    (component id).run.run set = (.ok (set.component id), set) := by
  unfold component
  rw [SchemaSet.run_bind]
  exact congrArg (fun step : Builder Component => step.run.run set) (if_pos h)

/-- A component that is **out of bounds** is not found. -/
theorem run_component_of_le {set : SchemaSet} {id : ComponentId} (h : set.size ≤ id.index) :
    (component id).run.run set = (.error (.outOfBounds set.size id.index), set) := by
  unfold component
  rw [SchemaSet.run_bind]
  exact congrArg (fun step : Builder Component => step.run.run set) (if_neg (Nat.not_lt.2 h))

/-- What is found is the component of the id, and the set stays. -/
theorem of_run_component {set set' : SchemaSet} {id : ComponentId} {c : Component}
    (h : (component id).run.run set = (.ok c, set')) :
    id.index < set.size ∧ set.component id = c ∧ set = set' := by
  by_cases hid : id.index < set.size
  · rw [run_component hid] at h
    cases h
    exact ⟨hid, rfl, rfl⟩
  · rw [run_component_of_le (Nat.not_lt.1 hid)] at h
    cases h

/-- A component that is there has a namespace. -/
theorem run_namespaceOf {set : SchemaSet} {id : ComponentId} (h : id.index < set.size) :
    (namespaceOf id).run.run set = (.ok (set.component id).ns, set) := by
  unfold namespaceOf
  rw [SchemaSet.run_bind_of_ok (run_component h)]
  rfl

/-- A component that is there is **changed**. -/
theorem run_change {set : SchemaSet} {id : ComponentId} (h : id.index < set.size)
    (f : Component → Component) :
    (change id f).run.run set = (.ok (), set.modifyComponent id f) := by
  unfold change
  rw [SchemaSet.run_bind_of_ok (run_component h)]
  rfl

/-- A step **preserves** a property of schema sets. -/
def Preserves (P : SchemaSet → Prop) (step : Builder α) : Prop :=
  ∀ set, P set → P (step.after set)

namespace Preserves

variable {P : SchemaSet → Prop}

/-- To return changes no set. -/
theorem pure (a : α) : Preserves P (Pure.pure a : Builder α) := fun _ h => h

/-- A misuse changes no set. -/
theorem throw (e : Misuse) : Preserves P (MonadExcept.throw e : Builder α) := fun _ h => h

/-- Steps in a row preserve what each preserves. -/
theorem bind {step : Builder α} {next : α → Builder β} (h : Preserves P step)
    (hnext : ∀ a, Preserves P (next a)) : Preserves P (step >>= next) := by
  intro set hset
  have hstep := h set hset
  unfold after at hstep ⊢
  rw [SchemaSet.run_bind]
  rcases hrun : step.run.run set with ⟨_ | a, u⟩
  · rw [hrun] at hstep
    exact hstep
  · rw [hrun] at hstep
    exact hnext a u hstep

/-- A step that reads the set first is run for the set that it is in. -/
theorem reading {next : SchemaSet → Builder α} (h : ∀ set, P set → P ((next set).after set)) :
    Preserves P (MonadState.get >>= next) := h

/-- To ask for a component changes nothing, whether or not there is one. -/
theorem component (id : ComponentId) : Preserves P (Builder.component id) := by
  refine .reading fun set h => ?_
  split <;> exact h

/-- A step that asks for a component first is run if the set has one. -/
theorem component_bind {id : ComponentId} {next : Component → Builder α}
    (h : ∀ set, P set → id.index < set.size → P ((next (set.component id)).after set)) :
    Preserves P (Builder.component id >>= next) := by
  intro set hset
  unfold after
  by_cases hid : id.index < set.size
  · rw [SchemaSet.run_bind_of_ok (run_component hid)]
    exact h set hset hid
  · rwa [SchemaSet.run_bind, run_component_of_le (Nat.not_lt.1 hid)]

/-- A component that is there may be changed if the property stays. -/
theorem change {id : ComponentId} {f : Component → Component}
    (h : ∀ set, P set → P (set.modifyComponent id f)) : Preserves P (Builder.change id f) :=
  .component_bind fun set hset _ => h set hset

/-- A component may be given another kind if the property stays. -/
theorem changeKind {id : ComponentId} {f : ComponentKind → Except Misuse ComponentKind}
    (h : ∀ set, P set → ∀ kind, f (set.component id).kind = .ok kind →
      P (set.modifyComponent id fun c => { c with kind })) :
    Preserves P (Builder.changeKind id f) := by
  refine .component_bind fun set hset hid => ?_
  cases hkind : f (set.component id).kind with
  | error misuse => exact hset
  | ok kind =>
    show P ((Builder.change id fun c => { c with kind }).after set)
    unfold after
    rw [run_change hid]
    exact h set hset kind hkind

/-- To ask for the namespace of a component changes nothing. -/
theorem namespaceOf (id : ComponentId) : Preserves P (Builder.namespaceOf id) :=
  (component id).bind fun _ => .pure _

end Preserves

/-! ### What calls preserve -/

section Listed

open SchemaSet (Listed)

/-- An inserted component is listed. -/
theorem preserves_insert (c : Component) : Preserves Listed (insert c) := fun _ h => h.insert c

/-- A change that keeps a component in its place keeps it listed. -/
theorem preserves_change (id : ComponentId) {f : Component → Component}
    (hglobal : ∀ c, (f c).isGlobal = c.isGlobal) (hns : ∀ c, (f c).ns = c.ns) :
    Preserves Listed (change id f) := .change fun _ h => h.modifyComponent (hglobal _) (hns _)

/-- A change of a kind keeps a component listed. -/
theorem preserves_changeKind (id : ComponentId)
    (f : ComponentKind → Except Misuse ComponentKind) : Preserves Listed (changeKind id f) :=
  .changeKind fun _ h _ _ => h.modifyComponent rfl rfl

/-- One more particle keeps all components listed. -/
theorem preserves_pushParticle (owner term : ComponentId) :
    Preserves Listed (pushParticle owner term) := preserves_changeKind _ _

/-- Building steps **list** what they declare. -/
theorem Call.preserves {step : Builder α} (h : Call step) : Preserves Listed step := by
  cases h with
  | schema ns => exact fun _ h => h.modifySchema fun s => ⟨rfl, List.Subset.refl _⟩
  | package ns name => exact fun _ h => h.modifySchema fun s => ⟨rfl, List.Subset.refl _⟩
  | schemaLocator ns locator => exact fun _ h => h.modifySchema fun s => ⟨rfl, List.Subset.refl _⟩
  | builtin name =>
    unfold Builder.builtin
    split
    · exact .pure _
    · exact .throw _
  | globalElement | globalComplexType | globalSimpleType => exact preserves_insert _
  | setElementType | setSimpleBase | elementRef | derive | setAbstract | setRepeated =>
    exact preserves_changeKind _ _
  | anonymousComplexType element =>
    exact (Preserves.namespaceOf element).bind fun _ => (preserves_insert _).bind fun type =>
      (preserves_changeKind _ _).bind fun _ => .pure _
  | anonymousSimpleType element base =>
    exact (Preserves.namespaceOf element).bind fun _ => (preserves_insert _).bind fun type =>
      (preserves_changeKind _ _).bind fun _ => .pure _
  | localElement owner name type =>
    exact (Preserves.namespaceOf owner).bind fun _ => (preserves_insert _).bind fun _ =>
      (preserves_pushParticle _ _).bind fun _ => .pure _
  | localAttribute owner name type =>
    exact (Preserves.namespaceOf owner).bind fun _ => (preserves_insert _).bind fun _ =>
      (preserves_changeKind _ _).bind fun _ => .pure _
  | group owner compositor =>
    exact (Preserves.namespaceOf owner).bind fun _ => (preserves_insert _).bind fun _ =>
      (preserves_pushParticle _ _).bind fun _ => .pure _
  | setLocator | documentation | className | property =>
    exact preserves_change _ (fun _ => rfl) fun _ => rfl

end Listed

section HasComplexType

variable {id : ComponentId}

open SchemaSet (HasComplexType)

/-- An inserted component takes no complex type away. -/
theorem keeps_insert (c : Component) : Preserves (HasComplexType id) (insert c) :=
  fun _ h => h.insert c

/-- A change that keeps the kind of a component takes no complex type away. -/
theorem keeps_change (owner : ComponentId) {f : Component → Component}
    (hkind : ∀ c, (f c).kind = c.kind) : Preserves (HasComplexType id) (change owner f) := by
  refine .change fun _ h => h.modifyComponent fun hcomplex => ?_
  unfold Component.isComplexType Component.asComplexType at hcomplex ⊢
  rwa [hkind]

/-- A change of kinds that takes complex types to complex types. -/
theorem keeps_changeKind (owner : ComponentId) {f : ComponentKind → Except Misuse ComponentKind}
    (hf : ∀ type kind, f (.complexType type) = .ok kind → ∃ type', kind = .complexType type') :
    Preserves (HasComplexType id) (changeKind owner f) := by
  refine .changeKind fun set h kind hkind => h.modifyComponent fun hcomplex => ?_
  obtain ⟨type, htype⟩ := Component.isComplexType_iff.1 hcomplex
  rw [htype] at hkind
  obtain ⟨type', rfl⟩ := hf type kind hkind
  rfl

/-- One more particle takes no complex type away. -/
theorem keeps_pushParticle (owner term : ComponentId) :
    Preserves (HasComplexType id) (pushParticle owner term) :=
  keeps_changeKind owner (by rintro type _ ⟨⟩; exact ⟨_, rfl⟩)

/-- The type of an element takes no complex type away. -/
theorem keeps_setElementType (element type : ComponentId) :
    Preserves (HasComplexType id) (setElementType element type) :=
  keeps_changeKind element (by rintro type _ ⟨⟩)

/-- Complex types **stay** complex types, whatever is done to a set. -/
theorem Call.keeps {step : Builder α} (h : Call step) : Preserves (HasComplexType id) step := by
  cases h with
  | schema | package | schemaLocator => exact fun _ h => h
  | builtin name =>
    unfold Builder.builtin
    split
    · exact .pure _
    · exact .throw _
  | globalElement | globalComplexType | globalSimpleType => exact keeps_insert _
  | setElementType element type => exact keeps_setElementType element type
  | elementRef owner term => exact keeps_pushParticle owner term
  | setSimpleBase type base => exact keeps_changeKind _ (by rintro type _ ⟨⟩)
  | derive | setAbstract => exact keeps_changeKind _ (by rintro type _ ⟨⟩; exact ⟨_, rfl⟩)
  | setRepeated owner term =>
    refine keeps_changeKind _ fun type kind hrepeated => ?_
    dsimp only at hrepeated
    split at hrepeated
    · cases hrepeated
      exact ⟨_, rfl⟩
    · cases hrepeated
  | anonymousComplexType element =>
    exact (Preserves.namespaceOf element).bind fun _ => (keeps_insert _).bind fun type =>
      (keeps_setElementType element type).bind fun _ => .pure _
  | anonymousSimpleType element base =>
    exact (Preserves.namespaceOf element).bind fun _ => (keeps_insert _).bind fun type =>
      (keeps_setElementType element type).bind fun _ => .pure _
  | localElement owner name type =>
    exact (Preserves.namespaceOf owner).bind fun _ => (keeps_insert _).bind fun element =>
      (keeps_pushParticle owner element).bind fun _ => .pure _
  | localAttribute owner name type =>
    exact (Preserves.namespaceOf owner).bind fun _ => (keeps_insert _).bind fun _ =>
      (keeps_changeKind _ (by rintro type _ ⟨⟩; exact ⟨_, rfl⟩)).bind fun _ => .pure _
  | group owner compositor =>
    exact (Preserves.namespaceOf owner).bind fun _ => (keeps_insert _).bind fun group =>
      (keeps_pushParticle owner group).bind fun _ => .pure _
  | setLocator | documentation | className | property => exact keeps_change _ fun _ => rfl

end HasComplexType

end Builder

namespace SchemaSet

/-- A set is **built** from the initial one by calls of building steps. -/
inductive Built : SchemaSet → Prop
  | initial : Built .initial
  | call {set : SchemaSet} {γ : Type} {step : Builder γ} (built : Built set)
      (call : Builder.Call step) : Built (step.after set)

/-- The global components of a built set are **listed**. -/
theorem Built.listed {set : SchemaSet} (h : set.Built) : set.Listed := by
  induction h with
  | initial => exact listed_initial
  | call _ call ih => exact call.preserves _ ih

/-- In a built set the universal type is a complex type. -/
theorem Built.isComplexType_anyType {set : SchemaSet} (h : set.Built) :
    (set.component anyType).isComplexType = true := by
  have hany : set.HasComplexType anyType := by
    induction h with
    | initial => exact ⟨by decide +kernel, by decide +kernel⟩
    | call _ call ih => exact call.keeps _ ih
  exact hany.2

end SchemaSet

end SchemaBinding
