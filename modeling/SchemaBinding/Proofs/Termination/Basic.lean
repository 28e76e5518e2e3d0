import Mathlib.Data.List.Perm.Subperm
import SchemaBinding.Proofs.Frame.Standard
import SchemaBinding.Proofs.Schema.Bases

/-! # Steps that come to an end
A run is cut short as endless when too many questions are asked inside each other, when too many
bodies are under construction or when too many bindings are taken off the queue. A step
**foretells** another one that is given more of these: unless it is cut short itself, both run the
same.

The bodies under construction extend each other, the outermost one apart. So each of the others is
that of a declared type, and their number is bounded by that of the declared types. -/

namespace SchemaBinding

open Resolver (State)

variable {α β : Type}

/-! ## Declared types -/

namespace SchemaSet

/-- The **declared** complex types of a set: the global ones, apart from the universal type. -/
def declaredTypes (set : SchemaSet) : List ComponentId :=
  set.ids.filter fun c =>
    (set.component c).isComplexType && (set.component c).isGlobal && c ≠ anyType

/-- The declared types are those declared in the set. -/
theorem mem_declaredTypes {set : SchemaSet} {c : ComponentId} :
    c ∈ set.declaredTypes ↔ set.DeclaresType c := by
  unfold declaredTypes
  simp only [List.mem_filter, Bool.and_eq_true, decide_eq_true_eq]
  constructor
  · rintro ⟨-, ⟨hcomplex, hglobal⟩, hany⟩
    exact ⟨hcomplex, hglobal, hany⟩
  · intro h
    have hindex := set.index_lt_of_isComplexType h.isComplexType
    exact ⟨List.mem_map.2 ⟨c.index, List.mem_range.2 hindex, rfl⟩,
      ⟨h.isComplexType, h.isGlobal⟩, h.ne_anyType⟩

/-- A component is **extended by** another one, and is not the universal type. -/
def ExtendedBy (set : SchemaSet) (later earlier : ComponentId) : Prop :=
  set.extended? earlier = some later ∧ later ≠ anyType

variable {allowed : String → Prop} {set : SchemaSet} {c d : ComponentId}

/-- What is extended is a declared type. -/
theorem Loaded.declaresType (h : set.Loaded allowed) (hextended : set.ExtendedBy c d) :
    set.DeclaresType c where
  isComplexType := (extended?_cases hextended.1).1
  isGlobal := h.isGlobal_of_extended? hextended.1
  ne_anyType := hextended.2

/-- In a chain of bodies that extend each other, all but the outermost one are those of declared
types, so there are **no more of them** than declared types and one. -/
theorem Loaded.length_le (h : set.Loaded allowed) {building : List ComponentId}
    (hnodup : building.Nodup) (hchain : building.IsChain set.ExtendedBy) :
    building.length ≤ set.declaredTypes.length + 1 := by
  have hsubset : building.dropLast ⊆ set.declaredTypes := by
    clear hnodup
    induction hchain with
    | nil => simp
    | singleton c => simp
    | @cons_cons later earlier rest hextended _ ih =>
      rw [List.dropLast_cons_cons]
      exact List.cons_subset.2 ⟨mem_declaredTypes.2 (h.declaresType hextended), ih⟩
  have hlength := (List.Nodup.subperm (hnodup.sublist (List.dropLast_sublist _)) hsubset).length_le
  rw [List.length_dropLast] at hlength
  omega

end SchemaSet

/-! ## Stacked bodies -/

namespace Resolver.State

/-- The bodies under construction are **stacked**: each one is extended by the one before it, and
the universal type is bound to a leaf, so that it never has a body. -/
structure Stacked (set : SchemaSet) (s : State) : Prop where
  nodup : s.building.active.Nodup
  chain : s.building.active.IsChain set.ExtendedBy
  anyType : s.registry.find? SchemaSet.anyType = some ⟨SchemaSet.anyType, .leaf .anyType⟩

/-- A body is **due** when the latest one under construction extends it. -/
def Due (set : SchemaSet) (s : State) (c : ComponentId) : Prop :=
  ∀ a ∈ s.building.active.head?, set.extended? a = some c

namespace Stacked

variable {set : SchemaSet} {s t : State} {c : ComponentId} {inner : Option ClassId}

/-- Bodies stay stacked in what keeps the state. -/
theorem keeps (h : s.Stacked set) (hkeeps : s.Keeps inner t) : t.Stacked set where
  nodup := hkeeps.building ▸ h.nodup
  chain := hkeeps.building ▸ h.chain
  anyType := hkeeps.bound h.anyType

/-- A body may be begun that the latest one extends. -/
theorem claimed (h : s.Stacked set) (hdue : ∀ a ∈ s.building.active.head?, set.ExtendedBy c a)
    (idle : c ∉ s.building.active) (k : ClassId) : (s.claimed c k).Stacked set where
  nodup := List.nodup_cons.2 ⟨idle, h.nodup⟩
  chain := List.isChain_cons.2 ⟨hdue, h.chain⟩
  anyType := h.anyType

/-- Opening a scope leaves the bodies stacked. -/
theorem inside (h : s.Stacked set) (scope : Scope) : (Resolving.inside scope s).Stacked set :=
  ⟨h.nodup, h.chain, h.anyType⟩

/-- Before a run no body is under construction. -/
theorem initial (set : SchemaSet) (reports : Reports) :
    (State.initial reports SchemaSet.anyType).Stacked set where
  nodup := List.nodup_nil
  chain := .nil
  anyType := rfl

/-- **The stack of bodies is bounded** by the number of declared types. -/
theorem depth_le {allowed : String → Prop} (h : s.Stacked set) (hset : set.Loaded allowed) :
    s.building.depth ≤ set.declaredTypes.length + 1 :=
  hset.length_le h.nodup h.chain

end Stacked

/-- A body that is due stays due over a step that keeps the state. -/
theorem Due.keeps {set : SchemaSet} {s t : State} {c : ComponentId} {inner : Option ClassId}
    (h : s.Due set c) (hkeeps : s.Keeps inner t) : t.Due set c := by
  unfold Due
  rw [hkeeps.building]
  exact h

end Resolver.State

/-! ## Foretelling -/

namespace Resolving

/-- A step **foretells** another one from a state: unless it is cut short as endless, the other one
runs the same. -/
def Foretells (step other : Resolving α) (s : State) : Prop :=
  (∃ c, (step.runFrom s).1 = .error (.endless c)) ∨ other.runFrom s = step.runFrom s

namespace Foretells

variable {step other : Resolving α} {s : State}

/-- A step that runs the same is foretold. -/
theorem of_eq (h : other.runFrom s = step.runFrom s) : Foretells step other s := .inr h

/-- A step foretells itself. -/
theorem refl (step : Resolving α) (s : State) : Foretells step step s := .of_eq rfl

/-- An error foretells itself. -/
theorem throw (e : ResolveError) (s : State) :
    Foretells (MonadExcept.throw e : Resolving α) (MonadExcept.throw e) s := .refl _ s

/-- A step that is cut short foretells any other one. -/
theorem endless (c : ComponentId) :
    Foretells (MonadExcept.throw (.endless c) : Resolving α) other s :=
  .inl ⟨c, rfl⟩

/-- A step that is not cut short runs as every step that it foretells. -/
theorem eq (h : Foretells step other s) (hend : ∀ c, (step.runFrom s).1 ≠ .error (.endless c)) :
    other.runFrom s = step.runFrom s :=
  h.resolve_left fun ⟨c, hc⟩ => hend c hc

/-- Runs that are the same as those of foretold steps are foretold. -/
theorem congr {step' other' : Resolving α} {t : State} (h : Foretells step other s)
    (hstep : step'.runFrom t = step.runFrom s) (hother : other'.runFrom t = other.runFrom s) :
    Foretells step' other' t := by
  unfold Foretells
  rw [hstep, hother]
  exact h

/-- Steps **compose**: a step that is cut short is so whatever comes after it. -/
theorem bind {next next' : α → Resolving β} (h : Foretells step other s)
    (hnext : ∀ a t, step.runFrom s = (.ok a, t) → Foretells (next a) (next' a) t) :
    Foretells (step >>= next) (other >>= next') s := by
  rcases h with ⟨c, hc⟩ | h
  · exact .inl ⟨c, fst_runFrom_bind_of_error hc⟩
  · unfold Foretells
    rw [runFrom_bind, runFrom_bind, h]
    rcases hrun : step.runFrom s with ⟨e | a, t⟩
    · exact .inr rfl
    · exact hnext a t hrun

/-- Rewriting answers foretells nothing else. -/
theorem map (h : Foretells step other s) (f : α → β) : Foretells (f <$> step) (f <$> other) s := by
  rw [map_eq_pure_bind, map_eq_pure_bind]
  exact h.bind fun a t _ => .refl _ t

/-- Steps that first look at the state. -/
theorem reading {next next' : State → Resolving α} (h : Foretells (next s) (next' s) s) :
    Foretells (MonadState.get >>= next) (MonadState.get >>= next') s :=
  h.congr (runFrom_get_bind next s) (runFrom_get_bind next' s)

/-- Steps over a list, as long as each of them keeps what they rely on. -/
theorem forM {P : State → Prop} {items : List α} {f g : α → Resolving Unit} (hs : P s)
    (h : ∀ a t, P t → Foretells (f a) (g a) t)
    (hkeeps : ∀ a t u, P t → (f a).runFrom t = (.ok (), u) → P u) :
    Foretells (items.forM f) (items.forM g) s := by
  induction items generalizing s with
  | nil => exact .refl _ s
  | cons a rest ih =>
    show Foretells (f a >>= fun _ => rest.forM f) (g a >>= fun _ => rest.forM g) s
    exact (h a s hs).bind fun _ t hrun => ih (hkeeps a s t hs hrun)

/-! ### Brackets -/

/-- Brackets may be closed around both steps. -/
theorem closing (h : Foretells step other s) (close : State → State) :
    Foretells (step.closing close) (other.closing close) s := by
  unfold Foretells
  rw [runFrom_closing, runFrom_closing]
  exact h.imp_right fun h => by rw [h]

/-- Steps inside a scope. -/
theorem withScope {inner : Option ClassId} (scope : Scope) (hstep : Keeping inner step)
    (h : Foretells step other (inside scope s)) :
    Foretells (Resolving.withScope scope step) (Resolving.withScope scope other) s := by
  by_cases hscope : scope = .root
  · -- the root cannot be pushed, whatever the step
    subst hscope
    refine .of_eq ?_
    unfold Resolving.withScope pushScope
    simp only [runFrom_get_bind, bind_assoc]
    rfl
  · have hscopes := (hstep (inside scope s)).scopes
    rcases h with ⟨c, hc⟩ | h
    · refine .inl ⟨c, ?_⟩
      rw [runFrom_withScope hscope hscopes]
      exact hc
    · refine .of_eq ?_
      rw [runFrom_withScope hscope hscopes, runFrom_withScope hscope (by rw [h]; exact hscopes), h]

end Foretells

end Resolving

end SchemaBinding
