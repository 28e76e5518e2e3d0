import Mathlib.Data.List.Infix
import Mathlib.Logic.Relation
import SchemaBinding.Resolver.State

/-! # The books of a run
Which components are bound, which bodies are owed and which have been begun: these are the **books**
of a run. While a question is answered only two kinds of entries are made in them. A component that
is not bound is registered, and queued if its target has a body; a class is claimed when its body is
begun. What every entry preserves is preserved by every question, however deeply it nests. -/

namespace SchemaBinding.Resolver

/-- The **books** of a run. -/
structure Books where
  registry : Registry
  queue : List Binding
  built : List ClassId

/-- The books of a state. -/
def State.books (s : State) : Books := ⟨s.registry, s.queue, s.built⟩

namespace Books

variable {l m : Books}

/-- The books with a binding registered. -/
def register (l : Books) (b : Binding) : Books :=
  { l with
    registry := l.registry.insert b
    queue := if b.target.isPrebuilt then l.queue else b :: l.queue }

/-- The books with a class claimed. -/
def claim (l : Books) (k : ClassId) : Books := { l with built := k :: l.built }

/-- An **entry** in the books. -/
inductive Entry : Books → Books → Prop
  | register {l : Books} {b : Binding} (unbound : l.registry.find? b.component = none) :
      Entry l (l.register b)
  | claim {l : Books} (k : ClassId) : Entry l (l.claim k)

/-- Entries made one after the other. -/
abbrev Entries : Books → Books → Prop := Relation.ReflTransGen Entry

/-! ## The registry grows -/

/-- No entry takes a binding off the registry, and new ones come last. -/
theorem Entry.registry_prefix (h : Entry l m) : l.registry.bindings <+: m.registry.bindings := by
  cases h with
  | register => exact List.prefix_append _ _
  | claim => exact List.prefix_refl _

/-- Bindings are only added, behind all others. -/
theorem Entries.registry_prefix (h : Entries l m) :
    l.registry.bindings <+: m.registry.bindings := by
  induction h with
  | refl => exact List.prefix_refl _
  | tail _ entry ih => exact ih.trans entry.registry_prefix

/-! ## The queue is in order -/

/-- Books are **orderly** when the queue holds registered bindings only, each with a body, and no
component twice. -/
structure Orderly (l : Books) : Prop where
  registered : ∀ b ∈ l.queue, l.registry.find? b.component = some b
  owed : ∀ b ∈ l.queue, b.target.isPrebuilt = false
  nodup : (l.queue.map Binding.component).Nodup

/-- A binding that was registered before is found as before. -/
private theorem find?_register {b d : Binding} (unbound : l.registry.find? b.component = none)
    (hd : l.registry.find? d.component = some d) :
    (l.register b).registry.find? d.component = some d := by
  show (l.registry.insert b).find? d.component = some d
  rw [Registry.find?_insert unbound, if_neg]
  · exact hd
  · intro h
    rw [h, unbound] at hd
    cases hd

/-- Registering a component that is not bound yet keeps the books orderly. -/
theorem Orderly.register {b : Binding} (h : l.Orderly)
    (unbound : l.registry.find? b.component = none) : (l.register b).Orderly := by
  by_cases hb : b.target.isPrebuilt
  · -- a leaf has no body, so the queue stays as it is
    have hqueue : (l.register b).queue = l.queue := by simp [Books.register, hb]
    refine ⟨fun d hd => ?_, fun d hd => ?_, ?_⟩
    · rw [hqueue] at hd
      exact find?_register unbound (h.registered d hd)
    · rw [hqueue] at hd
      exact h.owed d hd
    · rw [hqueue]
      exact h.nodup
  · have hqueue : (l.register b).queue = b :: l.queue := by simp [Books.register, hb]
    refine ⟨fun d hd => ?_, fun d hd => ?_, ?_⟩
    · rw [hqueue] at hd
      rcases List.mem_cons.1 hd with rfl | hd
      · show (l.registry.insert d).find? d.component = some d
        rw [Registry.find?_insert unbound, if_pos rfl]
      · exact find?_register unbound (h.registered d hd)
    · rw [hqueue] at hd
      rcases List.mem_cons.1 hd with rfl | hd
      · simpa using hb
      · exact h.owed d hd
    · -- a component in the queue is registered, and this one was not
      rw [hqueue, List.map_cons, List.nodup_cons]
      refine ⟨fun hmem => ?_, h.nodup⟩
      obtain ⟨d, hd, hcomponent⟩ := List.mem_map.1 hmem
      have hfound := h.registered d hd
      rw [hcomponent, unbound] at hfound
      cases hfound

/-- Every entry keeps the books orderly. -/
theorem Entry.orderly (h : Entry l m) (hl : l.Orderly) : m.Orderly := by
  cases h with
  | register unbound => exact hl.register unbound
  | claim => exact { hl with }

/-- Entries keep the books **orderly**. -/
theorem Entries.orderly (h : Entries l m) (hl : l.Orderly) : m.Orderly := by
  induction h with
  | refl => exact hl
  | tail _ entry ih => exact entry.orderly ih

/-- A binding that is taken off the queue leaves it in order. -/
theorem Orderly.take {b : Binding} {rest : List Binding} (h : l.Orderly)
    (hqueue : l.queue = b :: rest) : Orderly { l with queue := rest } where
  registered d hd := h.registered d (hqueue ▸ List.mem_cons_of_mem b hd)
  owed d hd := h.owed d (hqueue ▸ List.mem_cons_of_mem b hd)
  nodup := by
    have hnodup := h.nodup
    rw [hqueue, List.map_cons, List.nodup_cons] at hnodup
    exact hnodup.2

/-! ## Every class is attended to -/

/-- Books are **attended** to when every binding to a class waits in the queue, unless the body of
the class has been begun. -/
def Attended (l : Books) : Prop :=
  ∀ c k, l.registry.target? c = some (.classRef k) → ⟨c, .classRef k⟩ ∈ l.queue ∨ k ∈ l.built

/-- Every entry keeps the books attended to. -/
theorem Entry.attended (h : Entry l m) (hl : l.Attended) : m.Attended := by
  intro c k hc
  cases h with
  | @register b unbound =>
    by_cases hb : c = b.component
    · -- the new binding is queued, since its target is a class
      subst hb
      have htarget : b.target = .classRef k := by
        change ((l.registry.insert b).find? b.component).map Binding.target = _ at hc
        rw [Registry.find?_insert unbound, if_pos rfl] at hc
        exact Option.some.inj hc
      have hqueued : (l.register b).queue = b :: l.queue := by
        simp [Books.register, htarget, TypeRef.isPrebuilt]
      rw [hqueued, ← htarget]
      exact .inl List.mem_cons_self
    · have hold : l.registry.target? c = some (.classRef k) := by
        change ((l.registry.insert b).find? c).map Binding.target = _ at hc
        rwa [Registry.find?_insert unbound, if_neg hb] at hc
      refine (hl c k hold).imp (fun hqueue => ?_) id
      show _ ∈ if b.target.isPrebuilt then l.queue else b :: l.queue
      split
      · exact hqueue
      · exact List.mem_cons_of_mem _ hqueue
  | claim => exact (hl c k hc).imp id (List.mem_cons_of_mem _)

/-- Entries **attend** to every class that they bring. -/
theorem Entries.attended (h : Entries l m) (hl : l.Attended) : m.Attended := by
  induction h with
  | refl => exact hl
  | tail _ entry ih => exact entry.attended ih

/-- A binding may leave the queue when the class behind it is claimed. -/
theorem Attended.take {b : Binding} {rest : List Binding} (h : l.Attended)
    (hqueue : l.queue = b :: rest) {k : ClassId} (hclass : b.classId? = some k) :
    Attended ({ l with queue := rest }.claim k) := by
  intro c j hc
  rcases h c j hc with hqueued | hbuilt
  · rw [hqueue] at hqueued
    rcases List.mem_cons.1 hqueued with rfl | hqueued
    · exact .inr (Option.some.inj hclass ▸ List.mem_cons_self)
    · exact .inl hqueued
  · exact .inr (List.mem_cons_of_mem _ hbuilt)

/-- A binding may leave the queue when the class behind it, if there is one, has been begun. -/
theorem Attended.drop {b : Binding} {rest : List Binding} (h : l.Attended)
    (hqueue : l.queue = b :: rest) (hclass : ∀ k, b.classId? = some k → k ∈ l.built) :
    Attended { l with queue := rest } := by
  intro c j hc
  rcases h c j hc with hqueued | hbuilt
  · rw [hqueue] at hqueued
    rcases List.mem_cons.1 hqueued with rfl | hqueued
    · exact .inr (hclass j rfl)
    · exact .inl hqueued
  · exact .inr hbuilt

end Books

end SchemaBinding.Resolver
