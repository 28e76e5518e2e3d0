import Mathlib.Data.List.Chain
import Mathlib.Data.List.Nodup
import SchemaBinding.Proofs.Moves.Basic

/-! # Bindings along moves
The components being proposed are distinct and unbound, each of them asked for by the one before,
and the registry binds a component at most once. Nothing that is bound is bound anew. -/

namespace SchemaBinding

/-- Only a reference to a class is one to a class. -/
theorem TypeRef.eq_classRef {target : TypeRef} {k : ClassId} (h : target.asClass = some k) :
    target = .classRef k := by
  cases target with
  | classRef d =>
    obtain rfl : d = k := by simpa [asClass] using h
    rfl
  | leaf | wrapper => simp [asClass] at h

/-! ## Lookups in a registry -/

namespace Registry

variable {r : Registry} {c d : ComponentId} {target : TypeRef}

/-- A component without a binding is one without a target. -/
theorem find?_eq_none_iff : r.find? c = none ↔ r.target? c = none := by
  simp [target?]

/-- A target is that of the binding that is found. -/
theorem find?_of_target? (h : r.target? c = some target) : r.find? c = some ⟨c, target⟩ := by
  obtain ⟨b, hb, rfl⟩ := Option.map_eq_some_iff.1 h
  rw [hb, ← component_of_find? hb]

/-- A target belongs to a binding of the registry. -/
theorem mem_of_target? (h : r.target? c = some target) : ⟨c, target⟩ ∈ r.bindings :=
  List.mem_of_find?_eq_some (find?_of_target? h)

/-- A new binding is the target of its component, and all others stay. -/
theorem target?_insert {b : Binding} (fresh : r.find? b.component = none) (d : ComponentId) :
    (r.insert b).target? d = if d = b.component then some b.target else r.target? d := by
  unfold target?
  rw [find?_insert fresh]
  split <;> rfl

/-- Without a second binding for a component, the bindings are what the lookups find. -/
theorem target?_of_mem (hnodup : (r.bindings.map Binding.component).Nodup) {b : Binding}
    (hb : b ∈ r.bindings) : r.target? b.component = some b.target := by
  cases htarget : r.target? b.component with
  | none =>
    have hnone : r.find? b.component = none := find?_eq_none_iff.2 htarget
    have := List.find?_eq_none.1 hnone b hb
    simp at this
  | some target =>
    have hmem := mem_of_target? htarget
    have heq := List.inj_on_of_nodup_map hnodup hmem hb rfl
    rw [← heq]

/-- A registry that binds a component **at most once** does so after another one is bound. -/
theorem nodup_insert (hnodup : (r.bindings.map Binding.component).Nodup) {b : Binding}
    (fresh : r.target? b.component = none) :
    ((r.insert b).bindings.map Binding.component).Nodup := by
  show ((r.bindings ++ [b]).map Binding.component).Nodup
  rw [List.map_append, List.nodup_append]
  refine ⟨hnodup, List.nodup_singleton _, ?_⟩
  rintro a ha d hd rfl
  obtain ⟨binding, hbinding, rfl⟩ := List.mem_map.1 ha
  have hfound := target?_of_mem hnodup hbinding
  rw [List.mem_singleton.1 hd, fresh] at hfound
  cases hfound

end Registry

/-! ## What a conclusion leaves alone -/

namespace Conclusion

variable {x : Context} {c : ComponentId} {l l' : Ledger} {outcome : Option TypeRef}

@[simp] theorem registry (h : Conclusion x c l outcome l') : l'.registry = l.registry := by
  cases h <;> rfl

@[simp] theorem queue (h : Conclusion x c l outcome l') : l'.queue = l.queue := by
  cases h <;> rfl

@[simp] theorem built (h : Conclusion x c l outcome l') : l'.built = l.built := by
  cases h <;> rfl

@[simp] theorem proposing (h : Conclusion x c l outcome l') : l'.proposing = l.proposing := by
  cases h <;> rfl

@[simp] theorem building (h : Conclusion x c l outcome l') : l'.building = l.building := by
  cases h <;> rfl

@[simp] theorem reserved (h : Conclusion x c l outcome l') : l'.reserved = l.reserved := by
  cases h <;> rfl

@[simp] theorem log (h : Conclusion x c l outcome l') : l'.log = l.log := by
  cases h <;> rfl

/-- Only what is not bindable is **declined**. -/
theorem unbindable (h : Conclusion x c l none l') : x.schema.isBindable c = false := by
  cases h with
  | declined unbindable | unbound unbindable => exact unbindable

/-- Only what is **bindable** is given a type. -/
theorem bindable {target : TypeRef} (h : Conclusion x c l (some target) l') :
    x.schema.isBindable c = true := by
  cases h with
  | fresh bindable => exact bindable
  | shared anonymous => exact SchemaSet.isBindable_of_isComplexType anonymous
  | wrapped wrapped => exact SchemaSet.isBindable_of_isWrapped wrapped

end Conclusion

namespace Ledger

variable {x : Context} {l l' : Ledger} {c d : ComponentId}

/-- What is **registered** once a proposal is concluded. -/
theorem target?_concluded (unbound : l.registry.find? c = none) (rest : List ComponentId)
    (outcome : Option TypeRef) (d : ComponentId) :
    (l.concluded c rest outcome).target? d = if d = c then outcome else l.target? d := by
  cases outcome with
  | none =>
    show l.target? d = _
    split
    · rename_i h
      rw [h]
      exact Registry.find?_eq_none_iff.1 unbound
    · rfl
  | some target => exact Registry.target?_insert (b := ⟨c, target⟩) unbound d

@[simp] theorem depth_proposal (l : Ledger) (c : ComponentId) :
    (l.proposal c).depth = l.depth + 1 := by
  unfold depth proposal
  rw [List.length_cons, Nat.add_right_comm]

@[simp] theorem proposing_concluded (l : Ledger) (c : ComponentId) (rest : List ComponentId)
    (outcome : Option TypeRef) : (l.concluded c rest outcome).proposing = rest := by
  cases outcome <;> rfl

@[simp] theorem model_concluded (l : Ledger) (c : ComponentId) (rest : List ComponentId)
    (outcome : Option TypeRef) : (l.concluded c rest outcome).model = l.model := by
  cases outcome <;> rfl

@[simp] theorem built_concluded (l : Ledger) (c : ComponentId) (rest : List ComponentId)
    (outcome : Option TypeRef) : (l.concluded c rest outcome).built = l.built := by
  cases outcome <;> rfl

@[simp] theorem notes_concluded (l : Ledger) (c : ComponentId) (rest : List ComponentId)
    (outcome : Option TypeRef) : (l.concluded c rest outcome).notes = l.notes := by
  cases outcome <;> rfl

@[simp] theorem building_concluded (l : Ledger) (c : ComponentId) (rest : List ComponentId)
    (outcome : Option TypeRef) : (l.concluded c rest outcome).building = l.building := by
  cases outcome <;> rfl

@[simp] theorem reserved_concluded (l : Ledger) (c : ComponentId) (rest : List ComponentId)
    (outcome : Option TypeRef) : (l.concluded c rest outcome).reserved = l.reserved := by
  cases outcome <;> rfl

@[simp] theorem log_concluded (l : Ledger) (c : ComponentId) (rest : List ComponentId)
    (outcome : Option TypeRef) : (l.concluded c rest outcome).log = l.log := by
  cases outcome <;> rfl

/-! ## Proposals under way -/

/-- The bindings of a ledger are **in order**: what is being proposed is unbound, and what is bound
is bound once. -/
structure Bound (x : Context) (l : Ledger) : Prop where
  nodup : l.proposing.Nodup
  unbound : ∀ c ∈ l.proposing, l.registry.find? c = none
  /-- Each proposal is asked for by the one before it. -/
  chain : l.proposing.IsChain fun later earlier => x.schema.asked? earlier = some later
  /-- Only what is bindable is bound, apart from the universal type. -/
  bindable : ∀ c target, l.target? c = some target →
    c = SchemaSet.anyType ∨ x.schema.isBindable c = true
  anyType : l.target? SchemaSet.anyType = some (.leaf .anyType)
  once : (l.registry.bindings.map Binding.component).Nodup

/-- The bindings at the start are in order. -/
theorem bound_start (x : Context) : Bound x .start where
  nodup := List.nodup_nil
  unbound _ h := by cases h
  chain := .nil
  bindable c target h := by
    left
    have hmem := Registry.mem_of_target? h
    simp only [start, List.mem_singleton, Binding.mk.injEq] at hmem
    exact hmem.1
  anyType := by simp [start, target?, Registry.target?, Registry.find?]
  once := by simp [start]

/-- What is being proposed is unbound until its proposal is **concluded**, and nothing else is
registered then. -/
theorem Bound.target?_conclusion (h : Bound x l) {rest : List ComponentId}
    {outcome : Option TypeRef} (top : l.proposing = c :: rest)
    (conclusion : Conclusion x c l outcome l') (d : ComponentId) :
    (l'.concluded c rest outcome).target? d = if d = c then outcome else l.target? d := by
  have hunbound : l'.registry.find? c = none := by
    rw [conclusion.registry]
    exact h.unbound c (by rw [top]; exact List.mem_cons_self)
  rw [target?_concluded hunbound]
  unfold target?
  rw [conclusion.registry]

/-- The component of a conclusion was unbound. -/
theorem Bound.target?_top (h : Bound x l) {rest : List ComponentId}
    (top : l.proposing = c :: rest) : l.target? c = none :=
  Registry.find?_eq_none_iff.1 (h.unbound c (by rw [top]; exact List.mem_cons_self))

/-- Entering a proposal keeps bindings in order. -/
theorem Bound.proposal (h : Bound x l) (asked : ∀ p ∈ l.proposing.head?, x.schema.asked? p = some c)
    (unbound : l.registry.find? c = none) (idle : c ∉ l.proposing) : Bound x (l.proposal c) where
  nodup := List.nodup_cons.2 ⟨idle, h.nodup⟩
  unbound d hd := by
    rcases List.mem_cons.1 hd with rfl | hd
    · exact unbound
    · exact h.unbound d hd
  chain := List.isChain_cons.2 ⟨asked, h.chain⟩
  bindable := h.bindable
  anyType := h.anyType
  once := h.once

/-- Concluding a proposal keeps bindings in order. -/
theorem Bound.concluded (h : Bound x l) {rest : List ComponentId} {outcome : Option TypeRef}
    (top : l.proposing = c :: rest) (conclusion : Conclusion x c l outcome l') :
    Bound x (l'.concluded c rest outcome) := by
  have hnodup := h.nodup
  have hchain := h.chain
  rw [top] at hnodup hchain
  obtain ⟨hfresh, hnodup⟩ := List.nodup_cons.1 hnodup
  have htarget := h.target?_conclusion top conclusion
  refine ⟨?nodup, ?unbound, ?chain, ?bindable, ?anyType, ?once⟩
  case nodup =>
    rw [proposing_concluded]
    exact hnodup
  case unbound =>
    intro d hd
    rw [proposing_concluded] at hd
    refine Registry.find?_eq_none_iff.2 ?_
    show (l'.concluded c rest outcome).target? d = none
    -- the component of the conclusion is no longer among those being proposed
    rw [htarget, if_neg]
    · exact Registry.find?_eq_none_iff.1 (h.unbound d (by rw [top]; exact .tail _ hd))
    · rintro rfl
      exact hfresh hd
  case chain =>
    rw [proposing_concluded]
    exact (List.isChain_cons.1 hchain).2
  case bindable =>
    intro d target hd
    rw [htarget] at hd
    split at hd
    · rename_i hdc
      subst hd hdc
      -- what is bound now is bindable, and what was bound before is still
      exact .inr conclusion.bindable
    · exact h.bindable d target hd
  case anyType =>
    rw [htarget, if_neg]
    · exact h.anyType
    · rintro rfl
      have hnone := h.target?_top top
      rw [h.anyType] at hnone
      cases hnone
  case once =>
    cases outcome with
    | none =>
      show (l'.registry.bindings.map Binding.component).Nodup
      rw [conclusion.registry]
      exact h.once
    | some target =>
      show ((l'.registry.insert ⟨c, target⟩).bindings.map Binding.component).Nodup
      rw [conclusion.registry]
      -- the registry has no binding yet for the component that is added
      exact Registry.nodup_insert h.once (h.target?_top top)

/-- Moves keep bindings in order. -/
theorem Bound.move (h : Bound x l) (hmove : Move x l l') : Bound x l' := by
  cases hmove with
  | propose asked unbound idle => exact h.proposal asked unbound idle
  | wrap asked unbound idle =>
    have hp := h.proposal asked unbound idle
    exact ⟨hp.nodup, hp.unbound, hp.chain, hp.bindable, hp.anyType, hp.once⟩
  | conclude top conclusion => exact h.concluded top conclusion
  | claim | write | finish | skip =>
    exact ⟨h.nodup, h.unbound, h.chain, h.bindable, h.anyType, h.once⟩

/-- What is bound **stays bound** to the same type. -/
theorem Bound.target?_move (h : Bound x l) (hmove : Move x l l') {target : TypeRef}
    (hc : l.target? c = some target) : l'.target? c = some target := by
  cases hmove with
  | @conclude l' d rest outcome top conclusion =>
    -- only the component of the conclusion changes, which was unbound
    rw [h.target?_conclusion top conclusion, if_neg]
    · exact hc
    · rintro rfl
      rw [h.target?_top top] at hc
      cases hc
  | propose | wrap | claim | write | finish | skip => exact hc

/-- What is answered for stays so. -/
theorem Bound.answered_move (h : Bound x l) (hmove : Move x l l') (hc : x.Answered l c) :
    x.Answered l' c := by
  intro hnone
  refine hc ?_
  cases htarget : l.target? c with
  | none => rfl
  | some target =>
    rw [h.target?_move hmove htarget] at hnone
    cases hnone

/-- What is **answered** for is not bound to anything else any more. -/
theorem Bound.target?_answered (h : Bound x l) (hmove : Move x l l') (hc : x.Answered l c) :
    l'.target? c = l.target? c := by
  cases htarget : l.target? c with
  | some target => exact h.target?_move hmove htarget
  | none =>
    cases hlater : l'.target? c with
    | none => rfl
    | some target =>
      -- what is bound later is bindable, and what is answered for and unbound is not
      rcases (h.move hmove).bindable c target hlater with rfl | hbindable
      · rw [h.anyType] at htarget
        cases htarget
      · rw [hc htarget] at hbindable
        cases hbindable

/-- With every binding that is queued, one is registered. -/
theorem waiting_move (hmove : Move x l l') :
    l'.queue.length + l.registry.size ≤ l.queue.length + l'.registry.size := by
  cases hmove with
  | @conclude l' c rest outcome top conclusion =>
    cases outcome with
    | none =>
      show l'.queue.length + _ ≤ _ + l'.registry.size
      rw [conclusion.queue, conclusion.registry]
    | some target =>
      show (if target.isPrebuilt then l'.queue else ⟨c, target⟩ :: l'.queue).length + _ ≤
        _ + (l'.registry.insert ⟨c, target⟩).size
      -- at most one binding is queued, and it is registered as well
      rw [Registry.size_insert, conclusion.queue, conclusion.registry]
      split
      · omega
      · rw [List.length_cons]
        omega
  | @skip b rest queued =>
    show rest.length + l.registry.size ≤ l.queue.length + l.registry.size
    rw [queued, List.length_cons]
    omega
  | propose | wrap | claim | write | finish => exact le_rfl

/-- No more bindings come to wait over moves than are registered. -/
theorem waiting_moves (hmoves : Moves x l l') :
    l'.queue.length + l.registry.size ≤ l.queue.length + l'.registry.size := by
  induction hmoves with
  | refl => exact le_rfl
  | tail _ hmove ih =>
    have hstep := waiting_move hmove
    omega

end Ledger

namespace Reachable

variable {x : Context} {l l' : Ledger} {c : ComponentId}

/-- Bindings are **in order** in every reachable ledger. -/
theorem inOrder (h : Reachable x l) : l.Bound x :=
  h.induct (Ledger.bound_start x) fun _ hmove ih => ih.move hmove

/-- A binding **survives** all moves. -/
theorem target?_moves (h : Reachable x l) (hmoves : Moves x l l') {target : TypeRef}
    (hc : l.target? c = some target) : l'.target? c = some target := by
  induction hmoves with
  | refl => exact hc
  | tail hmoves hmove ih => exact (h.moves hmoves).inOrder.target?_move hmove ih

/-- What is answered stays answered. -/
theorem answered_moves (h : Reachable x l) (hmoves : Moves x l l') (hc : x.Answered l c) :
    x.Answered l' c := by
  induction hmoves with
  | refl => exact hc
  | tail hmoves hmove ih => exact (h.moves hmoves).inOrder.answered_move hmove ih

/-- An answer is final: moves do not change the target any more. -/
theorem target?_answered (h : Reachable x l) (hmoves : Moves x l l') (hc : x.Answered l c) :
    l'.target? c = l.target? c := by
  induction hmoves with
  | refl => rfl
  | tail hmoves hmove ih =>
    exact ((h.moves hmoves).inOrder.target?_answered hmove (h.answered_moves hmoves hc)).trans ih

/-- The type that a source gives **settles** once what it asks for is answered. -/
theorem type_moves (h : Reachable x l) (hmoves : Moves x l l') {source : TypeSource}
    (hsource : ∀ d ∈ source.component?, x.Answered l d) :
    source.type l'.registry = source.type l.registry := by
  cases source with
  | known type => rfl
  | complexType c | element c => exact h.target?_answered hmoves (hsource c rfl)

end Reachable

end SchemaBinding
