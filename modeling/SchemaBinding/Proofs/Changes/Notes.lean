import SchemaBinding.Proofs.Changes.Answers
import SchemaBinding.Proofs.Placement.Proposal

/-! # Notes about elements
What is noted about an element runs ahead of the registry: a wrapper is noted before its content is
asked for, and registered after it. In between the element is on the path of the proposals. So as
long as nothing has failed, the notes outside of all proposals **agree** with the registry
(`Resolver.agreed_after`), and asking whether an element is bound tells what binding it would. -/

namespace SchemaBinding

open Resolver (State Change)

/-- Wrapped elements are destined for wrappers. -/
theorem SchemaSet.Destined.exists_wrapper {set : SchemaSet} {c : ComponentId}
    {outcome : Option TypeRef} (h : set.Destined c outcome) (hwrapped : set.isWrapped c = true) :
    ∃ w, outcome = some (.wrapper w) := by
  cases outcome with
  | none =>
    have hbindable := isBindable_of_isWrapped hwrapped
    rw [show set.isBindable c = false from h] at hbindable
    cases hbindable
  | some target =>
    cases target with
    | classRef k =>
      rw [show set.isWrapped c = false from h.2] at hwrapped
      cases hwrapped
    | wrapper w => exact ⟨w, rfl⟩
    | leaf l => exact h.2.elim

/-- Local elements are destined for nothing. -/
theorem SchemaSet.Destined.eq_none {set : SchemaSet} {c : ComponentId} {outcome : Option TypeRef}
    (h : set.Destined c outcome) (helement : (set.component c).isElement = true)
    (hlocal : (set.component c).isGlobal = false) : outcome = none := by
  cases outcome with
  | none => rfl
  | some target =>
    have hbindable := h.1
    rw [isBindable_of_local helement hlocal] at hbindable
    cases hbindable

namespace Resolver.State

variable {set : SchemaSet} {s t : State}

/-- The notes of a state **agree** with its registry, but for the elements that are being
proposed. -/
structure Agreed (set : SchemaSet) (s : State) : Prop where
  idle : ∀ c ∈ s.proposing.active, s.registry.target? c = none
  nodup : s.proposing.active.Nodup
  /-- A type is noted for wrapped elements, which are being proposed or bound to it. -/
  noted : ∀ e target, s.elements.lookup e = some (some target) →
    set.isWrapped e = true ∧ (∃ w, target = .wrapper w) ∧
      (e ∈ s.proposing.active ∨ s.registry.target? e = some target)
  /-- A wrapper that an element is bound to is noted. -/
  wrapped : ∀ e w, s.registry.target? e = some (.wrapper w) →
    s.elements.lookup e = some (some (.wrapper w))
  /-- Only local elements are noted to have no type, and they are not bound. -/
  unbound : ∀ e, s.elements.lookup e = some none → (set.component e).isElement = true ∧
    (set.component e).isGlobal = false ∧ s.registry.target? e = none

namespace Agreed

/-- Notes and registry go on agreeing while neither of them changes, nor the path of proposals. -/
theorem congr (h : s.Agreed set) (hregistry : t.registry = s.registry)
    (helements : t.elements = s.elements) (hproposing : t.proposing = s.proposing) :
    t.Agreed set := by
  obtain ⟨hidle, hnodup, hnoted, hwrapped, hunbound⟩ := h
  rw [← hproposing] at hidle hnodup hnoted
  rw [← hregistry] at hidle hnoted hwrapped hunbound
  rw [← helements] at hnoted hwrapped hunbound
  exact ⟨hidle, hnodup, hnoted, hwrapped, hunbound⟩

/-- A component that is neither bound nor being proposed may be proposed for. -/
theorem proposed {c : ComponentId} (h : s.Agreed set) (hvacant : s.registry.find? c = none)
    (hidle : c ∉ s.proposing.active) :
    ({ s with proposing := ⟨c :: s.proposing.active⟩ } : State).Agreed set where
  idle d hd := by
    rcases List.mem_cons.1 hd with rfl | hd
    · exact Registry.find?_eq_none_iff.1 hvacant
    · exact h.idle d hd
  nodup := List.nodup_cons.2 ⟨hidle, h.nodup⟩
  noted e target he := by
    obtain ⟨hwrapped, hwrapper, hplace⟩ := h.noted e target he
    exact ⟨hwrapped, hwrapper, hplace.imp_left (List.mem_cons_of_mem c)⟩
  wrapped := h.wrapped
  unbound := h.unbound

/-- Something may be noted about a component that is being proposed, as long as it is right. -/
theorem noting {c : ComponentId} {note : Option TypeRef} (h : s.Agreed set)
    (hc : c ∈ s.proposing.active)
    (hsome : ∀ target, note = some target → set.isWrapped c = true ∧ ∃ w, target = .wrapper w)
    (hnone : note = none → (set.component c).isElement = true ∧
      (set.component c).isGlobal = false) : (s.noting c note).Agreed set := by
  have hlookup (d : ComponentId) : (s.noting c note).elements.lookup d =
      if d = c then some note else s.elements.lookup d := Ledger.lookup_noted _ c d note
  refine ⟨h.idle, h.nodup, fun e target he => ?_, fun e w he => ?_, fun e he => ?_⟩
  · rw [hlookup] at he
    split at he
    · rename_i hec
      obtain ⟨hwrapped, hwrapper⟩ := hsome target (Option.some.inj he)
      exact ⟨hec ▸ hwrapped, hwrapper, .inl (hec ▸ hc)⟩
    · exact h.noted e target he
  · rw [hlookup, if_neg]
    · exact h.wrapped e w he
    · -- what is being proposed is not bound
      rintro rfl
      rw [show (s.noting e note).registry = s.registry from rfl, h.idle e hc] at he
      cases he
  · rw [hlookup] at he
    split at he
    · rename_i hec
      subst hec
      obtain ⟨helement, hlocal⟩ := hnone (Option.some.inj he)
      exact ⟨helement, hlocal, h.idle e hc⟩
    · exact h.unbound e he

/-- A proposal may be concluded with the outcome that the component is destined for. -/
theorem concluded {c : ComponentId} {rest : List ComponentId} {outcome : Option TypeRef}
    (h : s.Agreed set) (htop : s.proposing.active = c :: rest)
    (hvacant : s.registry.find? c = none) (hdestined : set.Destined c outcome)
    (hnoted : ∀ w, outcome = some (.wrapper w) →
      s.elements.lookup c = some (some (.wrapper w))) :
    (({ s with proposing := ⟨rest⟩ } : State).registering c outcome).Agreed set := by
  have hnodup := h.nodup
  rw [htop] at hnodup
  have hc : c ∉ rest := (List.nodup_cons.1 hnodup).1
  -- only what is looked up for the component is different afterwards
  have htarget (d : ComponentId) :
      (({ s with proposing := ⟨rest⟩ } : State).registering c outcome).registry.target? d =
        if d = c then outcome else s.registry.target? d :=
    target?_registering (s := { s with proposing := ⟨rest⟩ }) _ hvacant d
  constructor
  case idle =>
    intro d hd
    rw [proposing_registering] at hd
    rw [htarget, if_neg fun hdc : d = c => hc (hdc ▸ hd)]
    exact h.idle d (htop ▸ List.mem_cons_of_mem c hd)
  case nodup =>
    rw [proposing_registering]
    exact (List.nodup_cons.1 hnodup).2
  case noted =>
    intro e target he
    rw [elements_registering] at he
    rw [proposing_registering, htarget]
    obtain ⟨hwrapped, hwrapper, hplace⟩ := h.noted e target he
    refine ⟨hwrapped, hwrapper, ?_⟩
    by_cases hec : e = c
    · -- the wrapper that was noted is the outcome
      subst hec
      obtain ⟨w, rfl⟩ := hdestined.exists_wrapper hwrapped
      rw [hnoted w rfl] at he
      rw [if_pos rfl]
      exact .inr (Option.some.inj he)
    · rw [if_neg hec]
      refine hplace.imp_left fun hmem => ?_
      rw [htop] at hmem
      exact (List.mem_cons.1 hmem).resolve_left hec
  case wrapped =>
    intro e w he
    rw [htarget] at he
    rw [elements_registering]
    split at he
    · rename_i hec
      exact hec ▸ hnoted w he
    · exact h.wrapped e w he
  case unbound =>
    intro e he
    rw [elements_registering] at he
    obtain ⟨helement, hlocal, hfree⟩ := h.unbound e he
    refine ⟨helement, hlocal, ?_⟩
    rw [htarget]
    split
    · rename_i hec
      subst hec
      exact hdestined.eq_none helement hlocal
    · exact hfree

/-- Every **change** of a run that has not failed leaves agreement. -/
theorem change (hchange : Change set False s t) (h : s.Agreed set) : t.Agreed set := by
  cases hchange with
  | aside aside => exact h.congr aside.registry aside.elements aside.proposing
  | opened | closed | recorded => exact h.congr rfl rfl rfl
  | proposed unbound idle => exact h.proposed unbound idle
  | noted wrapped top =>
    refine h.noting (List.mem_of_head? top) ?_ (by simp)
    rintro _ ⟨⟩
    exact ⟨wrapped, _, rfl⟩
  | unbound element inner top =>
    exact h.noting (List.mem_of_head? top) (by simp) fun _ => ⟨element, inner⟩
  | concluded top unbound destined noted => exact h.concluded top unbound destined noted
  | abandoned given => exact given.elim

/-- Outside of all proposals a type is **noted** for an element exactly if it is the wrapper that
the element is bound to. -/
theorem lookup_eq_some_iff (h : s.Agreed set) (houtside : s.proposing.active = [])
    {e : ComponentId} {target : TypeRef} : s.elements.lookup e = some (some target) ↔
      s.registry.target? e = some target ∧ ∃ w, target = .wrapper w := by
  constructor
  · intro he
    obtain ⟨-, hwrapper, hplace⟩ := h.noted e target he
    refine ⟨hplace.resolve_left ?_, hwrapper⟩
    simp [houtside]
  · rintro ⟨he, w, rfl⟩
    exact h.wrapped e w he

end Agreed

end Resolver.State

/-! ## From the start of a run -/

namespace Resolver

variable {x : Context} {e : ComponentId} {s t : State}

/-- An element that can be bound is **known** to be bound to the same type. -/
theorem isBound_of_bindToType (h : s.Agreed x.schema) (houtside : s.proposing.active = [])
    {a : Option TypeRef} (hrun : ((of x .standard).bindToType e).runFrom s = (.ok a, t)) :
    ∃ u, ((of x .standard).isBound e).runFrom s = (.ok a, u) := by
  have hanswer := destined_of_resolveWith (leads_within x (2 * x.schema.size + 1)) hrun
  unfold isBound
  rw [Resolving.runFrom_get_bind]
  cases hnote : s.elements.lookup e with
  | none => exact ⟨t, hrun⟩
  | some note =>
    refine ⟨s, congrArg (fun a => (Except.ok a, s)) ?_⟩
    cases note with
    | none =>
      -- nothing was noted to be generated, and nothing is
      obtain ⟨helement, hlocal, hfree⟩ := h.unbound e hnote
      rcases hanswer with ⟨target, htarget, -⟩ | ⟨-, hdestined⟩
      · rw [hfree] at htarget
        cases htarget
      · exact (hdestined.eq_none helement hlocal).symm
    | some target =>
      -- the wrapper that was noted is registered
      obtain ⟨htarget, -⟩ := (h.lookup_eq_some_iff houtside).1 hnote
      rw [htarget] at hanswer
      rcases hanswer with ⟨target', heq, rfl⟩ | ⟨hnone, -⟩
      · exact heq
      · cases hnone

/-- **The notes agree with the registry** after any calls that register nothing from outside, as
long as none of them has failed. -/
theorem agreed_after (x : Context) (reports : Reports) {calls : List Call}
    (hcalls : ∀ call ∈ calls, call.registers = false)
    (hsucceeds : Succeeds (.of x .standard) calls (.initial reports SchemaSet.anyType)) :
    let s := after (.of x .standard) calls (.initial reports SchemaSet.anyType)
    (∀ e target, s.elements.lookup e = some (some target) ↔
      s.registry.target? e = some target ∧ ∃ w, target = .wrapper w) ∧
    (∀ e, s.elements.lookup e = some none → (x.schema.component e).isElement = true ∧
      (x.schema.component e).isGlobal = false ∧ s.registry.target? e = none) ∧
    ∀ e a t, ((of x .standard).bindToType e).runFrom s = (.ok a, t) →
      ∃ u, ((of x .standard).isBound e).runFrom s = (.ok a, u) := by
  intro s
  have hinitial : (State.initial reports SchemaSet.anyType).Agreed x.schema := by
    refine ⟨by simp [State.initial], List.nodup_nil, ?_, fun e w he => ?_, ?_⟩
    · simp [State.initial]
    · cases target?_initial he
    · simp [State.initial]
  have hleads := (leads_after x hcalls _).imp fun hfailed => hfailed hsucceeds
  have hagreed : s.Agreed x.schema := hleads.changes.induct State.Agreed.change hinitial
  have houtside : s.proposing.active = [] := congrArg CycleDetector.active hleads.proposing
  exact ⟨fun e target => hagreed.lookup_eq_some_iff houtside, hagreed.unbound,
    fun e a t hrun => isBound_of_bindToType hagreed houtside hrun⟩

/-- The title on the shelf is a wrapped element, which is noted once it has been asked for. -/
theorem agreed_after_shelf :
    let r := Resolver.of Compilation.shelf.context .standard
    let calls := [Call.bindToType ⟨23⟩, Call.drain]
    let s := r.after calls (.initial {} SchemaSet.anyType)
    r.Succeeds calls (.initial {} SchemaSet.anyType) ∧
      s.elements.lookup ⟨22⟩ = some (some (.wrapper ⟨0⟩)) ∧
      s.registry.target? ⟨22⟩ = some (.wrapper ⟨0⟩) := by
  intro r calls s
  have hcalls : ∀ call ∈ calls, call.registers = false := by decide
  have hsucceeds : r.Succeeds calls (.initial {} SchemaSet.anyType) :=
    ⟨by decide +kernel, by decide +kernel, trivial⟩
  have hnoted : s.elements.lookup ⟨22⟩ = some (some (.wrapper ⟨0⟩)) := by decide +kernel
  have hagreed := agreed_after Compilation.shelf.context {} hcalls hsucceeds
  exact ⟨hsucceeds, hnoted, ((hagreed.1 ⟨22⟩ _).1 hnoted).1⟩

end Resolver

end SchemaBinding
