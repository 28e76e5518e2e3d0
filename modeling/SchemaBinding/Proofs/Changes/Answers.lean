import SchemaBinding.Proofs.Changes.Run
import SchemaBinding.Proofs.Schema.Built
import SchemaBinding.Proofs.Schema.Depth

/-! # What components are bound to
Which kind of type a component is bound to depends on the schema set alone. The registry holds for
each component what it is destined for, and a component that is not registered is proposed for
without regard to what other components are bound to. So no history of calls, with failures among
them or not, makes a difference (`Resolver.determines_after`). -/

namespace SchemaBinding

open Resolver (State Change)

/-! ## Kinds of answers -/

namespace SchemaSet

variable {set : SchemaSet} {c : ComponentId}

/-- A **concrete** element is global and not abstract. -/
def IsConcreteElement (set : SchemaSet) (c : ComponentId) : Prop :=
  ∃ decl, (set.component c).kind = .element decl ∧ (set.component c).isGlobal = true ∧
    decl.isAbstract = false

/-- An element **calls for a class** when a class name is customized for it, or when its type is a
complex type that it declares itself. -/
def CallsForClass (set : SchemaSet) (e : ComponentId) : Prop :=
  (set.component e).custom.className.isSome = true ∨
    ∃ type decl, set.elementType? e = some type ∧
      (set.component type).kind = .complexType decl ∧ decl.declaringElement = some e

/-- A schema set **determines** the kind of type that a component is bound to. -/
structure Determines (set : SchemaSet) (c : ComponentId) (answer : Option TypeRef) : Prop where
  /-- Local elements, abstract elements and what is neither an element nor a complex type are bound
  to nothing. -/
  unbound : answer = none ↔
    ((set.component c).isElement = true ∧ (set.component c).isGlobal = false) ∨
    (∃ decl, (set.component c).kind = .element decl ∧ decl.isAbstract = true) ∨
    (set.component c).isSimpleType = true ∨ (set.component c).asAttribute.isSome = true ∨
    (set.component c).isGroup = true
  /-- The universal type alone is bound to its leaf. -/
  universal : answer = some (.leaf .anyType) ↔ c = anyType
  classed : (∃ k, answer = some (.classRef k)) ↔
    ((set.component c).isComplexType = true ∧ c ≠ anyType) ∨
    (set.IsConcreteElement c ∧ set.CallsForClass c)
  wrapped : (∃ w, answer = some (.wrapper w)) ↔
    set.IsConcreteElement c ∧ ¬ set.CallsForClass c

/-- What the standard proposals look at is whether an element calls for a class. -/
theorem callsForClass_iff : set.CallsForClass c ↔
    (Resolver.declaresComplexType set c || (set.component c).custom.className.isSome) = true := by
  unfold CallsForClass Resolver.declaresComplexType
  rw [Bool.or_eq_true, or_comm]
  refine or_congr ?_ Iff.rfl
  cases set.elementType? c with
  | none => simp
  | some type =>
    simp only [Option.some.injEq, Bool.and_eq_true]
    constructor
    · rintro ⟨_, decl, rfl, hkind, hdeclaring⟩
      have hcomplex := Component.isComplexType_iff.2 ⟨decl, hkind⟩
      refine ⟨(isAnonymousTypeOf_iff hcomplex).2 ?_, hcomplex⟩
      rw [Component.declaringElement?, Component.asComplexType_eq_some.2 hkind]
      exact hdeclaring
    · rintro ⟨hanonymous, hcomplex⟩
      obtain ⟨decl, hkind⟩ := Component.isComplexType_iff.1 hcomplex
      have hdeclaring := (isAnonymousTypeOf_iff hcomplex).1 hanonymous
      rw [Component.declaringElement?, Component.asComplexType_eq_some.2 hkind] at hdeclaring
      exact ⟨type, decl, rfl, hkind, hdeclaring⟩

/-- What nothing is generated for. -/
theorem isBindable_eq_false_iff : set.isBindable c = false ↔
    ((set.component c).isElement = true ∧ (set.component c).isGlobal = false) ∨
    (∃ decl, (set.component c).kind = .element decl ∧ decl.isAbstract = true) ∨
    (set.component c).isSimpleType = true ∨ (set.component c).asAttribute.isSome = true ∨
    (set.component c).isGroup = true := by
  unfold isBindable Component.isElement Component.asElement Component.isSimpleType
    Component.asSimpleType Component.asAttribute Component.isGroup Component.asGroup
  cases (set.component c).kind with
  | element decl =>
    cases (set.component c).isGlobal <;> cases hdecl : decl.isAbstract <;> simp [hdecl]
  | _ => simp

/-- What is wrapped. -/
theorem isWrapped_iff : set.isWrapped c = true ↔
    set.IsConcreteElement c ∧ ¬ set.CallsForClass c := by
  rw [callsForClass_iff]
  unfold isWrapped IsConcreteElement isBindable Component.isElement Component.asElement
  cases (set.component c).kind with
  | element decl =>
    cases (set.component c).isGlobal <;> cases hdecl : decl.isAbstract <;> simp [hdecl]
  | _ => simp

/-- What classes are generated for. -/
theorem isBindable_and_not_isWrapped_iff :
    (set.isBindable c = true ∧ set.isWrapped c = false) ↔
      (set.component c).isComplexType = true ∨ (set.IsConcreteElement c ∧ set.CallsForClass c) := by
  rw [callsForClass_iff]
  unfold isWrapped IsConcreteElement isBindable Component.isElement Component.asElement
    Component.isComplexType Component.asComplexType
  generalize (Resolver.declaresComplexType set c || _) = calls
  cases (set.component c).kind with
  | element decl =>
    cases (set.component c).isGlobal <;> cases hdecl : decl.isAbstract <;> simp [hdecl]
  | _ => simp

/-- A component that is destined for an answer is **determined** by its kind, if it is not the
universal type. -/
theorem Destined.determines {answer : Option TypeRef} (h : set.Destined c answer)
    (hc : c ≠ anyType) : set.Determines c answer := by
  -- only what is bindable is wrapped
  have hwrapped : set.isBindable c = false → set.isWrapped c = false := by
    intro hnot
    simp [isWrapped, hnot]
  constructor
  case unbound =>
    rw [← isBindable_eq_false_iff]
    cases answer with
    | none => exact iff_of_true rfl h
    | some target => exact iff_of_false (by simp) (by simp [h.1])
  case universal =>
    refine iff_of_false ?_ hc
    rintro rfl
    exact h.2
  case classed =>
    rw [and_iff_left hc, ← isBindable_and_not_isWrapped_iff]
    cases answer with
    | none => exact iff_of_false (by simp) (by simp [show set.isBindable c = false from h])
    | some target =>
      cases target with
      | classRef k => exact iff_of_true ⟨k, rfl⟩ h
      | wrapper w =>
        exact iff_of_false (by simp) (by simp [show set.isWrapped c = true from h.2])
      | leaf l => exact h.2.elim
  case wrapped =>
    rw [← isWrapped_iff]
    cases answer with
    | none => exact iff_of_false (by simp) (by simp [hwrapped h])
    | some target =>
      cases target with
      | classRef k =>
        exact iff_of_false (by simp) (by simp [show set.isWrapped c = false from h.2])
      | wrapper w => exact iff_of_true ⟨w, rfl⟩ h.2
      | leaf l => exact h.2.elim

/-- The universal type is **determined** by what it is, as long as it is a complex type. -/
theorem determines_anyType (hcomplex : (set.component anyType).isComplexType = true) :
    set.Determines anyType (some (.leaf .anyType)) := by
  have hplain : ¬ set.IsConcreteElement anyType := by
    rintro ⟨decl, hkind, -⟩
    rw [Component.isElement_iff.2 ⟨decl, hkind⟩ |> Component.isComplexType_of_isElement] at hcomplex
    cases hcomplex
  constructor
  case unbound =>
    rw [← isBindable_eq_false_iff, isBindable_of_isComplexType hcomplex]
    simp
  case universal => simp
  case classed => simp [hplain]
  case wrapped => simp [hplain]

end SchemaSet

/-! ## Registries -/

namespace Resolver

open Resolving (runFrom_bind_ok runFrom_map_ok)

variable {set : SchemaSet} {failed : Prop} {r : Resolver} {c : ComponentId} {s t : State}

/-- The registry of a state is **foretold** when it binds each component to what the component is
destined for, and the universal type to its leaf. -/
structure State.Foretold (set : SchemaSet) (s : State) : Prop where
  universal : s.registry.target? SchemaSet.anyType = some (.leaf .anyType)
  destined : ∀ c target, s.registry.target? c = some target → c ≠ SchemaSet.anyType →
    set.Destined c (some target)

namespace State.Foretold

/-- What a registry is foretold stays so while nothing is registered. -/
theorem congr (h : s.Foretold set) (hregistry : t.registry = s.registry) : t.Foretold set := by
  obtain ⟨huniversal, hdestined⟩ := h
  rw [← hregistry] at huniversal hdestined
  exact ⟨huniversal, hdestined⟩

/-- Every **change** leaves a foretold registry foretold. -/
theorem change (hchange : Change set failed s t) (h : s.Foretold set) : t.Foretold set := by
  cases hchange with
  | aside aside => exact h.congr aside.registry
  | @concluded c rest outcome top unbound destined noted =>
    have htarget (d : ComponentId) :
        (({ s with proposing := ⟨rest⟩ } : State).registering c outcome).registry.target? d =
          if d = c then outcome else s.registry.target? d :=
      target?_registering (s := { s with proposing := ⟨rest⟩ }) _ unbound d
    refine ⟨?_, fun d target hd hany => ?_⟩
    · -- the component that is registered was not bound before
      rw [htarget, if_neg]
      · exact h.universal
      · rintro rfl
        have huniversal := h.universal
        rw [Registry.find?_eq_none_iff.1 unbound] at huniversal
        cases huniversal
    · rw [htarget] at hd
      split at hd
      · rename_i hdc
        exact hdc ▸ hd ▸ destined
      · exact h.destined d target hd hany
  | _ => exact h.congr rfl

end State.Foretold

/-- A component is bound to what is registered for it, or else to what it is **destined** for. -/
theorem destined_of_resolveWith (hr : r.Leads set) {a : Option TypeRef}
    (hrun : (resolveWith .standard r c false).runFrom s = (.ok a, t)) :
    (∃ target, s.registry.target? c = some target ∧ a = some target) ∨
      s.registry.target? c = none ∧ set.Destined c a := by
  unfold resolveWith at hrun
  obtain ⟨found, u, hfound, hrun⟩ := runFrom_bind_ok.1 hrun
  have ha : a = found.map Binding.target := by
    cases found <;> cases hrun <;> rfl
  subst ha
  rw [runFrom_bindingFor] at hfound
  cases hfind : s.registry.find? c with
  | some b =>
    rw [hfind] at hfound
    cases hfound
    exact .inl ⟨b.target, by simp [Registry.target?, hfind], rfl⟩
  | none =>
    rw [hfind] at hfound
    obtain ⟨outcome, v, hproposed, hregistered⟩ := runFrom_bind_ok.1 hfound
    have hproposal := (proposed_of_proposeFor hr hfind).2 outcome v hproposed
    refine .inr ⟨Registry.find?_eq_none_iff.1 hfind, ?_⟩
    cases outcome with
    | none =>
      cases hregistered
      exact hproposal.destined
    | some target =>
      -- the component was vacant, so the binding is the one for the outcome
      obtain ⟨b, hqueued, rfl⟩ := runFrom_map_ok.1 hregistered
      rw [runFrom_queueBuild, Registry.find?_eq_none_iff.1 hproposal.vacant] at hqueued
      cases hqueued
      exact hproposal.destined

/-- **The kind of answer is determined by the schema set**, after any calls that register nothing
from outside, whether or not they have failed. -/
theorem determines_after (x : Context) (hset : x.schema.Built) (reports : Reports)
    {calls : List Call} (hcalls : ∀ call ∈ calls, call.registers = false) {c : ComponentId}
    {a : Option TypeRef} {t : State}
    (hrun : ((Resolver.of x .standard).bindToType c).runFrom
      (after (.of x .standard) calls (.initial reports SchemaSet.anyType)) = (.ok a, t)) :
    x.schema.Determines c a := by
  have hinitial : (State.initial reports SchemaSet.anyType).Foretold x.schema := by
    refine ⟨rfl, fun c target hc hany => (hany ?_).elim⟩
    have hmem := Registry.mem_of_target? hc
    exact congrArg Binding.component (List.mem_singleton.1 hmem)
  have hforetold := (leads_after x hcalls _).changes.induct State.Foretold.change hinitial
  have hanswer := destined_of_resolveWith (leads_within x (2 * x.schema.size + 1)) hrun
  by_cases hany : c = SchemaSet.anyType
  · subst hany
    rcases hanswer with ⟨target, htarget, rfl⟩ | ⟨hnone, -⟩
    · rw [hforetold.universal] at htarget
      cases htarget
      exact SchemaSet.determines_anyType hset.isComplexType_anyType
    · rw [hforetold.universal] at hnone
      cases hnone
  · refine SchemaSet.Destined.determines ?_ hany
    rcases hanswer with ⟨target, htarget, rfl⟩ | ⟨-, hdestined⟩
    · exact hforetold.destined c target htarget hany
    · exact hdestined

/-- The anonymous type of the book on the shelf is asked for first, and the book afterwards. -/
theorem determines_after_shelf :
    let r := Resolver.of Compilation.shelf.context .standard
    let s := r.after [.bindToType ⟨24⟩, .drain] (.initial {} SchemaSet.anyType)
    ((r.bindToType ⟨23⟩).runFrom s).1 = .ok (some (.classRef ⟨0⟩)) ∧
      Compilation.shelf.schema.Determines ⟨23⟩ (some (.classRef ⟨0⟩)) := by
  intro r s
  have hanswer : ((r.bindToType ⟨23⟩).runFrom s).1 = .ok (some (.classRef ⟨0⟩)) := by
    decide +kernel
  have hcalls : ∀ call ∈ [Call.bindToType ⟨24⟩, Call.drain], call.registers = false := by decide
  exact ⟨hanswer, determines_after Compilation.shelf.context Compilation.built_shelf {} hcalls
    (Resolving.runFrom_of_fst hanswer)⟩

end Resolver

end SchemaBinding
