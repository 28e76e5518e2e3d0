import SchemaBinding.Proofs.Termination.Questions

/-! # Resolvers that come to an end
A strategy may be told apart from the standard one by what it does once too many bodies are under
construction. As the number of stacked bodies is bounded, that never happens: the standard resolver
foretells the one with such a strategy, if that one may ask at least as many questions inside each
other. -/

namespace SchemaBinding

open Resolver (State)
open Resolving (runFrom_bind runFrom_get_bind runFrom_set_bind runFrom_record_bind)

/-! ## Strategies -/

/-- A strategy **agrees** with the standard one as long as at most so many bodies are under
construction. -/
structure Strategy.AgreesUpTo (bodies : Nat) (strategy : Strategy) : Prop where
  propose : strategy.propose = Strategy.standard.propose
  document : strategy.document = Strategy.standard.document
  body : ∀ r c k s, s.building.depth ≤ bodies →
    (strategy.body r c k).runFrom s = (Strategy.standard.body r c k).runFrom s

/-- The standard strategy, which cuts a body short when more than so many are under
construction. -/
def Strategy.standardUpTo (bodies : Nat) : Strategy :=
  { Strategy.standard with
    body := fun r component classId => do
      if (← get).building.depth ≤ bodies then r.standardBody component classId
      else throw (.endless component) }

namespace Strategy.AgreesUpTo

variable {bodies fewer : Nat} {strategy : Strategy}

/-- What agrees for so many bodies agrees for fewer. -/
theorem mono (h : strategy.AgreesUpTo bodies) (hle : fewer ≤ bodies) :
    strategy.AgreesUpTo fewer :=
  { h with body := fun r c k s hdepth => h.body r c k s (hdepth.trans hle) }

/-- The standard strategy agrees with itself. -/
theorem standard (bodies : Nat) : Strategy.standard.AgreesUpTo bodies :=
  ⟨rfl, rfl, fun _ _ _ _ _ => rfl⟩

/-- The standard strategy agrees with the one that cuts bodies short, up to the cut. -/
theorem standardUpTo (bodies : Nat) : (Strategy.standardUpTo bodies).AgreesUpTo bodies where
  propose := rfl
  document := rfl
  body r c k s hdepth := by
    show (MonadState.get >>= fun u : State => if u.building.depth ≤ bodies then r.standardBody c k
      else throw (.endless c)).runFrom s = (r.standardBody c k).runFrom s
    rw [runFrom_get_bind, if_pos hdepth]

end Strategy.AgreesUpTo

namespace Resolver.Foretells

variable {r r' : Resolver} {strategy : Strategy} {bodies : Nat} {s t : State} {c : ComponentId}
  {k : ClassId} {b : Binding}

/-! ## Proposals in their brackets -/

/-- Proposals are foretold. -/
theorem propose (h : r.Foretells r') (hagrees : strategy.AgreesUpTo bodies)
    (hs : s.Stacked r.schema) (c : ComponentId) :
    (Resolver.propose .standard r c).Foretells (Resolver.propose strategy r' c) s := by
  by_cases hc : c ∈ s.proposing.active
  · -- a proposal inside itself fails before the strategy is asked
    obtain ⟨cycle, hcycle⟩ := CycleDetector.enter_of_mem hc
    refine .of_eq ?_
    unfold Resolver.propose
    rw [runFrom_get_bind, runFrom_get_bind, hcycle]
  · have hproposal : (s.proposal c).Stacked r.schema := ⟨hs.nodup, hs.chain, hs.anyType⟩
    have hbody := (h.proposeStandard hproposal c).closing
      fun u => { u with proposing := u.proposing.leave }
    refine hbody.congr ?_ ?_
    · rw [Resolving.runFrom_closing]
      exact runFrom_propose .standard r hc
    · rw [Resolving.runFrom_closing, runFrom_propose strategy r' hc, hagrees.propose]
      rfl

/-- They are foretold inside the package of a global declaration as well. -/
theorem proposeFor (h : r.Foretells r') (hagrees : strategy.AgreesUpTo bodies)
    (hs : s.Stacked r.schema) (c : ComponentId) :
    (Resolver.proposeFor .standard r c).Foretells (Resolver.proposeFor strategy r' c) s := by
  unfold Resolver.proposeFor
  rw [h.context]
  split
  · refine (Resolving.Foretells.refl _ s).bind fun p t hrun => ?_
    have hkeeps : s.Keeps none t := (Resolving.Keeping.packageFor _ _).of_run hrun
    have hinside : (Resolving.inside (.package p) t).Stacked r.schema := (hs.keeps hkeeps).inside _
    exact .withScope _ (keeping_propose h.keeping Strategy.keeping_standard c)
      (h.propose hagrees hinside c)
  · exact h.propose hagrees hs c

/-- Bindings are foretold. -/
theorem bindingFor (h : r.Foretells r') (hagrees : strategy.AgreesUpTo bodies)
    (hs : s.Stacked r.schema) (c : ComponentId) :
    (Resolver.bindingFor .standard r c).Foretells (Resolver.bindingFor strategy r' c) s := by
  have hstep := runFrom_bindingFor .standard r c s
  have hother := runFrom_bindingFor strategy r' c s
  cases hfound : s.registry.find? c with
  | some b =>
    rw [hfound] at hstep hother
    exact .of_eq (hother.trans hstep.symm)
  | none =>
    rw [hfound] at hstep hother
    exact ((h.proposeFor hagrees hs c).bind fun _ t _ => .refl _ t).congr hstep hother

/-! ## Bodies in their brackets -/

/-- What comes before the strategy is asked does not depend on any answer. -/
theorem prepareBody (h : r.Foretells r') (hagrees : strategy.AgreesUpTo bodies) (c : ComponentId)
    (k : ClassId) :
    Resolver.prepareBody strategy r' c k = Resolver.prepareBody .standard r c k := by
  unfold Resolver.prepareBody Resolver.checkClassName Resolver.addValueConstructor
    Resolver.documentClass
  rw [h.context, hagrees.document]

/-- The body of the latest class is foretold: no more bodies than agreed are under construction. -/
theorem runBody (h : r.Foretells r') (hagrees : strategy.AgreesUpTo bodies)
    (hbound : ∀ u : State, u.Stacked r.schema → u.building.depth ≤ bodies)
    (hs : s.Stacked r.schema) {rest : List ComponentId} (htop : s.building.active = c :: rest)
    (k : ClassId) :
    (Resolver.runBody .standard r c k).Foretells (Resolver.runBody strategy r' c k) s := by
  unfold Resolver.runBody
  refine .reading ((Resolving.Foretells.refl _ s).bind fun _ t hrun => ?_)
  cases hrun
  have ht : ({ s with journal := .begun c k s.place :: s.journal } : State).Stacked r.schema :=
    ⟨hs.nodup, hs.chain, hs.anyType⟩
  refine Resolving.Foretells.bind ?_ fun _ u _ => .refl _ u
  -- the stack is bounded, so the other strategy does what the standard one does
  exact (h.standardBody ht htop k).congr rfl (hagrees.body r' c k _ (hbound _ ht))

/-- It is foretold at its cursor as well. -/
theorem placeBody (h : r.Foretells r') (hagrees : strategy.AgreesUpTo bodies)
    (hbound : ∀ u : State, u.Stacked r.schema → u.building.depth ≤ bodies)
    (hs : s.Stacked r.schema) {rest : List ComponentId} (htop : s.building.active = c :: rest)
    (k : ClassId) :
    (Resolver.placeBody .standard r c k).Foretells (Resolver.placeBody strategy r' c k) s := by
  have hkeeping := keeping_runBody h.keeping Strategy.keeping_standard c k
  have hunder : (s.under c k).Stacked r.schema := ⟨hs.nodup, hs.chain, hs.anyType⟩
  have hscope : r'.innerScope s.model k = r.innerScope s.model k := by
    unfold Resolver.innerScope
    rw [h.context]
  unfold Resolver.placeBody
  refine .reading ?_
  dsimp only
  rw [hscope]
  refine (Resolving.Foretells.refl _ s).bind fun _ t hrun => ?_
  cases hrun
  refine Resolving.Foretells.closing ?_ _
  split
  · exact h.runBody hagrees hbound hunder htop k
  · exact .withScope _ hkeeping (h.runBody hagrees hbound (hunder.inside _) htop k)

/-- A body that is **due** is built alike. -/
theorem buildBinding (h : r.Foretells r') (hagrees : strategy.AgreesUpTo bodies)
    (hbound : ∀ u : State, u.Stacked r.schema → u.building.depth ≤ bodies)
    (hs : s.Stacked r.schema)
    (hdue : ∀ k, b.classId? = some k →
      ∀ a ∈ s.building.active.head?, r.schema.ExtendedBy b.component a) :
    (Resolver.buildBinding .standard r b).Foretells (Resolver.buildBinding strategy r' b) s := by
  have hstep := runFrom_buildBinding .standard r b s
  have hother := runFrom_buildBinding strategy r' b s
  rw [h.context] at hother
  cases hclass : b.classId? with
  | none =>
    rw [hclass] at hstep hother
    exact .of_eq (hother.trans hstep.symm)
  | some k =>
    rw [hclass] at hstep hother
    dsimp only at hstep hother
    by_cases hk : k ∈ s.built
    · rw [if_pos hk] at hstep hother
      exact .of_eq (hother.trans hstep.symm)
    · rw [if_neg hk] at hstep hother
      by_cases hidle : b.component ∈ s.building.active
      · obtain ⟨cycle, hcycle⟩ := CycleDetector.enter_of_mem hidle
        rw [hcycle] at hstep hother
        exact .of_eq (hother.trans hstep.symm)
      · rw [CycleDetector.enter_of_notMem hidle] at hstep hother
        -- the component is due, so the path of bodies stays one of extensions
        have hclaimed := hs.claimed (hdue k hclass) hidle k
        refine Resolving.Foretells.congr (.bind (.closing ?_ _) fun _ u _ => .refl _ u) hstep hother
        rw [buildBody_eq, buildBody_eq, h.prepareBody hagrees]
        refine (Resolving.Foretells.refl _ _).bind fun _ u hprepared => ?_
        have hkeeps : (s.claimed b.component k).Keeps (some k) u :=
          (keeping_prepareBody _ k).of_run hprepared
        have htop : u.building.active = b.component :: s.building.active :=
          congrArg CycleDetector.active hkeeps.building
        exact h.placeBody hagrees hbound (hclaimed.keeps hkeeps) htop k

/-! ## Answers -/

/-- A component is bound under its own name, and the universal type to no class. -/
theorem binding_of_bindingFor (hs : s.Stacked r.schema)
    (hrun : (Resolver.bindingFor .standard r c).runFrom s = (.ok (some b), t)) :
    b.component = c ∧ (c = SchemaSet.anyType → b.classId? = none) := by
  -- a component that was bound before has its binding, any other one is registered under its name
  rw [runFrom_bindingFor] at hrun
  cases hfound : s.registry.find? c with
  | some b' =>
    rw [hfound] at hrun
    cases hrun
    refine ⟨Registry.component_of_find? hfound, ?_⟩
    rintro rfl
    rw [hs.anyType] at hfound
    cases hfound
    rfl
  | none =>
    rw [hfound] at hrun
    obtain ⟨outcome, u, -, hregistered⟩ := Resolving.runFrom_bind_ok.1 hrun
    constructor
    · cases outcome with
      | none => cases hregistered
      | some target =>
        obtain ⟨b', hqueued, hb'⟩ := Resolving.runFrom_map_ok.1 hregistered
        obtain rfl : b' = b := Option.some.inj hb'
        rw [runFrom_queueBuild] at hqueued
        split at hqueued
        · split at hqueued
          · cases hqueued
            rfl
          · cases hqueued
        · cases hqueued
          rfl
    · -- the universal type has been bound from the start
      rintro rfl
      rw [hs.anyType] at hfound
      cases hfound

/-- Answers are foretold if those of the resolvers inside are. -/
theorem resolveWith (h : r.Foretells r') (hagrees : strategy.AgreesUpTo bodies)
    (hbound : ∀ u : State, u.Stacked r.schema → u.building.depth ≤ bodies)
    (hs : s.Stacked r.schema) (immediately : Bool)
    (hdue : immediately = true → s.Due r.schema c) :
    (Resolver.resolveWith .standard r c immediately).Foretells
      (Resolver.resolveWith strategy r' c immediately) s := by
  unfold Resolver.resolveWith
  refine (h.bindingFor hagrees hs c).bind fun found t hrun => ?_
  have hkeeps : s.Keeps none t :=
    (keeping_bindingFor h.keeping Strategy.keeping_standard c).of_run hrun
  cases found with
  | none => exact .refl _ t
  | some b =>
    obtain ⟨rfl, hany⟩ := binding_of_bindingFor hs hrun
    dsimp only
    split
    · rename_i himmediately
      refine .reading ?_
      split
      · exact .throw _ t
      · refine Resolving.Foretells.bind ?_ fun _ u _ => .refl _ u
        refine h.buildBinding hagrees hbound (hs.keeps hkeeps) fun k hk a ha => ?_
        refine ⟨(hdue himmediately).keeps hkeeps a ha, fun heq => ?_⟩
        -- the universal type has no class to be built
        rw [hany heq] at hk
        cases hk
    · exact .refl _ t

/-- A resolver is one for the context that it is made for. -/
theorem context_within (x : Context) (strategy : Strategy) (n : Nat) :
    (Resolver.within x strategy n).toContext = x := by
  cases n <;> rfl

/-- The **standard** resolver foretells every one with a strategy that agrees and with at least as
many questions. -/
theorem within {x : Context} (hagrees : strategy.AgreesUpTo bodies)
    (hbound : ∀ u : State, u.Stacked x.schema → u.building.depth ≤ bodies) {n n' : Nat}
    (hle : n ≤ n') :
    (Resolver.within x .standard n).Foretells (Resolver.within x strategy n') := by
  induction n generalizing n' with
  | zero =>
    exact ⟨context_within x strategy n', keeping_within x Strategy.keeping_standard 0,
      fun c _ s _ _ => .endless c⟩
  | succ n ih =>
    obtain ⟨m, rfl⟩ : ∃ m, n' = m + 1 := Nat.exists_eq_succ_of_ne_zero (by omega)
    have hbefore := ih (Nat.le_of_succ_le_succ hle)
    have hschema : (Resolver.within x .standard n).schema = x.schema :=
      congrArg Context.schema (context_within x .standard n)
    -- only the contexts are compared, since the answers of the resolvers differ
    refine ⟨(context_within x strategy (m + 1)).trans (context_within x .standard (n + 1)).symm,
      keeping_within x Strategy.keeping_standard (n + 1), fun c immediately s hs hdue => ?_⟩
    exact hbefore.resolveWith hagrees (by rwa [hschema]) (by rwa [hschema]) immediately
      (by rwa [hschema])

end Resolver.Foretells

end SchemaBinding
