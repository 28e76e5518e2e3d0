import SchemaBinding.Compilation
import SchemaBinding.Proofs.Schema.Built
import SchemaBinding.Proofs.Scoping.Body

/-! # Placement is all that scoping decides
The same schema set is compiled twice, once with local classes nested inside the classes that they
are found in, and once with all classes flat in their packages. Either both runs stop with the same
error, or both end with the same reports and with models that differ in the scopes of classes alone;
each flat scope is the package that the nested scope leads to. -/

namespace SchemaBinding

open Resolver (State)
open Resolving (Matching anyAnswer runFrom_bind runFrom_get_bind)

variable {x y : Context} {r r' : Resolver} {s t : State}

namespace Resolver.Alike

/-! ## Bindings -/

/-- Proposals match; a global declaration is asked for inside a package. -/
theorem propose (h : r.Alike r') (hst : s.Similar t) (c : ComponentId)
    (hplaced : (r.schema.component c).isGlobalDeclaration = true →
      ∃ p, s.scopes.current = .package p) :
    Matching (Resolver.propose .standard r c) (Resolver.propose .standard r' c) s t Exists := by
  by_cases hc : c ∈ s.proposing.active
  · -- the path of a proposal inside itself is the same in both runs
    obtain ⟨cycle, hcycle⟩ := CycleDetector.enter_of_mem hc
    have hrun {r : Resolver} {u : State} (hu : u.proposing = s.proposing) :
        (Resolver.propose .standard r c).runFrom u = (.error (.proposalCycle cycle.path), u) := by
      unfold Resolver.propose
      rw [runFrom_get_bind, hu, hcycle]
      rfl
    exact .error (hrun rfl) (hrun hst.proposing)
  · have hproposal : (s.proposal c).Similar (t.proposal c) :=
      { hst with proposing := by simp [State.proposal, hst.proposing] }
    have hbody := (h.proposeStandard hproposal c hplaced).closing
      (fun s => { s with proposing := s.proposing.leave })
      (fun _ _ huv => { huv with proposing := congrArg CycleDetector.leave huv.proposing })
      fun _ => rfl
    refine hbody.congr ?_ ?_
    · rw [Resolving.runFrom_closing]
      exact runFrom_propose .standard r hc
    · rw [Resolving.runFrom_closing]
      exact runFrom_propose .standard r' (hst.proposing ▸ hc)

/-- A global declaration is proposed in the **same package** in both runs. -/
theorem proposeFor (h : r.Alike r') (hst : s.Similar t) (c : ComponentId) :
    Matching (Resolver.proposeFor .standard r c) (Resolver.proposeFor .standard r' c) s t
      Exists := by
  unfold Resolver.proposeFor
  rw [h.schema]
  split
  · refine (h.context.matching_packageFor hst _).bind fun p u v _ huv _ => ?_
    have hscope := Model.Replaces.package u.model p
    exact .withScope huv hscope (keeping_propose h.keeping Strategy.keeping_standard c)
      (keeping_propose h.keeping' Strategy.keeping_standard c)
      (h.propose (huv.inside hscope) c fun _ => ⟨p, rfl⟩)
  · rename_i hlocal
    exact h.propose hst c fun hglobal => absurd hglobal hlocal

/-- Bindings match, and their types exist. -/
theorem bindingFor (h : r.Alike r') (hst : s.Similar t) (c : ComponentId) :
    Matching (Resolver.bindingFor .standard r c) (Resolver.bindingFor .standard r' c) s t
      fun found m => ∀ b ∈ found, m.HasType b.target := by
  have hstep := runFrom_bindingFor .standard r c s
  have hflat := runFrom_bindingFor .standard r' c t
  rw [hst.registry] at hflat
  cases hfound : s.registry.find? c with
  | some b =>
    rw [hfound] at hstep hflat
    refine .ok hstep hflat hst ?_
    rintro _ ⟨⟩
    exact hst.hasType_of_find? hfound
  | none =>
    rw [hfound] at hstep hflat
    refine Matching.congr ((h.proposeFor hst c).bind fun proposal u v _ huv hproposal => ?_)
      hstep hflat
    cases proposal with
    | none => exact .pure huv (by simp)
    | some target =>
      refine (Matching.queueBuild huv c (hproposal target rfl)).map fun b m hb => ?_
      rintro _ ⟨⟩
      exact hb

/-- Answers match if those of the resolvers inside do. -/
theorem resolveWith (h : r.Alike r') (hst : s.Similar t) (c : ComponentId) (immediately : Bool) :
    Matching (Resolver.resolveWith .standard r c immediately)
      (Resolver.resolveWith .standard r' c immediately) s t Exists := by
  refine (h.bindingFor hst c).bind fun found u v _ huv hfound => ?_
  cases found with
  | none => exact .pure huv (by simp [Exists])
  | some b =>
    have hb := hfound b rfl
    have hanswer {m : Model} (hm : m.HasType b.target) : Exists (some b.target) m := by
      rintro _ ⟨⟩
      exact hm
    dsimp only
    split
    · refine .reading ?_
      rw [huv.building]
      split
      · exact .throw _
      · refine (h.buildBinding huv hb).bind fun _ u' v' hrun huv' _ => .pure huv' (hanswer ?_)
        have hkeeps := keeping_buildBinding h.keeping Strategy.keeping_standard b u
        rw [hrun] at hkeeps
        exact hb.keep hkeeps.model.keepsScopes
    · exact .pure huv (hanswer hb)

/-- The standard resolvers **match at any depth** of questions. -/
theorem within (h : x.Rescoped y) (steps : Nat) :
    (Resolver.within x .standard steps).Alike (Resolver.within y .standard steps) := by
  have hkeeping (z : Context) : (Resolver.within z .standard steps).Keeping :=
    keeping_within z Strategy.keeping_standard steps
  induction steps with
  | zero => exact ⟨h, hkeeping x, hkeeping y, fun c _ _ _ _ => .throw (.endless c)⟩
  | succ steps ih =>
    have ih := ih fun z => keeping_within z Strategy.keeping_standard steps
    exact ⟨h, hkeeping x, hkeeping y, fun c immediately _ _ hst => ih.resolveWith hst c immediately⟩

/-! ## Runs -/

/-- The same binding is taken off both queues. -/
theorem takeQueued (hst : s.Similar t) :
    Matching Resolver.takeQueued Resolver.takeQueued s t fun taken m =>
      ∀ b ∈ taken, m.HasType b.target := by
  cases hqueue : s.queue with
  | nil =>
    refine .ok (runFrom_takeQueued_nil hqueue)
      (runFrom_takeQueued_nil (hst.queue.trans hqueue)) hst (by simp)
  | cons b rest =>
    refine .ok (runFrom_takeQueued_cons hqueue)
      (runFrom_takeQueued_cons (hst.queue.trans hqueue))
      { hst with
        queue := rfl
        queued := fun d hd => hst.queued d (hqueue ▸ List.mem_cons_of_mem b hd) } ?_
    rintro _ ⟨⟩
    exact hst.queued b (hqueue ▸ List.mem_cons_self)

/-- The queue is worked off alike. -/
theorem drainWithin (h : r.Alike r') {outer outer' : Resolver}
    (hbuild : outer.build = Resolver.buildBinding .standard r)
    (hbuild' : outer'.build = Resolver.buildBinding .standard r') (steps : Nat)
    (hst : s.Similar t) :
    Matching (outer.drainWithin steps) (outer'.drainWithin steps) s t anyAnswer := by
  induction steps generalizing s t with
  | zero =>
    refine (takeQueued hst).bind fun taken u v _ huv _ => ?_
    cases taken with
    | none => exact .pure huv trivial
    | some b => exact .throw _
  | succ steps ih =>
    refine (takeQueued hst).bind fun taken u v _ huv htaken => ?_
    cases taken with
    | none => exact .pure huv trivial
    | some b =>
      dsimp only
      rw [hbuild, hbuild']
      refine (h.buildBinding huv (htaken b rfl)).bind fun _ u' v' _ huv' _ => ?_
      exact (ih huv').bind fun _ _ _ _ hdrained _ => .pure hdrained trivial

end Resolver.Alike

/-- Unused customizations are reported alike. -/
theorem Context.Rescoped.reportUnacknowledged (h : x.Rescoped y) (hst : s.Similar t) :
    Matching x.reportUnacknowledged y.reportUnacknowledged s t anyAnswer := by
  unfold Context.reportUnacknowledged
  rw [h.schema]
  refine .forM hst fun id _ u v huv => .reading ?_
  rw [huv.acknowledged]
  split
  · exact .report huv _
  · exact .pure huv trivial

/-! ## Compilations -/

/-- Two results **differ in placement** alone: both are the same error, or the second model is the
first one flattened. -/
inductive DifferInPlacement : Except ResolveError Outcome → Except ResolveError Outcome → Prop
  | stopped (e : ResolveError) : DifferInPlacement (.error e) (.error e)
  | ended {nested flat : Outcome} (reports : flat.reports = nested.reports)
      (model : nested.model.Flattened flat.model) : DifferInPlacement (.ok nested) (.ok flat)

namespace Compilation

variable {c : Compilation}

/-- A compilation with another scoping of local classes, and all else as it is. -/
def withScoping (c : Compilation) (scoping : LocalScoping) : Compilation :=
  { c with config := { c.config with localScoping := scoping } }

/-- Before a run the scoping makes no difference. -/
theorem similar_start (c : Compilation) :
    (c.withScoping .nested).start.Similar (c.withScoping .toplevel).start where
  model := .empty
  reports := rfl
  registry := rfl
  queue := rfl
  built := rfl
  elements := rfl
  packages := rfl
  checkedNames := rfl
  acknowledged := rfl
  scopes := .nil
  proposing := rfl
  building := rfl
  cursor := rfl
  bound b hb := by
    obtain rfl := List.mem_singleton.1 hb
    trivial
  queued b hb := by cases hb
  noted e he := by cases he

/-- The standard runs **match from the start**. -/
theorem matching_steps (hstandard : c.strategy = .standard) :
    Matching (c.withScoping .nested).steps (c.withScoping .toplevel).steps
      (c.withScoping .nested).start (c.withScoping .toplevel).start anyAnswer := by
  have hcontext : (c.withScoping .nested).context.Rescoped (c.withScoping .toplevel).context :=
    ⟨rfl, rfl, rfl, rfl⟩
  have hresolver (scoping : LocalScoping) : (c.withScoping scoping).resolver =
      Resolver.of (c.withScoping scoping).context .standard := by
    rw [← hstandard]
    rfl
  have halike := Resolver.Alike.within hcontext (2 * c.schema.size + 2)
  unfold steps
  rw [hresolver, hresolver]
  refine (Matching.forM (similar_start c) fun id _ u v huv => ?_).bind fun _ u v _ huv _ => ?_
  · exact (halike.bindToType huv id).bind fun _ _ _ _ huv' _ => .pure huv' trivial
  · refine ((Resolver.Alike.within hcontext (2 * c.schema.size + 1)).drainWithin rfl rfl _ huv).bind
      fun _ u' v' _ huv' _ => hcontext.reportUnacknowledged huv'

/-- **Scoping decides about placement and about nothing else.** -/
theorem differInPlacement_outcome (hstandard : c.strategy = .standard) :
    DifferInPlacement (c.withScoping .nested).outcome (c.withScoping .toplevel).outcome := by
  obtain ⟨hresult, hsimilar⟩ := matching_steps hstandard
  replace hresult : (c.withScoping .toplevel).run.1 = (c.withScoping .nested).run.1 := hresult
  unfold outcome
  rcases hnested : (c.withScoping .nested).run with ⟨e | _, s⟩
  · rcases hflat : (c.withScoping .toplevel).run with ⟨result, t⟩
    rw [hnested, hflat] at hresult
    obtain rfl : result = .error e := hresult
    exact .stopped e
  · rcases hflat : (c.withScoping .toplevel).run with ⟨result, t⟩
    rw [hnested, hflat] at hresult
    obtain rfl : result = .ok () := hresult
    have hst := (hsimilar () s hnested).1
    rw [show ((c.withScoping .toplevel).steps.runFrom _) = _ from hflat] at hst
    exact .ended hst.reports hst.model

/-- An element with an anonymous type that holds another such element. -/
def nestedShelf : Compilation where
  schema := (Builder.anonymousComplexType ⟨24⟩).after
    ((Builder.localElement ⟨23⟩ "chapter" none).after
      ((Builder.anonymousComplexType ⟨22⟩).after
        ((Builder.globalElement "urn:x" "book" none).after .initial)))

/-- The class of the inner element lies inside that of the outer one, or next to it. -/
theorem differInPlacement_outcome_nestedShelf :
    DifferInPlacement (nestedShelf.withScoping .nested).outcome
        (nestedShelf.withScoping .toplevel).outcome ∧
      (nestedShelf.withScoping .nested).outcome.toOption.map
          (fun o => (o.model.classInfo ⟨1⟩).scope) = some (.nested ⟨0⟩) ∧
      (nestedShelf.withScoping .toplevel).outcome.toOption.map
          (fun o => (o.model.classInfo ⟨1⟩).scope) = some (.package ⟨0⟩) :=
  ⟨differInPlacement_outcome rfl, by decide +kernel, by decide +kernel⟩

end Compilation

end SchemaBinding
