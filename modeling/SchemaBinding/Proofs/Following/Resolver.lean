import SchemaBinding.Proofs.Following.Body

/-! # Answers as moves
A resolver that may ask one more question inside is sound if its questions are. So every standard
resolver is sound, by induction on the number of questions that may be asked inside each other. -/

namespace SchemaBinding

open Resolver (State)

variable {x : Context} {limit n : Nat} {r : Resolver} {s t u : State} {c : ComponentId}
  {k : ClassId} {b : Binding}

/-- A ledger after the latest body is **finished**. -/
def Ledger.finished (l : Ledger) (c : ComponentId) (k : ClassId) : Ledger :=
  { l with building := l.building.drop 1, log := .done c k :: l.log }

namespace Resolver

open Resolving (runFrom_bind runFrom_bind_ok runFrom_get_bind runFrom_set_bind runFrom_record_bind)

/-! ## Proposals in their brackets -/

/-- A proposal for a component without one under way is that of the strategy, in a bracket. -/
theorem runFrom_proposeFor {strategy : Strategy} (hr : r.Keeping) (hs : strategy.Keeping)
    (idle : c ∉ s.proposing.active) :
    ∃ inside after, inside.ledger = s.ledger.proposal c ∧
      (proposeFor strategy r c).runFrom s = (((strategy.propose r c).runFrom inside).1, after) ∧
      after.ledger = { ((strategy.propose r c).runFrom inside).2.ledger with
        proposing := ((strategy.propose r c).runFrom inside).2.ledger.proposing.drop 1 } := by
  unfold proposeFor
  split
  · -- a global component is proposed in the scope of its package
    obtain ⟨package, t, hpackage, hledger⟩ :=
      Resolving.Silent.packageFor r.toContext (r.schema.component c).ns s
    have hidle : c ∉ (Resolving.inside (.package package) t).proposing.active := by
      have hkeeps : s.Keeps none t := (Resolving.Keeping.packageFor _ _).of_run hpackage
      show c ∉ t.proposing.active
      rwa [hkeeps.proposing]
    rw [runFrom_bind, hpackage]
    dsimp only
    rw [Resolving.runFrom_withScope (by simp) (keeping_propose hr hs c _).scopes,
      runFrom_propose strategy r hidle]
    refine ⟨_, _, ?_, rfl, rfl⟩
    rw [State.ledger_proposal, State.ledger_inside, hledger]
  · rw [runFrom_propose strategy r idle]
    exact ⟨_, _, State.ledger_proposal s c, rfl, rfl⟩

/-- What was **concluded** is registered. -/
theorem runFrom_register {m l : Ledger} {rest : List ComponentId} {outcome : Option TypeRef}
    (hm : Reachable x m) (top : m.proposing = c :: rest) (conclusion : Conclusion x c m outcome l)
    (hs : s.ledger = l.concluded c rest none) :
    ∃ t, (register c outcome).runFrom s = (.ok (outcome.map fun target => ⟨c, target⟩), t) ∧
      t.ledger = l.concluded c rest outcome := by
  cases outcome with
  | none => exact ⟨s, rfl, hs⟩
  | some target =>
    -- what is concluded was unbound, so it is not refused
    have hunbound : s.registry.target? c = none := by
      have hregistry : s.registry = l.registry := congrArg Ledger.registry hs
      rw [hregistry, conclusion.registry]
      exact hm.inOrder.target?_top top
    unfold register
    rw [Resolving.runFrom_map, runFrom_queueBuild, hunbound]
    refine ⟨_, rfl, ?_⟩
    show { s.ledger with
      registry := s.ledger.registry.insert ⟨c, target⟩
      queue := if target.isPrebuilt then s.ledger.queue else ⟨c, target⟩ :: s.ledger.queue } = _
    rw [hs]
    rfl

/-! ## Bodies in their brackets -/

/-- A reserved class name is **reported**. -/
theorem runFrom_checkClassName (r : Resolver) (c : ComponentId) (k : ClassId) (s : State) :
    ∃ t, (r.checkClassName c k).runFrom s = (.ok (), t) ∧ t.ledger = { s.ledger with
      reserved := s.ledger.reserved +
        if r.config.isReservedClassName (s.ledger.model.classInfo k).name then 1 else 0 } := by
  unfold checkClassName
  rw [runFrom_get_bind]
  dsimp only
  have hname : (s.ledger.model.classInfo k).name = (s.model.classInfo k).name := rfl
  rw [hname]
  split
  · refine ⟨_, rfl, ?_⟩
    have hkey : (Finding.reservedClassName (s.model.classInfo k).name (r.schema.label c)
      (r.schema.component c).locator).key = Finding.reservedClassNameKey := rfl
    unfold State.ledger
    dsimp only
    rw [Reports.length_withKey_raise, if_pos hkey]
  · exact ⟨s, rfl, rfl⟩

/-- The class for an element with a simple type is given its **constructor**. -/
theorem runFrom_addValueConstructor (r : Resolver) (c : ComponentId) (k : ClassId) (s : State) :
    (r.addValueConstructor c k).runFrom s =
      (.ok (), { s with model := s.model.modifyClass k (r.prepared c []) }) := by
  have hidle : s.model.modifyClass k (fun info => info) = s.model := Model.modifyClass_id _ _
  unfold addValueConstructor Context.prepared
  cases r.schema.elementType? c with
  | none =>
    dsimp only
    simp only [Bool.false_eq_true, if_false, List.foldl_nil]
    rw [hidle]
    rfl
  | some type =>
    dsimp only
    cases (r.schema.component type).isSimpleType with
    | true => rfl
    | false =>
      simp only [Bool.false_eq_true, if_false, List.foldl_nil]
      rw [hidle]
      rfl

/-- A class is **documented** with the paragraphs that are wanted for it. -/
theorem runFrom_documentClass (r : Resolver) (c : ComponentId) (k : ClassId) (s : State) :
    (documentClass .standard r c k).runFrom s =
      match r.docs? c (s.model.classInfo k) with
      | none => (.error (.endless c), s)
      | some docs =>
        (.ok (), { s with
          model := s.model.modifyClass k fun info => docs.foldl ClassInfo.appendDoc info }) := by
  unfold documentClass Context.docs?
  rw [runFrom_get_bind]
  by_cases hwanted : r.config.generateDocs && (s.model.classInfo k).doc.isNone
  · rw [if_pos hwanted, if_pos hwanted]
    have hdocument : Strategy.standard.document r.schema c = r.schema.documentation? c := rfl
    rw [hdocument]
    cases r.schema.documentation? c <;> rfl
  · rw [if_neg hwanted, if_neg hwanted]
    simp only [List.foldl_nil, Model.modifyClass_id]
    rfl

/-- A class is **prepared** for its body, or there is no end to its documentation. -/
theorem runFrom_prepareBody (r : Resolver) (c : ComponentId) (k : ClassId) (s : State) :
    match r.docs? c (s.ledger.model.classInfo k) with
    | none => ∃ t, (prepareBody .standard r c k).runFrom s = (.error (.endless c), t)
    | some docs => ∃ t, (prepareBody .standard r c k).runFrom s = (.ok (), t) ∧
        t.ledger = { s.ledger with
          model := s.ledger.model.modifyClass k (r.prepared c docs)
          reserved := s.ledger.reserved +
            if r.config.isReservedClassName (s.ledger.model.classInfo k).name then 1 else 0 } := by
  obtain ⟨t, hcheck, ht⟩ := r.runFrom_checkClassName c k s
  have hmodel : t.ledger.model = s.ledger.model := by rw [ht]
  -- the constructor is not looked at when it is decided whether the class is documented
  have hdocs : r.docs? c ((t.model.modifyClass k (r.prepared c [])).classInfo k) =
      r.docs? c (s.ledger.model.classInfo k) := by
    have hdoc : ((t.model.modifyClass k (r.prepared c [])).classInfo k).doc =
        (s.ledger.model.classInfo k).doc := by
      rw [← hmodel, Model.classInfo_modifyClass]
      split
      · exact Context.doc_prepared_nil _ _ _
      · rfl
    unfold Context.docs?
    rw [hdoc]
  have hrun : (prepareBody .standard r c k).runFrom s = (documentClass .standard r c k).runFrom
      { t with model := t.model.modifyClass k (r.prepared c []) } := by
    unfold prepareBody
    rw [runFrom_bind, hcheck]
    dsimp only
    rw [runFrom_bind, runFrom_addValueConstructor]
  rw [hrun, runFrom_documentClass]
  dsimp only
  rw [hdocs]
  cases r.docs? c (s.ledger.model.classInfo k) with
  | none => exact ⟨_, rfl⟩
  | some docs =>
    refine ⟨_, rfl, ?_⟩
    have hledger (m : Model) : ({ t with model := m } : State).ledger =
        { t.ledger with model := { m with packages := #[] } } := rfl
    rw [hledger, ht, Model.modifyClass_modifyClass, ← hmodel]
    rfl

/-- The state in which a strategy fills a class, after the first event of the body. -/
def State.marked (s : State) (c : ComponentId) (k : ClassId) : State :=
  { s with journal := .begun c k s.place :: s.journal }

/-- Marking the first event of a body adds it to the log of the ledger. -/
theorem State.ledger_marked (s : State) (c : ComponentId) (k : ClassId) :
    (s.marked c k).ledger = { s.ledger with log := .begun c k :: s.ledger.log } := rfl

/-- The events of a body stand **around** what the strategy does. -/
theorem runFrom_runBody (strategy : Strategy) {result : Except ResolveError Unit}
    (hbody : (strategy.body r c k).runFrom (s.marked c k) = (result, t)) :
    ∃ after, (runBody strategy r c k).runFrom s = (result, after) ∧ (result = .ok () →
      after.ledger = { t.ledger with log := .done c k :: t.ledger.log }) := by
  unfold State.marked at hbody
  unfold runBody
  rw [runFrom_get_bind, runFrom_record_bind, runFrom_bind, hbody]
  cases result with
  | error e => exact ⟨t, rfl, by simp⟩
  | ok _ => exact ⟨_, rfl, fun _ => rfl⟩

/-- A class is not begun when there is no end to its documentation. -/
theorem runFrom_buildBinding_endless (hclass : b.classId? = some k) (unbuilt : k ∉ s.ledger.built)
    (idle : b.component ∉ s.ledger.building)
    (endless : r.docs? b.component (s.ledger.model.classInfo k) = none) :
    ∃ after, (buildBinding .standard r b).runFrom s = (.error (.endless b.component), after) := by
  obtain ⟨u, hprepare⟩ : ∃ u, (prepareBody .standard r b.component k).runFrom
      (s.claimed b.component k) = (.error (.endless b.component), u) := by
    have hprepare := r.runFrom_prepareBody b.component k (s.claimed b.component k)
    rw [show r.docs? b.component ((s.claimed b.component k).ledger.model.classInfo k) = none
      from endless] at hprepare
    exact hprepare
  rw [runFrom_buildBinding, hclass]
  dsimp only
  rw [if_neg (show k ∉ s.built from unbuilt), CycleDetector.enter_of_notMem idle]
  dsimp only
  rw [runFrom_bind, Resolving.runFrom_closing, buildBody_eq, runFrom_bind, hprepare]
  exact ⟨_, rfl⟩

/-- A class that was not begun is built by the body of the strategy, where the class is claimed. -/
theorem runFrom_buildBinding_claimed (hr : r.Keeping) (hclass : b.classId? = some k)
    (unbuilt : k ∉ s.ledger.built) (idle : b.component ∉ s.ledger.building) {docs : List String}
    (documented : r.docs? b.component (s.ledger.model.classInfo k) = some docs) :
    ∃ inside, inside.ledger = r.claiming s.ledger b.component k docs ∧
      ∀ result t, (r.standardBody b.component k).runFrom inside = (result, t) →
        ∃ after, (buildBinding .standard r b).runFrom s = (result, after) ∧
          (result = .ok () → after.ledger = t.ledger.finished b.component k) := by
  obtain ⟨u, hprepare, hu⟩ : ∃ u, (prepareBody .standard r b.component k).runFrom
      (s.claimed b.component k) = (.ok (), u) ∧ _ := by
    have hprepare := r.runFrom_prepareBody b.component k (s.claimed b.component k)
    rw [show r.docs? b.component ((s.claimed b.component k).ledger.model.classInfo k) = some docs
      from documented] at hprepare
    exact hprepare
  have hplaced : ((u.under b.component k).enclosed (r.innerScope u.model k)).ledger = u.ledger := by
    unfold State.enclosed
    split <;> rfl
  refine ⟨((u.under b.component k).enclosed (r.innerScope u.model k)).marked b.component k, ?_, ?_⟩
  · rw [State.ledger_marked, hplaced, hu]
    rfl
  · intro result t hbody
    obtain ⟨v, hrun, hv⟩ := runFrom_runBody .standard hbody
    -- around the body only scopes, cursor and events change
    have hbuild : (buildBody .standard r b.component k).runFrom (s.claimed b.component k) =
        (result, { v with scopes := u.scopes, cursor := u.cursor }) := by
      rw [buildBody_eq, runFrom_bind, hprepare]
      dsimp only
      rw [runFrom_placeBody hr Strategy.keeping_standard, hrun]
    rw [runFrom_buildBinding, hclass]
    dsimp only
    rw [if_neg (show k ∉ s.built from unbuilt), CycleDetector.enter_of_notMem idle]
    dsimp only
    rw [runFrom_bind, Resolving.runFrom_closing, hbuild]
    cases result with
    | error e => exact ⟨_, rfl, by simp⟩
    | ok _ =>
      have hfinished : ({ v with
          scopes := u.scopes, cursor := u.cursor, building := v.building.leave } : State).ledger =
            t.ledger.finished b.component k := by
        have hdone := hv rfl
        show { v.ledger with building := v.ledger.building.drop 1 } = _
        rw [hdone]
        rfl
      dsimp only
      split
      · exact ⟨_, rfl, fun _ => hfinished⟩
      · exact ⟨_, rfl, fun _ => hfinished⟩

end Resolver

namespace Resolving

/-- A component is **bound** to what was concluded for it. -/
theorem follows_bindingFor (hr : r.Sound x limit n) (hs : s.Ready x limit (n + 1) c) :
    Follows x limit (Resolver.bindingFor .standard r c) s fun found t =>
      t.ledger.target? c = found.map Binding.target ∧ (∀ b ∈ found, b.component = c) ∧
        (found = none → x.schema.isBindable c = false) := by
  unfold Follows FollowsFrom
  rw [Resolver.runFrom_bindingFor]
  cases hfind : s.registry.find? c with
  | some b =>
    refine ⟨.refl, ?_, ?_, by simp⟩
    · show (s.registry.find? c).map Binding.target = _
      rw [hfind]
    · intro b' hb'
      obtain rfl : b = b' := by simpa using hb'
      exact Registry.component_of_find? hfind
  | none =>
    dsimp only
    rw [runFrom_bind]
    by_cases hidle : c ∈ s.ledger.proposing
    · -- a proposal for the component is under way
      obtain ⟨path, t, hrun⟩ :=
        Resolver.runFrom_proposeFor_active .standard hr.keeping Strategy.keeping_standard hidle
      rw [hrun]
      exact ⟨_, .refl, .proposing hs.asked hidle⟩
    · obtain ⟨inside, after, hinside, hrun, hafter⟩ :=
        Resolver.runFrom_proposeFor hr.keeping Strategy.keeping_standard hidle
      have hdeep : limit ≤ inside.ledger.depth + n := by
        rw [hinside, Ledger.depth_proposal]
        exact hs.deep.trans (by omega)
      have hconcludes : Concludes x limit c s.ledger id (Strategy.standard.propose r c) inside :=
        concludes_proposeStandard hr hs.reachable hs.asked hfind hidle hinside hdeep
      rw [hrun]
      rcases hpropose : (Strategy.standard.propose r c).runFrom inside with ⟨e | outcome, v⟩
      · exact hconcludes.of_error hpropose
      · -- the bracket is left with the conclusion, and its outcome is registered
        obtain ⟨m, hmoves, hproposing, hconclusion⟩ := hconcludes.of_ok hpropose
        rw [hinside] at hproposing
        have hm := hs.reachable.moves hmoves
        have hleft : after.ledger = v.ledger.concluded c s.ledger.proposing none := by
          rw [hafter, hpropose, hconclusion.proposing, hproposing]
          rfl
        have hconclusion : Conclusion x c m outcome v.ledger := hconclusion
        obtain ⟨t, hregister, ht⟩ := Resolver.runFrom_register hm hproposing hconclusion hleft
        have htarget := hm.inOrder.target?_conclusion hproposing hconclusion c
        rw [if_pos rfl, ← ht] at htarget
        have hconcluded := hmoves.tail (.conclude hproposing hconclusion)
        rw [← ht] at hconcluded
        dsimp only
        rw [hregister]
        refine ⟨hconcluded, ?_, ?_, ?_⟩
        · rw [htarget]
          cases outcome <;> rfl
        · intro b hb
          obtain ⟨target, -, rfl⟩ := Option.map_eq_some_iff.1 hb
          rfl
        · intro hnone
          obtain rfl : outcome = none := Option.map_eq_none_iff.1 hnone
          exact hconclusion.unbindable

/-- A body that was written is **finished**. -/
theorem follows_finishing (hr : r.Sound x limit n) (hs : s.Inside x limit n c k)
    (hbase : (s.ledger.model.classInfo k).base = none)
    (hproperties : (s.ledger.model.classInfo k).properties = []) :
    Follows x limit (r.standardBody c k) s fun _ t =>
      Move x t.ledger (t.ledger.finished c k) ∧ k ∈ t.ledger.built := by
  refine (follows_standardBody hr hs hbase).imp fun _ t hrun hmoves ⟨items, hitems, hwritten⟩ => ?_
  have hkeeps : s.Keeps (some k) t := (Resolver.keeping_standardBody hr.keeping c k).of_run hrun
  have ht := hs.keeps hkeeps hmoves
  obtain ⟨rest, htop⟩ := ht.top
  have hcomplete := hwritten.complete hitems hproperties
  have hfinished : t.ledger.finished c k =
      { t.ledger with building := rest, log := .done c k :: t.ledger.log } := by
    unfold Ledger.finished
    rw [htop]
    rfl
  rw [hfinished]
  refine ⟨.finish ht.alone htop ht.begun hcomplete fun b hb => ?_, ?_⟩
  · -- what the body extends was answered immediately, so its class is built
    obtain ⟨-, hidle, hbuilt⟩ := hwritten.based.extended b hb
    rw [hkeeps.ledger_building]
    exact ⟨hidle, hbuilt⟩
  · exact (ht.reachable.building.of_begun ht.begun).1

section Building

variable {l : Ledger} {queue : List Binding}

/-- The body of a class that is claimed is the **latest** one, whatever leaves the queue. -/
theorem inside_claimed (hl : Reachable x l) {docs : List String}
    (hs : s.ledger = { x.claiming l c k docs with queue })
    (hmoves : Moves x l s.ledger) (alone : l.proposing = [])
    (hdeep : limit ≤ l.depth + (n + 1)) : s.Inside x limit n c k where
  reachable := hl.moves hmoves
  alone := by
    rw [hs]
    exact alone
  top := by
    refine ⟨l.building, ?_⟩
    rw [hs]
    rfl
  begun := by
    rw [hs]
    exact List.mem_cons_self
  deep := by
    have hdepth : s.ledger.depth = l.depth + 1 := by
      rw [hs]
      exact (Nat.add_assoc _ _ 1).symm
    rw [hdepth]
    exact hdeep.trans (by omega)

/-- A class that is **claimed** is built. Its binding may have left the queue before, as it may do
once the class is claimed. -/
theorem followsFrom_claimed (hr : r.Sound x limit n) (hl : Reachable x l)
    (hs : s.ledger = { l with queue }) (hclass : b.classId? = some k) (unbuilt : k ∉ l.built)
    (alone : l.proposing = [])
    (extended : ∀ a ∈ l.building.head?, x.schema.extended? a = some b.component)
    (bound : l.target? b.component = some (.classRef k)) (idle : b.component ∉ l.building)
    (hdeep : limit ≤ l.depth + (n + 1))
    (hskip : ∀ docs, Moves x (x.claiming l b.component k docs)
      { x.claiming l b.component k docs with queue }) :
    FollowsFrom x limit l (Resolver.buildBinding .standard r b) s fun _ t =>
      k ∈ t.ledger.built ∧
        t.ledger.queue.length + l.registry.size ≤ queue.length + t.ledger.registry.size := by
  obtain rfl := hr.context
  have hunbuilt : k ∉ s.ledger.built := by rwa [hs]
  have hidle : b.component ∉ s.ledger.building := by rwa [hs]
  have hmodel : s.ledger.model = l.model := by rw [hs]
  cases hdocs : r.docs? b.component (s.ledger.model.classInfo k) with
  | none =>
    obtain ⟨after, hrun⟩ := Resolver.runFrom_buildBinding_endless hclass hunbuilt hidle hdocs
    exact .error hrun .refl (.undocumented bound (Context.documentation?_of_docs? hdocs))
  | some docs =>
    obtain ⟨inside, hinside, hrun⟩ :=
      Resolver.runFrom_buildBinding_claimed hr.keeping hclass hunbuilt hidle hdocs
    rw [hmodel] at hdocs
    -- the class is claimed, and its binding may leave the queue
    have hclaim : Move r.toContext l (r.claiming l b.component k docs) :=
      .claim alone extended bound unbuilt idle hdocs
    rw [show r.claiming s.ledger b.component k docs =
      { r.claiming l b.component k docs with queue } by rw [hs]; rfl] at hinside
    have hmoves : Moves r.toContext l inside.ledger := by
      rw [hinside]
      exact .head hclaim (hskip docs)
    have hsize : k.index < l.model.classes.size := (hl.housed k).2 ⟨_, bound⟩
    have hprepared : inside.ledger.model.classInfo k =
        r.prepared b.component docs (l.model.classInfo k) := by
      rw [hinside]
      exact Model.classInfo_modifyClass_self hsize _
    obtain ⟨hbase, hproperties⟩ :=
      Context.base_properties_prepared (hl.written.blank k hsize unbuilt) docs
    have hplace := inside_claimed hl hinside hmoves alone hdeep
    have hbody := follows_finishing hr hplace (by rw [hprepared, hbase])
      (by rw [hprepared, hproperties])
    rcases hresult : (r.standardBody b.component k).runFrom inside with ⟨e | _, t⟩
    · obtain ⟨m, hmoves', hstuck⟩ := hbody.of_error hresult
      obtain ⟨after, hafter, -⟩ := hrun _ t hresult
      exact .error hafter (hmoves.trans hmoves') hstuck
    · obtain ⟨hmoves', hfinish, hbuilt⟩ := hbody.of_ok hresult
      obtain ⟨after, hafter, hledger⟩ := hrun _ t hresult
      have hlater := hmoves'.tail hfinish
      rw [← hledger rfl] at hlater
      refine .ok hafter (hmoves.trans hlater) ⟨?_, ?_⟩
      · rw [hledger rfl]
        exact hbuilt
      · have hwaiting := Ledger.waiting_moves hlater
        rw [hinside] at hwaiting
        exact hwaiting

/-- A body is **built** that is the next in the queue, or that the latest body extends. -/
theorem followsFrom_buildBinding (hr : r.Sound x limit n) (hl : Reachable x l)
    (hs : s.ledger = { l with queue }) (hqueue : queue = l.queue ∨ l.queue = b :: queue)
    (alone : l.proposing = [])
    (extended : ∀ a ∈ l.building.head?, x.schema.extended? a = some b.component)
    (bound : l.target? b.component = some b.target) (idle : b.component ∉ l.building)
    (hdeep : limit ≤ l.depth + (n + 1)) :
    FollowsFrom x limit l (Resolver.buildBinding .standard r b) s fun _ t =>
      (∀ k, b.classId? = some k → k ∈ t.ledger.built) ∧
        t.ledger.queue.length + l.registry.size ≤ queue.length + t.ledger.registry.size := by
  -- once its class is built, the binding may leave the queue
  have hskip (l' : Ledger) (hl' : l'.queue = l.queue)
      (hbuilt : ∀ k, b.classId? = some k → k ∈ l'.built) : Moves x l' { l' with queue } := by
    rcases hqueue with rfl | hqueue
    · rw [← hl']
    · exact .single (.skip (hl'.trans hqueue) hbuilt)
  by_cases hbuilt : ∀ k, b.classId? = some k → k ∈ l.built
  · -- the class was begun before, so nothing is done for the binding
    have hrun : (Resolver.buildBinding .standard r b).runFrom s = (.ok (), s) := by
      rw [Resolver.runFrom_buildBinding]
      cases hclass : b.classId? with
      | none => rfl
      | some k =>
        have hk : k ∈ s.ledger.built := by
          rw [hs]
          exact hbuilt k hclass
        exact if_pos hk
    refine .ok hrun ?_ ?_
    · rw [hs]
      exact hskip l rfl hbuilt
    · rw [hs]
      exact ⟨hbuilt, le_rfl⟩
  · obtain ⟨k, hk⟩ := not_forall.1 hbuilt
    obtain ⟨hclass, hunbuilt⟩ := Classical.not_imp.1 hk
    rw [TypeRef.eq_classRef hclass] at bound
    have honly (j : ClassId) (hj : b.classId? = some j) : j = k := by
      rw [hclass] at hj
      exact (Option.some.inj hj).symm
    refine (followsFrom_claimed hr hl hs hclass hunbuilt alone extended bound idle hdeep
      fun docs => hskip _ rfl fun j hj => ?_).imp fun _ t _ _ ⟨hk, hwaiting⟩ =>
        ⟨fun j hj => honly j hj ▸ hk, hwaiting⟩
    rw [honly j hj]
    exact List.mem_cons_self

end Building

/-! ## Answers -/

/-- A **question** is answered by the binding of the component. -/
theorem follows_resolveWith (hr : r.Sound x limit n) {immediately : Bool}
    (hs : s.Ready x limit (n + 1) c) (hurgent : immediately = true → s.Urgent x c) :
    Follows x limit (Resolver.resolveWith .standard r c immediately) s
      (Resolver.Reply x s c immediately) := by
  have hkeeping := Resolver.keeping_bindingFor hr.keeping Strategy.keeping_standard c
  unfold Resolver.resolveWith
  refine (follows_bindingFor hr hs).bind fun found t hrun hmoves hbound => ?_
  obtain ⟨htarget, hcomponent, hnone⟩ := hbound
  have hkeeps : s.Keeps none t := hkeeping.of_run hrun
  have ht := hs.reachable.moves hmoves
  cases found with
  | none =>
    refine .pure ⟨htarget, fun _ => hnone rfl, fun _ => ⟨?_, by simp⟩⟩
    -- a body under construction would be bound
    intro hactive
    rw [← hkeeps.ledger_building] at hactive
    obtain ⟨k, hk, -⟩ := ht.building.active c hactive
    rw [htarget] at hk
    cases hk
  | some b =>
    obtain rfl : b.component = c := hcomponent b rfl
    dsimp only
    cases immediately with
    | false => exact .pure ⟨htarget, by simp, by simp⟩
    | true =>
      obtain ⟨halone, hextended⟩ := hurgent rfl
      rw [← hkeeps.ledger_proposing] at halone
      rw [← hkeeps.ledger_building] at hextended
      rw [if_pos rfl]
      refine .of_reading ?_
      split
      · rename_i hactive
        -- the body is under construction, and others that lead back to it inside of it
        have hactive : b.component ∈ t.ledger.building := CycleDetector.isActive_iff.1 hactive
        exact .error rfl .refl (.extending halone hextended hactive)
      · rename_i hidle
        have hidle : b.component ∉ t.ledger.building :=
          fun h => hidle (CycleDetector.isActive_iff.2 h)
        have hdeep : limit ≤ t.ledger.depth + (n + 1) := by
          rw [hkeeps.ledger_depth]
          exact hs.deep
        have hbuild := followsFrom_buildBinding hr ht rfl (.inl rfl) halone hextended htarget hidle
          hdeep
        refine hbuild.bind fun _ u hrun' hmoves' hbuilding => .pure ?_
        obtain ⟨hbuilt, -⟩ := hbuilding
        refine ⟨ht.target?_moves hmoves' htarget, by simp, fun _ => ⟨?_, ?_⟩⟩
        · rwa [← hkeeps.ledger_building]
        · intro k hk
          refine hbuilt k ?_
          unfold Binding.classId?
          rw [Option.some.inj hk]
          rfl

end Resolving

/-- The **standard** resolvers are sound, for as many questions inside each other as they allow. -/
theorem Resolver.sound_within (x : Context) (limit n : Nat) :
    (Resolver.within x .standard n).Sound x limit n := by
  induction n with
  | zero =>
    refine ⟨rfl, Resolver.keeping_within x Strategy.keeping_standard 0, ?_⟩
    intro c immediately s hs _
    exact .error rfl .refl (.deep hs.deep)
  | succ n ih =>
    refine ⟨rfl, Resolver.keeping_within x Strategy.keeping_standard (n + 1), ?_⟩
    intro c immediately s hs hurgent
    exact Resolving.follows_resolveWith ih hs hurgent

end SchemaBinding
