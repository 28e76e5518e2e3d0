import SchemaBinding.Proofs.Following.Basic

/-! # Proposals as moves
A resolver is **sound** when its answers follow the moves, for as many questions inside each other
as it has steps. Asking a sound resolver, the standard proposals conclude as the moves allow. -/

namespace SchemaBinding

open Resolver (State)

variable {α β : Type} {x : Context} {limit n : Nat} {r : Resolver} {s t : State}
  {c e : ComponentId}

/-! ## Sound resolvers -/

/-- A component may be **asked** for in a state, with so many more questions inside. -/
structure Resolver.State.Ready (x : Context) (limit n : Nat) (s : State) (c : ComponentId) :
    Prop where
  reachable : Reachable x s.ledger
  asked : ∀ p ∈ s.ledger.proposing.head?, x.schema.asked? p = some c
  deep : limit ≤ s.ledger.depth + n

/-- A component may be asked for **immediately**: the latest body extends it. -/
structure Resolver.State.Urgent (x : Context) (s : State) (c : ComponentId) : Prop where
  alone : s.ledger.proposing = []
  extended : ∀ a ∈ s.ledger.building.head?, x.schema.extended? a = some c

/-- A **reply** to a question is the binding of the component. -/
structure Resolver.Reply (x : Context) (s : State) (c : ComponentId) (immediately : Bool)
    (answer : Option TypeRef) (t : State) : Prop where
  target : t.ledger.target? c = answer
  bindable : answer = none → x.schema.isBindable c = false
  /-- What was wanted immediately is not under construction any more. -/
  built : immediately = true → c ∉ s.ledger.building ∧
    ∀ k, answer = some (.classRef k) → k ∈ t.ledger.built

/-- The component of a reply is answered for. -/
theorem Resolver.Reply.answered {immediately : Bool} {answer : Option TypeRef}
    (h : Resolver.Reply x s c immediately answer t) : x.Answered t.ledger c :=
  fun hnone => h.bindable (h.target.symm.trans hnone)

/-- A **sound** resolver follows the moves. -/
structure Resolver.Sound (x : Context) (limit n : Nat) (r : Resolver) : Prop where
  context : r.toContext = x
  keeping : r.Keeping
  answers : ∀ c immediately s, s.Ready x limit n c → (immediately = true → s.Urgent x c) →
    Resolving.Follows x limit (r.resolve c immediately) s (Resolver.Reply x s c immediately)

/-- An element is its own **namesake**, and not abstract as a type. -/
theorem SchemaSet.namesake_of_isElement {set : SchemaSet} (h : (set.component c).isElement = true) :
    set.namesake c = c ∧ set.isAbstractType c = false := by
  obtain ⟨decl, hkind⟩ := Component.isElement_iff.1 h
  simp [namesake, isAbstractType, Component.isComplexType, Component.asComplexType, hkind]

namespace Ledger

@[simp] theorem marking_false (l : Ledger) (k : ClassId) : l.marking k false = l := by
  unfold marking
  simp only [Bool.or_false, Model.modifyClass_id]

/-- A class may become abstract as soon as it is allocated. -/
theorem marking_allocating (l : Ledger) (info : ClassInfo) (isAbstract : Bool) :
    (l.allocating info).marking ⟨l.model.classes.size⟩ isAbstract =
      l.allocating { info with isAbstract := info.isAbstract || isAbstract } := by
  unfold marking allocating
  dsimp only
  rw [Model.modifyClass_push]

end Ledger

namespace Resolving

/-! ## Questions -/

/-- An element is **known** by its binding, or by the wrapper that is being proposed for it. -/
def Known (x : Context) (e : ComponentId) (answer : Option TypeRef) (s : State) : Prop :=
  (s.ledger.target? e = answer ∧ x.Answered s.ledger e) ∨
    (∃ w, answer = some (.wrapper w)) ∧ e ∈ s.ledger.proposing

/-- A **sound** resolver tells what is known of an element. -/
theorem follows_isBound (hr : r.Sound x limit n) (hs : s.Ready x limit n e) :
    Follows x limit (r.isBound e) s fun a t => Known x e a t := by
  unfold Resolver.isBound
  refine .of_reading ?_
  have hwrapped := hs.reachable.wrapped
  cases hnote : s.elements.lookup e with
  | none =>
    -- nothing is noted, so the resolver is asked
    refine (hr.answers e false s hs (by simp)).imp fun a t _ _ hreply => ?_
    exact .inl ⟨hreply.target, hreply.answered⟩
  | some note =>
    refine .pure ?_
    cases note with
    | none =>
      obtain ⟨htarget, hunbindable⟩ := hs.reachable.target?_of_note hnote
      exact .inl ⟨htarget, fun _ => hunbindable⟩
    | some target =>
      -- the noted wrapper is bound, or its proposal is under way
      obtain ⟨-, hbound | hproposing, w, hw, -⟩ := hwrapped.noted e target hnote
      · refine .inl ⟨hbound, fun hnone => ?_⟩
        rw [hbound] at hnone
        cases hnone
      · exact .inr ⟨⟨w, by rw [hw]⟩, hproposing⟩

/-- A **sound** resolver tells the type of a source, outside of proposals for elements. -/
theorem follows_sourceType (hr : r.Sound x limit n) (source : TypeSource)
    (hreachable : Reachable x s.ledger) (hdeep : limit ≤ s.ledger.depth + n)
    (hasked : ∀ d ∈ source.component?, ∀ p ∈ s.ledger.proposing.head?, x.schema.asked? p = some d)
    (helement : ∀ d, source = .element d → s.ledger.proposing = []) :
    Follows x limit (r.sourceType source) s fun a t =>
      a = source.type t.registry ∧ ∀ d ∈ source.component?, x.Answered t.ledger d := by
  cases source with
  | known type => exact .pure ⟨rfl, fun d hd => by cases hd⟩
  | complexType d =>
    refine (hr.answers d false s ⟨hreachable, hasked d rfl, hdeep⟩ (by simp)).imp ?_
    intro a t _ _ hreply
    refine ⟨hreply.target.symm, fun d' hd' => ?_⟩
    obtain rfl : d = d' := by simpa [TypeSource.component?] using hd'
    exact hreply.answered
  | element d =>
    refine (follows_isBound hr ⟨hreachable, hasked d rfl, hdeep⟩).imp ?_
    intro a t hrun _ hknown
    have hkeeps : s.Keeps none t := (Resolver.keeping_isBound hr.keeping d).of_run hrun
    rcases hknown with ⟨htarget, hanswered⟩ | ⟨-, hproposing⟩
    · refine ⟨htarget.symm, fun d' hd' => ?_⟩
      obtain rfl : d = d' := by simpa [TypeSource.component?] using hd'
      exact hanswered
    · -- outside of proposals no element is known by its note alone
      rw [hkeeps.ledger_proposing, helement d rfl] at hproposing
      cases hproposing

/-! ## Concluding -/

/-- A step inside the bracket of a proposal **concludes** it, after moves from the ledger at which
the component was asked for; or it gets stuck. -/
def Concludes (x : Context) (limit : Nat) (c : ComponentId) (l : Ledger)
    (outcome : α → Option TypeRef) (step : Resolving α) (s : State) : Prop :=
  match step.runFrom s with
  | (.ok a, t) => ∃ m, Moves x l m ∧ m.proposing = s.ledger.proposing ∧
      Conclusion x c m (outcome a) t.ledger
  | (.error e, _) => ∃ m, Moves x l m ∧ Stuck x limit m e

namespace Concludes

variable {l : Ledger} {outcome : α → Option TypeRef} {outcome' : β → Option TypeRef}
  {step : Resolving α} {next : α → Resolving β}

/-- A step concludes by an answer that the moves so far account for. -/
theorem ok {a : α} {m : Ledger} (hrun : step.runFrom s = (.ok a, t)) (hmoves : Moves x l m)
    (hproposing : m.proposing = s.ledger.proposing)
    (hconclusion : Conclusion x c m (outcome a) t.ledger) :
    Concludes x limit c l outcome step s := by
  unfold Concludes
  rw [hrun]
  exact ⟨m, hmoves, hproposing, hconclusion⟩

/-- A step concludes by getting stuck where the moves have led. -/
theorem error {e : ResolveError} {m : Ledger} (hrun : step.runFrom s = (.error e, t))
    (hmoves : Moves x l m) (hstuck : Stuck x limit m e) :
    Concludes x limit c l outcome step s := by
  unfold Concludes
  rw [hrun]
  exact ⟨m, hmoves, hstuck⟩

/-- An answer of a concluding step concludes the proposal. -/
theorem of_ok (h : Concludes x limit c l outcome step s) {a : α}
    (hrun : step.runFrom s = (.ok a, t)) : ∃ m, Moves x l m ∧
      m.proposing = s.ledger.proposing ∧ Conclusion x c m (outcome a) t.ledger := by
  unfold Concludes at h
  rwa [hrun] at h

/-- An error of a concluding step means that the moves got stuck. -/
theorem of_error (h : Concludes x limit c l outcome step s) {e : ResolveError}
    (hrun : step.runFrom s = (.error e, t)) : ∃ m, Moves x l m ∧ Stuck x limit m e := by
  unfold Concludes at h
  rwa [hrun] at h

/-- A step that is known to succeed may come before. -/
theorem of_run {a : α} (hrun : step.runFrom s = (.ok a, t))
    (hproposing : t.ledger.proposing = s.ledger.proposing)
    (hnext : Concludes x limit c l outcome' (next a) t) :
    Concludes x limit c l outcome' (step >>= next) s := by
  rcases hrun' : (next a).runFrom t with ⟨e | b, u⟩
  · obtain ⟨m, hmoves, hstuck⟩ := hnext.of_error hrun'
    exact .error (runFrom_bind_error.2 (.inr ⟨a, t, hrun, hrun'⟩)) hmoves hstuck
  · obtain ⟨m, hmoves, hm, hconclusion⟩ := hnext.of_ok hrun'
    exact .ok (runFrom_bind_ok.2 ⟨a, t, hrun, hrun'⟩) hmoves (hm.trans hproposing) hconclusion

/-- Silent steps may come before. -/
theorem silent (h : Silent step)
    (hnext : ∀ a t, t.ledger = s.ledger → Concludes x limit c l outcome' (next a) t) :
    Concludes x limit c l outcome' (step >>= next) s := by
  obtain ⟨a, t, hrun, hledger⟩ := h s
  exact .of_run hrun (by rw [hledger]) (hnext a t hledger)

/-- Before it is concluded, a proposal asks. -/
theorem asking {answer : α → State → Prop} (hl : Moves x l s.ledger)
    (h : Follows x limit step s answer) (hkeeping : Keeping none step)
    (hnext : ∀ a t, Moves x s.ledger t.ledger → answer a t →
      Concludes x limit c l outcome' (next a) t) :
    Concludes x limit c l outcome' (step >>= next) s := by
  rcases hrun : step.runFrom s with ⟨e | a, t⟩
  · obtain ⟨m, hmoves, hstuck⟩ := h.of_error hrun
    exact .error (runFrom_bind_error.2 (.inl hrun)) (hl.trans hmoves) hstuck
  · obtain ⟨hmoves, hanswer⟩ := h.of_ok hrun
    exact .of_run hrun (hkeeping.of_run hrun).ledger_proposing (hnext a t hmoves hanswer)

/-- After it is concluded, a proposal may still be settled. -/
theorem settling (h : Concludes x limit c l outcome step s)
    (hnext : ∀ a t m, Conclusion x c m (outcome a) t.ledger →
      ∃ b u, (next a).runFrom t = (.ok b, u) ∧ Conclusion x c m (outcome' b) u.ledger) :
    Concludes x limit c l outcome' (step >>= next) s := by
  rcases hrun : step.runFrom s with ⟨e | a, t⟩
  · obtain ⟨m, hmoves, hstuck⟩ := h.of_error hrun
    exact .error (runFrom_bind_error.2 (.inl hrun)) hmoves hstuck
  · obtain ⟨m, hmoves, hm, hconclusion⟩ := h.of_ok hrun
    obtain ⟨b, u, hrun', hconclusion'⟩ := hnext a t m hconclusion
    exact .ok (runFrom_bind_ok.2 ⟨a, t, hrun, hrun'⟩) hmoves hm hconclusion'

/-- Rewriting the answer of a step leaves the conclusion alone. -/
theorem map {f : α → β} (h : Concludes x limit c l (fun a => outcome' (f a)) step s) :
    Concludes x limit c l outcome' (f <$> step) s := by
  rw [map_eq_pure_bind]
  exact h.settling fun a t m hconclusion => ⟨f a, t, rfl, hconclusion⟩

end Concludes

/-! ## Standard proposals -/

section Standard

variable {l : Ledger}

/-- A class is allocated under the name of a component. -/
theorem exists_allocateClass (r : Resolver) (named : ComponentId) (s : State) :
    ∃ scope t, (r.allocateClass named).runFrom s = (.ok ⟨s.ledger.model.classes.size⟩, t) ∧
      t.ledger = s.ledger.allocating { name := r.nameAfter named, scope } := by
  obtain ⟨scope, t, hrun, hledger⟩ := Silent.placement r (r.schema.component named).ns s
  refine ⟨scope, { t with model := (t.model.newClass (r.nameAfter named) scope).2 }, ?_, ?_⟩
  · rw [← hledger]
    exact runFrom_bind_ok.2 ⟨scope, t, hrun, rfl⟩
  · rw [← hledger]
    rfl

/-- A class is marked when its type is settled. -/
theorem exists_settleClass (type : ComplexType) (k : ClassId) (s : State) :
    ∃ t, (Resolver.settleClass type k).runFrom s = (.ok (some (.classRef k)), t) ∧
      t.ledger = s.ledger.marking k type.isAbstract := by
  unfold Resolver.settleClass
  cases type.isAbstract with
  | false => exact ⟨s, rfl, (Ledger.marking_false _ k).symm⟩
  | true =>
    refine ⟨_, rfl, ?_⟩
    unfold Ledger.marking
    simp only [Bool.or_true]
    rfl

/-- A class of its own concludes the proposal for an element. -/
theorem concludes_allocateClass (hcontext : r.toContext = x) (hl : Moves x l s.ledger)
    (hbindable : x.schema.isBindable c = true) (hplain : x.schema.isWrapped c = false)
    (helement : (x.schema.component c).isElement = true) :
    Concludes x limit c l (fun k => some (.classRef k)) (r.allocateClass c) s := by
  obtain rfl := hcontext
  obtain ⟨scope, t, hrun, hledger⟩ := exists_allocateClass r c s
  obtain ⟨hnamesake, hconcrete⟩ := SchemaSet.namesake_of_isElement helement
  have hfresh : Conclusion r.toContext c s.ledger _ (s.ledger.allocating (r.newClass c scope)) :=
    .fresh hbindable hplain
  unfold Context.newClass at hfresh
  rw [hnamesake, hconcrete] at hfresh
  exact .ok hrun hl rfl (hledger ▸ hfresh)

section ComplexType

variable {type : ComplexType} (hkind : (x.schema.component c).kind = .complexType type)

include hkind

/-- A complex type with a class of its own is named after its namesake, and abstract if the type
is. -/
theorem concludes_settledClass (hcontext : r.toContext = x) (hl : Moves x l s.ledger)
    {named : ComponentId} (hnamed : x.schema.namesake c = named) :
    Concludes x limit c l id (r.allocateClass named >>= Resolver.settleClass type) s := by
  obtain rfl := hcontext
  obtain rfl := hnamed
  have hcomplex := Component.isComplexType_iff.2 ⟨type, hkind⟩
  have habstract : r.schema.isAbstractType c = type.isAbstract := by
    simp [SchemaSet.isAbstractType, Component.asComplexType, hkind]
  obtain ⟨scope, t, hrun, hledger⟩ := exists_allocateClass r (r.schema.namesake c) s
  obtain ⟨u, hrun', hledger'⟩ := exists_settleClass type ⟨s.ledger.model.classes.size⟩ t
  have hfresh : Conclusion r.toContext c s.ledger _ (s.ledger.allocating (r.newClass c scope)) :=
    .fresh (SchemaSet.isBindable_of_isComplexType hcomplex)
      (SchemaSet.isWrapped_of_isComplexType hcomplex)
  have hmarked : u.ledger = s.ledger.allocating (r.newClass c scope) := by
    rw [hledger', hledger, Ledger.marking_allocating, Context.newClass, habstract]
    rfl
  exact .ok (runFrom_bind_ok.2 ⟨_, t, hrun, hrun'⟩) hl rfl (hmarked ▸ hfresh)

/-- A complex type is given the class of its element, or one of its own. -/
theorem concludes_complexType (hr : r.Sound x limit n) (hreachable : Reachable x s.ledger)
    (hdeep : limit ≤ s.ledger.depth + n) (htop : s.ledger.proposing.head? = some c)
    (hl : Moves x l s.ledger) : Concludes x limit c l id (r.proposeStandard c) s := by
  have hcomplex := Component.isComplexType_iff.2 ⟨type, hkind⟩
  obtain rfl := hr.context
  rw [r.proposeStandard_complexType hkind]
  unfold Resolver.proposeComplexType
  split
  · rename_i e hname helement
    -- an anonymous type asks for the element that declares it
    have hasked : r.schema.asked? c = some e := by
      simp [SchemaSet.asked?, hkind, hname, helement]
    have hready : s.Ready r.toContext limit n e := by
      refine ⟨hreachable, fun p hp => ?_, hdeep⟩
      rw [htop] at hp
      obtain rfl : c = p := by simpa using hp
      exact hasked
    rw [bind_assoc]
    refine .asking hl (follows_isBound hr hready) (Resolver.keeping_isBound hr.keeping e) ?_
    intro a t hmoves hknown
    split
    · rename_i k
      rcases hknown with ⟨htarget, -⟩ | ⟨⟨w, hw⟩, -⟩
      · -- the class of the element is shared, and becomes abstract if the type is
        obtain ⟨u, hrun, hledger⟩ := exists_settleClass type k t
        have hshared := Conclusion.shared hcomplex hasked htarget
        have habstract : r.schema.isAbstractType c = type.isAbstract := by
          simp [SchemaSet.isAbstractType, Component.asComplexType, hkind]
        rw [habstract, ← hledger] at hshared
        rw [pure_bind]
        exact .ok hrun (hl.trans hmoves) rfl hshared
      · cases hw
    · refine concludes_settledClass hkind rfl (hl.trans hmoves) ?_
      simp [SchemaSet.namesake, hcomplex, hasked]
  · rename_i hnot
    -- any other type asks for nothing
    have hnothing : r.schema.asked? c = none := by
      cases hname : (r.schema.component c).name with
      | some name => simp [SchemaSet.asked?, hkind, hname]
      | none =>
        cases helement : type.declaringElement with
        | some e => exact (hnot e hname helement).elim
        | none => simp [SchemaSet.asked?, hkind, helement]
    refine concludes_settledClass hkind rfl hl ?_
    simp [SchemaSet.namesake, hcomplex, hnothing]

end ComplexType

/-- A wrapped element is given the wrapper that was noted for it, once its content is known. -/
theorem concludes_allocateWrapper (hr : r.Sound x limit n) (hreachable : Reachable x l)
    (hasked : ∀ p ∈ l.proposing.head?, x.schema.asked? p = some c)
    (hunbound : l.registry.find? c = none) (hidle : c ∉ l.proposing)
    (hwrapped : x.schema.isWrapped c = true) (hledger : s.ledger = l.proposal c)
    (hdeep : limit ≤ s.ledger.depth + n) :
    Concludes x limit c l (fun w => some (.wrapper w)) (r.allocateWrapper c) s := by
  obtain rfl := hr.context
  rw [Resolver.allocateWrapper_eq]
  refine .silent (.placement r _) fun scope t ht => ?_
  rw [hledger] at ht hdeep
  -- the wrapper is noted, which is the move from outside
  have hwrap : Moves r.toContext l (t.wrapping (r.schema.component c) c scope).ledger := by
    rw [State.ledger_wrapping, ht]
    exact .single (.wrap hasked hunbound hidle hwrapped)
  have hlater := hreachable.moves hwrap
  have hproposing : (t.wrapping (r.schema.component c) c scope).ledger.proposing =
      c :: l.proposing := by
    rw [State.ledger_wrapping, ht]
    rfl
  have hnoted : (t.wrapping (r.schema.component c) c scope).ledger.notes.lookup c =
      some (some (.wrapper ⟨t.model.elements.size⟩)) :=
    (Ledger.lookup_noted _ c c _).trans (if_pos rfl)
  obtain ⟨type, htype⟩ := SchemaSet.exists_elementType? (SchemaSet.isElement_of_isWrapped hwrapped)
  have hsource : r.schema.contentSource c = r.schema.valueSource type := by
    simp [SchemaSet.contentSource, htype]
  refine .of_run (r.runFrom_noteWrapper c scope t) (by rw [hproposing, ht]; rfl) ?_
  unfold Resolver.fillWrapper
  rw [htype]
  dsimp only
  rw [Resolver.bindSchemaType_eq, bind_assoc]
  refine .asking hwrap (follows_sourceType hr _ hlater ?_ ?_ ?_)
    (Resolver.keeping_sourceType hr.keeping _) ?_
  · refine hdeep.trans (le_of_eq ?_)
    rw [State.ledger_wrapping, ht]
    rfl
  · intro d hd p hp
    rw [hproposing] at hp
    obtain rfl : c = p := by simpa using hp
    exact SchemaSet.asked?_of_isWrapped hwrapped htype hd
  · exact fun d hd => absurd hd (SchemaSet.valueSource_ne_element type d)
  · intro content u hmoves hcontent
    refine .ok (m := u.ledger) rfl (hwrap.trans hmoves) rfl ?_
    -- the content is known, and the note has survived the questions about it
    obtain ⟨rfl, hanswered⟩ := hcontent
    rw [← hsource] at hanswered ⊢
    exact .wrapped hwrapped (hlater.lookup_moves hmoves hnoted) hanswered

/-- A global element that is not abstract is given a wrapper or a class of its own. -/
theorem concludes_proposeGlobalElement (hr : r.Sound x limit n) (hreachable : Reachable x l)
    (hasked : ∀ p ∈ l.proposing.head?, x.schema.asked? p = some c)
    (hunbound : l.registry.find? c = none) (hidle : c ∉ l.proposing)
    (hbindable : x.schema.isBindable c = true)
    (helement : (x.schema.component c).isElement = true) (hledger : s.ledger = l.proposal c)
    (hdeep : limit ≤ s.ledger.depth + n) :
    Concludes x limit c l some (r.proposeGlobalElement c) s := by
  have hcontext := hr.context
  rw [r.proposeGlobalElement_eq (hcontext ▸ helement) (hcontext ▸ hbindable), hcontext]
  cases hwrapped : x.schema.isWrapped c with
  | true =>
    exact (concludes_allocateWrapper hr hreachable hasked hunbound hidle hwrapped hledger
      hdeep).map
  | false =>
    have hmove : Moves x l s.ledger := by
      rw [hledger]
      exact .single (.propose hasked hunbound hidle hwrapped)
    exact (concludes_allocateClass hcontext hmove hbindable hwrapped helement).map

/-- The **standard** proposals conclude as the moves allow. -/
theorem concludes_proposeStandard (hr : r.Sound x limit n) (hreachable : Reachable x l)
    (hasked : ∀ p ∈ l.proposing.head?, x.schema.asked? p = some c)
    (hunbound : l.registry.find? c = none) (hidle : c ∉ l.proposing)
    (hledger : s.ledger = l.proposal c) (hdeep : limit ≤ s.ledger.depth + n) :
    Concludes x limit c l id (r.proposeStandard c) s := by
  -- whatever is not wrapped is proposed by one move
  have hmove (hplain : x.schema.isWrapped c = false) : Moves x l s.ledger := by
    rw [hledger]
    exact .single (.propose hasked hunbound hidle hplain)
  have hunwrapped (hnot : x.schema.isBindable c = false) : x.schema.isWrapped c = false := by
    unfold SchemaSet.isWrapped
    simp [hnot]
  have hcontext := hr.context
  cases hkind : (x.schema.component c).kind with
  | complexType type =>
    have hcomplex := Component.isComplexType_iff.2 ⟨type, hkind⟩
    have hl := hmove (SchemaSet.isWrapped_of_isComplexType hcomplex)
    exact concludes_complexType hkind hr (hreachable.moves hl) hdeep (by rw [hledger]; rfl) hl
  | element decl =>
    have helement := Component.isElement_iff.2 ⟨decl, hkind⟩
    have hbindable : x.schema.isBindable c =
        ((x.schema.component c).isGlobal && !decl.isAbstract) := by
      unfold SchemaSet.isBindable
      rw [hkind]
    rw [r.proposeStandard_element (hcontext ▸ hkind), hcontext]
    by_cases habstract : decl.isAbstract
    · rw [if_pos habstract]
      have hnot : x.schema.isBindable c = false := by simp [hbindable, habstract]
      exact .ok rfl (hmove (hunwrapped hnot)) rfl (.declined hnot)
    · rw [if_neg habstract]
      by_cases hglobal : (x.schema.component c).isGlobal
      · rw [if_pos hglobal]
        have hyes : x.schema.isBindable c = true := by simp [hbindable, habstract, hglobal]
        refine .map ?_
        exact concludes_proposeGlobalElement hr hreachable hasked hunbound hidle hyes helement
          hledger hdeep
      · rw [if_neg hglobal]
        have hnot : x.schema.isBindable c = false := by simp [hbindable, hglobal]
        exact .of_run rfl rfl (.ok rfl (hmove (hunwrapped hnot)) rfl (.unbound hnot))
  | _ =>
    have hnot : x.schema.isBindable c = false := by simp [SchemaSet.isBindable, hkind]
    have helement : (r.schema.component c).isElement = false := by
      rw [hcontext]
      simp [Component.isElement, Component.asElement, hkind]
    have hcomplex : (r.schema.component c).isComplexType = false := by
      rw [hcontext]
      simp [Component.isComplexType, Component.asComplexType, hkind]
    rw [r.proposeStandard_other helement hcomplex]
    exact .ok rfl (hmove (hunwrapped hnot)) rfl (.declined hnot)

end Standard

end Resolving

end SchemaBinding
