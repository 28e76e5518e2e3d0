import SchemaBinding.Proofs.Failure
import SchemaBinding.Proofs.Moves.Titles
import SchemaBinding.Proofs.WellPlaced

/-! # Final states
When a run over a loaded set has come to its end, exactly what is needed and bindable is bound.
Each class was built for the one component that is bound to it, and lies inside the class of the one
component that encloses it. So whatever such a state says can be read off the schema set. -/

namespace SchemaBinding

open Resolver (State)

variable {x : Context} {declared : List ComponentId} {s : State} {a b c d id : ComponentId}
  {k j : ClassId} {w : ElementId} {target : TypeRef}

/-- What is enclosed stands **behind** the component that encloses it. -/
theorem SchemaSet.Loaded.index_lt_of_encloses {allowed : String → Prop} {set : SchemaSet}
    (h : set.Loaded allowed) (hencloses : set.Encloses d c) : d.index < c.index := by
  obtain @⟨e, id, type, body, ⟨type', p, htype, hp, rfl⟩, inner, declaring, -⟩ := hencloses
  have helement : p.term.index < c.index := ((h.fits c).declaring _ declaring).2.2
  -- the local element stands behind the complex type that contains it
  have hcontent : id.index < p.term.index := by
    refine ((h.fits id).content type' p htype hp).2.2.resolve_left ?_
    simp [inner]
  rcases SchemaSet.eq_or_declares_of_content body with rfl | ⟨-, -, hdeclares⟩
  · omega
  · have hbefore := ((h.fits id).declaring d hdeclares).2.2
    omega

namespace Resolver.State

/-- A state is **final** when a run over a loaded set has come to its end in it. -/
structure Final (x : Context) (declared : List ComponentId) (s : State) : Prop where
  loaded : x.schema.Loaded fun _ => True
  finished : s.ledger.Finished x declared
  placed : s.Placed x declared
  known : ∀ id ∈ declared, s.Known x id

namespace Final

/-! ## Bindings -/

/-- A class belongs to one component. -/
theorem eq_of_classRef (h : s.Final x declared) (ha : s.registry.target? a = some (.classRef k))
    (hb : s.registry.target? b = some (.classRef k)) : a = b :=
  h.placed.apart h.loaded h.finished.reachable ha hb

/-- A wrapper belongs to one element. -/
theorem eq_of_wrapper (h : s.Final x declared) (ha : s.registry.target? a = some (.wrapper w))
    (hb : s.registry.target? b = some (.wrapper w)) : a = b := by
  have hwrapped := h.finished.reachable.wrapped
  exact hwrapped.distinct a b w (hwrapped.bound a w ha) (hwrapped.bound b w hb)

/-- What is bound to a class is bound to one that the model has. -/
theorem index_lt_of_classRef (h : s.Final x declared)
    (hc : s.registry.target? c = some (.classRef k)) : k.index < s.model.classes.size :=
  (h.finished.reachable.housed k).2 ⟨c, hc⟩

/-- What is bound to a wrapper is bound to one that the model has. -/
theorem index_lt_of_wrapper (h : s.Final x declared)
    (hc : s.registry.target? c = some (.wrapper w)) : w.index < s.model.elements.size := by
  have hwrapped := h.finished.reachable.wrapped
  exact hwrapped.index_lt (hwrapped.bound c w hc)

/-- Only the universal type is bound to a leaf. -/
theorem eq_anyType_of_leaf (h : s.Final x declared) {leaf : Leaf}
    (hc : s.registry.target? c = some (.leaf leaf)) :
    c = SchemaSet.anyType ∧ leaf = .anyType := by
  have hany : c = SchemaSet.anyType := by
    by_contra hproper
    exact (h.placed.seated c _ hc hproper).suits
  subst hany
  rw [h.placed.anyType] at hc
  exact ⟨rfl, by simpa using hc.symm⟩

/-- The body of a class was built for the component that is bound to it. -/
theorem marks_of_classRef (h : s.Final x declared)
    (hc : s.registry.target? c = some (.classRef k)) :
    s.ledger.marks k = [.done c k, .begun c k] := by
  obtain ⟨d, hd, hmarks⟩ :=
    h.finished.exists_marks (h.finished.mem_built (h.index_lt_of_classRef hc))
  rwa [h.eq_of_classRef hc hd]

/-- In a final state, the body of every class that something is bound to was begun. -/
theorem begun (h : s.Final x declared) (hc : s.registry.target? c = some (.classRef k)) :
    Mark.begun c k ∈ s.ledger.log := by
  have hmark : Mark.begun c k ∈ s.ledger.marks k := by simp [h.marks_of_classRef hc]
  exact (Ledger.mem_marks.1 hmark).1

/-- In a final state, the body of every class that something is bound to is done. -/
theorem done (h : s.Final x declared) (hc : s.registry.target? c = some (.classRef k)) :
    Mark.done c k ∈ s.ledger.log := by
  have hmark : Mark.done c k ∈ s.ledger.marks k := by simp [h.marks_of_classRef hc]
  exact (Ledger.mem_marks.1 hmark).1

/-- The class of a component is **complete** for it. -/
theorem complete (h : s.Final x declared) (hc : s.registry.target? c = some (.classRef k)) :
    x.Complete s.ledger c k :=
  h.finished.reachable.written.complete c k (h.done hc)

/-- A bindable component that is answered is bound to a type that suits it. -/
theorem exists_suits_of_answered (h : s.Final x declared) (hanswered : x.Answered s.ledger c)
    (hbindable : x.schema.isBindable c = true) (hproper : c ≠ SchemaSet.anyType) :
    ∃ target, s.registry.target? c = some target ∧ x.schema.Suits c target := by
  cases hc : s.registry.target? c with
  | some target => exact ⟨target, rfl, (h.placed.seated c target hc hproper).suits⟩
  | none =>
    rw [hanswered hc] at hbindable
    cases hbindable

/-- Wrapped elements are other components than the universal type. -/
theorem ne_anyType_of_isWrapped (h : s.Final x declared) (hc : x.schema.isWrapped c = true) :
    c ≠ SchemaSet.anyType := by
  rintro rfl
  have helement := SchemaSet.isElement_of_isWrapped hc
  rw [h.loaded.stays_anyType.isElement] at helement
  cases helement

/-- Everything that is needed has been **answered**. -/
theorem answered (h : s.Final x declared) (hneeded : x.Needed declared c) :
    x.Answered s.ledger c := by
  induction hneeded with
  | declared declared => exact h.finished.answered _ declared
  | @wrapped e c _ wrapped content ih =>
    obtain ⟨target, he, hsuits⟩ := h.exists_suits_of_answered ih
      (SchemaSet.isBindable_of_isWrapped wrapped) (h.ne_anyType_of_isWrapped wrapped)
    cases target with
    | wrapper w => exact (h.finished.reachable.filled e w he).2 c content
    | classRef k =>
      have hplain : x.schema.isWrapped e = false := hsuits
      rw [hplain] at wrapped
      cases wrapped
    | leaf => exact hsuits.elim
  | @referenced c d _ bindable plain proper referenced ih =>
    obtain ⟨target, hc, hsuits⟩ := h.exists_suits_of_answered ih bindable proper
    cases target with
    | classRef k => exact (h.complete hc).answered d referenced
    | wrapper w =>
      have hwrapped : x.schema.isWrapped c = true := hsuits
      rw [plain] at hwrapped
      cases hwrapped
    | leaf => exact hsuits.elim

/-- What is needed and bindable is **bound** to a type that suits it. -/
theorem exists_suits (h : s.Final x declared) (hneeded : x.Needed declared c)
    (hbindable : x.schema.isBindable c = true) (hproper : c ≠ SchemaSet.anyType) :
    ∃ target, s.registry.target? c = some target ∧ x.schema.Suits c target :=
  h.exists_suits_of_answered (h.answered hneeded) hbindable hproper

/-- What is needed and bindable has a **class**, unless it is wrapped. -/
theorem exists_classRef (h : s.Final x declared) (hneeded : x.Needed declared c)
    (hbindable : x.schema.isBindable c = true) (hplain : x.schema.isWrapped c = false)
    (hproper : c ≠ SchemaSet.anyType) : ∃ k, s.registry.target? c = some (.classRef k) := by
  obtain ⟨target, hc, hsuits⟩ := h.exists_suits hneeded hbindable hproper
  cases target with
  | classRef k => exact ⟨k, hc⟩
  | wrapper w =>
    have hwrapped : x.schema.isWrapped c = true := hsuits
    rw [hplain] at hwrapped
    cases hwrapped
  | leaf => exact hsuits.elim

/-- A needed element that is wrapped has a **wrapper**. -/
theorem exists_wrapper (h : s.Final x declared) (hneeded : x.Needed declared c)
    (hwrapped : x.schema.isWrapped c = true) : ∃ w, s.registry.target? c = some (.wrapper w) := by
  obtain ⟨target, hc, hsuits⟩ := h.exists_suits hneeded
    (SchemaSet.isBindable_of_isWrapped hwrapped) (h.ne_anyType_of_isWrapped hwrapped)
  cases target with
  | wrapper w => exact ⟨w, hc⟩
  | classRef k =>
    have hplain : x.schema.isWrapped c = false := hsuits
    rw [hplain] at hwrapped
    cases hwrapped
  | leaf => exact hsuits.elim

/-- The package of everything that is needed is **known**. -/
theorem known_of_needed (h : s.Final x declared) (hneeded : x.Needed declared c) :
    s.Known x c := by
  by_cases hany : c = SchemaSet.anyType
  · exact fun _ hproper => absurd hany hproper
  cases hbindable : x.schema.isBindable c with
  | true =>
    obtain ⟨target, hc, -⟩ := h.exists_suits hneeded hbindable hany
    exact h.placed.known hc
  | false =>
    cases hneeded with
    | declared declared => exact h.known c declared
    | @wrapped e _ _ wrapped content =>
      -- the type of the values is complex, so it is bindable
      obtain ⟨type, htype⟩ :=
        SchemaSet.exists_elementType? (SchemaSet.isElement_of_isWrapped wrapped)
      rw [SchemaSet.contentSource, htype] at content
      have hcomplex := (SchemaSet.Loaded.mem_valueSource content).2
      rw [SchemaSet.isBindable_of_isComplexType hcomplex] at hbindable
      cases hbindable
    | @referenced d _ needed bindable plain proper referenced =>
      obtain ⟨k, hd⟩ := h.exists_classRef needed bindable plain proper
      exact h.placed.told d k (h.done hd) c referenced

/-! ## Classes and wrappers -/

/-- A class is named after the component that is bound to it. -/
theorem name_of_classRef (h : s.Final x declared)
    (hc : s.registry.target? c = some (.classRef k)) :
    (s.model.classInfo k).name = x.nameAfter (x.schema.namesake c) := by
  obtain ⟨d, hd, hname⟩ := h.finished.reachable.titled.named k (h.index_lt_of_classRef hc)
  rw [h.eq_of_classRef hc hd]
  exact hname

/-- A class is abstract when its component is an abstract type. -/
theorem isAbstract_of_classRef (h : s.Final x declared)
    (hc : s.registry.target? c = some (.classRef k)) :
    (s.model.classInfo k).isAbstract = x.schema.isAbstractType c := by
  have hk := h.index_lt_of_classRef hc
  refine Bool.eq_iff_iff.2 ((h.finished.reachable.titled.marked k hk).trans ⟨?_, fun hc' => ?_⟩)
  · rintro ⟨d, hd, habstract⟩
    rwa [h.eq_of_classRef hc hd]
  · exact ⟨c, hc, hc'⟩

/-- A class is prepared for the component that is bound to it. -/
theorem preparedFor_of_classRef (h : s.Final x declared)
    (hc : s.registry.target? c = some (.classRef k)) :
    x.PreparedFor c (s.model.classInfo k) :=
  h.finished.reachable.titled.prepared c k (h.begun hc)

/-- A wrapper has the name of its element. -/
theorem name_of_wrapper (h : s.Final x declared)
    (hc : s.registry.target? c = some (.wrapper w)) :
    (s.model.elementInfo w).name = (x.schema.component c).nameOrEmpty ∧
      (s.model.elementInfo w).ns = (x.schema.component c).ns :=
  h.finished.reachable.titled.wrapped c w (h.finished.reachable.wrapped.bound c w hc)

/-! ## Positions -/

/-- Packages have different names. -/
theorem eq_of_package (h : s.Final x declared) {p q : PackageId} {name : String}
    (hp : s.model.packages[p.index]? = some name) (hq : s.model.packages[q.index]? = some name) :
    p = q := by
  rw [← Array.getElem?_toList] at hp hq
  have hlt := (List.getElem?_eq_some_iff.1 hp).1
  have hsame := (List.getElem?_inj hlt h.placed.packaged.nodup).1 (hp.trans hq.symm)
  exact congrArg PackageId.mk hsame

/-- One bound component at most **encloses** another. -/
theorem eq_of_encloses (h : s.Final x declared) (ha : x.schema.Encloses a c)
    (hb : x.schema.Encloses b c) (hak : s.registry.target? a = some (.classRef k))
    (hbj : s.registry.target? b = some (.classRef j)) : a = b := by
  obtain @⟨e, id, type, body, contained, inner, declaring, -⟩ := ha
  obtain @⟨e', id', type', body', contained', -, declaring', -⟩ := hb
  obtain rfl : e = e' := Option.some.inj (declaring.symm.trans declaring')
  obtain rfl : id = id' := h.loaded.owned e id id' inner contained contained'
  exact h.placed.eq_of_carries h.loaded (h.placed.carries hak body) (h.placed.carries hbj body')
    hak hbj

/-! ## Extensions -/

/-- Nothing that is needed **extends itself** through others. -/
theorem not_extends (h : s.Final x declared) (hneeded : x.Needed declared c) :
    ¬ Relation.TransGen (fun a b => x.schema.extended? a = some b) c c := by
  intro hcycle
  have hcomplex {b : ComponentId}
      (hb : Relation.TransGen (fun a b => x.schema.extended? a = some b) c b) :
      (x.schema.component b).isComplexType = true := by
    obtain ⟨_, -, hlast⟩ := Relation.TransGen.tail'_iff.1 hb
    exact (SchemaSet.extended?_cases hlast).1
  -- each complex type on the way is needed, so it has a class that was built for it
  have hstep {a b : ComponentId} (ha : x.Needed declared a ∧ a ≠ SchemaSet.anyType ∧
      (x.schema.component a).isComplexType = true) (hb : x.schema.extended? a = some b) :
      Ledger.Extends x s.ledger a b ∧ x.Needed declared b ∧ b ≠ SchemaSet.anyType := by
    obtain ⟨hneeded, hproper, hcomplex⟩ := ha
    have hbindable := SchemaSet.isBindable_of_isComplexType hcomplex
    have hplain := SchemaSet.isWrapped_of_isComplexType hcomplex
    obtain ⟨k, hk⟩ := h.exists_classRef hneeded hbindable hplain hproper
    refine ⟨⟨⟨k, h.begun hk⟩, hb⟩, .referenced hneeded hbindable hplain hproper ?_,
      (SchemaSet.hasBase_of_extended? hcomplex hb).2⟩
    exact List.mem_append_right _ (Option.mem_toList.2 hb)
  have hproper : c ≠ SchemaSet.anyType := by
    obtain ⟨a, hreach, hlast⟩ := Relation.TransGen.tail'_iff.1 hcycle
    refine (SchemaSet.hasBase_of_extended? ?_ hlast).2
    rcases Relation.reflTransGen_iff_eq_or_transGen.1 hreach with rfl | hreach
    · exact hcomplex hcycle
    · exact hcomplex hreach
  have hall {b : ComponentId}
      (hb : Relation.TransGen (fun a b => x.schema.extended? a = some b) c b) :
      Relation.TransGen (Ledger.Extends x s.ledger) c b ∧ x.Needed declared b ∧
        b ≠ SchemaSet.anyType := by
    induction hb with
    | single hb =>
      obtain ⟨hextends, hrest⟩ := hstep ⟨hneeded, hproper, hcomplex hcycle⟩ hb
      exact ⟨.single hextends, hrest⟩
    | tail ha hb ih =>
      obtain ⟨hextends, hrest⟩ := hstep ⟨ih.2.1, ih.2.2, hcomplex ha⟩ hb
      exact ⟨ih.1.tail hextends, hrest⟩
  exact h.finished.not_extends h.loaded (hall hcycle).1

end Final

end Resolver.State

namespace Compilation

variable {c : Compilation}

/-- A standard run over a loaded set that comes to its end leaves a **final** state. -/
theorem final_of_run (hstandard : c.strategy = .standard)
    (hset : c.schema.Loaded fun _ => True) (hrun : c.run = (.ok (), s)) :
    s.Final c.context c.declarations := by
  obtain ⟨hplaced, hknown⟩ := placed_of_run hstandard hset hrun
  exact ⟨hset, finished_of_run hstandard hrun, hplaced, hknown⟩

end Compilation

end SchemaBinding
