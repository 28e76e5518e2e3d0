import SchemaBinding.Proofs.Reordering.Indexed
import SchemaBinding.Proofs.Schema.Loading

/-! # Building at other positions
The same steps of building may be run from two sets, on components at other positions. As long as
references mean the same in both sets, the second run **mirrors** the first one: both fail, or both
leave the same components behind, up to the positions. All that the steps are not about is spared.
-/

namespace SchemaBinding

variable {α β ε : Type}

namespace SchemaSet

variable {inner : ComponentId → Prop} {base set : SchemaSet} {c : Component} {id : ComponentId}

/-! ## Spared components -/

/-- A set **spares** what stood in an earlier one when it differs from it in certain components
only, and when the same declarations and packages are found in it. -/
structure Spares (inner : ComponentId → Prop) (base set : SchemaSet) : Prop where
  indexed : set.Indexed
  size : base.size ≤ set.size
  kept : ∀ c, ¬ inner c → set.component c = base.component c
  found : ∀ ns name wantType,
    set.findGlobal? ns name wantType = base.findGlobal? ns name wantType
  package : ∀ ns, (set.schema? ns).bind Schema.package = (base.schema? ns).bind Schema.package

namespace Spares

/-- A set to which nothing was done spares everything. -/
theorem refl (h : base.Indexed) : Spares inner base base :=
  ⟨h, Nat.le_refl _, fun _ _ => rfl, fun _ _ _ => rfl, fun _ => rfl⟩

/-- A local component may be added. -/
theorem insert (h : Spares inner base set) (hlocal : c.isGlobal = false)
    (hnew : inner ⟨set.size⟩) : Spares inner base (set.insert c).2 where
  indexed := h.indexed.insert c
  size := by
    rw [size_insert]
    exact Nat.le_succ_of_le h.size
  kept k hk := by
    rw [component_insert, if_neg]
    · exact h.kept k hk
    · rintro rfl
      exact hk hnew
  found ns name wantType := by
    rw [h.indexed.findGlobal?_insert hlocal]
    exact h.found ns name wantType
  package ns := (package_insert set c ns).trans (h.package ns)

/-- A component that is not spared may be changed, as long as it is found as before. -/
theorem modifyComponent (h : Spares inner base set) (hid : inner id)
    {change : Component → Component}
    (hheading : (change (set.component id)).heading = (set.component id).heading) :
    Spares inner base (set.modifyComponent id change) where
  indexed := h.indexed.modifyComponent (congrArg Heading.isGlobal hheading)
    (congrArg Heading.ns hheading)
  size := by
    rw [size_modifyComponent]
    exact h.size
  kept k hk := by
    rw [component_modifyComponent, if_neg]
    · exact h.kept k hk
    · rintro ⟨rfl, -⟩
      exact hk hid
  found ns name wantType := by
    rw [h.indexed.findGlobal?_modifyComponent hheading]
    exact h.found ns name wantType
  package := h.package

end Spares

end SchemaSet

/-! ## Mirrors -/

/-- A **mirror** between two sets: where components of the first one stand in the second one, and
which components steps may be about. References mean the same in both sets. -/
structure Mirror where
  base : SchemaSet
  image : SchemaSet
  place : ComponentId → ComponentId
  inner : ComponentId → Prop
  injective : place.Injective
  fresh : ∀ c : ComponentId, base.size ≤ c.index → inner c
  builtin : ∀ name id, SchemaSet.builtin? name = some id → place id = id
  found : ∀ ns name wantType,
    image.findGlobal? ns name wantType = (base.findGlobal? ns name wantType).map place

namespace Mirror

variable {M : Mirror} {set set' : SchemaSet} {c id owner term : ComponentId}

/-- Two sets **mirror** each other when they have the same components that steps are about, at their
places, and spare all others. -/
structure Mirrors (M : Mirror) (set set' : SchemaSet) : Prop where
  spares : SchemaSet.Spares M.inner M.base set
  spares' : SchemaSet.Spares (fun c => ∃ d, M.inner d ∧ M.place d = c) M.image set'
  size : ∀ i, M.place ⟨set.size + i⟩ = ⟨set'.size + i⟩
  component : ∀ c, M.inner c → set'.component (M.place c) = (set.component c).rename M.place

namespace Mirrors

/-- A component of the one set stands at the end exactly when its place is the end of the other. -/
theorem place_eq_iff (h : M.Mirrors set set') : M.place c = ⟨set'.size⟩ ↔ c = ⟨set.size⟩ := by
  have hend : M.place ⟨set.size⟩ = ⟨set'.size⟩ := h.size 0
  rw [← hend]
  exact M.injective.eq_iff

/-- A component exists in the one set exactly when it does in the other. -/
theorem index_lt_iff (h : M.Mirrors set set') (hc : M.inner c) :
    (M.place c).index < set'.size ↔ c.index < set.size := by
  have hbeyond (i : Nat) : (M.place ⟨set.size + i⟩).index = set'.size + i := by
    rw [h.size i]
  constructor
  · intro hlt
    by_contra hnot
    obtain ⟨i, hi⟩ := Nat.exists_eq_add_of_le (Nat.not_lt.1 hnot)
    obtain rfl : c = ⟨set.size + i⟩ := by
      cases c
      exact congrArg ComponentId.mk hi
    rw [hbeyond i] at hlt
    omega
  · intro hlt
    by_contra hnot
    obtain ⟨i, hi⟩ := Nat.exists_eq_add_of_le (Nat.not_lt.1 hnot)
    have hplace : M.place c = M.place ⟨set.size + i⟩ := by
      rw [h.size i, ← hi]
    rw [M.injective hplace] at hlt
    dsimp only at hlt
    omega

/-- A step may be about whatever it adds. -/
theorem fresh (h : M.Mirrors set set') : M.inner ⟨set.size⟩ := M.fresh _ h.spares.size

/-- A local component may be added to both sets. -/
theorem insert (h : M.Mirrors set set') {c : Component} (hlocal : c.isGlobal = false) :
    M.Mirrors (set.insert c).2 (set'.insert (c.rename M.place)).2 where
  spares := h.spares.insert hlocal h.fresh
  spares' := h.spares'.insert hlocal ⟨_, h.fresh, h.size 0⟩
  size i := by
    rw [SchemaSet.size_insert, SchemaSet.size_insert, Nat.add_assoc, Nat.add_assoc]
    exact h.size (1 + i)
  component k hk := by
    rw [SchemaSet.component_insert, SchemaSet.component_insert]
    by_cases hend : k = ⟨set.size⟩
    · rw [if_pos hend, if_pos (h.place_eq_iff.2 hend)]
    · rw [if_neg hend, if_neg fun hplace => hend (h.place_eq_iff.1 hplace)]
      exact h.component k hk

/-- A component may be changed alike in both sets. -/
theorem modifyComponent (h : M.Mirrors set set') (hid : M.inner id)
    {change change' : Component → Component}
    (hchange : change' ((set.component id).rename M.place) =
      (change (set.component id)).rename M.place)
    (hheading : (change (set.component id)).heading = (set.component id).heading) :
    M.Mirrors (set.modifyComponent id change)
      (set'.modifyComponent (M.place id) change') where
  spares := h.spares.modifyComponent hid hheading
  spares' := by
    refine h.spares'.modifyComponent ⟨id, hid, rfl⟩ ?_
    rw [h.component id hid, hchange, Component.heading_rename, Component.heading_rename, hheading]
  size i := by
    rw [SchemaSet.size_modifyComponent, SchemaSet.size_modifyComponent]
    exact h.size i
  component k hk := by
    rw [SchemaSet.component_modifyComponent, SchemaSet.component_modifyComponent]
    by_cases hself : k = id ∧ k.index < set.size
    · rw [if_pos hself, if_pos ⟨congrArg _ hself.1, (h.index_lt_iff hk).2 hself.2⟩, hself.1,
        h.component id hid, hchange]
    · rw [if_neg hself, if_neg fun hplace =>
        hself ⟨M.injective hplace.1, (h.index_lt_iff hk).1 hplace.2⟩]
      exact h.component k hk

end Mirrors

/-! ## The judgement -/

/-- Outcomes are **alike** when both are failures, or both leave sets that mirror each other, with
answers that correspond. -/
inductive Alike (M : Mirror) (answer : α → α → Prop) :
    Except ε α × SchemaSet → Except ε α × SchemaSet → Prop
  | ok {a a' : α} {set set' : SchemaSet} (mirrors : M.Mirrors set set') (answers : answer a a') :
      Alike M answer (.ok a, set) (.ok a', set')
  | error {e e' : ε} {set set' : SchemaSet} : Alike M answer (.error e, set) (.error e', set')

/-- A step **mirrors** another one when it has like outcomes from sets that mirror each other. -/
def Mirroring (M : Mirror) (step step' : ExceptT ε (StateM SchemaSet) α)
    (answer : α → α → Prop) : Prop :=
  ∀ set set', M.Mirrors set set' → M.Alike answer (step.run.run set) (step'.run.run set')

namespace Mirroring

variable {step step' : ExceptT ε (StateM SchemaSet) α}
  {next next' : α → ExceptT ε (StateM SchemaSet) β} {answer : α → α → Prop}
  {answer' : β → β → Prop}

/-- To return corresponding answers is alike. -/
theorem pure {a a' : α} (h : answer a a') :
    M.Mirroring (Pure.pure a : ExceptT ε (StateM SchemaSet) α) (Pure.pure a') answer :=
  fun _ _ hset => .ok hset h

/-- To fail is alike, whatever the reasons. -/
theorem throw (e e' : ε) :
    M.Mirroring (MonadExcept.throw e : ExceptT ε (StateM SchemaSet) α) (MonadExcept.throw e')
      answer := fun _ _ _ => .error

/-- Steps in a row mirror each other if those that follow do for corresponding answers. -/
theorem bind (h : M.Mirroring step step' answer)
    (hnext : ∀ a a', answer a a' → M.Mirroring (next a) (next' a') answer') :
    M.Mirroring (step >>= next) (step' >>= next') answer' := by
  intro set set' hset
  have hstep := h set set' hset
  rw [SchemaSet.run_bind, SchemaSet.run_bind]
  generalize step.run.run set = r, step'.run.run set' = r' at hstep ⊢
  cases hstep with
  | ok mirrors answers => exact hnext _ _ answers _ _ mirrors
  | error => exact .error

/-- A value that is given at once. -/
theorem given {a a' : α} (h : M.Mirroring (next a) (next' a') answer') :
    M.Mirroring (Pure.pure a >>= next) (Pure.pure a' >>= next') answer' := by
  rw [pure_bind, pure_bind]
  exact h

/-- Nothing follows a failure. -/
theorem failed (e e' : ε) :
    M.Mirroring (MonadExcept.throw e >>= next) (MonadExcept.throw e' >>= next') answer' := by
  intro set set' _
  rw [SchemaSet.run_bind, SchemaSet.run_bind]
  exact .error

/-- Steps that look at the set first. -/
theorem reading {next next' : SchemaSet → ExceptT ε (StateM SchemaSet) β}
    (h : ∀ set set', M.Mirrors set set' →
      M.Alike answer' ((next set).run.run set) ((next' set').run.run set')) :
    M.Mirroring (MonadState.get >>= next) (MonadState.get >>= next') answer' := by
  intro set set' hset
  rw [SchemaSet.run_bind, SchemaSet.run_bind]
  exact h set set' hset

/-- Building steps are steps of loading. -/
theorem building {step step' : Builder α} (h : M.Mirroring step step' answer) :
    M.Mirroring (Loading.building step) (Loading.building step') answer := by
  intro set set' hset
  have hstep := h set set' hset
  rw [Loading.run_building_eq, Loading.run_building_eq]
  generalize step.run.run set = r, step'.run.run set' = r' at hstep ⊢
  cases hstep with
  | ok mirrors answers => exact .ok mirrors answers
  | error => exact .error

/-- What is done with a value that may be missing is done alike. -/
theorem whenSome {γ : Type} {value : Option γ} {step step' : γ → Loading Unit}
    (h : ∀ a, M.Mirroring (step a) (step' a) fun _ _ => True) :
    M.Mirroring (Loading.whenSome value step) (Loading.whenSome value step') fun _ _ => True := by
  cases value with
  | none => exact .pure trivial
  | some a => exact h a

/-- Steps that are taken under a condition, and what follows them in either case. -/
theorem optional {condition : Prop} [Decidable condition]
    {step step' : ExceptT ε (StateM SchemaSet) Unit}
    {next next' : Unit → ExceptT ε (StateM SchemaSet) β}
    (h : M.Mirroring step step' fun _ _ => True)
    (hnext : M.Mirroring (next ()) (next' ()) answer') :
    M.Mirroring (if condition then step >>= next else next ())
      (if condition then step' >>= next' else next' ()) answer' := by
  split
  · exact h.bind fun _ _ _ => hnext
  · exact hnext

end Mirroring

/-! ## Building steps -/

/-- Components **correspond** when one is at the place of the other, and steps may be about them. -/
def Corresponds (M : Mirror) (c c' : ComponentId) : Prop := M.inner c ∧ c' = M.place c

/-- A local component is inserted at corresponding places. -/
theorem mirroring_insert {c : Component} (hlocal : c.isGlobal = false) :
    M.Mirroring (Builder.insert c) (Builder.insert (c.rename M.place)) M.Corresponds :=
  fun _ _ hset => .ok (hset.insert hlocal) ⟨hset.fresh, (hset.size 0).symm⟩

/-- Components that correspond are found in both sets, or in neither, and what follows goes on with
them. -/
theorem mirroring_component_bind (hid : M.inner id) {next next' : Component → Builder β}
    {answer : β → β → Prop}
    (h : ∀ set set', M.Mirrors set set' → id.index < set.size →
      M.Alike answer ((next (set.component id)).run.run set)
        ((next' ((set.component id).rename M.place)).run.run set')) :
    M.Mirroring (Builder.component id >>= next) (Builder.component (M.place id) >>= next')
      answer := by
  intro set set' hset
  by_cases hlt : id.index < set.size
  · rw [SchemaSet.run_bind_of_ok (Builder.run_component hlt),
      SchemaSet.run_bind_of_ok (Builder.run_component ((hset.index_lt_iff hid).2 hlt)),
      hset.component id hid]
    exact h set set' hset hlt
  · have hlt' : ¬ (M.place id).index < set'.size := fun h => hlt ((hset.index_lt_iff hid).1 h)
    rw [SchemaSet.run_bind, SchemaSet.run_bind, Builder.run_component_of_le (Nat.not_lt.1 hlt),
      Builder.run_component_of_le (Nat.not_lt.1 hlt')]
    exact .error

/-- Components that correspond have the same namespace. -/
theorem mirroring_namespaceOf (hid : M.inner id) :
    M.Mirroring (Builder.namespaceOf id) (Builder.namespaceOf (M.place id)) (· = ·) :=
  mirroring_component_bind hid fun _ _ hset _ => .ok hset rfl

/-- A change that does not depend on positions. -/
theorem mirroring_change (hid : M.inner id) {change : Component → Component}
    (hchange : ∀ c, change (c.rename M.place) = (change c).rename M.place)
    (hheading : ∀ c, (change c).heading = c.heading) :
    M.Mirroring (Builder.change id change) (Builder.change (M.place id) change)
      fun _ _ => True :=
  mirroring_component_bind hid fun _ _ hset _ =>
    .ok (hset.modifyComponent hid (hchange _) (hheading _)) trivial

/-- A locator is set alike. -/
theorem mirroring_setLocator (hid : M.inner id) (locator : Locator) :
    M.Mirroring (Builder.setLocator id locator) (Builder.setLocator (M.place id) locator)
      fun _ _ => True :=
  mirroring_change hid (fun _ => rfl) fun _ => rfl

/-- A customization is made alike. -/
theorem mirroring_customize (hid : M.inner id) (f : Customization → Customization) :
    M.Mirroring (Builder.customize id f) (Builder.customize (M.place id) f) fun _ _ => True :=
  mirroring_change hid (fun _ => rfl) fun _ => rfl

/-- Changes of kinds are **alike** when they fail for the same kinds, and otherwise differ in the
positions only and leave the sort of a kind alone. -/
inductive AlikeKinds (M : Mirror) (kind : ComponentKind) :
    Except Misuse ComponentKind → Except Misuse ComponentKind → Prop
  | ok {k : ComponentKind}
      (heading : ∀ c : Component, c.kind = kind → ({ c with kind := k } : Component).heading =
        c.heading) : AlikeKinds M kind (.ok k) (.ok (k.rename M.place))
  | error {e e' : Misuse} : AlikeKinds M kind (.error e) (.error e')

/-- A change of a kind is made alike if it is for kinds at other positions. -/
theorem mirroring_changeKind (hid : M.inner id)
    {f f' : ComponentKind → Except Misuse ComponentKind}
    (h : ∀ kind, M.AlikeKinds kind (f kind) (f' (kind.rename M.place))) :
    M.Mirroring (Builder.changeKind id f) (Builder.changeKind (M.place id) f')
      fun _ _ => True := by
  refine mirroring_component_bind hid fun set set' hset hlt => ?_
  have hkind := h (set.component id).kind
  rw [Component.kind_rename]
  generalize f (set.component id).kind = k, f' ((set.component id).kind.rename M.place) = k'
    at hkind ⊢
  cases hkind with
  | error => exact .error
  | @ok k heading =>
    have hlt' := (hset.index_lt_iff hid).2 hlt
    show M.Alike _ ((Builder.change id fun c => { c with kind := k }).run.run set)
      ((Builder.change (M.place id) fun c => { c with kind := k.rename M.place }).run.run set')
    rw [Builder.run_change hlt, Builder.run_change hlt']
    exact .ok (hset.modifyComponent hid rfl (heading _ rfl)) trivial

/-- Kinds that differ in the positions only are alike. -/
theorem AlikeKinds.of_eq {kind k k' : ComponentKind} (hk : k' = k.rename M.place)
    (hheading : ∀ c : Component, c.kind = kind → ({ c with kind := k } : Component).heading =
      c.heading) : M.AlikeKinds kind (.ok k) (.ok k') := by
  rw [hk]
  exact .ok hheading

/-- An element stays one with another declaration. -/
theorem AlikeKinds.element {decl new new' : ElementDecl} (hnew : new' = new.rename M.place) :
    M.AlikeKinds (.element decl) (.ok (.element new)) (.ok (.element new')) := by
  refine .of_eq (congrArg _ hnew) fun c hc => ?_
  simp [Component.heading, Component.isElement, Component.asElement, Component.isGroup,
    Component.asGroup, hc]

/-- A complex type stays one with another description. -/
theorem AlikeKinds.complexType {type new new' : ComplexType} (hnew : new' = new.rename M.place) :
    M.AlikeKinds (.complexType type) (.ok (.complexType new)) (.ok (.complexType new')) := by
  refine .of_eq (congrArg _ hnew) fun c hc => ?_
  simp [Component.heading, Component.isElement, Component.asElement, Component.isGroup,
    Component.asGroup, hc]

/-- A simple type stays one with another description. -/
theorem AlikeKinds.simpleType {type new new' : SimpleType} (hnew : new' = new.rename M.place) :
    M.AlikeKinds (.simpleType type) (.ok (.simpleType new)) (.ok (.simpleType new')) := by
  refine .of_eq (congrArg _ hnew) fun c hc => ?_
  simp [Component.heading, Component.isElement, Component.asElement, Component.isGroup,
    Component.asGroup, hc]

/-- A model group stays one with other particles. -/
theorem AlikeKinds.group {g new new' : ModelGroup} (hnew : new' = new.rename M.place) :
    M.AlikeKinds (.group g) (.ok (.group new)) (.ok (.group new')) := by
  refine .of_eq (congrArg _ hnew) fun c hc => ?_
  simp [Component.heading, Component.isElement, Component.asElement, Component.isGroup,
    Component.asGroup, hc]

/-- An element is given a type alike. -/
theorem mirroring_setElementType (hid : M.inner id) (type : ComponentId) :
    M.Mirroring (Builder.setElementType id type)
      (Builder.setElementType (M.place id) (M.place type)) fun _ _ => True := by
  refine mirroring_changeKind hid fun kind => ?_
  cases kind with
  | element decl => exact .element rfl
  | _ => exact .error

/-- A simple type is given a base alike. -/
theorem mirroring_setSimpleBase (hid : M.inner id) (base : ComponentId) :
    M.Mirroring (Builder.setSimpleBase id base)
      (Builder.setSimpleBase (M.place id) (M.place base)) fun _ _ => True := by
  refine mirroring_changeKind hid fun kind => ?_
  cases kind with
  | simpleType type => exact .simpleType rfl
  | _ => exact .error

/-- A complex type is derived alike. -/
theorem mirroring_derive (hid : M.inner id) (base : ComponentId) (derivation : Derivation) :
    M.Mirroring (Builder.derive id base derivation)
      (Builder.derive (M.place id) (M.place base) derivation) fun _ _ => True := by
  refine mirroring_changeKind hid fun kind => ?_
  cases kind with
  | complexType type => exact .complexType rfl
  | _ => exact .error

/-- A component is made abstract alike. -/
theorem mirroring_setAbstract (hid : M.inner id) :
    M.Mirroring (Builder.setAbstract id) (Builder.setAbstract (M.place id)) fun _ _ => True := by
  refine mirroring_changeKind hid fun kind => ?_
  cases kind with
  | element decl => exact .element rfl
  | complexType type => exact .complexType rfl
  | _ => exact .error

/-- A particle is added alike. -/
theorem mirroring_pushParticle (howner : M.inner owner) (term : ComponentId) :
    M.Mirroring (Builder.pushParticle owner term)
      (Builder.pushParticle (M.place owner) (M.place term)) fun _ _ => True := by
  refine mirroring_changeKind howner fun kind => ?_
  cases kind with
  | complexType type =>
    exact .complexType (by simp [ComplexType.rename, Particle.rename])
  | group g =>
    exact .group (by simp [ModelGroup.rename, Particle.rename])
  | _ => exact .error

/-- The last occurrence of a term is the last one at its place. -/
theorem repeatLast_map (M : Mirror) (term : ComponentId) (particles : List Particle) :
    Builder.repeatLast (M.place term) (particles.map (Particle.rename M.place)) =
      (Builder.repeatLast term particles).map (List.map (Particle.rename M.place)) := by
  induction particles with
  | nil => rfl
  | cons p rest ih =>
    unfold Builder.repeatLast
    rw [List.map_cons]
    dsimp only
    rw [ih]
    cases Builder.repeatLast term rest with
    | some rest => rfl
    | none =>
      dsimp only [Option.map_none]
      by_cases hterm : p.term = term
      · have hplace : (p.rename M.place).term = M.place term := congrArg M.place hterm
        rw [if_pos hterm, if_pos hplace]
        rfl
      · have hplace : (p.rename M.place).term ≠ M.place term := fun h => hterm (M.injective h)
        rw [if_neg hterm, if_neg hplace]
        rfl

/-- A particle is marked as repeated alike. -/
theorem mirroring_setRepeated (howner : M.inner owner) (term : ComponentId) :
    M.Mirroring (Builder.setRepeated owner term)
      (Builder.setRepeated (M.place owner) (M.place term)) fun _ _ => True := by
  refine mirroring_changeKind howner fun kind => ?_
  cases kind with
  | complexType type =>
    dsimp only [ComponentKind.rename, ComplexType.rename]
    rw [repeatLast_map]
    cases Builder.repeatLast term type.content with
    | none => exact .error
    | some content => exact .complexType rfl
  | group g =>
    dsimp only [ComponentKind.rename, ModelGroup.rename]
    rw [repeatLast_map]
    cases Builder.repeatLast term g.particles with
    | none => exact .error
    | some particles => exact .group rfl
  | _ => exact .error

/-! ## New components -/

/-- An anonymous complex type is added at corresponding places. -/
theorem mirroring_anonymousComplexType (hid : M.inner id) :
    M.Mirroring (Builder.anonymousComplexType id) (Builder.anonymousComplexType (M.place id))
      M.Corresponds := by
  refine (mirroring_namespaceOf hid).bind fun ns ns' hns => ?_
  subst hns
  refine (mirroring_insert rfl).bind fun type type' htype => ?_
  obtain ⟨hinner, rfl⟩ := htype
  exact (mirroring_setElementType hid type).bind fun _ _ _ => .pure ⟨hinner, rfl⟩

/-- A local element is added at corresponding places. -/
theorem mirroring_localElement (howner : M.inner owner) (name : String) :
    M.Mirroring (Builder.localElement owner name none)
      (Builder.localElement (M.place owner) name none) M.Corresponds := by
  refine (mirroring_namespaceOf howner).bind fun ns ns' hns => ?_
  subst hns
  refine (mirroring_insert rfl).bind fun element element' helement => ?_
  obtain ⟨hinner, rfl⟩ := helement
  exact (mirroring_pushParticle howner element).bind fun _ _ _ => .pure ⟨hinner, rfl⟩

/-- A local attribute is added at corresponding places. -/
theorem mirroring_localAttribute (howner : M.inner owner) (name : String)
    (type : Option ComponentId) :
    M.Mirroring (Builder.localAttribute owner name type)
      (Builder.localAttribute (M.place owner) name (type.map M.place)) M.Corresponds := by
  refine (mirroring_namespaceOf howner).bind fun ns ns' hns => ?_
  subst hns
  refine (mirroring_insert rfl).bind fun id id' hid => ?_
  obtain ⟨hinner, rfl⟩ := hid
  refine (mirroring_changeKind howner fun kind => ?_).bind fun _ _ _ => .pure ⟨hinner, rfl⟩
  cases kind with
  | complexType type => exact .complexType (by simp [ComplexType.rename])
  | _ => exact .error

end Mirror

end SchemaBinding
