import SchemaBinding.Proofs.Schema.Loaded

/-! # Loading keeps sets loaded
Every step of loading a manifest that succeeds leaves a loaded set behind. What a step needs to know
of the set before it, such as that a component exists, stays right while the set grows. -/

namespace SchemaBinding

variable {α β ε : Type} {allowed : String → Prop} {set set' : SchemaSet}

/-! ## Building steps as steps of loading -/

namespace Loading

variable {a : α}

/-- A building step is run as a step of loading, in which its misuse is a reason for rejection. -/
theorem run_building_eq (step : Builder α) (set : SchemaSet) :
    (building step).run.run set =
      ((step.run.run set).1.mapError .misuse, (step.run.run set).2) := rfl

/-- A building step that is known is a known step of loading. -/
theorem run_building {step : Builder α} (h : step.run.run set = (.ok a, set')) :
    (building step).run.run set = (.ok a, set') := by
  rw [run_building_eq, h]
  rfl

end Loading

/-! ## The judgment -/

/-- A step **loads** a set: if it succeeds, it leaves a loaded set that has grown, and answers. -/
def Loads (allowed : String → Prop) (step : ExceptT ε (StateM SchemaSet) α) (set : SchemaSet)
    (answer : α → SchemaSet → Prop) : Prop :=
  set.Loaded allowed → ∀ a set', step.run.run set = (.ok a, set') →
    set'.Loaded allowed ∧ set.Grows set' ∧ answer a set'

namespace Loads

variable {step : ExceptT ε (StateM SchemaSet) α} {next : α → ExceptT ε (StateM SchemaSet) β}
  {answer later : α → SchemaSet → Prop} {answer' : β → SchemaSet → Prop}

/-- To return loads nothing more. -/
theorem pure {a : α} (h : answer a set) :
    Loads allowed (Pure.pure a : ExceptT ε (StateM SchemaSet) α) set answer := by
  intro hset b set' hrun
  cases hrun
  exact ⟨hset, .refl _, h⟩

/-- A step that fails need not keep anything. -/
theorem throw (e : ε) :
    Loads allowed (MonadExcept.throw e : ExceptT ε (StateM SchemaSet) α) set answer := by
  intro _ b set' hrun
  cases hrun

/-- Nothing follows a step that fails. -/
theorem failed (e : ε) (next : α → ExceptT ε (StateM SchemaSet) β) :
    Loads allowed (MonadExcept.throw e >>= next) set answer' := by
  intro _ b set' hrun
  obtain ⟨_, _, hthrow, -⟩ := SchemaSet.run_bind_ok hrun
  cases hthrow

/-- Steps in a row load if each does from the sets before it. -/
theorem bind (h : Loads allowed step set answer)
    (hnext : ∀ a set', set'.Loaded allowed → set.Grows set' → answer a set' →
      Loads allowed (next a) set' answer') : Loads allowed (step >>= next) set answer' := by
  intro hset b set' hrun
  obtain ⟨a, u, hstep, hrest⟩ := SchemaSet.run_bind_ok hrun
  obtain ⟨hu, hgrows, hanswer⟩ := h hset a u hstep
  obtain ⟨hset', hgrows', hanswer'⟩ := hnext a u hu hgrows hanswer hu b set' hrest
  exact ⟨hset', hgrows.trans hgrows', hanswer'⟩

/-- A step that is given its value at once. -/
theorem given {a : α} (h : Loads allowed (next a) set answer') :
    Loads allowed (Pure.pure a >>= next) set answer' := by
  rw [pure_bind]
  exact h

/-- A step that first looks at the set. -/
theorem reading {next : SchemaSet → ExceptT ε (StateM SchemaSet) β}
    (h : Loads allowed (next set) set answer') :
    Loads allowed (MonadState.get >>= next) set answer' := by
  intro hset b set' hrun
  exact h hset b set' hrun

/-- A step that asks for a component first is run if the set has one. -/
theorem component {id : ComponentId} {next : Component → Builder β}
    (h : id.index < set.size → Loads allowed (next (set.component id)) set answer') :
    Loads allowed (Builder.component id >>= next) set answer' := by
  intro hset b set' hrun
  by_cases hid : id.index < set.size
  · rw [SchemaSet.run_bind_of_ok (Builder.run_component hid)] at hrun
    exact h hid hset b set' hrun
  · obtain ⟨_, _, hfound, -⟩ := SchemaSet.run_bind_ok hrun
    rw [Builder.run_component_of_le (Nat.not_lt.1 hid)] at hfound
    cases hfound

/-- What is answered may be weakened, for sets that have grown. -/
theorem imp (h : Loads allowed step set answer)
    (himp : ∀ a set', set.Grows set' → answer a set' → later a set') :
    Loads allowed step set later := by
  intro hset a set' hrun
  obtain ⟨hset', hgrows, hanswer⟩ := h hset a set' hrun
  exact ⟨hset', hgrows, himp a set' hgrows hanswer⟩

/-- Building steps are steps of loading. -/
theorem building {step : Builder α} (h : Loads allowed step set answer) :
    Loads allowed (Loading.building step) set answer := by
  intro hset a set' hrun
  refine h hset a set' ?_
  rw [Loading.run_building_eq] at hrun
  rcases hstep : step.run.run set with ⟨e | b, u⟩
  · rw [hstep] at hrun
    cases hrun
  · rw [hstep] at hrun
    cases hrun
    rfl

/-- What is done with a value that may be missing loads. -/
theorem whenSome {value : Option α} {step : α → Loading Unit}
    (h : ∀ a, Loads allowed (step a) set fun _ _ => True) :
    Loads allowed (Loading.whenSome value step) set fun _ _ => True := by
  cases value with
  | none => exact .pure trivial
  | some a => exact h a

/-- A step that is taken under a condition, and what follows it in either case. -/
theorem optional {condition : Prop} [Decidable condition] {step : ExceptT ε (StateM SchemaSet) Unit}
    {next : Unit → ExceptT ε (StateM SchemaSet) β} (h : Loads allowed step set fun _ _ => True)
    (hnext : ∀ set', set.Grows set' → Loads allowed (next ()) set' answer') :
    Loads allowed (if condition then step >>= next else next ()) set answer' := by
  split
  · exact h.bind fun _ set' _ hgrows _ => hnext set' hgrows
  · exact hnext set (.refl _)

/-- A series of steps, each of which may rely on the set having grown. -/
theorem forM {items : List α} {step : α → ExceptT ε (StateM SchemaSet) PUnit}
    (h : ∀ a ∈ items, ∀ set', set.Grows set' → Loads allowed (step a) set' fun _ _ => True) :
    Loads allowed (items.forM step) set fun _ _ => True := by
  induction items generalizing set with
  | nil => exact .pure trivial
  | cons a rest ih =>
    show Loads allowed (step a >>= fun _ => rest.forM step) set _
    refine (h a List.mem_cons_self set (.refl _)).bind fun _ u _ hgrows _ => ih ?_
    exact fun b hb v hv => h b (.tail _ hb) v (hgrows.trans hv)

/-- A series of steps that give answers which stay right while the set grows. -/
theorem mapM {items : List α} {step : α → ExceptT ε (StateM SchemaSet) β}
    (hmono : ∀ b u v, SchemaSet.Grows u v → answer' b u → answer' b v)
    (h : ∀ a ∈ items, ∀ set', set.Grows set' → Loads allowed (step a) set' answer') :
    Loads allowed (items.mapM step) set fun bs set' => ∀ b ∈ bs, answer' b set' := by
  induction items generalizing set with
  | nil =>
    rw [List.mapM_nil]
    exact .pure (by simp)
  | cons a rest ih =>
    rw [List.mapM_cons]
    refine (h a List.mem_cons_self set (.refl _)).bind fun b u _ hgrows hb => ?_
    refine (ih fun c hc v hv => h c (.tail _ hc) v (hgrows.trans hv)).bind
      fun bs v _ hgrows' hbs => ?_
    refine .pure fun c hc => ?_
    rcases List.mem_cons.1 hc with rfl | hc
    · exact hmono c u v hgrows' hb
    · exact hbs c hc

end Loads

/-! ## Building steps -/

namespace Builder

variable {id e t owner term : ComponentId}

/-- A component that fits may be inserted, while its content is empty. -/
theorem loads_insert {c : Component}
    (hfits : set.Loaded allowed → (set.insert c).2.Fits allowed ⟨set.size⟩ c)
    (hempty : ∀ e, ¬ c.Contains e) :
    Loads allowed (insert c) set fun id set' => id = ⟨set.size⟩ ∧ set' = (set.insert c).2 := by
  intro hset a set' hrun
  cases hrun
  exact ⟨hset.insert (hfits hset) hempty, .insert set c, rfl, rfl⟩

/-- A component that keeps its kind goes on fitting. -/
theorem loads_change {f : Component → Component}
    (hstays : (set.component id).Stays (f (set.component id)))
    (hkind : (f (set.component id)).kind = (set.component id).kind) :
    Loads allowed (change id f) set fun _ _ => True := by
  refine .component fun _ hset a set' hrun => ?_
  cases hrun
  exact ⟨hset.modifyComponent hstays ((hset.fits id).congr hstays hkind)
    fun e he => .inl (he.congr hkind), .modifyComponent hstays, trivial⟩

/-- A component of another kind of the same sort has to fit, and to contain nothing that belongs to
another component. -/
theorem loads_changeKind {f : ComponentKind → Except Misuse ComponentKind}
    (h : set.Fits allowed id (set.component id) → ∀ kind, f (set.component id).kind = .ok kind →
      (set.component id).Stays { set.component id with kind } ∧
        set.Fits allowed id { set.component id with kind } ∧
          ∀ e, ({ set.component id with kind } : Component).Contains e →
            (set.component id).Contains e ∨ (set.component e).isGlobal = true ∨
              ∀ o, ¬ (set.component o).Contains e) :
    Loads allowed (changeKind id f) set fun _ _ => True := by
  refine .component fun hid => ?_
  -- the step fails for components of other sorts
  cases hkind : f (set.component id).kind with
  | error misuse => exact .throw _
  | ok kind =>
    refine .component fun _ hset a set' hrun => ?_
    obtain ⟨hstays, hfits, hcontent⟩ := h (hset.fits id) kind hkind
    cases hrun
    exact ⟨hset.modifyComponent hstays hfits hcontent, .modifyComponent hstays, trivial⟩

/-- A change of a schema that keeps its namespace and its list loads. -/
theorem loads_modifySchema {ns : String} {f : Schema → Schema}
    (hf : ∀ s, (f s).ns = s.ns ∧ (f s).components = s.components) :
    Loads allowed (modify fun set : SchemaSet => set.modifySchema ns f : Builder Unit) set
      fun _ _ => True := by
  intro hset a set' hrun
  cases hrun
  exact ⟨hset.modifySchema hf, .modifySchema set ns f, trivial⟩

/-- Locating a schema loads. -/
theorem loads_schemaLocator (ns : String) (locator : Locator) :
    Loads allowed (schemaLocator ns locator) set fun _ _ => True :=
  loads_modifySchema (f := fun s => { s with locator := some locator }) fun _ => ⟨rfl, rfl⟩

/-- Naming the package of a schema loads. -/
theorem loads_package (ns name : String) : Loads allowed (package ns name) set fun _ _ => True :=
  loads_modifySchema (f := fun s => { s with package := some name }) fun _ => ⟨rfl, rfl⟩

/-- Looking up a namespace leaves the set as it is. -/
theorem loads_namespaceOf (id : ComponentId) :
    Loads allowed (namespaceOf id) set fun _ set' => set' = set := .component fun _ => .pure rfl

/-! ### Changes of a component -/

/-- Only complex types contain anything. -/
theorem not_contains {c : Component} (h : c.asComplexType = none) (e : ComponentId) :
    ¬ c.Contains e := by
  rintro ⟨type, p, htype, -⟩
  rw [h] at htype
  cases htype

/-- A complex type with the same content contains the same. -/
theorem contains_of_content {c : Component} {type type' : ComplexType}
    (hkind : c.kind = .complexType type)
    (hcontains : ({ c with kind := .complexType type' } : Component).Contains e)
    (hcontent : ∀ p ∈ type'.content, ∃ q ∈ type.content, q.term = p.term) : c.Contains e := by
  obtain ⟨complex, p, hcomplex, hp, rfl⟩ := hcontains
  obtain rfl : type' = complex := by simpa [Component.asComplexType] using hcomplex
  obtain ⟨q, hq, hterm⟩ := hcontent p hp
  exact ⟨type, q, Component.asComplexType_eq_some.2 hkind, hq, hterm⟩

/-- The type of an element is a global one, or one that the element declares. -/
theorem loads_setElementType (htype : (set.component t).isGlobal = true ∨
    (set.component t).declaringElement? = some e) :
    Loads allowed (setElementType e t) set fun _ _ => True := by
  refine loads_changeKind fun hfits kind hok => ?_
  cases hkind : (set.component e).kind with
  | element decl =>
    rw [hkind] at hok
    cases hok
    refine ⟨Component.stays_element hkind, hfits.element fun u hu => ?_,
      fun d hd => absurd hd (not_contains rfl d)⟩
    obtain rfl : t = u := by simpa using hu
    exact htype
  | _ =>
    rw [hkind] at hok
    cases hok

/-- Simple types restrict global ones. -/
theorem loads_setSimpleBase {base : ComponentId} (hbase : (set.component base).isGlobal = true)
    (type : ComponentId) : Loads allowed (setSimpleBase type base) set fun _ _ => True := by
  refine loads_changeKind fun hfits kind hok => ?_
  cases hkind : (set.component type).kind with
  | simpleType simple =>
    rw [hkind] at hok
    cases hok
    refine ⟨Component.stays_simpleType hkind,
      .of_plain hfits.named rfl rfl (by rintro t ⟨⟩) (fun b hb => ?_) rfl,
      fun d hd => absurd hd (not_contains rfl d)⟩
    obtain rfl : base = b := by simpa [Component.asSimpleType] using hb
    exact hbase
  | _ =>
    rw [hkind] at hok
    cases hok

/-- Bases are global. -/
theorem loads_derive {base : ComponentId} (hbase : (set.component base).isGlobal = true)
    (type : ComponentId) (derivation : Derivation) :
    Loads allowed (derive type base derivation) set fun _ _ => True := by
  refine loads_changeKind fun hfits kind hok => ?_
  cases hkind : (set.component type).kind with
  | complexType complex =>
    rw [hkind] at hok
    cases hok
    refine ⟨Component.stays_complexType hkind rfl, hfits.complexType hkind rfl ?_
      (fun p hp => .inl ⟨p, hp, rfl⟩) fun a ha => .inl ha,
      fun d hd => .inl (contains_of_content hkind hd fun p hp => ⟨p, hp, rfl⟩)⟩
    intro b hb
    obtain rfl : base = b := by simpa using hb
    exact .inr hbase
  | _ =>
    rw [hkind] at hok
    cases hok

/-- Making a component abstract loads. -/
theorem loads_setAbstract (id : ComponentId) :
    Loads allowed (setAbstract id) set fun _ _ => True := by
  refine loads_changeKind fun hfits kind hok => ?_
  cases hkind : (set.component id).kind with
  | element decl =>
    rw [hkind] at hok
    cases hok
    -- the type of the element is the one it had
    have helement := Component.asElement_eq_some.2 hkind
    exact ⟨Component.stays_element hkind,
      hfits.element fun u hu => hfits.carried decl u helement hu,
      fun d hd => absurd hd (not_contains rfl d)⟩
  | complexType complex =>
    rw [hkind] at hok
    cases hok
    exact ⟨Component.stays_complexType hkind rfl, hfits.complexType hkind rfl
      (fun b hb => .inl hb) (fun p hp => .inl ⟨p, hp, rfl⟩) fun a ha => .inl ha,
      fun d hd => .inl (contains_of_content hkind hd fun p hp => ⟨p, hp, rfl⟩)⟩
  | _ =>
    rw [hkind] at hok
    cases hok

/-- What a complex type contains is a global element, or one behind the type that no type contains
as yet. -/
theorem loads_pushParticle (hterm : (set.component owner).isComplexType = true →
    term.index < set.size ∧ (set.component term).isElement = true ∧
      ((set.component term).isGlobal = true ∨ owner.index < term.index ∧
        ∀ o, ¬ (set.component o).Contains term)) :
    Loads allowed (pushParticle owner term) set fun _ _ => True := by
  refine loads_changeKind fun hfits kind hok => ?_
  cases hkind : (set.component owner).kind with
  | complexType complex =>
    rw [hkind] at hok
    cases hok
    obtain ⟨hlt, helement, hplace⟩ := hterm (Component.isComplexType_iff.2 ⟨complex, hkind⟩)
    refine ⟨Component.stays_complexType hkind rfl, hfits.complexType hkind rfl
      (fun b hb => .inl hb) (fun p hp => ?_) fun a ha => .inl ha, ?_⟩
    · -- the particle is one of those before, or the new one
      rcases List.mem_append.1 hp with hp | hp
      · exact .inl ⟨p, hp, rfl⟩
      · obtain rfl := List.mem_singleton.1 hp
        exact .inr ⟨hlt, helement, hplace.imp_right And.left⟩
    · rintro e ⟨type, p, htype, hp, rfl⟩
      obtain rfl := Option.some.inj htype
      rcases List.mem_append.1 hp with hp | hp
      · exact .inl ⟨complex, p, Component.asComplexType_eq_some.2 hkind, hp, rfl⟩
      · obtain rfl := List.mem_singleton.1 hp
        exact .inr (hplace.imp_right And.right)
  | group g =>
    have hgroup := hfits.ungrouped
    rw [Component.asGroup_eq_some.2 hkind] at hgroup
    cases hgroup
  | _ =>
    rw [hkind] at hok
    cases hok

/-- Marking an occurrence as repeated changes no term. -/
theorem exists_of_repeatLast {ps qs : List Particle} (h : repeatLast term ps = some qs) :
    ∀ q ∈ qs, ∃ p ∈ ps, p.term = q.term := by
  induction ps generalizing qs with
  | nil => cases h
  | cons p rest ih =>
    unfold repeatLast at h
    cases hrest : repeatLast term rest with
    | some rest' =>
      simp only [hrest, Option.some.injEq] at h
      subst h
      intro q hq
      rcases List.mem_cons.1 hq with rfl | hq
      · exact ⟨q, List.mem_cons_self, rfl⟩
      · -- a later occurrence is the one that is marked
        obtain ⟨p', hp', hterm⟩ := ih hrest q hq
        exact ⟨p', .tail _ hp', hterm⟩
    | none =>
      simp only [hrest] at h
      split at h
      · obtain rfl := Option.some.inj h
        intro q hq
        rcases List.mem_cons.1 hq with rfl | hq
        · exact ⟨p, List.mem_cons_self, rfl⟩
        · exact ⟨q, .tail _ hq, rfl⟩
      · cases h

/-- Marking a particle as repeated loads. -/
theorem loads_setRepeated (owner term : ComponentId) :
    Loads allowed (setRepeated owner term) set fun _ _ => True := by
  refine loads_changeKind fun hfits kind hok => ?_
  cases hkind : (set.component owner).kind with
  | complexType complex =>
    simp only [hkind] at hok
    cases hcontent : repeatLast term complex.content with
    | none =>
      rw [hcontent] at hok
      cases hok
    | some content =>
      rw [hcontent] at hok
      cases hok
      have hterms := exists_of_repeatLast hcontent
      exact ⟨Component.stays_complexType hkind rfl, hfits.complexType hkind rfl
        (fun b hb => .inl hb) (fun q hq => .inl (hterms q hq)) fun a ha => .inl ha,
        fun d hd => .inl (contains_of_content hkind hd hterms)⟩
  | group g =>
    have hgroup := hfits.ungrouped
    rw [Component.asGroup_eq_some.2 hkind] at hgroup
    cases hgroup
  | _ =>
    rw [hkind] at hok
    cases hok

/-- Locating a component loads. -/
theorem loads_setLocator (id : ComponentId) (locator : Locator) :
    Loads allowed (setLocator id locator) set fun _ _ => True :=
  loads_change ⟨rfl, rfl, rfl, rfl, rfl, rfl, rfl⟩ rfl

/-- Customizing a component loads. -/
theorem loads_customize (id : ComponentId) (f : Customization → Customization) :
    Loads allowed (customize id f) set fun _ _ => True :=
  loads_change ⟨rfl, rfl, rfl, rfl, rfl, rfl, rfl⟩ rfl

end Builder

end SchemaBinding
