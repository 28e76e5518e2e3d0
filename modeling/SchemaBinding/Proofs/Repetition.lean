import SchemaBinding.Proofs.Prescription

/-! # Repeated properties
An occurrence of an element may be repeated by its own particle or by that of a group around it. The
property for it shows the former only. So what a class says about repetition is right unless some
group that is repeated holds an occurrence that is not. -/

namespace SchemaBinding

open Resolver (State)

/-- An **occurrence** of an element: its particle, and whether the particle of a group around it is
repeated. -/
structure Occurrence where
  particle : Particle
  enclosed : Bool := false
  deriving DecidableEq, Repr

/-- Whether the element may occur more than once in place of an occurrence. -/
def Occurrence.isRepeated (o : Occurrence) : Bool := o.particle.repeated || o.enclosed

/-- Whether a property is for an occurrence of an element. -/
def Property.isOccurrence (p : Property) : Bool := p.kind = .element || p.kind = .reference

namespace SchemaSet

variable {set : SchemaSet} {content : List Particle}

/-- A content **nests** the occurrences of elements in it, which are inside of a repeated group if
the content is or if the particle of a group in it is repeated. -/
inductive Nests (set : SchemaSet) : Bool → List Particle → List Occurrence → Prop
  | nil {enclosed : Bool} : Nests set enclosed [] []
  | element {enclosed : Bool} {p : Particle} {rest : List Particle}
      {occurrences : List Occurrence} (element : (set.component p.term).isElement = true)
      (later : Nests set enclosed rest occurrences) :
      Nests set enclosed (p :: rest) (⟨p, enclosed⟩ :: occurrences)
  | group {enclosed : Bool} {p : Particle} {rest : List Particle}
      {occurrences inner : List Occurrence} {g : ModelGroup}
      (group : (set.component p.term).asGroup = some g)
      (inside : Nests set (enclosed || p.repeated) g.particles inner)
      (later : Nests set enclosed rest occurrences) :
      Nests set enclosed (p :: rest) (inner ++ occurrences)
  /-- Other components do not occur as elements. -/
  | other {enclosed : Bool} {p : Particle} {rest : List Particle}
      {occurrences : List Occurrence} (plain : (set.component p.term).isElement = false)
      (ungrouped : (set.component p.term).asGroup = none)
      (later : Nests set enclosed rest occurrences) : Nests set enclosed (p :: rest) occurrences

/-- What a content flattens to are the occurrences that it **nests**. -/
theorem Flattens.exists_nests {particles : List Particle} (h : set.Flattens content particles)
    (enclosed : Bool) : ∃ occurrences, set.Nests enclosed content occurrences ∧
      occurrences.map Occurrence.particle = particles := by
  induction h generalizing enclosed with
  | nil => exact ⟨[], .nil, rfl⟩
  | @element p _ _ element _ ih =>
    obtain ⟨occurrences, hnests, rfl⟩ := ih enclosed
    exact ⟨⟨p, enclosed⟩ :: occurrences, .element element hnests, rfl⟩
  | @group p _ _ _ _ group _ _ ihinside ih =>
    -- inside of a group its own particle counts as well
    obtain ⟨inner, hinside, rfl⟩ := ihinside (enclosed || p.repeated)
    obtain ⟨occurrences, hnests, rfl⟩ := ih enclosed
    exact ⟨inner ++ occurrences, .group group hinside hnests, List.map_append⟩
  | other plain ungrouped _ ih =>
    obtain ⟨occurrences, hnests, rfl⟩ := ih enclosed
    exact ⟨occurrences, .other plain ungrouped hnests, rfl⟩

/-- The occurrences that the class for a component **shows**: those in the content of the complex
type that the component is or declares. -/
inductive Shows (set : SchemaSet) (c : ComponentId) : List Occurrence → Prop
  | content {type : ComplexType} {occurrences : List Occurrence} (owns : set.Owns c type)
      (nests : set.Nests false type.content occurrences) : Shows set c occurrences
  | nothing (bare : ∀ type, ¬ set.Owns c type) : Shows set c []

/-- The content of a body is that of the complex type that the component **is or declares**. -/
theorem content_iff_owns {c : ComponentId} {type : ComplexType} :
    (∃ id, set.bodyKind c = .content id type) ↔ set.Owns c type := by
  unfold bodyKind Resolver.bodyType?
  constructor
  · rintro ⟨id, h⟩
    cases hkind : (set.component c).kind with
    | element decl =>
      have hne (t : ComponentId) {type : ComplexType}
          (ht : (set.component t).kind = .complexType type) : t ≠ c := by
        rintro rfl
        rw [hkind] at ht
        cases ht
      simp only [hkind] at h
      cases htype : set.elementType? c with
      | none => simp [htype] at h
      | some t =>
        cases hcomplex : (set.component t).kind with
        | complexType declared =>
          -- an element has the content of the type that it declares itself
          simp only [htype, hcomplex, ne_eq, hne t hcomplex, not_false_eq_true, decide_true,
            Bool.true_and] at h
          cases hanonymous : set.isAnonymousTypeOf t c with
          | true =>
            simp only [hanonymous, Bool.not_true, Bool.false_eq_true, if_false,
              BodyKind.content.injEq] at h
            obtain ⟨-, rfl⟩ := h
            exact .anonymous htype hanonymous (Component.asComplexType_eq_some.2 hcomplex)
          | false => simp [hanonymous] at h
        | _ => simp [htype, hcomplex] at h
    | complexType declared =>
      obtain ⟨-, rfl⟩ : c = id ∧ declared = type := by simpa [hkind] using h
      exact .itself (Component.asComplexType_eq_some.2 hkind)
    | _ => simp [hkind] at h
  · rintro (complex | ⟨carried, anonymous, complex⟩)
    · exact ⟨c, by simp [Component.asComplexType_eq_some.1 complex]⟩
    · obtain ⟨decl, hdecl, -⟩ := Option.map_eq_some_iff.1 carried
      rename_i id
      exact ⟨id, by simp [Component.asElement_eq_some.1 hdecl, carried, anonymous,
        Component.asComplexType_eq_some.1 complex]⟩

end SchemaSet

namespace Context

variable {x : Context} {registry : Registry} {c : ComponentId}

/-- A property **shows** an occurrence: a reference to a global element, or a property with a type
of its own, that repeats as the particle does. -/
structure PropertyShows (x : Context) (p : Property) (o : Occurrence) : Prop where
  name : p.name = x.propertyName o.particle.term
  kind : p.kind = if (x.schema.component o.particle.term).isGlobal then .reference else .element
  repeated : p.repeated = o.particle.repeated

/-- Values and attributes are not shown as occurrences. -/
theorem filter_properties_eq_nil {items : List Item}
    (hitems : ∀ item ∈ items, ∀ particle, item ≠ .occurrence particle) :
    (items.filterMap (x.property? registry)).filter Property.isOccurrence = [] := by
  rw [List.filter_eq_nil_iff]
  intro p hp
  obtain ⟨item, hitem, hproperty⟩ := List.mem_filterMap.1 hp
  unfold property? itemProperty? at hproperty
  cases item with
  | value type =>
    cases hproperty
    simp [Property.isOccurrence]
  | occurrence particle => exact absurd rfl (hitems _ hitem particle)
  | attr id =>
    dsimp only at hproperty
    split at hproperty
    · cases hproperty
      simp [Property.isOccurrence]
    · cases hproperty

/-- Every occurrence is **shown**, in order. -/
theorem shows_occurrences (occurrences : List Occurrence) :
    List.Forall₂ x.PropertyShows
      ((((occurrences.map Occurrence.particle).map Item.occurrence).filterMap
        (x.property? registry)).filter Property.isOccurrence) occurrences := by
  induction occurrences with
  | nil => exact .nil
  | cons o rest ih =>
    rw [List.map_cons, List.map_cons, List.filterMap_cons]
    show List.Forall₂ _ (List.filter _ (_ :: _)) _
    rw [List.filter_cons_of_pos]
    · exact .cons ⟨rfl, rfl, rfl⟩ ih
    · unfold Property.isOccurrence
      dsimp only
      split <;> rfl

/-- The properties of a body for occurrences are **those of its occurrences**, in order. -/
theorem exists_shows {properties : List Property}
    (h : x.bodyProperties? registry c = some properties) : ∃ occurrences,
      x.schema.Shows c occurrences ∧
      List.Forall₂ x.PropertyShows (properties.filter Property.isOccurrence) occurrences := by
  obtain ⟨items, hitems, rfl⟩ := Option.map_eq_some_iff.1 h
  unfold SchemaSet.items? at hitems
  -- a body without content has no occurrences
  have hnothing (hbare : ∀ id type, x.schema.bodyKind c ≠ .content id type)
      (hplain : ∀ item ∈ items, ∀ particle, item ≠ .occurrence particle) : ∃ occurrences,
        x.schema.Shows c occurrences ∧ List.Forall₂ x.PropertyShows
          ((items.filterMap (x.property? registry)).filter Property.isOccurrence)
          occurrences := by
    refine ⟨[], .nothing fun type howns => ?_, ?_⟩
    · obtain ⟨id, hcontent⟩ := SchemaSet.content_iff_owns.2 howns
      exact hbare id type hcontent
    · rw [filter_properties_eq_nil hplain]
      exact .nil
  cases hkind : x.schema.bodyKind c with
  | content id type =>
    rw [hkind] at hitems
    obtain ⟨content, hcontent, rfl⟩ := Option.map_eq_some_iff.1 hitems
    obtain ⟨particles, hparticles, rfl⟩ := Option.map_eq_some_iff.1 hcontent
    obtain ⟨occurrences, hnests, rfl⟩ :=
      (SchemaSet.flattens_occurrences? hparticles).exists_nests false
    refine ⟨occurrences, .content (SchemaSet.content_iff_owns.1 ⟨id, hkind⟩) hnests, ?_⟩
    -- the occurrences stand between the values of the base and the attributes
    have hbase : ∀ item ∈ x.schema.baseItems type, ∀ particle, item ≠ .occurrence particle := by
      intro item hitem particle
      unfold SchemaSet.baseItems at hitem
      split at hitem
      · split at hitem
        · rw [List.mem_singleton.1 hitem]
          simp
        · cases hitem
      · cases hitem
    have hattributes : ∀ item ∈ type.attributes.map Item.attr,
        ∀ particle, item ≠ .occurrence particle := by simp
    rw [List.filterMap_append, List.filter_append, filter_properties_eq_nil hbase,
      List.nil_append, List.filterMap_append, List.filter_append,
      filter_properties_eq_nil hattributes, List.append_nil]
    exact shows_occurrences occurrences
  | value type =>
    rw [hkind] at hitems
    cases hitems
    exact hnothing (by simp [hkind]) (by simp)
  | empty | extension =>
    rw [hkind] at hitems
    cases hitems
    exact hnothing (by simp [hkind]) (by simp)

/-- What properties say about repetition is right exactly if no repeated group holds an occurrence
that is **not repeated itself**. -/
theorem forall_isRepeated_iff {properties : List Property} {occurrences : List Occurrence}
    (h : List.Forall₂ x.PropertyShows properties occurrences) :
    List.Forall₂ (fun p o => p.repeated = o.isRepeated) properties occurrences ↔
      ∀ o ∈ occurrences, o.enclosed = true → o.particle.repeated = true := by
  induction h with
  | nil => simp
  | @cons p o _ _ hshows _ ih =>
    rw [List.forall₂_cons, List.forall_mem_cons, ih, hshows.repeated]
    refine and_congr_left fun _ => ?_
    unfold Occurrence.isRepeated
    cases o.particle.repeated <;> cases o.enclosed <;> simp

end Context

/-! ## Runs -/

namespace Compilation

variable {c : Compilation} {s : State}

/-- When a standard run comes to its end, the properties of every class for occurrences of elements
**repeat as the particles do**. They say whether the elements may occur more than once if and only
if no repeated group holds an occurrence that is not repeated itself. -/
theorem repeated_of_run (hstandard : c.strategy = .standard) (hrun : c.run = (.ok (), s)) :
    ∀ k ∈ s.model.classIds, ∃ d occurrences,
      s.registry.target? d = some (.classRef k) ∧
      s.ledger.marks k = [.done d k, .begun d k] ∧ c.schema.Shows d occurrences ∧
      let properties := (s.model.classInfo k).properties.filter Property.isOccurrence
      List.Forall₂ c.context.PropertyShows properties occurrences ∧
      (List.Forall₂ (fun p o => p.repeated = o.isRepeated) properties occurrences ↔
        ∀ o ∈ occurrences, o.enclosed = true → o.particle.repeated = true) := by
  intro k hk
  have hfinished := finished_of_run hstandard hrun
  obtain ⟨d, hd, hmarks⟩ := hfinished.exists_marks (hfinished.mem_built (Model.mem_classIds.1 hk))
  have hdone : Mark.done d k ∈ s.ledger.marks k := by
    rw [hmarks]
    exact List.mem_cons_self
  have hcomplete := hfinished.reachable.written.complete d k (Ledger.mem_marks.1 hdone).1
  obtain ⟨occurrences, hshows, hproperties⟩ := Context.exists_shows hcomplete.properties
  exact ⟨d, occurrences, hd, hmarks, hshows, hproperties,
    Context.forall_isRepeated_iff hproperties⟩

/-- A complex type with a repeated group of one element that is not repeated itself. -/
def repeatedGroup : Compilation where
  schema := (Builder.localElement ⟨23⟩ "item" (some ⟨2⟩)).after
    ((Builder.setRepeated ⟨22⟩ ⟨23⟩).after
      ((Builder.group ⟨22⟩ .sequence).after
        ((Builder.globalComplexType "urn:x" "T").after .initial)))

/-- The run for the repeated group comes to its end. -/
theorem run_repeatedGroup : repeatedGroup.run = (.ok (), repeatedGroup.run.2) :=
  run_of_fst (by decide +kernel)

/-- The property for the element of the repeated group repeats as the particle of the element does,
which is not repeated itself. -/
theorem repeated_of_run_repeatedGroup :
    repeatedGroup.run = (.ok (), repeatedGroup.run.2) ∧
      ∃ d occurrences, repeatedGroup.schema.Shows d occurrences ∧
        List.Forall₂ repeatedGroup.context.PropertyShows
          ((repeatedGroup.run.2.model.classInfo ⟨0⟩).properties.filter Property.isOccurrence)
          occurrences := by
  obtain ⟨d, occurrences, -, -, hshows, hproperties, -⟩ :=
    repeated_of_run (c := repeatedGroup) rfl run_repeatedGroup ⟨0⟩ (by decide +kernel)
  exact ⟨run_repeatedGroup, d, occurrences, hshows, hproperties⟩

/-- The element of the repeated group may occur more than once, and its property is **not
repeated**. -/
theorem exists_lost_repetition :
    repeatedGroup.schema.Built ∧ repeatedGroup.run = (.ok (), repeatedGroup.run.2) ∧
      ∃ k ∈ repeatedGroup.run.2.model.classIds, ∃ d occurrences,
        repeatedGroup.run.2.registry.target? d = some (.classRef k) ∧
        repeatedGroup.run.2.ledger.marks k = [.done d k, .begun d k] ∧
        repeatedGroup.schema.Shows d occurrences ∧
        ¬ List.Forall₂ (fun p o => p.repeated = o.isRepeated)
          ((repeatedGroup.run.2.model.classInfo k).properties.filter Property.isOccurrence)
          occurrences := by
  refine ⟨?built, run_repeatedGroup, ⟨0⟩, by decide +kernel, ⟨22⟩,
    [⟨⟨⟨24⟩, false⟩, true⟩], by decide +kernel, by decide +kernel, ?shows, ?lost⟩
  case built =>
    exact (((SchemaSet.Built.initial.call (.globalComplexType _ _)).call (.group _ _)).call
      (.setRepeated _ _)).call (.localElement _ _ _)
  case shows =>
    have howns : repeatedGroup.schema.Owns ⟨22⟩ { content := [⟨⟨23⟩, true⟩] } :=
      .itself (by decide +kernel)
    have hgroup : (repeatedGroup.schema.component ⟨23⟩).asGroup =
        some { compositor := .sequence, particles := [⟨⟨24⟩, false⟩] } := by decide +kernel
    have hinside : repeatedGroup.schema.Nests true [⟨⟨24⟩, false⟩] [⟨⟨⟨24⟩, false⟩, true⟩] :=
      .element (by decide +kernel) .nil
    have hnests : repeatedGroup.schema.Nests false [⟨⟨23⟩, true⟩]
        ([⟨⟨⟨24⟩, false⟩, true⟩] ++ []) := .group hgroup hinside .nil
    exact .content howns hnests
  case lost =>
    have hproperties :
        (repeatedGroup.run.2.model.classInfo ⟨0⟩).properties.filter Property.isOccurrence =
          [{ name := "item", kind := .element, type := some (.leaf .string) }] := by
      decide +kernel
    rw [hproperties]
    simp [Occurrence.isRepeated]

end Compilation

end SchemaBinding
