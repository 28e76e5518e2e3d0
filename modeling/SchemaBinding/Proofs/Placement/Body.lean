import SchemaBinding.Proofs.Placement.Proposal

/-! # Bodies in position
Inside of a body the innermost scope is the one inside its class. What the body refers to is global,
or an anonymous type that only this body finds, so all of it may be asked for there. -/

namespace SchemaBinding

open Resolver (State)
open Resolver.State (SamePlaces)

variable {allowed : String → Prop} {x : Context} {declared : List ComponentId} {r : Resolver}
  {s t : State} {b c d : ComponentId} {k : ClassId}

/-! ## What a body refers to -/

/-- A body that is a value is that of a simple type. -/
theorem SchemaSet.isSimpleType_of_value {set : SchemaSet} (h : set.bodyKind c = .value d) :
    (set.component d).isSimpleType = true := by
  unfold bodyKind at h
  cases hid : Resolver.bodyType? set c with
  | none => simp [hid] at h
  | some t =>
    simp only [hid] at h
    cases hkind : (set.component t).kind with
    | simpleType type =>
      rw [hkind] at h
      obtain rfl : t = d := by simpa using h
      exact Component.isSimpleType_iff.2 ⟨type, hkind⟩
    | complexType type =>
      simp only [hkind] at h
      split at h <;> cases h
    | _ => simp [hkind] at h

namespace SchemaSet.Loaded

variable {set : SchemaSet} {id : ComponentId} {type : ComplexType}

/-- A content without groups is the list of its own occurrences. -/
theorem occurrences?_eq (h : set.Loaded allowed)
    (htype : (set.component id).asComplexType = some type) :
    set.occurrences? type.content = some type.content := by
  have hparticle (p : Particle) (hp : p ∈ type.content) :
      set.particleOccurrences (set.size + 1) p = some [p] := by
    obtain ⟨decl, hkind⟩ := Component.isElement_iff.1 ((h.fits id).content type p htype hp).2.1
    simp [particleOccurrences, hkind]
  have hall (content : List Particle) (hsub : content ⊆ type.content) :
      content.mapM (set.particleOccurrences (set.size + 1)) = some (content.map fun p => [p]) := by
    induction content with
    | nil => rfl
    | cons p rest ih =>
      rw [List.mapM_cons, hparticle p (hsub List.mem_cons_self),
        ih fun q hq => hsub (.tail p hq)]
      rfl
  rw [occurrences?, hall _ (List.Subset.refl _), Option.map_some]
  congr 1
  induction type.content with
  | nil => rfl
  | cons p rest ih => simp [ih]


/-- What is asked about the values of a type is the type, if it is complex. -/
theorem mem_valueSource {t : ComponentId} (hd : d ∈ (set.valueSource t).component?) :
    d = t ∧ (set.component d).isComplexType = true := by
  unfold valueSource at hd
  cases hkind : (set.component t).kind with
  | complexType type =>
    rw [hkind] at hd
    obtain rfl : t = d := by simpa [TypeSource.component?] using hd
    exact ⟨rfl, Component.isComplexType_iff.2 ⟨type, hkind⟩⟩
  | _ =>
    rw [hkind] at hd
    cases hd

/-- Nothing is asked about a simple type. -/
theorem not_mem_valueSource {t : ComponentId} (hsimple : (set.component t).isSimpleType = true) :
    d ∉ (set.valueSource t).component? := by
  intro hd
  obtain ⟨rfl, hcomplex⟩ := mem_valueSource hd
  rw [Component.isComplexType_of_isSimpleType hsimple] at hcomplex
  cases hcomplex

/-- Nothing is asked about the base of a complex type, unless it is complex itself. -/
theorem not_mem_baseItems {item : Item} (hitem : item ∈ set.baseItems type) :
    d ∉ (set.itemSource item).component? := by
  unfold baseItems at hitem
  split at hitem
  · split at hitem
    · rename_i base _ hsimple
      simp only [Bool.and_eq_true] at hsimple
      obtain rfl := List.mem_singleton.1 hitem
      exact not_mem_valueSource hsimple.2
    · cases hitem
  · cases hitem

/-- An occurrence refers to a **global** declaration, or to the type of a local element. -/
theorem of_occurrence (h : set.Loaded allowed) (hbody : set.bodyKind c = .content id type)
    {p : Particle} (hp : p ∈ type.content)
    (hd : d ∈ (set.itemSource (.occurrence p)).component?) :
    (set.component d).isGlobalDeclaration = true ∨ set.Encloses c d := by
  have htype := asComplexType_of_content hbody
  have helement := ((h.fits id).content type p htype hp).2.1
  simp only [itemSource, elementSource] at hd
  split at hd
  · rename_i hglobal
    obtain rfl : p.term = d := by simpa [TypeSource.component?] using hd
    exact .inl (isGlobalDeclaration_of_isElement helement hglobal)
  · rename_i hlocal
    obtain ⟨t, ht⟩ := exists_elementType? helement
    rw [ht] at hd
    obtain ⟨rfl, hcomplex⟩ := mem_valueSource hd
    -- the type of a local element is global, or the element declares it
    rcases h.carried ht with hglobal | hdeclaring
    · exact .inl (isGlobalDeclaration_of_isComplexType hcomplex hglobal)
    · exact .inr (.intro hbody ⟨type, p, htype, hp, rfl⟩ (by simpa using hlocal) hdeclaring
        ((h.fits d).anonymous _ hdeclaring))

/-- An attribute refers to a **global** type, if it refers to anything. -/
theorem of_attribute (h : set.Loaded allowed) {a : ComponentId}
    (hd : d ∈ (set.itemSource (.attr a)).component?) :
    (set.component d).isGlobalDeclaration = true := by
  simp only [itemSource] at hd
  split at hd
  · rename_i decl hdecl
    unfold attributeSource at hd
    split at hd
    · rename_i t ht
      obtain ⟨rfl, hcomplex⟩ := mem_valueSource hd
      exact isGlobalDeclaration_of_isComplexType hcomplex ((h.fits a).attributed decl d hdecl ht)
    · cases hd
  · cases hd

/-- Items refer to **global** declarations, or to types that the component encloses. -/
theorem of_item (h : set.Loaded allowed) {items : List Item} (hitems : set.items? c = some items)
    {item : Item} (hitem : item ∈ items) (hd : d ∈ (set.itemSource item).component?) :
    (set.component d).isGlobalDeclaration = true ∨ set.Encloses c d := by
  unfold items? at hitems
  cases hbody : set.bodyKind c with
  | empty | extension =>
    rw [hbody] at hitems
    obtain rfl := Option.some.inj hitems
    cases hitem
  | value t =>
    rw [hbody] at hitems
    obtain rfl := Option.some.inj hitems
    obtain rfl := List.mem_singleton.1 hitem
    exact absurd hd (not_mem_valueSource (isSimpleType_of_value hbody))
  | content id type =>
    rw [hbody] at hitems
    have hoccurrences := h.occurrences?_eq (asComplexType_of_content hbody)
    simp only [contentItems?, hoccurrences, Option.map_some, Option.some.injEq] at hitems
    subst hitems
    rcases List.mem_append.1 hitem with hbase | hitem
    · exact absurd hd (not_mem_baseItems hbase)
    · rcases List.mem_append.1 hitem with hoccurrence | hattribute
      · obtain ⟨p, hp, rfl⟩ := List.mem_map.1 hoccurrence
        exact h.of_occurrence hbody hp hd
      · obtain ⟨a, -, rfl⟩ := List.mem_map.1 hattribute
        exact .inl (h.of_attribute hd)

/-- A body **refers** to global declarations and to types that its component encloses. -/
theorem of_referenced (h : x.schema.Loaded allowed) (hd : d ∈ x.referenced c) :
    (x.schema.component d).isGlobalDeclaration = true ∨ x.schema.Encloses c d := by
  rcases List.mem_append.1 hd with hd | hd
  · obtain ⟨items, hitems⟩ := Option.ne_none_iff_exists'.1 (h.items?_ne_none c)
    rw [hitems] at hd
    obtain ⟨item, hitem, hd⟩ := List.mem_filterMap.1 hd
    exact h.of_item hitems hitem hd
  · have hextended := Option.mem_toList.1 hd
    exact .inl (isGlobalDeclaration_of_isComplexType (extended?_cases hextended).1
      (h.isGlobal_of_extended? hextended))

end SchemaSet.Loaded

/-! ## Inside a body -/

/-- A state **within** the body of a class that is built for a component. -/
structure Resolver.State.Within (x : Context) (declared : List ComponentId) (s : State)
    (c : ComponentId) (k : ClassId) : Prop where
  proper : c ≠ SchemaSet.anyType
  bound : s.registry.target? c = some (.classRef k)
  seat : s.Seat x declared c (.classRef k)
  innermost : ∃ scope, s.model.scope? (.classRef k) = some scope ∧
    s.scopes.current = x.inside k scope

namespace Resolver.State.Within

/-- A later state with the same open scopes is within the same body. -/
theorem later (h : s.Within x declared c k) (hlater : s.Later t) (hscopes : t.scopes = s.scopes) :
    t.Within x declared c k where
  proper := h.proper
  bound := hlater.target? h.bound
  seat := h.seat.later hlater
  innermost := by
    obtain ⟨scope, hscope, hcurrent⟩ := h.innermost
    exact ⟨scope, hlater.scope? hscope, hscopes ▸ hcurrent⟩

/-- What a body refers to may be **asked for** within the body. -/
theorem askable (h : s.Within x declared c k) (hset : x.schema.Loaded allowed)
    (hd : d ∈ x.referenced c) : s.Askable x declared d := by
  have hneeded : x.Needed declared d :=
    .referenced h.seat.needed h.seat.bindable h.seat.suits h.proper hd
  rcases hset.of_referenced hd with hglobal | hencloses
  · exact .global hneeded hglobal
  · obtain ⟨scope, hscope, hcurrent⟩ := h.innermost
    refine .inner hneeded ?_
    rw [hcurrent]
    exact .enclosed hencloses h.bound hscope

end Resolver.State.Within

namespace Resolving

/-- An item is added after its type was asked for. -/
theorem placing_addItem (hr : r.Places x declared) (hs : s.Placed x declared) (item : Item)
    (hask : ∀ d ∈ (x.schema.itemSource item).component?, s.Askable x declared d) :
    Placing x declared (r.addItem k item) s fun _ t =>
      ∀ d ∈ (x.schema.itemSource item).component?, t.Known x d := by
  obtain rfl := hr.context
  rw [Resolver.addItem_eq]
  refine (placing_sourceType hr hs _ hask).bind fun type t _ ht hknown => ?_
  -- neither a used customization nor a property moves anything
  have hname (c : ComponentId) :
      Placing r.toContext declared (r.acknowledgeName c) t fun _ u => SamePlaces t u := by
    unfold Resolver.acknowledgeName
    split
    · exact .modify ht { SamePlaces.refl t with }
    · exact .pure ht (.refl t)
  have hacknowledge :
      Placing r.toContext declared (r.acknowledgeItem item) t fun _ u => SamePlaces t u := by
    cases item with
    | value type => exact .pure ht (.refl t)
    | occurrence p => exact hname p.term
    | attr a =>
      show Placing r.toContext declared (if _ then _ else _) t _
      split
      · exact hname a
      · exact .pure ht (.refl t)
  refine hacknowledge.bind fun _ u _ hu hsame => ?_
  have hproperty (p : Option Property) :
      Placing r.toContext declared (Resolver.addProperty? k p) u fun _ v => SamePlaces u v := by
    cases p with
    | none => exact .pure hu (.refl u)
    | some p => exact placing_modifyClass hu k (f := fun info => info.addProperty p) fun _ => rfl
  refine (hproperty _).imp fun _ v _ _ hsame' d hd => ?_
  exact (hknown d hd).later (hsame.trans hsame').later

/-- Items are added one after the other. -/
theorem placing_addItems (hr : r.Places x declared) (hs : s.Placed x declared)
    (items : List Item)
    (hask : ∀ item ∈ items, ∀ d ∈ (x.schema.itemSource item).component?, s.Askable x declared d) :
    Placing x declared (items.forM (r.addItem k)) s fun _ t =>
      ∀ item ∈ items, ∀ d ∈ (x.schema.itemSource item).component?, t.Known x d := by
  induction items generalizing s with
  | nil => exact .pure hs (by simp)
  | cons item rest ih =>
    show Placing x declared (r.addItem k item >>= fun _ => rest.forM (r.addItem k)) s _
    refine (placing_addItem hr hs item (hask item List.mem_cons_self)).bind
      fun _ t hrun ht hfirst => ?_
    have hkeeps : s.Keeps (some k) t := (Resolver.keeping_addItem hr.keeping k item).of_run hrun
    have hrest := ih ht fun other hother d hd =>
      (hask other (.tail _ hother) d hd).later hkeeps.later hkeeps.scopes
    refine hrest.imp fun _ u hrun' _ hknown other hother d hd => ?_
    have hkeeps' : t.Keeps (some k) u :=
      (Keeping.forM fun item _ => Resolver.keeping_addItem hr.keeping k item).of_run hrun'
    rcases List.mem_cons.1 hother with rfl | hother
    · exact (hfirst d hd).later hkeeps'.later
    · exact hknown other hother d hd

/-- The base of a class is asked for, if it is complex. -/
theorem placing_addBase (hr : r.Places x declared) (hs : s.Placed x declared)
    (hask : (x.schema.component b).isComplexType = true → s.Askable x declared b) :
    Placing x declared (r.addBase k b) s fun _ t =>
      (x.schema.component b).isComplexType = true → t.Known x b := by
  obtain rfl := hr.context
  unfold Resolver.addBase Resolver.bindComplexType
  split
  · rename_i hcomplex
    rw [bind_assoc]
    refine (hr.answers b true s hs (hask hcomplex)).bind fun a t _ ht ⟨hknown, _⟩ => ?_
    rw [pure_bind]
    cases a.bind TypeRef.asClass with
    | none => exact .pure ht fun _ => hknown
    | some base =>
      refine (placing_modifyClass (f := fun c => { c with base := some base }) ht k
        fun _ => rfl).imp fun _ u _ _ hsame _ => ?_
      exact hknown.later hsame.later
  · rename_i hsimple
    rw [pure_bind]
    exact .pure hs fun hcomplex => absurd hcomplex hsimple

/-- What the base of a complex type gives is added. -/
theorem placing_addDerivation (hr : r.Places x declared) (hs : s.Placed x declared)
    {id : ComponentId} {type : ComplexType} (hbody : x.schema.bodyKind c = .content id type)
    (hask : ∀ b ∈ x.schema.extended? c, s.Askable x declared b) :
    Placing x declared (r.addDerivation k type) s fun _ t =>
      ∀ b ∈ x.schema.extended? c, t.Known x b := by
  have hextended : x.schema.extended? c = type.base.filter fun base =>
      base ≠ SchemaSet.anyType && (x.schema.component base).isComplexType := by
    unfold SchemaSet.extended?
    rw [hbody]
  obtain rfl := hr.context
  rw [hextended] at hask ⊢
  unfold Resolver.addDerivation
  cases hbase : type.base with
  | none => exact .pure hs (by rintro b ⟨⟩)
  | some base =>
    rw [hbase] at hask
    dsimp only
    -- only a complex base that is not the universal type is extended
    have hmem {b : ComponentId} (hb : b ∈ (some base).filter fun base =>
        base ≠ SchemaSet.anyType && (r.schema.component base).isComplexType) :
        b = base ∧ b ≠ SchemaSet.anyType ∧ (r.schema.component b).isComplexType = true := by
      obtain ⟨hsame, hb⟩ := Option.filter_eq_some_iff.1 hb
      exact ⟨(Option.some.inj hsame).symm, by simpa using hb⟩
    split
    · rename_i hany
      refine .pure hs fun b hb => ?_
      obtain ⟨rfl, hproper, -⟩ := hmem hb
      exact absurd hany hproper
    · rename_i hproper
      split
      · rename_i hsimple
        refine (placing_addItem hr hs (.value base) fun d hd => ?_).imp fun _ t _ _ _ b hb => ?_
        · exact absurd hd (SchemaSet.Loaded.not_mem_valueSource hsimple)
        · obtain ⟨rfl, -, hcomplex⟩ := hmem hb
          rw [Component.isComplexType_of_isSimpleType hsimple] at hcomplex
          cases hcomplex
      · refine (placing_addBase hr hs fun hcomplex => hask base ?_).imp
          fun _ t _ _ hknown b hb => ?_
        · exact Option.filter_eq_some_iff.2 ⟨rfl, by simp [hproper, hcomplex]⟩
        · obtain ⟨rfl, -, hcomplex⟩ := hmem hb
          exact hknown hcomplex

/-- The **standard** body asks for all that it refers to. -/
theorem placing_standardBody (hset : x.schema.Loaded allowed) (hr : r.Places x declared)
    (hs : s.Placed x declared) (hwithin : s.Within x declared c k) :
    Placing x declared (r.standardBody c k) s fun _ t => ∀ d ∈ x.referenced c, t.Known x d := by
  have hask : ∀ d ∈ x.referenced c, s.Askable x declared d := fun d => hwithin.askable hset
  have hextended : ∀ b ∈ x.schema.extended? c, b ∈ x.referenced c :=
    fun b hb => List.mem_append_right _ (Option.mem_toList.2 hb)
  -- whatever an item of the body is about is among what the component refers to
  have hitem {items : List Item} (hitems : x.schema.items? c = some items) :
      ∀ item ∈ items, ∀ d ∈ (x.schema.itemSource item).component?, d ∈ x.referenced c := by
    intro item hmem d hd
    refine List.mem_append_left _ (List.mem_filterMap.2 ⟨item, ?_, hd⟩)
    rwa [hitems]
  obtain rfl := hr.context
  rw [Resolver.standardBody_eq]
  cases hbody : r.schema.bodyKind c with
  | empty =>
    refine .pure hs fun d hd => ?_
    simp [Context.referenced, SchemaSet.items?, SchemaSet.extended?, hbody] at hd
  | value type =>
    have hsimple := SchemaSet.isSimpleType_of_value hbody
    refine (placing_addItem hr hs (.value type) fun d hd => ?_).imp fun _ t _ _ _ d hd => ?_
    · exact absurd hd (SchemaSet.Loaded.not_mem_valueSource hsimple)
    · simp [Context.referenced, SchemaSet.items?, SchemaSet.extended?, hbody] at hd
      exact absurd hd (SchemaSet.Loaded.not_mem_valueSource hsimple)
  | extension type =>
    have hsome : r.schema.extended? c = some type := by simp [SchemaSet.extended?, hbody]
    refine (placing_addBase hr hs fun _ => hask type (hextended type hsome)).imp
      fun _ t _ _ hknown d hd => ?_
    obtain rfl : d = type := by
      simpa [Context.referenced, SchemaSet.items?, SchemaSet.extended?, hbody] using hd
    exact hknown (SchemaSet.isComplexType_of_extension hbody)
  | content id type =>
    dsimp only
    rw [Resolver.addContent_eq]
    refine (placing_addDerivation hr hs hbody fun b hb => hask b (hextended b hb)).bind
      fun _ t hrun ht hbase => ?_
    have hkeeps : s.Keeps (some k) t :=
      (Resolver.keeping_addDerivation hr.keeping k type).of_run hrun
    cases hcontent : r.schema.contentItems? type with
    | none => exact .error rfl trivial
    | some items =>
      have hitems : r.schema.items? c = some (r.schema.baseItems type ++ items) := by
        simp [SchemaSet.items?, hbody, hcontent]
      refine (placing_addItems hr ht items fun item hmem d hd => ?_).imp
        fun _ u hrun' _ hknown d hd => ?_
      · exact (hask d (hitem hitems item (List.mem_append_right _ hmem) d hd)).later hkeeps.later
          hkeeps.scopes
      · have hkeeps' : t.Keeps (some k) u :=
          (Resolver.keeping_addItems hr.keeping k id (some items)).of_run hrun'
        rcases List.mem_append.1 hd with hd | hd
        · rw [hitems] at hd
          obtain ⟨item, hmem, hd⟩ := List.mem_filterMap.1 hd
          rcases List.mem_append.1 hmem with hmem | hmem
          · -- the item for a base is about a simple type, for which nothing is asked
            exact absurd hd (SchemaSet.Loaded.not_mem_baseItems hmem)
          · exact hknown item hmem d hd
        · exact (hbase d (Option.mem_toList.1 hd)).later hkeeps'.later

end Resolving

end SchemaBinding
