import SchemaBinding.Proofs.Following.Proposal

/-! # Bodies as moves
Inside of a body nothing is being proposed, and the questions that it asks leave its class alone. So
the class has, after each step, what the steps so far have written; and what they have been told
about other components stays right until the body is finished. -/

namespace SchemaBinding

open Resolver (State)

variable {x : Context} {limit n : Nat} {r : Resolver} {s t u : State} {c : ComponentId}
  {k : ClassId}

/-! ## Inside a body -/

/-- A state **inside** the body of a class that is built for a component. -/
structure Resolver.State.Inside (x : Context) (limit n : Nat) (s : State) (c : ComponentId)
    (k : ClassId) : Prop where
  reachable : Reachable x s.ledger
  alone : s.ledger.proposing = []
  top : ∃ rest, s.ledger.building = c :: rest
  begun : Mark.begun c k ∈ s.ledger.log
  deep : limit ≤ s.ledger.depth + n

namespace Resolver.State.Inside

/-- What a state is inside of stays so over moves that keep the state. -/
theorem keeps {inner : Option ClassId} (h : s.Inside x limit n c k) (hkeeps : s.Keeps inner t)
    (hmoves : Moves x s.ledger t.ledger) : t.Inside x limit n c k where
  reachable := h.reachable.moves hmoves
  alone := hkeeps.ledger_proposing.trans h.alone
  top := by
    rw [hkeeps.ledger_building]
    exact h.top
  begun := hkeeps.ledger_log h.begun
  deep := by
    rw [hkeeps.ledger_depth]
    exact h.deep

/-- A component may be asked for while no proposal is under way, as is the case in a body. -/
theorem ready (h : s.Inside x limit n c k) (b : ComponentId) : s.Ready x limit n b where
  reachable := h.reachable
  asked p hp := by
    rw [h.alone] at hp
    cases hp
  deep := h.deep

/-- The component that the body extends may be asked for **immediately**. -/
theorem urgent (h : s.Inside x limit n c k) {b : ComponentId}
    (hextended : x.schema.extended? c = some b) : s.Urgent x b where
  alone := h.alone
  extended a ha := by
    obtain ⟨rest, htop⟩ := h.top
    rw [htop] at ha
    obtain rfl : c = a := by simpa using ha
    exact hextended

/-- The class of a body exists. -/
theorem index_lt (h : s.Inside x limit n c k) : k.index < s.ledger.model.classes.size :=
  h.reachable.building.index_lt h.reachable.housed (h.reachable.building.of_begun h.begun).1

/-- **Questions** leave the class of the body that asks them alone. -/
theorem concrete (h : s.Inside x limit n c k) (hkeeps : s.Keeps none t) :
    (t.ledger.model.classInfo k).concrete = (s.ledger.model.classInfo k).concrete := by
  have hbuilt : k ∈ s.ledger.built := (h.reachable.building.of_begun h.begun).1
  exact hkeeps.model.body k ⟨hbuilt, by simp⟩ h.index_lt

/-- What a body writes is a move. -/
theorem moves_writing (h : s.Inside x limit n c k) {base : Option ClassId}
    {properties : List Property} {f : ClassInfo → ClassInfo}
    (hf : f (s.ledger.model.classInfo k) =
      { s.ledger.model.classInfo k with base, properties }) :
    Moves x s.ledger ({ s with model := s.model.modifyClass k f } : State).ledger := by
  obtain ⟨rest, htop⟩ := h.top
  have hledger : ({ s with model := s.model.modifyClass k f } : State).ledger =
      s.ledger.writing k base properties := by
    have hmodel : s.ledger.model.modifyClass k f = s.ledger.model.modifyClass k
        fun info => { info with base, properties } := Model.modifyClass_congr hf
    show { s.ledger with model := s.ledger.model.modifyClass k f } = _
    rw [hmodel]
    rfl
  rw [hledger]
  exact .single (.write h.alone htop h.begun)

end Resolver.State.Inside

/-! ## Items -/

/-- The properties for a list of items were **added** to a class. -/
structure Resolver.Added (x : Context) (k : ClassId) (items : List Item) (s t : State) : Prop where
  properties : (t.ledger.model.classInfo k).properties =
    (s.ledger.model.classInfo k).properties ++ items.filterMap (x.property? t.ledger.registry)
  base : (t.ledger.model.classInfo k).base = (s.ledger.model.classInfo k).base
  answered : ∀ item ∈ items, ∀ d ∈ (x.schema.itemSource item).component?, x.Answered t.ledger d

namespace Resolver.Added

variable {items more : List Item}

/-- No properties were added for no items. -/
theorem nil (x : Context) (k : ClassId) (s : State) : Added x k [] s s where
  properties := (List.append_nil _).symm
  base := rfl
  answered _ h := by cases h

/-- Properties added one list after the other were added for both. -/
theorem append (h : Added x k items s t) (ht : Reachable x t.ledger)
    (hmoves : Moves x t.ledger u.ledger) (hmore : Added x k more t u) :
    Added x k (items ++ more) s u where
  properties := by
    rw [hmore.properties, h.properties, List.filterMap_append,
      Context.filterMap_property?_moves ht hmoves h.answered, List.append_assoc]
  base := hmore.base.trans h.base
  answered item hitem d hd := by
    rcases List.mem_append.1 hitem with hitem | hitem
    · exact ht.answered_moves hmoves (h.answered item hitem d hd)
    · exact hmore.answered item hitem d hd

end Resolver.Added

namespace Resolving

/-- A property is added **at the end**, and no binding changes. -/
theorem follows_addProperty? (hs : s.Inside x limit n c k) (p : Option Property) :
    Follows x limit (Resolver.addProperty? k p) s fun _ t =>
      t.ledger.registry = s.ledger.registry ∧
        (t.ledger.model.classInfo k).properties =
          (s.ledger.model.classInfo k).properties ++ p.toList ∧
        (t.ledger.model.classInfo k).base = (s.ledger.model.classInfo k).base := by
  cases p with
  | none => exact .pure ⟨rfl, (List.append_nil _).symm, rfl⟩
  | some p =>
    have hinfo : (({ s with model := s.model.modifyClass k fun info => info.addProperty p } :
        State).ledger.model.classInfo k) = (s.ledger.model.classInfo k).addProperty p :=
      Model.classInfo_modifyClass_self hs.index_lt _
    refine .ok rfl (hs.moves_writing (f := fun info => info.addProperty p) rfl) ⟨rfl, ?_, ?_⟩
    · have hset := congrArg ClassInfo.properties hinfo
      exact hset
    · have hset := congrArg ClassInfo.base hinfo
      exact hset

/-- An item is **added** with the type that its source gives. -/
theorem follows_addItem (hr : r.Sound x limit n) (hs : s.Inside x limit n c k) (item : Item) :
    Follows x limit (r.addItem k item) s fun _ t => Resolver.Added x k [item] s t := by
  obtain rfl := hr.context
  rw [Resolver.addItem_eq]
  -- no proposal is under way inside a body, so the source may ask
  have hsource : Follows r.toContext limit (r.sourceType (r.schema.itemSource item)) s fun a t =>
      a = (r.schema.itemSource item).type t.registry ∧
        ∀ d ∈ (r.schema.itemSource item).component?, r.toContext.Answered t.ledger d := by
    refine follows_sourceType hr _ hs.reachable hs.deep ?_ fun _ _ => hs.alone
    rw [hs.alone]
    intro d _ p hp
    cases hp
  refine hsource.bind fun type t hrun hmoves ⟨htype, hanswered⟩ => ?_
  have hkeeps : s.Keeps none t := (Resolver.keeping_sourceType hr.keeping _).of_run hrun
  have ht := hs.keeps hkeeps hmoves
  obtain ⟨-, -, hbase, -, -, hproperties⟩ := ClassInfo.of_concrete (hs.concrete hkeeps)
  have hsilent : Follows r.toContext limit (r.acknowledgeItem item) t fun _ u =>
      u.ledger = t.ledger := (Silent.acknowledgeItem r item).follows fun _ _ _ hledger => hledger
  refine hsilent.bind fun _ u hrun' hmoves' hledger => ?_
  have hkeeps' : t.Keeps none u := (Resolver.keeping_acknowledgeItem item).of_run hrun'
  have hu := ht.keeps hkeeps' hmoves'
  refine (follows_addProperty? hu _).imp fun _ v _ hmoves'' ⟨hregistry, hadded, hsame⟩ => ?_
  rw [hledger] at hregistry hadded hsame
  refine ⟨?_, hsame.trans hbase, fun item' hitem' d hd => ?_⟩
  · -- the registry is the one that the type was read off
    have hproperty : r.toContext.property? v.ledger.registry item =
        r.toContext.itemProperty? item type := by
      unfold Context.property?
      rw [htype, hregistry]
      rfl
    rw [hadded, hproperties, List.filterMap_cons, hproperty]
    cases r.toContext.itemProperty? item type <;> rfl
  · obtain rfl := List.mem_singleton.1 hitem'
    exact ht.reachable.answered_moves (hmoves'.trans hmoves'') (hanswered d hd)

/-- Items are added **in their order**. -/
theorem follows_addItems (hr : r.Sound x limit n) (hs : s.Inside x limit n c k)
    (items : List Item) :
    Follows x limit (items.forM (r.addItem k)) s fun _ t => Resolver.Added x k items s t := by
  induction items generalizing s with
  | nil => exact .pure (.nil x k s)
  | cons item rest ih =>
    show Follows x limit (r.addItem k item >>= fun _ => rest.forM (r.addItem k)) s _
    refine (follows_addItem hr hs item).bind fun _ t hrun hmoves hadded => ?_
    have ht := hs.keeps ((Resolver.keeping_addItem hr.keeping k item).of_run hrun) hmoves
    exact (ih ht).imp fun _ u _ hmoves' hrest =>
      hadded.append ht.reachable hmoves' hrest

end Resolving

/-! ## Bases -/

/-- The base of a class is **settled** for the component whose body it is. -/
structure Resolver.Based (x : Context) (c : ComponentId) (k : ClassId) (s t : State) : Prop where
  base : (t.ledger.model.classInfo k).base = x.base? t.ledger.registry c
  extended : ∀ b ∈ x.schema.extended? c, x.Answered t.ledger b ∧ b ∉ s.ledger.building ∧
    ∀ d, t.ledger.target? b = some (.classRef d) → d ∈ t.ledger.built

namespace Resolving

/-- What a body extends is asked for immediately, so its class is **built** with the answer. -/
theorem follows_bindExtended (hr : r.Sound x limit n) (hs : s.Inside x limit n c k)
    {b : ComponentId} (hextended : x.schema.extended? c = some b)
    (hcomplex : (x.schema.component b).isComplexType) :
    Follows x limit (r.bindComplexType b true) s fun a t =>
      Resolver.Reply x s b true (t.ledger.target? b) t ∧
        a = (t.ledger.target? b).bind TypeRef.asClass := by
  obtain rfl := hr.context
  unfold Resolver.bindComplexType
  rw [if_pos hcomplex]
  refine (hr.answers b true s (hs.ready b) fun _ => hs.urgent hextended).bind
    fun a t _ _ hreply => ?_
  obtain rfl := hreply.target
  exact .pure ⟨hreply, rfl⟩

/-- The class of a complex type becomes the **base**, once its own body is complete. -/
theorem follows_addBase (hr : r.Sound x limit n) (hs : s.Inside x limit n c k) {b : ComponentId}
    (hextended : x.schema.extended? c = some b) (hcomplex : (x.schema.component b).isComplexType)
    (hblank : (s.ledger.model.classInfo k).base = none) :
    Follows x limit (r.addBase k b) s fun _ t => Resolver.Based x c k s t ∧
      (t.ledger.model.classInfo k).properties = (s.ledger.model.classInfo k).properties := by
  unfold Resolver.addBase
  refine (follows_bindExtended hr hs hextended hcomplex).bind fun a t hrun hmoves ⟨hreply, ha⟩ => ?_
  have hkeeps : s.Keeps none t := (Resolver.keeping_bindComplexType hr.keeping b true).of_run hrun
  have ht := hs.keeps hkeeps hmoves
  obtain ⟨-, -, hbase, -, -, hproperties⟩ := ClassInfo.of_concrete (hs.concrete hkeeps)
  obtain ⟨hidle, hbuilt⟩ := hreply.built rfl
  have hprescribed : ∀ registry, registry = t.ledger.registry → x.base? registry c = a := by
    rintro registry rfl
    rw [Context.base?, hextended, ha]
    rfl
  have hanswer : ∀ d ∈ x.schema.extended? c, x.Answered t.ledger d ∧
      d ∉ s.ledger.building ∧
        ∀ j, t.ledger.target? d = some (.classRef j) → j ∈ t.ledger.built := by
    intro d hd
    obtain rfl : b = d := by
      rw [hextended] at hd
      simpa using hd
    exact ⟨hreply.answered, hidle, hbuilt⟩
  cases a with
  | none =>
    refine .pure ⟨⟨?_, hanswer⟩, hproperties⟩
    -- the base has no class, and neither had the class that extends it
    rw [hbase, hblank, hprescribed _ rfl]
  | some d =>
    have hinfo : (({ t with
          model := t.model.modifyClass k fun info => { info with base := some d } } :
        State).ledger.model.classInfo k) = { t.ledger.model.classInfo k with base := some d } :=
      Model.classInfo_modifyClass_self ht.index_lt _
    refine .ok rfl (ht.moves_writing (f := fun info => { info with base := some d }) rfl) ?_
    refine ⟨⟨?_, hanswer⟩, ?_⟩
    · have hset := congrArg ClassInfo.base hinfo
      exact hset.trans (hprescribed _ rfl).symm
    · have hset := congrArg ClassInfo.properties hinfo
      exact hset.trans hproperties

end Resolving

/-! ## Whole bodies -/

/-- A body was **written**: it has its base, and the properties for a list of items. -/
structure Resolver.Written (x : Context) (c : ComponentId) (k : ClassId) (items : List Item)
    (s t : State) : Prop where
  based : Resolver.Based x c k s t
  properties : (t.ledger.model.classInfo k).properties =
    (s.ledger.model.classInfo k).properties ++ items.filterMap (x.property? t.ledger.registry)
  answered : ∀ item ∈ items, ∀ d ∈ (x.schema.itemSource item).component?, x.Answered t.ledger d

namespace Resolver.Written

variable {items more : List Item}

/-- Items without a base to extend. -/
theorem of_added (hextended : x.schema.extended? c = none)
    (hblank : (s.ledger.model.classInfo k).base = none) (h : Added x k items s t) :
    Written x c k items s t where
  based :=
    { base := by rw [h.base, hblank, Context.base?, hextended]; rfl
      extended := fun b hb => by rw [hextended] at hb; cases hb }
  properties := h.properties
  answered := h.answered

/-- A base without items. -/
theorem of_based (h : Based x c k s t)
    (hproperties : (t.ledger.model.classInfo k).properties =
      (s.ledger.model.classInfo k).properties) : Written x c k [] s t where
  based := h
  properties := by rw [hproperties]; exact (List.append_nil _).symm
  answered _ hitem := by cases hitem

/-- More items are added to a body. -/
theorem append (h : Written x c k items s t) (ht : Reachable x t.ledger)
    (hkeeps : t.Keeps (some k) u) (hmoves : Moves x t.ledger u.ledger)
    (hmore : Added x k more t u) : Written x c k (items ++ more) s u where
  based :=
    { base := by
        rw [hmore.base, h.based.base]
        unfold Context.base?
        cases hextended : x.schema.extended? c with
        | none => rfl
        | some b =>
          -- the base was answered for, so later items do not bind it anew
          have htarget : u.ledger.registry.target? b = t.ledger.registry.target? b :=
            ht.target?_answered hmoves (h.based.extended b hextended).1
          simp only [Option.bind_some, htarget]
      extended := fun b hb => by
        obtain ⟨hanswered, hidle, hbuilt⟩ := h.based.extended b hb
        refine ⟨ht.answered_moves hmoves hanswered, hidle, fun d hd => hkeeps.built (hbuilt d ?_)⟩
        rw [← ht.target?_answered hmoves hanswered]
        exact hd }
  properties := by
    rw [hmore.properties, h.properties, List.filterMap_append,
      Context.filterMap_property?_moves ht hmoves h.answered, List.append_assoc]
  answered item hitem d hd := by
    rcases List.mem_append.1 hitem with hitem | hitem
    · exact ht.answered_moves hmoves (h.answered item hitem d hd)
    · exact hmore.answered item hitem d hd

/-- A class whose whole body was written is **complete**. -/
theorem complete (h : Written x c k items s t) (hitems : x.schema.items? c = some items)
    (hblank : (s.ledger.model.classInfo k).properties = []) : x.Complete t.ledger c k where
  properties := by
    rw [h.properties, hblank, Context.bodyProperties?, hitems]
    rfl
  base := h.based.base
  answered d hd := by
    rcases List.mem_append.1 hd with hd | hd
    · rw [hitems] at hd
      obtain ⟨item, hitem, hd⟩ := List.mem_filterMap.1 hd
      exact h.answered item hitem d hd
    · exact (h.based.extended d (Option.mem_toList.1 hd)).1

end Resolver.Written

namespace Resolving

/-- What the base of a complex type gives is written first. -/
theorem follows_addDerivation (hr : r.Sound x limit n) (hs : s.Inside x limit n c k)
    {id : ComponentId} {type : ComplexType} (hkind : x.schema.bodyKind c = .content id type)
    (hblank : (s.ledger.model.classInfo k).base = none) :
    Follows x limit (r.addDerivation k type) s fun _ t =>
      Resolver.Written x c k (x.schema.baseItems type) s t := by
  have hextended : x.schema.extended? c = type.base.filter fun base =>
      base ≠ SchemaSet.anyType && (x.schema.component base).isComplexType := by
    unfold SchemaSet.extended?
    rw [hkind]
  obtain rfl := hr.context
  unfold Resolver.addDerivation SchemaSet.baseItems
  cases hbase : type.base with
  | none =>
    rw [hbase] at hextended
    exact .pure (.of_added hextended hblank (.nil _ k s))
  | some b =>
    rw [hbase] at hextended
    dsimp only
    -- the universal type is no base, a simple type gives a value, a complex one a base class
    by_cases hany : b = SchemaSet.anyType
    · rw [if_pos hany]
      simp only [hany, ne_eq, not_true_eq_false, decide_false, Bool.false_and, Bool.false_eq_true,
        if_false]
      refine .pure (.of_added ?_ hblank (.nil _ k s))
      rw [hextended]
      simp [hany]
    · rw [if_neg hany]
      by_cases hsimple : (r.schema.component b).isSimpleType
      · rw [if_pos hsimple, if_pos (by simp [hany, hsimple])]
        have hnone : r.schema.extended? c = none := by
          rw [hextended]
          simp [Component.isComplexType_of_isSimpleType hsimple]
        exact (follows_addItem hr hs (.value b)).imp fun _ t _ _ h => .of_added hnone hblank h
      · rw [if_neg hsimple, if_neg (by simp [hsimple])]
        by_cases hcomplex : (r.schema.component b).isComplexType
        · have hsome : r.schema.extended? c = some b := by
            rw [hextended]
            simp [hany, hcomplex]
          exact (follows_addBase hr hs hsome hcomplex hblank).imp fun _ t _ _ h =>
            .of_based h.1 h.2
        · have hnone : r.schema.extended? c = none := by
            rw [hextended]
            simp [hcomplex]
          unfold Resolver.addBase Resolver.bindComplexType
          rw [if_neg hcomplex, pure_bind]
          exact .pure (.of_added hnone hblank (.nil _ k s))

/-- The **standard** body writes all that the schema prescribes, or there is no end to it. -/
theorem follows_standardBody (hr : r.Sound x limit n) (hs : s.Inside x limit n c k)
    (hblank : (s.ledger.model.classInfo k).base = none) :
    Follows x limit (r.standardBody c k) s fun _ t =>
      ∃ items, x.schema.items? c = some items ∧ Resolver.Written x c k items s t := by
  obtain rfl := hr.context
  rw [Resolver.standardBody_eq]
  cases hkind : r.schema.bodyKind c with
  | empty =>
    have hitems : r.schema.items? c = some [] := by simp [SchemaSet.items?, hkind]
    have hextended : r.schema.extended? c = none := by simp [SchemaSet.extended?, hkind]
    exact .pure ⟨[], hitems, .of_added hextended hblank (.nil _ k s)⟩
  | value type =>
    have hitems : r.schema.items? c = some [.value type] := by simp [SchemaSet.items?, hkind]
    have hextended : r.schema.extended? c = none := by simp [SchemaSet.extended?, hkind]
    exact (follows_addItem hr hs (.value type)).imp fun _ t _ _ h =>
      ⟨[.value type], hitems, .of_added hextended hblank h⟩
  | extension type =>
    have hitems : r.schema.items? c = some [] := by simp [SchemaSet.items?, hkind]
    have hextended : r.schema.extended? c = some type := by simp [SchemaSet.extended?, hkind]
    have hcomplex := SchemaSet.isComplexType_of_extension hkind
    exact (follows_addBase hr hs hextended hcomplex hblank).imp fun _ t _ _ h =>
      ⟨[], hitems, .of_based h.1 h.2⟩
  | content id type =>
    have hitems : r.schema.items? c =
        (r.schema.contentItems? type).map fun items => r.schema.baseItems type ++ items := by
      simp only [SchemaSet.items?, hkind]
    dsimp only
    rw [Resolver.addContent_eq]
    refine (follows_addDerivation hr hs hkind hblank).bind fun _ t hrun hmoves hwritten => ?_
    have ht := hs.keeps ((Resolver.keeping_addDerivation hr.keeping k type).of_run hrun) hmoves
    cases hcontent : r.schema.contentItems? type with
    | none =>
      rw [hcontent] at hitems
      -- the content has no end, so the body is stuck where it stands
      obtain ⟨rest, htop⟩ := ht.top
      refine .error rfl .refl (.unwritten ?_ hitems)
      rw [htop]
      exact List.mem_cons_self
    | some items =>
      rw [hcontent] at hitems
      refine (follows_addItems hr ht items).imp fun _ u hrun' hmoves' hadded => ?_
      have hkeeps : t.Keeps (some k) u :=
        (Resolver.keeping_addItems hr.keeping k id (some items)).of_run hrun'
      exact ⟨_, hitems, hwritten.append ht.reachable hkeeps hmoves' hadded⟩

end Resolving

end SchemaBinding
