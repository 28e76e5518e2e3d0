import SchemaBinding.Proofs.Moves.Basic
import SchemaBinding.Proofs.Renaming.Component

/-! # Plans of renamed sets
What the standard strategy plans for a component does not depend on where the component stands. In a
renamed set the same components are bindable, with the same bodies and the same sources of types at
other positions. -/

namespace SchemaBinding

variable {f : ComponentId → ComponentId} {φ : Equiv.Perm ComponentId} {set set' : SchemaSet}

/-! ## Renamed plans -/

/-- A kind of body with all positions changed. -/
def BodyKind.rename (f : ComponentId → ComponentId) : BodyKind → BodyKind
  | .empty => .empty
  | .value type => .value (f type)
  | .extension type => .extension (f type)
  | .content id type => .content (f id) (type.rename f)

/-- An item with all positions changed. -/
def Item.rename (f : ComponentId → ComponentId) : Item → Item
  | .value type => .value (f type)
  | .occurrence particle => .occurrence (particle.rename f)
  | .attr id => .attr (f id)

/-- A source of a type at another position. -/
def TypeSource.rename (f : ComponentId → ComponentId) : TypeSource → TypeSource
  | .known type => .known type
  | .complexType c => .complexType (f c)
  | .element c => .element (f c)

@[simp] theorem TypeSource.component?_rename (f : ComponentId → ComponentId)
    (source : TypeSource) : (source.rename f).component? = source.component?.map f := by
  cases source <;> rfl

/-- Steps that agree on renamed items give renamed results. -/
theorem mapM_map_eq {α β : Type} {r : α → α} {t : β → β} {step step' : α → Option β}
    {items : List α} (h : ∀ a ∈ items, step' (r a) = (step a).map t) :
    (items.map r).mapM step' = (items.mapM step).map (List.map t) := by
  induction items with
  | nil => rfl
  | cons a rest ih =>
    have hrest := ih fun b hb => h b (.tail _ hb)
    rw [List.map_cons, List.mapM_cons, List.mapM_cons, h a List.mem_cons_self, hrest]
    cases step a with
    | none => rfl
    | some b => cases rest.mapM step <;> rfl

namespace SchemaSet.Renamed

/-- Only the universal type stands where it stands. -/
theorem eq_anyType_iff (h : set.Renamed φ set') {c : ComponentId} :
    φ c = SchemaSet.anyType ↔ c = SchemaSet.anyType := by
  have hsame : φ c = φ SchemaSet.anyType ↔ c = SchemaSet.anyType := φ.apply_eq_iff_eq
  rwa [h.anyType] at hsame

/-! ## Types of elements -/

/-- An element has the same type. -/
theorem elementType? (h : set.Renamed φ set') (e : ComponentId) :
    set'.elementType? (φ e) = (set.elementType? e).map φ := by
  unfold SchemaSet.elementType?
  rw [h.component, Component.asElement_rename]
  cases (set.component e).asElement with
  | none => rfl
  | some decl =>
    cases htype : decl.type with
    | none => simp [ElementDecl.rename, htype, h.anyType]
    | some type => simp [ElementDecl.rename, htype]

/-- An anonymous type belongs to the same element. -/
theorem isAnonymousTypeOf (h : set.Renamed φ set') (type element : ComponentId) :
    set'.isAnonymousTypeOf (φ type) (φ element) = set.isAnonymousTypeOf type element := by
  unfold SchemaSet.isAnonymousTypeOf
  simp only [h.component, Component.kind_rename, Component.name_rename, Component.isGlobal_rename]
  cases (set.component type).kind with
  | complexType t =>
    -- the type names an element exactly when it names the renamed one there
    have hsame : t.declaringElement.map φ = some (φ element) ↔
        t.declaringElement = some element := by
      rw [← Option.map_some, (Option.map_injective φ.injective).eq_iff]
    simp [ComponentKind.rename, ComplexType.rename, hsame]
  | _ => rfl

/-- The same elements declare a complex type. -/
theorem declaresComplexType (h : set.Renamed φ set') (element : ComponentId) :
    Resolver.declaresComplexType set' (φ element) = Resolver.declaresComplexType set element := by
  unfold Resolver.declaresComplexType
  rw [h.elementType?]
  cases set.elementType? element with
  | none => rfl
  | some type => simp [h.isAnonymousTypeOf, h.component]

/-! ## Bindable components -/

/-- The same components are bindable. -/
theorem isBindable (h : set.Renamed φ set') (c : ComponentId) :
    set'.isBindable (φ c) = set.isBindable c := by
  unfold SchemaSet.isBindable
  rw [h.component, Component.kind_rename, Component.isGlobal_rename]
  cases (set.component c).kind <;> rfl

/-- The same elements are wrapped. -/
theorem isWrapped (h : set.Renamed φ set') (c : ComponentId) :
    set'.isWrapped (φ c) = set.isWrapped c := by
  unfold SchemaSet.isWrapped
  simp [h.component, h.isBindable, h.declaresComplexType]

/-! ## Bodies -/

/-- A component has a body of the same kind. -/
theorem bodyKind (h : set.Renamed φ set') (c : ComponentId) :
    set'.bodyKind (φ c) = (set.bodyKind c).rename φ := by
  have hbody : Resolver.bodyType? set' (φ c) = (Resolver.bodyType? set c).map φ := by
    unfold Resolver.bodyType?
    rw [h.component, Component.kind_rename]
    cases (set.component c).kind with
    | element decl => exact h.elementType? c
    | _ => rfl
  unfold SchemaSet.bodyKind
  rw [hbody]
  cases Resolver.bodyType? set c with
  | none => rfl
  | some id =>
    simp only [Option.map_some, h.component, Component.kind_rename, h.isAnonymousTypeOf,
      ne_eq, φ.apply_eq_iff_eq]
    cases (set.component id).kind with
    | complexType type =>
      dsimp only [ComponentKind.rename]
      split <;> rfl
    | _ => rfl

/-- A base that is extended is extended at its new position. -/
theorem filter_base (h : set.Renamed φ set') (base : Option ComponentId) :
    (base.map φ).filter (fun b => b ≠ SchemaSet.anyType && (set'.component b).isComplexType) =
      (base.filter fun b => b ≠ SchemaSet.anyType && (set.component b).isComplexType).map φ := by
  cases base with
  | none => rfl
  | some b =>
    simp only [Option.map_some, Option.filter_some, h.component, Component.isComplexType_rename,
      ne_eq, h.eq_anyType_iff]
    split <;> rfl

/-- A component extends the same one. -/
theorem extended? (h : set.Renamed φ set') (c : ComponentId) :
    set'.extended? (φ c) = (set.extended? c).map φ := by
  unfold SchemaSet.extended?
  rw [h.bodyKind]
  cases set.bodyKind c with
  | content id type => exact h.filter_base type.base
  | _ => rfl

/-- A particle stands for the same occurrences, as far as groups are followed. -/
theorem particleOccurrences (h : set.Renamed φ set') (steps : Nat) (p : Particle) :
    set'.particleOccurrences steps (p.rename φ) =
      (set.particleOccurrences steps p).map (List.map (Particle.rename φ)) := by
  induction steps generalizing p with
  | zero => rfl
  | succ steps ih =>
    unfold SchemaSet.particleOccurrences
    rw [show (p.rename φ).term = φ p.term from rfl, h.component, Component.kind_rename]
    cases (set.component p.term).kind with
    | group group =>
      have hparticles : (group.particles.map (Particle.rename φ)).mapM
          (set'.particleOccurrences steps) =
            (group.particles.mapM (set.particleOccurrences steps)).map
              (List.map (List.map (Particle.rename φ))) :=
        mapM_map_eq fun p _ => ih p
      dsimp only [ComponentKind.rename, ModelGroup.rename]
      rw [hparticles, Option.map_map, Option.map_map]
      exact congrFun (congrArg _ (funext fun _ => (List.map_flatten ..).symm)) _
    | _ => rfl

/-- A content has the same occurrences. -/
theorem occurrences? (h : set.Renamed φ set') (content : List Particle) :
    set'.occurrences? (content.map (Particle.rename φ)) =
      (set.occurrences? content).map (List.map (Particle.rename φ)) := by
  unfold SchemaSet.occurrences?
  rw [h.size, mapM_map_eq fun p _ => h.particleOccurrences (set.size + 1) p, Option.map_map,
    Option.map_map]
  exact congrFun (congrArg _ (funext fun _ => (List.map_flatten ..).symm)) _

/-- A body is about the same items. -/
theorem items? (h : set.Renamed φ set') (c : ComponentId) :
    set'.items? (φ c) = (set.items? c).map (List.map (Item.rename φ)) := by
  have hcontent (type : ComplexType) : set'.contentItems? (type.rename φ) =
      (set.contentItems? type).map (List.map (Item.rename φ)) := by
    unfold SchemaSet.contentItems?
    rw [show (type.rename φ).content = type.content.map (Particle.rename φ) from rfl,
      h.occurrences?]
    cases set.occurrences? type.content with
    | none => rfl
    | some occurrences =>
      simp only [ComplexType.rename, Option.map_some, List.map_append, List.map_map]
      rfl
  have hbase (type : ComplexType) : set'.baseItems (type.rename φ) =
      (set.baseItems type).map (Item.rename φ) := by
    unfold SchemaSet.baseItems
    rw [show (type.rename φ).base = type.base.map φ from rfl]
    cases type.base with
    | none => rfl
    | some base =>
      simp only [Option.map_some, h.component, Component.isSimpleType_rename, ne_eq,
        h.eq_anyType_iff]
      split <;> rfl
  unfold SchemaSet.items?
  rw [h.bodyKind]
  cases set.bodyKind c with
  | content id type =>
    dsimp only [BodyKind.rename]
    rw [hcontent, hbase]
    cases set.contentItems? type <;> simp
  | _ => rfl

/-! ## Sources of types -/

/-- Bases lead to the same leaf, as far as they are followed. -/
theorem leafWithin (h : set.Renamed φ set') (steps : Nat) (type : ComponentId) :
    set'.leafWithin steps (φ type) = set.leafWithin steps type := by
  induction steps generalizing type with
  | zero => rfl
  | succ steps ih =>
    unfold SchemaSet.leafWithin
    rw [h.component, Component.asSimpleType_rename]
    cases (set.component type).asSimpleType with
    | none => rfl
    | some simple =>
      dsimp only [Option.map_some, SimpleType.rename]
      cases simple.builtin with
      | some name => rfl
      | none =>
        cases simple.base with
        | none => rfl
        | some base => exact ih base

/-- A type has the same leaf. -/
theorem leaf (h : set.Renamed φ set') (type : ComponentId) :
    set'.leaf (φ type) = set.leaf type := by
  unfold SchemaSet.leaf
  rw [h.size, h.leafWithin]

/-- A value has its type from the same source. -/
theorem valueSource (h : set.Renamed φ set') (type : ComponentId) :
    set'.valueSource (φ type) = (set.valueSource type).rename φ := by
  unfold SchemaSet.valueSource
  rw [h.component, Component.kind_rename]
  cases (set.component type).kind with
  | simpleType t =>
    dsimp only [ComponentKind.rename]
    rw [h.leaf]
    rfl
  | _ => rfl

/-- The content of an element has its type from the same source. -/
theorem contentSource (h : set.Renamed φ set') (e : ComponentId) :
    set'.contentSource (φ e) = (set.contentSource e).rename φ := by
  unfold SchemaSet.contentSource
  rw [h.elementType?]
  cases set.elementType? e with
  | none => rfl
  | some type => exact h.valueSource type

/-- An element has its type from the same source. -/
theorem elementSource (h : set.Renamed φ set') (e : ComponentId) :
    set'.elementSource (φ e) = (set.elementSource e).rename φ := by
  unfold SchemaSet.elementSource
  rw [h.component, Component.isGlobal_rename, h.elementType?]
  split
  · rfl
  · cases set.elementType? e with
    | none => rfl
    | some type => exact h.valueSource type

/-- An item has its type from the same source. -/
theorem itemSource (h : set.Renamed φ set') (item : Item) :
    set'.itemSource (item.rename φ) = (set.itemSource item).rename φ := by
  cases item with
  | value type => exact h.valueSource type
  | occurrence p => exact h.elementSource p.term
  | attr id =>
    unfold SchemaSet.itemSource
    dsimp only [Item.rename]
    rw [h.component, Component.asAttribute_rename]
    cases (set.component id).asAttribute with
    | none => rfl
    | some decl =>
      dsimp only [Option.map_some]
      unfold SchemaSet.attributeSource
      dsimp only [AttributeDecl.rename]
      cases decl.type with
      | none => rfl
      | some type => exact h.valueSource type

end SchemaSet.Renamed

end SchemaBinding
