import SchemaBinding.Proofs.Placement.Body
import SchemaBinding.Proofs.Moves.Titles
import SchemaBinding.Proofs.Renaming.Documentation
import SchemaBinding.Proofs.Renaming.Model

/-! # Renamed contexts
The names, the documentation and the properties of a class depend on its component, but not on the
position of the component. So does what is needed: in a renamed context the same components are
needed, and enclose each other. -/

namespace SchemaBinding

variable {φ : Equiv.Perm ComponentId} {σ : ModelRenaming} {set set' : SchemaSet} {x x' : Context}
  {allowed allowed' : String → Prop} {registry registry' : Registry} {c d e : ComponentId}

/-! ## Renamed sets -/

namespace SchemaSet.Renamed

/-- What is asked for in place of a component is the same at another position. -/
theorem asked? (h : set.Renamed φ set') (c : ComponentId) :
    set'.asked? (φ c) = (set.asked? c).map φ := by
  unfold SchemaSet.asked?
  rw [h.component, Component.kind_rename, Component.name_rename, h.isWrapped, h.elementType?]
  cases (set.component c).kind with
  | element decl =>
    dsimp only [ComponentKind.rename]
    split
    · cases set.elementType? c with
      | none => rfl
      | some type =>
        simp only [Option.map_some, Option.filter_some, h.component, Component.isComplexType_rename]
        split <;> rfl
    · rfl
  | complexType type =>
    dsimp only [ComponentKind.rename, ComplexType.rename]
    split <;> rfl
  | _ => rfl

/-- An anonymous type goes by the same element. -/
theorem namesake (h : set.Renamed φ set') (c : ComponentId) :
    set'.namesake (φ c) = φ (set.namesake c) := by
  unfold SchemaSet.namesake
  rw [h.component, Component.isComplexType_rename, h.asked?]
  split
  · cases set.asked? c <;> rfl
  · rfl

/-- The same types are abstract. -/
theorem isAbstractType (h : set.Renamed φ set') (c : ComponentId) :
    set'.isAbstractType (φ c) = set.isAbstractType c := by
  unfold SchemaSet.isAbstractType
  rw [h.component, Component.asComplexType_rename]
  cases (set.component c).asComplexType <;> rfl

/-- A content holds the same elements. -/
theorem contains (h : set.Renamed φ set') (hcontains : (set.component c).Contains e) :
    (set'.component (φ c)).Contains (φ e) := by
  obtain ⟨type, p, htype, hp, rfl⟩ := hcontains
  refine ⟨type.rename φ, p.rename φ, ?_, List.mem_map_of_mem hp, rfl⟩
  rw [h.component, Component.asComplexType_rename, htype]
  rfl

/-- What encloses each other does so **at other positions**. -/
theorem encloses (h : set.Renamed φ set') (hencloses : set.Encloses d c) :
    set'.Encloses (φ d) (φ c) := by
  obtain @⟨e, id, type, body, contained, inner, declaring, anonymous⟩ := hencloses
  have hbody : set'.bodyKind (φ d) = .content (φ id) (type.rename φ) := by
    rw [h.bodyKind, body]
    rfl
  refine ⟨hbody, h.contains contained, ?_, ?_, ?_⟩
  · rw [h.component, Component.isGlobal_rename, inner]
  · rw [h.declaringElement?, declaring]
    rfl
  · rw [h.component, Component.isGlobal_rename, anonymous]

/-- A component that extends itself does so at another position. -/
theorem transGen_extended? (h : set.Renamed φ set')
    (hchain : Relation.TransGen (fun a b => set.extended? a = some b) c d) :
    Relation.TransGen (fun a b => set'.extended? a = some b) (φ c) (φ d) := by
  refine Relation.TransGen.lift φ (fun a b hextended => ?_) _ _ hchain
  show set'.extended? (φ a) = some (φ b)
  rw [h.extended?, hextended]
  rfl

end SchemaSet.Renamed

/-! ## Types that are known beforehand -/

/-- A source is **fixed** when what it knows beforehand is a leaf. -/
def TypeSource.Fixed (source : TypeSource) : Prop :=
  ∀ target, source = .known (some target) → ∃ l, target = .leaf l

namespace SchemaSet

/-- What a value is of, known beforehand, is a leaf. -/
theorem fixed_valueSource (set : SchemaSet) (type : ComponentId) :
    (set.valueSource type).Fixed := by
  intro target h
  unfold valueSource at h
  cases hkind : (set.component type).kind with
  | simpleType t =>
    rw [hkind] at h
    exact ⟨_, (Option.some.inj (TypeSource.known.inj h)).symm⟩
  | _ => simp [hkind] at h

/-- What the content of an element is of, known beforehand, is a leaf. -/
theorem fixed_contentSource (set : SchemaSet) (e : ComponentId) : (set.contentSource e).Fixed := by
  unfold contentSource
  split
  · exact set.fixed_valueSource _
  · rintro _ ⟨⟩

/-- All that is known about an item beforehand is a leaf. -/
theorem fixed_itemSource (set : SchemaSet) (item : Item) : (set.itemSource item).Fixed := by
  cases item with
  | value type => exact set.fixed_valueSource type
  | occurrence p =>
    unfold itemSource elementSource
    dsimp only
    split
    · rintro _ ⟨⟩
    · split
      · exact set.fixed_valueSource _
      · rintro _ ⟨⟩
  | attr id =>
    unfold itemSource attributeSource
    dsimp only
    split
    · split
      · exact set.fixed_valueSource _
      · rintro _ ⟨⟩
        exact ⟨_, rfl⟩
    · rintro _ ⟨⟩

end SchemaSet

/-! ## Renamed contexts -/

/-- Registries **correspond** when components are bound to the same types at other positions. -/
def Registry.Renamed (φ : Equiv.Perm ComponentId) (σ : ModelRenaming)
    (registry registry' : Registry) : Prop :=
  ∀ c, registry'.target? (φ c) = (registry.target? c).map (TypeRef.rename σ)

namespace Context

/-- A context is **renamed** when its schema set is, and everything else stays. -/
structure Renamed (φ : Equiv.Perm ComponentId) (x x' : Context) : Prop where
  schema : x.schema.Renamed φ x'.schema
  config : x'.config = x.config
  naming : x'.naming = x.naming

namespace Renamed

/-- The contexts may change places. -/
theorem symm (h : x.Renamed φ x') : x'.Renamed φ.symm x where
  schema := h.schema.symm
  config := h.config.symm
  naming := h.naming.symm

/-! ### Names and documentation -/

/-- Packages have the same names. -/
theorem packageName (h : x.Renamed φ x') (ns : String) : x'.packageName ns = x.packageName ns := by
  unfold Context.packageName
  rw [h.config, h.naming, h.schema.package]

/-- Classes are named alike. -/
theorem nameAfter (h : x.Renamed φ x') (c : ComponentId) : x'.nameAfter (φ c) = x.nameAfter c := by
  unfold Context.nameAfter
  rw [h.naming, h.schema.component]
  rfl

/-- Properties are named alike. -/
theorem propertyName (h : x.Renamed φ x') (c : ComponentId) :
    x'.propertyName (φ c) = x.propertyName c := by
  unfold Context.propertyName
  rw [h.naming, h.schema.component, Component.custom_rename, Component.nameOrEmpty_rename]

/-- Bodies begin with the same documentation. -/
theorem docs? (h : x.Renamed φ x') (hset : x.schema.Loaded allowed)
    (hset' : x'.schema.Loaded allowed') (c : ComponentId) (info : ClassInfo) :
    x'.docs? (φ c) info = x.docs? c info := by
  unfold Context.docs?
  rw [h.config, h.schema.documentation? hset hset']

/-- Classes are prepared alike. -/
theorem prepared (h : x.Renamed φ x') (c : ComponentId) (docs : List String) (info : ClassInfo) :
    x'.prepared (φ c) docs info = x.prepared c docs info := by
  unfold Context.prepared
  rw [h.schema.elementType?]
  cases x.schema.elementType? c with
  | none => rfl
  | some type => simp only [Option.map_some, h.schema.component, Component.isSimpleType_rename]

/-- Classes that are prepared for a component in either context begin **alike**. -/
theorem preparedFor (h : x.Renamed φ x') (hset : x.schema.Loaded allowed)
    (hset' : x'.schema.Loaded allowed') {info info' : ClassInfo} (hinfo : x.PreparedFor c info)
    (hinfo' : x'.PreparedFor (φ c) info') :
    info'.constructors = info.constructors ∧ info'.doc = info.doc := by
  obtain ⟨docs, hdocs, hconstructors, hdoc⟩ := hinfo
  obtain ⟨docs', hdocs', hconstructors', hdoc'⟩ := hinfo'
  rw [h.docs? hset hset', hdocs] at hdocs'
  obtain rfl := Option.some.inj hdocs'
  rw [hconstructors, hdoc, hconstructors', hdoc', h.prepared]
  exact ⟨rfl, rfl⟩

/-! ### Bases and properties -/

/-- The type that a source gives is **renamed** with its binding. -/
theorem type_rename (hregistry : registry.Renamed φ σ registry') {source : TypeSource}
    (hfixed : source.Fixed) :
    (source.rename φ).type registry' = (source.type registry).map (TypeRef.rename σ) := by
  cases source with
  | known type =>
    cases type with
    | none => rfl
    | some target =>
      obtain ⟨l, rfl⟩ := hfixed target rfl
      rfl
  | complexType c | element c => exact hregistry c

/-- An item prescribes the same property, of a type that stands elsewhere. -/
theorem property? (h : x.Renamed φ x') (hregistry : registry.Renamed φ σ registry')
    (item : Item) : x'.property? registry' (item.rename φ) =
      (x.property? registry item).map (Property.rename σ) := by
  unfold Context.property?
  rw [h.schema.itemSource, type_rename hregistry (x.schema.fixed_itemSource item)]
  generalize (x.schema.itemSource item).type registry = type
  cases item with
  | value => rfl
  | occurrence p =>
    dsimp only [Item.rename, Context.itemProperty?, Particle.rename, Option.map_some,
      Property.rename]
    rw [h.propertyName, h.schema.component, Component.isGlobal_rename]
  | attr id =>
    dsimp only [Item.rename, Context.itemProperty?]
    rw [h.propertyName, h.schema.component, Component.asAttribute_rename, Option.isSome_map]
    split <;> rfl

/-- A body has the same properties, in the same order. -/
theorem bodyProperties? (h : x.Renamed φ x') (hregistry : registry.Renamed φ σ registry')
    (c : ComponentId) : x'.bodyProperties? registry' (φ c) =
      (x.bodyProperties? registry c).map (List.map (Property.rename σ)) := by
  unfold Context.bodyProperties?
  rw [h.schema.items?, Option.map_map, Option.map_map]
  refine congrFun (congrArg _ (funext fun items => ?_)) _
  dsimp only [Function.comp_apply]
  rw [List.filterMap_map, List.map_filterMap]
  exact List.filterMap_congr fun item _ => h.property? hregistry item

/-- A class has the same base, at another position. -/
theorem base? (h : x.Renamed φ x') (hregistry : registry.Renamed φ σ registry')
    (c : ComponentId) : x'.base? registry' (φ c) = (x.base? registry c).map σ.classes := by
  unfold Context.base?
  rw [h.schema.extended?]
  cases x.schema.extended? c with
  | none => rfl
  | some b =>
    dsimp only [Option.map_some, Option.bind_some]
    rw [hregistry b]
    cases registry.target? b with
    | none => rfl
    | some target => exact TypeRef.asClass_rename σ target

/-! ### What is needed -/

/-- A body refers to the same components. -/
theorem referenced (h : x.Renamed φ x') (c : ComponentId) :
    x'.referenced (φ c) = (x.referenced c).map φ := by
  have hsources (items : List Item) :
      (items.map (Item.rename φ)).filterMap (fun item => (x'.schema.itemSource item).component?) =
        (items.filterMap fun item => (x.schema.itemSource item).component?).map φ := by
    rw [List.filterMap_map, List.map_filterMap]
    refine List.filterMap_congr fun item _ => ?_
    rw [Function.comp_apply, h.schema.itemSource, TypeSource.component?_rename]
  unfold Context.referenced
  rw [h.schema.items?, h.schema.extended?, List.map_append]
  congr 1
  · cases x.schema.items? c with
    | none => rfl
    | some items => exact hsources items
  · cases x.schema.extended? c <;> rfl

/-- What is needed for declarations is needed for them **at other positions**. -/
theorem needed (h : x.Renamed φ x') {declared declared' : List ComponentId}
    (hdeclared : ∀ c ∈ declared, φ c ∈ declared') (hneeded : x.Needed declared c) :
    x'.Needed declared' (φ c) := by
  induction hneeded with
  | declared declared => exact .declared (hdeclared _ declared)
  | @wrapped e c _ wrapped content ih =>
    refine .wrapped ih ((h.schema.isWrapped e).trans wrapped) ?_
    rw [h.schema.contentSource, TypeSource.component?_rename]
    exact Option.mem_map_of_mem φ content
  | @referenced c d _ bindable plain proper referenced ih =>
    refine .referenced ih ((h.schema.isBindable c).trans bindable)
      ((h.schema.isWrapped c).trans plain) (fun hany => proper (h.schema.eq_anyType_iff.1 hany)) ?_
    rw [h.referenced]
    exact List.mem_map_of_mem referenced

end Renamed

end Context

end SchemaBinding
