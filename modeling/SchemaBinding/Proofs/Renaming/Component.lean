import Mathlib.Logic.Equiv.Defs
import SchemaBinding.Proofs.Schema.Kind
import SchemaBinding.Schema.Basic

/-! # Renamed components
Components refer to each other by position. A **renaming** gives them other positions and changes
nothing else: a set is renamed into another when every component says there of the new positions
what it said of the old ones. -/

namespace SchemaBinding

variable {f g : ComponentId → ComponentId}

/-! ## Renaming a component -/

/-- A particle whose term has another position. -/
def Particle.rename (f : ComponentId → ComponentId) (p : Particle) : Particle :=
  { p with term := f p.term }

/-- An element declaration whose type has another position. -/
def ElementDecl.rename (f : ComponentId → ComponentId) (decl : ElementDecl) : ElementDecl :=
  { decl with type := decl.type.map f }

/-- A complex type whose parts have other positions. -/
def ComplexType.rename (f : ComponentId → ComponentId) (type : ComplexType) : ComplexType :=
  { type with
    base := type.base.map f
    content := type.content.map (Particle.rename f)
    attributes := type.attributes.map f
    declaringElement := type.declaringElement.map f }

/-- A simple type whose base has another position. -/
def SimpleType.rename (f : ComponentId → ComponentId) (type : SimpleType) : SimpleType :=
  { type with base := type.base.map f }

/-- An attribute declaration whose type has another position. -/
def AttributeDecl.rename (f : ComponentId → ComponentId) (decl : AttributeDecl) : AttributeDecl :=
  { decl with type := decl.type.map f }

/-- A model group whose particles have other positions. -/
def ModelGroup.rename (f : ComponentId → ComponentId) (group : ModelGroup) : ModelGroup :=
  { group with particles := group.particles.map (Particle.rename f) }

/-- What a component is, with all that it refers to at other positions. -/
def ComponentKind.rename (f : ComponentId → ComponentId) : ComponentKind → ComponentKind
  | .element decl => .element (decl.rename f)
  | .complexType type => .complexType (type.rename f)
  | .simpleType type => .simpleType (type.rename f)
  | .attribute decl => .attribute (decl.rename f)
  | .group g => .group (g.rename f)

/-- A **renamed** component refers to other positions. -/
def Component.rename (f : ComponentId → ComponentId) (c : Component) : Component :=
  { c with kind := c.kind.rename f }

namespace Component

variable (f) (c : Component)

@[simp] theorem kind_rename : (c.rename f).kind = c.kind.rename f := rfl

@[simp] theorem name_rename : (c.rename f).name = c.name := rfl

@[simp] theorem ns_rename : (c.rename f).ns = c.ns := rfl

@[simp] theorem isGlobal_rename : (c.rename f).isGlobal = c.isGlobal := rfl

@[simp] theorem locator_rename : (c.rename f).locator = c.locator := rfl

@[simp] theorem custom_rename : (c.rename f).custom = c.custom := rfl

@[simp] theorem nameOrEmpty_rename : (c.rename f).nameOrEmpty = c.nameOrEmpty := rfl

@[simp] theorem asElement_rename :
    (c.rename f).asElement = c.asElement.map (ElementDecl.rename f) := by
  unfold asElement
  rw [kind_rename]
  cases c.kind <;> rfl

@[simp] theorem asComplexType_rename :
    (c.rename f).asComplexType = c.asComplexType.map (ComplexType.rename f) := by
  unfold asComplexType
  rw [kind_rename]
  cases c.kind <;> rfl

@[simp] theorem asSimpleType_rename :
    (c.rename f).asSimpleType = c.asSimpleType.map (SimpleType.rename f) := by
  unfold asSimpleType
  rw [kind_rename]
  cases c.kind <;> rfl

@[simp] theorem asAttribute_rename :
    (c.rename f).asAttribute = c.asAttribute.map (AttributeDecl.rename f) := by
  unfold asAttribute
  rw [kind_rename]
  cases c.kind <;> rfl

@[simp] theorem asGroup_rename :
    (c.rename f).asGroup = c.asGroup.map (ModelGroup.rename f) := by
  unfold asGroup
  rw [kind_rename]
  cases c.kind <;> rfl

@[simp] theorem isElement_rename : (c.rename f).isElement = c.isElement := by
  simp [isElement]

@[simp] theorem isComplexType_rename : (c.rename f).isComplexType = c.isComplexType := by
  simp [isComplexType]

@[simp] theorem isSimpleType_rename : (c.rename f).isSimpleType = c.isSimpleType := by
  simp [isSimpleType]

@[simp] theorem isGroup_rename : (c.rename f).isGroup = c.isGroup := by
  simp [isGroup]

@[simp] theorem isGlobalDeclaration_rename :
    (c.rename f).isGlobalDeclaration = c.isGlobalDeclaration := by
  simp [isGlobalDeclaration]

/-- Renaming twice is renaming once. -/
theorem rename_rename (g : ComponentId → ComponentId) :
    (c.rename f).rename g = c.rename (g ∘ f) := by
  have hparticles (ps : List Particle) :
      (ps.map (Particle.rename f)).map (Particle.rename g) = ps.map (Particle.rename (g ∘ f)) :=
    List.map_map
  have hkind : (c.kind.rename f).rename g = c.kind.rename (g ∘ f) := by
    cases c.kind <;>
      simp [ComponentKind.rename, ElementDecl.rename, ComplexType.rename, SimpleType.rename,
        AttributeDecl.rename, ModelGroup.rename, hparticles]
  unfold rename
  rw [hkind]

/-- Nothing changes when every position stays. -/
@[simp] theorem rename_id : c.rename id = c := by
  have hparticles (ps : List Particle) : ps.map (Particle.rename id) = ps :=
    List.map_id ps
  have hkind : c.kind.rename id = c.kind := by
    cases c.kind <;>
      simp [ComponentKind.rename, ElementDecl.rename, ComplexType.rename, SimpleType.rename,
        AttributeDecl.rename, ModelGroup.rename, hparticles]
  unfold rename
  rw [hkind]

end Component

/-! ## Renaming a set -/

/-- A set is **renamed** into another one: each component stands at another position there, and
refers to the others where they stand. -/
structure SchemaSet.Renamed (φ : Equiv.Perm ComponentId) (set set' : SchemaSet) : Prop where
  size : set'.size = set.size
  component : ∀ c, set'.component (φ c) = (set.component c).rename φ
  anyType : φ anyType = anyType
  /-- The same packages are named for the same namespaces. -/
  package : ∀ ns, (set'.schema? ns).bind Schema.package = (set.schema? ns).bind Schema.package
  declared : ∀ c, φ c ∈ set'.globalDeclarations ↔ c ∈ set.globalDeclarations

/-- A renaming can be undone. -/
theorem SchemaSet.Renamed.symm {φ : Equiv.Perm ComponentId} {set set' : SchemaSet}
    (h : set.Renamed φ set') : set'.Renamed φ.symm set where
  size := h.size.symm
  component c := by
    obtain ⟨d, rfl⟩ := φ.surjective c
    rw [h.component, φ.symm_apply_apply, Component.rename_rename, φ.symm_comp_self,
      Component.rename_id]
  anyType := by
    rw [φ.symm_apply_eq]
    exact h.anyType.symm
  package ns := (h.package ns).symm
  declared c := by
    rw [← h.declared, φ.apply_symm_apply]

end SchemaBinding
