import SchemaBinding.Proofs.ModelGrowth
import SchemaBinding.Proofs.Renaming.Pairing

/-! # Renamed models
Packages, classes and wrappers refer to each other by position. A model is **renamed** into another
one when the same packages, classes and wrappers stand at other positions there, and refer to each
other by these. Names do not depend on positions. -/

namespace SchemaBinding

/-- Classes by their positions. -/
def ClassId.position : ClassId ≃ Nat where
  toFun := index
  invFun := mk
  left_inv _ := rfl
  right_inv _ := rfl

/-- Wrappers by their positions. -/
def ElementId.position : ElementId ≃ Nat where
  toFun := index
  invFun := mk
  left_inv _ := rfl
  right_inv _ := rfl

/-- Packages by their positions. -/
def PackageId.position : PackageId ≃ Nat where
  toFun := index
  invFun := mk
  left_inv _ := rfl
  right_inv _ := rfl

/-- A **renaming** of models takes packages, classes and wrappers to other positions. -/
structure ModelRenaming where
  packages : Equiv.Perm PackageId
  classes : Equiv.Perm ClassId
  elements : Equiv.Perm ElementId

section Renaming

variable (σ : ModelRenaming)

/-- The same scope in a renamed model. -/
def Scope.rename : Scope → Scope
  | .root => .root
  | .package p => .package (σ.packages p)
  | .nested k => .nested (σ.classes k)

/-- The same type in a renamed model. -/
def TypeRef.rename : TypeRef → TypeRef
  | .classRef k => .classRef (σ.classes k)
  | .wrapper w => .wrapper (σ.elements w)
  | .leaf l => .leaf l

/-- The same property in a renamed model. -/
def Property.rename (p : Property) : Property := { p with type := p.type.map (TypeRef.rename σ) }

/-- The same class in a renamed model. -/
def ClassInfo.rename (info : ClassInfo) : ClassInfo :=
  { info with
    scope := info.scope.rename σ
    base := info.base.map σ.classes
    properties := info.properties.map (Property.rename σ) }

/-- The same wrapper in a renamed model. -/
def ElementInfo.rename (info : ElementInfo) : ElementInfo :=
  { info with
    scope := info.scope.rename σ
    content := info.content.map (TypeRef.rename σ) }

/-- What a renamed class says, field by field. -/
theorem ClassInfo.eq_rename {σ : ModelRenaming} {info info' : ClassInfo}
    (name : info'.name = info.name) (scope : info'.scope = info.scope.rename σ)
    (isAbstract : info'.isAbstract = info.isAbstract) (base : info'.base = info.base.map σ.classes)
    (constructors : info'.constructors = info.constructors) (doc : info'.doc = info.doc)
    (properties : info'.properties = info.properties.map (Property.rename σ)) :
    info' = info.rename σ := by
  cases info'
  cases name
  cases scope
  cases isAbstract
  cases base
  cases constructors
  cases doc
  cases properties
  rfl

/-- What a renamed wrapper says, field by field. -/
theorem ElementInfo.eq_rename {σ : ModelRenaming} {info info' : ElementInfo}
    (name : info'.name = info.name) (ns : info'.ns = info.ns)
    (scope : info'.scope = info.scope.rename σ)
    (content : info'.content = info.content.map (TypeRef.rename σ)) : info' = info.rename σ := by
  cases info'
  cases name
  cases ns
  cases scope
  cases content
  rfl

@[simp] theorem TypeRef.asClass_rename (target : TypeRef) :
    (target.rename σ).asClass = target.asClass.map σ.classes := by
  cases target <;> rfl

/-- A model is **renamed** into another one: what stands at a position stands at the new position
there, with all that it refers to renamed. -/
structure Model.Renamed (m m' : Model) : Prop where
  packages : ∀ p : PackageId, m'.packages[(σ.packages p).index]? = m.packages[p.index]?
  classes : ∀ k : ClassId,
    m'.classes[(σ.classes k).index]? = m.classes[k.index]?.map (ClassInfo.rename σ)
  elements : ∀ w : ElementId,
    m'.elements[(σ.elements w).index]? = m.elements[w.index]?.map (ElementInfo.rename σ)

end Renaming

namespace Model

/-- A class that exists stands at its position. -/
theorem getElem?_classes {m : Model} {k : ClassId} (hk : k.index < m.classes.size) :
    m.classes[k.index]? = some (m.classInfo k) := by
  simp [classInfo, Array.getD_eq_getD_getElem?, hk]

/-- A wrapper that exists stands at its position. -/
theorem getElem?_elements {m : Model} {w : ElementId} (hw : w.index < m.elements.size) :
    m.elements[w.index]? = some (m.elementInfo w) := by
  simp [elementInfo, Array.getD_eq_getD_getElem?, hw]

end Model

namespace Model.Renamed

variable {σ : ModelRenaming} {m m' : Model}

/-- Packages keep their names. -/
theorem packageName (h : m.Renamed σ m') (p : PackageId) :
    m'.packageName (σ.packages p) = m.packageName p := by
  unfold Model.packageName
  rw [Array.getD_eq_getD_getElem?, Array.getD_eq_getD_getElem?, h.packages]

/-- Classes keep what they are, with all that they refer to renamed. -/
theorem classInfo (h : m.Renamed σ m') (k : ClassId) :
    m'.classInfo (σ.classes k) = (m.classInfo k).rename σ := by
  unfold Model.classInfo
  rw [Array.getD_eq_getD_getElem?, Array.getD_eq_getD_getElem?, h.classes]
  cases m.classes[k.index]? <;> rfl

/-- Scopes keep their names, as far as enclosing classes are followed. -/
theorem scopeNameWithin (h : m.Renamed σ m') (steps : Nat) (scope : Scope) :
    m'.scopeNameWithin steps (scope.rename σ) = m.scopeNameWithin steps scope := by
  induction steps generalizing scope with
  | zero =>
    cases scope with
    | root | nested => rfl
    | package p => exact h.packageName p
  | succ steps ih =>
    cases scope with
    | root => rfl
    | package p => exact h.packageName p
    | nested k =>
      unfold Model.scopeNameWithin
      dsimp only [Scope.rename]
      rw [h.classInfo, ← ih (m.classInfo k).scope]
      rfl

/-- A class is in one model exactly when the class at its new position is in the other. -/
theorem mem_classIds_rename (h : m.Renamed σ m') (k : ClassId) :
    σ.classes k ∈ m'.classIds ↔ k ∈ m.classIds := by
  rw [mem_classIds, mem_classIds, ← not_iff_not, Nat.not_lt, Nat.not_lt,
    ← Array.getElem?_eq_none_iff, ← Array.getElem?_eq_none_iff, h.classes, Option.map_eq_none_iff]

/-- The classes of a renamed model are the classes of the model **at other positions**. -/
theorem perm_classIds (h : m.Renamed σ m') : (m.classIds.map σ.classes).Perm m'.classIds := by
  refine (List.perm_ext_iff_of_nodup (m.nodup_classIds.map σ.classes.injective)
    m'.nodup_classIds).2 fun k => ?_
  rw [List.mem_map]
  constructor
  · rintro ⟨k, hk, rfl⟩
    exact (h.mem_classIds_rename k).2 hk
  · intro hk
    refine ⟨σ.classes.symm k, ?_, σ.classes.apply_symm_apply k⟩
    rwa [← h.mem_classIds_rename, σ.classes.apply_symm_apply]

/-- Renamed models have as many classes. -/
theorem size_classes (h : m.Renamed σ m') : m.classes.size = m'.classes.size := by
  have hlength := h.perm_classIds.length_eq
  simpa [classIds] using hlength

/-- A class keeps its **full name** in a renamed model. -/
theorem fullName (h : m.Renamed σ m') (k : ClassId) :
    m'.fullName (σ.classes k) = m.fullName k := by
  unfold Model.fullName Model.scopeName
  rw [← h.size_classes]
  exact h.scopeNameWithin _ (.nested k)

/-- The classes of a renamed model have the **same full names**, each as often. -/
theorem perm_fullNames (h : m.Renamed σ m') :
    (m.classIds.map m.fullName).Perm (m'.classIds.map m'.fullName) := by
  have hnames : m.classIds.map m.fullName = (m.classIds.map σ.classes).map m'.fullName := by
    rw [List.map_map]
    exact List.map_congr_left fun k _ => (h.fullName k).symm
  rw [hnames]
  exact h.perm_classIds.map _

end Model.Renamed

end SchemaBinding
