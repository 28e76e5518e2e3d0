import SchemaBinding.Proofs.ModelGrowth

/-! # Models that differ in placement
A model is another one **flattened** when nothing but the scopes of classes tells them apart and
each scope is the package that the scope in the other model leads to. Whatever is done to both of
them alike, they stay so. -/

namespace SchemaBinding

/-- A change of classes is **local** when it neither looks at their scopes nor changes them. -/
def ClassInfo.Local (f : ClassInfo → ClassInfo) : Prop :=
  ∀ (c : ClassInfo) (scope : Scope), f { c with scope } = { f c with scope }

namespace ClassInfo.Local

variable {f : ClassInfo → ClassInfo}

/-- A local change leaves the scope of a class alone. -/
theorem scope (h : Local f) (c : ClassInfo) : (f c).scope = c.scope := by
  have hc := congrArg ClassInfo.scope (h c c.scope)
  exact hc

/-- A constructor is added locally. -/
theorem addConstructor (params : List String) : Local fun c => c.addConstructor params := by
  intro c scope
  unfold ClassInfo.addConstructor
  dsimp only
  split <;> rfl

/-- Documentation is added locally. -/
theorem appendDoc (paragraphs : List String) :
    Local fun c => paragraphs.foldl ClassInfo.appendDoc c := by
  intro c scope
  induction paragraphs generalizing c with
  | nil => rfl
  | cons p rest ih => exact ih (c.appendDoc p)

end ClassInfo.Local

namespace Model

variable {m n : Model} {scope flat : Scope} {p q : PackageId}

/-! ## Scopes that stay -/

/-- A later model **keeps the scopes** of the classes of an earlier one. -/
structure KeepsScopes (m n : Model) : Prop where
  classes : m.classes.size ≤ n.classes.size
  scope : ∀ k : ClassId, k.index < m.classes.size → (n.classInfo k).scope = (m.classInfo k).scope

namespace KeepsScopes

/-- Without a change of the classes, their scopes are kept. -/
theorem of_eq (h : n.classes = m.classes) : m.KeepsScopes n where
  classes := h ▸ le_rfl
  scope k _ := by rw [classInfo_congr h]

/-- A new class keeps the scopes of all others. -/
theorem newClass (m : Model) (name : String) (scope : Scope) :
    m.KeepsScopes (m.newClass name scope).2 where
  classes := by simp
  scope k hk := by rw [classInfo_newClass_of_lt hk]

/-- A local change of a class keeps all scopes. -/
theorem modifyClass (m : Model) (k : ClassId) {f : ClassInfo → ClassInfo}
    (hlocal : ClassInfo.Local f) : m.KeepsScopes (m.modifyClass k f) where
  classes := by simp
  scope j _ := by
    rw [classInfo_modifyClass]
    split
    · exact hlocal.scope _
    · rfl

end KeepsScopes

/-- A model that grows keeps the scopes of its classes. -/
theorem Grows.keepsScopes {settled : ClassId → Prop} (h : m.Grows settled n) : m.KeepsScopes n :=
  ⟨h.classes, h.scope⟩

/-- A scope **leads to** the package that is reached by following the scopes of classes upwards. -/
inductive LeadsTo (m : Model) : Scope → PackageId → Prop
  | package (p : PackageId) : LeadsTo m (.package p) p
  | nested {k : ClassId} {p : PackageId} (inside : k.index < m.classes.size)
      (outer : LeadsTo m (m.classInfo k).scope p) : LeadsTo m (.nested k) p

/-- A scope leads to the same package later on. -/
theorem LeadsTo.keep (h : m.LeadsTo scope p) (hkeeps : m.KeepsScopes n) : n.LeadsTo scope p := by
  induction h with
  | package p => exact .package p
  | nested hk _ ih =>
    refine .nested (lt_of_lt_of_le hk hkeeps.classes) ?_
    rwa [hkeeps.scope _ hk]

/-- A scope is **replaced** by the package that it leads to. -/
def Replaces (m : Model) (scope flat : Scope) : Prop := ∃ p, m.LeadsTo scope p ∧ flat = .package p

namespace Replaces

/-- A package is its own replacement. -/
theorem package (m : Model) (p : PackageId) : m.Replaces (.package p) (.package p) :=
  ⟨p, .package p, rfl⟩

/-- A replacement stays one. -/
theorem keep (h : m.Replaces scope flat) (hkeeps : m.KeepsScopes n) : n.Replaces scope flat := by
  obtain ⟨p, hp, hflat⟩ := h
  exact ⟨p, hp.keep hkeeps, hflat⟩

/-- The root is never replaced, and replaces nothing. -/
theorem ne_root (h : m.Replaces scope flat) : scope ≠ .root ∧ flat ≠ .root := by
  obtain ⟨p, hp, rfl⟩ := h
  constructor
  · rintro rfl
    cases hp
  · simp

end Replaces

/-- A model **has** a type unless it is a class that the model lacks. -/
def HasType (m : Model) : TypeRef → Prop
  | .classRef k => k.index < m.classes.size
  | _ => True

/-- A type that is there stays there. -/
theorem HasType.keep {type : TypeRef} (h : m.HasType type) (hkeeps : m.KeepsScopes n) :
    n.HasType type := by
  cases type with
  | classRef k => exact lt_of_lt_of_le h hkeeps.classes
  | _ => trivial

/-! ## Flattened models -/

/-- A model is another one **flattened** when it has the same packages, wrappers and classes, and
the scope of each class is replaced. -/
structure Flattened (m n : Model) : Prop where
  packages : n.packages = m.packages
  elements : n.elements = m.elements
  classes : n.classes.size = m.classes.size
  info : ∀ k, n.classInfo k = { m.classInfo k with scope := (n.classInfo k).scope }
  scope : ∀ k : ClassId, k.index < m.classes.size →
    m.Replaces (m.classInfo k).scope (n.classInfo k).scope

namespace Flattened

/-- Nothing is to be flattened in an empty model. -/
theorem empty : Flattened {} {} where
  packages := rfl
  elements := rfl
  classes := rfl
  info _ := rfl
  scope _ hk := absurd hk (Nat.not_lt_zero _)

/-- Classes keep their names when a model is flattened. -/
theorem name (h : m.Flattened n) (k : ClassId) : (n.classInfo k).name = (m.classInfo k).name := by
  rw [h.info k]

/-- Classes keep their documentation when a model is flattened. -/
theorem doc (h : m.Flattened n) (k : ClassId) : (n.classInfo k).doc = (m.classInfo k).doc := by
  rw [h.info k]

/-- Models whose classes are not changed stay flattened. -/
theorem of_eq {m' n' : Model} (h : m.Flattened n) (hm : m'.classes = m.classes)
    (hn : n'.classes = n.classes) (hpackages : n'.packages = m'.packages)
    (helements : n'.elements = m'.elements) : m'.Flattened n' where
  packages := hpackages
  elements := helements
  classes := by rw [hm, hn, h.classes]
  info k := by
    rw [classInfo_congr hm, classInfo_congr hn]
    exact h.info k
  scope k hk := by
    rw [classInfo_congr hm, classInfo_congr hn]
    exact (h.scope k (hm ▸ hk)).keep (.of_eq hm)

/-- A package has the same id in both models. -/
theorem package_fst (h : m.Flattened n) (name : String) :
    (n.package name).1 = (m.package name).1 := by
  unfold Model.package findPackage?
  rw [h.packages]
  cases m.packages.toList.idxOf? name <;> rfl

/-- The same package is found, or allocated, in both models. -/
theorem package (h : m.Flattened n) (name : String) :
    Flattened (m.package name).2 (n.package name).2 := by
  refine h.of_eq (by simp) (by simp) ?_ (by simp [h.elements])
  unfold Model.package findPackage?
  rw [h.packages]
  cases m.packages.toList.idxOf? name with
  | some _ => exact h.packages
  | none => rfl

/-- The same wrapper is allocated in both models. -/
theorem newElement (h : m.Flattened n) (name ns : String) (scope : Scope) :
    Flattened (m.newElement name ns scope).2 (n.newElement name ns scope).2 :=
  h.of_eq rfl rfl h.packages (by simp [Model.newElement, h.elements])

/-- Wrappers are changed alike in both models. -/
theorem modifyElement (h : m.Flattened n) (w : ElementId) (f : ElementInfo → ElementInfo) :
    Flattened (m.modifyElement w f) (n.modifyElement w f) :=
  h.of_eq rfl rfl h.packages (by simp [Model.modifyElement, h.elements])

/-- A class has the same id in both models. -/
theorem newClass_fst (h : m.Flattened n) (name : String) (scope flat : Scope) :
    (n.newClass name flat).1 = (m.newClass name scope).1 := by
  unfold Model.newClass
  rw [h.classes]

/-- A class that is not among the earlier ones is the new one, if it exists. -/
private theorem classInfo_newClass_of_not_lt (m : Model) (name : String) (scope : Scope)
    {k : ClassId} (hk : ¬ k.index < m.classes.size) :
    (m.newClass name scope).2.classInfo k =
      if k.index = m.classes.size then { name, scope } else default := by
  simp only [classInfo, Model.newClass, Array.getD_eq_getD_getElem?, Array.getElem?_push]
  split
  · rfl
  · rw [Array.getElem?_eq_none (by omega)]
    rfl

/-- The same class is allocated in both models, if its scope is replaced. -/
theorem newClass (h : m.Flattened n) (name : String) (hscope : m.Replaces scope flat) :
    Flattened (m.newClass name scope).2 (n.newClass name flat).2 := by
  have hkeeps : m.KeepsScopes (m.newClass name scope).2 := .newClass m name scope
  refine ⟨h.packages, h.elements, by simp [h.classes], fun k => ?info, fun k hk => ?scope⟩
  case info =>
    by_cases hk : k.index < m.classes.size
    · rw [classInfo_newClass_of_lt hk, classInfo_newClass_of_lt (h.classes ▸ hk)]
      exact h.info k
    · rw [classInfo_newClass_of_not_lt m name scope hk,
        classInfo_newClass_of_not_lt n name flat (h.classes ▸ hk), h.classes]
      split <;> rfl
  case scope =>
    by_cases hlt : k.index < m.classes.size
    · rw [classInfo_newClass_of_lt hlt, classInfo_newClass_of_lt (h.classes ▸ hlt)]
      exact (h.scope k hlt).keep hkeeps
    · have heq : k.index = m.classes.size := by
        rw [size_classes_newClass] at hk
        omega
      rw [classInfo_newClass_of_not_lt m name scope hlt,
        classInfo_newClass_of_not_lt n name flat (h.classes ▸ hlt), h.classes, if_pos heq,
        if_pos heq]
      exact hscope.keep hkeeps

/-- A **local** change of a class may be made in both models. -/
theorem modifyClass (h : m.Flattened n) (k : ClassId) {f : ClassInfo → ClassInfo}
    (hlocal : ClassInfo.Local f) : Flattened (m.modifyClass k f) (n.modifyClass k f) := by
  have hkeeps : m.KeepsScopes (m.modifyClass k f) := .modifyClass m k hlocal
  have hkeeps' : n.KeepsScopes (n.modifyClass k f) := .modifyClass n k hlocal
  refine ⟨h.packages, h.elements, by simp [h.classes], fun j => ?info, fun j hj => ?scope⟩
  case info =>
    rw [classInfo_modifyClass, classInfo_modifyClass, h.classes]
    split
    · rw [h.info j, hlocal]
    · exact h.info j
  case scope =>
    have hlt : j.index < m.classes.size := by simpa using hj
    rw [hkeeps.scope j hlt, hkeeps'.scope j (h.classes ▸ hlt)]
    exact (h.scope j hlt).keep hkeeps

end Flattened

end Model

end SchemaBinding
