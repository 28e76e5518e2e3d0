import Mathlib.Data.List.Nodup
import Mathlib.Data.Nat.Basic
import SchemaBinding.Model.Basic

/-! # Growing models
While components are bound a model only grows: classes and wrappers are added at the end, names and
scopes stay, and what has been settled about a class is not changed again. -/

namespace SchemaBinding

namespace ClassInfo

/-- A class without its abstractness, the one property that may be settled after its body. -/
def concrete (c : ClassInfo) : ClassInfo := { c with isAbstract := false }

/-- Classes that agree apart from their abstractness agree in all else. -/
theorem of_concrete {c d : ClassInfo} (h : c.concrete = d.concrete) :
    c.name = d.name ∧ c.scope = d.scope ∧ c.base = d.base ∧ c.constructors = d.constructors ∧
      c.doc = d.doc ∧ c.properties = d.properties := by
  simpa [concrete] using h

/-- Whether nothing was said about a class but its name, its scope and its abstractness. -/
def Blank (c : ClassInfo) : Prop :=
  c.base = none ∧ c.constructors = [] ∧ c.doc = none ∧ c.properties = []

/-- Documentation leaves everything else about a class alone. -/
theorem foldl_appendDoc (paragraphs : List String) (info : ClassInfo) :
    ∃ doc, paragraphs.foldl appendDoc info = { info with doc } := by
  induction paragraphs generalizing info with
  | nil => exact ⟨info.doc, rfl⟩
  | cons p rest ih =>
    obtain ⟨doc, hdoc⟩ := ih (info.appendDoc p)
    exact ⟨doc, hdoc⟩

/-- A class is documented by any paragraph. -/
theorem isSome_doc_foldl_appendDoc (paragraphs : List String) (info : ClassInfo) :
    (paragraphs.foldl appendDoc info).doc.isSome = (info.doc.isSome || !paragraphs.isEmpty) := by
  induction paragraphs generalizing info with
  | nil => simp
  | cons p rest ih =>
    rw [List.foldl_cons, ih]
    simp [appendDoc]

/-- A constructor leaves everything else about a class alone. -/
theorem addConstructor_eq (params : List String) (info : ClassInfo) :
    ∃ constructors, info.addConstructor params = { info with constructors } := by
  unfold addConstructor
  split
  · exact ⟨info.constructors, rfl⟩
  · exact ⟨_, rfl⟩

end ClassInfo

namespace Model

variable {m n o : Model}

/-! ## All classes and wrappers -/

@[simp] theorem mem_classIds {k : ClassId} : k ∈ m.classIds ↔ k.index < m.classes.size := by
  cases k
  simp [classIds]

/-- No class is listed twice. -/
theorem nodup_classIds (m : Model) : m.classIds.Nodup :=
  List.nodup_range.map fun i j h => by simpa using h

@[simp] theorem mem_elementIds {w : ElementId} :
    w ∈ m.elementIds ↔ w.index < m.elements.size := by
  cases w
  simp [elementIds]

/-- Changing a class is seen at that class alone, provided it exists. -/
theorem classInfo_modifyClass (m : Model) (id k : ClassId) (f : ClassInfo → ClassInfo) :
    (m.modifyClass id f).classInfo k =
      if k = id ∧ k.index < m.classes.size then f (m.classInfo k) else m.classInfo k := by
  unfold classInfo modifyClass
  simp only [Array.getD_eq_getD_getElem?, Array.getElem?_modify]
  by_cases hk : k = id
  · subst hk
    by_cases hsize : k.index < m.classes.size
    · simp [hsize]
    · simp [hsize]
  · have hindex : id.index ≠ k.index := fun h => hk (by cases k; cases id; simpa using h.symm)
    simp [hk, hindex]

@[simp] theorem classInfo_modifyClass_of_ne {id k : ClassId} (h : k ≠ id)
    (f : ClassInfo → ClassInfo) : (m.modifyClass id f).classInfo k = m.classInfo k := by
  rw [classInfo_modifyClass, if_neg fun hk => h hk.1]

/-- A class that exists is changed as asked. -/
theorem classInfo_modifyClass_self {k : ClassId} (h : k.index < m.classes.size)
    (f : ClassInfo → ClassInfo) : (m.modifyClass k f).classInfo k = f (m.classInfo k) := by
  rw [classInfo_modifyClass, if_pos ⟨rfl, h⟩]

/-- Only what is changed about the class itself counts. -/
theorem modifyClass_congr {k : ClassId} {f g : ClassInfo → ClassInfo}
    (h : f (m.classInfo k) = g (m.classInfo k)) : m.modifyClass k f = m.modifyClass k g := by
  unfold modifyClass
  congr 1
  refine Array.ext (by simp) fun i hi _ => ?_
  have hsize : i < m.classes.size := by simpa using hi
  simp only [Array.getElem_modify]
  split
  · rename_i hik
    subst hik
    simpa [classInfo, Array.getD_eq_getD_getElem?, hsize] using h
  · rfl

@[simp] theorem modifyClass_id (m : Model) (k : ClassId) :
    m.modifyClass k (fun info => info) = m := by
  unfold modifyClass
  congr 1
  refine Array.ext (by simp) fun i _ _ => ?_
  simp [Array.getElem_modify]

/-- Changes of one class compose. -/
theorem modifyClass_modifyClass (m : Model) (k : ClassId) (f g : ClassInfo → ClassInfo) :
    (m.modifyClass k f).modifyClass k g = m.modifyClass k fun info => g (f info) := by
  unfold modifyClass
  congr 1
  refine Array.ext (by simp) fun i _ _ => ?_
  simp only [Array.getElem_modify]
  split <;> rfl

/-- A class that was just added is changed as if it had been added so. -/
theorem modifyClass_push (m : Model) (info : ClassInfo) (f : ClassInfo → ClassInfo) :
    ({ m with classes := m.classes.push info } : Model).modifyClass ⟨m.classes.size⟩ f =
      { m with classes := m.classes.push (f info) } := by
  unfold modifyClass
  congr 1
  refine Array.ext (by simp) fun i hi _ => ?_
  have hsize : i < m.classes.size + 1 := by simpa using hi
  simp only [Array.getElem_modify, Array.getElem_push]
  by_cases hlt : i < m.classes.size
  · simp only [hlt, dif_pos]
    rw [if_neg (by omega)]
  · simp only [hlt, dif_neg, not_false_iff]
    rw [if_pos (by omega)]

@[simp] theorem size_classes_modifyClass (m : Model) (id : ClassId) (f : ClassInfo → ClassInfo) :
    (m.modifyClass id f).classes.size = m.classes.size := by
  simp [modifyClass]

/-- Changing a wrapper is seen at that wrapper alone, provided it exists. -/
theorem elementInfo_modifyElement (m : Model) (id w : ElementId) (f : ElementInfo → ElementInfo) :
    (m.modifyElement id f).elementInfo w =
      if w = id ∧ w.index < m.elements.size then f (m.elementInfo w) else m.elementInfo w := by
  unfold elementInfo modifyElement
  simp only [Array.getD_eq_getD_getElem?, Array.getElem?_modify]
  by_cases hw : w = id
  · subst hw
    by_cases hsize : w.index < m.elements.size
    · simp [hsize]
    · simp [hsize]
  · have hindex : id.index ≠ w.index := fun h => hw (by cases w; cases id; simpa using h.symm)
    simp [hw, hindex]

@[simp] theorem size_elements_modifyElement (m : Model) (id : ElementId)
    (f : ElementInfo → ElementInfo) :
    (m.modifyElement id f).elements.size = m.elements.size := by
  simp [modifyElement]

@[simp] theorem classes_modifyElement (m : Model) (id : ElementId)
    (f : ElementInfo → ElementInfo) : (m.modifyElement id f).classes = m.classes := rfl

@[simp] theorem size_classes_newClass (m : Model) (name : String) (scope : Scope) :
    (m.newClass name scope).2.classes.size = m.classes.size + 1 := by
  simp [newClass]

/-- The classes before a new one are as they were. -/
theorem classInfo_newClass_of_lt {name : String} {scope : Scope} {k : ClassId}
    (h : k.index < m.classes.size) :
    (m.newClass name scope).2.classInfo k = m.classInfo k := by
  simp only [classInfo, newClass, Array.getD_eq_getD_getElem?, Array.getElem?_push]
  rw [if_neg (by omega)]

@[simp] theorem size_elements_newElement (m : Model) (name ns : String) (scope : Scope) :
    (m.newElement name ns scope).2.elements.size = m.elements.size + 1 := by
  simp [newElement]

/-- The wrappers before a new one are as they were. -/
theorem elementInfo_newElement_of_lt {name ns : String} {scope : Scope} {w : ElementId}
    (h : w.index < m.elements.size) :
    (m.newElement name ns scope).2.elementInfo w = m.elementInfo w := by
  simp only [elementInfo, newElement, Array.getD_eq_getD_getElem?, Array.getElem?_push]
  rw [if_neg (by omega)]

@[simp] theorem classes_package (m : Model) (name : String) :
    (m.package name).2.classes = m.classes := by
  unfold package
  split <;> rfl

@[simp] theorem elements_package (m : Model) (name : String) :
    (m.package name).2.elements = m.elements := by
  unfold package
  split <;> rfl

/-- The classes of a model are found by position alone. -/
theorem classInfo_congr (h : n.classes = m.classes) (k : ClassId) :
    n.classInfo k = m.classInfo k := by
  unfold classInfo
  rw [h]

/-- The wrappers of a model are found by position alone. -/
theorem elementInfo_congr (h : n.elements = m.elements) (w : ElementId) :
    n.elementInfo w = m.elementInfo w := by
  unfold elementInfo
  rw [h]

/-! ## Growth -/

/-- A model **grows** into another: nothing is removed, and the classes that are settled stay as
they are, apart from their abstractness. -/
structure Grows (settled : ClassId → Prop) (m n : Model) : Prop where
  classes : m.classes.size ≤ n.classes.size
  name : ∀ k : ClassId, k.index < m.classes.size → (n.classInfo k).name = (m.classInfo k).name
  scope : ∀ k : ClassId, k.index < m.classes.size → (n.classInfo k).scope = (m.classInfo k).scope
  body : ∀ k : ClassId, settled k → k.index < m.classes.size →
    (n.classInfo k).concrete = (m.classInfo k).concrete
  wrappers : m.elements.size ≤ n.elements.size
  wrapper : ∀ w : ElementId, w.index < m.elements.size → n.elementInfo w = m.elementInfo w

namespace Grows

variable {settled later : ClassId → Prop}

/-- A model grows into one with the same classes and wrappers. -/
theorem of_eq (hclasses : n.classes = m.classes) (helements : n.elements = m.elements) :
    Grows settled m n where
  classes := hclasses ▸ le_rfl
  name k _ := by rw [classInfo_congr hclasses]
  scope k _ := by rw [classInfo_congr hclasses]
  body k _ _ := by rw [classInfo_congr hclasses]
  wrappers := helements ▸ le_rfl
  wrapper w _ := elementInfo_congr helements w

/-- A model grows into itself. -/
@[refl] theorem refl (m : Model) : Grows settled m m := of_eq rfl rfl

/-- Growth composes when what was settled before is settled after. -/
theorem trans (h₁ : Grows settled m n) (h₂ : Grows later n o)
    (hlater : ∀ k, settled k → later k) : Grows settled m o where
  classes := le_trans h₁.classes h₂.classes
  name k hk := (h₂.name k (lt_of_lt_of_le hk h₁.classes)).trans (h₁.name k hk)
  scope k hk := (h₂.scope k (lt_of_lt_of_le hk h₁.classes)).trans (h₁.scope k hk)
  body k hs hk :=
    (h₂.body k (hlater k hs) (lt_of_lt_of_le hk h₁.classes)).trans (h₁.body k hs hk)
  wrappers := le_trans h₁.wrappers h₂.wrappers
  wrapper w hw := (h₂.wrapper w (lt_of_lt_of_le hw h₁.wrappers)).trans (h₁.wrapper w hw)

/-- Fewer classes may be settled. -/
theorem weaken (h : Grows later m n) (hlater : ∀ k, settled k → later k) : Grows settled m n where
  classes := h.classes
  name := h.name
  scope := h.scope
  body k hs := h.body k (hlater k hs)
  wrappers := h.wrappers
  wrapper := h.wrapper

/-- A new class makes a model grow. -/
theorem newClass (m : Model) (name : String) (scope : Scope) :
    Grows settled m (m.newClass name scope).2 where
  classes := by simp
  name k hk := by rw [classInfo_newClass_of_lt hk]
  scope k hk := by rw [classInfo_newClass_of_lt hk]
  body k _ hk := by rw [classInfo_newClass_of_lt hk]
  wrappers := le_rfl
  wrapper w _ := rfl

/-- A new wrapper makes a model grow. -/
theorem newElement (m : Model) (name ns : String) (scope : Scope) :
    Grows settled m (m.newElement name ns scope).2 where
  classes := le_rfl
  name k _ := rfl
  scope k _ := rfl
  body k _ _ := rfl
  wrappers := by simp
  wrapper w hw := elementInfo_newElement_of_lt hw

/-- Changing a class that is not settled makes a model grow, as long as its name and scope stay. -/
theorem modifyClass (m : Model) {id : ClassId} {f : ClassInfo → ClassInfo}
    (hname : ∀ c, (f c).name = c.name) (hscope : ∀ c, (f c).scope = c.scope)
    (hbody : settled id → ∀ c, (f c).concrete = c.concrete) :
    Grows settled m (m.modifyClass id f) where
  classes := by simp
  name k _ := by
    rw [classInfo_modifyClass]
    split
    · rw [hname]
    · rfl
  scope k _ := by
    rw [classInfo_modifyClass]
    split
    · rw [hscope]
    · rfl
  body k hs _ := by
    rw [classInfo_modifyClass]
    split
    · rename_i h
      exact hbody (h.1 ▸ hs) _
    · rfl
  wrappers := le_rfl
  wrapper w _ := rfl

/-- The content of a wrapper is filled in after the model has grown to hold it. -/
theorem modifyElement (h : Grows settled m n) {id : ElementId} (hnew : m.elements.size ≤ id.index)
    (f : ElementInfo → ElementInfo) : Grows settled m (n.modifyElement id f) where
  classes := h.classes
  name := h.name
  scope := h.scope
  body := h.body
  wrappers := by simpa using h.wrappers
  wrapper w hw := by
    rw [elementInfo_modifyElement, if_neg]
    · exact h.wrapper w hw
    · rintro ⟨rfl, -⟩
      omega

end Grows

end Model

end SchemaBinding
