import SchemaBinding.Proofs.Placement.Steps
import SchemaBinding.Proofs.Tree.Paths

/-! # How models are formed
A model is formed by adding packages, classes and wrappers and by changing classes and wrappers. As
long as a class is only ever placed in a package or a class that is there without it, the model
stays rooted. -/

namespace SchemaBinding.Model

variable {m : Model} {k j : ClassId} {path : List ClassId} {scope : Scope} {name ns : String}

/-- A model **has** a scope when the package or the class of the scope exists. -/
def HasScope (m : Model) : Scope → Prop
  | .root => True
  | .package p => p.index < m.packages.size
  | .nested k => k.index < m.classes.size

/-- The models that are **formed** step by step. A class is only placed in a scope that exists
already, and not in itself or in a class that exists inside it. -/
inductive Formed : Model → Prop
  | empty : Formed {}
  | package {m : Model} (formed : Formed m) (name : String) : Formed (m.package name).2
  | newClass {m : Model} (formed : Formed m) (name : String) {scope : Scope}
      (existing : m.HasScope scope) : Formed (m.newClass name scope).2
  | newElement {m : Model} (formed : Formed m) (name ns : String) (scope : Scope) :
      Formed (m.newElement name ns scope).2
  /-- All else about a class is changed at will. -/
  | modifyClass {m : Model} (formed : Formed m) (k : ClassId) {f : ClassInfo → ClassInfo}
      (kept : (f (m.classInfo k)).scope = (m.classInfo k).scope) : Formed (m.modifyClass k f)
  /-- A class is moved, and may be changed meanwhile. -/
  | moveClass {m : Model} (formed : Formed m) (k : ClassId) {f : ClassInfo → ClassInfo}
      (existing : m.HasScope (f (m.classInfo k)).scope)
      (outside : ∀ j, (f (m.classInfo k)).scope = .nested j → ∀ path scope,
        m.Lies j path scope → k ∉ path) : Formed (m.modifyClass k f)
  | modifyElement {m : Model} (formed : Formed m) (w : ElementId) (f : ElementInfo → ElementInfo) :
      Formed (m.modifyElement w f)

/-! ## Scopes after a change -/

/-- A changed class is where the change has **put** it, and the others stay where they are. -/
theorem scope?_modifyClass_classRef (m : Model) (k j : ClassId) (f : ClassInfo → ClassInfo) :
    (m.modifyClass k f).scope? (.classRef j) =
      if j = k ∧ k.index < m.classes.size then some (f (m.classInfo k)).scope
      else m.scope? (.classRef j) := by
  by_cases hj : j.index < m.classes.size
  · rw [scope?_classRef (by simpa using hj), classInfo_modifyClass, scope?_classRef hj]
    by_cases hjk : j = k
    · subst hjk
      simp [hj]
    · simp [hjk]
  · have hnone : m.classes[j.index]? = none := by simpa using hj
    rw [if_neg (by rintro ⟨rfl, hk⟩; exact hj hk)]
    simp [scope?, modifyClass, Array.getElem?_modify, hnone]

namespace Rooted

/-- An empty model is rooted. -/
theorem empty : Rooted {} := by
  intro k hk
  simp at hk

/-- A model stays rooted when its classes **stay in their scopes**. -/
theorem keep (h : m.Rooted) {n : Model} (hpackages : m.packages.size ≤ n.packages.size)
    (hscope : ∀ k, n.scope? (.classRef k) = m.scope? (.classRef k)) : n.Rooted := by
  intro k hk
  have hlt : k.index < m.classes.size := by
    have hin := scope?_classRef (mem_classIds.1 hk)
    rw [hscope] at hin
    exact index_lt_of_scope? hin
  obtain ⟨path, scope, hlies⟩ := h k (mem_classIds.2 hlt)
  exact ⟨path, scope, hlies.keep hpackages fun j _ scope hj => (hscope j).trans hj⟩

/-- A class that is put into an **existing** scope lies there, if that does not depend on it. -/
theorem exists_lies (h : m.Rooted) {n : Model} (hpackages : n.packages = m.packages)
    (hothers : ∀ i, i ≠ k → n.scope? (.classRef i) = m.scope? (.classRef i))
    (hk : n.scope? (.classRef k) = some scope) (hexisting : m.HasScope scope)
    (houtside : ∀ j, scope = .nested j → ∀ path outer, m.Lies j path outer → k ∉ path) :
    ∃ path outer, n.Lies k path outer := by
  cases scope with
  | root => exact ⟨[k], .root, .outermost hk (by simp)⟩
  | package p =>
    refine ⟨[k], .package p, .outermost hk ?_⟩
    rw [package_mem_outerScopes, hpackages]
    exact hexisting
  | nested j =>
    obtain ⟨path, outer, hlies⟩ := h j (mem_classIds.2 hexisting)
    have hnot := houtside j rfl path outer hlies
    have hkept := hlies.keep (n := n) (by rw [hpackages]) fun i hi scope hscope =>
      (hothers i fun heq => hnot (heq ▸ hi)).trans hscope
    exact ⟨path ++ [k], outer, .inside hk hkept⟩

/-- A model stays rooted when a class is **put** into an existing scope that does not depend on the
class, whether the class is new or was elsewhere before. -/
theorem put (h : m.Rooted) {n : Model} (hpackages : n.packages = m.packages)
    (hothers : ∀ i, i ≠ k → n.scope? (.classRef i) = m.scope? (.classRef i))
    (hk : n.scope? (.classRef k) = some scope) (hexisting : m.HasScope scope)
    (houtside : ∀ j, scope = .nested j → ∀ path outer, m.Lies j path outer → k ∉ path) :
    n.Rooted := by
  have hput := h.exists_lies hpackages hothers hk hexisting houtside
  -- a path that leads through the class is cut there and led on by the new one
  have hpath {i : ClassId} {path : List ClassId} {outer : Scope} (hlies : m.Lies i path outer) :
      ∃ path outer, n.Lies i path outer := by
    induction hlies with
    | @outermost i outer direct houter =>
      by_cases hi : i = k
      · exact hi ▸ hput
      · refine ⟨[i], outer, .outermost ((hothers i hi).trans direct) ?_⟩
        exact mem_outerScopes_of_le (by rw [hpackages]) houter
    | @inside i j path outer direct _ ih =>
      by_cases hi : i = k
      · exact hi ▸ hput
      · obtain ⟨path', outer', hlies'⟩ := ih
        exact ⟨path' ++ [i], outer', .inside ((hothers i hi).trans direct) hlies'⟩
  intro i hi
  by_cases hik : i = k
  · exact hik ▸ hput
  · have hlt : i.index < m.classes.size := by
      have hin := scope?_classRef (mem_classIds.1 hi)
      rw [hothers i hik] at hin
      exact index_lt_of_scope? hin
    obtain ⟨path, outer, hlies⟩ := h i (mem_classIds.2 hlt)
    exact hpath hlies

end Rooted

/-- Formed models are **rooted**. -/
theorem Formed.rooted (h : m.Formed) : m.Rooted := by
  induction h with
  | empty => exact .empty
  | @package m _ name ih =>
    exact ih.keep (m.size_packages_package_le name) fun k => scope?_package name (.classRef k)
  | @newClass m _ name scope existing ih =>
    refine ih.put (k := ⟨m.classes.size⟩) rfl (fun i hi => ?_) ?_ existing ?_
    · rw [scope?_newClass, if_neg (by simpa using hi)]
    · rw [scope?_newClass, if_pos rfl]
    · -- no path leads through a class that did not exist
      intro j _ path outer hlies hmem
      obtain ⟨pre, post, rfl⟩ := List.append_of_mem hmem
      exact absurd hlies.upTo.index_lt (Nat.lt_irrefl _)
  | @newElement m _ name ns scope ih =>
    refine ih.keep le_rfl fun k => ?_
    rw [scope?_newElement, if_neg (by simp)]
  | @modifyClass m _ k f kept ih =>
    refine ih.keep le_rfl fun j => ?_
    rw [scope?_modifyClass_classRef]
    split
    · rename_i hj
      rw [hj.1, kept, scope?_classRef hj.2]
    · rfl
  | @moveClass m _ k f existing outside ih =>
    -- a class that does not exist is moved nowhere
    by_cases hk : k.index < m.classes.size
    · refine ih.put rfl (fun i hi => ?_) ?_ existing outside
      · rw [scope?_modifyClass_classRef, if_neg fun h => hi h.1]
      · rw [scope?_modifyClass_classRef, if_pos ⟨rfl, hk⟩]
    · refine ih.keep le_rfl fun j => ?_
      rw [scope?_modifyClass_classRef, if_neg fun h => hk h.2]
  | modifyElement _ w f ih => exact ih.keep le_rfl fun k => rfl

end SchemaBinding.Model
