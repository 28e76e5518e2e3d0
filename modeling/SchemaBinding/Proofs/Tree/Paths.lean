import Mathlib.Data.List.Perm.Subperm
import SchemaBinding.Proofs.Placement.Basic

/-! # Paths of enclosing classes
A class lies at the root or in a package, directly or inside other classes. The classes around it,
the outermost first, and then the class itself are its path. A model is rooted when every class of
it has a path; the path is then unique, and no class is on it twice. -/

namespace SchemaBinding.Model

variable {m n : Model} {k j outer : ClassId} {path pre post : List ClassId} {scope : Scope}

/-! ## Outermost scopes -/

/-- The **outermost** scopes of a model: the root and its packages. -/
def outerScopes (m : Model) : List Scope :=
  .root :: (List.range m.packages.size).map fun i => .package ⟨i⟩

@[simp] theorem root_mem_outerScopes (m : Model) : Scope.root ∈ m.outerScopes := by
  simp [outerScopes]

@[simp] theorem package_mem_outerScopes {p : PackageId} :
    Scope.package p ∈ m.outerScopes ↔ p.index < m.packages.size := by
  cases p
  simp [outerScopes]

@[simp] theorem nested_notMem_outerScopes (k : ClassId) : Scope.nested k ∉ m.outerScopes := by
  simp [outerScopes]

/-- More packages leave the outermost scopes there are. -/
theorem mem_outerScopes_of_le (h : m.packages.size ≤ n.packages.size)
    (hscope : scope ∈ m.outerScopes) : scope ∈ n.outerScopes := by
  cases scope with
  | root => simp
  | package p =>
    rw [package_mem_outerScopes] at hscope ⊢
    omega
  | nested k => simp at hscope

/-! ## Classes in a scope -/

/-- A class **lies** in an outermost scope by a path: the classes around it, and itself at last. -/
inductive Lies (m : Model) : ClassId → List ClassId → Scope → Prop
  | outermost {k : ClassId} {scope : Scope} (direct : m.scope? (.classRef k) = some scope)
      (outermost : scope ∈ m.outerScopes) : Lies m k [k] scope
  | inside {k outer : ClassId} {path : List ClassId} {scope : Scope}
      (direct : m.scope? (.classRef k) = some (.nested outer)) (lies : Lies m outer path scope) :
      Lies m k (path ++ [k]) scope

namespace Lies

/-- What lies in a scope is a class of the model. -/
theorem index_lt (h : m.Lies k path scope) : k.index < m.classes.size := by
  cases h with
  | outermost direct _ => exact index_lt_of_scope? direct
  | inside direct _ => exact index_lt_of_scope? direct

/-- A path ends with its class. -/
theorem exists_append (h : m.Lies k path scope) : ∃ pre, path = pre ++ [k] := by
  cases h with
  | outermost => exact ⟨[], rfl⟩
  | @inside _ _ pre => exact ⟨pre, rfl⟩

/-- A path holds the class that it leads to. -/
theorem ne_nil (h : m.Lies k path scope) : path ≠ [] := by
  obtain ⟨pre, rfl⟩ := h.exists_append
  simp

/-- A class has **one path** at most. -/
theorem unique (h : m.Lies k path scope) {path' : List ClassId} {scope' : Scope}
    (h' : m.Lies k path' scope') : path = path' ∧ scope = scope' := by
  induction h generalizing path' scope' with
  | outermost direct houter =>
    cases h' with
    | outermost direct' => exact ⟨rfl, Option.some.inj (direct.symm.trans direct')⟩
    | inside direct' =>
      obtain rfl := Option.some.inj (direct.symm.trans direct')
      exact absurd houter (nested_notMem_outerScopes _)
  | inside direct _ ih =>
    cases h' with
    | outermost direct' houter =>
      obtain rfl := Option.some.inj (direct.symm.trans direct')
      exact absurd houter (nested_notMem_outerScopes _)
    | inside direct' lies' =>
      cases Option.some.inj (direct.symm.trans direct')
      obtain ⟨rfl, rfl⟩ := ih lies'
      exact ⟨rfl, rfl⟩

/-- Each class **on a path** has the path up to it. -/
theorem upTo (h : m.Lies k (pre ++ j :: post) scope) : m.Lies j (pre ++ [j]) scope := by
  generalize hpath : pre ++ j :: post = path at h
  induction h generalizing post with
  | outermost direct houter =>
    obtain ⟨rfl, rfl, rfl⟩ : pre = [] ∧ j = _ ∧ post = [] := by
      simpa [List.append_eq_singleton_iff] using hpath
    exact .outermost direct houter
  | @inside k outer path scope direct lies ih =>
    rcases List.eq_nil_or_concat post with rfl | ⟨post, last, rfl⟩
    · obtain ⟨rfl, hlast⟩ := List.append_inj' hpath rfl
      obtain rfl : j = k := by simpa using hlast
      exact .inside direct lies
    · have hcut : (pre ++ j :: post) ++ [last] = path ++ [k] := by simpa using hpath
      exact ih (List.append_inj' hcut rfl).1

/-- No class is **twice** on a path. -/
theorem nodup (h : m.Lies k path scope) : path.Nodup := by
  induction h with
  | outermost => simp
  | @inside k outer path scope direct lies ih =>
    have hnew : k ∉ path := by
      intro hk
      obtain ⟨pre, post, rfl⟩ := List.append_of_mem hk
      -- the path up to the first time would be another path of the class
      have hshort := ((Lies.inside direct lies).unique lies.upTo).1
      have hlength := congrArg List.length hshort
      simp at hlength
    exact List.nodup_append.2 ⟨ih, by simp, by rintro a ha b hb rfl; simp_all⟩

/-- A path is **no longer** than there are classes. -/
theorem length_le (h : m.Lies k path scope) : path.length ≤ m.classes.size := by
  have hsub : path ⊆ m.classIds := by
    intro j hj
    obtain ⟨pre, post, rfl⟩ := List.append_of_mem hj
    exact mem_classIds.2 h.upTo.index_lt
  simpa [classIds] using (h.nodup.subperm hsub).length_le

/-- Paths stay while the scopes of the classes on them and the packages do. -/
theorem keep (h : m.Lies k path scope) (hpackages : m.packages.size ≤ n.packages.size)
    (hscope : ∀ j ∈ path, ∀ scope, m.scope? (.classRef j) = some scope →
      n.scope? (.classRef j) = some scope) : n.Lies k path scope := by
  induction h with
  | outermost direct houter =>
    exact .outermost (hscope _ (by simp) _ direct) (mem_outerScopes_of_le hpackages houter)
  | inside direct _ ih =>
    refine .inside (hscope _ (by simp) _ direct) (ih fun j hj => hscope j ?_)
    exact List.mem_append_left _ hj

end Lies

/-- A model is **rooted** when each class of it lies in an outermost scope. -/
def Rooted (m : Model) : Prop := ∀ k ∈ m.classIds, ∃ path scope, m.Lies k path scope

end SchemaBinding.Model
