import SchemaBinding.Model.Basic
import SchemaBinding.Schema.Component

/-! # Bindings
A binding pairs a component with the type generated for it. The registry keeps the bindings of a run
in the order of their registration, at most one to a component. -/

namespace SchemaBinding

/-- A **binding** of a component to a type. -/
structure Binding where
  component : ComponentId
  target : TypeRef
  deriving DecidableEq, Repr, Inhabited

namespace Binding

/-- The class to be built for a binding, if its target is one. -/
def classId? (b : Binding) : Option ClassId := b.target.asClass

end Binding

/-- A **registry** of bindings, in the order of their registration. -/
structure Registry where
  bindings : List Binding := []
  deriving DecidableEq, Repr, Inhabited

namespace Registry

/-- The binding of a component. -/
def find? (r : Registry) (component : ComponentId) : Option Binding :=
  r.bindings.find? fun b => b.component = component

/-- The type that a component is bound to. -/
def target? (r : Registry) (component : ComponentId) : Option TypeRef :=
  (r.find? component).map Binding.target

/-- The number of bindings. -/
def size (r : Registry) : Nat := r.bindings.length

/-- Adds a binding at the end. -/
def insert (r : Registry) (b : Binding) : Registry := ⟨r.bindings ++ [b]⟩

/-- What is found under a component is a binding of that component. -/
theorem component_of_find? {r : Registry} {component : ComponentId} {b : Binding}
    (h : r.find? component = some b) : b.component = component := by
  simpa using List.find?_some h

@[simp] theorem size_insert (r : Registry) (b : Binding) : (r.insert b).size = r.size + 1 := by
  simp [insert, size]

/-- A new binding is found, and all others are found as before. -/
theorem find?_insert {r : Registry} {b : Binding} (fresh : r.find? b.component = none)
    (component : ComponentId) :
    (r.insert b).find? component =
      if component = b.component then some b else r.find? component := by
  unfold insert find? at *
  rw [List.find?_append]
  split
  · subst component
    simp [fresh]
  · rename_i h
    have : ¬ b.component = component := fun e => h e.symm
    cases r.bindings.find? fun b => decide (b.component = component) <;> simp [this]

end Registry

end SchemaBinding
