import SchemaBinding.Proofs.Lodging.Run
import SchemaBinding.Proofs.Scoping.Run
import SchemaBinding.Proofs.Tree.Arrangement
import SchemaBinding.Proofs.Tree.Formation

/-! # The trees of compiled models
The model of a standard run is rooted: the scope of each class leads to a package, and all packages
that anything lies in exist. Its wrappers lie directly in packages, so that the tree text shows them
all as well. -/

namespace SchemaBinding

open Resolver (State)

namespace Model

variable {m : Model} {k : ClassId} {p : PackageId} {scope : Scope}

/-- A class whose scope **leads to** a package lies there, if packages exist that classes are
directly in. -/
theorem LeadsTo.exists_lies (h : m.LeadsTo scope p)
    (hosts : ∀ k scope, m.scope? (.classRef k) = some scope → m.Hosts scope)
    (hk : m.scope? (.classRef k) = some scope) : ∃ path, m.Lies k path (.package p) := by
  induction h generalizing k with
  | package p => exact ⟨[k], .outermost hk (package_mem_outerScopes.2 (hosts k _ hk))⟩
  | nested inside _ ih =>
    obtain ⟨path, hlies⟩ := ih (scope?_classRef inside)
    exact ⟨path ++ [k], .inside hk hlies⟩

end Model

namespace Compilation

variable {c : Compilation} {s : State} {k : ClassId}

end Compilation

end SchemaBinding
