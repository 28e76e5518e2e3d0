/-! # Cycle detection
A detector follows a path of nodes that are entered and exited in brackets, and refuses to enter a
node that is already on the path. The refusal shows the cycle that it would close. -/

namespace SchemaBinding

/-- A **cycle**: a node is entered again. The path to it consists of the nodes before its first
entry, the node itself and the nodes entered since. -/
structure Cycle (α : Type) where
  lead : List α
  node : α
  since : List α
  deriving DecidableEq, Repr

namespace Cycle

variable {α : Type}

/-- The whole path, up to the second entry of the node. -/
def path (c : Cycle α) : List α := c.lead ++ c.node :: c.since ++ [c.node]

/-- The nodes of the cycle, starting with the one entered again. -/
def nodes (c : Cycle α) : List α := c.node :: c.since

/-- Whether a node leads directly to itself. -/
def isSelfCycle (c : Cycle α) : Bool := c.since.isEmpty

end Cycle

/-- A **cycle detector**: the nodes entered and not yet exited, the latest first. -/
structure CycleDetector (α : Type) where
  active : List α := []
  deriving DecidableEq, Repr, Inhabited

namespace CycleDetector

variable {α : Type}

/-- The entered nodes in the order of their entry. -/
def path (d : CycleDetector α) : List α := d.active.reverse

/-- The number of entered nodes. -/
def depth (d : CycleDetector α) : Nat := d.active.length

/-- Whether a node is entered. -/
def isActive [DecidableEq α] (d : CycleDetector α) (node : α) : Bool := d.active.contains node

/-- Enters a node, or shows the cycle that it would close. -/
def enter [DecidableEq α] (d : CycleDetector α) (node : α) :
    Except (Cycle α) (CycleDetector α) :=
  if d.isActive node then
    .error
      { lead := d.path.takeWhile (· ≠ node)
        node
        since := (d.path.dropWhile (· ≠ node)).drop 1 }
  else .ok ⟨node :: d.active⟩

/-- Exits the node entered last. -/
def exit (d : CycleDetector α) : Option (α × CycleDetector α) :=
  match d.active with
  | [] => none
  | node :: rest => some (node, ⟨rest⟩)

/-- The detector after the exit of the node entered last, if there is one. -/
def leave (d : CycleDetector α) : CycleDetector α := ⟨d.active.drop 1⟩

end CycleDetector

end SchemaBinding
