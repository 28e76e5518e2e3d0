/-! # Locators
Where a declaration comes from: a document, known by a public id, a system id or both, and a line or
a range of bytes in it. -/

namespace SchemaBinding

/-- A **locator** names a document and a place in it; every part may be missing. Lines count from
one, spans are byte offsets. -/
structure Locator where
  publicId : Option String := none
  systemId : Option String := none
  line : Option Nat := none
  span : Option (Nat × Nat) := none
  deriving DecidableEq, Repr, Inhabited

namespace Locator

/-- A locator for a line of a document known by its system id. -/
def atLine (systemId : String) (line : Nat) : Locator :=
  { systemId := some systemId, line := some line }

/-- The name by which the document is looked up: its public id before its system id. -/
def fileName? (l : Locator) : Option String := l.publicId.or l.systemId

end Locator

end SchemaBinding
