import SchemaBinding.Strategy.Body
import SchemaBinding.Strategy.Documentation
import SchemaBinding.Strategy.Proposal

/-! # The standard strategy -/

namespace SchemaBinding.Strategy

/-- The **standard** strategy: standard proposals, bodies and documentation. -/
def standard : Strategy where
  propose := Resolver.proposeStandard
  body := Resolver.standardBody
  document := SchemaSet.documentation?

end SchemaBinding.Strategy
