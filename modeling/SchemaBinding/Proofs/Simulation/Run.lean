import SchemaBinding.Proofs.Calls
import SchemaBinding.Proofs.Simulation.Resolver

/-! # Runs that simulate each other
Resolvers for matched contexts run alike in whatever they are called for, and so do whole runs. -/

namespace SchemaBinding

open Resolver (Call)

namespace Simulation.Matches

variable {S : Simulation} {x y : Context}

/-- Matched contexts have one schema set. -/
theorem schema (h : S.Matches x y) : y.schema = x.schema := (h 0).schema

/-- Resolvers for matched contexts are related. -/
theorem of (h : S.Matches x y) : S.Relates (.of x .standard) (.of y .standard) := by
  unfold Resolver.of
  rw [h.schema]
  exact h.within _

/-! ## Calls -/

/-- Bindings are built alike for matched contexts. -/
theorem build (h : S.Matches x y) (b : Binding) :
    S.Simulates ((Resolver.of x .standard).build b) ((Resolver.of y .standard).build b) := by
  unfold Resolver.of
  rw [h.schema]
  exact (h.within (2 * x.schema.size + 1)).buildBinding b

/-- The queue is worked off alike for matched contexts. -/
theorem drain (h : S.Matches x y) :
    S.Simulates (Resolver.of x .standard).drain (Resolver.of y .standard).drain := by
  -- the bodies are built by the resolver that is one level further inside
  have hinside := h.within (2 * x.schema.size + 1)
  unfold Resolver.drain
  rw [h.of.schema]
  refine hinside.drainWithin rfl ?_ _
  rw [← h.schema]
  rfl

/-- Every **call** is simulated. -/
theorem call (h : S.Matches x y) (call : Call) :
    S.Simulates (call.step (.of x .standard)) (call.step (.of y .standard)) := by
  cases call with
  | bindToType c => exact (h.of.bindToType c).map _
  | bindToTypeImmediately c => exact (h.of.answers c true).map _
  | bindElement c => exact (h.of.bindElement c).map _
  | bindComplexType c immediately => exact (h.of.bindComplexType c immediately).map _
  | bindSchemaType c => exact (h.of.bindSchemaType c).map _
  | isBound c => exact (h.of.isBound c).map _
  | queueBuild c target => exact (queueBuild c target).map _
  | build b => exact h.build b
  | drain => exact h.drain.map _
  | packageFor ns => exact (h.of.packageFor ns).map _

/-! ## Runs -/

variable {c d : Compilation}

/-- A **standard run** is simulated by another one for a matched context. -/
theorem steps (h : S.Matches c.context d.context) (hstandard : c.strategy = .standard)
    (hstandard' : d.strategy = .standard)
    (hreport : S.Simulates c.context.reportUnacknowledged d.context.reportUnacknowledged) :
    S.Simulates c.steps d.steps := by
  have hdeclarations : d.declarations = c.declarations := by
    unfold Compilation.declarations
    rw [show d.schema = c.schema from h.schema]
  unfold Compilation.steps
  rw [Compilation.resolver_of_standard hstandard, Compilation.resolver_of_standard hstandard',
    hdeclarations]
  refine .bind (.forM fun id => ?_) fun _ => h.drain.bind fun _ => hreport
  exact (h.of.bindToType id).bind fun _ => .pure ()

end Simulation.Matches

end SchemaBinding
