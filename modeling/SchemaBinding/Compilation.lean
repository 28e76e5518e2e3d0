import SchemaBinding.Manifest.Load
import SchemaBinding.Strategy.Standard

/-! # Compilations
A compilation binds every global element and complex type of a schema set, builds all bodies and
reports what was left unused. It gives the model and the reports, or the error that stopped it. -/

namespace SchemaBinding

/-- A **compilation**, before it is run. -/
structure Compilation where
  schema : SchemaSet := .initial
  config : Config := {}
  /-- The sources that diagnostics point into, in the order of registration. -/
  sources : List SourceFile := []
  naming : NamingConvention := .standard
  strategy : Strategy := .standard

/-- What a compilation gives. -/
structure Outcome where
  schema : SchemaSet
  model : Model
  reports : Reports
  deriving DecidableEq, Repr, Inhabited

namespace Compilation

/-- What the run is about. -/
def context (c : Compilation) : Context := ⟨c.schema, c.config, c.naming⟩

/-- The resolver of the run. -/
def resolver (c : Compilation) : Resolver := .of c.context c.strategy

/-- The state before the run: its sources are registered. -/
def start (c : Compilation) : Resolver.State :=
  .initial (c.sources.foldl (fun r file => (r.addSource file.name file.text).2) {})
    SchemaSet.anyType

/-- The declarations that are bound: the global elements and complex types. -/
def declarations (c : Compilation) : List ComponentId :=
  c.schema.globalDeclarations.filter fun id =>
    (c.schema.component id).isElement || (c.schema.component id).isComplexType

/-- The steps of the run. -/
def steps (c : Compilation) : Resolving Unit := do
  c.declarations.forM fun id => do
    let _ ← c.resolver.bindToType id
  let _ ← c.resolver.drain
  c.context.reportUnacknowledged

/-- The state at the end of the run, or when it stopped. -/
def run (c : Compilation) : Except ResolveError Unit × Resolver.State := c.steps.runFrom c.start

/-- The **outcome** of a compilation. -/
def outcome (c : Compilation) : Except ResolveError Outcome :=
  match c.run with
  | (.ok (), s) => .ok ⟨c.schema, s.model, s.reports⟩
  | (.error e, _) => .error e

end Compilation

/-- Why a compilation gives no outcome. -/
inductive CompileError where
  /-- Its manifest is not accepted. -/
  | manifest (cause : ManifestError)
  /-- It was stopped. -/
  | resolve (cause : ResolveError)
  deriving DecidableEq, Repr

/-- The message of such an error. -/
def CompileError.message : CompileError → String
  | manifest cause => cause.message
  | resolve cause => "internal resolver error: " ++ cause.message

namespace Compilation

/-- The outcome of a compilation, with its failure as one of compiling. -/
def compile (c : Compilation) : Except CompileError Outcome := c.outcome.mapError .resolve

/-- Compiles the schema set of a manifest, as another compilation prescribes. -/
def compileManifest (c : Compilation) (text name : String) : Except CompileError Outcome :=
  match SchemaSet.ofManifest text name with
  | .ok schema => { c with schema }.compile
  | .error cause => .error (.manifest cause)

end Compilation

end SchemaBinding
