import SchemaBinding.Resolver.Context

/-! # Resolvers
A resolver answers which type a component is bound to. What it proposes for a component, how it
fills the body of a class and how it documents one is the business of a strategy, which may ask the
resolver again while it does so. Proposals and bodies are guarded by a cycle detector each, so the
questions asked inside each other are never more than the components allow. -/

namespace SchemaBinding

/-- A **resolver** for a context. -/
structure Resolver extends Context where
  /-- The type that a component is bound to, with its body complete if it is wanted immediately;
  none if nothing is generated for the component. -/
  resolve : ComponentId → (immediately : Bool) → Resolving (Option TypeRef)
  /-- Builds the body of a binding. -/
  build : Binding → Resolving Unit

/-- A **strategy** decides what is generated. -/
structure Strategy where
  /-- Allocates the type for a component, if there is to be one. -/
  propose : Resolver → ComponentId → Resolving (Option TypeRef)
  /-- Fills the body of a class that is generated for a component. -/
  body : Resolver → ComponentId → ClassId → Resolving Unit
  /-- The paragraphs that document a class generated for a component; none if there is no end to
  them. -/
  document : SchemaSet → ComponentId → Option (List String)

namespace Resolver

/-! ## Proposing and building -/

/-- The proposal of a strategy for a component. -/
def propose (strategy : Strategy) (r : Resolver) (component : ComponentId) :
    Resolving (Option TypeRef) := do
  let s ← get
  match s.proposing.enter component with
  | .error cycle => throw (.proposalCycle cycle.path)
  | .ok proposing =>
    set { s with proposing }
    Resolving.record (.proposal component s.scopes.current)
    (strategy.propose r component).closing fun s =>
      { s with proposing := s.proposing.leave }

/-- The binding of a component, which is proposed and registered if there is none yet. A global
declaration is proposed in the package of its namespace. -/
def bindingFor (strategy : Strategy) (r : Resolver) (component : ComponentId) :
    Resolving (Option Binding) := do
  match (← get).registry.find? component with
  | some binding => return some binding
  | none =>
    let info := r.schema.component component
    let proposal ←
      if info.isGlobalDeclaration then do
        let package ← r.packageFor info.ns
        Resolving.withScope (.package package) (propose strategy r component)
      else propose strategy r component
    match proposal with
    | none => return none
    | some target => some <$> Resolving.queueBuild component target

/-- Reports a class whose name is reserved. -/
def checkClassName (r : Resolver) (component : ComponentId) (classId : ClassId) :
    Resolving Unit := do
  let name := ((← get).model.classInfo classId).name
  if r.config.isReservedClassName name then
    Resolving.report
      (.reservedClassName name (r.schema.label component) (r.schema.component component).locator)

/-- Gives the class for an element with a simple type its constructor. -/
def addValueConstructor (r : Resolver) (component : ComponentId) (classId : ClassId) :
    Resolving Unit :=
  match r.schema.elementType? component with
  | some type =>
    if (r.schema.component type).isSimpleType then
      Resolving.changeModel fun m => m.modifyClass classId fun c => c.addConstructor ["value"]
    else pure ()
  | none => pure ()

/-- Documents a class that has no documentation yet. -/
def documentClass (strategy : Strategy) (r : Resolver) (component : ComponentId)
    (classId : ClassId) : Resolving Unit := do
  if r.config.generateDocs && ((← get).model.classInfo classId).doc.isNone then
    match strategy.document r.schema component with
    | none => throw (.endless component)
    | some paragraphs =>
      Resolving.changeModel fun m =>
        m.modifyClass classId fun c => paragraphs.foldl ClassInfo.appendDoc c

/-- Where classes go that are found while a class is built. -/
def innerScope (r : Resolver) (m : Model) (classId : ClassId) : Scope :=
  match r.config.localScoping with
  | .nested => .nested classId
  | .toplevel => (m.classInfo classId).scope

/-- Runs the strategy for a body, between the events that show it. -/
def runBody (strategy : Strategy) (r : Resolver) (component : ComponentId) (classId : ClassId) :
    Resolving Unit := do
  Resolving.record (.begun component classId (← get).place)
  strategy.body r component classId
  Resolving.record (.done component classId (← get).place)

/-- Builds the body of a class. -/
def buildBody (strategy : Strategy) (r : Resolver) (component : ComponentId) (classId : ClassId) :
    Resolving Unit := do
  r.checkClassName component classId
  r.addValueConstructor component classId
  r.documentClass strategy component classId
  let s ← get
  let scope := r.innerScope s.model classId
  set { s with cursor := some ⟨component, classId⟩ }
  let body := runBody strategy r component classId
  (if scope = .root then body else Resolving.withScope scope body).closing fun after =>
    { after with cursor := s.cursor }

/-- Builds the body of a binding, unless its target has none or it has been begun before. -/
def buildBinding (strategy : Strategy) (r : Resolver) (binding : Binding) : Resolving Unit := do
  match binding.classId? with
  | none => pure ()
  | some classId =>
    let s ← get
    if s.built.contains classId then pure ()
    else match s.building.enter binding.component with
      | .error cycle => throw (.buildCycle cycle.path)
      | .ok building =>
        set { s with building, built := classId :: s.built }
        (buildBody strategy r binding.component classId).closing fun s =>
          { s with building := s.building.leave }
        if (r.schema.component binding.component).custom.property.isSome then
          Resolving.acknowledge binding.component

/-- The type that a component is bound to. What is wanted immediately must not be under
construction. -/
def resolveWith (strategy : Strategy) (r : Resolver) (component : ComponentId)
    (immediately : Bool) : Resolving (Option TypeRef) := do
  match ← bindingFor strategy r component with
  | none => return none
  | some binding =>
    if immediately then
      let s ← get
      if s.building.isActive component then
        throw (.buildCycle (s.building.path ++ [component]))
      buildBinding strategy r binding
    return some binding.target

/-- The resolver for questions inside each other at most so many times. -/
def within (context : Context) (strategy : Strategy) : Nat → Resolver
  | 0 =>
    { context with
      resolve := fun component _ => throw (.endless component)
      build := fun binding => throw (.endless binding.component) }
  | steps + 1 =>
    { context with
      resolve := resolveWith strategy (within context strategy steps)
      build := buildBinding strategy (within context strategy steps) }

/-- The **resolver** of a strategy. A question inside others is asked by a proposal or by a body,
and a component is proposed, and built, at most once at a time, so twice the size of the schema set
is enough. -/
def of (context : Context) (strategy : Strategy) : Resolver :=
  within context strategy (2 * context.schema.size + 2)

end Resolver

end SchemaBinding
