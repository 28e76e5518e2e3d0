import Mathlib.Logic.Relation
import SchemaBinding.Proofs.ModelGrowth
import SchemaBinding.Proofs.Standard.Plan

/-! # Moves of a run
The **ledger** of a state holds what bindings, classes and wrappers depend on; scopes, packages and
customizations are left out. A run with the standard strategy changes its ledger by **moves** alone:
types are proposed and registered, bodies are begun, written and finished. A run that fails has come
to a ledger at which it is **stuck**.

What a single move preserves holds of every reachable ledger, whatever the order of the questions.
-/

namespace SchemaBinding

/-! ## Ledgers -/

/-- A **mark** of a body that was begun or finished. -/
inductive Mark where
  | begun (component : ComponentId) (classId : ClassId)
  | done (component : ComponentId) (classId : ClassId)
  deriving DecidableEq, Repr

/-- The class whose body a mark is about. -/
def Mark.classId : Mark → ClassId
  | begun _ k | done _ k => k

/-- The mark that an event leaves. -/
def Resolver.Event.mark? : Resolver.Event → Option Mark
  | .proposal .. => none
  | .begun c k _ => some (.begun c k)
  | .done c k _ => some (.done c k)

/-- The **ledger** of a run. -/
structure Ledger where
  model : Model := {}
  registry : Registry := {}
  queue : List Binding := []
  built : List ClassId := []
  notes : List (ComponentId × Option TypeRef) := []
  /-- The components being proposed, the latest first. -/
  proposing : List ComponentId := []
  /-- The components whose bodies are being built, the latest first. -/
  building : List ComponentId := []
  /-- The number of reports about reserved class names. -/
  reserved : Nat := 0
  /-- The marks of bodies, the latest first. -/
  log : List Mark := []

/-- The ledger of a state. -/
def Resolver.State.ledger (s : Resolver.State) : Ledger where
  model := { s.model with packages := #[] }
  registry := s.registry
  queue := s.queue
  built := s.built
  notes := s.elements
  proposing := s.proposing.active
  building := s.building.active
  reserved := (s.reports.withKey Finding.reservedClassNameKey).length
  log := s.journal.filterMap Resolver.Event.mark?

namespace Ledger

/-- The ledger before a run. -/
def start : Ledger := { registry := ⟨[⟨SchemaSet.anyType, .leaf .anyType⟩]⟩ }

/-- The number of brackets that are open. -/
def depth (l : Ledger) : Nat := l.proposing.length + l.building.length

/-- The type that a component is bound to. -/
def target? (l : Ledger) (c : ComponentId) : Option TypeRef := l.registry.target? c

/-- The marks about a class. -/
def marks (l : Ledger) (k : ClassId) : List Mark := l.log.filter fun mark => mark.classId = k

/-! ### Changes -/

/-- A type for a component is being proposed. -/
def proposal (l : Ledger) (c : ComponentId) : Ledger := { l with proposing := c :: l.proposing }

/-- Something is noted about an element. -/
def noting (l : Ledger) (element : ComponentId) (type : Option TypeRef) : Ledger :=
  { l with notes := (element, type) :: l.notes }

/-- A wrapper is allocated and noted. -/
def wrapping (l : Ledger) (info : Component) (element : ComponentId) (scope : Scope) : Ledger :=
  { l with
    model := (l.model.newElement info.nameOrEmpty info.ns scope).2
    notes := (element, some (.wrapper ⟨l.model.elements.size⟩)) :: l.notes }

/-- The content of a wrapper is filled in. -/
def filling (l : Ledger) (w : ElementId) (content : Option TypeRef) : Ledger :=
  { l with model := l.model.modifyElement w fun e => { e with content } }

/-- A class is allocated. -/
def allocating (l : Ledger) (info : ClassInfo) : Ledger :=
  { l with model := { l.model with classes := l.model.classes.push info } }

/-- A class becomes abstract, or stays as it is. -/
def marking (l : Ledger) (k : ClassId) (isAbstract : Bool) : Ledger :=
  { l with
    model := l.model.modifyClass k fun info =>
      { info with isAbstract := info.isAbstract || isAbstract } }

/-- A proposal is over, and its outcome is registered. -/
def concluded (l : Ledger) (c : ComponentId) (rest : List ComponentId) :
    Option TypeRef → Ledger
  | none => { l with proposing := rest }
  | some target =>
    { l with
      proposing := rest
      registry := l.registry.insert ⟨c, target⟩
      queue := if target.isPrebuilt then l.queue else ⟨c, target⟩ :: l.queue }

/-- The base and the properties of a class are written. -/
def writing (l : Ledger) (k : ClassId) (base : Option ClassId) (properties : List Property) :
    Ledger :=
  { l with model := l.model.modifyClass k fun info => { info with base, properties } }

end Ledger

/-! ## Moves -/

namespace Context

variable (x : Context)

/-- The documentation that is added to a class before its body. -/
def docs? (c : ComponentId) (info : ClassInfo) : Option (List String) :=
  if x.config.generateDocs && info.doc.isNone then x.schema.documentation? c else some []

/-- A class as its body finds it: with the constructor for a simple value, and documented. -/
def prepared (c : ComponentId) (docs : List String) (info : ClassInfo) : ClassInfo :=
  let hasValue := match x.schema.elementType? c with
    | some type => (x.schema.component type).isSimpleType
    | none => false
  docs.foldl ClassInfo.appendDoc (if hasValue then info.addConstructor ["value"] else info)

/-- The body of a class is begun: the class is claimed, its name is checked and it is prepared. -/
def claiming (l : Ledger) (c : ComponentId) (k : ClassId) (docs : List String) : Ledger :=
  { l with
    model := l.model.modifyClass k (x.prepared c docs)
    built := k :: l.built
    building := c :: l.building
    reserved := l.reserved +
      if x.config.isReservedClassName (l.model.classInfo k).name then 1 else 0
    log := .begun c k :: l.log }

/-- A component is **answered** for when it is bound, unless it never will be. -/
def Answered (l : Ledger) (c : ComponentId) : Prop :=
  l.target? c = none → x.schema.isBindable c = false

/-- The properties that the body of a component consists of. -/
def bodyProperties? (registry : Registry) (c : ComponentId) : Option (List Property) :=
  (x.schema.items? c).map fun items => items.filterMap (x.property? registry)

/-- The class that the class for a component extends. -/
def base? (registry : Registry) (c : ComponentId) : Option ClassId :=
  (x.schema.extended? c).bind fun b => (registry.target? b).bind TypeRef.asClass

/-- The components whose bindings the body of a component refers to. -/
def referenced (c : ComponentId) : List ComponentId :=
  ((x.schema.items? c).getD []).filterMap (fun item => (x.schema.itemSource item).component?) ++
    (x.schema.extended? c).toList

/-- A class is **complete** for a component: it has the base and the properties that the schema
prescribes, and no binding can change that any more. -/
structure Complete (l : Ledger) (c : ComponentId) (k : ClassId) : Prop where
  properties : x.bodyProperties? l.registry c = some (l.model.classInfo k).properties
  base : (l.model.classInfo k).base = x.base? l.registry c
  answered : ∀ d ∈ x.referenced c, x.Answered l d

end Context

namespace SchemaSet

/-- The source of the content of a wrapper. -/
def contentSource (set : SchemaSet) (element : ComponentId) : TypeSource :=
  match set.elementType? element with
  | some type => set.valueSource type
  | none => .known none

/-- The **namesake** of a component: an anonymous type goes by the name of its element. -/
def namesake (set : SchemaSet) (c : ComponentId) : ComponentId :=
  if (set.component c).isComplexType then (set.asked? c).getD c else c

/-- Whether a component is a complex type that is abstract. -/
def isAbstractType (set : SchemaSet) (c : ComponentId) : Bool :=
  (set.component c).asComplexType.any ComplexType.isAbstract

end SchemaSet

namespace Context

/-- The name of a class that is named after a component: the customized one, or the one derived from
the name of the component. -/
def nameAfter (x : Context) (named : ComponentId) : String :=
  let info := x.schema.component named
  info.custom.className.getD (x.naming.className info.nameOrEmpty)

/-- The class for a component as it is allocated. -/
def newClass (x : Context) (c : ComponentId) (scope : Scope) : ClassInfo :=
  { name := x.nameAfter (x.schema.namesake c), scope, isAbstract := x.schema.isAbstractType c }

end Context

/-- How a proposal for a component may **conclude**: with what outcome, and in which ledger. -/
inductive Conclusion (x : Context) (c : ComponentId) (l : Ledger) : Option TypeRef → Ledger → Prop
  /-- Nothing is generated. -/
  | declined (unbindable : x.schema.isBindable c = false) : Conclusion x c l none l
  /-- Nothing is generated for a local element, and that is noted. -/
  | unbound (unbindable : x.schema.isBindable c = false) : Conclusion x c l none (l.noting c none)
  /-- A class of its own. -/
  | fresh {scope : Scope} (bindable : x.schema.isBindable c)
      (plain : x.schema.isWrapped c = false) :
      Conclusion x c l (some (.classRef ⟨l.model.classes.size⟩)) (l.allocating (x.newClass c scope))
  /-- The class of the element that declares the type. -/
  | shared {e : ComponentId} {k : ClassId} (anonymous : (x.schema.component c).isComplexType)
      (asked : x.schema.asked? c = some e) (bound : l.target? e = some (.classRef k)) :
      Conclusion x c l (some (.classRef k)) (l.marking k (x.schema.isAbstractType c))
  /-- The wrapper that was noted, with its content. -/
  | wrapped {w : ElementId} (wrapped : x.schema.isWrapped c)
      (noted : l.notes.lookup c = some (some (.wrapper w)))
      (answered : ∀ d ∈ (x.schema.contentSource c).component?, x.Answered l d) :
      Conclusion x c l (some (.wrapper w))
        (l.filling w ((x.schema.contentSource c).type l.registry))

/-- A **move** from a ledger to another. -/
inductive Move (x : Context) : Ledger → Ledger → Prop
  /-- A type is proposed for a component that is asked for. -/
  | propose {l : Ledger} {c : ComponentId}
      (asked : ∀ p ∈ l.proposing.head?, x.schema.asked? p = some c)
      (unbound : l.registry.find? c = none) (idle : c ∉ l.proposing)
      (plain : x.schema.isWrapped c = false) : Move x l (l.proposal c)
  /-- A wrapper is proposed for an element that is asked for, and noted. -/
  | wrap {l : Ledger} {c : ComponentId} {scope : Scope}
      (asked : ∀ p ∈ l.proposing.head?, x.schema.asked? p = some c)
      (unbound : l.registry.find? c = none) (idle : c ∉ l.proposing)
      (wrapped : x.schema.isWrapped c) :
      Move x l ((l.proposal c).wrapping (x.schema.component c) c scope)
  /-- The latest proposal is concluded. -/
  | conclude {l l' : Ledger} {c : ComponentId} {rest : List ComponentId} {outcome : Option TypeRef}
      (top : l.proposing = c :: rest) (conclusion : Conclusion x c l outcome l') :
      Move x l (l'.concluded c rest outcome)
  /-- A body is begun that is queued, or that the latest body has to extend. -/
  | claim {l : Ledger} {c : ComponentId} {k : ClassId} {docs : List String}
      (alone : l.proposing = []) (extended : ∀ a ∈ l.building.head?, x.schema.extended? a = some c)
      (bound : l.target? c = some (.classRef k)) (unbuilt : k ∉ l.built) (idle : c ∉ l.building)
      (documented : x.docs? c (l.model.classInfo k) = some docs) : Move x l (x.claiming l c k docs)
  /-- The latest body writes to its class. -/
  | write {l : Ledger} {c : ComponentId} {k : ClassId} {rest : List ComponentId}
      {base : Option ClassId} {properties : List Property}
      (alone : l.proposing = []) (top : l.building = c :: rest) (begun : Mark.begun c k ∈ l.log) :
      Move x l (l.writing k base properties)
  /-- The latest body is finished. What it extends was built before. -/
  | finish {l : Ledger} {c : ComponentId} {k : ClassId} {rest : List ComponentId}
      (alone : l.proposing = []) (top : l.building = c :: rest) (begun : Mark.begun c k ∈ l.log)
      (complete : x.Complete l c k)
      (extended : ∀ b ∈ x.schema.extended? c, b ∉ l.building ∧
        ∀ d, l.target? b = some (.classRef d) → d ∈ l.built) :
      Move x l { l with building := rest, log := .done c k :: l.log }
  /-- A binding leaves the queue. -/
  | skip {l : Ledger} {b : Binding} {rest : List Binding} (queued : l.queue = b :: rest)
      (built : ∀ k, b.classId? = some k → k ∈ l.built) : Move x l { l with queue := rest }

/-- A series of **moves**. -/
abbrev Moves (x : Context) : Ledger → Ledger → Prop := Relation.ReflTransGen (Move x)

/-- The ledgers that a run can **reach**. -/
def Reachable (x : Context) (l : Ledger) : Prop := Moves x .start l

namespace Reachable

variable {x : Context} {l l' : Ledger}

/-- The ledger at the start is reached. -/
theorem start (x : Context) : Reachable x .start := .refl

/-- What moves lead to from a reached ledger is reached. -/
theorem moves (h : Reachable x l) (hmoves : Moves x l l') : Reachable x l' := h.trans hmoves

/-- What a move leads to from a reached ledger is reached. -/
theorem move (h : Reachable x l) (hmove : Move x l l') : Reachable x l' := h.tail hmove

/-- What holds at the start and is preserved by every move **holds of every reachable ledger**. -/
theorem induct {P : Ledger → Prop} (start : P .start)
    (move : ∀ {l l'}, Reachable x l → Move x l l' → P l → P l') (h : Reachable x l) : P l := by
  induction h with
  | refl => exact start
  | tail hmoves hmove ih => exact move hmoves hmove ih

end Reachable

/-- Why a run is **stuck** at a ledger, when at most so many brackets may be open. -/
inductive Stuck (x : Context) (limit : Nat) (l : Ledger) : ResolveError → Prop
  /-- The latest body has to extend a body that is not finished. -/
  | extending {c : ComponentId} (alone : l.proposing = [])
      (extended : ∀ a ∈ l.building.head?, x.schema.extended? a = some c) (active : c ∈ l.building) :
      Stuck x limit l (.buildCycle (l.building.reverse ++ [c]))
  /-- A component is asked for whose type is being proposed. -/
  | proposing {c : ComponentId} {path : List ComponentId}
      (asked : ∀ p ∈ l.proposing.head?, x.schema.asked? p = some c) (active : c ∈ l.proposing) :
      Stuck x limit l (.proposalCycle path)
  /-- Too many brackets are open. -/
  | deep {c : ComponentId} (deep : limit ≤ l.depth) : Stuck x limit l (.endless c)
  /-- There is no end to the documentation of a class. -/
  | undocumented {c : ComponentId} {k : ClassId} (bound : l.target? c = some (.classRef k))
      (endless : x.schema.documentation? c = none) : Stuck x limit l (.endless c)
  /-- There is no end to the content of a body. -/
  | unwritten {c d : ComponentId} (building : c ∈ l.building) (endless : x.schema.items? c = none) :
      Stuck x limit l (.endless d)

end SchemaBinding
