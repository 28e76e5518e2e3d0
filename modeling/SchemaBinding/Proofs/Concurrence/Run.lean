import SchemaBinding.Proofs.Concurrence.Steps
import SchemaBinding.Proofs.Simulation.Run

/-! # Documentation, reserved names and sources decide about nothing else
The same schema set is compiled twice. Whether classes are documented, which class names are
reserved and which sources are registered may differ, while names, scoping and packages are
configured alike. If neither run is cut short, both stop with the same error, or both end with
models that differ in documentation alone and with the same notices about packages and unused
customizations. -/

namespace SchemaBinding

open Resolver (State)

variable {x y : Context} {s t : State}

/-! ## Contexts -/

/-- Contexts **concur** when they agree on all that decides about generated types. -/
structure Context.Concurs (x y : Context) : Prop where
  schema : y.schema = x.schema
  naming : y.naming = x.naming
  localScoping : y.config.localScoping = x.config.localScoping
  package : y.config.package = x.config.package
  compatPackage : y.config.compatPackage = x.config.compatPackage
  fallbackPackage : y.config.fallbackPackage = x.config.fallbackPackage

/-- Determines the package for a namespace that was not asked for before. -/
def Context.determinePackage (x : Context) (ns name : String) : Resolving PackageId := do
  modify (x.checkPackageName ns name)
  let p ← Resolving.allocate fun m => m.package name
  modify fun s => { s with packages := s.packages ++ [(ns, p)] }
  return p

namespace Context.Concurs

/-- Contexts that concur name the package of a namespace alike. -/
theorem packageName (h : x.Concurs y) (ns : String) : y.packageName ns = x.packageName ns := by
  unfold Context.packageName
  rw [h.schema, h.naming, h.package, h.compatPackage, h.fallbackPackage]

/-- A package name is checked alike, and reported with the same message. -/
theorem checkPackageName (hst : s.Concurs t) (x y : Context) (ns name : String) :
    (x.checkPackageName ns name s).Concurs (y.checkPackageName ns name t) := by
  have hchecked : Resolver.State.Concurs { s with checkedNames := name :: s.checkedNames }
      { t with checkedNames := name :: t.checkedNames } :=
    hst.change (f := fun s => { s with checkedNames := name :: s.checkedNames }) fun _ _ _ => rfl
  have hnames : t.checkedNames = s.checkedNames := by cases hst; rfl
  -- the two findings point to the same locator, which each run looks up in its own sources
  unfold Context.checkPackageName
  rw [hnames] at hchecked ⊢
  split
  · exact hst
  · dsimp only
    split
    · exact hchecked
    · exact hchecked.raise rfl rfl

/-- The package of a name is determined alike, since only remarks depend on the context. -/
theorem determinePackage (x y : Context) (ns name : String) :
    concurrence.Simulates (x.determinePackage ns name) (y.determinePackage ns name) := by
  refine .bind (concurrence.modify fun s t hst => checkPackageName hst x y ns name) fun _ => ?_
  refine .bind (fun s t hst => .allocate hst fun m => m.package_undocumented name) fun p => ?_
  refine .bind (concurrence.modify fun s t hst => ?_) fun _ => .pure p
  exact hst.change (f := fun s => { s with packages := s.packages ++ [(ns, p)] }) fun _ _ _ => rfl

/-- The package for a namespace is found alike in contexts that concur. -/
theorem packageFor (h : x.Concurs y) (ns : String) :
    concurrence.Simulates (x.packageFor ns) (y.packageFor ns) := by
  have hrun {z : Context} {u v : State} {p : PackageId} (hfound : z.packageOf ns u = (p, v)) :
      (z.packageFor ns).runFrom u = (.ok p, v) :=
    congrArg (fun found => (Except.ok found.1, found.2)) hfound
  intro s t hst
  have hpackages : t.packages = s.packages := by cases hst; rfl
  cases hlookup : s.packages.lookup ns with
  | some p =>
    exact .ok (hrun (x.packageOf_known hlookup))
      (hrun (y.packageOf_known (hpackages ▸ hlookup))) hst
  | none =>
    have hother := y.packageOf_unknown (hpackages ▸ hlookup)
    rw [h.packageName] at hother
    exact (determinePackage x y ns _ s t hst).congr (hrun (x.packageOf_unknown hlookup))
      (hrun hother)

/-- Bodies are placed in the same scopes. -/
theorem innerScope_eq {r r' : Resolver} (h : r.toContext.Concurs r'.toContext)
    (hst : s.Concurs t) (k : ClassId) : r'.innerScope t.model k = r.innerScope s.model k := by
  unfold Resolver.innerScope
  rw [h.localScoping]
  cases r.config.localScoping with
  | nested => rfl
  | toplevel =>
    -- the scope of the class itself, which is no part of its documentation
    cases hst with
    | @intro model reports hmodel hreports =>
      have hclass : (model.classInfo k).undocumented = (s.model.classInfo k).undocumented := by
        rw [← Model.classInfo_undocumented, hmodel, Model.classInfo_undocumented]
      exact (congrArg ClassInfo.scope hclass :)

/-- Resolvers for concurring contexts have common **grounds**: reserved names and documentation go
unnoticed. -/
theorem grounds {r r' : Resolver} (h : r.toContext.Concurs r'.toContext) :
    concurrence.Grounds r r' where
  schema := h.schema
  naming := h.naming
  packageFor := h.packageFor
  innerScope k _ _ hst := innerScope_eq h hst k
  checkClassName c k := concurrence.of_unnoticed (concurrence.unnoticed_checkClassName r c k)
    (concurrence.unnoticed_checkClassName r' c k)
  documentClass c k := concurrence.of_unnoticed (concurrence.unnoticed_documentClass r c k)
    (concurrence.unnoticed_documentClass r' c k)

/-- Contexts that concur **match** at any depth of questions. -/
theorem matches_of_concurs (h : x.Concurs y) : concurrence.Matches x y := by
  intro steps
  apply grounds
  cases steps with
  | zero => exact h
  | succ steps => exact h

/-- Unused customizations are noticed alike. -/
theorem reportUnacknowledged (h : x.Concurs y) :
    concurrence.Simulates x.reportUnacknowledged y.reportUnacknowledged := by
  unfold Context.reportUnacknowledged
  rw [h.schema]
  refine .forM fun id => .reading fun s t hst => ?_
  have hacknowledged : t.acknowledged = s.acknowledged := by cases hst; rfl
  rw [hacknowledged]
  split
  · exact concurrence.report rfl rfl s t hst
  · exact .ok rfl rfl hst

end Context.Concurs

/-! ## Compilations -/

/-- Two results **differ in remarks** alone: both are the same error, or the models differ in
documentation alone and there are the same notices. -/
inductive DifferInRemarks : Except ResolveError Outcome → Except ResolveError Outcome → Prop
  | stopped (e : ResolveError) : DifferInRemarks (.error e) (.error e)
  | ended {o p : Outcome} (model : p.model.undocumented = o.model.undocumented)
      (notices : p.reports.notices = o.reports.notices) : DifferInRemarks (.ok o) (.ok p)

namespace Compilation

variable {c d : Compilation}

/-- A compilation **terminates** when its run is not cut short as endless. -/
def Terminates (c : Compilation) : Prop := ∀ id, c.run.1 ≠ .error (.endless id)

/-- Nothing has been reported before a run, whichever sources are registered. -/
theorem concurs_start (c d : Compilation) : c.start.Concurs d.start := by
  have hnotices (b : Compilation) : b.start.reports.notices = [] := by
    unfold Reports.notices
    rw [diagnostics_start]
    rfl
  exact .intro (s := c.start) rfl ((hnotices d).trans (hnotices c).symm)

/-- The standard runs for concurring contexts **end alike**. -/
theorem endAlike_steps (h : c.context.Concurs d.context) (hstandard : c.strategy = .standard)
    (hstandard' : d.strategy = .standard) :
    Resolving.EndAlike c.steps d.steps c.start d.start :=
  h.matches_of_concurs.steps hstandard hstandard' h.reportUnacknowledged _ _ (concurs_start c d)

/-- **Documentation, reserved names and sources never influence the generated types**: two
compilations that terminate, and that agree about all else, differ in remarks alone. -/
theorem differInRemarks_outcome (h : c.context.Concurs d.context)
    (hstandard : c.strategy = .standard) (hstandard' : d.strategy = .standard)
    (hterminates : c.Terminates) (hterminates' : d.Terminates) :
    DifferInRemarks c.outcome d.outcome := by
  cases endAlike_steps h hstandard hstandard' with
  | cut id hrun => exact absurd hrun (hterminates id)
  | cut' id hrun => exact absurd hrun (hterminates' id)
  | error e hrun hrun' =>
    rw [outcome_of_error hrun, outcome_of_error hrun']
    exact .stopped e
  | ok hrun hrun' huv =>
    rw [outcome_of_ok hrun, outcome_of_ok hrun']
    cases huv with
    | intro hmodel hreports => exact .ended hmodel hreports

/-- A complex type with a reserved name, in a namespace for which no valid package name is found. -/
def factory : Compilation where
  schema := (Builder.schemaLocator "urn:a²" (.atLine "a.xsd" 1)).after
    ((Builder.globalComplexType "urn:a²" "ObjectFactory").after .initial)

/-- The same complex type without documentation and with no reserved names, while the source of its
schema is registered. -/
def plainFactory : Compilation :=
  { factory with
    config := { generateDocs := false, reservedClassNames := [] }
    sources := [⟨"a.xsd", "<schema/>"⟩] }

/-- One run documents the class and reports its name, the other one says where the schema stands. -/
theorem differInRemarks_outcome_factory :
    DifferInRemarks factory.outcome plainFactory.outcome ∧
      (factory.outcome.toOption.map fun o => ((o.model.classInfo ⟨0⟩).doc.isSome,
        o.reports.diagnostics.map fun d => (d.code, d.labels.length))) =
        some (true, [(Finding.incorrectPackageNameKey, 0), (Finding.reservedClassNameKey, 0)]) ∧
      (plainFactory.outcome.toOption.map fun o => ((o.model.classInfo ⟨0⟩).doc.isSome,
        o.reports.diagnostics.map fun d => (d.code, d.labels.length))) =
        some (false, [(Finding.incorrectPackageNameKey, 1)]) := by
  have hrun : factory.run.1 = .ok () := by decide +kernel
  have hrun' : plainFactory.run.1 = .ok () := by decide +kernel
  refine ⟨differInRemarks_outcome ⟨rfl, rfl, rfl, rfl, rfl, rfl⟩ rfl rfl ?_ ?_,
    by decide +kernel, by decide +kernel⟩
  · intro id hid
    rw [hrun] at hid
    cases hid
  · intro id hid
    rw [hrun'] at hid
    cases hid

end Compilation

end SchemaBinding
