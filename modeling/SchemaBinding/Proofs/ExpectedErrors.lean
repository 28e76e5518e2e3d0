import SchemaBinding.Expectation.Check
import SchemaBinding.Proofs.Cutting
import SchemaBinding.Proofs.Manifest.Outcome
import SchemaBinding.Proofs.Packages.Requests

/-! # Expected errors
An error is expected by a text. The expectation asks for two things one by one: that the compilation
has errors, and that the text occurs in **some** diagnostic. Of the findings that a run raises only
those about unused customizations are no errors. So an expectation is met without an error that
contains the text exactly when there is some other error, and the text occurs in such a warning. -/

namespace SchemaBinding

open Resolver (State)

/-! ## What runs raise -/

/-- The **findings** of a resolver. -/
inductive Finding.Raised : Finding → Prop
  | reservedClassName (className component : String) (locator : Option Locator) :
      Raised (reservedClassName className component locator)
  | incorrectPackageName (package ns : String) (locator : Option Locator) :
      Raised (incorrectPackageName package ns locator)
  | unusedCustomization (component : String) (locator : Option Locator) :
      Raised (unusedCustomization component locator)

/-- A diagnostic **warns** of a property customization that nothing used. -/
structure Diagnostic.WarnsOfUnused (d : Diagnostic) : Prop where
  code : d.code = Finding.unusedCustomizationKey
  severity : d.severity = .warning
  message : ∃ component, d.message = "property customization on " ++ component ++ " was not used"

/-- What is found is an **error**, but for unused customizations. -/
theorem Finding.Raised.isError_or_warnsOfUnused {f : Finding} (h : f.Raised) (sources : Sources) :
    (f.diagnostic sources).severity.isError = true ∨ (f.diagnostic sources).WarnsOfUnused := by
  have hdiagnostic : (f.diagnostic sources).severity = f.severity ∧
      (f.diagnostic sources).code = f.key ∧ (f.diagnostic sources).message = f.message := by
    unfold diagnostic
    split <;> exact ⟨rfl, rfl, rfl⟩
  obtain ⟨hseverity, hcode, hmessage⟩ := hdiagnostic
  cases h with
  | reservedClassName | incorrectPackageName =>
    rw [hseverity]
    exact .inl rfl
  | unusedCustomization component => exact .inr ⟨hcode, hseverity, component, hmessage⟩

namespace Reports

/-- All diagnostics come from findings of a resolver. -/
def AllRaised (r : Reports) : Prop :=
  ∀ d ∈ r.diagnostics, ∃ (f : Finding) (sources : Sources), f.Raised ∧ d = f.diagnostic sources

/-- Raising one more finding of a resolver goes on from raised diagnostics to raised diagnostics. -/
theorem AllRaised.raise {r : Reports} (h : r.AllRaised) {f : Finding} (hf : f.Raised) :
    (r.raise f).AllRaised := by
  intro d hd
  rcases List.mem_append.1 hd with hd | hd
  · exact h d hd
  · exact ⟨f, r.sources, hf, List.mem_singleton.1 hd⟩

end Reports

/-- The **simulation** of a run by itself in which every step raises nothing but findings of a
resolver, whatever comes of it. -/
def raising : Simulation where
  Rel s t := s = t
  Runs step _ s _ := s.reports.AllRaised → (step.runFrom s).2.reports.AllRaised
  abreast h := .of_eq h
  steer _ h := congrArg _ h
  pure _ _ _ _ h := h
  throw _ _ _ _ h := h
  bind {_ _ step _ _ _ s _} hs hnext h := by
    rw [Resolving.runFrom_bind]
    have hs := hs h
    rcases hrun : step.runFrom s with ⟨e | a, u⟩
    · rwa [hrun] at hs
    · rw [hrun] at hs
      exact hnext a u u rfl hs
  entering {_ _ _ _ _ f s _} hf h hstep _ hraised := by
    rw [hstep]
    refine h ?_
    rwa [(hf.keeps s).2.1]
  closing hclose h hraised := by
    rw [Resolving.runFrom_closing, (hclose.keeps _).2.1]
    exact h hraised
  newClass _ _ _ _ _ h := h
  newElement _ _ _ _ _ _ h := h
  modifyElement _ _ _ _ _ h := h
  modifyClass _ _ _ _ _ _ h := h

namespace raising

/-- A finding of a resolver may be reported. -/
theorem report {f : Finding} (hf : f.Raised) :
    raising.Simulates (Resolving.report f) (Resolving.report f) :=
  fun _ _ _ h => h.raise hf

/-- The check of a package name raises nothing but **incorrect** package names. -/
theorem packageOf (x : Context) (ns : String) {s : State} (h : s.reports.AllRaised) :
    (x.packageOf ns s).2.reports.AllRaised := by
  have hcheck (name : String) : (x.checkPackageName ns name s).reports.AllRaised :=
    x.checkPackageName_cases _ _ s (fun _ => h) (fun _ _ => h)
      fun _ _ => h.raise (.incorrectPackageName _ _ _)
  unfold Context.packageOf
  split
  · exact h
  · exact hcheck _

/-- The check of a class name raises only a finding about a reserved name. -/
theorem checkClassName (r : Resolver) (c : ComponentId) (k : ClassId) :
    raising.Simulates (r.checkClassName c k) (r.checkClassName c k) := by
  refine .reading fun s t hst => ?_
  subst hst
  dsimp only
  split
  · exact report (.reservedClassName _ _ _) s s rfl
  · exact id

/-- The documentation of a class raises nothing. -/
theorem documentClass (r : Resolver) (c : ComponentId) (k : ClassId) :
    raising.Simulates (Resolver.documentClass .standard r c k)
      (Resolver.documentClass .standard r c k) := by
  refine .reading fun s t hst => ?_
  subst hst
  split
  · split <;> exact id
  · exact id

/-- Every resolver grounds the simulation by itself. -/
theorem grounds (r : Resolver) : raising.Grounds r r where
  schema := rfl
  naming := rfl
  packageFor ns _ _ _ h := packageOf r.toContext ns h
  innerScope _ _ _ hst := by rw [hst]
  checkClassName := checkClassName r
  documentClass := documentClass r

/-- Every context matches itself. -/
theorem matches_self (x : Context) : raising.Matches x x := by
  intro steps
  apply grounds

end raising

namespace Compilation

variable {c : Compilation} {o : Outcome}

/-- All diagnostics of a run come from **findings** of its resolver, also when it stops. -/
theorem allRaised_run (hstandard : c.strategy = .standard) : c.run.2.reports.AllRaised := by
  have hstart : c.start.reports.AllRaised := by
    intro d hd
    rw [diagnostics_start] at hd
    cases hd
  have hreport : raising.Simulates c.context.reportUnacknowledged
      c.context.reportUnacknowledged := by
    refine .forM fun component => .reading fun s t hst => ?_
    subst hst
    split
    · exact raising.report (.unusedCustomization _ _) s s rfl
    · exact id
  exact (raising.matches_self c.context).steps hstandard hstandard hreport c.start c.start rfl
    hstart

/-- The diagnostics of an outcome are errors, or **warn** of unused customizations. -/
theorem isError_or_warnsOfUnused (hstandard : c.strategy = .standard)
    (hcompile : c.compile = .ok o) {d : Diagnostic} (hd : d ∈ o.reports.diagnostics) :
    d.severity.isError = true ∨ d.WarnsOfUnused := by
  have hraised := c.allRaised_run hstandard
  obtain ⟨s, hrun, rfl⟩ := exists_run_of_compile hcompile
  rw [hrun] at hraised
  obtain ⟨f, sources, hf, rfl⟩ := hraised d hd
  exact hf.isError_or_warnsOfUnused sources

end Compilation

/-! ## Tests -/

/-- What is **tested**: the text of a manifest, or a schema set. -/
inductive TestInput where
  | manifest (text : String)
  | schema (set : SchemaSet)

namespace TestInput

variable {c : Compilation} {o : Outcome}

/-- Compiles what is tested, as a compilation prescribes. -/
def compile (input : TestInput) (c : Compilation) : Except CompileError Outcome :=
  match input with
  | manifest text => c.compileManifest text "test.toml"
  | schema set => ({ c with schema := set } : Compilation).compile

/-- A test **reports** a diagnostic of a kind: it finishes, and there is such a diagnostic. -/
def Reports (input : TestInput) (c : Compilation) (kind : Diagnostic → Prop) : Prop :=
  ∃ o, input.compile c = .ok o ∧ ∃ d ∈ o.reports.diagnostics, kind d

/-- A diagnostic of a finished test is an error or warns of a property customization that nothing
used. -/
theorem isError_or_warnsOfUnused {input : TestInput} (hstandard : c.strategy = .standard)
    (hcompile : input.compile c = .ok o) {d : Diagnostic} (hd : d ∈ o.reports.diagnostics) :
    d.severity.isError = true ∨ d.WarnsOfUnused := by
  cases input with
  | schema set =>
    exact Compilation.isError_or_warnsOfUnused (c := { c with schema := set }) hstandard hcompile hd
  | manifest text =>
    change c.compileManifest text "test.toml" = .ok o at hcompile
    unfold Compilation.compileManifest at hcompile
    cases hset : SchemaSet.ofManifest text "test.toml" with
    | error cause =>
      rw [hset] at hcompile
      cases hcompile
    | ok set =>
      rw [hset] at hcompile
      exact Compilation.isError_or_warnsOfUnused (c := { c with schema := set }) hstandard hcompile
        hd

end TestInput

namespace Expectation

/-- A text **occurs** in the message of a diagnostic. -/
def OccursIn (text : String) (d : Diagnostic) : Prop := text.toList <:+: d.message.toList

/-- The search through the messages of diagnostics decides whether a text occurs in one of them. -/
theorem any_message_iff {text : String} {diagnostics : List Diagnostic} :
    (diagnostics.map Diagnostic.message).any (Text.occursIn text) = true ↔
      ∃ d ∈ diagnostics, OccursIn text d := by
  rw [List.any_map, List.any_eq_true]
  exact exists_congr fun d => and_congr_right fun _ => Text.occursIn_iff

/-- A requirement is met exactly if the condition holds. -/
theorem require_eq_ok {ε : Type} {holds : Bool} {failure : ε} :
    require holds failure = .ok () ↔ holds = true := by
  cases holds <;> simp [require]

/-- An error is expected of a compilation that has finished by **two** conditions. -/
theorem checkOutcome_hasError {o : Outcome} {text : String} :
    (hasError text).checkOutcome o = .ok () ↔
      (∃ d ∈ o.reports.diagnostics, d.severity.isError = true) ∧
        ∃ d ∈ o.reports.diagnostics, OccursIn text d := by
  rw [← any_message_iff, ← List.any_eq_true]
  show (require o.reports.hasErrors Mismatch.noErrors >>= fun _ => require _ _) = .ok () ↔ _
  unfold Reports.hasErrors
  cases o.reports.diagnostics.any fun d => d.severity.isError with
  | false => simp [require, Bind.bind, Except.bind]
  | true => exact require_eq_ok.trans ⟨fun h => ⟨rfl, h⟩, And.right⟩

/-- The expectation of an error asks for an error and for the text, **one by one**. In a standard
run it is met exactly when an error contains the text, or when there is some error and a warning of
an unused customization contains it. -/
theorem check_hasError (input : TestInput) (c : Compilation) (text : String) :
    let passes := (hasError text).check (input.compile c) = .ok ()
    (passes ↔ input.Reports c (fun d => d.severity.isError = true) ∧
      input.Reports c (OccursIn text)) ∧
    (c.strategy = .standard → (passes ↔
      input.Reports c (fun d => d.severity.isError = true ∧ OccursIn text d) ∨
        input.Reports c (fun d => d.severity.isError = true) ∧
          input.Reports c (fun d => d.WarnsOfUnused ∧ OccursIn text d))) := by
  intro passes
  have hpasses : passes ↔ input.Reports c (fun d => d.severity.isError = true) ∧
      input.Reports c (OccursIn text) := by
    show (hasError text).check (input.compile c) = .ok () ↔ _
    unfold TestInput.Reports
    cases input.compile c with
    | error cause =>
      constructor
      · intro h
        cases h
      · rintro ⟨⟨_, ⟨⟩, _⟩, _⟩
    | ok o =>
      refine checkOutcome_hasError.trans ⟨fun ⟨herror, hoccurs⟩ => ?_, ?_⟩
      · exact ⟨⟨o, rfl, herror⟩, o, rfl, hoccurs⟩
      · rintro ⟨⟨_, ⟨⟩, herror⟩, _, ⟨⟩, hoccurs⟩
        exact ⟨herror, hoccurs⟩
  refine ⟨hpasses, fun hstandard => ⟨fun h => ?_, fun h => hpasses.2 ?_⟩⟩
  · obtain ⟨herror, o, hcompile, d, hd, hoccurs⟩ := hpasses.1 h
    -- the text may be found in a warning, which is then one of an unused customization
    rcases TestInput.isError_or_warnsOfUnused hstandard hcompile hd with hsevere | hwarns
    · exact .inl ⟨o, hcompile, d, hd, hsevere, hoccurs⟩
    · exact .inr ⟨herror, o, hcompile, d, hd, hwarns, hoccurs⟩
  · rcases h with ⟨o, hcompile, d, hd, hsevere, hoccurs⟩ | ⟨herror, o, hcompile, d, hd, -, hoccurs⟩
    · exact ⟨⟨o, hcompile, d, hd, hsevere⟩, o, hcompile, d, hd, hoccurs⟩
    · exact ⟨herror, o, hcompile, d, hd, hoccurs⟩

/-- A manifest of a type whose class name is reserved, of another type and of an abstract element
with a property that nothing uses. -/
def mixedText : String :=
  "schema=[\x7bnamespace=\"urn:x\",complex_type=[\x7bname=\"ObjectFactory\"," ++
    "element=[\x7bname=\"a\"\x7d]\x7d,\x7bname=\"T\",element=[\x7bname=\"b\"\x7d]\x7d]," ++
    "element=[\x7bname=\"e\",abstract=true,property=\"p\"\x7d]\x7d]"

/-- Its compilation. -/
def mixed : Compilation := { config := { generateDocs := false } }

set_option maxRecDepth 100000 in
/-- The error about the class name is expected by its text. -/
theorem check_hasError_mixed :
    mixed.strategy = .standard ∧
      (hasError "is reserved").check (TestInput.compile (.manifest mixedText) mixed) = .ok () := by
  refine ⟨rfl, ((check_hasError (.manifest mixedText) mixed _).2 rfl).2 (.inl ?_)⟩
  have hreported : (mixed.compileManifest mixedText "test.toml").toOption.any (fun o =>
      o.reports.diagnostics.any fun d =>
        d.severity.isError && Text.occursIn "is reserved" d.message) = true := by
    decide +kernel
  obtain ⟨o, hcompile, hany⟩ := Compilation.exists_of_toOption_any hreported
  obtain ⟨d, hd, hfound⟩ := List.any_eq_true.1 hany
  obtain ⟨hsevere, hoccurs⟩ := Bool.and_eq_true_iff.1 hfound
  exact ⟨o, hcompile, d, hd, hsevere, Text.occursIn_iff.1 hoccurs⟩

set_option maxRecDepth 100000 in
/-- An error is expected by the text of a warning, which **no error** contains, and the expectation
is met. -/
theorem exists_hasError_warning :
    ∃ o, TestInput.compile (.manifest mixedText) mixed = .ok o ∧
      (hasError "was not used").check (.ok o) = .ok () ∧
      ¬ ∃ d ∈ o.reports.diagnostics, d.severity.isError = true ∧ OccursIn "was not used" d := by
  have hreported : (mixed.compileManifest mixedText "test.toml").toOption.any (fun o =>
      ((hasError "was not used").check (.ok o)).isOk && !o.reports.diagnostics.any fun d =>
        d.severity.isError && Text.occursIn "was not used" d.message) = true := by
    decide +kernel
  obtain ⟨o, hcompile, hfound⟩ := Compilation.exists_of_toOption_any hreported
  obtain ⟨hmet, hnone⟩ := Bool.and_eq_true_iff.1 hfound
  refine ⟨o, hcompile, ?_, ?_⟩
  · cases hcheck : (hasError "was not used").check (.ok o) with
    | ok => rfl
    | error mismatch =>
      rw [hcheck] at hmet
      cases hmet
  · rintro ⟨d, hd, hsevere, hoccurs⟩
    have hany : (o.reports.diagnostics.any fun d =>
        d.severity.isError && Text.occursIn "was not used" d.message) = true :=
      List.any_eq_true.2 ⟨d, hd, Bool.and_eq_true_iff.2 ⟨hsevere, Text.occursIn_iff.2 hoccurs⟩⟩
    rw [hany] at hnone
    cases hnone

end Expectation

end SchemaBinding
