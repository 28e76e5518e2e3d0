import SchemaBinding.Proofs.Simulation.Run

/-! # Requests for packages
Packages are requested in the middle of proposals: for the scope of a global declaration, and for
the place of a new type outside of all scopes. Whatever is asked of a resolver, and whether or not
it fails, it does nothing about packages but to make such **requests**, one after the other
(`requesting.matches_self`). -/

namespace SchemaBinding

open Resolver (State)

namespace Resolver.State

/-- The states are **alike** in all that packages are determined by and reported in. -/
structure Alike (s t : State) : Prop where
  packages : t.packages = s.packages
  checked : t.checkedNames = s.checkedNames
  model : t.model.packages = s.model.packages
  sources : t.reports.sources = s.reports.sources
  reported : t.reports.withKey Finding.incorrectPackageNameKey =
    s.reports.withKey Finding.incorrectPackageNameKey

/-- The **requests** for packages from one state to another, in order and with their answers. -/
inductive Requests (x : Context) (s : State) : List (String × PackageId) → State → Prop
  | start : Requests x s [] s
  /-- Something else happens. -/
  | aside {requests : List (String × PackageId)} {t u : State} (before : Requests x s requests t)
      (alike : t.Alike u) : Requests x s requests u
  /-- The package for a namespace is asked for. -/
  | asked {requests : List (String × PackageId)} {t u : State} {ns : String} {p : PackageId}
      (before : Requests x s requests t) (answer : (x.packageFor ns).runFrom t = (.ok p, u)) :
      Requests x s (requests ++ [(ns, p)]) u

variable {x : Context} {s t u : State} {requests later : List (String × PackageId)}

/-- Requests made one after the other, in order. -/
theorem Requests.trans (h : s.Requests x requests t) (h' : t.Requests x later u) :
    s.Requests x (requests ++ later) u := by
  induction h' with
  | start => simpa using h
  | aside _ alike ih => exact ih.aside alike
  | asked _ answer ih =>
    rw [← List.append_assoc]
    exact ih.asked answer

/-- One state **reaches** another by requests for packages. -/
def Reaches (x : Context) (s t : State) : Prop := ∃ requests, s.Requests x requests t

namespace Reaches

/-- A state reaches itself by no request. -/
theorem refl (s : State) : s.Reaches x s := ⟨[], .start⟩

/-- What is reached from a reached state is reached. -/
theorem trans (h : s.Reaches x t) (h' : t.Reaches x u) : s.Reaches x u := by
  obtain ⟨requests, h⟩ := h
  obtain ⟨later, h'⟩ := h'
  exact ⟨requests ++ later, h.trans h'⟩

/-- A state reaches those that are alike, by no request. -/
theorem aside (h : s.Alike t) : s.Reaches x t := ⟨[], .aside .start h⟩

/-- A report about something else than a package name. -/
theorem raise {finding : Finding} (h : finding.key ≠ Finding.incorrectPackageNameKey) (s : State) :
    s.Reaches x { s with reports := s.reports.raise finding } :=
  aside ⟨rfl, rfl, rfl, rfl, by rw [Reports.withKey_raise, if_neg h, List.append_nil]⟩

end Reaches

end Resolver.State

/-! ## Steps that request packages -/

/-- What steers a run is alike in all that is about packages. -/
theorem Resolver.State.Steers.alike {f : State → State} (h : State.Steers f) (s : State) :
    s.Alike (f s) := by
  obtain ⟨hmodel, hreports, hpackages, hchecked⟩ := h.keeps s
  exact ⟨hpackages, hchecked, by rw [hmodel], by rw [hreports], by rw [hreports]⟩

/-- The **simulation** of a run by itself in which every step reaches the state that it leaves,
whatever comes of it. -/
def requesting (x : Context) : Simulation where
  Rel s t := s = t
  Runs step _ s _ := s.Reaches x (step.runFrom s).2
  abreast h := h ▸ .refl _
  steer _ h := congrArg _ h
  pure _ s _ _ := .refl s
  throw _ s _ _ := .refl s
  bind {_ _ step _ _ _ s _} hs hnext := by
    rw [Resolving.runFrom_bind]
    rcases hrun : step.runFrom s with ⟨e | a, u⟩
    · rwa [hrun] at hs
    · rw [hrun] at hs
      exact hs.trans (hnext a u u rfl)
  entering hf h hstep _ := by
    rw [hstep]
    exact (State.Reaches.aside (hf.alike _)).trans h
  closing hclose h := by
    rw [Resolving.runFrom_closing]
    exact h.trans (.aside (hclose.alike _))
  newClass _ _ _ _ _ := .aside ⟨rfl, rfl, rfl, rfl, rfl⟩
  newElement _ _ _ _ _ _ := .aside ⟨rfl, rfl, rfl, rfl, rfl⟩
  modifyElement _ _ _ _ _ := .aside ⟨rfl, rfl, rfl, rfl, rfl⟩
  modifyClass _ _ _ _ _ _ := .aside ⟨rfl, rfl, rfl, rfl, rfl⟩

namespace requesting

variable {x : Context} {r : Resolver}

/-- A report about something else than a package name is no request. -/
theorem report {finding : Finding} (h : finding.key ≠ Finding.incorrectPackageNameKey) :
    (requesting x).Simulates (Resolving.report finding) (Resolving.report finding) :=
  fun s _ _ => .raise h s

/-- The check of a class name asks for no package. -/
theorem checkClassName (r : Resolver) (c : ComponentId) (k : ClassId) :
    (requesting x).Simulates (r.checkClassName c k) (r.checkClassName c k) := by
  have hkey : Finding.reservedClassNameKey ≠ Finding.incorrectPackageNameKey := by decide
  refine .reading fun s t hst => ?_
  subst hst
  dsimp only
  split
  · exact report hkey s s rfl
  · exact .refl s

/-- The documentation of a class asks for no package. -/
theorem documentClass (r : Resolver) (c : ComponentId) (k : ClassId) :
    (requesting x).Simulates (Resolver.documentClass .standard r c k)
      (Resolver.documentClass .standard r c k) := by
  refine .reading fun s t hst => ?_
  subst hst
  split
  · split
    · exact .refl s
    · exact .aside ⟨rfl, rfl, rfl, rfl, rfl⟩
  · exact .refl s

/-- A resolver does nothing about packages of its own but to **request** them. -/
theorem grounds (h : r.toContext = x) : (requesting x).Grounds r r where
  schema := rfl
  naming := rfl
  packageFor ns s _ _ := h ▸ ⟨_, .asked .start rfl⟩
  innerScope _ _ _ hst := by rw [hst]
  checkClassName := checkClassName r
  documentClass := documentClass r

/-- Every context matches itself. -/
theorem matches_self (x : Context) : (requesting x).Matches x x := by
  intro steps
  apply grounds
  cases steps with
  | zero => rfl
  | succ steps => rfl

end requesting

/-! ## Calls and runs -/

namespace Resolver

/-- The namespace that a call asks the package for. -/
def Call.namespace? : Call → Option String
  | packageFor ns => some ns
  | _ => none

/-- The requests that calls make, among them those that the calls **are**. -/
theorem exists_requests_after (x : Context) (calls : List Call) (s : State) :
    ∃ requests, s.Requests x requests (after (.of x .standard) calls s) ∧
      (calls.filterMap Call.namespace?).Sublist (requests.map Prod.fst) := by
  induction calls generalizing s with
  | nil => exact ⟨[], .start, List.Sublist.refl _⟩
  | cons call rest ih =>
    have hcall : ∃ requests, s.Requests x requests ((call.step (.of x .standard)).runFrom s).2 ∧
        call.namespace?.toList.Sublist (requests.map Prod.fst) := by
      cases call with
      | packageFor ns =>
        exact ⟨[(ns, (x.packageOf ns s).1)], .asked .start rfl, List.Sublist.refl _⟩
      | _ =>
        -- a call that asks for no package itself makes requests all the same
        obtain ⟨requests, hrequests⟩ := (requesting.matches_self x).call _ s s rfl
        exact ⟨requests, hrequests, List.nil_sublist _⟩
    obtain ⟨requests, hrequests, hasked⟩ := hcall
    obtain ⟨later, hlater, hrest⟩ := ih ((call.step (.of x .standard)).runFrom s).2
    refine ⟨requests ++ later, hrequests.trans hlater, ?_⟩
    rw [List.map_append, List.filterMap_cons]
    cases hns : call.namespace? with
    | none => exact hrest.trans (List.sublist_append_right _ _)
    | some ns =>
      rw [hns] at hasked
      exact hasked.append hrest

end Resolver

namespace Compilation

/-- A run makes requests to its end, or to where it stops. -/
theorem exists_requests_run {c : Compilation} (hstandard : c.strategy = .standard) :
    c.start.Reaches c.context c.run.2 := by
  have hkey : Finding.unusedCustomizationKey ≠ Finding.incorrectPackageNameKey := by decide
  have hreport : (requesting c.context).Simulates c.context.reportUnacknowledged
      c.context.reportUnacknowledged := by
    refine .forM fun id => .reading fun s t hst => ?_
    subst hst
    split
    · exact requesting.report hkey s s rfl
    · exact .refl s
  exact (requesting.matches_self c.context).steps hstandard hstandard hreport c.start c.start rfl

end Compilation

end SchemaBinding
