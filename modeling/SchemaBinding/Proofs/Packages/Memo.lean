import SchemaBinding.Proofs.Packages.Requests
import SchemaBinding.Proofs.WellPlaced

/-! # Packages are determined once
A run keeps three tables about packages: the packages of the namespaces that were asked for, the
names that were checked, and the packages of the model. They are kept in step by every request, so
that after any requests the package for a namespace is a function of the name that is picked for it,
and a name that is not valid is reported once, for the namespace that it was first picked for. -/

namespace SchemaBinding

open Resolver (State)

/-! ## Diagnostics about a package name -/

/-- The message about a package name that is not valid. -/
def incorrectPackageMessage (name : String) : String :=
  "'" ++ name ++ "' is not a valid package name"

/-- The message about a package name tells which name it is about. -/
theorem incorrectPackageMessage_injective {name other : String} :
    incorrectPackageMessage name = incorrectPackageMessage other ↔ name = other := by
  constructor
  · intro h
    have h := congrArg String.toList h
    exact String.toList_inj.1 (by simpa [incorrectPackageMessage] using h)
  · rintro rfl
    rfl

/-- The diagnostics that a package **name** is not valid. -/
def Reports.aboutPackage (r : Reports) (name : String) : List Diagnostic :=
  (r.withKey Finding.incorrectPackageNameKey).filter fun d =>
    d.message == incorrectPackageMessage name

/-- Another diagnostic about the name that is reported, and none about other names. -/
theorem Reports.aboutPackage_raise (r : Reports) (name ns other : String)
    (locator : Option Locator) :
    (r.raise (.incorrectPackageName name ns locator)).aboutPackage other =
      r.aboutPackage other ++
        if name = other then
          [(Finding.incorrectPackageName name ns locator).diagnostic r.sources]
        else [] := by
  have hkey : (Finding.incorrectPackageName name ns locator).key =
      Finding.incorrectPackageNameKey := rfl
  have hmessage : (Finding.incorrectPackageName name ns locator).message =
      incorrectPackageMessage name := rfl
  unfold aboutPackage
  rw [withKey_raise, if_pos hkey, List.filter_append, List.filter_singleton,
    Finding.message_diagnostic, hmessage]
  by_cases hname : name = other
  · simp [hname]
  · rw [if_neg hname, beq_eq_false_iff_ne.2 fun h => hname (incorrectPackageMessage_injective.1 h)]
    rfl

/-! ## The tables -/

namespace Context

/-- The **first** of the names that there are for the package of a namespace: the configured one,
that of the schema, the one configured for schemas without one, the one derived from the namespace,
or the fallback. -/
def picked (x : Context) (ns : String) : String :=
  [x.config.package, (x.schema.schema? ns).bind Schema.package, x.config.compatPackage,
    x.naming.packageName ns].reduceOption.headD x.config.fallbackPackage

/-- The finding about a package name that was picked in some requests: none if the name is empty or
valid, and the one for the first namespace that it was picked for otherwise. -/
def complaint? (x : Context) (requests : List (String × PackageId)) (name : String) :
    Option Finding :=
  if name = "" ∨ Naming.isPackageName name = true then none
  else (requests.find? fun request => x.picked request.1 == name).map fun request =>
    .incorrectPackageName name request.1 ((x.schema.schema? request.1).bind Schema.locator)

variable {x : Context} {requests : List (String × PackageId)} {ns name : String} {p : PackageId}

/-- A name that was picked before is not complained about for another namespace. -/
theorem complaint?_append_of_mem (h : ∃ request ∈ requests, x.picked request.1 = x.picked ns)
    (name : String) : x.complaint? (requests ++ [(ns, p)]) name = x.complaint? requests name := by
  unfold complaint?
  split
  · rfl
  · rw [List.find?_append]
    by_cases hname : x.picked ns = name
    · obtain ⟨request, hrequest, hpicked⟩ := h
      have hsome : (requests.find? fun request => x.picked request.1 == name).isSome = true := by
        rw [List.find?_isSome]
        exact ⟨request, hrequest, beq_iff_eq.2 (hpicked.trans hname)⟩
      obtain ⟨first, hfirst⟩ := Option.isSome_iff_exists.1 hsome
      rw [hfirst]
      rfl
    · simp [hname]

/-- A name is complained about when it is picked for the first time. -/
theorem complaint?_append_of_not_mem (h : ∀ request ∈ requests, x.picked request.1 ≠ x.picked ns)
    (name : String) :
    x.complaint? (requests ++ [(ns, p)]) name =
      if x.picked ns = name then
        if name = "" ∨ Naming.isPackageName name = true then none
        else some (.incorrectPackageName name ns ((x.schema.schema? ns).bind Schema.locator))
      else x.complaint? requests name := by
  unfold complaint?
  by_cases hname : x.picked ns = name
  · have hnone : (requests.find? fun request => x.picked request.1 == name) = none := by
      simpa [List.find?_eq_none, ← hname] using h
    rw [if_pos hname, List.find?_append, hnone]
    simp [hname]
  · simp [hname, List.find?_append]

end Context

namespace Resolver.State

/-- The tables of a state **record** requests for packages. -/
structure Records (x : Context) (requests : List (String × PackageId)) (t : State) : Prop where
  known : ∀ ns p, t.packages.lookup ns = some p ↔ (ns, p) ∈ requests
  checked : ∀ name, name ∈ t.checkedNames ↔ ∃ request ∈ requests, x.picked request.1 = name
  named : ∀ request ∈ requests, t.model.packages[request.2.index]? = some (x.picked request.1)
  distinct : t.model.packages.toList.Nodup
  reported : ∀ name, t.reports.aboutPackage name =
    (x.complaint? requests name).toList.map fun finding => finding.diagnostic t.reports.sources

namespace Records

variable {x : Context} {s t u : State} {requests : List (String × PackageId)} {ns : String}
  {p : PackageId}

/-- States that are alike record the same requests. -/
theorem aside (h : t.Records x requests) (halike : t.Alike u) : u.Records x requests := by
  obtain ⟨hpackages, hchecked, hmodel, hsources, hreported⟩ := halike
  refine ⟨?_, ?_, ?_, ?_, fun name => ?_⟩
  · simpa only [hpackages] using h.known
  · simpa only [hchecked] using h.checked
  · simpa only [hmodel] using h.named
  · simpa only [hmodel] using h.distinct
  · rw [Reports.aboutPackage, hreported, hsources]
    exact h.reported name

/-- To ask **again** changes nothing that is recorded. -/
theorem again (h : t.Records x requests) (hp : (ns, p) ∈ requests) :
    t.Records x (requests ++ [(ns, p)]) := by
  have hmem {request : String × PackageId} :
      request ∈ requests ++ [(ns, p)] ↔ request ∈ requests := by
    rw [List.mem_append, List.mem_singleton]
    exact or_iff_left_of_imp fun heq => heq ▸ hp
  refine ⟨fun ns p => ?_, fun name => ?_, fun request hrequest => ?_, h.distinct, fun name => ?_⟩
  · rw [hmem]
    exact h.known ns p
  · simp only [hmem]
    exact h.checked name
  · exact h.named request (hmem.1 hrequest)
  · rw [Context.complaint?_append_of_mem ⟨_, hp, rfl⟩]
    exact h.reported name

/-- A name is **checked** when it is picked for the first time, and reported at that moment unless
it is empty or valid. -/
theorem checkPackageName (h : t.Records x requests) (ns : String) (p : PackageId) :
    let u := x.checkPackageName ns (x.picked ns) t
    u.packages = t.packages ∧ u.model = t.model ∧
      (∀ name, name ∈ u.checkedNames ↔
        ∃ request ∈ requests ++ [(ns, p)], x.picked request.1 = name) ∧
      ∀ name, u.reports.aboutPackage name =
        (x.complaint? (requests ++ [(ns, p)]) name).toList.map
          fun finding => finding.diagnostic u.reports.sources := by
  have hadded (name : String) : (∃ request ∈ requests ++ [(ns, p)], x.picked request.1 = name) ↔
      x.picked ns = name ∨ name ∈ t.checkedNames := by
    rw [h.checked]
    simp only [List.mem_append, List.mem_singleton, or_and_right, exists_or, exists_eq_left]
    exact or_comm
  have hfresh (hnew : x.picked ns ∉ t.checkedNames) :
      ∀ request ∈ requests, x.picked request.1 ≠ x.picked ns :=
    fun request hrequest heq => hnew ((h.checked _).2 ⟨request, hrequest, heq⟩)
  -- no earlier request has picked a new name, so none has complained about it
  have hnone (hnew : x.picked ns ∉ t.checkedNames) :
      x.complaint? requests (x.picked ns) = none := by
    unfold Context.complaint?
    split
    · rfl
    · simpa [List.find?_eq_none] using hfresh hnew
  refine x.checkPackageName_cases _ _ t (fun hchecked => ?known) (fun hnew hvalid => ?fine)
    fun hnew hinvalid => ?reported
  case known =>
    refine ⟨rfl, rfl, fun name => ?_, fun name => ?_⟩
    · rw [hadded]
      exact (or_iff_right_of_imp fun heq => heq ▸ hchecked).symm
    · rw [Context.complaint?_append_of_mem ((h.checked _).1 hchecked)]
      exact h.reported name
  case fine =>
    refine ⟨rfl, rfl, fun name => by rw [hadded]; simp [eq_comm], fun name => ?_⟩
    show t.reports.aboutPackage name = _
    rw [Context.complaint?_append_of_not_mem (hfresh hnew), h.reported]
    split
    · rename_i hname
      subst hname
      rw [if_pos hvalid, hnone hnew]
    · rfl
  case reported =>
    refine ⟨rfl, rfl, fun name => by rw [hadded]; simp [eq_comm], fun name => ?_⟩
    show (Reports.raise ..).aboutPackage name = _
    rw [Context.complaint?_append_of_not_mem (hfresh hnew), Reports.aboutPackage_raise, h.reported]
    split
    · rename_i hname
      subst hname
      rw [hnone hnew, if_neg hinvalid]
      rfl
    · simp [Reports.raise]

/-- A request is **recorded**, whether or not its namespace was asked for before. -/
theorem asked (h : t.Records x requests) (hasked : (x.packageFor ns).runFrom t = (.ok p, u)) :
    u.Records x (requests ++ [(ns, p)]) := by
  have hpackage : x.packageOf ns t = (p, u) := by
    obtain ⟨hp, hu⟩ := Prod.mk.inj hasked
    exact Prod.ext (Except.ok.inj hp) hu
  cases hlookup : t.packages.lookup ns with
  | some known =>
    -- the memo answers, and nothing changes
    rw [x.packageOf_known hlookup] at hpackage
    obtain ⟨rfl, rfl⟩ := Prod.mk.inj hpackage
    exact h.again ((h.known ns _).1 hlookup)
  | none =>
    -- the name is checked, and its package is found or created
    rw [x.packageOf_unknown hlookup] at hpackage
    obtain ⟨hp, rfl⟩ := Prod.mk.inj hpackage
    obtain ⟨hpackages, hmodel, hchecked, hreported⟩ := h.checkPackageName ns p
    have hpicked : x.packageName ns = x.picked ns := x.packageName_eq ns
    rw [hpicked, hmodel] at hp ⊢
    refine ⟨fun ns' p' => ?known, hchecked, fun request hrequest => ?named,
      Model.nodup_package h.distinct _, hreported⟩
    case known =>
      show (_ ++ _ : List _).lookup ns' = some p' ↔ _
      rw [hpackages, hp, List.lookup_append, List.mem_append, List.mem_singleton]
      by_cases hns : ns' = ns
      · -- there was no package for the namespace before
        subst hns
        have hfresh : (ns', p') ∉ requests := fun hmem => by
          rw [(h.known ns' p').2 hmem] at hlookup
          cases hlookup
        simp [hlookup, hfresh, eq_comm]
      · simp [hns, ← h.known, List.lookup_cons, beq_eq_false_iff_ne.2 hns]
    case named =>
      rcases List.mem_append.1 hrequest with hrequest | hrequest
      · exact Model.getElem?_package_of (h.named request hrequest)
      · rw [List.mem_singleton.1 hrequest, ← hp]
        exact Model.getElem?_package t.model _

/-- All **requests** are recorded. -/
theorem of_requests (h : s.Records x []) (hrequests : s.Requests x requests t) :
    t.Records x requests := by
  induction hrequests with
  | start => exact h
  | aside _ alike ih => exact ih.aside alike
  | asked _ answer ih => exact ih.asked answer

/-- Nothing is recorded at the start of a run. -/
theorem start (c : Compilation) : c.start.Records c.context [] := by
  refine ⟨fun ns p => ?_, fun name => ?_, fun request hrequest => ?_, ?_, fun name => ?_⟩
  · simp [Compilation.start, State.initial]
  · simp [Compilation.start, State.initial]
  · cases hrequest
  · simp [Compilation.start, State.initial]
  · have hsilent : c.start.reports.diagnostics = [] := Compilation.diagnostics_start c
    have hnone : c.context.complaint? [] name = none := by
      unfold Context.complaint?
      split <;> rfl
    rw [hnone, Reports.aboutPackage, Reports.withKey, hsilent]
    rfl

end Records

/-- What requests for packages have come to. -/
structure Resolved (x : Context) (requests : List (String × PackageId)) (t : State) : Prop where
  /-- Requests for one namespace are given one package. -/
  same : ∀ request ∈ requests, ∀ other ∈ requests, request.1 = other.1 → request.2 = other.2
  /-- Requests are given one package exactly if one name is picked for their namespaces. -/
  shared : ∀ request ∈ requests, ∀ other ∈ requests,
    request.2 = other.2 ↔ x.picked request.1 = x.picked other.1
  /-- That name is the name of the package. -/
  named : ∀ request ∈ requests, t.model.packageName request.2 = x.picked request.1
  /-- The same request once more is given the same package, and nothing changes. -/
  again : ∀ request ∈ requests, (x.packageFor request.1).runFrom t = (.ok request.2, t)
  /-- The one diagnostic about a name that is neither empty nor valid is for the first of the
  requests that it was picked for. -/
  reported : ∀ name, t.reports.aboutPackage name =
    if name = "" ∨ Naming.isPackageName name = true then []
    else (requests.find? fun request => x.picked request.1 == name).toList.map fun request =>
      (Finding.incorrectPackageName name request.1
        ((x.schema.schema? request.1).bind Schema.locator)).diagnostic t.reports.sources

/-- Tables that record requests tell what they have come to. -/
theorem Records.resolved {x : Context} {t : State} {requests : List (String × PackageId)}
    (h : t.Records x requests) : t.Resolved x requests := by
  have hshared : ∀ request ∈ requests, ∀ other ∈ requests,
      request.2 = other.2 ↔ x.picked request.1 = x.picked other.1 := by
    intro request hrequest other hother
    have hname := h.named request hrequest
    have hother' := h.named other hother
    constructor
    · intro heq
      rw [heq, hother'] at hname
      exact (Option.some.inj hname).symm
    · intro heq
      -- no two packages have one name, so the name tells the package
      have hindex : t.model.packages.toList[request.2.index]? =
          t.model.packages.toList[other.2.index]? := by
        rw [Array.getElem?_toList, Array.getElem?_toList, hname, hother', heq]
      have hlt : request.2.index < t.model.packages.toList.length := by
        rw [Array.length_toList]
        exact (Array.getElem?_eq_some_iff.1 hname).1
      have heqIndex := (List.getElem?_inj hlt h.distinct).1 hindex
      exact (congrArg PackageId.mk heqIndex :)
  refine ⟨?same, hshared, ?named, ?again, ?reported⟩
  case same =>
    intro request hrequest other hother heq
    exact (hshared request hrequest other hother).2 (congrArg x.picked heq)
  case named =>
    intro request hrequest
    simp [Model.packageName, h.named request hrequest]
  case again =>
    intro request hrequest
    have hknown := (h.known request.1 request.2).2 hrequest
    show (Except.ok (x.packageOf request.1 t).1, (x.packageOf request.1 t).2) = _
    rw [x.packageOf_known hknown]
  case reported =>
    intro name
    rw [h.reported, Context.complaint?]
    split
    · rfl
    · rw [Option.toList_map, List.map_map]
      rfl

end Resolver.State

namespace Compilation

open Resolver (Call)

/-- **Packages are determined once.** Whatever is called during a run, and in the run itself, each
request for a package is answered by the name that is picked for its namespace, and each name that
is picked is reported at most once, for the first namespace that it is picked for. -/
theorem resolved_of_requests {c : Compilation} (hstandard : c.strategy = .standard) :
    (∀ calls : List Call, ∃ requests,
      c.start.Requests c.context requests (c.resolver.after calls c.start) ∧
        (calls.filterMap Call.namespace?).Sublist (requests.map Prod.fst)) ∧
      (∃ requests, c.start.Requests c.context requests c.run.2) ∧
      ∀ requests t, c.start.Requests c.context requests t → t.Resolved c.context requests := by
  refine ⟨fun calls => ?_, exists_requests_run hstandard, fun requests t hrequests => ?_⟩
  · rw [resolver_of_standard hstandard]
    exact Resolver.exists_requests_after c.context calls c.start
  · exact (State.Records.of_requests (.start c) hrequests).resolved

/-- Complex types in two namespaces that one package name is derived from, which is not valid. -/
def collapsing : Compilation where
  schema := (Builder.globalComplexType "urn:A²" "U").after
    ((Builder.globalComplexType "urn:a²" "T").after .initial)

/-- Two requests are answered by one package, whose name is reported for the first of them. -/
theorem resolved_of_requests_collapsing :
    collapsing.run.2.packages = [("urn:a²", ⟨0⟩), ("urn:A²", ⟨0⟩)] ∧
      collapsing.run.2.reports.aboutPackage "a²" =
        [(Finding.incorrectPackageName "a²" "urn:a²" none).diagnostic {}] ∧
      (∀ calls : List Call, ∃ requests,
        collapsing.start.Requests collapsing.context requests
            (collapsing.resolver.after calls collapsing.start) ∧
          (calls.filterMap Call.namespace?).Sublist (requests.map Prod.fst)) ∧
      (∃ requests, collapsing.start.Requests collapsing.context requests collapsing.run.2) ∧
      ∀ requests t, collapsing.start.Requests collapsing.context requests t →
        t.Resolved collapsing.context requests :=
  ⟨by decide +kernel, by decide +kernel, resolved_of_requests rfl⟩

end Compilation

end SchemaBinding
