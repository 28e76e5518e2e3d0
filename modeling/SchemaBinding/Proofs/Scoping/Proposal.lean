import SchemaBinding.Proofs.Scoping.Matching

/-! # Proposals that differ in placement
Resolvers whose answers match make matching proposals: a class goes to the innermost scope, and a
wrapper is only ever proposed for a global element, directly in the package of its namespace. -/

namespace SchemaBinding

open Resolver (State)
open Resolving (Matching anyAnswer runFrom_bind runFrom_get_bind)

/-- A context is **rescoped** when it keeps local classes flat and the other one nests them. -/
structure Context.Rescoped (x y : Context) : Prop where
  schema : y.schema = x.schema
  naming : y.naming = x.naming
  config : y.config = { x.config with localScoping := .toplevel }
  nested : x.config.localScoping = .nested

variable {x y : Context} {r r' : Resolver} {s t : State} {c : ComponentId}

namespace Context.Rescoped

/-- The names of packages do not depend on scoping. -/
theorem packageName (h : x.Rescoped y) (ns : String) : y.packageName ns = x.packageName ns := by
  unfold Context.packageName
  rw [h.schema, h.naming, h.config]

/-- The name of a package is checked alike. -/
theorem checkPackageName (h : x.Rescoped y) (hst : s.Similar t) (ns name : String) :
    (x.checkPackageName ns name s).Similar (y.checkPackageName ns name t) := by
  unfold Context.checkPackageName
  rw [hst.checkedNames, h.schema]
  split
  · exact hst
  · dsimp only
    split
    · exact { hst with checkedNames := rfl }
    · exact
        { hst with
          checkedNames := rfl
          reports := congrArg (Reports.raise · _) hst.reports }

/-- A package is determined alike. -/
theorem matching_packageFor (h : x.Rescoped y) (hst : s.Similar t) (ns : String) :
    Matching (x.packageFor ns) (y.packageFor ns) s t anyAnswer := by
  have hstep : (x.packageFor ns).runFrom s = (.ok (x.packageOf ns s).1, (x.packageOf ns s).2) := rfl
  have hflat : (y.packageFor ns).runFrom t = (.ok (y.packageOf ns t).1, (y.packageOf ns t).2) := rfl
  cases hlookup : s.packages.lookup ns with
  | some p =>
    rw [x.packageOf_known hlookup] at hstep
    rw [y.packageOf_known (hst.packages ▸ hlookup)] at hflat
    exact .ok hstep hflat hst trivial
  | none =>
    rw [x.packageOf_unknown hlookup] at hstep
    rw [y.packageOf_unknown (hst.packages ▸ hlookup), h.packageName] at hflat
    have hcheck := h.checkPackageName hst ns (x.packageName ns)
    dsimp only at hstep hflat
    rw [hcheck.model.package_fst] at hflat
    have hmodel := hcheck.withModel (hcheck.model.package (x.packageName ns)) (.of_eq (by simp))
    exact .ok hstep hflat { hmodel with packages := by simp [hcheck.packages] } trivial

end Context.Rescoped

/-- The type of an answer **exists**. -/
abbrev Resolver.Exists (answer : Option TypeRef) (m : Model) : Prop :=
  ∀ type ∈ answer, m.HasType type

/-- Resolvers whose **answers match**, for contexts that differ in scoping. -/
structure Resolver.Alike (r r' : Resolver) : Prop where
  context : r.toContext.Rescoped r'.toContext
  keeping : r.Keeping
  keeping' : r'.Keeping
  answers : ∀ c immediately s t, s.Similar t →
    Matching (r.resolve c immediately) (r'.resolve c immediately) s t Exists

namespace Resolver.Alike

/-- Alike resolvers have one schema set. -/
theorem schema (h : r.Alike r') : r'.schema = r.schema := h.context.schema

/-- Alike resolvers name by the same strategy. -/
theorem naming (h : r.Alike r') : r'.naming = r.naming := h.context.naming

/-! ## Questions -/

/-- Components are bound alike. -/
theorem bindToType (h : r.Alike r') (hst : s.Similar t) (c : ComponentId) :
    Matching (r.bindToType c) (r'.bindToType c) s t Exists := h.answers c false s t hst

/-- The types of elements and attributes are bound alike. -/
theorem bindSchemaType (h : r.Alike r') (hst : s.Similar t) (type : ComponentId) :
    Matching (r.bindSchemaType type) (r'.bindSchemaType type) s t Exists := by
  unfold Resolver.bindSchemaType
  rw [h.schema]
  cases (r.schema.component type).kind with
  | simpleType => exact .pure hst fun leaf hleaf => by cases hleaf; trivial
  | complexType => exact h.bindToType hst type
  | _ => exact .pure hst (by simp [Exists])

/-- Elements are asked about alike. -/
theorem isBound (h : r.Alike r') (hst : s.Similar t) (e : ComponentId) :
    Matching (r.isBound e) (r'.isBound e) s t Exists := by
  refine .reading ?_
  rw [hst.elements]
  cases hlookup : s.elements.lookup e with
  | none => exact h.bindToType hst e
  | some type =>
    obtain ⟨before, rest, hsplit, -⟩ := List.lookup_eq_some_iff.1 hlookup
    exact .pure hst (hst.noted (e, type) (by simp [hsplit]))

/-! ## Allocation -/

/-- A class is placed in the innermost scope, or in the package of its namespace. -/
theorem allocateClass (h : r.Alike r') (hst : s.Similar t) (named : ComponentId) :
    Matching (r.allocateClass named) (r'.allocateClass named) s t
      fun k m => m.HasType (.classRef k) := by
  unfold Resolver.allocateClass
  dsimp only
  rw [h.schema, h.naming]
  generalize (r.schema.component named).custom.className.getD _ = name
  rcases hst.current with ⟨hroot, hroot'⟩ | hscope
  · have hnew : Matching
        (r.packageFor (r.schema.component named).ns >>= fun p =>
          Resolving.allocate fun m => m.newClass name (.package p))
        (r'.packageFor (r.schema.component named).ns >>= fun p =>
          Resolving.allocate fun m => m.newClass name (.package p)) s t
        fun k m => m.HasType (.classRef k) :=
      (h.context.matching_packageFor hst _).bind fun p u v _ huv _ =>
        .newClass huv name (.package u.model p)
    refine hnew.congr ?_ ?_
    · rw [runFrom_bind, runFrom_placement_root r _ hroot, Resolving.runFrom_map, runFrom_bind]
      rcases (r.packageFor _).runFrom s with ⟨_ | p, u⟩ <;> rfl
    · rw [runFrom_bind, runFrom_placement_root r' _ hroot', Resolving.runFrom_map, runFrom_bind]
      rcases (r'.packageFor _).runFrom t with ⟨_ | p, u⟩ <;> rfl
  · refine (Matching.newClass hst name hscope).congr ?_ ?_
    · rw [runFrom_bind, runFrom_placement r _ hscope.ne_root.1]
    · rw [runFrom_bind, runFrom_placement r' _ hscope.ne_root.2]

/-- Wrappers are filled alike. -/
theorem fillWrapper (h : r.Alike r') (hst : s.Similar t) (element : ComponentId) (w : ElementId) :
    Matching (r.fillWrapper element w) (r'.fillWrapper element w) s t anyAnswer := by
  unfold Resolver.fillWrapper
  rw [h.schema]
  cases r.schema.elementType? element with
  | none => exact .pure hst trivial
  | some type =>
    exact (h.bindSchemaType hst type).bind fun content u v _ huv _ => .modifyElement huv w _

/-- A wrapper is placed **directly in a package**, in both runs alike. -/
theorem allocateWrapper (h : r.Alike r') (hst : s.Similar t) (element : ComponentId)
    {p : PackageId} (hpackage : s.scopes.current = .package p) :
    Matching (r.allocateWrapper element) (r'.allocateWrapper element) s t anyAnswer := by
  have hpackage' : t.scopes.current = .package p := by
    rcases hst.current with ⟨hroot, -⟩ | ⟨q, hq, hflat⟩
    · rw [hroot] at hpackage
      cases hpackage
    · rw [hpackage] at hq
      cases hq
      exact hflat
  have hnoted : Matching
      (r.noteWrapper element (.package p) >>= fun w => r.fillWrapper element w >>= fun _ => pure w)
      (r'.noteWrapper element (.package p) >>= fun w =>
        r'.fillWrapper element w >>= fun _ => pure w) s t anyAnswer :=
    (Matching.noteWrapper hst h.schema element _).bind fun w u v _ huv _ =>
      (h.fillWrapper huv element w).bind fun _ u' v' _ huv' _ => .pure huv' trivial
  rw [allocateWrapper_eq, allocateWrapper_eq]
  refine hnoted.congr ?_ ?_
  · rw [runFrom_bind, runFrom_placement r _ (by simp [hpackage]), hpackage]
  · rw [runFrom_bind, runFrom_placement r' _ (by simp [hpackage']), hpackage']

/-! ## Proposals -/

/-- Global elements are proposed alike, inside the package. -/
theorem proposeGlobalElement (h : r.Alike r') (hst : s.Similar t) (element : ComponentId)
    {p : PackageId} (hpackage : s.scopes.current = .package p) :
    Matching (r.proposeGlobalElement element) (r'.proposeGlobalElement element) s t
      fun type m => m.HasType type := by
  unfold Resolver.proposeGlobalElement
  rw [h.schema]
  split
  · exact (h.allocateClass hst element).map fun _ _ hk => hk
  · exact (h.allocateWrapper hst element hpackage).map fun _ _ _ => trivial

/-- Complex types are proposed alike: a scope that is nested in the one model leads to the package
in the other. -/
theorem proposeComplexType (h : r.Alike r') (hst : s.Similar t) (id : ComponentId)
    (type : ComplexType) :
    Matching (r.proposeComplexType id type) (r'.proposeComplexType id type) s t
      fun k m => m.HasType (.classRef k) := by
  unfold Resolver.proposeComplexType
  rw [h.schema]
  split
  · refine (h.isBound hst _).bind fun bound u v _ huv hbound => ?_
    split
    · exact .pure huv (hbound _ rfl)
    · exact h.allocateClass huv _
  · exact h.allocateClass hst id

/-- A class is made abstract in both models, or in neither. -/
theorem settleClass (hst : s.Similar t) (type : ComplexType) {k : ClassId}
    (hk : s.model.HasType (.classRef k)) :
    Matching (Resolver.settleClass type k) (Resolver.settleClass type k) s t Exists := by
  have hanswer {m : Model} (hm : m.HasType (.classRef k)) : Exists (some (.classRef k)) m := by
    rintro _ ⟨⟩
    exact hm
  unfold Resolver.settleClass
  split
  · have hlocal : ClassInfo.Local fun c => { c with isAbstract := true } := fun _ _ => rfl
    refine (Matching.modifyClass hst k hlocal).bind fun _ u v hrun huv _ => .pure huv (hanswer ?_)
    cases hrun
    exact hk.keep (.modifyClass s.model k hlocal)
  · exact .pure hst (hanswer hk)

/-- A **proposal** is matched when an element is proposed in a package. -/
theorem proposeStandard (h : r.Alike r') (hst : s.Similar t) (c : ComponentId)
    (hplaced : (r.schema.component c).isGlobalDeclaration = true →
      ∃ p, s.scopes.current = .package p) :
    Matching (r.proposeStandard c) (r'.proposeStandard c) s t Exists := by
  cases hkind : (r.schema.component c).kind with
  | element decl =>
    rw [proposeStandard_element r hkind, proposeStandard_element r' (h.schema ▸ hkind), h.schema]
    have hnone {u : State} : Exists none u.model := by simp [Exists]
    split
    · exact .pure hst hnone
    · split
      · rename_i hglobal
        obtain ⟨p, hp⟩ := hplaced (by
          have helement := Component.isElement_iff.2 ⟨decl, hkind⟩
          simp [Component.isGlobalDeclaration, hglobal, Component.isGroup_of_isElement helement])
        refine (h.proposeGlobalElement hst c hp).map fun type m hm => ?_
        rintro _ ⟨⟩
        exact hm
      · exact (Matching.markUnbound hst c).bind fun _ u v _ huv _ => .pure huv hnone
  | complexType type =>
    rw [proposeStandard_complexType r hkind, proposeStandard_complexType r' (h.schema ▸ hkind)]
    exact (h.proposeComplexType hst c type).bind fun k u v _ huv hk => settleClass huv type hk
  | _ =>
    have helement : (r.schema.component c).isElement = false := by
      simp [Component.isElement, Component.asElement, hkind]
    have hcomplex : (r.schema.component c).isComplexType = false := by
      simp [Component.isComplexType, Component.asComplexType, hkind]
    rw [proposeStandard_other r helement hcomplex,
      proposeStandard_other r' (h.schema ▸ helement) (h.schema ▸ hcomplex)]
    exact .pure hst (by simp [Exists])

end Resolver.Alike

end SchemaBinding
