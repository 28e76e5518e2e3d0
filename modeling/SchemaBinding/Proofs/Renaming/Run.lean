import SchemaBinding.Proofs.Final
import SchemaBinding.Proofs.Renaming.Context

/-! # Runs over renamed sets
Two runs may meet the same components in different orders, and number what they generate
differently. When both come to their end, their components are bound to types that correspond, and
one model is a renaming of the other. -/

namespace SchemaBinding

open Resolver (State)

variable {φ : Equiv.Perm ComponentId} {x x' : Context} {declared declared' : List ComponentId}
  {s s' : State} {c d : ComponentId} {k k' : ClassId} {w w' : ElementId} {p p' : PackageId}
  {ns : String} {target : TypeRef} {scope : Scope}

namespace Resolver.State

/-- Final states **correspond** when they are about the same declarations, at other positions. -/
structure Corresponds (φ : Equiv.Perm ComponentId) (x x' : Context)
    (declared declared' : List ComponentId) (s s' : State) : Prop where
  renamed : x.Renamed φ x'
  left : s.Final x declared
  right : s'.Final x' declared'
  declarations : ∀ c, φ c ∈ declared' ↔ c ∈ declared

namespace Corresponds

/-- Corresponding states may change places. -/
theorem symm (h : Corresponds φ x x' declared declared' s s') :
    Corresponds φ.symm x' x declared' declared s' s where
  renamed := h.renamed.symm
  declarations c := by rw [← h.declarations, φ.apply_symm_apply]
  left := h.right
  right := h.left

/-- The same components are needed. -/
theorem needed (h : Corresponds φ x x' declared declared' s s') (hc : x.Needed declared c) :
    x'.Needed declared' (φ c) :=
  h.renamed.needed (fun d hd => (h.declarations d).2 hd) hc

/-! ## Partners -/

/-- Classes are **partners** when the same component is bound to them. -/
def ClassPartner (φ : Equiv.Perm ComponentId) (s s' : State) (k k' : ClassId) : Prop :=
  ∃ c, s.registry.target? c = some (.classRef k) ∧ s'.registry.target? (φ c) = some (.classRef k')

/-- Wrappers are **partners** when the same element is bound to them. -/
def WrapperPartner (φ : Equiv.Perm ComponentId) (s s' : State) (w w' : ElementId) : Prop :=
  ∃ c, s.registry.target? c = some (.wrapper w) ∧ s'.registry.target? (φ c) = some (.wrapper w')

/-- Packages are **partners** when they have the same name. -/
def PackagePartner (s s' : State) (p p' : PackageId) : Prop :=
  ∃ name, s.model.packages[p.index]? = some name ∧ s'.model.packages[p'.index]? = some name

/-- Partners among classes may change places. -/
theorem ClassPartner.symm (h : ClassPartner φ s s' k k') : ClassPartner φ.symm s' s k' k := by
  obtain ⟨c, hc, hc'⟩ := h
  exact ⟨φ c, hc', by rwa [φ.symm_apply_apply]⟩

/-- Partners among wrappers may change places. -/
theorem WrapperPartner.symm (h : WrapperPartner φ s s' w w') :
    WrapperPartner φ.symm s' s w' w := by
  obtain ⟨c, hc, hc'⟩ := h
  exact ⟨φ c, hc', by rwa [φ.symm_apply_apply]⟩

/-- Partners among packages may change places. -/
theorem PackagePartner.symm (h : PackagePartner s s' p p') : PackagePartner s' s p' p := by
  obtain ⟨name, hp, hp'⟩ := h
  exact ⟨name, hp', hp⟩

/-- A component with a class has one in either state. -/
theorem exists_classRef (h : Corresponds φ x x' declared declared' s s')
    (hc : s.registry.target? c = some (.classRef k)) :
    ∃ k', s'.registry.target? (φ c) = some (.classRef k') := by
  have hproper := h.left.placed.ne_anyType hc rfl
  have hseat := h.left.placed.seated c _ hc hproper
  have hplain : x.schema.isWrapped c = false := hseat.suits
  exact h.right.exists_classRef (h.needed hseat.needed)
    ((h.renamed.schema.isBindable c).trans hseat.bindable)
    ((h.renamed.schema.isWrapped c).trans hplain)
    fun hany => hproper (h.renamed.schema.eq_anyType_iff.1 hany)

/-- An element with a wrapper has one in either state. -/
theorem exists_wrapper (h : Corresponds φ x x' declared declared' s s')
    (hc : s.registry.target? c = some (.wrapper w)) :
    ∃ w', s'.registry.target? (φ c) = some (.wrapper w') := by
  have hseat := h.left.placed.seated c _ hc (h.left.placed.ne_anyType hc rfl)
  have hwrapped : x.schema.isWrapped c = true := hseat.suits
  exact h.right.exists_wrapper (h.needed hseat.needed)
    ((h.renamed.schema.isWrapped c).trans hwrapped)

/-- A component without a binding has none in either state. -/
theorem unbound (h : Corresponds φ x x' declared declared' s s')
    (hc : s.registry.target? c = none) : s'.registry.target? (φ c) = none := by
  by_contra hbound
  obtain ⟨target, hc'⟩ := Option.ne_none_iff_exists'.1 hbound
  have hproper : c ≠ SchemaSet.anyType := by
    rintro rfl
    rw [h.left.placed.anyType] at hc
    cases hc
  have hseat := h.right.placed.seated _ _ hc' fun hany =>
    hproper (h.renamed.schema.eq_anyType_iff.1 hany)
  -- it is needed in either state
  have hneeded := h.symm.needed hseat.needed
  rw [φ.symm_apply_apply] at hneeded
  obtain ⟨other, hother, -⟩ := h.left.exists_suits hneeded
    ((h.renamed.schema.isBindable c).symm.trans hseat.bindable) hproper
  rw [hc] at hother
  cases hother

/-- The package of a namespace that was asked for has a partner. -/
theorem exists_package (h : Corresponds φ x x' declared declared' s s')
    (hp : (ns, p) ∈ s.packages) :
    ∃ p', (ns, p') ∈ s'.packages ∧ s'.model.packages[p'.index]? = some (x.packageName ns) := by
  obtain ⟨c, hneeded, hproper, hglobal, rfl⟩ := h.left.placed.packaged.asked ns p hp
  have hcomponent := h.renamed.schema.component c
  obtain ⟨p', hp'⟩ := h.right.known_of_needed (h.needed hneeded)
    (by rw [hcomponent, Component.isGlobalDeclaration_rename, hglobal])
    fun hany => hproper (h.renamed.schema.eq_anyType_iff.1 hany)
  rw [hcomponent, Component.ns_rename] at hp'
  refine ⟨p', hp', ?_⟩
  rw [h.right.placed.packaged.named _ p' hp', h.renamed.packageName]

/-- Each package has a partner. -/
theorem exists_packagePartner (h : Corresponds φ x x' declared declared' s s')
    (hp : p.index < s.model.packages.size) : ∃ p', PackagePartner s s' p p' := by
  have hname := Array.getElem?_eq_getElem hp
  obtain ⟨ns, q, hq, hns⟩ := h.left.placed.packaged.known _ (Array.getElem_mem hp)
  obtain ⟨p', -, hp'⟩ := h.exists_package hq
  exact ⟨p', _, hname, hns ▸ hp'⟩

/-- A class has one partner. -/
theorem ClassPartner.unique (hs : s.Final x declared) {j : ClassId}
    (h : ClassPartner φ s s' k k') (h' : ClassPartner φ s s' k j) : k' = j := by
  obtain ⟨c, hc, hc'⟩ := h
  obtain ⟨d, hd, hd'⟩ := h'
  obtain rfl := hs.eq_of_classRef hc hd
  simpa using hc'.symm.trans hd'

/-- A wrapper has one partner. -/
theorem WrapperPartner.unique (hs : s.Final x declared) {v : ElementId}
    (h : WrapperPartner φ s s' w w') (h' : WrapperPartner φ s s' w v) : w' = v := by
  obtain ⟨c, hc, hc'⟩ := h
  obtain ⟨d, hd, hd'⟩ := h'
  obtain rfl := hs.eq_of_wrapper hc hd
  simpa using hc'.symm.trans hd'

/-- A package has one partner. -/
theorem PackagePartner.unique (hs' : s'.Final x' declared') {q : PackageId}
    (h : PackagePartner s s' p p') (h' : PackagePartner s s' p q) : p' = q := by
  obtain ⟨name, hp, hp'⟩ := h
  obtain ⟨other, hq, hq'⟩ := h'
  obtain rfl : name = other := Option.some.inj (hp.symm.trans hq)
  exact hs'.eq_of_package hp' hq'

/-- Every class has exactly one partner: the one that the same components are bound to. -/
theorem pairing_classes (h : Corresponds φ x x' declared declared' s s') :
    Pairing ClassId.position s.model.classes.size s'.model.classes.size
      (ClassPartner φ s s') where
  within k k' := by
    rintro ⟨c, hc, hc'⟩
    exact ⟨h.left.index_lt_of_classRef hc, h.right.index_lt_of_classRef hc'⟩
  left k hk := by
    obtain ⟨c, hc⟩ := (h.left.finished.reachable.housed k).1 hk
    exact (h.exists_classRef hc).imp fun _ hc' => ⟨c, hc, hc'⟩
  right k' hk' := by
    obtain ⟨c, hc⟩ := (h.right.finished.reachable.housed k').1 hk'
    obtain ⟨k, hk⟩ := h.symm.exists_classRef hc
    exact ⟨k, ClassPartner.symm (φ := φ.symm) ⟨c, hc, hk⟩⟩
  unique _ _ _ hk hk' := hk.unique h.left hk'
  unique' _ _ _ hk hk' := hk.symm.unique h.right hk'.symm

/-- Every wrapper has exactly one partner: the one for the same element. -/
theorem pairing_wrappers (h : Corresponds φ x x' declared declared' s s') :
    Pairing ElementId.position s.model.elements.size s'.model.elements.size
      (WrapperPartner φ s s') where
  within w w' := by
    rintro ⟨c, hc, hc'⟩
    exact ⟨h.left.index_lt_of_wrapper hc, h.right.index_lt_of_wrapper hc'⟩
  left w hw := by
    obtain ⟨c, hc⟩ := h.left.finished.exists_wrapper hw
    have hc := (hc c).2 rfl
    exact (h.exists_wrapper hc).imp fun _ hc' => ⟨c, hc, hc'⟩
  right w' hw' := by
    obtain ⟨c, hc⟩ := h.right.finished.exists_wrapper hw'
    have hc := (hc c).2 rfl
    obtain ⟨w, hw⟩ := h.symm.exists_wrapper hc
    exact ⟨w, WrapperPartner.symm (φ := φ.symm) ⟨c, hc, hw⟩⟩
  unique _ _ _ hw hw' := hw.unique h.left hw'
  unique' _ _ _ hw hw' := hw.symm.unique h.right hw'.symm

/-- Every package has exactly one partner: the one with the same name. -/
theorem pairing_packages (h : Corresponds φ x x' declared declared' s s') :
    Pairing PackageId.position s.model.packages.size s'.model.packages.size
      (PackagePartner s s') where
  within p p' := by
    rintro ⟨name, hp, hp'⟩
    exact ⟨(Array.getElem?_eq_some_iff.1 hp).1, (Array.getElem?_eq_some_iff.1 hp').1⟩
  left p hp := h.exists_packagePartner hp
  right p' hp' := (h.symm.exists_packagePartner hp').imp fun _ => PackagePartner.symm
  unique _ _ _ hp hp' := hp.unique h.right hp'
  unique' _ _ _ hp hp' := hp.symm.unique h.left hp'.symm

/-! ## The renaming -/

/-- A renaming **pairs** states when it takes classes, wrappers and packages to their partners. -/
structure Pairs (φ : Equiv.Perm ComponentId) (σ : ModelRenaming) (s s' : State) : Prop where
  registry : s.registry.Renamed φ σ s'.registry
  classes : s.model.classes.size = s'.model.classes.size
  elements : s.model.elements.size = s'.model.elements.size
  packages : s.model.packages.size = s'.model.packages.size
  class_beyond : ∀ k : ClassId, s.model.classes.size ≤ k.index → σ.classes k = k
  element_beyond : ∀ w : ElementId, s.model.elements.size ≤ w.index → σ.elements w = w
  package_beyond : ∀ p : PackageId, s.model.packages.size ≤ p.index → σ.packages p = p
  package : ∀ p : PackageId, p.index < s.model.packages.size →
    PackagePartner s s' p (σ.packages p)

/-- What is bound to a type is bound to the type that it is taken to. -/
theorem Pairs.target?_rename {σ : ModelRenaming} (hσ : Pairs φ σ s s')
    (hc : s.registry.target? c = some target) :
    s'.registry.target? (φ c) = some (target.rename σ) := by
  rw [hσ.registry, hc]
  rfl

/-- Some renaming takes everything in a state to its partner. -/
theorem exists_pairs (h : Corresponds φ x x' declared declared' s s') :
    ∃ σ, Pairs φ σ s s' := by
  obtain ⟨κ, hκ, hκbeyond⟩ := h.pairing_classes.exists_perm
  obtain ⟨ω, hω, hωbeyond⟩ := h.pairing_wrappers.exists_perm
  obtain ⟨π, hπ, hπbeyond⟩ := h.pairing_packages.exists_perm
  refine ⟨⟨π, κ, ω⟩, fun c => ?_, h.pairing_classes.size_eq, h.pairing_wrappers.size_eq,
    h.pairing_packages.size_eq, hκbeyond, hωbeyond, hπbeyond, hπ⟩
  cases hc : s.registry.target? c with
  | some target =>
    cases target with
    | classRef k =>
      obtain ⟨k', hc'⟩ := h.exists_classRef hc
      have hpartner := hκ k (h.pairing_classes.within k k' ⟨c, hc, hc'⟩).1
      obtain rfl := ClassPartner.unique h.left ⟨c, hc, hc'⟩ hpartner
      exact hc'
    | wrapper w =>
      obtain ⟨w', hc'⟩ := h.exists_wrapper hc
      have hpartner := hω w (h.pairing_wrappers.within w w' ⟨c, hc, hc'⟩).1
      obtain rfl := WrapperPartner.unique h.left ⟨c, hc, hc'⟩ hpartner
      exact hc'
    | leaf l =>
      obtain ⟨rfl, rfl⟩ := h.left.eq_anyType_of_leaf hc
      rw [h.renamed.schema.anyType, h.right.placed.anyType]
      rfl
  | none => exact h.unbound hc

/-! ## Renamed classes and wrappers -/

section Pairs

variable {σ : ModelRenaming}

/-- The package of a namespace is taken to the package of the namespace. -/
theorem Pairs.packages_eq (hσ : Pairs φ σ s s') (h : Corresponds φ x x' declared declared' s s')
    (hp : (ns, p) ∈ s.packages) (hp' : (ns, p') ∈ s'.packages) : σ.packages p = p' := by
  have hname := h.left.placed.packaged.named ns p hp
  have hname' := h.right.placed.packaged.named ns p' hp'
  rw [h.renamed.packageName] at hname'
  obtain ⟨name, hsame, hpartner⟩ := hσ.package p (Array.getElem?_eq_some_iff.1 hname).1
  obtain rfl : x.packageName ns = name := Option.some.inj (hname.symm.trans hsame)
  exact h.right.eq_of_package hpartner hname'

/-- Types are in the **same scopes**, at other positions. What is enclosed follows the class that
encloses it, which belongs to a component before its own. -/
theorem scope?_rename (h : Corresponds φ x x' declared declared' s s') (hσ : Pairs φ σ s s')
    (hc : s.registry.target? c = some target) (hgenerated : target.isPrebuilt = false)
    (hscope : s.model.scope? target = some scope) :
    s'.model.scope? (target.rename σ) = some (scope.rename σ) := by
  -- by induction on positions: an enclosing component stands before the enclosed one
  induction hn : c.index using Nat.strong_induction_on generalizing c target scope with
  | _ n ih =>
    have hproper := h.left.placed.ne_anyType hc hgenerated
    have hcomponent := h.renamed.schema.component c
    have hc' := hσ.target?_rename hc
    obtain ⟨_, hsame, hposition⟩ := (h.left.placed.seated c target hc hproper).position
    obtain rfl := Option.some.inj (hscope.symm.trans hsame)
    obtain ⟨scope', hscope', hposition'⟩ := (h.right.placed.seated _ _ hc' fun hany =>
      hproper (h.renamed.schema.eq_anyType_iff.1 hany)).position
    rw [hscope']
    cases hposition with
    | declared global package =>
      cases hposition' with
      | declared global' package' =>
        rw [hcomponent, Component.ns_rename] at package'
        rw [Scope.rename, hσ.packages_eq h package package']
      | enclosed encloses' =>
        obtain ⟨-, -, -, -, anonymous'⟩ := encloses'
        rw [hcomponent, Component.isGlobal_rename, global] at anonymous'
        cases anonymous'
    | @enclosed d k outer encloses bound houter =>
      cases hposition' with
      | declared global' =>
        obtain ⟨-, -, -, -, anonymous⟩ := encloses
        rw [hcomponent, Component.isGlobal_rename, anonymous] at global'
        cases global'
      | @enclosed d' k' outer' encloses' bound' houter' =>
        have hd : s'.registry.target? (φ d) = some (.classRef (σ.classes k)) :=
          hσ.target?_rename bound
        obtain rfl :=
          h.right.eq_of_encloses (h.renamed.schema.encloses encloses) encloses' hd bound'
        obtain rfl : σ.classes k = k' := by simpa using hd.symm.trans bound'
        have hless : d.index < n := hn ▸ h.left.loaded.index_lt_of_encloses encloses
        have hsame := ih d.index hless bound rfl houter rfl
        obtain rfl := Option.some.inj (houter'.symm.trans hsame)
        unfold Context.inside
        rw [h.renamed.config]
        cases x.config.localScoping <;> rfl

/-- The scope of a class that a component is bound to is renamed. -/
theorem scope_classInfo (h : Corresponds φ x x' declared declared' s s') (hσ : Pairs φ σ s s')
    (hc : s.registry.target? c = some (.classRef k))
    (hc' : s'.registry.target? (φ c) = some (.classRef (σ.classes k))) :
    (s'.model.classInfo (σ.classes k)).scope = (s.model.classInfo k).scope.rename σ := by
  have hscope := Model.scope?_classRef (h.left.index_lt_of_classRef hc)
  have hscope' := Model.scope?_classRef (h.right.index_lt_of_classRef hc')
  exact Option.some.inj (hscope'.symm.trans (h.scope?_rename hσ hc rfl hscope))

/-- The scope of a wrapper that an element is bound to is renamed. -/
theorem scope_elementInfo (h : Corresponds φ x x' declared declared' s s') (hσ : Pairs φ σ s s')
    (hc : s.registry.target? c = some (.wrapper w))
    (hc' : s'.registry.target? (φ c) = some (.wrapper (σ.elements w))) :
    (s'.model.elementInfo (σ.elements w)).scope = (s.model.elementInfo w).scope.rename σ := by
  have hscope := Model.scope?_wrapper (h.left.index_lt_of_wrapper hc)
  have hscope' := Model.scope?_wrapper (h.right.index_lt_of_wrapper hc')
  exact Option.some.inj (hscope'.symm.trans (h.scope?_rename hσ hc rfl hscope))

/-- A class is **renamed** with everything that it says. -/
theorem classInfo_rename (h : Corresponds φ x x' declared declared' s s') (hσ : Pairs φ σ s s')
    (hc : s.registry.target? c = some (.classRef k)) :
    s'.model.classInfo (σ.classes k) = (s.model.classInfo k).rename σ := by
  have hc' : s'.registry.target? (φ c) = some (.classRef (σ.classes k)) := hσ.target?_rename hc
  have hname : (s'.model.classInfo (σ.classes k)).name = (s.model.classInfo k).name := by
    rw [h.right.name_of_classRef hc', h.left.name_of_classRef hc, h.renamed.schema.namesake,
      h.renamed.nameAfter]
  have habstract : (s'.model.classInfo (σ.classes k)).isAbstract =
      (s.model.classInfo k).isAbstract := by
    rw [h.right.isAbstract_of_classRef hc', h.left.isAbstract_of_classRef hc,
      h.renamed.schema.isAbstractType]
  obtain ⟨hconstructors, hdoc⟩ := h.renamed.preparedFor h.left.loaded h.right.loaded
    (h.left.preparedFor_of_classRef hc) (h.right.preparedFor_of_classRef hc')
  have hcomplete := h.left.complete hc
  have hcomplete' := h.right.complete hc'
  have hbase : (s'.model.classInfo (σ.classes k)).base =
      (s.model.classInfo k).base.map σ.classes :=
    hcomplete'.base.trans ((h.renamed.base? hσ.registry c).trans
      (congrArg (Option.map σ.classes) hcomplete.base.symm))
  have hproperties : (s'.model.classInfo (σ.classes k)).properties =
      (s.model.classInfo k).properties.map (Property.rename σ) := by
    refine Option.some.inj (hcomplete'.properties.symm.trans
      ((h.renamed.bodyProperties? hσ.registry c).trans ?_))
    exact congrArg (Option.map (List.map (Property.rename σ))) hcomplete.properties
  exact ClassInfo.eq_rename hname (h.scope_classInfo hσ hc hc') habstract hbase hconstructors hdoc
    hproperties

/-- A wrapper is **renamed** with everything that it says. -/
theorem elementInfo_rename (h : Corresponds φ x x' declared declared' s s') (hσ : Pairs φ σ s s')
    (hc : s.registry.target? c = some (.wrapper w)) :
    s'.model.elementInfo (σ.elements w) = (s.model.elementInfo w).rename σ := by
  have hc' : s'.registry.target? (φ c) = some (.wrapper (σ.elements w)) := hσ.target?_rename hc
  obtain ⟨hname, hns⟩ := h.left.name_of_wrapper hc
  obtain ⟨hname', hns'⟩ := h.right.name_of_wrapper hc'
  rw [h.renamed.schema.component, Component.nameOrEmpty_rename] at hname'
  rw [h.renamed.schema.component, Component.ns_rename] at hns'
  have hcontent : (s'.model.elementInfo (σ.elements w)).content =
      (s.model.elementInfo w).content.map (TypeRef.rename σ) := by
    have hfilled := (h.left.finished.reachable.filled c w hc).1
    have hfilled' := (h.right.finished.reachable.filled (φ c) (σ.elements w) hc').1
    rw [h.renamed.schema.contentSource] at hfilled'
    exact hfilled'.trans ((Context.Renamed.type_rename hσ.registry
      (x.schema.fixed_contentSource c)).trans (congrArg (Option.map (TypeRef.rename σ))
        hfilled.symm))
  exact ElementInfo.eq_rename (hname'.trans hname.symm) (hns'.trans hns.symm)
    (h.scope_elementInfo hσ hc hc') hcontent

end Pairs

/-- One model is a **renaming** of the other. -/
theorem exists_renamed (h : Corresponds φ x x' declared declared' s s') :
    ∃ σ, s.model.Renamed σ s'.model := by
  -- what is in range has a component on both sides, and all else is left where it is
  obtain ⟨σ, hσ⟩ := h.exists_pairs
  refine ⟨σ, fun p => ?packages, fun k => ?classes, fun w => ?elements⟩
  case packages =>
    by_cases hp : p.index < s.model.packages.size
    · obtain ⟨name, hname, hname'⟩ := hσ.package p hp
      rw [hname, hname']
    · have hp := Nat.not_lt.1 hp
      rw [hσ.package_beyond p hp, Array.getElem?_eq_none hp,
        Array.getElem?_eq_none (hσ.packages ▸ hp)]
  case classes =>
    by_cases hk : k.index < s.model.classes.size
    · obtain ⟨c, hc⟩ := (h.left.finished.reachable.housed k).1 hk
      have hc' : s'.registry.target? (φ c) = some (.classRef (σ.classes k)) :=
        hσ.target?_rename hc
      rw [Model.getElem?_classes hk, Model.getElem?_classes (h.right.index_lt_of_classRef hc'),
        h.classInfo_rename hσ hc]
      rfl
    · have hk := Nat.not_lt.1 hk
      rw [hσ.class_beyond k hk, Array.getElem?_eq_none hk,
        Array.getElem?_eq_none (hσ.classes ▸ hk)]
      rfl
  case elements =>
    by_cases hw : w.index < s.model.elements.size
    · obtain ⟨e, he⟩ := h.left.finished.exists_wrapper hw
      have he : s.registry.target? e = some (.wrapper w) := (he e).2 rfl
      have he' : s'.registry.target? (φ e) = some (.wrapper (σ.elements w)) :=
        hσ.target?_rename he
      rw [Model.getElem?_elements hw, Model.getElem?_elements (h.right.index_lt_of_wrapper he'),
        h.elementInfo_rename hσ he]
      rfl
    · have hw := Nat.not_lt.1 hw
      rw [hσ.element_beyond w hw, Array.getElem?_eq_none hw,
        Array.getElem?_eq_none (hσ.elements ▸ hw)]
      rfl

end Corresponds

end Resolver.State

end SchemaBinding
