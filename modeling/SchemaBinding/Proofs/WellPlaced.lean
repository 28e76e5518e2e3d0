import Mathlib.Data.List.ReduceOption
import SchemaBinding.Proofs.Moves.Inheritance
import SchemaBinding.Proofs.Placement.Run
import SchemaBinding.Proofs.Schema.Manifest

/-! # Well-placed models
The types for the global declarations of a manifest lie directly in the packages of their
namespaces. The class for the anonymous type of a local element lies inside the class whose body was
built from the content that the element occurs in, or next to that class. Nothing lies at the
root. -/

namespace SchemaBinding

open Resolver (State)

variable {allowed : String → Prop} {x : Context} {declared : List ComponentId} {s : State}
  {a b c d id : ComponentId} {k : ClassId} {target : TypeRef}

/-- The name of a package is the **first** of the names that there are for it. -/
theorem Context.packageName_eq (x : Context) (ns : String) :
    x.packageName ns = [x.config.package, (x.schema.schema? ns).bind Schema.package,
      x.config.compatPackage, x.naming.packageName ns].reduceOption.headD
        x.config.fallbackPackage := by
  unfold packageName
  cases x.config.package with
  | some name => simp
  | none =>
    cases (x.schema.schema? ns).bind Schema.package with
    | some name => simp
    | none =>
      cases x.config.compatPackage with
      | some name => simp
      | none => cases x.naming.packageName ns <;> simp

namespace SchemaSet

/-- A component **carries** the content of a complex type: it is the type itself, or the global
element that declares it. -/
def Carries (set : SchemaSet) (d id : ComponentId) : Prop :=
  d = id ∨ (set.component d).isGlobal = true ∧ set.elementType? d = some id ∧
    (set.component id).declaringElement? = some d

/-- A body with the content of a complex type is that of the type, or of its element. -/
theorem eq_or_declares_of_content {set : SchemaSet} {type : ComplexType}
    (h : set.bodyKind d = .content id type) :
    d = id ∨ (set.component d).isElement = true ∧ set.elementType? d = some id ∧
      (set.component id).declaringElement? = some d := by
  have hcomplex : (set.component id).isComplexType = true :=
    Option.isSome_iff_exists.2 ⟨type, asComplexType_of_content h⟩
  unfold bodyKind at h
  cases hid : Resolver.bodyType? set d with
  | none => simp [hid] at h
  | some t =>
    simp only [hid] at h
    cases hkind : (set.component t).kind with
    | complexType type' =>
      simp only [hkind] at h
      split at h
      · cases h
      · rename_i hown
        obtain ⟨rfl, -⟩ : t = id ∧ type' = type := by simpa using h
        by_cases hself : d = t
        · exact .inl hself
        · have hanonymous : set.isAnonymousTypeOf t d = true := by
            simpa [Ne.symm hself] using hown
          have hdeclares := (isAnonymousTypeOf_iff hcomplex).1 hanonymous
          -- any other component with a body is an element
          unfold Resolver.bodyType? at hid
          split at hid
          · rename_i decl helement
            exact .inr ⟨Component.isElement_iff.2 ⟨decl, helement⟩, hid, hdeclares⟩
          · exact absurd (Option.some.inj hid) hself
          · cases hid
    | _ => simp [hkind] at h

end SchemaSet

namespace Resolver.State

/-- A class was **built from** the content of a complex type: its one body is that of the component
that carries the content. -/
def BuiltFrom (x : Context) (s : State) (id : ComponentId) (k : ClassId) : Prop :=
  ∃ d, x.schema.Carries d id ∧ s.registry.target? d = some (.classRef k) ∧
    s.ledger.marks k = [.done d k, .begun d k]

/-- A state is **well placed** when all types are where the schema has what they stand for. -/
structure WellPlaced (x : Context) (s : State) : Prop where
  /-- The type of a global declaration is directly in the package of its namespace, which has the
  first of several names. -/
  declared : ∀ d target, (x.schema.component d).isGlobal = true →
    s.registry.target? d = some target → target.isPrebuilt = false →
      ∃ p, s.model.scope? target = some (.package p) ∧
        s.model.packages[p.index]? = some ([x.config.package,
          (x.schema.schema? (x.schema.component d).ns).bind Schema.package,
          x.config.compatPackage,
          x.naming.packageName (x.schema.component d).ns].reduceOption.headD
            x.config.fallbackPackage)
  /-- The class of the anonymous type of a local element goes with the one class that was built from
  the content in which the element occurs. -/
  enclosed : ∀ id e c k, (x.schema.component id).Contains e →
    (x.schema.component e).isGlobal = false →
    (x.schema.component c).declaringElement? = some e →
    s.registry.target? c = some (.classRef k) →
      ∃ j, s.BuiltFrom x id j ∧ (∀ i, s.BuiltFrom x id i → i = j) ∧
        s.model.scope? (.classRef k) = match x.config.localScoping with
          | .nested => some (.nested j)
          | .toplevel => s.model.scope? (.classRef j)
  classes : ∀ k ∈ s.model.classIds, (s.model.classInfo k).scope ≠ .root
  wrappers : ∀ w ∈ s.model.elementIds, (s.model.elementInfo w).scope ≠ .root

namespace Placed

/-- Only the universal type is bound to a type that no run generates. -/
theorem ne_anyType (h : s.Placed x declared) (hc : s.registry.target? c = some target)
    (hgenerated : target.isPrebuilt = false) : c ≠ SchemaSet.anyType := by
  rintro rfl
  rw [h.anyType] at hc
  obtain rfl := Option.some.inj hc
  cases hgenerated

/-- In a loaded set **no class is shared**: the element of an anonymous type that is bound is local,
so it has no class that the type could take. -/
theorem apart (h : s.Placed x declared) (hset : x.schema.Loaded allowed)
    (hreachable : Reachable x s.ledger) (ha : s.registry.target? a = some (.classRef k))
    (hb : s.registry.target? b = some (.classRef k)) : a = b := by
  by_contra hne
  obtain ⟨d, e, hd, hcomplex, hasked, he⟩ := hreachable.shared a b k ha hb hne
  have hbound : s.registry.target? d = some (.classRef k) := by
    rcases hd with rfl | rfl
    · exact ha
    · exact hb
  obtain ⟨scope, -, hposition⟩ := (h.seated d _ hbound (h.ne_anyType hbound rfl)).position
  have hdeclares := (SchemaSet.declaringElement?_of_asked? hcomplex hasked).2
  have hlocal := hposition.isGlobal_of_declaringElement? hset hdeclares
  have helement := ((hset.fits d).declaring e hdeclares).2.1
  have hbindable := (h.seated e _ he (h.ne_anyType he rfl)).bindable
  rw [SchemaSet.isBindable_of_local helement hlocal] at hbindable
  cases hbindable

/-- One bound component at most carries a content. -/
theorem eq_of_carries (h : s.Placed x declared) (hset : x.schema.Loaded allowed)
    (ha : x.schema.Carries a id) (hb : x.schema.Carries b id) {i j : ClassId}
    (hai : s.registry.target? a = some (.classRef i))
    (hbj : s.registry.target? b = some (.classRef j)) : a = b := by
  -- a type that is bound itself is not declared by a global element
  have hlocal (d : ComponentId) (hglobal : (x.schema.component d).isGlobal = true)
      (hdeclares : (x.schema.component id).declaringElement? = some d) {l : ClassId}
      (hid : s.registry.target? id = some (.classRef l)) : False := by
    obtain ⟨scope, -, hposition⟩ := (h.seated id _ hid (h.ne_anyType hid rfl)).position
    rw [hposition.isGlobal_of_declaringElement? hset hdeclares] at hglobal
    cases hglobal
  rcases ha with rfl | ⟨haglobal, -, hadeclares⟩
  · rcases hb with rfl | ⟨hbglobal, -, hbdeclares⟩
    · rfl
    · exact (hlocal b hbglobal hbdeclares hai).elim
  · rcases hb with rfl | ⟨-, -, hbdeclares⟩
    · exact (hlocal a haglobal hadeclares hbj).elim
    · rw [hadeclares] at hbdeclares
      exact Option.some.inj hbdeclares

/-- A bound component with the content of a complex type in its body **carries** it. -/
theorem carries (h : s.Placed x declared) (hd : s.registry.target? d = some (.classRef k))
    {type : ComplexType} (hbody : x.schema.bodyKind d = .content id type) :
    x.schema.Carries d id := by
  refine (SchemaSet.eq_or_declares_of_content hbody).imp_right
    fun ⟨helement, htype, hdeclared⟩ => ⟨?_, htype, hdeclared⟩
  -- a local element is not bound
  by_contra hnot
  have hbindable := (h.seated d _ hd (h.ne_anyType hd rfl)).bindable
  rw [SchemaSet.isBindable_of_local helement (by simpa using hnot)] at hbindable
  cases hbindable

/-- A placed state with a finished ledger is **well placed**. -/
theorem wellPlaced (h : s.Placed x declared) (hset : x.schema.Loaded allowed)
    (hfinished : s.ledger.Finished x declared) : s.WellPlaced x := by
  refine ⟨?declared, ?enclosed, ?classes, ?wrappers⟩
  case declared =>
    intro d target hglobal hd hgenerated
    obtain ⟨scope, hscope, hposition⟩ :=
      (h.seated d target hd (h.ne_anyType hd hgenerated)).position
    cases hposition with
    | @declared p _ package =>
      refine ⟨p, hscope, ?_⟩
      rw [h.packaged.named _ p package, x.packageName_eq]
    | enclosed encloses =>
      obtain ⟨-, -, -, -, anonymous⟩ := encloses
      rw [hglobal] at anonymous
      cases anonymous
  case enclosed =>
    intro id e c k hcontains hlocal hdeclares hc
    obtain ⟨scope, hscope, hposition⟩ := (h.seated c _ hc (h.ne_anyType hc rfl)).position
    cases hposition with
    | declared global =>
      rw [(hset.fits c).anonymous e hdeclares] at global
      cases global
    | @enclosed d j outer encloses bound houter =>
      obtain ⟨body, contained, inner, declaring, -⟩ := encloses
      rename_i e' id' type
      obtain rfl : e = e' := Option.some.inj (hdeclares.symm.trans declaring)
      obtain rfl : id = id' := hset.owned e id id' hlocal hcontains contained
      -- the component whose class encloses the type carries the content
      have hcarries := h.carries bound body
      have hbuilt : s.BuiltFrom x id j := by
        have hmem := hfinished.mem_built (Model.index_lt_of_scope? houter)
        obtain ⟨d', hd', hmarks⟩ := hfinished.exists_marks hmem
        obtain rfl := h.apart hset hfinished.reachable bound hd'
        exact ⟨d, hcarries, bound, hmarks⟩
      refine ⟨j, hbuilt, ?_, ?_⟩
      · rintro i ⟨d', hcarries', hd', -⟩
        obtain rfl := h.eq_of_carries hset hcarries hcarries' bound hd'
        rw [bound] at hd'
        simpa using hd'.symm
      · rw [hscope]
        unfold Context.inside
        cases x.config.localScoping with
        | nested => rfl
        | toplevel => exact houter.symm
  case classes =>
    intro k hk
    exact h.inside _ _ (Model.scope?_classRef (Model.mem_classIds.1 hk))
  case wrappers =>
    intro w hw
    exact h.inside _ _ (Model.scope?_wrapper (Model.mem_elementIds.1 hw))

end Placed

end Resolver.State

namespace Compilation

variable {c : Compilation}

/-- A standard run over a loaded set that comes to its end is well placed. -/
theorem wellPlaced_of_run (hstandard : c.strategy = .standard) (hset : c.schema.Loaded allowed)
    (hrun : c.run = (.ok (), s)) : s.WellPlaced c.context :=
  (placed_of_run hstandard hset hrun).1.wellPlaced hset (finished_of_run hstandard hrun)

/-- **Where the types of a manifest are placed.** -/
theorem compileManifest_wellPlaced {text name : String} {o : Outcome}
    (hstandard : c.strategy = .standard) (hcompile : c.compileManifest text name = .ok o) :
    SchemaSet.ofManifest text name = .ok o.schema ∧
      ∃ s, ({ c with schema := o.schema } : Compilation).run = (.ok (), s) ∧ s.model = o.model ∧
        s.WellPlaced ({ c with schema := o.schema } : Compilation).context := by
  obtain ⟨hmanifest, s, hrun, houtcome⟩ := exists_run_of_compileManifest hcompile
  have hset := SchemaSet.loaded_of_ofManifest hmanifest
  refine ⟨hmanifest, s, hrun, ?_, ?_⟩
  · rw [houtcome]
  · exact wellPlaced_of_run (c := { c with schema := o.schema }) hstandard hset hrun

/-- A manifest of an element with an anonymous type in which another such element occurs. -/
def chapterText : String :=
  "[[schema]]\nnamespace = \"urn:x\"\n" ++
  "[[schema.element]]\nname = \"book\"\n" ++
  "[[schema.element.complex_type.element]]\nname = \"chapter\"\n" ++
  "[[schema.element.complex_type.element.complex_type.attribute]]\nname = \"title\"\n"

/-- The class for the book is in its package, and the one for its chapter inside of it. -/
theorem compileManifest_wellPlaced_chapterText :
    ∃ o, compileManifest {} chapterText "chapter.toml" = .ok o ∧
      o.model.scope? (.classRef ⟨0⟩) = some (.package ⟨0⟩) ∧
      o.model.scope? (.classRef ⟨1⟩) = some (.nested ⟨0⟩) ∧
      SchemaSet.ofManifest chapterText "chapter.toml" = .ok o.schema ∧
      ∃ s, ({ schema := o.schema } : Compilation).run = (.ok (), s) ∧ s.model = o.model ∧
        s.WellPlaced ({ schema := o.schema } : Compilation).context := by
  have haccepted : (compileManifest {} chapterText "chapter.toml").toOption.any (fun o =>
      o.model.scope? (.classRef ⟨0⟩) = some (.package ⟨0⟩) &&
        o.model.scope? (.classRef ⟨1⟩) = some (.nested ⟨0⟩)) = true := by
    decide +kernel
  cases hcompile : compileManifest {} chapterText "chapter.toml" with
  | error cause =>
    rw [hcompile] at haccepted
    cases haccepted
  | ok o =>
    rw [hcompile] at haccepted
    obtain ⟨houter, hinner⟩ := Bool.and_eq_true_iff.1 haccepted
    exact ⟨o, rfl, of_decide_eq_true houter, of_decide_eq_true hinner,
      compileManifest_wellPlaced (c := {}) rfl hcompile⟩

end Compilation

end SchemaBinding
