import SchemaBinding.Proofs.Acknowledging.Run
import SchemaBinding.Proofs.Manifest.Outcome

/-! # Unused customizations of manifests
The property customization of an element in a manifest is used when the element has a class of its
own, and when a class is built from a content in which the element occurs. About every other one
there is a warning, in the order of the components. -/

namespace SchemaBinding

open Resolver (State)

variable {allowed : String → Prop} {x : Context} {declared : List ComponentId} {s : State}
  {c d e id : ComponentId} {k : ClassId}

/-! ## Contents of bodies -/

namespace SchemaSet

variable {set : SchemaSet}

/-- What carries the content of a complex type has it in its **body**. -/
theorem bodyKind_of_carries {type : ComplexType} (h : set.Carries d id)
    (htype : (set.component id).asComplexType = some type) : set.bodyKind d = .content id type := by
  have hkind := Component.asComplexType_eq_some.1 htype
  rcases h with rfl | ⟨-, hcarried, hdeclared⟩
  · simp [bodyKind, Resolver.bodyType?, hkind]
  · obtain ⟨decl, hdecl, -⟩ := Option.map_eq_some_iff.1 hcarried
    have helement := Component.asElement_eq_some.1 hdecl
    have hanonymous := (isAnonymousTypeOf_iff (Component.isComplexType_iff.2 ⟨type, hkind⟩)).2
      hdeclared
    simp [bodyKind, Resolver.bodyType?, helement, hcarried, hkind, hanonymous]

/-- In a loaded set a body names an element when its content **contains** the element. -/
theorem Loaded.mem_named_iff (h : set.Loaded allowed)
    (helement : (set.component e).isElement = true) :
    e ∈ set.named c ↔
      ∃ id type, set.bodyKind c = .content id type ∧ (set.component id).Contains e := by
  rw [SchemaSet.mem_named_iff helement]
  refine exists_congr fun id => exists_congr fun type => and_congr_right fun hbody => ?_
  -- a content without groups is the list of its own occurrences
  have htype := asComplexType_of_content hbody
  rw [h.occurrences?_eq htype]
  constructor
  · rintro ⟨_, ⟨⟩, p, hp, rfl⟩
    exact ⟨type, p, htype, hp, rfl⟩
  · rintro ⟨type', p, htype', hp, rfl⟩
    obtain rfl := Option.some.inj (htype.symm.trans htype')
    exact ⟨_, rfl, p, hp, rfl⟩

end SchemaSet

/-! ## Elements that are served -/

namespace Resolver.State

/-- An element is **served** by a class of its own, or by a class that was built from a content in
which it occurs. -/
inductive Served (x : Context) (s : State) (e : ComponentId) : Prop
  | bound {k : ClassId} (bound : s.registry.target? e = some (.classRef k))
  | occurring {id : ComponentId} {k : ClassId} (built : s.BuiltFrom x id k)
      (contained : (x.schema.component id).Contains e)

/-- In a final state the finished bodies serve exactly the elements that are **served**. -/
theorem Final.exists_serves_iff (h : s.Final x declared)
    (helement : (x.schema.component e).isElement = true) :
    (∃ mark ∈ s.ledger.log, mark.Serves x.schema e) ↔ s.Served x e := by
  constructor
  · rintro ⟨_ | ⟨c, k⟩, hmark, hserves⟩
    · exact hserves.elim
    · obtain ⟨-, hbound, -, hmarks⟩ := h.finished.reachable.building.of_done hmark
      rcases hserves with rfl | hnamed
      · exact .bound hbound
      · obtain ⟨id, type, hbody, hcontains⟩ := (h.loaded.mem_named_iff helement).1 hnamed
        exact .occurring ⟨c, h.placed.carries hbound hbody, hbound, hmarks⟩ hcontains
  · rintro (hbound | ⟨⟨d, hcarries, hbound, -⟩, hcontains⟩)
    · exact ⟨_, h.done hbound, .inl rfl⟩
    · have ⟨type, _, htype, _⟩ := hcontains
      exact ⟨_, h.done hbound, .inr ((h.loaded.mem_named_iff helement).2
        ⟨_, type, SchemaSet.bodyKind_of_carries hcarries htype, hcontains⟩)⟩

/-- What is not bindable has **no class** of its own. -/
theorem Final.ne_classRef (h : s.Final x declared) (he : x.schema.isBindable e = false)
    (k : ClassId) : s.registry.target? e ≠ some (.classRef k) := by
  intro hbound
  rw [(h.placed.seated e _ hbound (h.placed.ne_anyType hbound rfl)).bindable] at he
  cases he

/-- What a state leaves **unused**: exactly the customized elements that are not served, with a
warning for each of them. -/
structure LeavesUnused (x : Context) (s : State) (unused : List ComponentId) : Prop where
  /-- They stand in the order of the components, each of them once. -/
  ordered : unused.Sublist x.schema.ids
  warned : s.reports.withKey Finding.unusedCustomizationKey =
    unused.map fun e => (x.schema.unusedFinding e).diagnostic s.reports.sources
  exact : ∀ e, e ∈ unused ↔ (x.schema.component e).isElement = true ∧
    x.schema.customizesProperty e = true ∧ ¬ s.Served x e
  /-- An abstract element, or one with a wrapper, is used by contents only. -/
  classless : ∀ e decl, (x.schema.component e).asElement = some decl →
    x.schema.customizesProperty e = true →
      (decl.isAbstract = true ∨ ∃ w, s.registry.target? e = some (.wrapper w)) →
        (e ∈ unused ↔ ∀ id k, s.BuiltFrom x id k → ¬ (x.schema.component id).Contains e)
  /-- A local element is used when a class is built from the content that it belongs to. -/
  inner : ∀ id e, (x.schema.component id).Contains e → (x.schema.component e).isGlobal = false →
    x.schema.customizesProperty e = true → (e ∈ unused ↔ ∀ k, ¬ s.BuiltFrom x id k)

/-- A final state leaves unused what no finished body serves, if only elements are customized. -/
theorem Final.leavesUnused (h : s.Final x declared)
    (helements : ∀ e, x.schema.customizesProperty e = true →
      (x.schema.component e).isElement = true) {unused : List ComponentId}
    (ordered : unused.Sublist x.schema.ids)
    (warned : s.reports.withKey Finding.unusedCustomizationKey =
      unused.map fun e => (x.schema.unusedFinding e).diagnostic s.reports.sources)
    (hunused : ∀ e, e ∈ unused ↔ x.schema.customizesProperty e = true ∧
      ∀ mark ∈ s.ledger.log, ¬ mark.Serves x.schema e) : s.LeavesUnused x unused := by
  -- a component to which no class is bound is served by the bodies that it occurs in alone
  have hserved (e : ComponentId) (he : x.schema.customizesProperty e = true) :
      e ∈ unused ↔ ¬ s.Served x e := by
    rw [hunused, ← h.exists_serves_iff (helements e he)]
    simp [he]
  have hclassless (e : ComponentId) (he : x.schema.customizesProperty e = true)
      (hclass : ∀ k, s.registry.target? e ≠ some (.classRef k)) :
      e ∈ unused ↔ ∀ id k, s.BuiltFrom x id k → ¬ (x.schema.component id).Contains e := by
    rw [hserved e he]
    constructor
    · exact fun hnot id k hbuilt hcontains => hnot (.occurring hbuilt hcontains)
    · rintro hnone (hbound | ⟨hbuilt, hcontains⟩)
      · exact hclass _ hbound
      · exact hnone _ _ hbuilt hcontains
  refine ⟨ordered, warned, ?exact, ?classless, ?inner⟩
  case exact =>
    refine fun e => ⟨fun he => ?_, fun ⟨_, he, hnot⟩ => (hserved e he).2 hnot⟩
    have hcustom := ((hunused e).1 he).1
    exact ⟨helements e hcustom, hcustom, (hserved e hcustom).1 he⟩
  case classless =>
    rintro e decl helement he (habstract | ⟨w, hw⟩)
    · refine hclassless e he (h.ne_classRef ?_)
      simp [SchemaSet.isBindable, Component.asElement_eq_some.1 helement, habstract]
    · exact hclassless e he fun k => by simp [hw]
  case inner =>
    intro id e hcontains hlocal he
    have hunbindable := SchemaSet.isBindable_of_local (helements e he) hlocal
    rw [hclassless e he (h.ne_classRef hunbindable)]
    constructor
    · exact fun hnone k hbuilt => hnone id k hbuilt hcontains
    · -- a local element belongs to one content
      intro hnone id' k hbuilt hcontains'
      obtain rfl := h.loaded.owned e id id' hlocal hcontains hcontains'
      exact hnone k hbuilt

end Resolver.State

namespace Compilation

variable {c : Compilation}

/-- **Which property customizations of a manifest are unused.** -/
theorem compileManifest_leavesUnused {text name : String} {o : Outcome}
    (hstandard : c.strategy = .standard) (hcompile : c.compileManifest text name = .ok o) :
    ∃ s unused, ({ c with schema := o.schema } : Compilation).run = (.ok (), s) ∧
      s.model = o.model ∧ s.reports = o.reports ∧
        s.LeavesUnused ({ c with schema := o.schema } : Compilation).context unused := by
  obtain ⟨⟨m, hdescribes⟩, s, hrun, hmodel, hreports, hfinal⟩ :=
    exists_final_of_compileManifest hstandard hcompile
  obtain ⟨unused, hordered, hwarned, hunused⟩ :=
    unused_of_run (c := { c with schema := o.schema }) hstandard hrun
  exact ⟨s, unused, hrun, hmodel, hreports,
    hfinal.leavesUnused (fun e => hdescribes.isElement_of_customizesProperty) hordered hwarned
      hunused⟩

/-- A manifest of an element that is referred to, one that is abstract and one that declares its
type, in which another element is local. -/
def customizedText : String :=
  "schema=[\x7bnamespace=\"a\",element=[\x7bname=\"x\",property=\"p\"\x7d," ++
    "\x7bname=\"y\",abstract=true,property=\"q\"\x7d,\x7bname=\"z\",complex_type=" ++
    "\x7belement=[\x7bref=\"x\"\x7d,\x7bname=\"v\",property=\"r\"\x7d]\x7d\x7d]\x7d]"

set_option maxRecDepth 100000 in
/-- One of its three customizations is left unused. -/
theorem compileManifest_leavesUnused_customizedText :
    ∃ o, compileManifest {} customizedText "a.toml" = .ok o ∧
      (o.reports.withKey Finding.unusedCustomizationKey).length = 1 ∧
      ∃ s unused, ({ schema := o.schema } : Compilation).run = (.ok (), s) ∧
        s.model = o.model ∧ s.reports = o.reports ∧
          s.LeavesUnused ({ schema := o.schema } : Compilation).context unused := by
  have haccepted : (compileManifest {} customizedText "a.toml").toOption.any (fun o =>
      (o.reports.withKey Finding.unusedCustomizationKey).length = 1) = true := by
    decide +kernel
  obtain ⟨o, hcompile, hwarnings⟩ := exists_of_toOption_any haccepted
  exact ⟨o, hcompile, of_decide_eq_true hwarnings,
    compileManifest_leavesUnused (c := {}) rfl hcompile⟩

end Compilation

end SchemaBinding
