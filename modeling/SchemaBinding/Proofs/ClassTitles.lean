import SchemaBinding.Proofs.Manifest.Outcome

/-! # Titles of the classes for manifests
The class for a component has the name that the component customizes, or else the one derived from
its own name. The class for the anonymous type of a local element is titled by the element instead:
a class name that the type customizes is not used. A class is abstract when its own component is an
abstract type. So an abstract type whose content goes into the class of its element has no abstract
class. -/

namespace SchemaBinding

open Resolver (State)

variable {x : Context} {declared : List ComponentId} {s : State}

namespace Resolver.State

/-! ## Names -/

/-- The classes of a state are **named** after their components, or after the elements that declare
these. -/
structure NamesClasses (x : Context) (s : State) : Prop where
  plain : ∀ d k, s.registry.target? d = some (.classRef k) →
    (x.schema.component d).declaringElement? = none →
      (s.model.classInfo k).name = x.nameAfter d
  /-- An anonymous type with its own class is that of a local element, which names the class. -/
  anonymous : ∀ d e k, s.registry.target? d = some (.classRef k) →
    (x.schema.component d).declaringElement? = some e →
      (x.schema.component e).isGlobal = false ∧ (s.model.classInfo k).name = x.nameAfter e
  /-- A customized name is **honoured**, unless the component is an anonymous type whose element has
  another name. -/
  honoured : ∀ d k name, s.registry.target? d = some (.classRef k) →
    (x.schema.component d).custom.className = some name →
      ((s.model.classInfo k).name = name ↔
        ∀ e, (x.schema.component d).declaringElement? = some e → x.nameAfter e = name)

/-- In a final state classes are named so, if what elements declare has no name. -/
theorem Final.namesClasses (h : s.Final x declared)
    (hnameless : ∀ d e, (x.schema.component d).declaringElement? = some e →
      (x.schema.component d).name = none) : s.NamesClasses x := by
  -- a component that no element declares is its own namesake
  have hplain (d : ComponentId) (k : ClassId) (hd : s.registry.target? d = some (.classRef k))
      (hnone : (x.schema.component d).declaringElement? = none) :
      (s.model.classInfo k).name = x.nameAfter d := by
    rw [h.name_of_classRef hd, SchemaSet.namesake]
    split
    · rename_i hcomplex
      cases hasked : x.schema.asked? d with
      | none => rfl
      | some e =>
        rw [(SchemaSet.declaringElement?_of_asked? hcomplex hasked).2] at hnone
        cases hnone
    · rfl
  -- a component that an element declares takes the name of the element
  have hanonymous (d e : ComponentId) (k : ClassId)
      (hd : s.registry.target? d = some (.classRef k))
      (he : (x.schema.component d).declaringElement? = some e) :
      (x.schema.component e).isGlobal = false ∧ (s.model.classInfo k).name = x.nameAfter e := by
    obtain ⟨scope, -, hposition⟩ := (h.placed.seated d _ hd (h.placed.ne_anyType hd rfl)).position
    refine ⟨hposition.isGlobal_of_declaringElement? h.loaded he, ?_⟩
    obtain ⟨type, htype, hdeclaring⟩ := Option.bind_eq_some_iff.1 he
    have hkind := Component.asComplexType_eq_some.1 htype
    have hasked : x.schema.asked? d = some e := by
      simp [SchemaSet.asked?, hkind, hnameless d e he, hdeclaring]
    rw [h.name_of_classRef hd, SchemaSet.namesake,
      if_pos (Component.isComplexType_iff.2 ⟨type, hkind⟩), hasked]
    rfl
  refine ⟨hplain, hanonymous, fun d k name hd hname => ?_⟩
  cases hdeclares : (x.schema.component d).declaringElement? with
  | none =>
    rw [hplain d k hd hdeclares, Context.nameAfter, hname]
    simp
  | some e =>
    rw [(hanonymous d e k hd hdeclares).2]
    simp

/-! ## Abstractness -/

/-- The classes of a state are **abstract** when their own components are abstract types. -/
structure MarksClasses (x : Context) (s : State) : Prop where
  own : ∀ id type k, (x.schema.component id).asComplexType = some type →
    s.registry.target? id = some (.classRef k) →
      ((s.model.classInfo k).isAbstract = true ↔ type.isAbstract = true)
  element : ∀ e k, (x.schema.component e).isElement = true →
    s.registry.target? e = some (.classRef k) → (s.model.classInfo k).isAbstract = false
  /-- A class with the content of a complex type is abstract when the type is, unless it is the
  class of the element that declares the type. -/
  built : ∀ id type k, (x.schema.component id).asComplexType = some type → s.BuiltFrom x id k →
    ((s.model.classInfo k).isAbstract = true ↔
      type.isAbstract = true ∧ s.registry.target? id = some (.classRef k))

/-- In a final state classes are abstract so. -/
theorem Final.marksClasses (h : s.Final x declared) : s.MarksClasses x := by
  have hown (id : ComponentId) (type : ComplexType) (k : ClassId)
      (htype : (x.schema.component id).asComplexType = some type)
      (hid : s.registry.target? id = some (.classRef k)) :
      (s.model.classInfo k).isAbstract = true ↔ type.isAbstract = true := by
    rw [h.isAbstract_of_classRef hid, SchemaSet.isAbstractType, htype]
    rfl
  have helement (e : ComponentId) (k : ClassId)
      (he : (x.schema.component e).isElement = true)
      (hbound : s.registry.target? e = some (.classRef k)) :
      (s.model.classInfo k).isAbstract = false := by
    obtain ⟨decl, hkind⟩ := Component.isElement_iff.1 he
    rw [h.isAbstract_of_classRef hbound, SchemaSet.isAbstractType, Component.asComplexType, hkind]
    rfl
  refine ⟨hown, helement, ?_⟩
  rintro id type k htype ⟨d, rfl | ⟨-, hcarried, -⟩, hd, -⟩
  · rw [hown d type k htype hd]
    simp [hd]
  · -- the class belongs to the element, so that the type has none
    have he : (x.schema.component d).isElement = true := by
      obtain ⟨decl, hdecl, -⟩ := Option.map_eq_some_iff.1 hcarried
      exact Component.isElement_iff.2 ⟨decl, Component.asElement_eq_some.1 hdecl⟩
    have hne : s.registry.target? id ≠ some (.classRef k) := by
      intro hid
      obtain rfl := h.eq_of_classRef hid hd
      have hcomplex := Component.isComplexType_of_isElement he
      rw [Component.isComplexType, htype] at hcomplex
      cases hcomplex
    simp [helement d k he hd, hne]

end Resolver.State

namespace Compilation

variable {c : Compilation} {text name : String} {o : Outcome}

/-- **How the classes for a manifest are named.** -/
theorem compileManifest_namesClasses (hstandard : c.strategy = .standard)
    (hcompile : c.compileManifest text name = .ok o) :
    ∃ s, ({ c with schema := o.schema } : Compilation).run = (.ok (), s) ∧ s.model = o.model ∧
      s.NamesClasses ({ c with schema := o.schema } : Compilation).context := by
  obtain ⟨⟨m, hdescribes⟩, s, hrun, hmodel, -, hfinal⟩ :=
    exists_final_of_compileManifest hstandard hcompile
  exact ⟨s, hrun, hmodel,
    hfinal.namesClasses fun _ _ hdeclares => hdescribes.name_of_declaringElement? hdeclares⟩

/-- A manifest of a type, in which an element declares its own type. Both types customize the names
of their classes. -/
def itemText : String :=
  "schema=[\x7bnamespace=\"urn:x\",complex_type=[\x7bname=\"T\",class=\"Page\"," ++
    "element=[\x7bname=\"item\",complex_type=\x7bclass=\"Foo\"\x7d\x7d]\x7d]\x7d]"

set_option maxRecDepth 100000 in
/-- The class for the type has the customized name. -/
theorem compileManifest_namesClasses_itemText :
    ∃ o, compileManifest {} itemText "a.toml" = .ok o ∧ (o.model.classInfo ⟨0⟩).name = "Page" ∧
      ∃ s, ({ schema := o.schema } : Compilation).run = (.ok (), s) ∧ s.model = o.model ∧
        s.NamesClasses ({ schema := o.schema } : Compilation).context := by
  have haccepted : (compileManifest {} itemText "a.toml").toOption.any (fun o =>
      (o.model.classInfo ⟨0⟩).name = "Page") = true := by
    decide +kernel
  obtain ⟨o, hcompile, hname⟩ := exists_of_toOption_any haccepted
  exact ⟨o, hcompile, of_decide_eq_true hname, compileManifest_namesClasses (c := {}) rfl hcompile⟩

set_option maxRecDepth 100000 in
/-- The class for the type of the element **has not**. -/
theorem exists_className_lost :
    ∃ o s d k className, compileManifest {} itemText "a.toml" = .ok o ∧
      ({ schema := o.schema } : Compilation).run = (.ok (), s) ∧ s.model = o.model ∧
        s.registry.target? d = some (.classRef k) ∧
          (o.schema.component d).custom.className = some className ∧
            (s.model.classInfo k).name ≠ className := by
  have hlost : (compileManifest {} itemText "a.toml").toOption.any (fun o =>
      let s := ({ schema := o.schema } : Compilation).run.2
      s.registry.target? ⟨24⟩ = some (.classRef ⟨1⟩) ∧
        (o.schema.component ⟨24⟩).custom.className = some "Foo" ∧
          (s.model.classInfo ⟨1⟩).name ≠ "Foo") = true := by
    decide +kernel
  obtain ⟨o, hcompile, hfound⟩ := exists_of_toOption_any hlost
  obtain ⟨hbound, hcustom, hname⟩ := of_decide_eq_true hfound
  obtain ⟨-, s, hrun, hmodel, -⟩ := exists_final_of_compileManifest (c := {}) rfl hcompile
  have hrun : ({ schema := o.schema } : Compilation).run = (.ok (), s) := hrun
  rw [hrun] at hbound hname
  exact ⟨o, s, ⟨24⟩, ⟨1⟩, "Foo", hcompile, hrun, hmodel, hbound, hcustom, hname⟩

/-- **Which classes for a manifest are abstract.** -/
theorem compileManifest_marksClasses (hstandard : c.strategy = .standard)
    (hcompile : c.compileManifest text name = .ok o) :
    ∃ s, ({ c with schema := o.schema } : Compilation).run = (.ok (), s) ∧ s.model = o.model ∧
      s.MarksClasses ({ c with schema := o.schema } : Compilation).context := by
  obtain ⟨-, s, hrun, hmodel, -, hfinal⟩ := exists_final_of_compileManifest hstandard hcompile
  exact ⟨s, hrun, hmodel, hfinal.marksClasses⟩

/-- A manifest of a type and of an element that declares its own type. Both types are abstract. -/
def shapeText : String :=
  "schema=[\x7bnamespace=\"urn:x\",complex_type=[\x7bname=\"Base\",abstract=true\x7d]," ++
    "element=[\x7bname=\"shape\",complex_type=\x7babstract=true\x7d\x7d]\x7d]"

set_option maxRecDepth 100000 in
/-- The class for the type is abstract. -/
theorem compileManifest_marksClasses_shapeText :
    ∃ o, compileManifest {} shapeText "a.toml" = .ok o ∧ (o.model.classInfo ⟨0⟩).isAbstract = true ∧
      ∃ s, ({ schema := o.schema } : Compilation).run = (.ok (), s) ∧ s.model = o.model ∧
        s.MarksClasses ({ schema := o.schema } : Compilation).context := by
  have haccepted : (compileManifest {} shapeText "a.toml").toOption.any (fun o =>
      (o.model.classInfo ⟨0⟩).isAbstract) = true := by
    decide +kernel
  obtain ⟨o, hcompile, habstract⟩ := exists_of_toOption_any haccepted
  exact ⟨o, hcompile, habstract, compileManifest_marksClasses (c := {}) rfl hcompile⟩

set_option maxRecDepth 100000 in
/-- The class for the element, with the content of the type that it declares, **is not**. -/
theorem exists_abstractness_lost :
    ∃ o s id type k, compileManifest {} shapeText "a.toml" = .ok o ∧
      ({ schema := o.schema } : Compilation).run = (.ok (), s) ∧ s.model = o.model ∧
        (o.schema.component id).asComplexType = some type ∧
          s.BuiltFrom ({ schema := o.schema } : Compilation).context id k ∧
            type.isAbstract = true ∧ (s.model.classInfo k).isAbstract = false := by
  have hlost : (compileManifest {} shapeText "a.toml").toOption.any (fun o =>
      let s := ({ schema := o.schema } : Compilation).run.2
      ((o.schema.component ⟨23⟩).isGlobal = true ∧ o.schema.elementType? ⟨23⟩ = some ⟨24⟩ ∧
        (o.schema.component ⟨24⟩).declaringElement? = some ⟨23⟩) ∧
        (o.schema.component ⟨24⟩).asComplexType.any (fun type => type.isAbstract) = true ∧
          s.registry.target? ⟨23⟩ = some (.classRef ⟨1⟩) ∧
            s.ledger.marks ⟨1⟩ = [.done ⟨23⟩ ⟨1⟩, .begun ⟨23⟩ ⟨1⟩] ∧
              (s.model.classInfo ⟨1⟩).isAbstract = false) = true := by
    decide +kernel
  obtain ⟨o, hcompile, hfound⟩ := exists_of_toOption_any hlost
  obtain ⟨hcarries, habstract, hbound, hmarks, hconcrete⟩ := of_decide_eq_true hfound
  obtain ⟨type, htype, habstract⟩ := (Option.any_eq_true _ _).1 habstract
  obtain ⟨-, s, hrun, hmodel, -⟩ := exists_final_of_compileManifest (c := {}) rfl hcompile
  have hrun : ({ schema := o.schema } : Compilation).run = (.ok (), s) := hrun
  rw [hrun] at hbound hmarks hconcrete
  exact ⟨o, s, ⟨24⟩, type, ⟨1⟩, hcompile, hrun, hmodel, htype,
    ⟨⟨23⟩, .inr hcarries, hbound, hmarks⟩, habstract, hconcrete⟩

end Compilation

end SchemaBinding
