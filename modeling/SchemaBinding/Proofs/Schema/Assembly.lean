import SchemaBinding.Proofs.Schema.Manifest

/-! # Manifests are built
Loading a manifest changes a schema set by calls of building steps only. So what is known of every
built set is known of every set that a manifest describes (`SchemaSet.built_of_ofManifest`). -/

namespace SchemaBinding

variable {α β : Type} {set : SchemaSet}

namespace Loading

/-- A step of loading **assembles** when it leaves a built set if it is given one, whether or not it
succeeds. -/
def Assembles (step : Loading α) : Prop :=
  ∀ set : SchemaSet, set.Built → (step.run.run set).2.Built

namespace Assembles

variable {step : Loading α} {next : α → Loading β}

/-- To return builds nothing. -/
theorem pure (a : α) : Assembles (Pure.pure a : Loading α) := fun _ h => h

/-- To fail builds nothing. -/
theorem throw (e : ManifestError) : Assembles (MonadExcept.throw e : Loading α) := fun _ h => h

/-- Steps in a row assemble if each does. -/
theorem bind (h : Assembles step) (hnext : ∀ a, Assembles (next a)) :
    Assembles (step >>= next) := by
  intro set hset
  have hstep := h set hset
  rw [SchemaSet.run_bind]
  rcases hrun : step.run.run set with ⟨_ | a, u⟩
  · rw [hrun] at hstep
    exact hstep
  · rw [hrun] at hstep
    exact hnext a u hstep

/-- Rewriting the answer of a step builds nothing. -/
theorem map (h : Assembles step) (f : α → β) : Assembles (f <$> step) := by
  rw [map_eq_pure_bind]
  exact h.bind fun _ => .pure _

/-- A step that first looks at the set. -/
theorem reading {next : SchemaSet → Loading β} (h : ∀ set, Assembles (next set)) :
    Assembles (MonadState.get >>= next) := fun set hset => h set set hset

/-- Calls of building steps assemble. -/
theorem building {step : Builder α} (h : Builder.Call step) : Assembles (Loading.building step) :=
  fun _ hset => hset.call h

/-- What is done with a value that may be missing assembles. -/
theorem whenSome {value : Option α} {step : α → Loading Unit} (h : ∀ a, Assembles (step a)) :
    Assembles (Loading.whenSome value step) := by
  cases value with
  | none => exact .pure _
  | some a => exact h a

/-- A step that is taken under a condition, and what follows it in either case. -/
theorem optional {condition : Prop} [Decidable condition] {step : Loading Unit}
    {next : Unit → Loading β} (h : Assembles step) (hnext : Assembles (next ())) :
    Assembles (if condition then step >>= next else next ()) := by
  split
  · exact h.bind fun _ => hnext
  · exact hnext

/-- A loop over assembling steps assembles. -/
theorem forM {items : List α} {step : α → Loading PUnit} (h : ∀ a, Assembles (step a)) :
    Assembles (items.forM step) := by
  induction items with
  | nil => exact .pure _
  | cons a rest ih =>
    show Assembles (step a >>= fun _ => rest.forM step)
    exact (h a).bind fun _ => ih

/-- So does one that collects their answers. -/
theorem mapM {items : List α} {step : α → Loading β} (h : ∀ a, Assembles (step a)) :
    Assembles (items.mapM step) := by
  induction items with
  | nil =>
    rw [List.mapM_nil]
    exact .pure _
  | cons a rest ih =>
    rw [List.mapM_cons]
    exact (h a).bind fun _ => ih.bind fun _ => .pure _

end Assembles

/-! ## References and customizations -/

/-- Looking up a type builds nothing. -/
theorem assembles_resolveType (ns name : String) : Assembles (resolveType ns name) := by
  refine .reading fun set => ?_
  split
  · exact .pure _
  · exact .throw _

/-- Looking up an element builds nothing. -/
theorem assembles_resolveElement (ns name : String) : Assembles (resolveElement ns name) := by
  refine .reading fun set => ?_
  split
  · exact .pure _
  · exact .throw _

/-- Locating a component is one building step. -/
theorem assembles_locate (id : ComponentId) (document : String) (line : Option Nat) :
    Assembles (locate id document line) := .whenSome fun _ => .building (.setLocator _ _)

/-- Filling what a complex type says apart from its elements assembles. -/
theorem assembles_fillHead (ns : String) (head : TypeHead) (id : ComponentId) :
    Assembles (fillHead ns head id) := by
  refine (Assembles.whenSome fun base => ?_).bind fun _ =>
    .optional (.building (.setAbstract id)) ?_
  · exact (assembles_resolveType ns base).bind fun _ => .building (.derive _ _ _)
  · refine (Assembles.whenSome fun doc => .building (.documentation id doc)).bind fun _ => ?_
    exact .whenSome fun name => .building (.className id name)

/-- Customizing an element assembles. -/
theorem assembles_customizeElement (head : ElementHead) (id : ComponentId) :
    Assembles (customizeElement head id) := by
  refine .optional (.building (.setAbstract id)) ?_
  refine (Assembles.whenSome fun doc => .building (.documentation id doc)).bind fun _ => ?_
  refine (Assembles.whenSome fun name => .building (.className id name)).bind fun _ => ?_
  exact .whenSome fun name => .building (.property id (some name))

/-- Filling attributes assembles. -/
theorem assembles_fillAttributes (ns document : String) (id : ComponentId)
    (entries : List AttributeEntry) : Assembles (fillAttributes ns document id entries) := by
  induction entries with
  | nil => exact .pure _
  | cons entry rest ih =>
    have hrest (type : Option ComponentId) : Assembles (do
        let declared ← building (.localAttribute id entry.name type)
        locate declared document entry.line
        fillAttributes ns document id rest) :=
      (Assembles.building (.localAttribute id entry.name type)).bind fun declared =>
        (assembles_locate declared document _).bind fun _ => ih
    unfold fillAttributes
    cases entry.type with
    | none => exact (Assembles.pure none).bind hrest
    | some type => exact ((assembles_resolveType ns type).map some).bind hrest

/-! ## Elements and types -/

mutual

/-- Filling an element assembles, with all that is inside of it. -/
theorem assembles_fillElement (ns document : String) :
    ∀ (entry : ElementEntry) (id : ComponentId), Assembles (fillElement ns document entry id)
  | .plain head, id => by
    unfold fillElement
    refine (Assembles.whenSome fun type => ?_).bind fun _ => assembles_customizeElement head id
    exact (assembles_resolveType ns type).bind fun _ => .building (.setElementType _ _)
  | .typed head type elements, id => by
    unfold fillElement
    refine (Assembles.building (.anonymousComplexType id)).bind fun a => ?_
    refine (assembles_locate a document _).bind fun _ => (assembles_fillHead ns type a).bind
      fun _ => (assembles_fillElements ns document a elements).bind fun _ => ?_
    exact (assembles_fillAttributes ns document a _).bind fun _ =>
      assembles_customizeElement head id

/-- Filling the elements of a content assembles. -/
theorem assembles_fillElements (ns document : String) (owner : ComponentId) :
    ∀ entries : List ElementEntry, Assembles (fillElements ns document owner entries)
  | [] => .pure _
  | entry :: rest => by
    unfold fillElements
    -- after an occurrence it may be repeated, and the next ones follow
    have hrest (term : ComponentId) : Assembles (do
        if entry.head.repeated then building (.setRepeated owner term)
        fillElements ns document owner rest) :=
      .optional (.building (.setRepeated owner term))
        (assembles_fillElements ns document owner rest)
    dsimp only
    cases entry.head.reference with
    | some reference =>
      refine (Assembles.whenSome fun key => .throw _).bind fun _ => ?_
      refine (assembles_resolveElement ns reference).bind fun target => ?_
      exact (Assembles.building (.elementRef owner target)).bind fun _ =>
        (Assembles.pure target).bind hrest
    | none =>
      cases entry.head.name with
      | none => exact (Assembles.throw _).bind hrest
      | some name =>
        refine (Assembles.building (.localElement owner name none)).bind fun id => ?_
        refine (assembles_locate id document _).bind fun _ => ?_
        exact (assembles_fillElement ns document entry id).bind fun _ =>
          (Assembles.pure id).bind hrest

end

/-! ## Manifests -/

/-- Declaring what a schema declares assembles. -/
theorem assembles_declare (sourceName : String) (schema : SchemaEntry) :
    Assembles (declare sourceName schema) := by
  unfold declare
  dsimp only
  refine (Assembles.building (.schemaLocator _ _)).bind fun _ => ?_
  refine (Assembles.whenSome fun name => .building (.package _ name)).bind fun _ => ?_
  refine (Assembles.building (.builtin _)).bind fun placeholder => ?_
  refine (Assembles.mapM fun entry => ?simpleType).bind fun _ =>
    (Assembles.mapM fun entry => ?complexType).bind fun _ =>
      (Assembles.mapM fun entry => ?element).bind fun _ => .pure _
  case simpleType =>
    exact (Assembles.building (.globalSimpleType _ _ _)).bind fun id =>
      (assembles_locate id _ _).bind fun _ => .pure _
  case complexType =>
    exact (Assembles.building (.globalComplexType _ _)).bind fun id =>
      (assembles_locate id _ _).bind fun _ => .pure _
  case element =>
    exact (Assembles.building (.globalElement _ _ _)).bind fun id =>
      (assembles_locate id _ _).bind fun _ => .pure _

/-- Filling what a schema declares assembles. -/
theorem assembles_fill (sourceName : String) (schema : SchemaEntry) (globals : Globals) :
    Assembles (fill sourceName schema globals) := by
  unfold fill
  dsimp only
  refine (Assembles.forM fun entry => ?simpleType).bind fun _ =>
    (Assembles.forM fun entry => ?complexType).bind fun _ => .forM fun entry => ?element
  case simpleType =>
    exact (assembles_resolveType _ _).bind fun _ => .building (.setSimpleBase _ _)
  case complexType =>
    exact (assembles_fillHead _ _ _).bind fun _ => (assembles_fillElements _ _ _ _).bind
      fun _ => assembles_fillAttributes _ _ _ _
  case element => exact .optional (.throw _) (assembles_fillElement _ _ _ _)

/-- Loading a manifest assembles. -/
theorem assembles_manifest (sourceName : String) (m : Manifest) :
    Assembles (manifest sourceName m) :=
  (Assembles.mapM fun _ => assembles_declare _ _).bind fun _ =>
    .forM fun _ => assembles_fill _ _ _

end Loading

/-- **The schema set of a manifest is built.** -/
theorem Manifest.built_of_schemaSet {m : Manifest} {sourceName : String}
    (h : m.schemaSet sourceName = .ok set) : set.Built := by
  unfold Manifest.schemaSet at h
  have hbuilt := Loading.assembles_manifest sourceName m SchemaSet.initial .initial
  rcases hrun : (Loading.manifest sourceName m).run.run SchemaSet.initial with ⟨_ | _, set'⟩
  · rw [hrun] at h
    cases h
  · rw [hrun] at h hbuilt
    cases h
    exact hbuilt

/-- **What a text is loaded into is built.** -/
theorem SchemaSet.built_of_ofManifest {text sourceName : String}
    (h : ofManifest text sourceName = .ok set) : set.Built := by
  obtain ⟨m, -, hset⟩ := exists_schemaSet_of_ofManifest h
  exact Manifest.built_of_schemaSet hset

end SchemaBinding
