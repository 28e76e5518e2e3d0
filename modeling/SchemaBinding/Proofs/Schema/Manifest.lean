import SchemaBinding.Proofs.Schema.Loading

/-! # Loading manifests
The set that a manifest describes is loaded. The proof goes along the recursion of loading: elements
and their types are filled inside each other, and everything else is filled one after the other. -/

namespace SchemaBinding

variable {allowed : String → Prop} {set set' : SchemaSet} {ns document : String}

namespace Builder

variable {e owner : ComponentId}

/-! ## New components -/

/-- What was inserted last exists. -/
theorem index_lt_insert (set : SchemaSet) (c : Component) :
    (⟨set.size⟩ : ComponentId).index < (set.insert c).2.size := by
  rw [SchemaSet.size_insert]
  exact Nat.lt_succ_self _

/-- A component that says nothing about other ones may always be inserted. -/
theorem loads_insert_plain {c : Component} (hnamed : c.isGlobal = true → c.name.isSome = true)
    (hkind : c.asElement.bind ElementDecl.type = none) (hcomplex : c.asComplexType = none)
    (hattribute : c.asAttribute = none)
    (hsimple : ∀ b ∈ c.asSimpleType.bind SimpleType.base, (set.component b).isGlobal = true)
    (hgroup : c.asGroup = none) :
    Loads allowed (insert c) set fun id set' => id.index < set'.size := by
  refine (loads_insert (fun _ => .of_plain hnamed hkind hcomplex (by simp [hattribute])
    (fun b hb => (SchemaSet.Grows.insert set c).isGlobal (hsimple b hb)) hgroup)
    (not_contains hcomplex)).imp ?_
  rintro id set' - ⟨rfl, rfl⟩
  exact index_lt_insert set c

/-- Declaring a global element loads, and the element is there. -/
theorem loads_globalElement (ns name : String) :
    Loads allowed (globalElement ns name none) set fun id set' => id.index < set'.size :=
  loads_insert_plain (fun _ => rfl) rfl rfl rfl (by rintro b ⟨⟩) rfl

/-- Declaring a global simple type loads, and the type is there. -/
theorem loads_globalSimpleType (ns name : String) {base : ComponentId}
    (hbase : (set.component base).isGlobal = true) :
    Loads allowed (globalSimpleType ns name base) set fun id set' => id.index < set'.size := by
  refine loads_insert_plain (fun _ => rfl) rfl rfl rfl (fun b hb => ?_) rfl
  obtain rfl : base = b := by simpa [Component.asSimpleType] using hb
  exact hbase

/-- Global complex types belong to allowed namespaces. -/
theorem loads_globalComplexType (hns : allowed ns) (name : String) :
    Loads allowed (globalComplexType ns name) set fun _ _ => True := by
  refine (loads_insert (fun _ => ?_) ?_).imp fun _ _ _ _ => trivial
  · exact .of_empty rfl (fun _ => ⟨rfl, fun _ => hns⟩) (by simp) (by rintro ⟨⟩)
  · rintro e ⟨type, p, ⟨⟩, ⟨⟩, -⟩

/-- A local element stands behind its owner. -/
theorem loads_localElement (owner : ComponentId) (name : String) :
    Loads allowed (localElement owner name none) set fun id set' => id.index < set'.size := by
  refine (loads_namespaceOf owner).bind fun ns u _ _ hu => ?_
  subst hu
  intro hset
  refine Loads.bind (loads_insert (fun _ => .of_plain (by simp) rfl rfl (by rintro t ⟨⟩)
    (by rintro b ⟨⟩) rfl) (not_contains rfl)) ?_ hset
  rintro id v - - ⟨rfl, rfl⟩
  -- the owner was there before the element, unless it does not exist
  refine (loads_pushParticle fun howner => ?_).bind fun _ w _ hgrows _ => .pure ?_
  · rw [SchemaSet.component_insert] at howner
    split at howner
    · cases howner
    · refine ⟨index_lt_insert _ _, ?_, .inr ⟨?_, fun o ho => ?_⟩⟩
      · rw [SchemaSet.component_insert, if_pos rfl]
        rfl
      · refine Nat.lt_of_not_le fun hbehind => ?_
        rw [SchemaSet.component_of_size_le hbehind] at howner
        cases howner
      · -- what is contained was there before the new element
        rw [SchemaSet.component_insert] at ho
        split at ho
        · exact not_contains rfl _ ho
        · exact absurd (hset.index_lt_of_contains ho) (Nat.lt_irrefl _)
  · exact hgrows.index_lt (index_lt_insert _ _)

/-- The type of an attribute is a global one. -/
theorem loads_localAttribute (owner : ComponentId) (name : String) {type : Option ComponentId}
    (htype : ∀ t ∈ type, (set.component t).isGlobal = true) :
    Loads allowed (localAttribute owner name type) set fun _ _ => True := by
  refine (loads_namespaceOf owner).bind fun ns u _ _ hu => ?_
  subst hu
  refine (loads_insert (fun _ => .of_plain (by simp) rfl rfl (fun t ht => ?_) (by rintro b ⟨⟩) rfl)
    (not_contains rfl)).bind ?_
  · exact (SchemaSet.Grows.insert _ _).isGlobal (htype t ht)
  rintro id v - - ⟨rfl, rfl⟩
  refine (loads_changeKind fun hfits kind hok => ?_).bind fun _ _ _ _ _ => .pure trivial
  generalize hc : (SchemaSet.insert _ _).2.component owner = c at hfits hok ⊢
  cases hkind : c.kind with
  | complexType complex =>
    rw [hkind] at hok
    cases hok
    refine ⟨Component.stays_complexType hkind rfl, hfits.complexType hkind rfl
      (fun b hb => .inl hb) (fun p hp => .inl ⟨p, hp, rfl⟩) fun a ha => ?_,
      fun d hd => .inl (contains_of_content hkind hd fun p hp => ⟨p, hp, rfl⟩)⟩
    -- the attribute is one of those before, or the new one
    rcases List.mem_append.1 ha with ha | ha
    · exact .inl ha
    · obtain rfl := List.mem_singleton.1 ha
      rw [SchemaSet.component_insert, if_pos rfl]
      exact .inr rfl
  | _ =>
    rw [hkind] at hok
    cases hok

/-- Only elements are given a type. -/
theorem isElement_of_setElementType {t : ComponentId}
    (h : (setElementType e t).run.run set = (.ok (), set')) :
    (set.component e).isElement = true := by
  obtain ⟨c, u, hfound, h⟩ := SchemaSet.run_bind_ok h
  obtain ⟨-, rfl, rfl⟩ := of_run_component hfound
  cases hkind : (set.component e).kind with
  | element decl => exact Component.isElement_iff.2 ⟨decl, hkind⟩
  | _ =>
    rw [hkind] at h
    cases h

/-- The anonymous type of an element stands **behind** the element. -/
theorem loads_anonymousComplexType (he : e.index < set.size) :
    Loads allowed (anonymousComplexType e) set fun _ _ => True := by
  have hne : e ≠ ⟨set.size⟩ := by
    rintro rfl
    exact Nat.lt_irrefl _ he
  have hkeep (c : Component) : (set.insert c).2.component e = set.component e := by
    rw [SchemaSet.component_insert, if_neg hne]
  by_cases helement : (set.component e).isElement = true
  · refine (loads_namespaceOf e).bind fun ns u _ _ hu => ?_
    subst hu
    refine (loads_insert (fun _ => ?_) ?_).bind ?_
    · refine .of_empty rfl (by simp) (fun d hd => ?_) fun _ => rfl
      obtain rfl : e = d := by simpa using hd
      refine ⟨?_, by rw [hkeep]; exact helement, he⟩
      rw [SchemaSet.size_insert]
      exact Nat.lt_succ_of_lt he
    · rintro e ⟨type, p, ⟨⟩, ⟨⟩, -⟩
    · intro id v _ _ hinsert
      rw [hinsert.1, hinsert.2]
      -- the new type names the element that is given it
      refine (loads_setElementType (.inr ?_)).bind fun _ _ _ _ _ => .pure trivial
      rw [SchemaSet.component_insert, if_pos rfl]
      rfl
  · -- the step fails for any other component
    intro _ a set' hrun
    obtain ⟨ns, u, hns, hrun⟩ := SchemaSet.run_bind_ok hrun
    rw [run_namespaceOf he] at hns
    cases hns
    obtain ⟨id, v, hinsert, hrun⟩ := SchemaSet.run_bind_ok hrun
    have hv : (set.insert _).2 = v := congrArg Prod.snd hinsert
    obtain ⟨_, w, hset, -⟩ := SchemaSet.run_bind_ok hrun
    have hset := isElement_of_setElementType hset
    rw [← hv, hkeep] at hset
    exact absurd hset helement

end Builder

namespace Loading

variable {id owner : ComponentId}

/-! ## References -/

/-- Built-in types are global in every loaded set. -/
theorem isGlobal_of_builtin? {name : String} (hset : set.Loaded allowed)
    (h : SchemaSet.builtin? name = some id) : (set.component id).isGlobal = true := by
  -- the initial set has one global component for each built-in type, after the universal one
  have hinitial : ∀ id ∈ SchemaSet.initial.ids,
      (SchemaSet.initial.component id).isGlobal = true := by
    decide +kernel
  have hsize : SchemaSet.initial.size = builtinSimpleTypes.length + 1 := by
    decide +kernel
  obtain ⟨index, hindex, rfl⟩ := Option.map_eq_some_iff.1 h
  obtain ⟨hlt, -, -⟩ := List.idxOf?_eq_some_iff.1 hindex
  refine hset.grown.isGlobal (hinitial ⟨index + 1⟩ (List.mem_map.2 ⟨index + 1, ?_, rfl⟩))
  rw [List.mem_range, hsize]
  exact Nat.succ_lt_succ hlt

/-- Built-in types are looked up. -/
theorem loads_builtin (name : String) :
    Loads allowed (Builder.builtin name) set fun id set' =>
      (set'.component id).isGlobal = true := by
  unfold Builder.builtin
  split
  · rename_i id hid
    exact fun hset => Loads.pure (isGlobal_of_builtin? hset hid) hset
  · exact .throw _

/-- What is found by its name is global. -/
theorem isGlobal_of_findGlobal? {name : String} {wantType : Bool} (hset : set.Loaded allowed)
    (h : set.findGlobal? ns name wantType = some id) : (set.component id).isGlobal = true := by
  obtain ⟨s, hs, hid⟩ := Option.bind_eq_some_iff.1 h
  exact hset.listing s (List.mem_of_find?_eq_some hs) id (List.mem_of_find?_eq_some hid)

/-- Types are referred to by name, so they are global. -/
theorem loads_resolveType (ns name : String) :
    Loads allowed (resolveType ns name) set fun id set' => (set'.component id).isGlobal = true := by
  refine .reading fun hset => ?_
  cases hfind : findType? set ns name with
  | none => exact Loads.throw _ hset
  | some id =>
    refine Loads.pure ?_ hset
    unfold findType? at hfind
    split at hfind
    · exact isGlobal_of_builtin? hset hfind
    · exact isGlobal_of_findGlobal? hset hfind

/-- Elements are referred to by name, so they are global. -/
theorem loads_resolveElement (ns name : String) :
    Loads allowed (resolveElement ns name) set fun id set' => id.index < set'.size ∧
      (set'.component id).isElement = true ∧ (set'.component id).isGlobal = true := by
  refine .reading fun hset => ?_
  cases hfind : findElement? set ns name with
  | none => exact Loads.throw _ hset
  | some id =>
    refine Loads.pure ?_ hset
    have hglobal := isGlobal_of_findGlobal? hset hfind
    obtain ⟨s, -, hid⟩ := Option.bind_eq_some_iff.1 hfind
    -- only elements are looked for
    have helement : (set.component id).isElement = true := by
      have hfound := List.find?_some hid
      simp only [Bool.and_eq_true, bne_iff_ne, ne_eq, Bool.not_eq_false] at hfound
      exact hfound.1.2
    refine ⟨Nat.lt_of_not_le fun hbeyond => ?_, helement, hglobal⟩
    rw [SchemaSet.component_of_size_le hbeyond] at hglobal
    cases hglobal

/-! ## Filling -/

/-- Locating a component loads. -/
theorem loads_locate (id : ComponentId) (document : String) (line : Option Nat) :
    Loads allowed (locate id document line) set fun _ _ => True :=
  .whenSome fun _ => .building (Builder.loads_setLocator id _)

/-- Filling what a complex type says apart from its elements loads. -/
theorem loads_fillHead (ns : String) (head : TypeHead) (id : ComponentId) :
    Loads allowed (fillHead ns head id) set fun _ _ => True := by
  unfold fillHead
  refine (Loads.whenSome fun base => ?_).bind fun _ _ _ _ _ => ?_
  · refine (loads_resolveType ns base).bind fun b _ _ _ hbase => ?_
    exact .building (Builder.loads_derive hbase id _)
  · refine .optional (.building (Builder.loads_setAbstract id)) fun _ _ => ?_
    refine (Loads.whenSome fun doc => ?_).bind fun _ _ _ _ _ => .whenSome fun name => ?_
    · exact .building (Builder.loads_customize id _)
    · exact .building (Builder.loads_customize id _)

/-- Filling attributes loads. -/
theorem loads_fillAttributes (ns document : String) (id : ComponentId)
    (entries : List AttributeEntry) :
    Loads allowed (fillAttributes ns document id entries) set fun _ _ => True := by
  induction entries generalizing set with
  | nil => exact .pure trivial
  | cons entry rest ih =>
    unfold fillAttributes
    -- the attributes after the first, whatever its type is
    have hrest (u : SchemaSet) {type : Option ComponentId}
        (htype : ∀ t ∈ type, (u.component t).isGlobal = true) : Loads allowed (do
          let declared ← building (.localAttribute id entry.name type)
          locate declared document entry.line
          fillAttributes ns document id rest) u fun _ _ => True := by
      refine (Loads.building (Builder.loads_localAttribute id _ htype)).bind fun _ _ _ _ _ => ?_
      exact (loads_locate _ document _).bind fun _ _ _ _ _ => ih
    split
    · rw [map_eq_pure_bind, bind_assoc]
      refine (loads_resolveType ns _).bind fun type u _ _ htype => .given (hrest u ?_)
      rintro _ ⟨⟩
      exact htype
    · exact .given (hrest set (by rintro t ⟨⟩))

/-- Customizing an element loads. -/
theorem loads_customizeElement (head : ElementHead) (id : ComponentId) :
    Loads allowed (customizeElement head id) set fun _ _ => True := by
  unfold customizeElement
  refine .optional (.building (Builder.loads_setAbstract id)) fun _ _ => ?_
  refine (Loads.whenSome fun doc => ?_).bind fun _ _ _ _ _ => ?_
  · exact .building (Builder.loads_customize id _)
  · refine (Loads.whenSome fun name => ?_).bind fun _ _ _ _ _ => .whenSome fun name => ?_
    · exact .building (Builder.loads_customize id _)
    · exact .building (Builder.loads_customize id _)

mutual

/-- Filling an element that is there loads, with all that is inside of it. -/
theorem loads_fillElement (ns document : String) : ∀ (entry : ElementEntry) (set : SchemaSet)
    (id : ComponentId), id.index < set.size →
      Loads allowed (fillElement ns document entry id) set fun _ _ => True
  | .plain head, set, id, _ => by
    unfold fillElement
    refine (Loads.whenSome fun type => ?_).bind fun _ _ _ _ _ => loads_customizeElement head id
    refine (loads_resolveType ns type).bind fun t _ _ _ htype => ?_
    exact .building (Builder.loads_setElementType (.inl htype))
  | .typed head type elements, set, id, hid => by
    unfold fillElement
    refine (Loads.building (Builder.loads_anonymousComplexType hid)).bind fun a _ _ _ _ => ?_
    refine (loads_locate a document _).bind fun _ _ _ _ _ => ?_
    refine (loads_fillHead ns type a).bind fun _ u _ _ _ => ?_
    refine (loads_fillElements ns document elements u a).bind fun _ _ _ _ _ => ?_
    refine (loads_fillAttributes ns document a _).bind fun _ _ _ _ _ => ?_
    exact loads_customizeElement head id

/-- Filling the elements of a content loads. -/
theorem loads_fillElements (ns document : String) : ∀ (entries : List ElementEntry)
    (set : SchemaSet) (owner : ComponentId),
      Loads allowed (fillElements ns document owner entries) set fun _ _ => True
  | [], _, _ => .pure trivial
  | entry :: rest, set, owner => by
    unfold fillElements
    -- after an occurrence it may be repeated, and the next ones follow
    have hrest (u : SchemaSet) (term : ComponentId) : Loads allowed
        (if entry.head.repeated = true then
          building (.setRepeated owner term) >>= fun _ => fillElements ns document owner rest
        else fillElements ns document owner rest) u fun _ _ => True :=
      .optional (.building (Builder.loads_setRepeated owner term)) fun v _ =>
        loads_fillElements ns document rest v owner
    dsimp only
    cases entry.head.reference with
    | some reference =>
      refine (Loads.whenSome fun key => .throw _).bind fun _ _ _ _ _ => ?_
      refine (loads_resolveElement ns reference).bind fun target _ _ _ htarget => ?_
      refine (Loads.building (Builder.loads_pushParticle fun _ => ?_)).bind fun _ v _ _ _ => ?_
      · exact ⟨htarget.1, htarget.2.1, .inl htarget.2.2⟩
      · exact .given (hrest v target)
    | none =>
      cases entry.head.name with
      | none =>
        exact .failed _ _
      | some name =>
        refine (Loads.building (Builder.loads_localElement owner name)).bind fun id v _ _ hid => ?_
        refine (loads_locate id document _).bind fun _ w _ hgrows _ => ?_
        have hid' := hgrows.index_lt hid
        refine (loads_fillElement ns document entry w id hid').bind fun _ u _ _ _ => ?_
        exact .given (hrest u id)

end

/-- Filling a complex type loads. -/
theorem loads_fillComplexType (ns document : String) (entry : ComplexTypeEntry)
    (id : ComponentId) :
    Loads allowed (fillComplexType ns document entry id) set fun _ _ => True := by
  unfold fillComplexType
  refine (loads_fillHead ns _ id).bind fun _ u _ _ _ => ?_
  refine (loads_fillElements ns document _ u id).bind fun _ _ _ _ _ => ?_
  exact loads_fillAttributes ns document id _

/-! ## Declaring and filling -/

/-- Declaring the globals of a schema gives ids of components. -/
theorem loads_declare {schema : SchemaEntry} (hns : allowed schema.ns) (sourceName : String) :
    Loads allowed (declare sourceName schema) set
      fun globals set' => ∀ id ∈ globals.elements, id.index < set'.size := by
  unfold declare
  dsimp only
  refine (Loads.building (Builder.loads_schemaLocator _ _)).bind fun _ _ _ _ _ => ?_
  refine (Loads.whenSome fun name => .building (Builder.loads_package _ name)).bind
    fun _ _ _ _ _ => ?_
  refine (Loads.building (loads_builtin _)).bind fun placeholder _ _ _ hplaceholder => ?_
  refine (Loads.mapM (fun _ _ _ _ _ => trivial) fun entry _ u hgrows =>
    (Loads.building (Builder.loads_globalSimpleType _ entry.name
      (hgrows.isGlobal hplaceholder))).bind
      fun id _ _ _ _ => (loads_locate id _ _).bind fun _ _ _ _ _ => .pure trivial).bind
    fun _ _ _ _ _ => ?_
  refine (Loads.mapM (fun _ _ _ _ _ => trivial) fun entry _ u _ =>
    (Loads.building (Builder.loads_globalComplexType hns _)).bind
      fun id _ _ _ _ => (loads_locate id _ _).bind fun _ _ _ _ _ => .pure trivial).bind
    fun _ _ _ _ _ => ?_
  refine (Loads.mapM (fun id u _ hgrows (hid : id.index < u.size) => hgrows.index_lt hid)
    fun entry _ u _ => ?_).bind fun _ _ _ _ helements => .pure helements
  refine (Loads.building (Builder.loads_globalElement _ _)).bind fun id _ _ _ hid => ?_
  exact (loads_locate id _ _).bind fun _ _ _ hgrows _ => .pure (hgrows.index_lt hid)

/-- Filling what a schema declares loads, if the elements are there. -/
theorem loads_fill (sourceName : String) (schema : SchemaEntry) {globals : Globals}
    (helements : ∀ id ∈ globals.elements, id.index < set.size) :
    Loads allowed (fill sourceName schema globals) set fun _ _ => True := by
  unfold fill
  dsimp only
  refine (Loads.forM fun _ _ _ _ => (loads_resolveType _ _).bind fun base _ _ _ hbase =>
    .building (Builder.loads_setSimpleBase hbase _)).bind fun _ _ _ hgrows _ => ?_
  refine (Loads.forM fun _ _ _ _ => loads_fillComplexType _ _ _ _).bind
    fun _ _ _ hgrows' _ => .forM fun (entry, id) hmem u hgrows'' => ?_
  -- the elements were declared before, and exist still
  have hid := ((hgrows.trans hgrows').trans hgrows'').index_lt
    (helements id (List.of_mem_zip hmem).2)
  dsimp only
  split
  · exact .failed _ _
  · exact loads_fillElement _ _ entry u id hid

/-- Loading a manifest of allowed namespaces **loads**. -/
theorem loads_manifest {m : Manifest} (hns : ∀ schema ∈ m.schemas, allowed schema.ns)
    (sourceName : String) : Loads allowed (manifest sourceName m) set fun _ _ => True := by
  unfold manifest
  refine (Loads.mapM (fun globals u v hgrows helements id hid => ?_) fun schema hschema u _ =>
    loads_declare (hns schema hschema) sourceName).bind fun globals u _ _ hglobals => .forM ?_
  · exact hgrows.index_lt (helements id hid)
  · intro (schema, declared) hmem v hgrows
    refine loads_fill sourceName schema fun id hid => hgrows.index_lt ?_
    exact hglobals declared (List.of_mem_zip hmem).2 id hid

end Loading

/-- **The schema set of a manifest is loaded**, with global complex types in the namespaces of its
schemas. -/
theorem Manifest.loaded_of_schemaSet {m : Manifest} {sourceName : String}
    (hns : ∀ schema ∈ m.schemas, allowed schema.ns) (h : m.schemaSet sourceName = .ok set) :
    set.Loaded allowed := by
  unfold Manifest.schemaSet at h
  rcases hrun : (Loading.manifest sourceName m).run.run SchemaSet.initial with ⟨_ | _, set'⟩
  · rw [hrun] at h
    cases h
  · rw [hrun] at h
    cases h
    exact (Loading.loads_manifest hns sourceName SchemaSet.loaded_initial _ _ hrun).1

namespace SchemaSet

variable {text sourceName : String}

/-- A text with a schema set is read into a manifest that **describes** it. -/
theorem exists_schemaSet_of_ofManifest (h : ofManifest text sourceName = .ok set) :
    ∃ m, Manifest.ofText text = .ok m ∧ m.schemaSet sourceName = .ok set := by
  unfold ofManifest at h
  cases hread : Manifest.ofText text with
  | error cause =>
    rw [hread] at h
    cases h
  | ok m =>
    rw [hread] at h
    exact ⟨m, rfl, h⟩

/-- The schema set of a text is **loaded**. -/
theorem loaded_of_ofManifest (h : ofManifest text sourceName = .ok set) :
    set.Loaded fun _ => True := by
  obtain ⟨m, -, hset⟩ := exists_schemaSet_of_ofManifest h
  exact Manifest.loaded_of_schemaSet (fun _ _ => trivial) hset

end SchemaSet

end SchemaBinding
