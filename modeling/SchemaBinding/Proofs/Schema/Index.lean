import Mathlib.Data.List.Nodup
import SchemaBinding.Proofs.Reordering.Indexed

/-! # The index of a set under construction
A set is constructed by instructions, of which any may be misused: it then leaves behind what it did
before it failed. The schemas of the set are an index of its components. Whatever the instructions
were, the index agrees with the components that there are, and its namespaces stand in the order in
which they were first mentioned. -/

namespace SchemaBinding

variable {α : Type}

/-! ## Instructions -/

/-- An **instruction** for the construction of a schema set: the call of a building step. -/
inductive Instruction where
  | schema (ns : String)
  | package (ns name : String)
  | schemaLocator (ns : String) (locator : Locator)
  | builtin (name : String)
  | globalElement (ns name : String) (type : Option ComponentId)
  | globalComplexType (ns name : String)
  | globalSimpleType (ns name : String) (base : ComponentId)
  | setElementType (element type : ComponentId)
  | setSimpleBase (type base : ComponentId)
  | anonymousComplexType (element : ComponentId)
  | anonymousSimpleType (element base : ComponentId)
  | localElement (owner : ComponentId) (name : String) (type : Option ComponentId)
  | elementRef (owner term : ComponentId)
  | localAttribute (owner : ComponentId) (name : String) (type : Option ComponentId)
  | group (owner : ComponentId) (compositor : Compositor)
  | derive (type base : ComponentId) (derivation : Derivation)
  | setAbstract (id : ComponentId)
  | setRepeated (owner term : ComponentId)
  | setLocator (id : ComponentId) (locator : Locator)
  | documentation (id : ComponentId) (text : String)
  | className (id : ComponentId) (name : String)
  | property (id : ComponentId) (name : Option String)
  deriving DecidableEq, Repr

namespace Instruction

/-- The set after an instruction, also if it was misused. -/
def after : Instruction → SchemaSet → SchemaSet
  | schema ns => (Builder.schema ns).after
  | package ns name => (Builder.package ns name).after
  | schemaLocator ns locator => (Builder.schemaLocator ns locator).after
  | builtin name => (Builder.builtin name).after
  | globalElement ns name type => (Builder.globalElement ns name type).after
  | globalComplexType ns name => (Builder.globalComplexType ns name).after
  | globalSimpleType ns name base => (Builder.globalSimpleType ns name base).after
  | setElementType element type => (Builder.setElementType element type).after
  | setSimpleBase type base => (Builder.setSimpleBase type base).after
  | anonymousComplexType element => (Builder.anonymousComplexType element).after
  | anonymousSimpleType element base => (Builder.anonymousSimpleType element base).after
  | localElement owner name type => (Builder.localElement owner name type).after
  | elementRef owner term => (Builder.elementRef owner term).after
  | localAttribute owner name type => (Builder.localAttribute owner name type).after
  | group owner compositor => (Builder.group owner compositor).after
  | derive type base derivation => (Builder.derive type base derivation).after
  | setAbstract id => (Builder.setAbstract id).after
  | setRepeated owner term => (Builder.setRepeated owner term).after
  | setLocator id locator => (Builder.setLocator id locator).after
  | documentation id text => (Builder.documentation id text).after
  | className id name => (Builder.className id name).after
  | property id name => (Builder.property id name).after

/-- The namespace that an instruction **mentions**: its own, or the one of the component that it
adds another one to, if there is such a component. -/
def mentioned? (set : SchemaSet) : Instruction → Option String
  | schema ns | package ns _ | schemaLocator ns _ | globalElement ns _ _ | globalComplexType ns _
  | globalSimpleType ns _ _ => some ns
  | anonymousComplexType owner | anonymousSimpleType owner _ | localElement owner _ _
  | localAttribute owner _ _ | group owner _ =>
    if owner.index < set.size then some (set.component owner).ns else none
  | _ => none

end Instruction

namespace SchemaSet

/-- The namespaces that instructions mention one after the other. -/
def mentionedFrom : SchemaSet → List Instruction → List String
  | _, [] => []
  | set, i :: rest => (i.mentioned? set).toList ++ mentionedFrom (i.after set) rest

/-- The set that instructions **construct**. -/
def constructed (instructions : List Instruction) : SchemaSet :=
  instructions.foldl (fun set i => i.after set) initial

/-- The namespaces of a construction in the order in which they are **first mentioned**. XML Schema
itself comes before all others. -/
def namespaces (instructions : List Instruction) : List String :=
  (xmlSchemaNs :: mentionedFrom initial instructions).eraseDups

variable {set : SchemaSet} {ns : String} {id : ComponentId} {mentioned : List String}

/-! ## Mentioned namespaces -/

/-- Only a namespace that was never mentioned before gets a new schema, at the **end**. -/
theorem map_ns_modifySchema (set : SchemaSet) (ns : String) {f : Schema → Schema}
    (hf : ∀ s, (f s).ns = s.ns) :
    (set.modifySchema ns f).schemas.map Schema.ns =
      if ns ∈ set.schemas.map Schema.ns then set.schemas.map Schema.ns
      else set.schemas.map Schema.ns ++ [ns] := by
  have hmap (schemas : List Schema) : (modifySchemas ns f schemas).map Schema.ns =
      if ns ∈ schemas.map Schema.ns then schemas.map Schema.ns
      else schemas.map Schema.ns ++ [ns] := by
    induction schemas with
    | nil => simp [modifySchemas, hf]
    | cons s rest ih =>
      unfold modifySchemas
      by_cases hs : s.ns = ns
      · simp [hs, hf]
      · rw [if_neg hs, List.map_cons, ih]
        by_cases hrest : ns ∈ rest.map Schema.ns
        · rw [if_pos hrest, List.map_cons, if_pos (.tail _ hrest)]
        · have hall : ns ∉ (s :: rest).map Schema.ns := by
            rw [List.map_cons, List.mem_cons, not_or]
            exact ⟨Ne.symm hs, hrest⟩
          rw [if_neg hrest, if_neg hall, List.map_cons, List.cons_append]
  exact hmap set.schemas

/-- Another mention adds a namespace that is **new**. -/
theorem eraseDups_concat (mentioned : List String) (ns : String) :
    (mentioned ++ [ns]).eraseDups =
      if ns ∈ mentioned then mentioned.eraseDups else mentioned.eraseDups ++ [ns] := by
  rw [List.eraseDups_append]
  by_cases hns : ns ∈ mentioned
  · simp [List.removeAll, hns]
  · simp [List.removeAll, hns, List.eraseDups_cons]

/-! ## Catalogs -/

/-- A set is a **catalog** of the namespaces mentioned so far: its schemas index its components and
stand in the order of the first mentions, and what is global is a declaration. -/
structure Catalog (mentioned : List String) (set : SchemaSet) : Prop where
  indexed : set.Indexed
  map_ns : set.schemas.map Schema.ns = mentioned.eraseDups
  nodup : (set.schemas.map Schema.ns).Nodup
  isGroup : ∀ id, (set.component id).isGlobal = true → (set.component id).isGroup = false

namespace Catalog

/-- A change of the schema of a namespace **mentions** it. -/
theorem map_ns_eq (h : Catalog mentioned set) (ns : String) {f : Schema → Schema}
    (hf : ∀ s, (f s).ns = s.ns) :
    (set.modifySchema ns f).schemas.map Schema.ns = (mentioned ++ [ns]).eraseDups ∧
      ((set.modifySchema ns f).schemas.map Schema.ns).Nodup := by
  -- a namespace has a schema exactly if it was mentioned
  have hmem : ns ∈ set.schemas.map Schema.ns ↔ ns ∈ mentioned := by
    rw [h.map_ns, List.mem_eraseDups]
  rw [map_ns_modifySchema set ns hf, eraseDups_concat]
  by_cases hns : ns ∈ mentioned
  · rw [if_pos (hmem.2 hns), if_pos hns]
    exact ⟨h.map_ns, h.nodup⟩
  · rw [if_neg (mt hmem.1 hns), if_neg hns, h.map_ns]
    refine ⟨rfl, List.nodup_append.2 ⟨h.map_ns ▸ h.nodup, List.nodup_singleton ns, ?_⟩⟩
    intro other hother ns' hns' heq
    rw [List.mem_singleton.1 hns'] at heq
    exact hns (List.mem_eraseDups.1 (heq ▸ hother))

/-- Whatever mentions a namespace may change its schema, apart from its name and its list. -/
theorem modifySchema (h : Catalog mentioned set) (ns : String) {f : Schema → Schema}
    (hf : ∀ s, (f s).ns = s.ns ∧ (f s).components = s.components) :
    Catalog (mentioned ++ [ns]) (set.modifySchema ns f) where
  indexed := h.indexed.modifySchema ns hf
  map_ns := (h.map_ns_eq ns fun s => (hf s).1).1
  nodup := (h.map_ns_eq ns fun s => (hf s).1).2
  isGroup := h.isGroup

/-- An inserted component mentions its namespace. -/
theorem insert (h : Catalog mentioned set) {c : Component}
    (hc : c.isGlobal = true → c.isGroup = false) :
    Catalog (mentioned ++ [c.ns]) (set.insert c).2 := by
  have hlist (s : Schema) : (if c.isGlobal then
      { s with components := s.components ++ [(⟨set.size⟩ : ComponentId)] } else s).ns = s.ns := by
    split <;> rfl
  refine ⟨h.indexed.insert c, (h.map_ns_eq c.ns hlist).1, (h.map_ns_eq c.ns hlist).2, ?_⟩
  intro id hid
  rw [component_insert] at hid ⊢
  split
  · rename_i hlast
    rw [if_pos hlast] at hid
    exact hc hid
  · rename_i hother
    rw [if_neg hother] at hid
    exact h.isGroup id hid

/-- A change of a component under the same heading mentions nothing. -/
theorem modifyComponent (h : Catalog mentioned set) {f : Component → Component}
    (hheading : (f (set.component id)).heading = (set.component id).heading) :
    Catalog mentioned (set.modifyComponent id f) := by
  refine ⟨h.indexed.modifyComponent (congrArg Heading.isGlobal hheading)
    (congrArg Heading.ns hheading), h.map_ns, h.nodup, fun k hk => ?_⟩
  rw [component_modifyComponent] at hk ⊢
  split
  · rename_i hself
    rw [if_pos hself] at hk
    rw [hself.1] at hk ⊢
    rw [show (f (set.component id)).isGlobal = _ from congrArg Heading.isGlobal hheading] at hk
    rw [show (f (set.component id)).isGroup = _ from congrArg Heading.isGroup hheading]
    exact h.isGroup id hk
  · rename_i hother
    rw [if_neg hother] at hk
    exact h.isGroup k hk

end Catalog

/-- The initial set mentions XML Schema. -/
theorem catalog_initial : Catalog [xmlSchemaNs] initial where
  indexed := indexed_initial
  map_ns := by decide +kernel
  nodup := by decide +kernel
  isGroup id hglobal := by
    have hall : ∀ id ∈ initial.ids, (initial.component id).isGroup = false := by decide +kernel
    exact hall id (mem_ids (index_lt_of_isGlobal hglobal))

end SchemaSet

/-! ## What instructions do to a catalog -/

namespace ComponentKind

/-- Two kinds of components of the same **sort**, which differ in their details. -/
inductive SameSort : ComponentKind → ComponentKind → Prop
  | element (d d' : ElementDecl) : SameSort (.element d) (.element d')
  | complexType (t t' : ComplexType) : SameSort (.complexType t) (.complexType t')
  | simpleType (t t' : SimpleType) : SameSort (.simpleType t) (.simpleType t')
  | attribute (d d' : AttributeDecl) : SameSort (.attribute d) (.attribute d')
  | group (g g' : ModelGroup) : SameSort (.group g) (.group g')

/-- The details of a component are no part of its **heading**. -/
theorem SameSort.heading_eq {c : Component} {kind : ComponentKind} (h : SameSort c.kind kind) :
    { c with kind }.heading = c.heading := by
  obtain ⟨kind', name, ns, isGlobal, locator, custom⟩ := c
  cases h <;> rfl

end ComponentKind

namespace Builder

open SchemaSet (Catalog)

variable {set : SchemaSet} {mentioned : List String} {step : Builder α}

/-- A change that keeps headings keeps a catalog. -/
theorem preserves_catalog_change (id : ComponentId) {f : Component → Component}
    (hf : ∀ c, (f c).heading = c.heading) : Preserves (Catalog mentioned) (change id f) :=
  .change fun _ h => h.modifyComponent (hf _)

/-- A change of kinds that keeps their sorts. -/
theorem preserves_catalog_changeKind (id : ComponentId)
    {f : ComponentKind → Except Misuse ComponentKind}
    (hf : ∀ kind kind', f kind = .ok kind' → kind.SameSort kind') :
    Preserves (Catalog mentioned) (changeKind id f) :=
  .changeKind fun _ h _ hkind => h.modifyComponent (hf _ _ hkind).heading_eq

/-- The type of an element is not in its heading. -/
theorem preserves_catalog_setElementType (element type : ComponentId) :
    Preserves (Catalog mentioned) (setElementType element type) := by
  refine preserves_catalog_changeKind element fun kind kind' h => ?_
  cases kind <;> cases h
  exact .element _ _

/-- The content of a complex type or group is not in its heading. -/
theorem preserves_catalog_pushParticle (owner term : ComponentId) :
    Preserves (Catalog mentioned) (pushParticle owner term) := by
  refine preserves_catalog_changeKind owner fun kind kind' h => ?_
  cases kind <;> cases h
  · exact .complexType _ _
  · exact .group _ _

/-- Nor is the repetition of a particle. -/
theorem preserves_catalog_setRepeated (owner term : ComponentId) :
    Preserves (Catalog mentioned) (setRepeated owner term) := by
  refine preserves_catalog_changeKind owner fun kind kind' h => ?_
  split at h
  · split at h <;> cases h
    exact .complexType _ _
  · split at h <;> cases h
    exact .group _ _
  · cases h

/-- A step that adds a component **below** an owner mentions the namespace of the owner, whether or
not it can then be attached. Below a component that the set does not have nothing is added. -/
theorem catalog_after_adding (h : Catalog mentioned set) (owner : ComponentId)
    {c : String → Component} {attach : ComponentId → Builder α}
    (hns : ∀ ns, (c ns).ns = ns) (hlocal : ∀ ns, (c ns).isGlobal = false)
    (hattach : ∀ id, Preserves (Catalog (mentioned ++ [(set.component owner).ns])) (attach id)) :
    Catalog (mentioned ++
        (if owner.index < set.size then some (set.component owner).ns else none).toList)
      (after (namespaceOf owner >>= fun ns => insert (c ns) >>= attach) set) := by
  by_cases howner : owner.index < set.size
  · have hinsert : Catalog (mentioned ++ [(set.component owner).ns])
        (set.insert (c (set.component owner).ns)).2 := by
      have hadded := h.insert (c := c (set.component owner).ns) (by simp [hlocal])
      rwa [hns] at hadded
    unfold after
    rw [if_pos howner, SchemaSet.run_bind_of_ok (run_namespaceOf howner)]
    exact hattach ⟨set.size⟩ _ hinsert
  · unfold after namespaceOf
    rw [if_neg howner, Option.toList_none, List.append_nil, bind_assoc, SchemaSet.run_bind,
      run_component_of_le (Nat.not_lt.1 howner)]
    exact h

/-- An instruction **extends** the catalog by what it mentions. -/
theorem catalog_after (h : Catalog mentioned set) (i : Instruction) :
    Catalog (mentioned ++ (i.mentioned? set).toList) (i.after set) := by
  -- most steps change components in place and mention nothing
  have hsilent {step : Builder Unit} (hstep : Preserves (Catalog mentioned) step) :
      Catalog (mentioned ++ []) (step.after set) := by
    rw [List.append_nil]
    exact hstep set h
  cases i with
  | schema | package | schemaLocator => exact h.modifySchema _ fun s => ⟨rfl, rfl⟩
  | globalElement ns name type =>
    exact h.insert (c := ⟨.element { type }, some name, ns, true, none, {}⟩) fun _ => rfl
  | globalComplexType ns name =>
    exact h.insert (c := ⟨.complexType {}, some name, ns, true, none, {}⟩) fun _ => rfl
  | globalSimpleType ns name base =>
    exact h.insert (c := ⟨.simpleType ⟨some base, none⟩, some name, ns, true, none, {}⟩)
      fun _ => rfl
  | builtin name =>
    show Catalog (mentioned ++ []) ((builtin name).after set)
    rw [List.append_nil]
    unfold builtin
    split
    · exact h
    · exact h
  | setElementType element type => exact hsilent (preserves_catalog_setElementType element type)
  | elementRef owner term => exact hsilent (preserves_catalog_pushParticle owner term)
  | setRepeated owner term => exact hsilent (preserves_catalog_setRepeated owner term)
  | setSimpleBase type base =>
    refine hsilent (preserves_catalog_changeKind type fun kind kind' hkind => ?_)
    cases kind <;> cases hkind
    exact .simpleType _ _
  | derive type base derivation =>
    refine hsilent (preserves_catalog_changeKind type fun kind kind' hkind => ?_)
    cases kind <;> cases hkind
    exact .complexType _ _
  | setAbstract id =>
    refine hsilent (preserves_catalog_changeKind id fun kind kind' hkind => ?_)
    cases kind <;> cases hkind
    · exact .element _ _
    · exact .complexType _ _
  | setLocator | documentation | className | property =>
    exact hsilent (preserves_catalog_change _ fun _ => rfl)
  | anonymousComplexType element | anonymousSimpleType element =>
    exact catalog_after_adding h element (fun _ => rfl) (fun _ => rfl) fun type =>
      (preserves_catalog_setElementType element type).bind fun _ => .pure _
  | localElement owner | group owner =>
    exact catalog_after_adding h owner (fun _ => rfl) (fun _ => rfl) fun id =>
      (preserves_catalog_pushParticle owner id).bind fun _ => .pure _
  | localAttribute owner =>
    refine catalog_after_adding h owner (fun _ => rfl) (fun _ => rfl) fun id =>
      (preserves_catalog_changeKind owner fun kind kind' hkind => ?_).bind fun _ => .pure _
    cases kind <;> cases hkind
    exact .complexType _ _

end Builder

namespace SchemaSet

variable {set : SchemaSet} {ns name : String} {id : ComponentId} {mentioned : List String}

/-- Instructions extend the catalog one after the other. -/
theorem Catalog.foldl_after (h : Catalog mentioned set) (instructions : List Instruction) :
    Catalog (mentioned ++ mentionedFrom set instructions)
      (instructions.foldl (fun set i => i.after set) set) := by
  induction instructions generalizing mentioned set with
  | nil => rwa [mentionedFrom, List.append_nil]
  | cons i rest ih =>
    rw [mentionedFrom, ← List.append_assoc]
    exact ih (Builder.catalog_after h i)

/-! ## What the index says -/

/-- A component is **global in** a namespace. -/
def GlobalIn (set : SchemaSet) (ns : String) (id : ComponentId) : Prop :=
  (set.component id).isGlobal = true ∧ (set.component id).ns = ns

/-- A component is a global element of a name, or a global component of the name that is none. -/
def Named (set : SchemaSet) (ns name : String) (wantType : Bool) (id : ComponentId) : Prop :=
  set.GlobalIn ns id ∧ (set.component id).name = some name ∧
    (set.component id).isElement = !wantType

/-- The schemas of a set **index** its components; their namespaces stand in a given order. -/
structure IndexedBy (namespaces : List String) (set : SchemaSet) : Prop where
  /-- There is one schema for each of the namespaces, in their order. -/
  map_ns : set.schemas.map Schema.ns = namespaces
  nodup : namespaces.Nodup
  /-- No global component is in another namespace. -/
  mem_namespaces : ∀ id, (set.component id).isGlobal = true → (set.component id).ns ∈ namespaces
  /-- A schema lists exactly the global components of its namespace. -/
  mem_components : ∀ s ∈ set.schemas, ∀ id, id ∈ s.components ↔ set.GlobalIn s.ns id
  /-- It lists them by increasing ids. -/
  ascending : ∀ s ∈ set.schemas, s.components.Pairwise fun a b => a.index < b.index
  /-- The global declarations are read off the schemas, but for the one of XML Schema. -/
  globalDeclarations : set.globalDeclarations =
    (set.schemas.filter fun s => s.ns != xmlSchemaNs).flatMap Schema.components
  /-- Every global component outside of XML Schema is declared once, and nothing else is. -/
  count : ∀ id, set.globalDeclarations.count id =
    if (set.component id).isGlobal = true ∧ (set.component id).ns ≠ xmlSchemaNs then 1 else 0
  /-- What is found is the first component of its name. -/
  findGlobal?_eq_some : ∀ ns name wantType id, set.findGlobal? ns name wantType = some id ↔
    set.Named ns name wantType id ∧
      ∀ other, set.Named ns name wantType other → id.index ≤ other.index
  findGlobal?_eq_none : ∀ ns name wantType, set.findGlobal? ns name wantType = none ↔
    ∀ id, ¬ set.Named ns name wantType id

/-- The ids of a set are **ascending**. -/
theorem pairwise_ids (set : SchemaSet) : set.ids.Pairwise fun a b => a.index < b.index :=
  List.pairwise_map.2 List.pairwise_lt_range

namespace Catalog

variable {s : Schema}

/-- A schema lists what its **namespace** has, since there is no other one of that namespace. -/
theorem components_eq (h : Catalog mentioned set) (hs : s ∈ set.schemas) :
    s.components = set.listedIn s.ns := by
  have hfound : set.schema? s.ns = some s := by
    have hpairwise := List.pairwise_map.1 h.nodup
    obtain ⟨before, after, hschemas⟩ := List.append_of_mem hs
    rw [hschemas] at hpairwise
    have hbefore : ∀ t ∈ before, t.ns ≠ s.ns := fun t ht =>
      (List.pairwise_append.1 hpairwise).2.2 t ht s List.mem_cons_self
    unfold schema?
    rw [hschemas, List.find?_append, List.find?_eq_none.2 (by simpa using hbefore),
      List.find?_cons_of_pos (by simp)]
    rfl
  rw [listedIn, hfound]
  rfl

/-- A schema lists exactly the global components of its namespace. -/
theorem mem_components (h : Catalog mentioned set) (hs : s ∈ set.schemas) :
    id ∈ s.components ↔ set.GlobalIn s.ns id := by
  rw [h.components_eq hs, h.indexed.listedIn, List.mem_filter, Bool.and_eq_true, beq_iff_eq]
  exact and_iff_right_of_imp fun hglobal => mem_ids (index_lt_of_isGlobal hglobal.1)

/-- A schema lists components in the order in which they were inserted. -/
theorem ascending (h : Catalog mentioned set) (hs : s ∈ set.schemas) :
    s.components.Pairwise fun a b => a.index < b.index := by
  rw [h.components_eq hs, h.indexed.listedIn]
  exact set.pairwise_ids.filter _

/-- Nothing that is listed is left out, since no **group** is listed. -/
theorem globalDeclarations_eq (h : Catalog mentioned set) : set.globalDeclarations =
    (set.schemas.filter fun s => s.ns != xmlSchemaNs).flatMap Schema.components := by
  refine List.filter_eq_self.2 fun id hid => ?_
  obtain ⟨s, hs, hid⟩ := List.mem_flatMap.1 hid
  have hglobal := ((h.mem_components (List.mem_filter.1 hs).1).1 hid).1
  rw [Component.isGlobalDeclaration, hglobal, h.isGroup id hglobal]
  rfl

/-- Nothing is declared **twice**: neither in a schema nor in two of them. -/
theorem nodup_globalDeclarations (h : Catalog mentioned set) : set.globalDeclarations.Nodup := by
  rw [h.globalDeclarations_eq, List.nodup_flatMap]
  constructor
  · intro s hs
    refine (h.ascending (List.mem_filter.1 hs).1).imp fun hlt heq => ?_
    rw [heq] at hlt
    exact Nat.lt_irrefl _ hlt
  · refine ((List.pairwise_map.1 h.nodup).filter _).imp_of_mem fun {s t} hs ht hne => ?_
    intro id hid hid'
    have hns := ((h.mem_components (List.mem_filter.1 hs).1).1 hid).2
    have hns' := ((h.mem_components (List.mem_filter.1 ht).1).1 hid').2
    exact hne (hns.symm.trans hns')

/-- The global declarations of a catalog are its global components, apart from those of XML
Schema. -/
theorem mem_globalDeclarations (h : Catalog mentioned set) : id ∈ set.globalDeclarations ↔
    (set.component id).isGlobal = true ∧ (set.component id).ns ≠ xmlSchemaNs := by
  rw [h.indexed.mem_globalDeclarations]
  refine and_congr_left fun _ => ?_
  rw [Component.isGlobalDeclaration, Bool.and_eq_true, Bool.not_eq_true']
  exact and_iff_left_of_imp (h.isGroup id)

/-- What is looked for is a component of the **name**. -/
theorem answers_iff (h : Catalog mentioned set) {wantType : Bool} :
    (set.component id).heading.answers ns name wantType = true ↔ set.Named ns name wantType id := by
  have hsort : ((set.component id).isElement != wantType) = true ↔
      (set.component id).isElement = !wantType := by
    cases (set.component id).isElement <;> cases wantType <;> decide
  simp only [Heading.answers, Component.heading, Bool.and_eq_true, beq_iff_eq, hsort,
    Bool.not_eq_true', Named, GlobalIn]
  constructor
  · rintro ⟨hglobal, ⟨hname, helement⟩, -⟩
    exact ⟨hglobal, hname, helement⟩
  · rintro ⟨hglobal, hname, helement⟩
    exact ⟨hglobal, ⟨hname, helement⟩, h.isGroup id hglobal.1⟩

/-- What is found is the **first** component of its name. -/
theorem findGlobal?_eq_some_iff (h : Catalog mentioned set) {wantType : Bool} :
    set.findGlobal? ns name wantType = some id ↔
      set.Named ns name wantType id ∧
        ∀ other, set.Named ns name wantType other → id.index ≤ other.index := by
  have hmem {other : ComponentId} (hother : set.Named ns name wantType other) :
      other ∈ set.ids := mem_ids (index_lt_of_isGlobal hother.1.1)
  rw [h.indexed.findGlobal?_eq, List.find?_eq_some_iff_append]
  constructor
  · rintro ⟨hid, before, after, hids, hbefore⟩
    refine ⟨h.answers_iff.1 hid, fun other hother => ?_⟩
    have hpairwise := hids ▸ set.pairwise_ids
    rcases List.mem_append.1 (hids ▸ hmem hother) with hother' | hother'
    · -- nothing before it has the name
      have hno := hbefore other hother'
      rw [h.answers_iff.2 hother] at hno
      cases hno
    · rcases List.mem_cons.1 hother' with rfl | hafter
      · exact Nat.le_refl _
      · have hrest := (List.pairwise_append.1 hpairwise).2.1
        exact Nat.le_of_lt ((List.pairwise_cons.1 hrest).1 other hafter)
  · rintro ⟨hid, hleast⟩
    obtain ⟨before, after, hids⟩ := List.append_of_mem (hmem hid)
    refine ⟨h.answers_iff.2 hid, before, after, hids, fun other hother => ?_⟩
    have hlt : other.index < id.index :=
      (List.pairwise_append.1 (hids ▸ set.pairwise_ids)).2.2 other hother id List.mem_cons_self
    rw [Bool.not_eq_true', Bool.eq_false_iff, Ne, h.answers_iff]
    exact fun hnamed => Nat.not_le.2 hlt (hleast other hnamed)

/-- Nothing is found exactly if nothing of the kind goes by the name. -/
theorem findGlobal?_eq_none_iff (h : Catalog mentioned set) {wantType : Bool} :
    set.findGlobal? ns name wantType = none ↔ ∀ id, ¬ set.Named ns name wantType id := by
  rw [h.indexed.findGlobal?_eq, List.find?_eq_none]
  constructor
  · exact fun hnone id hid =>
      hnone id (mem_ids (index_lt_of_isGlobal hid.1.1)) (h.answers_iff.2 hid)
  · exact fun hnone id _ hid => hnone id (h.answers_iff.1 hid)

end Catalog

/-- The index of a set under construction **agrees** with the components of the set, whatever the
instructions were and however many of them were misused. -/
theorem indexedBy_constructed (instructions : List Instruction) :
    (constructed instructions).IndexedBy (namespaces instructions) := by
  have h : Catalog (xmlSchemaNs :: mentionedFrom initial instructions)
      (constructed instructions) := catalog_initial.foldl_after instructions
  have hns : (constructed instructions).schemas.map Schema.ns = namespaces instructions := h.map_ns
  refine ⟨hns, hns ▸ h.nodup, ?mem, fun s hs id => h.mem_components hs,
    fun s hs => h.ascending hs, h.globalDeclarations_eq, ?count,
    fun _ _ _ _ => h.findGlobal?_eq_some_iff, fun _ _ _ => h.findGlobal?_eq_none_iff⟩
  case mem =>
    intro id hglobal
    obtain ⟨s, hs, hsns, -⟩ := h.indexed.listed id hglobal
    rw [← hns, ← hsns]
    exact List.mem_map_of_mem hs
  case count =>
    intro id
    split
    · rename_i hdeclared
      exact List.count_eq_one_of_mem h.nodup_globalDeclarations
        (h.mem_globalDeclarations.2 hdeclared)
    · rename_i hnot
      exact List.count_eq_zero.2 fun hid => hnot (h.mem_globalDeclarations.1 hid)

/-- A local element that cannot be attached to an element stays in the set, where it is not indexed;
a namespace that is mentioned first comes first, whatever is declared in it later. -/
example :
    let instructions : List Instruction :=
      [.schema "b", .globalElement "a" "e" none, .localElement ⟨22⟩ "e" none,
        .globalElement "b" "e" none, .globalComplexType "a" "e"]
    namespaces instructions = [xmlSchemaNs, "b", "a"] ∧
      (constructed instructions).globalDeclarations = [⟨24⟩, ⟨22⟩, ⟨25⟩] := by
  decide +kernel

end SchemaSet

end SchemaBinding
