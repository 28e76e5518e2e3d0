import SchemaBinding.Proofs.Manifest.Acceptance
import SchemaBinding.Proofs.Manifest.Parts

/-! # Elements without a name
An element entry inside of a complex type has a name or is a reference, at any depth, or else the
manifest is rejected. At the top level a missing name is taken for the **empty** one: so the global
elements of an accepted manifest may be nameless, and the local ones are not. -/

namespace SchemaBinding

variable {m : Manifest} {set : SchemaSet} {refs : References} {ns document sourceName : String}

/-! ## Local elements -/

/-- A component is a **local element** with the name that its entry gives it. -/
structure ElementEntry.Gives (entry : ElementEntry) (c : Component) : Prop where
  isLocal : c.isGlobal = false
  declares : entry.head.reference = none
  named : ∃ name, entry.head.name = some name ∧ c.name = some name

/-- No attribute is an element. -/
theorem Attributes.isElement {entries : List AttributeEntry} {attributes : List ComponentId}
    (h : Attributes set refs ns document entries attributes) :
    ∀ id ∈ attributes, (set.component id).isElement = false := by
  intro id hid
  obtain ⟨i, hi, rfl⟩ := List.mem_iff_getElem.1 hid
  have hentry : i < entries.length := h.length_eq ▸ hi
  obtain ⟨type, -, hcomponent⟩ := List.forall₂_iff_get.1 h |>.2 i hentry hi
  exact (congrArg Component.isElement hcomponent).trans rfl

mutual

/-- The elements that belong to a content are given by entries **nested** in it. -/
theorem Contents.exists_gives {entries : List ElementEntry} {particles : List Particle}
    {first last : Nat} : Contents set refs ns document entries particles first last →
      ∀ k : ComponentId, first ≤ k.index → k.index < last → (set.component k).isElement = true →
        ∃ entry ∈ ElementEntry.nested entries, entry.Gives (set.component k)
  | .nil, _, hk, hk', _ => absurd hk (Nat.not_le.2 hk')
  | @Contents.reference _ _ _ _ entry _ _ _ _ _ _ _ _ _ later, k, hk, hk', helement => by
    obtain ⟨e, he, hgives⟩ := later.exists_gives k hk hk' helement
    unfold ElementEntry.nested
    exact ⟨e, .tail _ (List.mem_append_right _ he), hgives⟩
  | @Contents.declaration _ _ _ _ entry _ _ first inner _ _ declares named typed element later, k,
      hk, hk', helement => by
    unfold ElementEntry.nested
    -- the component is the local element, or belongs to it, or to the entries behind it
    rcases Nat.lt_or_ge k.index inner with hinner | hinner
    · rcases Nat.eq_or_lt_of_le hk with rfl | hbehind
      · obtain ⟨name, hname⟩ := Option.isSome_iff_exists.1 named
        refine ⟨entry, List.mem_cons_self, ?_⟩
        rw [element]
        exact ⟨rfl, declares, name, hname, congrArg (fun n => some (Option.getD n "")) hname⟩
      · obtain ⟨e, he, hgives⟩ := typed.exists_gives k hbehind hinner helement
        exact ⟨e, .tail _ (List.mem_append_left _ he), hgives⟩
    · obtain ⟨e, he, hgives⟩ := later.exists_gives k hinner hk' helement
      exact ⟨e, .tail _ (List.mem_append_right _ he), hgives⟩

/-- The elements that belong to an element are given by the entries **inside** of its own. -/
theorem TypeOf.exists_gives {element : ComponentId} {entry : ElementEntry}
    {type : Option ComponentId} {first last : Nat} :
    TypeOf set refs ns document element entry type first last →
      ∀ k : ComponentId, first ≤ k.index → k.index < last → (set.component k).isElement = true →
        ∃ e ∈ entry.inner, e.Gives (set.component k)
  | .plain _, _, hk, hk', _ => absurd hk (Nat.not_le.2 hk')
  | @TypeOf.typed _ _ _ _ _ _ _ _ _ first inner _ _ contents attributes anonymous, k, hk, hk',
      helement => by
    unfold ElementEntry.inner
    -- the anonymous type and its attributes are no elements, so only its content is left
    rcases Nat.lt_or_ge k.index inner with hinner | hinner
    · rcases Nat.eq_or_lt_of_le hk with rfl | hbehind
      · have hkind : (set.component k).isElement = false := by
          rw [anonymous]
          rfl
        rw [hkind] at helement
        cases helement
      · exact contents.exists_gives k hbehind hinner helement
    · rw [attributes.isElement k (ComponentId.mem_following.2 ⟨hinner, hk'⟩)] at helement
      cases helement

end

/-! ## Elements of declarations -/

namespace Declaration

variable {d : Declaration} {id : ComponentId} {first last : Nat}

/-- The element entries inside of a declaration, at any depth. -/
def nested (d : Declaration) : List ElementEntry :=
  match d.entry with
  | .simpleType _ => []
  | .complexType entry => ElementEntry.nested entry.elements
  | .element entry => entry.inner

/-- The entries inside of the declarations of a manifest are those of its schemas. -/
theorem exists_schema_of_nested (hd : d ∈ m.declarations sourceName) {entry : ElementEntry}
    (hentry : entry ∈ d.nested) : ∃ schema ∈ m.schemas, entry ∈ schema.nested := by
  obtain ⟨schema, hschema, hd⟩ := List.mem_flatMap.1 hd
  refine ⟨schema, hschema, ?_⟩
  unfold SchemaEntry.nested
  rcases List.mem_append.1 hd with hd | hd
  · rcases List.mem_append.1 hd with hd | hd
    · obtain ⟨simple, -, rfl⟩ := List.mem_map.1 hd
      exact absurd hentry (List.not_mem_nil)
    · obtain ⟨complex, hcomplex, rfl⟩ := List.mem_map.1 hd
      exact List.mem_append_left _ (List.mem_flatMap.2 ⟨complex, hcomplex, hentry⟩)
  · obtain ⟨element, helement, rfl⟩ := List.mem_map.1 hd
    exact List.mem_append_right _ (List.mem_flatMap.2 ⟨element, helement, hentry⟩)

/-- The elements that a manifest declares are those of its schemas. -/
theorem exists_schema_of_element (hd : d ∈ m.declarations sourceName) {entry : ElementEntry}
    (hentry : d.entry = .element entry) : ∃ schema ∈ m.schemas, entry ∈ schema.elements := by
  obtain ⟨schema, hschema, hd⟩ := List.mem_flatMap.1 hd
  refine ⟨schema, hschema, ?_⟩
  rcases List.mem_append.1 hd with hd | hd
  · rcases List.mem_append.1 hd with hd | hd
    · obtain ⟨simple, -, rfl⟩ := List.mem_map.1 hd
      cases hentry
    · obtain ⟨complex, -, rfl⟩ := List.mem_map.1 hd
      cases hentry
  · obtain ⟨element, helement, rfl⟩ := List.mem_map.1 hd
    cases hentry
    exact helement

/-- Every element inside of a described declaration comes from an entry inside of it. -/
theorem Describes.exists_gives (h : d.Describes set refs id first last) (k : ComponentId)
    (hk : first ≤ k.index) (hk' : k.index < last) (helement : (set.component k).isElement = true) :
    ∃ entry ∈ d.nested, entry.Gives (set.component k) := by
  unfold nested
  cases h with
  | simpleType => exact absurd hk (Nat.not_le.2 hk')
  | @complexType _ _ _ inner _ declares _ contents attributes =>
    rw [declares]
    rcases Nat.lt_or_ge k.index inner with hinner | hinner
    · exact contents.exists_gives k hk hinner helement
    · rw [attributes.isElement k (ComponentId.mem_following.2 ⟨hinner, hk'⟩)] at helement
      cases helement
  | element declares _ typed =>
    rw [declares]
    exact typed.exists_gives k hk hk' helement

end Declaration

/-- Every element inside of described declarations comes from an entry inside of one of them. -/
theorem Task.Describe.exists_gives {tasks : List Task} {first last : Nat}
    (h : Task.Describe set refs tasks first last) (k : ComponentId) (hk : first ≤ k.index)
    (hk' : k.index < last) (helement : (set.component k).isElement = true) :
    ∃ t ∈ tasks, ∃ entry ∈ t.1.nested, entry.Gives (set.component k) := by
  induction h with
  | nil => exact absurd hk (Nat.not_le.2 hk')
  | @cons t rest first inner last describes later ih =>
    rcases Nat.lt_or_ge k.index inner with hinner | hinner
    · exact ⟨t, List.mem_cons_self, describes.exists_gives k hk hinner helement⟩
    · obtain ⟨t', ht', hgives⟩ := ih hinner hk'
      exact ⟨t', .tail _ ht', hgives⟩

namespace Manifest

/-- What is to be filled was declared. -/
theorem mem_declarations_of_mem_tasks {t : Task} (ht : t ∈ m.tasks sourceName) :
    t.1 ∈ m.declarations sourceName := by
  rw [← Declaration.fst_tasks SchemaSet.initial.size (m.declarations sourceName)]
  exact List.mem_map_of_mem ht

/-- An element of an accepted manifest is **nested** in a schema and has the name that is given
there, or it is at the **top level**, where a missing name is empty. -/
theorem Describes.element_named (h : m.Describes sourceName set) {id : ComponentId}
    (hid : id ∈ set.ids) (helement : (set.component id).isElement = true) :
    ∃ schema ∈ m.schemas, (∃ entry ∈ schema.nested, entry.Gives (set.component id)) ∨
      ∃ entry ∈ schema.elements, (set.component id).isGlobal = true ∧
        (set.component id).name = some (entry.head.name.getD "") := by
  -- the built-in types come first, then the global declarations, then what is nested in them
  rcases Nat.lt_or_ge id.index SchemaSet.initial.size with hinitial | hinitial
  · have hbuiltin : ∀ id ∈ SchemaSet.initial.ids,
        (SchemaSet.initial.component id).isElement = false := by
      decide +kernel
    rw [h.builtin id hinitial, hbuiltin id (SchemaSet.mem_ids hinitial)] at helement
    cases helement
  rcases Nat.lt_or_ge id.index
    (SchemaSet.initial.size + (m.declarations sourceName).length) with hdeclared | hdeclared
  · obtain ⟨d, hd⟩ := Declaration.exists_mem_tasks hinitial hdeclared
    obtain ⟨first, last, -, hdescribes⟩ := h.declarations.exists_describes _ hd
    cases hdescribes with
    | simpleType _ _ component | complexType _ _ _ _ component =>
      rw [component] at helement
      cases helement
    | element declares _ _ component =>
      obtain ⟨schema, hschema, hentry⟩ :=
        Declaration.exists_schema_of_element (mem_declarations_of_mem_tasks hd) declares
      refine ⟨schema, hschema, .inr ⟨_, hentry, ?_⟩⟩
      rw [component]
      exact ⟨rfl, rfl⟩
  · obtain ⟨t, ht, entry, hentry, hgives⟩ := h.declarations.exists_gives id hdeclared
      (SchemaSet.index_lt_of_mem_ids hid) helement
    obtain ⟨schema, hschema, hnested⟩ :=
      Declaration.exists_schema_of_nested (mem_declarations_of_mem_tasks ht) hentry
    exact ⟨schema, hschema, .inl ⟨entry, hnested, hgives⟩⟩

end Manifest

/-! ## Missing names -/

/-- The entry with the empty name, if it has none. -/
def ElementEntry.withName : ElementEntry → ElementEntry
  | plain head => plain { head with name := some (head.name.getD "") }
  | typed head type elements =>
    typed { head with name := some (head.name.getD "") } type elements

/-- The schema with the **empty** name at each top-level element that has none. -/
def SchemaEntry.withNames (schema : SchemaEntry) : SchemaEntry :=
  { schema with elements := schema.elements.map ElementEntry.withName }

/-- The manifest with the **empty** name at each top-level element that has none. -/
def Manifest.withNames (m : Manifest) : Manifest := ⟨m.schemas.map SchemaEntry.withNames⟩

namespace Loading

/-- The empty name is all that is added to an entry. -/
theorem head_withName (entry : ElementEntry) :
    entry.withName.head = { entry.head with name := some (entry.head.name.getD "") } := by
  cases entry <;> rfl

/-- An element is filled without regard to its name. -/
theorem fillElement_withName (ns document : String) (entry : ElementEntry) (id : ComponentId) :
    fillElement ns document entry.withName id = fillElement ns document entry id := by
  cases entry <;> rfl

/-- Declaring a schema does not see whether a name is missing or empty. -/
theorem declare_withNames (sourceName : String) (schema : SchemaEntry) :
    declare sourceName schema.withNames = declare sourceName schema := by
  unfold declare SchemaEntry.withNames
  simp only [List.mapM_map, Function.comp_def, head_withName, Option.getD_some]

/-- Filling a schema does not see whether a name is missing or empty. -/
theorem fill_withNames (sourceName : String) (schema : SchemaEntry) :
    fill sourceName schema.withNames = fill sourceName schema := by
  funext globals
  unfold fill SchemaEntry.withNames
  simp only [List.zip_map_left, List.forM_eq_forM, List.forM_map, Prod.map, head_withName,
    fillElement_withName, Option.getD_some, id]

/-- Nor does loading a manifest. -/
theorem manifest_withNames (sourceName : String) (m : Manifest) :
    manifest sourceName m.withNames = manifest sourceName m := by
  unfold manifest Manifest.withNames
  simp only [List.mapM_map, Function.comp_def, declare_withNames, List.zip_map_left,
    List.forM_eq_forM, List.forM_map, Prod.map, fill_withNames, id]

end Loading

/-- A top-level element without a name is loaded like one with the **empty** name. -/
theorem Manifest.schemaSet_withNames (m : Manifest) (sourceName : String) :
    m.withNames.schemaSet sourceName = m.schemaSet sourceName := by
  unfold schemaSet
  rw [Loading.manifest_withNames]

namespace SchemaSet

/-- A manifest with a **nested** entry that has neither a name nor a reference is rejected. At the
top level a missing name is taken for the empty one. So each element of an accepted manifest has the
name that a nested entry gives it, or it is global and may have the empty name. -/
theorem ofManifest_named {text : String} (hread : Manifest.ofText text = .ok m)
    (sourceName : String) :
    (∀ schema ∈ m.schemas, ∀ entry ∈ schema.nested, entry.head.name = none →
      entry.head.reference = none → ∃ cause, ofManifest text sourceName = .error cause) ∧
    ofManifest text sourceName = m.withNames.schemaSet sourceName ∧
    ∀ set, ofManifest text sourceName = .ok set →
      ∀ id ∈ set.ids, (set.component id).isElement = true → ∃ schema ∈ m.schemas,
        (∃ entry ∈ schema.nested, entry.Gives (set.component id)) ∨
          ∃ entry ∈ schema.elements, (set.component id).isGlobal = true ∧
            (set.component id).name = some (entry.head.name.getD "") := by
  rw [ofManifest_eq hread]
  refine ⟨?_, (m.schemaSet_withNames sourceName).symm, ?_⟩
  · intro schema hschema entry hentry hname hreference
    cases hset : m.schemaSet sourceName with
    | error cause => exact ⟨cause, rfl⟩
    | ok set =>
      have hconsistent := (m.exists_schemaSet_iff_consistent sourceName).1 ⟨set, hset⟩
      have hnamed := (hconsistent schema hschema).named entry hentry hreference
      rw [hname] at hnamed
      cases hnamed
  · intro set hset id hid helement
    exact (m.describes_schemaSet hset).element_named hid helement

/-- A complex type with an element that has neither a name nor a reference. -/
def namelessInsideText : String :=
  "schema=[\x7bnamespace=\"urn:x\",complex_type=[\x7bname=\"T\",element=[\x7b\x7d]\x7d]\x7d]"

/-- A global element without a name, with an element inside that has one. -/
def namedInsideText : String :=
  "schema=[\x7bnamespace=\"urn:x\",element=[\x7bcomplex_type=" ++
    "\x7belement=[\x7bname=\"y\"\x7d]\x7d\x7d]\x7d]"

/-- What its text says. -/
def namedInside : SchemaEntry :=
  { ns := "urn:x", elements := [.typed {} {} [.plain { name := some "y" }]] }

set_option maxRecDepth 100000 in
/-- A nameless entry inside of a complex type is rejected; inside of a nameless global element, an
entry with a name keeps it. -/
theorem ofManifest_named_inside :
    (∃ cause, ofManifest namelessInsideText "a.toml" = .error cause) ∧
      ∃ set, ofManifest namedInsideText "a.toml" = .ok set ∧
        ∀ id ∈ set.ids, (set.component id).isElement = true →
          (set.component id).isGlobal = false → (set.component id).name = some "y" := by
  have hnameless : Manifest.ofText namelessInsideText =
      .ok ⟨[{ ns := "urn:x", complexTypes := [⟨{ name := some "T" }, [.plain {}]⟩] }]⟩ := by cbv
  have hnamed : Manifest.ofText namedInsideText = .ok ⟨[namedInside]⟩ := by cbv
  constructor
  · exact (ofManifest_named hnameless "a.toml").1 _ (.head _) (.plain {}) (.head _) rfl rfl
  · have haccepted : (Manifest.schemaSet ⟨[namedInside]⟩ "a.toml").isOk = true := by
      decide +kernel
    rw [← ofManifest_eq hnamed] at haccepted
    cases hset : ofManifest namedInsideText "a.toml" with
    | error cause =>
      rw [hset] at haccepted
      cases haccepted
    | ok set =>
      refine ⟨set, rfl, fun id hid helement hlocal => ?_⟩
      obtain ⟨schema, hschema, ⟨entry, hentry, hgives⟩ | ⟨_, _, hglobal, _⟩⟩ :=
        (ofManifest_named hnamed "a.toml").2.2 set hset id hid helement
      · obtain rfl := List.mem_singleton.1 hschema
        obtain rfl := List.mem_singleton.1 (show entry ∈ [_] from hentry)
        obtain ⟨name, hname, hcomponent⟩ := hgives.named
        cases hname
        exact hcomponent
      · rw [hglobal] at hlocal
        cases hlocal

/-- A global element without a name. -/
def namelessText : String := "schema=[\x7bnamespace=\"urn:x\",element=[\x7b\x7d]\x7d]"

set_option maxRecDepth 100000 in
/-- A global element that has neither a name nor a reference is **accepted**, with the empty
name. -/
theorem exists_nameless_accepted : ∃ m set,
    Manifest.ofText namelessText = .ok m ∧
      (∃ schema ∈ m.schemas, ∃ entry ∈ schema.elements,
        entry.head.name = none ∧ entry.head.reference = none) ∧
      ofManifest namelessText "a.toml" = .ok set ∧ (set.component ⟨22⟩).isElement = true ∧
      (set.component ⟨22⟩).name = some "" := by
  have hread : Manifest.ofText namelessText =
      .ok ⟨[{ ns := "urn:x", elements := [.plain {}] }]⟩ := by cbv
  have hloaded : ((Manifest.schemaSet ⟨[{ ns := "urn:x", elements := [.plain {}] }]⟩
      "a.toml").toOption.map fun set => ((set.component ⟨22⟩).isElement,
        (set.component ⟨22⟩).name)) = some (true, some "") := by
    decide +kernel
  rw [← ofManifest_eq hread] at hloaded
  cases hset : ofManifest namelessText "a.toml" with
  | error cause =>
    rw [hset] at hloaded
    cases hloaded
  | ok set =>
    rw [hset] at hloaded
    obtain ⟨helement, hname⟩ := Prod.mk.inj (Option.some.inj hloaded)
    exact ⟨_, set, hread, ⟨_, .head _, .plain {}, .head _, rfl, rfl⟩, rfl, helement, hname⟩

end SchemaSet

end SchemaBinding
