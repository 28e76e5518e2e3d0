import SchemaBinding.Proofs.Manifest.Names

/-! # Consistent manifests
A manifest is **consistent** when each of its entries says what it may say there, and when all that
is referred to is declared somewhere. That is a condition on the entries one by one, however deep
they are nested, and on the names that are declared, but not on the order of anything. The
consistent manifests are exactly the accepted ones. -/

namespace SchemaBinding

variable {m : Manifest} {refs : References} {ns sourceName : String}

/-! ## Nested entries -/

namespace ElementEntry

mutual

/-- The element entries inside an element entry, **at any depth**. -/
def inner : ElementEntry → List ElementEntry
  | plain _ => []
  | typed _ _ elements => nested elements

/-- Element entries with all those inside them. -/
def nested : List ElementEntry → List ElementEntry
  | [] => []
  | entry :: rest => entry :: (entry.inner ++ nested rest)

end

/-- What the anonymous type of an element says apart from its elements. -/
def typeHead? (entry : ElementEntry) : Option TypeHead := entry.anonymous?.map ComplexTypeEntry.head

/-- A reference is **bare** when it says nothing but what it refers to, and whether it is repeated.
-/
def IsBare (entry : ElementEntry) : Prop :=
  ∃ reference repeated, entry = .plain { reference, repeated }

/-- An entry is bare when no key of a declaration is set. -/
theorem declarationKey?_eq_none_iff {entry : ElementEntry} :
    entry.declarationKey? = none ↔ entry.IsBare := by
  cases entry with
  | plain head =>
    obtain ⟨name, reference, type, isAbstract, repeated, doc, className, property, line⟩ := head
    simp [declarationKey?, IsBare, ElementEntry.head, anonymous?]
  | typed head type elements => simp [declarationKey?, IsBare, anonymous?]

end ElementEntry

namespace SchemaEntry

/-- The element entries of a schema that are not at its top level. -/
def nested (schema : SchemaEntry) : List ElementEntry :=
  schema.complexTypes.flatMap (fun entry => ElementEntry.nested entry.elements) ++
    schema.elements.flatMap ElementEntry.inner

/-- What the complex types of a schema say apart from their elements, global and anonymous ones
alike. -/
def typeHeads (schema : SchemaEntry) : List TypeHead :=
  schema.complexTypes.map ComplexTypeEntry.head ++
    (schema.elements ++ schema.nested).filterMap ElementEntry.typeHead?

/-! ## Consistency -/

/-- A schema of a manifest is **consistent**. -/
structure Consistent (m : Manifest) (schema : SchemaEntry) : Prop where
  /-- What stands at the top level is no occurrence. -/
  once : ∀ entry ∈ schema.elements, entry.head.repeated = false
  bare : ∀ entry ∈ schema.nested, entry.head.reference.isSome = true → entry.IsBare
  referring : ∀ entry ∈ schema.nested, ∀ reference ∈ entry.head.reference,
    m.NamesElement schema.ns reference
  named : ∀ entry ∈ schema.nested, entry.head.reference = none → entry.head.name.isSome = true
  restricting : ∀ entry ∈ schema.simpleTypes, m.NamesType schema.ns entry.base
  derived : ∀ head ∈ schema.typeHeads, ∀ base ∈ head.base, m.NamesType schema.ns base
  attributed : ∀ head ∈ schema.typeHeads, ∀ entry ∈ head.attributes, ∀ type ∈ entry.type,
    m.NamesType schema.ns type
  typed : ∀ entry ∈ schema.elements ++ schema.nested, entry.anonymous? = none →
    ∀ type ∈ entry.head.type, m.NamesType schema.ns type

end SchemaEntry

/-- A manifest is **consistent** when all its schemas are. -/
def Manifest.Consistent (m : Manifest) : Prop := ∀ schema ∈ m.schemas, schema.Consistent m

/-! ## Entries one by one -/

namespace ElementEntry

/-- What an element says about its type is there: the named type, or what its anonymous type refers
to. -/
structure Sound (refs : References) (ns : String) (entry : ElementEntry) : Prop where
  named : entry.anonymous? = none → refs.Means ns entry.head.type
  anonymous : ∀ head ∈ entry.typeHead?, head.Resolves refs ns

/-- An element entry may stand in a content: as a bare reference to an element, or with a name. -/
structure Placed (refs : References) (ns : String) (entry : ElementEntry) : Prop where
  bare : entry.head.reference.isSome = true → entry.IsBare
  referring : ∀ reference ∈ entry.head.reference, (refs.element? ns reference).isSome = true
  named : entry.head.reference = none → entry.head.name.isSome = true

/-- A bare reference says nothing about a type. -/
theorem IsBare.sound {entry : ElementEntry} (h : entry.IsBare) : entry.Sound refs ns := by
  obtain ⟨reference, repeated, rfl⟩ := h
  exact ⟨fun _ _ hname => by simp [ElementEntry.head] at hname,
    fun _ hhead => by simp [typeHead?, anonymous?] at hhead⟩

mutual

/-- An element resolves when everything **in it** does. -/
theorem resolves_iff (refs : References) (ns : String) : ∀ entry : ElementEntry,
    entry.Resolves refs ns ↔ entry.Sound refs ns ∧
      ∀ e ∈ entry.inner, e.Placed refs ns ∧ e.Sound refs ns
  | plain head => by
    unfold Resolves inner
    constructor
    · intro h
      exact ⟨⟨fun _ => h, fun _ hhead => by simp [typeHead?, anonymous?] at hhead⟩, by simp⟩
    · exact fun h => h.1.named rfl
  | typed head type elements => by
    unfold Resolves inner
    rw [allResolve_iff refs ns elements]
    refine and_congr_left fun _ => ?_
    constructor
    · intro h
      refine ⟨fun hnone => by simp [anonymous?] at hnone, fun head hhead => ?_⟩
      obtain rfl : type = head := by simpa [typeHead?, anonymous?] using hhead
      exact h
    · exact fun h => h.anonymous type rfl

/-- Element entries resolve when each of them does, **at any depth**. -/
theorem allResolve_iff (refs : References) (ns : String) : ∀ entries : List ElementEntry,
    AllResolve refs ns entries ↔ ∀ e ∈ nested entries, e.Placed refs ns ∧ e.Sound refs ns
  | [] => by simp [AllResolve, nested]
  | entry :: rest => by
    unfold AllResolve nested
    rw [List.forall_mem_cons, List.forall_mem_append, ← and_assoc, allResolve_iff refs ns rest]
    refine and_congr_left fun _ => ?_
    cases hreference : entry.head.reference with
    | some reference =>
      dsimp only
      -- a reference is bare, so that nothing else has to resolve in it
      rw [declarationKey?_eq_none_iff]
      constructor
      · rintro ⟨hbare, hfound⟩
        refine ⟨⟨⟨fun _ => hbare, ?_, by simp [hreference]⟩, hbare.sound⟩, ?_⟩
        · intro r hr
          obtain rfl : reference = r := by simpa [hreference] using hr
          exact hfound
        · obtain ⟨_, _, rfl⟩ := hbare
          simp [inner]
      · rintro ⟨⟨hplaced, -⟩, -⟩
        exact ⟨hplaced.bare (by simp [hreference]),
          hplaced.referring reference (by simp [hreference])⟩
    | none =>
      dsimp only
      rw [resolves_iff refs ns entry, and_assoc]
      refine and_congr_left fun _ => ?_
      constructor
      · exact fun hname => ⟨by simp [hreference], by simp [hreference], fun _ => hname⟩
      · exact fun hplaced => hplaced.named hreference

end

end ElementEntry

/-! ## Accepted manifests -/

namespace SchemaEntry

variable {schema : SchemaEntry}

/-- All declarations of a schema **resolve**. -/
structure Resolves (refs : References) (schema : SchemaEntry) : Prop where
  simpleTypes : ∀ entry ∈ schema.simpleTypes, (refs.type? schema.ns entry.base).isSome = true
  complexTypes : ∀ entry ∈ schema.complexTypes, entry.head.Resolves refs schema.ns ∧
    ElementEntry.AllResolve refs schema.ns entry.elements
  elements : ∀ entry ∈ schema.elements,
    entry.head.repeated = false ∧ entry.Resolves refs schema.ns

/-- The declarations of a schema resolve when its entries do, **one by one**. -/
theorem resolves_iff : schema.Resolves refs ↔
    (∀ entry ∈ schema.elements, entry.head.repeated = false) ∧
      (∀ entry ∈ schema.simpleTypes, (refs.type? schema.ns entry.base).isSome = true) ∧
        (∀ head ∈ schema.typeHeads, head.Resolves refs schema.ns) ∧
          (∀ entry ∈ schema.nested, entry.Placed refs schema.ns) ∧
            ∀ entry ∈ schema.elements ++ schema.nested, entry.anonymous? = none →
              refs.Means schema.ns entry.head.type := by
  -- the nested entries are those in complex types and those inside of elements
  have hnested : (∀ e ∈ schema.nested, e.Placed refs schema.ns ∧ e.Sound refs schema.ns) ↔
      (∀ entry ∈ schema.complexTypes, ElementEntry.AllResolve refs schema.ns entry.elements) ∧
        ∀ entry ∈ schema.elements, ∀ e ∈ entry.inner,
          e.Placed refs schema.ns ∧ e.Sound refs schema.ns := by
    simp only [nested, List.forall_mem_append, List.forall_mem_flatMap,
      ElementEntry.allResolve_iff]
  constructor
  · intro h
    have helements (entry : ElementEntry) (hentry : entry ∈ schema.elements) :=
      (ElementEntry.resolves_iff refs schema.ns entry).1 (h.elements entry hentry).2
    have hinner := hnested.2
      ⟨fun entry hentry => (h.complexTypes entry hentry).2,
        fun entry hentry => (helements entry hentry).2⟩
    have hsound : ∀ entry ∈ schema.elements ++ schema.nested, entry.Sound refs schema.ns :=
      List.forall_mem_append.2
        ⟨fun entry hentry => (helements entry hentry).1, fun e he => (hinner e he).2⟩
    refine ⟨fun entry hentry => (h.elements entry hentry).1, h.simpleTypes, ?_,
      fun e he => (hinner e he).1, fun entry hentry => (hsound entry hentry).named⟩
    refine List.forall_mem_append.2 ⟨List.forall_mem_map.2 fun entry hentry =>
      (h.complexTypes entry hentry).1, fun head hhead => ?_⟩
    obtain ⟨entry, hentry, hhead⟩ := List.mem_filterMap.1 hhead
    exact (hsound entry hentry).anonymous head hhead
  · rintro ⟨honce, hsimple, hheads, hplaced, htyped⟩
    obtain ⟨hglobal, hanonymous⟩ := List.forall_mem_append.1 hheads
    have hsound (entry : ElementEntry) (hentry : entry ∈ schema.elements ++ schema.nested) :
        entry.Sound refs schema.ns :=
      ⟨htyped entry hentry, fun head hhead =>
        hanonymous head (List.mem_filterMap.2 ⟨entry, hentry, hhead⟩)⟩
    obtain ⟨hcomplex, hinner⟩ := hnested.1 fun e he =>
      ⟨hplaced e he, hsound e (List.mem_append_right _ he)⟩
    refine ⟨hsimple, fun entry hentry => ⟨List.forall_mem_map.1 hglobal entry hentry,
      hcomplex entry hentry⟩, fun entry hentry => ⟨honce entry hentry, ?_⟩⟩
    exact (ElementEntry.resolves_iff refs schema.ns entry).2
      ⟨hsound entry (List.mem_append_left _ hentry), hinner entry hentry⟩

/-- The declarations of a schema resolve in a manifest exactly when the schema is **consistent**. -/
theorem resolves_references_iff :
    schema.Resolves (m.references sourceName) ↔ schema.Consistent m := by
  rw [resolves_iff]
  simp only [References.Means, Manifest.isSome_type?_iff]
  constructor
  · rintro ⟨honce, hsimple, hheads, hplaced, htyped⟩
    refine ⟨honce, fun e he => (hplaced e he).bare, fun e he reference href => ?_,
      fun e he => (hplaced e he).named, hsimple, fun head hhead base hbase => ?_,
      fun head hhead entry hentry type htype => ?_, htyped⟩
    · exact Manifest.isSome_element?_iff.1 ((hplaced e he).referring reference href)
    · exact Manifest.isSome_type?_iff.1 ((hheads head hhead).base base hbase)
    · exact Manifest.isSome_type?_iff.1 ((hheads head hhead).attributes entry hentry type htype)
  · intro h
    refine ⟨h.once, h.restricting, fun head hhead => ⟨fun base hbase => ?_,
      fun entry hentry type htype => ?_⟩, fun e he => ⟨h.bare e he, fun reference href => ?_,
      h.named e he⟩, h.typed⟩
    · exact Manifest.isSome_type?_iff.2 (h.derived head hhead base hbase)
    · exact Manifest.isSome_type?_iff.2 (h.attributed head hhead entry hentry type htype)
    · exact Manifest.isSome_element?_iff.2 (h.referring e he reference href)

end SchemaEntry

namespace Manifest

/-- The declarations of a manifest resolve when those of each schema do. -/
theorem forall_tasks_iff : (∀ t ∈ m.tasks sourceName, t.1.Resolves refs) ↔
    ∀ schema ∈ m.schemas, schema.Resolves refs := by
  have hdeclarations : (∀ t ∈ m.tasks sourceName, t.1.Resolves refs) ↔
      ∀ d ∈ m.declarations sourceName, d.Resolves refs := by
    rw [← Declaration.fst_tasks SchemaSet.initial.size (m.declarations sourceName),
      List.forall_mem_map]
    rfl
  rw [hdeclarations, declarations, List.forall_mem_flatMap]
  refine forall₂_congr fun schema _ => ?_
  unfold SchemaEntry.declarations
  simp only [List.forall_mem_append, List.forall_mem_map]
  exact ⟨fun h => ⟨h.1.1, h.1.2, h.2⟩, fun h => ⟨⟨h.simpleTypes, h.complexTypes⟩, h.elements⟩⟩

/-- Exactly the **consistent** manifests have a schema set. -/
theorem exists_schemaSet_iff_consistent (m : Manifest) (sourceName : String) :
    (∃ set, m.schemaSet sourceName = .ok set) ↔ m.Consistent := by
  rw [exists_schemaSet_iff, forall_tasks_iff]
  exact forall₂_congr fun schema _ => SchemaEntry.resolves_references_iff

end Manifest

end SchemaBinding
