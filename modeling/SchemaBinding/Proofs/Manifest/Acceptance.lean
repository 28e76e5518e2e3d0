import Mathlib
import SchemaBinding.Proofs.Manifest.Consistency

/-! # Accepted manifests
Whether a manifest is accepted does not depend on the order of its tables: the schemas, their
declarations, the elements in a complex type at any depth and the attributes may all be shuffled. -/

namespace SchemaBinding

variable {m m' : Manifest} {schema schema' : SchemaEntry} {sourceName : String}

/-! ## Shuffled tables -/

/-- What two complex types say apart from their elements is the same up to **the order of their
attributes**. -/
structure TypeHead.Shuffled (head head' : TypeHead) : Prop where
  attributes : head.attributes.Perm head'.attributes
  same : { head' with attributes := head.attributes } = head

namespace ElementEntry

mutual

/-- Elements with the same entries in them **in another order**, at any depth. -/
inductive Shuffled : ElementEntry → ElementEntry → Prop
  | plain (head : ElementHead) : Shuffled (.plain head) (.plain head)
  | typed {head : ElementHead} {type type' : TypeHead} {elements elements' : List ElementEntry}
      (anonymous : type.Shuffled type') (inside : AllShuffled elements elements') :
      Shuffled (.typed head type elements) (.typed head type' elements')

/-- Lists with the same elements in another order, each of them shuffled in turn. -/
inductive AllShuffled : List ElementEntry → List ElementEntry → Prop
  | nil : AllShuffled [] []
  | cons {entry entry' : ElementEntry} {rest rest' : List ElementEntry}
      (first : Shuffled entry entry') (later : AllShuffled rest rest') :
      AllShuffled (entry :: rest) (entry' :: rest')
  | swap (entry next : ElementEntry) (rest : List ElementEntry) :
      AllShuffled (entry :: next :: rest) (next :: entry :: rest)
  | trans {entries entries' entries'' : List ElementEntry} (first : AllShuffled entries entries')
      (later : AllShuffled entries' entries'') : AllShuffled entries entries''

end

end ElementEntry

/-- Complex types with the same entries in them in another order. -/
structure ComplexTypeEntry.Shuffled (entry entry' : ComplexTypeEntry) : Prop where
  head : entry.head.Shuffled entry'.head
  elements : ElementEntry.AllShuffled entry.elements entry'.elements

/-- Schemas with the same declarations in another order. -/
structure SchemaEntry.Shuffled (schema schema' : SchemaEntry) : Prop where
  ns : schema'.ns = schema.ns
  package : schema'.package = schema.package
  location : schema'.location = schema.location
  elements : ElementEntry.AllShuffled schema.elements schema'.elements
  complexTypes : ∃ entries, List.Forall₂ ComplexTypeEntry.Shuffled schema.complexTypes entries ∧
    entries.Perm schema'.complexTypes
  simpleTypes : schema.simpleTypes.Perm schema'.simpleTypes

/-- Manifests with the same tables **in another order**, at any depth. -/
def Manifest.Shuffled (m m' : Manifest) : Prop :=
  ∃ schemas, List.Forall₂ SchemaEntry.Shuffled m.schemas schemas ∧ schemas.Perm m'.schemas

/-! ## Shuffling back -/

/-- What a complex type says apart from its elements can be shuffled back. -/
theorem TypeHead.Shuffled.symm {head head' : TypeHead} (h : head.Shuffled head') :
    head'.Shuffled head := by
  refine ⟨h.attributes.symm, ?_⟩
  rw [← h.same]

/-- What is shuffled and put in another order can be shuffled back. -/
theorem forall₂_perm_symm {α : Type} {R : α → α → Prop} (hsymm : ∀ a b, R a b → R b a)
    {items items' : List α} (h : ∃ same, List.Forall₂ R items same ∧ same.Perm items') :
    ∃ same, List.Forall₂ R items' same ∧ same.Perm items := by
  obtain ⟨same, hsame, hperm⟩ := h
  have hback : List.Forall₂ R same items := hsame.flip.imp fun a b => hsymm b a
  obtain ⟨back, hforall, hback⟩ := List.perm_comp_forall₂ hperm.symm hback
  exact ⟨back, hforall, hback⟩

namespace ElementEntry

mutual

/-- An element entry can be shuffled back. -/
theorem Shuffled.symm {entry entry' : ElementEntry} : entry.Shuffled entry' → entry'.Shuffled entry
  | .plain head => .plain head
  | .typed anonymous inside => .typed anonymous.symm inside.symm

/-- A list of entries can be shuffled back: an exchange is undone by another one. -/
theorem AllShuffled.symm {entries entries' : List ElementEntry} :
    AllShuffled entries entries' → AllShuffled entries' entries
  | .nil => .nil
  | .cons first later => .cons first.symm later.symm
  | .swap entry next rest => .swap next entry rest
  | .trans first later => .trans later.symm first.symm

end

end ElementEntry

/-- An entry of a complex type can be shuffled back. -/
theorem ComplexTypeEntry.Shuffled.symm {entry entry' : ComplexTypeEntry}
    (h : entry.Shuffled entry') :
    entry'.Shuffled entry := ⟨h.head.symm, h.elements.symm⟩

/-- A schema can be shuffled back. -/
theorem SchemaEntry.Shuffled.symm (h : schema.Shuffled schema') : schema'.Shuffled schema where
  ns := h.ns.symm
  package := h.package.symm
  location := h.location.symm
  elements := h.elements.symm
  complexTypes := forall₂_perm_symm (fun _ _ => ComplexTypeEntry.Shuffled.symm) h.complexTypes
  simpleTypes := h.simpleTypes.symm

/-- A manifest can be **shuffled back**. -/
theorem Manifest.Shuffled.symm (h : m.Shuffled m') : m'.Shuffled m :=
  forall₂_perm_symm (fun _ _ => SchemaEntry.Shuffled.symm) h

/-! ## Entries that say the same -/

namespace ElementEntry

/-- An element entry says **what another one says**, apart from the elements in it and the order of
its attributes. -/
structure Alike (entry entry' : ElementEntry) : Prop where
  head : entry'.head = entry.head
  anonymous : entry'.anonymous? = none → entry.anonymous? = none
  bare : entry.IsBare → entry'.IsBare
  typeHead : ∀ head' ∈ entry'.typeHead?, ∃ head ∈ entry.typeHead?, head.Shuffled head'

namespace Alike

variable {entry entry' entry'' : ElementEntry}

/-- An entry is like itself. -/
theorem refl (entry : ElementEntry) : entry.Alike entry :=
  ⟨rfl, id, id, fun head hhead => ⟨head, hhead, .refl _, rfl⟩⟩

/-- An entry like one that is like a third is like the third. -/
theorem trans (h : entry.Alike entry') (h' : entry'.Alike entry'') : entry.Alike entry'' where
  head := h'.head.trans h.head
  anonymous := h.anonymous ∘ h'.anonymous
  bare := h'.bare ∘ h.bare
  typeHead head'' hhead'' := by
    obtain ⟨head', hhead', hshuffled'⟩ := h'.typeHead head'' hhead''
    obtain ⟨head, hhead, hshuffled⟩ := h.typeHead head' hhead'
    refine ⟨head, hhead, hshuffled.attributes.trans hshuffled'.attributes, ?_⟩
    rw [← hshuffled.same, ← hshuffled'.same]

end Alike

/-- Each entry of one list is like some entry of another. -/
def Covered (entries entries' : List ElementEntry) : Prop :=
  ∀ entry' ∈ entries', ∃ entry ∈ entries, entry.Alike entry'

/-- Lists that cover others cover them in a row. -/
theorem Covered.append {entries entries' more more' : List ElementEntry}
    (h : Covered entries entries') (hmore : Covered more more') :
    Covered (entries ++ more) (entries' ++ more') := by
  intro entry' hentry'
  rcases List.mem_append.1 hentry' with hentry' | hentry'
  · obtain ⟨entry, hentry, halike⟩ := h entry' hentry'
    exact ⟨entry, List.mem_append_left _ hentry, halike⟩
  · obtain ⟨entry, hentry, halike⟩ := hmore entry' hentry'
    exact ⟨entry, List.mem_append_right _ hentry, halike⟩

/-- A shuffled element says the same as before. -/
theorem Shuffled.alike {entry entry' : ElementEntry} (h : entry.Shuffled entry') :
    entry.Alike entry' := by
  cases h with
  | plain head => exact .refl _
  | @typed head type type' _ _ anonymous inside =>
    refine ⟨rfl, fun h => by simp [anonymous?] at h, ?_, ?_⟩
    · rintro ⟨_, _, ⟨⟩⟩
    · intro head' hhead'
      obtain rfl : type' = head' := by simpa [typeHead?, anonymous?] using hhead'
      exact ⟨type, rfl, anonymous⟩

/-- One more entry is covered by one that it is like. -/
theorem Covered.cons {entry entry' : ElementEntry} {rest rest' : List ElementEntry}
    (h : entry.Alike entry') (hrest : Covered rest rest') :
    Covered (entry :: rest) (entry' :: rest') := by
  have hfirst : Covered [entry] [entry'] := fun e he => by
    obtain rfl := List.mem_singleton.1 he
    exact ⟨entry, List.mem_singleton_self _, h⟩
  exact hfirst.append hrest

/-- A list covers every part of itself. -/
theorem Covered.of_subset {entries entries' : List ElementEntry} (h : entries' ⊆ entries) :
    Covered entries entries' := fun entry hentry => ⟨entry, h hentry, .refl entry⟩

/-- What a covered list covers is covered. -/
theorem Covered.trans {entries entries' entries'' : List ElementEntry}
    (h : Covered entries entries')
    (h' : Covered entries' entries'') : Covered entries entries'' := by
  intro entry'' hentry''
  obtain ⟨entry', hentry', halike'⟩ := h' entry'' hentry''
  obtain ⟨entry, hentry, halike⟩ := h entry' hentry'
  exact ⟨entry, hentry, halike.trans halike'⟩

/-- Shuffled lists cover each other. -/
theorem AllShuffled.covered {entries entries' : List ElementEntry} :
    AllShuffled entries entries' → Covered entries entries'
  | .nil => .of_subset (List.Subset.refl _)
  | .cons first later => .cons first.alike later.covered
  | .swap entry next rest => .of_subset (List.Perm.swap entry next rest).subset
  | .trans first later => first.covered.trans later.covered

mutual

/-- What is **inside** of shuffled elements is covered as well. -/
theorem Shuffled.covered_inner {entry entry' : ElementEntry} :
    entry.Shuffled entry' → Covered entry.inner entry'.inner
  | .plain head => .of_subset (List.Subset.refl _)
  | .typed _ inside => by
    unfold inner
    exact inside.covered_nested

/-- Shuffled lists cover each other with all that is inside of them. -/
theorem AllShuffled.covered_nested {entries entries' : List ElementEntry} :
    AllShuffled entries entries' → Covered (nested entries) (nested entries')
  | .nil => .of_subset (List.Subset.refl _)
  | .cons first later => by
    unfold nested
    exact .cons first.alike (first.covered_inner.append later.covered_nested)
  | .swap entry next rest => by
    refine .of_subset fun e he => ?_
    simp only [nested, List.mem_cons, List.mem_append] at he ⊢
    tauto
  | .trans first later => first.covered_nested.trans later.covered_nested

end

/-- The elements inside of those of a list are covered without the list itself. -/
theorem AllShuffled.covered_flatMap_inner {entries entries' : List ElementEntry} :
    AllShuffled entries entries' → Covered (entries.flatMap inner) (entries'.flatMap inner)
  | .nil => .of_subset (List.Subset.refl _)
  | .cons first later => first.covered_inner.append later.covered_flatMap_inner
  | .swap entry next rest => .of_subset ((List.Perm.swap entry next rest).flatMap_right _).subset
  | .trans first later => first.covered_flatMap_inner.trans later.covered_flatMap_inner

end ElementEntry

namespace SchemaEntry.Shuffled

open ElementEntry (Covered)

/-- A shuffled complex type stands in the place of another one. -/
theorem exists_complexType (h : schema.Shuffled schema') {entry' : ComplexTypeEntry}
    (hentry' : entry' ∈ schema'.complexTypes) :
    ∃ entry ∈ schema.complexTypes, entry.Shuffled entry' := by
  obtain ⟨entries, hforall, hperm⟩ := h.complexTypes
  obtain ⟨i, hi, rfl⟩ := List.mem_iff_getElem.1 (hperm.symm.subset hentry')
  have hlt : i < schema.complexTypes.length := hforall.length_eq ▸ hi
  exact ⟨_, List.getElem_mem hlt, hforall.get hlt hi⟩

/-- The nested entries of a shuffled schema are **covered**. -/
theorem covered_nested (h : schema.Shuffled schema') : Covered schema.nested schema'.nested := by
  unfold nested
  refine Covered.append (fun e' he' => ?_) h.elements.covered_flatMap_inner
  obtain ⟨entry', hentry', he'⟩ := List.mem_flatMap.1 he'
  obtain ⟨entry, hentry, hshuffled⟩ := h.exists_complexType hentry'
  obtain ⟨e, he, halike⟩ := hshuffled.elements.covered_nested e' he'
  exact ⟨e, List.mem_flatMap.2 ⟨entry, hentry, he⟩, halike⟩

/-- The complex types of a shuffled schema, anonymous ones included, are those of the schema up to
the order of their attributes. -/
theorem exists_typeHead (h : schema.Shuffled schema') {head' : TypeHead}
    (hhead' : head' ∈ schema'.typeHeads) : ∃ head ∈ schema.typeHeads, head.Shuffled head' := by
  unfold typeHeads at hhead' ⊢
  rcases List.mem_append.1 hhead' with hhead' | hhead'
  · obtain ⟨entry', hentry', rfl⟩ := List.mem_map.1 hhead'
    obtain ⟨entry, hentry, hshuffled⟩ := h.exists_complexType hentry'
    exact ⟨entry.head, List.mem_append_left _ (List.mem_map_of_mem hentry), hshuffled.head⟩
  · obtain ⟨e', he', hhead'⟩ := List.mem_filterMap.1 hhead'
    obtain ⟨e, he, halike⟩ := h.elements.covered.append h.covered_nested e' he'
    obtain ⟨head, hhead, hshuffled⟩ := halike.typeHead head' hhead'
    exact ⟨head, List.mem_append_right _ (List.mem_filterMap.2 ⟨e, he, hhead⟩), hshuffled⟩

/-- A shuffled schema is **consistent** if the schema is, and the same is declared. -/
theorem consistent (h : schema.Shuffled schema') (hconsistent : schema.Consistent m)
    (helement : ∀ ns name, m.DeclaresElement ns name → m'.DeclaresElement ns name)
    (htype : ∀ ns name, m.DeclaresType ns name → m'.DeclaresType ns name) :
    schema'.Consistent m' := by
  have helement {reference : String} (hnames : m.NamesElement schema.ns reference) :
      m'.NamesElement schema'.ns reference := by
    obtain ⟨ns, name, hreads, hdeclares⟩ := hnames
    rw [h.ns]
    exact ⟨ns, name, hreads, helement ns name hdeclares⟩
  have htype {reference : String} (hnames : m.NamesType schema.ns reference) :
      m'.NamesType schema'.ns reference := by
    rw [h.ns]
    cases hnames with
    | builtin hwritten known => exact .builtin hwritten known
    | declared hbare reads known => exact .declared hbare reads (known.imp_left (htype _ _))
  -- every shuffled entry has one of the schema that it can be led back to
  have helements := h.elements.covered
  have hnested := h.covered_nested
  refine ⟨fun e' he' => ?once, fun e' he' => ?bare, fun e' he' => ?referring, fun e' he' => ?named,
    fun entry hentry => ?restricting, fun head' hhead' => ?derived, fun head' hhead' => ?attributed,
    fun e' he' => ?typed⟩
  case once =>
    obtain ⟨e, he, halike⟩ := helements e' he'
    rw [halike.head]
    exact hconsistent.once e he
  case bare =>
    obtain ⟨e, he, halike⟩ := hnested e' he'
    rw [halike.head]
    exact fun hreference => halike.bare (hconsistent.bare e he hreference)
  case referring =>
    obtain ⟨e, he, halike⟩ := hnested e' he'
    rw [halike.head]
    exact fun reference hreference => helement (hconsistent.referring e he reference hreference)
  case named =>
    obtain ⟨e, he, halike⟩ := hnested e' he'
    rw [halike.head]
    exact hconsistent.named e he
  case restricting => exact htype (hconsistent.restricting entry (h.simpleTypes.symm.subset hentry))
  case derived =>
    obtain ⟨head, hhead, hshuffled⟩ := h.exists_typeHead hhead'
    intro base hbase
    refine htype (hconsistent.derived head hhead base ?_)
    rw [← hshuffled.same]
    exact hbase
  case attributed =>
    obtain ⟨head, hhead, hshuffled⟩ := h.exists_typeHead hhead'
    exact fun entry hentry type hentryType => htype (hconsistent.attributed head hhead entry
      (hshuffled.attributes.symm.subset hentry) type hentryType)
  case typed =>
    obtain ⟨e, he, halike⟩ := helements.append hnested e' he'
    rw [halike.head]
    exact fun hplain type hentryType =>
      htype (hconsistent.typed e he (halike.anonymous hplain) type hentryType)

end SchemaEntry.Shuffled

namespace Manifest

/-- Every schema of a shuffled manifest is one of the manifest, shuffled. -/
theorem Shuffled.exists_schema (h : m.Shuffled m') (hschema' : schema' ∈ m'.schemas) :
    ∃ schema ∈ m.schemas, schema.Shuffled schema' := by
  obtain ⟨schemas, hforall, hperm⟩ := h
  obtain ⟨i, hi, rfl⟩ := List.mem_iff_getElem.1 (hperm.symm.subset hschema')
  have hlt : i < m.schemas.length := hforall.length_eq ▸ hi
  exact ⟨_, List.getElem_mem hlt, hforall.get hlt hi⟩

/-- A shuffled manifest declares the same elements. -/
theorem Shuffled.declaresElement (h : m.Shuffled m') {ns name : String}
    (hdeclares : m.DeclaresElement ns name) : m'.DeclaresElement ns name := by
  obtain ⟨schema, hschema, rfl, entry, hentry, rfl⟩ := hdeclares
  obtain ⟨schema', hschema', hshuffled⟩ := h.symm.exists_schema hschema
  obtain ⟨entry', hentry', halike⟩ := hshuffled.elements.covered entry hentry
  exact ⟨schema', hschema', hshuffled.ns.symm, entry', hentry', by rw [halike.head]⟩

/-- A shuffled manifest declares the same types. -/
theorem Shuffled.declaresType (h : m.Shuffled m') {ns name : String}
    (hdeclares : m.DeclaresType ns name) : m'.DeclaresType ns name := by
  obtain ⟨schema, hschema, rfl, hentry⟩ := hdeclares
  obtain ⟨schema', hschema', hshuffled⟩ := h.symm.exists_schema hschema
  refine ⟨schema', hschema', hshuffled.ns.symm, ?_⟩
  rcases hentry with ⟨entry, hentry, rfl⟩ | ⟨entry, hentry, rfl⟩
  · exact .inl ⟨entry, hshuffled.simpleTypes.symm.subset hentry, rfl⟩
  · obtain ⟨entry', hentry', hsame⟩ := hshuffled.exists_complexType hentry
    exact .inr ⟨entry', hentry', by rw [← hsame.head.same]⟩

/-- Consistency does not depend on **the order of the tables**. -/
theorem Shuffled.consistent_iff (h : m.Shuffled m') : m'.Consistent ↔ m.Consistent := by
  have hforward {m m' : Manifest} (h : m.Shuffled m') (hconsistent : m.Consistent) :
      m'.Consistent := by
    intro schema' hschema'
    obtain ⟨schema, hschema, hshuffled⟩ := h.exists_schema hschema'
    exact hshuffled.consistent (hconsistent schema hschema) (fun _ _ => h.declaresElement)
      fun _ _ => h.declaresType
  exact ⟨hforward h.symm, hforward h⟩

end Manifest

/-! ## Accepted texts -/

namespace SchemaSet

/-- Loading a text is reading it and building the schema set of the manifest. -/
theorem ofManifest_eq {text : String} (h : Manifest.ofText text = .ok m) (sourceName : String) :
    ofManifest text sourceName = m.schemaSet sourceName := by
  unfold ofManifest
  rw [h]

/-- Exactly the texts of **consistent** manifests have a schema set, so neither the order of the
tables nor the name of the source matters. -/
theorem exists_ofManifest_iff_consistent {text : String} (h : Manifest.ofText text = .ok m)
    (sourceName : String) :
    ((∃ set, ofManifest text sourceName = .ok set) ↔ m.Consistent) ∧
      ∀ text' m' sourceName', Manifest.ofText text' = .ok m' → m.Shuffled m' →
        ((∃ set, ofManifest text' sourceName' = .ok set) ↔
          ∃ set, ofManifest text sourceName = .ok set) := by
  have haccepted : (∃ set, ofManifest text sourceName = .ok set) ↔ m.Consistent := by
    rw [ofManifest_eq h]
    exact m.exists_schemaSet_iff_consistent sourceName
  refine ⟨haccepted, fun text' m' sourceName' h' hshuffled => ?_⟩
  rw [haccepted, ofManifest_eq h', m'.exists_schemaSet_iff_consistent, hshuffled.consistent_iff]

/-- A schema with one complex type. -/
def typeSchema (elements : List ElementEntry) : SchemaEntry :=
  { ns := "a", complexTypes := [⟨{ name := some "T" }, elements⟩] }

/-- A schema with one element, of a type of the other schema. -/
def elementSchema : SchemaEntry :=
  { ns := "b", elements := [.plain { name := some "x", type := some "\x7ba\x7dT" }] }

/-- A reference to the element of the other schema. -/
def crossReference : ElementEntry := .plain { reference := some "\x7bb\x7dx" }

/-- A local element. -/
def crossElement : ElementEntry := .plain { name := some "y" }

/-- Two schemas that refer to each other. -/
def crossText : String :=
  "schema=[\x7bnamespace=\"a\",complex_type=[\x7bname=\"T\",element=[" ++
    "\x7bref=\"\x7bb\x7dx\"\x7d,\x7bname=\"y\"\x7d]\x7d]\x7d," ++
    "\x7bnamespace=\"b\",element=[\x7bname=\"x\",type=\"\x7ba\x7dT\"\x7d]\x7d]"

/-- The same schemas, and the same elements in the complex type, in another order. -/
def shuffledCrossText : String :=
  "schema=[\x7bnamespace=\"b\",element=[\x7bname=\"x\",type=\"\x7ba\x7dT\"\x7d]\x7d," ++
    "\x7bnamespace=\"a\",complex_type=[\x7bname=\"T\",element=[" ++
    "\x7bname=\"y\"\x7d,\x7bref=\"\x7bb\x7dx\"\x7d]\x7d]\x7d]"

/-- The two orders of the schemas are shuffles of each other. -/
theorem shuffled_crossManifest :
    Manifest.Shuffled ⟨[typeSchema [crossReference, crossElement], elementSchema]⟩
      ⟨[elementSchema, typeSchema [crossElement, crossReference]]⟩ := by
  have htype : (typeSchema [crossReference, crossElement]).Shuffled
      (typeSchema [crossElement, crossReference]) :=
    ⟨rfl, rfl, rfl, .nil, ⟨[⟨{ name := some "T" }, [crossElement, crossReference]⟩],
      .cons ⟨⟨.refl _, rfl⟩, .swap _ _ _⟩ .nil, .refl _⟩, .refl _⟩
  have helement : elementSchema.Shuffled elementSchema :=
    ⟨rfl, rfl, rfl, .cons (.plain _) .nil, ⟨[], .nil, .nil⟩, .refl _⟩
  exact ⟨_, .cons htype (.cons helement .nil), .swap _ _ _⟩

set_option maxRecDepth 100000 in
/-- Two schemas that refer to each other are consistent, and accepted in both orders. -/
theorem exists_ofManifest_iff_consistent_crossText :
    (∃ set, ofManifest crossText "a.toml" = .ok set) ∧
      (∃ set, ofManifest shuffledCrossText "b.toml" = .ok set) ∧
      Manifest.Consistent ⟨[typeSchema [crossReference, crossElement], elementSchema]⟩ := by
  have hread : Manifest.ofText crossText =
      .ok ⟨[typeSchema [crossReference, crossElement], elementSchema]⟩ := by cbv
  have hread' : Manifest.ofText shuffledCrossText =
      .ok ⟨[elementSchema, typeSchema [crossElement, crossReference]]⟩ := by cbv
  obtain ⟨hconsistent, hshuffled⟩ := exists_ofManifest_iff_consistent hread "a.toml"
  have haccepted : (Manifest.schemaSet ⟨[typeSchema [crossReference, crossElement], elementSchema]⟩
      "a.toml").isOk = true := by decide +kernel
  have hset : ∃ set, ofManifest crossText "a.toml" = .ok set := by
    rw [← ofManifest_eq hread] at haccepted
    cases hset : ofManifest crossText "a.toml" with
    | ok set => exact ⟨set, rfl⟩
    | error e =>
      rw [hset] at haccepted
      cases haccepted
  exact ⟨hset, (hshuffled _ _ "b.toml" hread' shuffled_crossManifest).2 hset, hconsistent.1 hset⟩

end SchemaSet

end SchemaBinding
