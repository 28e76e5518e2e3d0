import SchemaBinding.Proofs.Cutting
import SchemaBinding.Proofs.Manifest.Loaded

/-! # Names in manifests
A reference is written in one of three ways: as the name of a built-in type behind its prefix, as a
name behind its namespace in braces, or as a bare name, which belongs to the enclosing namespace. It
names something when something of that name is declared anywhere in the manifest, or built in. -/

namespace SchemaBinding

/-! ## How references are written -/

/-- A reference **reads** as a name of a namespace, as seen from an enclosing one: it is qualified
by the namespace in braces, or else a bare name. -/
inductive Reads (enclosing reference : String) : (ns name : String) → Prop
  | qualified {ns name : String} (unbraced : '\x7d' ∉ ns.toList)
      (written : reference = "\x7b" ++ ns ++ "\x7d" ++ name) : Reads enclosing reference ns name
  | bare (unqualified : ∀ ns name, reference ≠ "\x7b" ++ ns ++ "\x7d" ++ name) :
      Reads enclosing reference enclosing reference

/-- The characters of a qualified name: the namespace in braces, and the name. -/
theorem toList_qualified (ns name : String) :
    ("\x7b" ++ ns ++ "\x7d" ++ name).toList = '\x7b' :: (ns.toList ++ '\x7d' :: name.toList) := by
  simp

/-- A reference reads as what it is **split** into. -/
theorem reads_iff {enclosing reference ns name : String} :
    Reads enclosing reference ns name ↔
      Loading.splitQualified enclosing reference = (ns, name) := by
  unfold Loading.splitQualified
  have hbare (h : ∀ ns name, reference ≠ "\x7b" ++ ns ++ "\x7d" ++ name) :
      Reads enclosing reference ns name ↔ (enclosing, reference) = (ns, name) := by
    constructor
    · rintro (⟨-, hwritten⟩ | -)
      · exact absurd hwritten (h ns name)
      · rfl
    · rintro ⟨⟩
      exact .bare h
  split
  · rename_i rest hreference
    cases hcut : Text.cutAt '\x7d' rest with
    | none =>
      -- a brace that is never closed is part of a bare name
      refine hbare fun ns name hwritten => Text.cutAt_eq_none.1 hcut ?_
      rw [hwritten, toList_qualified] at hreference
      rw [← (List.cons.inj hreference).2]
      simp
    | some pieces =>
      obtain ⟨inner, localName⟩ := pieces
      obtain ⟨hinner, rfl⟩ := Text.cutAt_eq_some.1 hcut
      dsimp only
      constructor
      · rintro (⟨hns, hwritten⟩ | hunqualified)
        -- the namespace ends at the first closing brace, so there is only one way to read it
        · rw [hwritten, toList_qualified] at hreference
          have hcut' := Text.cutAt_eq_some.2 ⟨hns, (List.cons.inj hreference).2.symm⟩
          rw [hcut] at hcut'
          obtain ⟨rfl, rfl⟩ := Prod.mk.inj (Option.some.inj hcut')
          simp
        · refine absurd ?_ (hunqualified (String.ofList inner) (String.ofList localName))
          rw [← String.toList_inj, hreference, toList_qualified]
          simp
      · rintro ⟨⟩
        refine .qualified (by simpa using hinner) ?_
        rw [← String.toList_inj, hreference, toList_qualified]
        simp
  · rename_i hother
    refine hbare fun ns name hwritten => hother (ns.toList ++ '\x7d' :: name.toList) ?_
    rw [hwritten, toList_qualified]

/-! ## What is declared -/

namespace Manifest

variable {m : Manifest} {sourceName enclosing reference ns name : String}

/-- A global element of a name is **declared** somewhere in the manifest. An element without a name
goes by the empty one. -/
def DeclaresElement (m : Manifest) (ns name : String) : Prop :=
  ∃ schema ∈ m.schemas, schema.ns = ns ∧
    ∃ entry ∈ schema.elements, entry.head.name.getD "" = name

/-- A global type of a name, simple or complex, is **declared** somewhere in the manifest. -/
def DeclaresType (m : Manifest) (ns name : String) : Prop :=
  ∃ schema ∈ m.schemas, schema.ns = ns ∧
    ((∃ entry ∈ schema.simpleTypes, entry.name = name) ∨
      ∃ entry ∈ schema.complexTypes, entry.head.name.getD "" = name)

/-- A type of XML Schema that is there before any manifest. -/
def IsSeeded (ns name : String) : Prop :=
  ns = xmlSchemaNs ∧ (name = "anyType" ∨ name ∈ builtinSimpleTypes)

/-- A reference **names an element** of the manifest. -/
def NamesElement (m : Manifest) (enclosing reference : String) : Prop :=
  ∃ ns name, Reads enclosing reference ns name ∧ m.DeclaresElement ns name

/-- A reference **names a type**: a built-in simple type behind its prefix, or a global type of the
manifest or of XML Schema. A reference with the prefix is never a bare name. -/
inductive NamesType (m : Manifest) (enclosing reference : String) : Prop
  | builtin {name : String} (prefixed : reference = "xs:" ++ name)
      (known : name ∈ builtinSimpleTypes)
  | declared {ns name : String} (unprefixed : ∀ name, reference ≠ "xs:" ++ name)
      (reads : Reads enclosing reference ns name)
      (known : m.DeclaresType ns name ∨ IsSeeded ns name)

/-- Something is found when a declaration of the manifest has its key. -/
theorem isSome_declared?_iff {isElement : Bool} :
    (m.declared? sourceName isElement ns name).isSome = true ↔
      ∃ d ∈ m.declarations sourceName, d.key = (ns, isElement, name) := by
  unfold declared?
  rw [Option.isSome_map, List.find?_isSome]
  constructor
  · rintro ⟨⟨d, id⟩, ht, hkey⟩
    refine ⟨d, ?_, by simpa using hkey⟩
    rw [← Declaration.fst_tasks SchemaSet.initial.size (m.declarations sourceName)]
    exact List.mem_map_of_mem ht
  · rintro ⟨d, hd, hkey⟩
    rw [← Declaration.fst_tasks SchemaSet.initial.size (m.declarations sourceName)] at hd
    obtain ⟨t, ht, rfl⟩ := List.mem_map.1 hd
    exact ⟨t, ht, by simpa using hkey⟩

/-- The declarations of a manifest are the types and elements at the top of its schemas. -/
theorem mem_declarations {d : Declaration} : d ∈ m.declarations sourceName ↔
    ∃ schema ∈ m.schemas,
      (∃ entry ∈ schema.simpleTypes,
        ⟨schema.ns, schema.location.getD sourceName, .simpleType entry⟩ = d) ∨
      (∃ entry ∈ schema.complexTypes,
        ⟨schema.ns, schema.location.getD sourceName, .complexType entry⟩ = d) ∨
      ∃ entry ∈ schema.elements,
        ⟨schema.ns, schema.location.getD sourceName, .element entry⟩ = d := by
  unfold declarations SchemaEntry.declarations
  simp only [List.mem_flatMap, List.mem_append, List.mem_map, or_assoc]

/-- An element is found by a name exactly if the manifest declares one. -/
theorem isSome_declared?_element :
    (m.declared? sourceName true ns name).isSome = true ↔ m.DeclaresElement ns name := by
  rw [isSome_declared?_iff]
  unfold DeclaresElement
  constructor
  · rintro ⟨d, hd, hkey⟩
    obtain ⟨schema, hschema, ⟨entry, -, rfl⟩ | ⟨entry, -, rfl⟩ | ⟨entry, hentry, rfl⟩⟩ :=
      mem_declarations.1 hd
    · simp [Declaration.key, Declaration.isElement] at hkey
    · simp [Declaration.key, Declaration.isElement] at hkey
    · simp only [Declaration.key, Declaration.isElement, Declaration.name, Prod.mk.injEq,
        true_and] at hkey
      exact ⟨schema, hschema, hkey.1, entry, hentry, hkey.2⟩
  · rintro ⟨schema, hschema, rfl, entry, hentry, rfl⟩
    exact ⟨_, mem_declarations.2 ⟨schema, hschema, .inr (.inr ⟨entry, hentry, rfl⟩)⟩, rfl⟩

/-- A type is found by a name exactly if the manifest declares one. -/
theorem isSome_declared?_type :
    (m.declared? sourceName false ns name).isSome = true ↔ m.DeclaresType ns name := by
  rw [isSome_declared?_iff]
  unfold DeclaresType
  constructor
  · rintro ⟨d, hd, hkey⟩
    obtain ⟨schema, hschema, ⟨entry, hentry, rfl⟩ | ⟨entry, hentry, rfl⟩ | ⟨entry, -, rfl⟩⟩ :=
      mem_declarations.1 hd
    · simp only [Declaration.key, Declaration.isElement, Declaration.name, Prod.mk.injEq,
        true_and] at hkey
      exact ⟨schema, hschema, hkey.1, .inl ⟨entry, hentry, hkey.2⟩⟩
    · simp only [Declaration.key, Declaration.isElement, Declaration.name, Prod.mk.injEq,
        true_and] at hkey
      exact ⟨schema, hschema, hkey.1, .inr ⟨entry, hentry, hkey.2⟩⟩
    · simp [Declaration.key, Declaration.isElement] at hkey
  · rintro ⟨schema, hschema, rfl, ⟨entry, hentry, rfl⟩ | ⟨entry, hentry, rfl⟩⟩
    · exact ⟨_, mem_declarations.2 ⟨schema, hschema, .inl ⟨entry, hentry, rfl⟩⟩, rfl⟩
    · exact ⟨_, mem_declarations.2 ⟨schema, hschema, .inr (.inl ⟨entry, hentry, rfl⟩)⟩, rfl⟩

/-! ## What references name -/

/-- The types that are there before any manifest. -/
theorem isSome_findGlobal?_initial :
    (SchemaSet.initial.findGlobal? ns name true).isSome = true ↔ IsSeeded ns name := by
  rw [SchemaSet.indexed_initial.findGlobal?_eq, List.find?_isSome]
  -- a lookup reads the headings only, and those of the built-in types are known
  have hheadings : SchemaSet.initial.ids.map (fun id => (SchemaSet.initial.component id).heading) =
      ("anyType" :: builtinSimpleTypes).map fun name =>
        ⟨some name, xmlSchemaNs, true, false, false⟩ := by
    decide +kernel
  have hfound := congrArg (fun headings => ∃ h : Heading, h ∈ headings ∧
    h.answers ns name true = true) hheadings
  simp only [List.mem_map, exists_exists_and_eq_and] at hfound
  rw [hfound]
  constructor
  · rintro ⟨known, hknown, hanswers⟩
    simp only [Heading.answers, Bool.and_eq_true, beq_iff_eq, Option.some.injEq] at hanswers
    exact ⟨hanswers.1.2.symm, List.mem_cons.1 (hanswers.2.1.1 ▸ hknown)⟩
  · rintro ⟨rfl, hname⟩
    exact ⟨name, List.mem_cons.2 hname, by simp [Heading.answers]⟩

/-- The built-in types are found by their names, and nothing else is. -/
theorem isSome_builtin? : (SchemaSet.builtin? name).isSome = true ↔ name ∈ builtinSimpleTypes := by
  unfold SchemaSet.builtin?
  rw [Option.isSome_map, List.isSome_idxOf?]

/-- A reference to an element means something when it **names one**. -/
theorem isSome_element?_iff :
    ((m.references sourceName).element? enclosing reference).isSome = true ↔
      m.NamesElement enclosing reference := by
  unfold references NamesElement
  simp only [reads_iff]
  rw [isSome_declared?_element]
  constructor
  · intro h
    exact ⟨_, _, rfl, h⟩
  · rintro ⟨ns, name, hreads, h⟩
    rwa [hreads]

/-- A reference to a type means something when it **names one**. -/
theorem isSome_type?_iff :
    ((m.references sourceName).type? enclosing reference).isSome = true ↔
      m.NamesType enclosing reference := by
  unfold references
  dsimp only
  have hprefixed (name : String) : ("xs:" ++ name).toList = ['x', 's', ':'] ++ name.toList := by
    simp
  cases hstart : Text.afterStart ['x', 's', ':'] reference.toList with
  | some rest =>
    -- behind the prefix only built-in types are looked up
    have hreference : reference = "xs:" ++ String.ofList rest := by
      rw [← String.toList_inj, Text.afterStart_eq_some.1 hstart]
      simp
    dsimp only
    rw [isSome_builtin?]
    constructor
    · exact .builtin hreference
    · rintro (⟨hwritten, hknown⟩ | hunprefixed)
      · rw [hreference] at hwritten
        rw [← String.toList_inj, hprefixed, hprefixed, List.append_right_inj,
          String.toList_inj] at hwritten
        rwa [hwritten]
      · exact absurd hreference (hunprefixed _)
  | none =>
    have hunprefixed (name : String) : reference ≠ "xs:" ++ name := by
      rintro rfl
      rw [hprefixed, Text.afterStart_eq_some.2 rfl] at hstart
      cases hstart
    dsimp only
    -- any other reference is split, and the built-in types go first
    rw [Option.isSome_or, Bool.or_eq_true, isSome_findGlobal?_initial, isSome_declared?_type,
      or_comm]
    constructor
    · exact .declared hunprefixed (reads_iff.2 rfl)
    · rintro (⟨hwritten, -⟩ | ⟨-, hreads, hknown⟩)
      · exact absurd hwritten (hunprefixed _)
      · rwa [reads_iff.1 hreads]

end Manifest

end SchemaBinding
