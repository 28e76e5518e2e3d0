import SchemaBinding.Proofs.Manifest.Acceptance
import SchemaBinding.Proofs.Manifest.Ownership

/-! # What schema sets say
The schema set of a manifest says what the manifest says, and nothing else: its global components
are the built-in types and the declarations in their order, and all other components are parts of
those, each of them for an entry of its own. What a complex type without a base says about its
derivation is not kept. -/

namespace SchemaBinding

variable {m : Manifest} {set : SchemaSet} {sourceName text : String}

namespace SchemaSet

/-- The schema set of a text **says what the manifest says**: all entries are described in it, the
declarations stand in the order in which they are written, and no component is the part of two
entries. -/
theorem ofManifest_describes (hread : Manifest.ofText text = .ok m)
    (hset : ofManifest text sourceName = .ok set) :
    m.Describes sourceName set ∧
      (m.tasks sourceName).map Prod.fst = m.declarations sourceName ∧
      ((m.tasks sourceName).map Prod.snd).Pairwise (fun id id' => id.index < id'.index) ∧
      (∀ ns, set.listedIn ns = initial.listedIn ns ++
        ((m.tasks sourceName).filter fun t => t.1.ns == ns).map Prod.snd) ∧
      ∀ id ∈ set.ids, set.isLocal id = true → (set.ids.flatMap set.owned).count id = 1 := by
  rw [ofManifest_eq hread] at hset
  have hdescribes := m.describes_schemaSet hset
  refine ⟨hdescribes, Declaration.fst_tasks _ _, ?_, hdescribes.listedIn, fun id hid hlocal => ?_⟩
  · rw [Manifest.tasks, Declaration.snd_tasks]
    exact List.pairwise_map.2 List.pairwise_lt_range'
  · exact hdescribes.count_owned_of_local (index_lt_of_mem_ids hid) hlocal

/-- A manifest of two elements of one name; the second one has a complex type in which the first one
occurs twice. -/
def occurrencesText : String :=
  "schema=[\x7bnamespace=\"a\",element=[\x7bname=\"x\"\x7d,\x7bname=\"x\",complex_type=" ++
    "\x7belement=[\x7bref=\"x\",repeated=true\x7d,\x7bref=\"x\"\x7d," ++
    "\x7bname=\"y\"\x7d]\x7d\x7d]\x7d]"

set_option maxRecDepth 100000 in
/-- The manifest with two elements of one name is accepted, and described by its schema set. -/
theorem ofManifest_describes_occurrencesText : ∃ m set,
    Manifest.ofText occurrencesText = .ok m ∧ ofManifest occurrencesText "a.toml" = .ok set ∧
      m.Describes "a.toml" set := by
  have haccepted : (ofManifest occurrencesText "a.toml").isOk = true := by decide +kernel
  cases hset : ofManifest occurrencesText "a.toml" with
  | error e =>
    rw [hset] at haccepted
    cases haccepted
  | ok set =>
    obtain ⟨m, hread, -⟩ := exists_schemaSet_of_ofManifest hset
    exact ⟨m, set, hread, rfl, (ofManifest_describes hread hset).1⟩

/-! ## Derivations without a base -/

/-- A manifest of a complex type that is a restriction of nothing. -/
def baselessText : String :=
  "schema=[\x7bnamespace=\"a\",complex_type=[\x7bname=\"T\",derivation=\"restriction\"\x7d]\x7d]"

/-- What its text says about the complex type. -/
def baselessEntry : ComplexTypeEntry := ⟨{ name := some "T", derivation := .restriction }, []⟩

set_option maxRecDepth 100000 in
/-- The component of a complex type need **not** have the derivation of its table: without a base, a
restriction is loaded as an extension. -/
theorem exists_derivation_lost : ∃ m set type,
    Manifest.ofText baselessText = .ok m ∧ ofManifest baselessText "a.toml" = .ok set ∧
      (⟨"a", "a.toml", .complexType baselessEntry⟩, ⟨22⟩) ∈ m.tasks "a.toml" ∧
      (set.component ⟨22⟩).name = some "T" ∧ (set.component ⟨22⟩).asComplexType = some type ∧
      type.derivation ≠ baselessEntry.head.derivation := by
  have hread : Manifest.ofText baselessText =
      .ok ⟨[{ ns := "a", complexTypes := [baselessEntry] }]⟩ := by cbv
  have hloaded : ((Manifest.schemaSet ⟨[{ ns := "a", complexTypes := [baselessEntry] }]⟩
      "a.toml").toOption.map fun set => ((set.component ⟨22⟩).name,
        (set.component ⟨22⟩).asComplexType)) = some (some "T", some {}) := by
    decide +kernel
  rw [← ofManifest_eq hread] at hloaded
  cases hset : ofManifest baselessText "a.toml" with
  | error e =>
    rw [hset] at hloaded
    cases hloaded
  | ok set =>
    rw [hset] at hloaded
    obtain ⟨hname, htype⟩ := Prod.mk.inj (Option.some.inj hloaded)
    refine ⟨_, set, {}, hread, rfl, ?_, hname, htype, by decide⟩
    exact Declaration.mem_tasks.2 ⟨0, rfl, rfl⟩

end SchemaSet

end SchemaBinding
