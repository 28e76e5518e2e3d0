import Mathlib
import SchemaBinding.Proofs.Renaming.Outcome
import SchemaBinding.Proofs.Reordering.Document

/-! # Compiling rearranged documents
The order in which a manifest lists its schemas, and the declarations of each of them, does not
matter: it is accepted in any order or in none, it compiles in any order or in none, and the models
that come of it differ in the positions of their packages, classes and wrappers only
(`Compilation.compileManifest_rearranged`). In particular, the same classes are generated by their
full names (`Compilation.compileManifest_perm_fullNames`). -/

namespace SchemaBinding

open Toml (Value)

variable {m m' : Manifest} {text text' name : String} {v w : Value}

/-- A manifest with a schema set that is renamed, or none that is accepted. -/
theorem Manifest.Rearranged.ofManifest (h : Rearranged v w) (hv : Value.ofText? text = some v)
    (hw : Value.ofText? text' = some w) (hdistinct : ∀ m, Manifest.decode v = .ok m → m.Distinct)
    (name : String) :
    (∃ set set' φ, SchemaSet.ofManifest text name = .ok set ∧
        SchemaSet.ofManifest text' name = .ok set' ∧ set.Renamed φ set' ∧
        (set.Loaded fun _ => True) ∧ set'.Loaded fun _ => True) ∨
      ∃ e e', SchemaSet.ofManifest text name = .error e ∧
        SchemaSet.ofManifest text' name = .error e' := by
  have hdecode := agree_decode h
  unfold SchemaSet.ofManifest Manifest.ofText Toml.decodeText
  rw [hv, hw]
  dsimp only
  generalize hm : Manifest.decode v = r, Manifest.decode w = r' at hdecode hdistinct
  cases hdecode with
  | error => exact .inr ⟨_, _, rfl, rfl⟩
  | @ok m m' reordered =>
    rcases reordered.schemaSet (hdistinct m rfl) name with
      ⟨set, set', φ, hset, hset', hrenamed⟩ | ⟨e, e', he, he'⟩
    · exact .inl ⟨set, set', φ, hset, hset', hrenamed,
        Manifest.loaded_of_schemaSet (fun _ _ => trivial) hset,
        Manifest.loaded_of_schemaSet (fun _ _ => trivial) hset'⟩
    · exact .inr ⟨e, e', he, he'⟩

namespace Compilation

variable {c : Compilation}

/-- A rearranged manifest compiles to a **renamed** model, or neither of the two compiles. -/
theorem compileManifest_cases (hstandard : c.strategy = .standard)
    (hv : Value.ofText? text = some v) (hw : Value.ofText? text' = some w)
    (hrearranged : Manifest.Rearranged v w)
    (hdistinct : ∀ m, Manifest.decode v = .ok m → m.Distinct) (name : String) :
    (∃ o o' σ, c.compileManifest text name = .ok o ∧ c.compileManifest text' name = .ok o' ∧
        o.model.Renamed σ o'.model) ∨
      ∃ e e', c.compileManifest text name = .error e ∧
        c.compileManifest text' name = .error e' := by
  unfold compileManifest
  rcases hrearranged.ofManifest hv hw hdistinct name with
    ⟨set, set', φ, hset, hset', hrenamed, hloaded, hloaded'⟩ | ⟨e, e', he, he'⟩
  · have hx : ({ c with schema := set } : Compilation).context.Renamed φ
        ({ c with schema := set' } : Compilation).context := ⟨hrenamed, rfl, rfl⟩
    have houtcome := outcome_rename hx hstandard hstandard hloaded hloaded'
    rw [hset, hset']
    unfold compile
    dsimp only
    rcases houtcome with ⟨o, o', σ, ho, ho', hσ⟩ | ⟨e, e', he, he'⟩
    · rw [ho, ho']
      exact .inl ⟨o, o', σ, rfl, rfl, hσ⟩
    · rw [he, he']
      exact .inr ⟨_, _, rfl, rfl⟩
  · rw [he, he']
    exact .inr ⟨_, _, rfl, rfl⟩

/-- **The order of declarations does not matter.** A manifest whose namespaces have one schema each,
with elements and types of different names, may list its schemas and their declarations in another
order: it is accepted if it was accepted, compiled if it was compiled, and then to a model that is
renamed. -/
theorem compileManifest_rearranged (hstandard : c.strategy = .standard)
    (hv : Value.ofText? text = some v) (hw : Value.ofText? text' = some w)
    (hrearranged : Manifest.Rearranged v w)
    (hdistinct : ∀ m, Manifest.decode v = .ok m → m.Distinct) :
    ((∃ set, SchemaSet.ofManifest text name = .ok set) ↔
        ∃ set, SchemaSet.ofManifest text' name = .ok set) ∧
      ((∃ o, c.compileManifest text name = .ok o) ↔
        ∃ o, c.compileManifest text' name = .ok o) ∧
      ∀ o o', c.compileManifest text name = .ok o → c.compileManifest text' name = .ok o' →
        ∃ σ, o.model.Renamed σ o'.model := by
  constructor
  · rcases hrearranged.ofManifest hv hw hdistinct name with
      ⟨set, set', φ, hset, hset', -⟩ | ⟨e, e', he, he'⟩
    · rw [hset, hset']
      simp
    · rw [he, he']
      simp
  · rcases compileManifest_cases hstandard hv hw hrearranged hdistinct name with
      ⟨o, o', σ, ho, ho', hσ⟩ | ⟨e, e', he, he'⟩
    · rw [ho, ho']
      refine ⟨by simp, ?_⟩
      rintro _ _ ⟨⟩ ⟨⟩
      exact ⟨σ, hσ⟩
    · rw [he, he']
      refine ⟨by simp, ?_⟩
      rintro _ _ ⟨⟩

/-- A manifest of two elements and a type, and of a namespace without declarations. -/
def pairText : String :=
  "schema = [\x7bnamespace = \"a\", " ++
    "element = [\x7bname = \"p\", type = \"T\"\x7d, \x7bname = \"q\"\x7d], " ++
    "complex_type = [\x7bname = \"T\"\x7d]\x7d, \x7bnamespace = \"b\"\x7d]"

/-- The same manifest, read backwards. -/
def backwardText : String :=
  "schema = [\x7bnamespace = \"b\"\x7d, " ++
    "\x7bnamespace = \"a\", complex_type = [\x7bname = \"T\"\x7d], " ++
    "element = [\x7bname = \"q\"\x7d, \x7bname = \"p\", type = \"T\"\x7d]\x7d]"

/-- An inline table that says a name. -/
def namedTable (name : String) (rest : Toml.Entries) : Value :=
  .table .inline (("name", .string name) :: rest)

/-- The entries of a schema of elements and types. -/
def schemaEntries (elements types : List Value) : Toml.Entries :=
  [("namespace", .string "a"), ("element", .array elements), ("complex_type", .array types)]

/-- The schema of two elements and a type. -/
def pairSchema : Value :=
  .table .inline (schemaEntries
    [namedTable "p" [("type", .string "T")], namedTable "q" []] [namedTable "T" []])

/-- The same schema, read backwards. -/
def backwardSchema : Value :=
  .table .inline [("namespace", .string "a"), ("complex_type", .array [namedTable "T" []]),
    ("element", .array [namedTable "q" [], namedTable "p" [("type", .string "T")]])]

/-- The document of a list of schemas. -/
def schemasDocument (schemas : List Value) : Value := .table .header [("schema", .array schemas)]

/-- The schema of a namespace without declarations. -/
def bareSchema : Value := .table .inline [("namespace", .string "b")]

/-- The schema of two elements and a type is rearranged by reading it backwards. -/
theorem rearranged_pairSchema : SchemaEntry.Rearranged pairSchema backwardSchema := by
  refine .table ⟨schemaEntries [namedTable "q" [], namedTable "p" [("type", .string "T")]]
    [namedTable "T" []], ?values, .inr ⟨by decide, .cons _ (.swap ..)⟩⟩
  exact .cons ⟨rfl, .inl rfl⟩ (.cons ⟨rfl, .inr ⟨by decide, _, _, rfl, rfl, .swap ..⟩⟩
    (.cons ⟨rfl, .inl rfl⟩ .nil))

/-- So is the document with that schema. -/
theorem rearranged_schemasDocument : Manifest.Rearranged (schemasDocument [pairSchema, bareSchema])
    (schemasDocument [bareSchema, backwardSchema]) := by
  refine .table ⟨[("schema", .array [bareSchema, backwardSchema])],
    .cons ⟨rfl, .inr ⟨rfl, ?_⟩⟩ .nil, .inl rfl⟩
  exact ⟨_, _, _, rfl, rfl, .cons rearranged_pairSchema (.cons (.same _) .nil), .swap ..⟩

/-- Its declarations are distinct. -/
theorem distinct_schemasDocument {m : Manifest}
    (h : Manifest.decode (schemasDocument [pairSchema, bareSchema]) = .ok m) : m.Distinct := by
  have hall : (Manifest.decode (schemasDocument [pairSchema, bareSchema])).toOption.all (fun m =>
      decide (m.schemas.map SchemaEntry.ns).Nodup && m.schemas.all fun schema =>
        decide (schema.elements.map fun entry => entry.head.name.getD "").Nodup &&
          decide (schema.simpleTypes.map SimpleTypeEntry.name ++
            schema.complexTypes.map fun entry => entry.head.name.getD "").Nodup) = true := by
    decide +kernel
  rw [h] at hall
  obtain ⟨hnamespaces, hschemas⟩ := Bool.and_eq_true_iff.1 hall
  refine ⟨of_decide_eq_true hnamespaces, fun schema hschema => ?_⟩
  obtain ⟨helements, htypes⟩ := Bool.and_eq_true_iff.1 (List.all_eq_true.1 hschemas schema hschema)
  exact ⟨of_decide_eq_true helements, of_decide_eq_true htypes⟩

set_option maxRecDepth 100000 in
/-- Read backwards, the manifest is accepted as well, and compiles to the same model up to a
renaming. -/
theorem compileManifest_rearranged_pairText :
    (∃ set, SchemaSet.ofManifest pairText "pair.toml" = .ok set) ∧
      Value.ofText? pairText = some (schemasDocument [pairSchema, bareSchema]) ∧
      Value.ofText? backwardText = some (schemasDocument [bareSchema, backwardSchema]) ∧
      ((∃ set, SchemaSet.ofManifest pairText "pair.toml" = .ok set) ↔
        ∃ set, SchemaSet.ofManifest backwardText "pair.toml" = .ok set) ∧
      ((∃ o, compileManifest {} pairText "pair.toml" = .ok o) ↔
        ∃ o, compileManifest {} backwardText "pair.toml" = .ok o) ∧
      ∀ o o', compileManifest {} pairText "pair.toml" = .ok o →
        compileManifest {} backwardText "pair.toml" = .ok o' → ∃ σ, o.model.Renamed σ o'.model := by
  have hread : Value.ofText? pairText = some (schemasDocument [pairSchema, bareSchema]) := by cbv
  have hread' : Value.ofText? backwardText =
      some (schemasDocument [bareSchema, backwardSchema]) := by cbv
  have haccepted : (SchemaSet.ofManifest pairText "pair.toml").isOk = true := by
    decide +kernel
  refine ⟨?_, hread, hread', compileManifest_rearranged (c := {}) rfl hread hread'
    rearranged_schemasDocument fun _ => distinct_schemasDocument⟩
  cases hset : SchemaSet.ofManifest pairText "pair.toml" with
  | ok set => exact ⟨set, rfl⟩
  | error e =>
    rw [hset] at haccepted
    cases haccepted

/-- The classes of a rearranged manifest have the same **full names**, each as often. -/
theorem compileManifest_perm_fullNames {o o' : Outcome} (hstandard : c.strategy = .standard)
    (hv : Value.ofText? text = some v) (hw : Value.ofText? text' = some w)
    (hrearranged : Manifest.Rearranged v w)
    (hdistinct : ∀ m, Manifest.decode v = .ok m → m.Distinct)
    (h : c.compileManifest text name = .ok o) (h' : c.compileManifest text' name = .ok o') :
    (o.model.classIds.map o.model.fullName).Perm (o'.model.classIds.map o'.model.fullName) := by
  rcases compileManifest_cases hstandard hv hw hrearranged hdistinct name with
    ⟨u, u', σ, hu, hu', hσ⟩ | ⟨e, e', he, -⟩
  · rw [h] at hu
    rw [h'] at hu'
    cases hu
    cases hu'
    exact hσ.perm_fullNames
  · rw [h] at he
    cases he

end Compilation

end SchemaBinding
