import SchemaBinding.Proofs.Acknowledging.Basic
import SchemaBinding.Proofs.Final
import SchemaBinding.Proofs.Manifest.Parts

/-! # Outcomes of manifests
The outcome of a manifest is that of a run over its schema set, which has come to its end in a final
state. In such a set only elements customize their properties, and the complex types that elements
declare have no name. -/

namespace SchemaBinding

open Resolver (State)

/-! ## What manifests customize -/

namespace Manifest.Describes

variable {m : Manifest} {set : SchemaSet} {sourceName : String} {id e : ComponentId}

/-- Built-in types have no customizations, and no element declares them. -/
theorem plain_of_builtin (h : id.index < SchemaSet.initial.size) :
    (SchemaSet.initial.component id).custom = {} ∧
      (SchemaSet.initial.component id).declaringElement? = none := by
  have hall : ∀ id ∈ SchemaSet.initial.ids, (SchemaSet.initial.component id).custom = {} ∧
      (SchemaSet.initial.component id).declaringElement? = none := by
    decide +kernel
  exact hall id (SchemaSet.mem_ids h)

/-- Only **elements** customize the properties for them. -/
theorem isElement_of_customizesProperty (h : m.Describes sourceName set)
    (hid : set.customizesProperty id = true) : (set.component id).isElement = true := by
  have hsize : id.index < set.size := by
    refine Nat.lt_of_not_le fun hbeyond => ?_
    rw [SchemaSet.customizesProperty, SchemaSet.component_of_size_le hbeyond] at hid
    cases hid
  unfold SchemaSet.customizesProperty at hid
  -- only the tables of elements have an entry for the property
  cases h.role hsize with
  | builtin index component =>
    rw [component, (plain_of_builtin index).1] at hid
    cases hid
  | declaration _ _ describes =>
    cases describes with
    | simpleType _ _ component | complexType _ _ _ _ component =>
      rw [component] at hid
      cases hid
    | element _ _ _ component =>
      rw [component]
      rfl
  | part part =>
    cases part with
    | localElement _ component =>
      rw [component]
      rfl
    | anonymousType _ _ _ _ _ component | localAttribute _ component =>
      rw [component] at hid
      cases hid

/-- The complex types that elements declare have **no name**. -/
theorem name_of_declaringElement? (h : m.Describes sourceName set)
    (hid : (set.component id).declaringElement? = some e) : (set.component id).name = none := by
  have hsize : id.index < set.size := by
    refine Nat.lt_of_not_le fun hbeyond => ?_
    rw [SchemaSet.component_of_size_le hbeyond] at hid
    cases hid
  cases h.role hsize with
  | builtin index component =>
    rw [component, (plain_of_builtin index).2] at hid
    cases hid
  | declaration _ _ describes =>
    cases describes with
    | simpleType _ _ component | complexType _ _ _ _ component | element _ _ _ component =>
      rw [component] at hid
      cases hid
  | part part =>
    cases part with
    | anonymousType _ _ _ _ _ component =>
      rw [component]
      rfl
    | localElement _ component | localAttribute _ component =>
      rw [component] at hid
      cases hid

end Manifest.Describes

/-! ## Final states of manifests -/

namespace Compilation

variable {c : Compilation} {text name : String} {o : Outcome}

/-- A manifest that compiles is **described** by the schema set of its outcome, and the run over
that set ends in a **final** state. -/
theorem exists_final_of_compileManifest (hstandard : c.strategy = .standard)
    (hcompile : c.compileManifest text name = .ok o) :
    (∃ m : Manifest, m.Describes name o.schema) ∧
      ∃ s, ({ c with schema := o.schema } : Compilation).run = (.ok (), s) ∧ s.model = o.model ∧
        s.reports = o.reports ∧
        s.Final ({ c with schema := o.schema } : Compilation).context
          ({ c with schema := o.schema } : Compilation).declarations := by
  obtain ⟨hmanifest, s, hrun, houtcome⟩ := exists_run_of_compileManifest hcompile
  obtain ⟨m, -, hset⟩ := SchemaSet.exists_schemaSet_of_ofManifest hmanifest
  have hloaded := SchemaSet.loaded_of_ofManifest hmanifest
  refine ⟨⟨m, m.describes_schemaSet hset⟩, s, hrun, ?_, ?_,
    final_of_run (c := { c with schema := o.schema }) hstandard hloaded hrun⟩
  · rw [houtcome]
  · rw [houtcome]

/-- What a test finds true of the outcome of a manifest is true of one that there is. -/
theorem exists_of_toOption_any {test : Outcome → Bool}
    (h : (c.compileManifest text name).toOption.any test = true) :
    ∃ o, c.compileManifest text name = .ok o ∧ test o = true := by
  obtain ⟨o, ho, htest⟩ := (Option.any_eq_true _ _).1 h
  cases hcompile : c.compileManifest text name with
  | error cause =>
    rw [hcompile] at ho
    cases ho
  | ok o' =>
    rw [hcompile] at ho
    cases ho
    exact ⟨o, rfl, htest⟩

end Compilation

end SchemaBinding
