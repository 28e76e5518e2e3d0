import SchemaBinding.Proofs.Manifest.Filling
import SchemaBinding.Proofs.Reordering.Manifest

/-! # Manifests as a whole
All declarations of a manifest are declared before the first of them is filled. So a reference means
the first declaration of its name, wherever it stands in the manifest, and a manifest is accepted
when all its declarations resolve. -/

namespace SchemaBinding

variable {m : Manifest} {set : SchemaSet} {sourceName : String}

/-! ## What references mean -/

namespace Manifest

/-- The global declarations of a manifest at their positions: behind the built-in types, one after
the other. -/
def tasks (m : Manifest) (sourceName : String) : List Task :=
  Declaration.tasks SchemaSet.initial.size (m.declarations sourceName)

/-- The **first** global element, or else global type, that is declared with a name. -/
def declared? (m : Manifest) (sourceName : String) (isElement : Bool) (ns name : String) :
    Option ComponentId :=
  ((m.tasks sourceName).find? fun t => t.1.key == (ns, isElement, name)).map Prod.snd

/-- What the references in a manifest mean: built-in types, and what is declared first. -/
def references (m : Manifest) (sourceName : String) : References where
  type? ns name :=
    match Text.afterStart ['x', 's', ':'] name.toList with
    | some localName => SchemaSet.builtin? (String.ofList localName)
    | none =>
      let (ns, name) := Loading.splitQualified ns name
      (SchemaSet.initial.findGlobal? ns name true).or (m.declared? sourceName false ns name)
  element? ns name :=
    let (ns, name) := Loading.splitQualified ns name
    m.declared? sourceName true ns name

/-- A declaration answers to what it is declared as. -/
theorem answers_eq_key (d : Declaration) (ns name : String) (wantType : Bool) :
    d.placeholder.heading.answers ns name wantType = (d.key == (ns, !wantType, name)) := by
  have hkind : d.placeholder.isElement = d.isElement := by
    unfold Declaration.placeholder Declaration.isElement Declaration.kind
    cases d.entry <;> rfl
  have hgroup : d.placeholder.isGroup = false := by
    unfold Declaration.placeholder Declaration.kind
    cases d.entry <;> rfl
  rw [Bool.eq_iff_iff]
  simp only [Heading.answers, Component.heading, hkind, hgroup, Declaration.key,
    Bool.and_eq_true, beq_iff_eq, bne_iff_ne, Bool.not_false, and_true, Prod.mk.injEq]
  show (true = true ∧ d.ns = ns) ∧ some d.name = some name ∧ d.isElement ≠ wantType ↔ _
  cases d.isElement <;> cases wantType <;> simp [and_comm]

/-- No element is built in. -/
theorem findGlobal?_initial_element (ns name : String) :
    SchemaSet.initial.findGlobal? ns name false = none := by
  have hnone : ∀ id ∈ SchemaSet.initial.ids,
      (SchemaSet.initial.component id).isElement = false := by
    decide +kernel
  rw [SchemaSet.indexed_initial.findGlobal?_eq, List.find?_eq_none]
  intro id hid
  simp [Heading.answers, Component.heading, hnone id hid]

/-- Once everything is declared, references mean **what the manifest says**. -/
theorem ofSet_declared (m : Manifest) (sourceName : String) :
    References.ofSet (SchemaSet.initial.declared sourceName m.schemas) =
      m.references sourceName := by
  have hdeclared (ns name : String) (wantType : Bool) :
      (SchemaSet.initial.declared sourceName m.schemas).findGlobal? ns name wantType =
        (SchemaSet.initial.findGlobal? ns name wantType).or
          (m.declared? sourceName (!wantType) ns name) := by
    rw [SchemaSet.indexed_initial.findGlobal?_declared]
    simp only [answers_eq_key]
    rfl
  unfold References.ofSet references
  congr 1
  · funext ns name
    unfold Loading.findType?
    cases Text.afterStart ['x', 's', ':'] name.toList with
    | some localName => rfl
    | none => exact hdeclared _ _ _
  · funext ns name
    refine (hdeclared _ _ _).trans ?_
    rw [findGlobal?_initial_element, Option.none_or]
    rfl

/-! ## What is accepted -/

/-- Loading a manifest **settles** for its declarations to resolve, and describes them then. -/
theorem settles_manifest (m : Manifest) (sourceName : String) :
    Settles (Loading.manifest sourceName m) SchemaSet.initial
      (∀ t ∈ m.tasks sourceName, t.1.Resolves (m.references sourceName)) fun _ set =>
        Loading.FilledAll (m.tasks sourceName)
          (SchemaSet.initial.declared sourceName m.schemas) set := by
  refine .skip (Loading.run_manifest m sourceName SchemaSet.initial) ?_
  rw [← ofSet_declared]
  refine Loading.settles_fillAll _ (SchemaSet.indexed_initial.declared _ _) ?_
    (Declaration.nodup_snd_tasks _ _)
  intro t ht
  refine ⟨?_, SchemaSet.component_declared_of_mem ht⟩
  rw [SchemaSet.size_declared]
  exact (Declaration.index_of_mem_tasks ht).2

/-- A manifest whose declarations resolve has a schema set. -/
theorem exists_schemaSet_iff (m : Manifest) (sourceName : String) :
    (∃ set, m.schemaSet sourceName = .ok set) ↔
      ∀ t ∈ m.tasks sourceName, t.1.Resolves (m.references sourceName) := by
  have hsettles := m.settles_manifest sourceName
  unfold Settles at hsettles
  unfold Manifest.schemaSet
  generalize (Loading.manifest sourceName m).run.run SchemaSet.initial = r at hsettles
  cases hsettles with
  | ok accept => exact iff_of_true ⟨_, rfl⟩ accept
  | error reject => exact iff_of_false (by simp) reject

/-- A manifest is never rejected because a building step was misused. -/
theorem ne_misuse (m : Manifest) (sourceName : String) (cause : Misuse) :
    m.schemaSet sourceName ≠ .error (.misuse cause) := by
  have hsettles := m.settles_manifest sourceName
  unfold Settles at hsettles
  unfold Manifest.schemaSet
  generalize (Loading.manifest sourceName m).run.run SchemaSet.initial = r at hsettles
  cases hsettles with
  | ok => simp
  | error _ blames => simpa using blames cause

/-- The schema set of a manifest: all declarations are described in it, behind the built-in types.
-/
structure Describes (m : Manifest) (sourceName : String) (set : SchemaSet) : Prop where
  indexed : set.Indexed
  references : References.ofSet set = m.references sourceName
  builtin : ∀ id : ComponentId, id.index < SchemaSet.initial.size →
    set.component id = SchemaSet.initial.component id
  declarations : Task.Describe set (m.references sourceName) (m.tasks sourceName)
    (SchemaSet.initial.size + (m.declarations sourceName).length) set.size

/-- The schema set of a manifest **says what the manifest says**. -/
theorem describes_schemaSet (h : m.schemaSet sourceName = .ok set) :
    m.Describes sourceName set := by
  have hsettles := m.settles_manifest sourceName
  unfold Settles at hsettles
  unfold Manifest.schemaSet at h
  generalize (Loading.manifest sourceName m).run.run SchemaSet.initial = r at h hsettles
  cases hsettles with
  | error => cases h
  | ok _ answers =>
    cases h
    refine ⟨answers.indexed, ?_, fun id hid => ?_, ?_⟩
    · rw [answers.references, ofSet_declared]
    · rw [answers.kept id, SchemaSet.component_declared_of_lt hid]
      · rw [SchemaSet.size_declared]
        exact Nat.lt_of_lt_of_le hid (Nat.le_add_right _ _)
      · intro hmem
        obtain ⟨t, ht, rfl⟩ := List.mem_map.1 hmem
        exact Nat.not_lt.2 (Declaration.index_of_mem_tasks ht).1 hid
    · have hdescribed := answers.described
      rwa [ofSet_declared, SchemaSet.size_declared] at hdescribed

end Manifest

end SchemaBinding
