import Mathlib.Data.List.Nodup
import Mathlib.Data.List.Perm.Subperm
import SchemaBinding.Proofs.Renaming.Pairing
import SchemaBinding.Proofs.Reordering.Declaring
import SchemaBinding.Proofs.Reordering.Exchange

/-! # Reordered manifests
A manifest may list its schemas, and the declarations of each of them, in another order. As long as
declarations have names of their own, it is accepted as before, and describes the same components at
other positions. -/

namespace SchemaBinding

variable {m m' : Manifest} {schema schema' : SchemaEntry} {set : SchemaSet} {ds : List Declaration}
  {d : Declaration} {id : ComponentId} {sourceName : String} {allowed : String → Prop}

/-! ## Manifests that differ in their order -/

/-- Schemas with the same declarations **in another order**. -/
structure SchemaEntry.Reordered (schema schema' : SchemaEntry) : Prop where
  ns : schema'.ns = schema.ns
  package : schema'.package = schema.package
  location : schema'.location = schema.location
  elements : schema.elements.Perm schema'.elements
  complexTypes : schema.complexTypes.Perm schema'.complexTypes
  simpleTypes : schema.simpleTypes.Perm schema'.simpleTypes

/-- Manifests with the same schemas **in another order**, each with its declarations in another
order. -/
def Manifest.Reordered (m m' : Manifest) : Prop :=
  ∃ schemas, List.Forall₂ SchemaEntry.Reordered m.schemas schemas ∧ schemas.Perm m'.schemas

/-- No two elements of a schema share a name, and no two types, simple or complex. What is declared
without a name goes by the empty one. -/
structure SchemaEntry.Distinct (schema : SchemaEntry) : Prop where
  elements : (schema.elements.map fun entry => entry.head.name.getD "").Nodup
  types : (schema.simpleTypes.map SimpleTypeEntry.name ++
    schema.complexTypes.map fun entry => entry.head.name.getD "").Nodup

/-- Every namespace has one schema, in which declarations are **distinct** by their names. -/
structure Manifest.Distinct (m : Manifest) : Prop where
  namespaces : (m.schemas.map SchemaEntry.ns).Nodup
  declarations : ∀ schema ∈ m.schemas, schema.Distinct

/-- What a reference goes by: the namespace, the kind and the name of a declaration. -/
def Declaration.key (d : Declaration) : String × Bool × String := (d.ns, d.isElement, d.name)

namespace SchemaEntry

/-- A reordered schema has the same declarations in another order. -/
theorem Reordered.perm_declarations (h : schema.Reordered schema') (sourceName : String) :
    (schema.declarations sourceName).Perm (schema'.declarations sourceName) := by
  unfold declarations
  rw [h.ns, h.location]
  exact ((h.simpleTypes.map _).append (h.complexTypes.map _)).append (h.elements.map _)

/-- Distinct declarations have **different keys**. -/
theorem Distinct.nodup_keys (h : schema.Distinct) (sourceName : String) :
    ((schema.declarations sourceName).map Declaration.key).Nodup := by
  have hinjective (isElement : Bool) :
      (fun name : String => (schema.ns, isElement, name)).Injective := fun _ _ hsame => by
    simpa using hsame
  have hkeys : (schema.declarations sourceName).map Declaration.key =
      (schema.simpleTypes.map SimpleTypeEntry.name ++
        schema.complexTypes.map fun entry => entry.head.name.getD "").map
          (fun name => (schema.ns, false, name)) ++
        (schema.elements.map fun entry => entry.head.name.getD "").map
          fun name => (schema.ns, true, name) := by
    simp only [declarations, List.map_append, List.map_map]
    rfl
  rw [hkeys]
  refine List.nodup_append.2
    ⟨List.Nodup.map (hinjective false) h.types, List.Nodup.map (hinjective true) h.elements, ?_⟩
  intro a ha b hb hab
  obtain ⟨_, -, rfl⟩ := List.mem_map.1 ha
  obtain ⟨_, -, rfl⟩ := List.mem_map.1 hb
  simp at hab

/-- All declarations of a schema are in its namespace. -/
theorem ns_of_mem_declarations (h : d ∈ schema.declarations sourceName) : d.ns = schema.ns := by
  simp only [declarations, List.mem_append, List.mem_map] at h
  rcases h with (⟨_, -, rfl⟩ | ⟨_, -, rfl⟩) | ⟨_, -, rfl⟩ <;> rfl

end SchemaEntry

namespace Manifest

/-- The declarations of a reordered manifest are those of the manifest in another order. -/
theorem Reordered.perm_declarations (h : m.Reordered m') (sourceName : String) :
    (m.declarations sourceName).Perm (m'.declarations sourceName) := by
  obtain ⟨schemas, hschemas, hperm⟩ := h
  unfold declarations
  refine List.Perm.trans ?_ (hperm.flatMap_right _)
  clear hperm
  generalize m.schemas = before at hschemas ⊢
  induction hschemas with
  | nil => exact .nil
  | cons hschema _ ih => exact (hschema.perm_declarations sourceName).append ih

/-- In a distinct manifest, no two declarations go by the same key. -/
theorem Distinct.nodup_keys (h : m.Distinct) (sourceName : String) :
    ((m.declarations sourceName).map Declaration.key).Nodup := by
  unfold Manifest.declarations
  rw [List.map_flatMap, List.nodup_flatMap]
  refine ⟨fun schema hschema => (h.declarations schema hschema).nodup_keys sourceName, ?_⟩
  -- declarations of different schemas have different namespaces
  refine (List.pairwise_map.1 h.namespaces).imp fun {schema schema'} hne key hkey hkey' => ?_
  obtain ⟨d, hd, rfl⟩ := List.mem_map.1 hkey
  obtain ⟨d', hd', hsame⟩ := List.mem_map.1 hkey'
  have hns := SchemaEntry.ns_of_mem_declarations hd
  have hns' := SchemaEntry.ns_of_mem_declarations hd'
  have hsame : d'.ns = d.ns := congrArg Prod.fst hsame
  exact hne (by rw [← hns, ← hns', hsame])

/-- The schema of a namespace, with the package that it names. -/
theorem Reordered.perm_packages (h : m.Reordered m') :
    (m.schemas.map fun schema => (schema.ns, schema.package)).Perm
      (m'.schemas.map fun schema => (schema.ns, schema.package)) := by
  obtain ⟨schemas, hschemas, hperm⟩ := h
  refine List.Perm.trans ?_ (hperm.map _)
  clear hperm
  generalize m.schemas = before at hschemas ⊢
  induction hschemas with
  | nil => exact .nil
  | cons hschema _ ih =>
    rw [List.map_cons, List.map_cons, hschema.ns, hschema.package]
    exact ih.cons _

/-- In a reordered manifest, every namespace still has one schema. -/
theorem Reordered.nodup_namespaces (h : m.Reordered m') (hdistinct : m.Distinct) :
    (m'.schemas.map SchemaEntry.ns).Nodup := by
  have hperm := h.perm_packages.map Prod.fst
  rw [List.map_map, List.map_map] at hperm
  exact hperm.nodup_iff.1 hdistinct.namespaces

end Manifest

/-! ## Tasks -/

namespace Declaration

/-- The tasks of declarations are the declarations at their positions. -/
theorem mem_tasks {first : Nat} : (d, id) ∈ tasks first ds ↔
    ∃ i, ds[i]? = some d ∧ id = ⟨first + i⟩ := by
  unfold tasks ComponentId.following
  simp only [List.mem_iff_getElem?, List.getElem?_zip_eq_some, List.getElem?_map,
    Option.map_eq_some_iff]
  refine exists_congr fun i => and_congr_right fun hd => ?_
  have hi : i < ds.length := (List.getElem?_eq_some_iff.1 hd).1
  rw [List.getElem?_range' hi, Nat.one_mul]
  constructor
  · rintro ⟨_, ⟨⟩, rfl⟩
    rfl
  · rintro rfl
    exact ⟨_, rfl, rfl⟩

/-- Each declaration is a task, in order. -/
theorem fst_tasks (first : Nat) (ds : List Declaration) :
    (tasks first ds).map Prod.fst = ds := by
  unfold tasks
  rw [List.map_fst_zip]
  simp [ComponentId.following]

/-- Tasks are about the positions that follow, in order. -/
theorem snd_tasks (first : Nat) (ds : List Declaration) :
    (tasks first ds).map Prod.snd = ComponentId.following first ds.length := by
  unfold tasks
  rw [List.map_snd_zip]
  simp [ComponentId.following]

/-- No two tasks are about the same position. -/
theorem nodup_snd_tasks (first : Nat) (ds : List Declaration) :
    ((tasks first ds).map Prod.snd).Nodup := by
  rw [snd_tasks]
  exact List.Nodup.map (fun _ _ hsame => congrArg ComponentId.index hsame) List.nodup_range'

/-- A task is about one of as many positions as there are declarations. -/
theorem index_of_mem_tasks {first : Nat} (h : (d, id) ∈ tasks first ds) :
    first ≤ id.index ∧ id.index < first + ds.length := by
  obtain ⟨i, hi, rfl⟩ := mem_tasks.1 h
  exact ⟨Nat.le_add_right _ _, Nat.add_lt_add_left (List.getElem?_eq_some_iff.1 hi).1 _⟩

/-- There is a declaration at each of the positions. -/
theorem exists_mem_tasks {first : Nat} (hfirst : first ≤ id.index)
    (hlast : id.index < first + ds.length) : ∃ d, (d, id) ∈ tasks first ds := by
  have hi : id.index - first < ds.length := by omega
  refine ⟨ds[id.index - first], mem_tasks.2 ⟨_, List.getElem?_eq_getElem hi, ?_⟩⟩
  rw [Nat.add_sub_cancel' hfirst]

/-- Distinct declarations have one position each. -/
theorem eq_of_mem_tasks {first : Nat} (hnodup : ds.Nodup) {id' : ComponentId}
    (h : (d, id) ∈ tasks first ds) (h' : (d, id') ∈ tasks first ds) : id = id' := by
  have hfst : ((tasks first ds).map Prod.fst).Nodup := by rwa [fst_tasks]
  exact congrArg Prod.snd (List.inj_on_of_nodup_map hfst h h' rfl)

end Declaration

/-! ## Declared sets -/

namespace SchemaSet

/-- Declaring schemas keeps a set loaded. -/
theorem Loaded.declared (h : set.Loaded fun _ => True) (sourceName : String)
    (schemas : List SchemaEntry) : (set.declared sourceName schemas).Loaded fun _ => True := by
  induction schemas generalizing set with
  | nil => exact h
  | cons schema rest ih =>
    exact ih (Loading.loads_declare trivial sourceName h _ _
      (Loading.run_declare schema sourceName set)).1

/-- The components of a declared set: the earlier ones, and one for each declaration. -/
theorem getElem?_components_declared (set : SchemaSet) (m : Manifest) (sourceName : String)
    (i : Nat) : (set.declared sourceName m.schemas).components[i]? =
      (set.components.toList ++
        (m.declarations sourceName).map Declaration.placeholder)[i]? := by
  rw [← Array.getElem?_toList, components_declared]
  rfl

@[simp] theorem size_declared (set : SchemaSet) (m : Manifest) (sourceName : String) :
    (set.declared sourceName m.schemas).size =
      set.size + (m.declarations sourceName).length := by
  have hlength := congrArg List.length (components_declared set sourceName m.schemas)
  rw [List.length_append, List.length_map] at hlength
  exact hlength

/-- Declaring leaves all that was there in its place. -/
theorem component_declared_of_lt (h : id.index < set.size) (m : Manifest) (sourceName : String) :
    (set.declared sourceName m.schemas).component id = set.component id := by
  unfold component
  rw [Array.getD_eq_getD_getElem?, Array.getD_eq_getD_getElem?, getElem?_components_declared,
    List.getElem?_append_left (by simpa [size] using h), Array.getElem?_toList]

/-- A declaration is declared **at its position**. -/
theorem component_declared_of_mem
    (h : (d, id) ∈ Declaration.tasks set.size (m.declarations sourceName)) :
    (set.declared sourceName m.schemas).component id = d.placeholder := by
  obtain ⟨i, hi, rfl⟩ := Declaration.mem_tasks.1 h
  unfold component
  rw [Array.getD_eq_getD_getElem?, getElem?_components_declared,
    List.getElem?_append_right (by simp [size])]
  have hat : set.size + i - set.components.toList.length = i := by simp [size]
  rw [hat, List.getElem?_map, hi]
  rfl

/-- The positions in a set after declaring are those before and those of the tasks. -/
theorem ids_declared (set : SchemaSet) (m : Manifest) (sourceName : String) :
    (set.declared sourceName m.schemas).ids = set.ids ++
      (Declaration.tasks set.size (m.declarations sourceName)).map Prod.snd := by
  unfold ids
  rw [size_declared, Declaration.snd_tasks, List.range_add, List.map_append,
    ComponentId.following, List.range'_eq_map_range]

/-- A declaration is found among the earlier ones, or else **by its heading**. -/
theorem Indexed.findGlobal?_declared (h : set.Indexed) (m : Manifest) (sourceName ns name : String)
    (wantType : Bool) : (set.declared sourceName m.schemas).findGlobal? ns name wantType =
      (set.findGlobal? ns name wantType).or
        (((Declaration.tasks set.size (m.declarations sourceName)).find? fun t =>
          t.1.placeholder.heading.answers ns name wantType).map Prod.snd) := by
  rw [(h.declared sourceName m.schemas).findGlobal?_eq, h.findGlobal?_eq, ids_declared,
    List.find?_append, List.find?_map]
  congr 1
  · exact List.find?_congr fun c hc => by
      rw [component_declared_of_lt (index_lt_of_mem_ids hc)]
  · refine congrArg (Option.map Prod.snd) (List.find?_congr fun (d, c) hc => ?_)
    dsimp only [Function.comp_apply]
    rw [component_declared_of_mem hc]

end SchemaSet

/-- What a declaration refers to before it is filled stands among the built-in types. -/
theorem Declaration.rename_placeholder (d : Declaration) {f : ComponentId → ComponentId}
    (hf : f ⟨1⟩ = ⟨1⟩) : d.placeholder.rename f = d.placeholder := by
  unfold placeholder Component.rename kind
  cases d.entry with
  | simpleType entry =>
    dsimp only [ComponentKind.rename, SimpleType.rename, Option.map_some]
    rw [hf]
  | complexType entry | element entry => rfl

/-- Where at most one item is looked for, it is found **in any order**. -/
theorem find?_eq_of_perm {α : Type} {items items' : List α} {wanted : α → Bool}
    (hperm : items.Perm items')
    (hunique : ∀ a ∈ items, ∀ b ∈ items, wanted a = true → wanted b = true → a = b) :
    items.find? wanted = items'.find? wanted := by
  cases hfind : items.find? wanted with
  | none =>
    refine (List.find?_eq_none.2 fun a ha => ?_).symm
    exact List.find?_eq_none.1 hfind a (hperm.symm.subset ha)
  | some a =>
    have ha := List.mem_of_find?_eq_some hfind
    cases hfind' : items'.find? wanted with
    | none => exact absurd (List.find?_some hfind) (List.find?_eq_none.1 hfind' a (hperm.subset ha))
    | some b =>
      have hb := hperm.symm.subset (List.mem_of_find?_eq_some hfind')
      exact congrArg some (hunique a ha b hb (List.find?_some hfind) (List.find?_some hfind'))

namespace Manifest

/-- At most one declaration answers to a reference. -/
theorem Distinct.eq_of_answers (h : m.Distinct) {first : Nat} {t t' : Task}
    {ns name : String} {wantType : Bool}
    (ht : t ∈ Declaration.tasks first (m.declarations sourceName))
    (ht' : t' ∈ Declaration.tasks first (m.declarations sourceName))
    (hanswers : t.1.placeholder.heading.answers ns name wantType = true)
    (hanswers' : t'.1.placeholder.heading.answers ns name wantType = true) : t = t' := by
  have hkey {t : Task} (h : t.1.placeholder.heading.answers ns name wantType = true) :
      t.1.key = (ns, !wantType, name) := by
    have hkind : t.1.placeholder.isElement = t.1.isElement := by
      unfold Declaration.placeholder Declaration.isElement Declaration.kind
      cases t.1.entry <;> rfl
    simp only [Heading.answers, Component.heading, hkind, Bool.and_eq_true, beq_iff_eq,
      bne_iff_ne] at h
    obtain ⟨⟨-, hns⟩, ⟨hname, helement⟩, -⟩ := h
    have hname : t.1.name = name := Option.some.inj hname
    have hns : t.1.ns = ns := hns
    have helement : t.1.isElement = !wantType := by
      cases hbool : t.1.isElement <;> cases wantType <;> simp_all
    rw [Declaration.key, hns, helement, hname]
  have hnodup : ((Declaration.tasks first (m.declarations sourceName)).map
      fun t => t.1.key).Nodup := by
    have hkeys := h.nodup_keys sourceName
    rwa [← Declaration.fst_tasks first (m.declarations sourceName), List.map_map] at hkeys
  exact List.inj_on_of_nodup_map hnodup ht ht' ((hkey hanswers).trans (hkey hanswers').symm)

end Manifest

/-! ## Matching declared sets -/

/-- Components by their positions. -/
def ComponentId.position : ComponentId ≃ Nat where
  toFun := index
  invFun := mk
  left_inv _ := rfl
  right_inv _ := rfl

namespace Declaration

variable {ds' : List Declaration} {c c' c'' : ComponentId}

/-- **Partners** are the same built-in component, or declared by the same declaration. -/
def Partner (ds ds' : List Declaration) (c c' : ComponentId) : Prop :=
  (c.index < SchemaSet.initial.size ∧ c' = c) ∨
    ∃ d, (d, c) ∈ tasks SchemaSet.initial.size ds ∧ (d, c') ∈ tasks SchemaSet.initial.size ds'

namespace Partner

/-- Partners may change places. -/
theorem symm (h : Partner ds ds' c c') : Partner ds' ds c' c := by
  rcases h with ⟨hc, rfl⟩ | ⟨d, hd, hd'⟩
  · exact .inl ⟨hc, rfl⟩
  · exact .inr ⟨d, hd', hd⟩

/-- Only built-in components and declarations have partners. -/
theorem index_lt (h : Partner ds ds' c c') : c.index < SchemaSet.initial.size + ds.length := by
  rcases h with ⟨hc, -⟩ | ⟨d, hd, -⟩
  · exact Nat.lt_of_lt_of_le hc (Nat.le_add_right _ _)
  · exact (index_of_mem_tasks hd).2

/-- If the declarations stand in another order, each of them has a partner. -/
theorem exists_of_index_lt (hperm : ds.Perm ds')
    (hc : c.index < SchemaSet.initial.size + ds.length) : ∃ c', Partner ds ds' c c' := by
  by_cases hinitial : c.index < SchemaSet.initial.size
  · exact ⟨c, .inl ⟨hinitial, rfl⟩⟩
  · obtain ⟨d, hd⟩ := exists_mem_tasks (Nat.not_lt.1 hinitial) hc
    obtain ⟨i, hi, -⟩ := mem_tasks.1 hd
    obtain ⟨j, hj⟩ := List.mem_iff_getElem?.1 (hperm.subset (List.mem_of_getElem? hi))
    exact ⟨_, .inr ⟨d, hd, mem_tasks.2 ⟨j, hj, rfl⟩⟩⟩

/-- Without duplicates, nothing has two partners. -/
theorem unique (hnodup : ds'.Nodup) (h : Partner ds ds' c c') (h' : Partner ds ds' c c'') :
    c' = c'' := by
  rcases h with ⟨hc, rfl⟩ | ⟨d, hd, hd'⟩
  · rcases h' with ⟨-, rfl⟩ | ⟨d, hd, -⟩
    · rfl
    · exact absurd hc (Nat.not_lt.2 (index_of_mem_tasks hd).1)
  · rcases h' with ⟨hc, -⟩ | ⟨d', he, he'⟩
    · exact absurd hc (Nat.not_lt.2 (index_of_mem_tasks hd).1)
    · obtain rfl : d = d' :=
        congrArg Prod.fst (List.inj_on_of_nodup_map (nodup_snd_tasks _ ds) hd he rfl)
      exact eq_of_mem_tasks hnodup hd' he'

end Partner

/-- Built-in components and declarations in two orders are paired. -/
theorem pairing (hperm : ds.Perm ds') (hnodup : ds.Nodup) :
    Pairing ComponentId.position (SchemaSet.initial.size + ds.length)
      (SchemaSet.initial.size + ds'.length) (Partner ds ds') where
  within _ _ h := ⟨h.index_lt, h.symm.index_lt⟩
  left _ hc := Partner.exists_of_index_lt hperm hc
  right _ hc := (Partner.exists_of_index_lt hperm.symm hc).imp fun _ => Partner.symm
  unique _ _ _ h h' := h.unique (hperm.nodup_iff.1 hnodup) h'
  unique' _ _ _ h h' := h.symm.unique hnodup h'.symm

/-- The same tasks are left at the places of the partners. -/
theorem perm_moved_tasks {γ : Equiv.Perm ComponentId} (hperm : ds.Perm ds') (hnodup : ds.Nodup)
    (hpartner : ∀ c : ComponentId, c.index < SchemaSet.initial.size + ds.length →
      Partner ds ds' c (γ c)) :
    ((tasks SchemaSet.initial.size ds).map (Task.moved γ)).Perm
      (tasks SchemaSet.initial.size ds') := by
  have hmoved {d : Declaration} {c : ComponentId} (hd : (d, c) ∈ tasks SchemaSet.initial.size ds) :
      (d, γ c) ∈ tasks SchemaSet.initial.size ds' := by
    have hindex := index_of_mem_tasks hd
    rcases hpartner c hindex.2 with ⟨hc, -⟩ | ⟨d', hd', hmem⟩
    · exact absurd hc (Nat.not_lt.2 hindex.1)
    · obtain rfl : d = d' :=
        congrArg Prod.fst (List.inj_on_of_nodup_map (nodup_snd_tasks _ ds) hd hd' rfl)
      exact hmem
  have hsubset : (tasks SchemaSet.initial.size ds).map (Task.moved γ) ⊆
      tasks SchemaSet.initial.size ds' := by
    intro t ht
    obtain ⟨⟨d, c⟩, hd, rfl⟩ := List.mem_map.1 ht
    exact hmoved hd
  have hdistinct : ((tasks SchemaSet.initial.size ds).map (Task.moved γ)).Nodup := by
    refine List.Nodup.of_map Prod.fst ?_
    rw [List.map_map]
    show ((tasks SchemaSet.initial.size ds).map Prod.fst).Nodup
    rwa [fst_tasks]
  refine (List.Nodup.subperm hdistinct hsubset).perm_of_length_le ?_
  rw [List.length_map, ← List.length_map Prod.fst, fst_tasks, ← List.length_map Prod.fst,
    fst_tasks]
  exact hperm.length_eq.ge

end Declaration

namespace Manifest.Reordered

/-- The schemas of the reordered manifest name the same packages. -/
theorem package_declared (h : m.Reordered m') (hdistinct : m.Distinct) (set : SchemaSet)
    (sourceName ns : String) :
    ((set.declared sourceName m'.schemas).schema? ns).bind Schema.package =
      ((set.declared sourceName m.schemas).schema? ns).bind Schema.package := by
  have hpackages := h.perm_packages
  by_cases hns : ∃ schema ∈ m.schemas, schema.ns = ns
  · obtain ⟨schema, hschema, rfl⟩ := hns
    obtain ⟨schema', hschema', hsame⟩ := List.mem_map.1
      (hpackages.subset (List.mem_map_of_mem hschema))
    have hns' : schema'.ns = schema.ns := congrArg Prod.fst hsame
    have hpackage : schema'.package = schema.package := congrArg Prod.snd hsame
    have hdeclared' := SchemaSet.package_declared_of_mem set sourceName
      (h.nodup_namespaces hdistinct) hschema'
    rw [hns', hpackage] at hdeclared'
    exact hdeclared'.trans
      (SchemaSet.package_declared_of_mem set sourceName hdistinct.namespaces hschema).symm
  · have hnone : ∀ schema ∈ m.schemas, schema.ns ≠ ns := fun schema hschema hsame =>
      hns ⟨schema, hschema, hsame⟩
    have hnone' : ∀ schema ∈ m'.schemas, schema.ns ≠ ns := by
      intro schema' hschema' hsame
      obtain ⟨schema, hschema, heq⟩ := List.mem_map.1
        (hpackages.symm.subset (List.mem_map_of_mem hschema'))
      exact hnone schema hschema ((congrArg Prod.fst heq).trans hsame)
    exact (SchemaSet.package_declared_of_not_mem set sourceName hnone').trans
      (SchemaSet.package_declared_of_not_mem set sourceName hnone).symm

/-- What is declared **matches** what the reordered manifest declares. -/
theorem exists_matched (h : m.Reordered m') (hdistinct : m.Distinct) (sourceName : String) :
    ∃ γ : Equiv.Perm ComponentId, (SchemaSet.initial.declared sourceName m.schemas).Matched γ
        (SchemaSet.initial.declared sourceName m'.schemas) ∧
      ((Declaration.tasks SchemaSet.initial.size (m.declarations sourceName)).map
        (Task.moved γ)).Perm
          (Declaration.tasks SchemaSet.initial.size (m'.declarations sourceName)) := by
  have hperm := h.perm_declarations sourceName
  have hnodup : (m.declarations sourceName).Nodup := List.Nodup.of_map _ (hdistinct.nodup_keys _)
  -- each declaration is moved to where the other manifest has it
  obtain ⟨γ, hpartner, hbeyond⟩ := (Declaration.pairing hperm hnodup).exists_perm
  have hpartner : ∀ c : ComponentId,
      c.index < SchemaSet.initial.size + (m.declarations sourceName).length →
        Declaration.Partner (m.declarations sourceName) (m'.declarations sourceName) c (γ c) :=
    hpartner
  have hmoved := Declaration.perm_moved_tasks hperm hnodup hpartner
  -- the built-in types are no declarations, so they stay
  have hinitial : ∀ c : ComponentId, c.index < SchemaSet.initial.size → γ c = c := by
    intro c hc
    rcases hpartner c (Nat.lt_of_lt_of_le hc (Nat.le_add_right _ _)) with ⟨-, hγ⟩ | ⟨d, hd, -⟩
    · exact hγ
    · exact absurd hc (Nat.not_lt.2 (Declaration.index_of_mem_tasks hd).1)
  refine ⟨γ, ⟨SchemaSet.indexed_initial.declared _ _, SchemaSet.indexed_initial.declared _ _, ?size,
    fun c => ?component, hinitial, fun c hc => hbeyond c (SchemaSet.size_declared _ m _ ▸ hc),
    fun ns name wantType => ?found, fun ns => ?package⟩, hmoved⟩
  case size =>
    rw [SchemaSet.size_declared, SchemaSet.size_declared, hperm.length_eq]
  case component =>
    by_cases hc : c.index < SchemaSet.initial.size + (m.declarations sourceName).length
    · rcases hpartner c hc with ⟨hlt, hγ⟩ | ⟨d, hd, hd'⟩
      · rw [hγ, SchemaSet.component_declared_of_lt hlt, SchemaSet.component_declared_of_lt hlt]
        have hloaded : SchemaSet.initial.Loaded fun _ => True := SchemaSet.loaded_initial
        refine Eq.trans (Component.rename_id _).symm (hloaded.rename_congr (fun b hb => ?_) c)
        exact (hinitial b hb).symm
      · rw [SchemaSet.component_declared_of_mem hd, SchemaSet.component_declared_of_mem hd']
        exact (d.rename_placeholder (hinitial ⟨1⟩ (by decide +kernel))).symm
    · have hc := Nat.not_lt.1 hc
      rw [hbeyond c hc, SchemaSet.component_of_size_le, SchemaSet.component_of_size_le]
      · rfl
      · rwa [SchemaSet.size_declared]
      · rwa [SchemaSet.size_declared, ← hperm.length_eq]
  case found =>
    rw [SchemaSet.indexed_initial.findGlobal?_declared,
      SchemaSet.indexed_initial.findGlobal?_declared]
    cases hfind : SchemaSet.initial.findGlobal? ns name wantType with
    | some id =>
      have hid := SchemaSet.indexed_initial.index_lt_of_findGlobal? hfind
      exact congrArg some (hinitial id hid).symm
    | none =>
      -- at most one declaration answers to a name, so their order does not matter
      rw [Option.none_or, Option.none_or, ← find?_eq_of_perm hmoved, List.find?_map]
      · rw [Option.map_map, Option.map_map]
        rfl
      · intro t ht t' ht' ha ha'
        obtain ⟨s, hs, rfl⟩ := List.mem_map.1 ht
        obtain ⟨s', hs', rfl⟩ := List.mem_map.1 ht'
        rw [hdistinct.eq_of_answers hs hs' ha ha']
  case package => exact h.package_declared hdistinct _ _ _

/-- Loading the reordered manifest **agrees** with loading the manifest. -/
theorem agree (h : m.Reordered m') (hdistinct : m.Distinct) (sourceName : String) :
    Loading.Agree (fun _ => False) ((Loading.manifest sourceName m).run.run SchemaSet.initial)
      ((Loading.manifest sourceName m').run.run SchemaSet.initial) := by
  obtain ⟨γ, hmatched, hmoved⟩ := h.exists_matched hdistinct sourceName
  rw [Loading.run_manifest, Loading.run_manifest]
  -- first the tasks are moved to where the other manifest declares them, then they are reordered
  have hfirst := hmatched.fillAll
    (Declaration.tasks SchemaSet.initial.size (m.declarations sourceName))
  have hsecond := Loading.agree_perm hmoved
    (SchemaSet.loaded_initial.declared sourceName m'.schemas) hmatched.indexed' ?targets ?nodup
  · exact (hfirst.imp fun _ hc => hc.elim).trans (hsecond.imp fun _ hc => hc.elim)
  case targets =>
    intro t ht
    rw [SchemaSet.size_declared]
    exact (Declaration.index_of_mem_tasks (hmoved.subset ht)).2
  case nodup => exact (hmoved.map Prod.snd).nodup_iff.2 (Declaration.nodup_snd_tasks _ _)

/-- The reordered manifest is accepted if the manifest is, and then **renames** its schema set. -/
theorem schemaSet (h : m.Reordered m') (hdistinct : m.Distinct) (sourceName : String) :
    (∃ set set' φ, m.schemaSet sourceName = .ok set ∧ m'.schemaSet sourceName = .ok set' ∧
        set.Renamed φ set') ∨
      ∃ e e', m.schemaSet sourceName = .error e ∧ m'.schemaSet sourceName = .error e' := by
  have hagree := h.agree hdistinct sourceName
  unfold Manifest.schemaSet
  generalize (Loading.manifest sourceName m).run.run SchemaSet.initial = r,
    (Loading.manifest sourceName m').run.run SchemaSet.initial = r' at hagree ⊢
  cases hagree with
  | ok matched => exact .inl ⟨_, _, _, rfl, rfl, matched.renamed⟩
  | error => exact .inr ⟨_, _, rfl, rfl⟩

end Manifest.Reordered

end SchemaBinding
