import Mathlib.Data.List.Find
import SchemaBinding.Proofs.Renaming.Component
import SchemaBinding.Proofs.Schema.Built

/-! # Indexed schema sets
The schema of a namespace lists the global components of the namespace in the order in which they
stand. So a declaration is found by its heading alone, and nothing that is local or merely changed
gets in the way. -/

namespace SchemaBinding

/-! ## Headings -/

/-- The **heading** of a component: what a reference to it may go by. -/
structure Heading where
  name : Option String
  ns : String
  isGlobal : Bool
  isElement : Bool
  isGroup : Bool
  deriving DecidableEq

/-- Whether a heading is one that is looked for: a global element, or a global type, of a name. -/
def Heading.answers (h : Heading) (ns name : String) (wantType : Bool) : Bool :=
  h.isGlobal && h.ns == ns && (h.name == some name && h.isElement != wantType && !h.isGroup)

/-- The heading of a component. -/
def Component.heading (c : Component) : Heading :=
  ⟨c.name, c.ns, c.isGlobal, c.isElement, c.isGroup⟩

@[simp] theorem Component.heading_rename (f : ComponentId → ComponentId) (c : Component) :
    (c.rename f).heading = c.heading := by
  simp [heading]

/-- Nothing local is looked for. -/
theorem Heading.answers_of_local {h : Heading} (hlocal : h.isGlobal = false) (ns name : String)
    (wantType : Bool) : h.answers ns name wantType = false := by
  simp [answers, hlocal]

namespace SchemaSet

variable {set : SchemaSet} {ns : String} {f : Schema → Schema} {id : ComponentId} {c : Component}

/-! ## Schemas of namespaces -/

/-- A schema is changed at its namespace alone, which is mentioned from then on. -/
theorem schema?_modifySchema (set : SchemaSet) (ns : String) (hf : ∀ s, (f s).ns = s.ns)
    (other : String) : (set.modifySchema ns f).schema? other =
      if other = ns then some (f ((set.schema? ns).getD { ns })) else set.schema? other := by
  have hfind (schemas : List Schema) :
      (modifySchemas ns f schemas).find? (fun s => s.ns == other) =
        if other = ns then some (f ((schemas.find? fun s => s.ns == ns).getD { ns }))
        else schemas.find? fun s => s.ns == other := by
    induction schemas with
    | nil =>
      by_cases hns : other = ns
      · simp [modifySchemas, hf, hns]
      · simp [modifySchemas, hf, hns, Ne.symm hns]
    | cons s rest ih =>
      unfold modifySchemas
      by_cases hs : s.ns = ns
      · by_cases hns : other = ns
        · simp [hs, hf, hns]
        · simp [hs, hf, hns, Ne.symm hns]
      · rw [if_neg hs, List.find?_cons, ih]
        by_cases hother : s.ns = other
        · have hns : other ≠ ns := hother ▸ hs
          simp [hother, hns]
        · have hbeq : (s.ns == other) = false := by simpa using hother
          have hbeq' : (s.ns == ns) = false := by simpa using hs
          simp only [hbeq, List.find?_cons, hbeq']
  exact hfind set.schemas

/-- The components that the schema of a namespace lists. -/
def listedIn (set : SchemaSet) (ns : String) : List ComponentId :=
  ((set.schema? ns).map Schema.components).getD []

/-- A set is **indexed** when its schemas list exactly the global components of their namespaces,
in order. -/
structure Indexed (set : SchemaSet) : Prop where
  listedIn : ∀ ns, set.listedIn ns = set.ids.filter fun id =>
    (set.component id).isGlobal && (set.component id).ns == ns
  /-- No schema lists anything else, even if another one of its namespace comes before it. -/
  within : ∀ s ∈ set.schemas, ∀ id ∈ s.components,
    id.index < set.size ∧ (set.component id).isGlobal = true ∧ (set.component id).ns = s.ns

/-- The new component is the last one. -/
theorem ids_insert (set : SchemaSet) (c : Component) :
    (set.insert c).2.ids = set.ids ++ [⟨set.size⟩] := by
  unfold ids
  rw [size_insert, List.range_succ, List.map_append]
  rfl

/-- The ids of a set are those below its size. -/
theorem index_lt_of_mem_ids (h : id ∈ set.ids) : id.index < set.size := by
  obtain ⟨i, hi, rfl⟩ := List.mem_map.1 h
  exact List.mem_range.1 hi

/-- An inserted component leaves all others in their places. -/
theorem component_insert_of_mem (h : id ∈ set.ids) (c : Component) :
    (set.insert c).2.component id = set.component id := by
  rw [component_insert, if_neg]
  rintro rfl
  exact Nat.lt_irrefl _ (index_lt_of_mem_ids h)

/-- A component that exists is one of the ids. -/
theorem mem_ids (h : id.index < set.size) : id ∈ set.ids :=
  List.mem_map.2 ⟨id.index, List.mem_range.2 h, rfl⟩

/-- Only what exists is global. -/
theorem index_lt_of_isGlobal (h : (set.component id).isGlobal = true) : id.index < set.size := by
  by_contra hbeyond
  rw [component_of_size_le (Nat.not_lt.1 hbeyond)] at h
  cases h

namespace Indexed

/-- A change of a schema that keeps its namespace and its list keeps a set indexed. -/
theorem modifySchema (h : set.Indexed) (ns : String)
    (hf : ∀ s, (f s).ns = s.ns ∧ (f s).components = s.components) :
    (set.modifySchema ns f).Indexed where
  listedIn other := by
    have hlisted : (set.modifySchema ns f).listedIn other = set.listedIn other := by
      unfold SchemaSet.listedIn
      rw [schema?_modifySchema set ns fun s => (hf s).1]
      split
      · rename_i hns
        rw [hns, Option.map_some, Option.getD_some, (hf _).2]
        cases set.schema? ns <;> rfl
      · rfl
    rw [hlisted]
    exact h.listedIn other
  within s hs id hid := by
    rcases of_mem_modifySchemas hs with hbefore | ⟨s, hbefore | rfl, -, rfl⟩
    · exact h.within s hbefore id hid
    · rw [(hf s).2] at hid
      rw [(hf s).1]
      exact h.within s hbefore id hid
    · rw [(hf _).2] at hid
      cases hid

/-- An inserted component is listed if it is global. -/
theorem insert (h : set.Indexed) (c : Component) : (set.insert c).2.Indexed where
  listedIn ns := by
    -- the components that were there are listed as before
    have hold : set.ids.filter (fun id => ((set.insert c).2.component id).isGlobal &&
        ((set.insert c).2.component id).ns == ns) = set.listedIn ns := by
      rw [h.listedIn ns]
      refine List.filter_congr fun id hid => ?_
      rw [component_insert_of_mem hid]
    rw [ids_insert, List.filter_append, hold]
    unfold SchemaSet.listedIn SchemaSet.insert
    rw [schema?_modifySchema]
    · have hschema (other : String) :
          ({ set with components := set.components.push c } : SchemaSet).schema? other =
            set.schema? other := rfl
      have hnew : (set.insert c).2.component ⟨set.size⟩ = c := by
        rw [component_insert, if_pos rfl]
      simp only [hschema, List.filter_cons, List.filter_nil]
      have hnew' := hnew
      unfold SchemaSet.insert at hnew'
      rw [hnew']
      by_cases hns : ns = c.ns
      · subst hns
        cases hglobal : c.isGlobal <;> cases set.schema? c.ns <;> simp
      · simp [hns, Ne.symm hns]
    · intro s
      split <;> rfl
  within s hs id hid := by
    -- what was listed before was there before
    have hold {s : Schema} (hs : s ∈ set.schemas ∨ s = { ns := c.ns }) (hid : id ∈ s.components) :
        id.index < (set.insert c).2.size ∧ ((set.insert c).2.component id).isGlobal = true ∧
          ((set.insert c).2.component id).ns = s.ns := by
      rcases hs with hs | rfl
      · obtain ⟨hlt, hglobal, hns⟩ := h.within s hs id hid
        rw [component_insert_of_mem (mem_ids hlt), size_insert]
        exact ⟨Nat.lt_succ_of_lt hlt, hglobal, hns⟩
      · cases hid
    rcases of_mem_modifySchemas hs with hbefore | ⟨s, hbefore, hns, rfl⟩
    · exact hold (.inl hbefore) hid
    · split at hid
      · rename_i hglobal
        rw [if_pos hglobal]
        rcases List.mem_append.1 hid with hid | hid
        · have hbefore := hold hbefore hid
          exact hbefore
        · obtain rfl := List.mem_singleton.1 hid
          rw [component_insert, if_pos rfl, size_insert]
          exact ⟨Nat.lt_succ_self _, hglobal, hns.symm⟩
      · rename_i hlocal
        rw [if_neg hlocal]
        exact hold hbefore hid

/-- A change of a component that keeps it global, or local, in its namespace keeps a set indexed. -/
theorem modifyComponent (h : set.Indexed) {change : Component → Component}
    (hglobal : (change (set.component id)).isGlobal = (set.component id).isGlobal)
    (hns : (change (set.component id)).ns = (set.component id).ns) :
    (set.modifyComponent id change).Indexed := by
  have hsame (k : ComponentId) :
      ((set.modifyComponent id change).component k).isGlobal = (set.component k).isGlobal ∧
        ((set.modifyComponent id change).component k).ns = (set.component k).ns := by
    rw [component_modifyComponent]
    split
    · rename_i hself
      rw [hself.1]
      exact ⟨hglobal, hns⟩
    · exact ⟨rfl, rfl⟩
  refine ⟨fun ns => ?_, fun s hs k hk => ?_⟩
  · have hids : (set.modifyComponent id change).ids = set.ids := by
      unfold ids
      rw [size_modifyComponent]
    have hlisted : (set.modifyComponent id change).listedIn ns = set.listedIn ns := rfl
    rw [hids, hlisted, h.listedIn ns]
    refine List.filter_congr fun k _ => ?_
    rw [(hsame k).1, (hsame k).2]
  · rw [size_modifyComponent, (hsame k).1, (hsame k).2]
    exact h.within s hs k hk

/-- A declaration is **found by its heading**. -/
theorem findGlobal?_eq (h : set.Indexed) (ns name : String) (wantType : Bool) :
    set.findGlobal? ns name wantType =
      set.ids.find? fun id => (set.component id).heading.answers ns name wantType := by
  have hlisted : set.findGlobal? ns name wantType = (set.listedIn ns).find? fun id =>
      (set.component id).name == some name && (set.component id).isElement != wantType &&
        !(set.component id).isGroup := by
    unfold findGlobal? SchemaSet.listedIn
    cases set.schema? ns <;> rfl
  rw [hlisted, h.listedIn ns, List.find?_filter]
  refine List.find?_congr fun id _ => ?_
  rw [Bool.decide_and, Bool.decide_eq_true, Bool.decide_eq_true]
  rfl

/-- What is found exists. -/
theorem index_lt_of_findGlobal? (h : set.Indexed) {ns name : String} {wantType : Bool}
    (hid : set.findGlobal? ns name wantType = some id) : id.index < set.size := by
  rw [h.findGlobal?_eq] at hid
  exact index_lt_of_mem_ids (List.mem_of_find?_eq_some hid)

/-- An indexed set **lists** its global components. -/
theorem listed (h : set.Indexed) : set.Listed := by
  intro id hglobal
  have hid : id ∈ set.listedIn (set.component id).ns := by
    rw [h.listedIn]
    exact List.mem_filter.2 ⟨mem_ids (index_lt_of_isGlobal hglobal), by simp [hglobal]⟩
  unfold SchemaSet.listedIn at hid
  cases hschema : set.schema? (set.component id).ns with
  | none => simp [hschema] at hid
  | some s =>
    rw [hschema] at hid
    exact ⟨s, List.mem_of_find?_eq_some hschema, by simpa using List.find?_some hschema, hid⟩

/-- The **global declarations** are all that there are outside of XML Schema itself. -/
theorem mem_globalDeclarations (h : set.Indexed) : id ∈ set.globalDeclarations ↔
    (set.component id).isGlobalDeclaration = true ∧ (set.component id).ns ≠ xmlSchemaNs := by
  unfold globalDeclarations
  rw [List.mem_filter, List.mem_flatMap, and_comm]
  refine and_congr_right fun hdeclaration => ?_
  constructor
  · rintro ⟨s, hs, hid⟩
    obtain ⟨hmem, hns⟩ := List.mem_filter.1 hs
    rw [(h.within s hmem id hid).2.2]
    simpa using hns
  · intro hns
    have hglobal : (set.component id).isGlobal = true := by
      simp only [Component.isGlobalDeclaration, Bool.and_eq_true] at hdeclaration
      exact hdeclaration.1
    -- the schema of its namespace lists it
    obtain ⟨s, hs, hsame, hid⟩ := h.listed id hglobal
    refine ⟨s, List.mem_filter.2 ⟨hs, ?_⟩, hid⟩
    rw [hsame]
    simpa using hns

end Indexed

/-- The initial set is indexed. -/
theorem indexed_initial : initial.Indexed := by
  have hfold (components : List Component) (set : SchemaSet) (h : set.Indexed) :
      (components.foldl (fun set c => (set.insert c).2) set).Indexed := by
    induction components generalizing set with
    | nil => exact h
    | cons c rest ih => exact ih _ (h.insert c)
  exact hfold _ _ ⟨fun ns => rfl, fun s hs => by cases hs⟩

/-- A new component names no package. -/
theorem package_insert (set : SchemaSet) (c : Component) (ns : String) :
    ((set.insert c).2.schema? ns).bind Schema.package =
      (set.schema? ns).bind Schema.package := by
  unfold insert
  rw [schema?_modifySchema]
  · split
    · rename_i hns
      subst hns
      have hpackage (s : Schema) : (if c.isGlobal then
          { s with components := s.components ++ [⟨set.size⟩] } else s).package = s.package := by
        split <;> rfl
      rw [Option.bind_some, hpackage]
      show ((set.schema? c.ns).getD { ns := c.ns }).package = _
      cases set.schema? c.ns <;> rfl
    · rfl
  · intro s
    split <;> rfl

/-! ## What is found later -/

/-- A local component that is added is not found. -/
theorem Indexed.findGlobal?_insert (h : set.Indexed) (hlocal : c.isGlobal = false)
    (ns name : String) (wantType : Bool) :
    (set.insert c).2.findGlobal? ns name wantType = set.findGlobal? ns name wantType := by
  rw [(h.insert c).findGlobal?_eq, h.findGlobal?_eq, ids_insert, List.find?_append]
  have hnew : ((set.insert c).2.component ⟨set.size⟩).heading.answers ns name wantType = false := by
    rw [component_insert, if_pos rfl]
    exact Heading.answers_of_local hlocal ns name wantType
  rw [List.find?_cons, hnew, List.find?_nil, Option.or_none]
  refine List.find?_congr fun id hid => ?_
  rw [component_insert_of_mem hid]

/-- A change that leaves the heading of a component alone changes nothing about what is found. -/
theorem Indexed.findGlobal?_modifyComponent (h : set.Indexed) {change : Component → Component}
    (hheading : (change (set.component id)).heading = (set.component id).heading)
    (ns name : String) (wantType : Bool) :
    (set.modifyComponent id change).findGlobal? ns name wantType =
      set.findGlobal? ns name wantType := by
  have hglobal : (change (set.component id)).isGlobal = (set.component id).isGlobal :=
    congrArg Heading.isGlobal hheading
  have hns : (change (set.component id)).ns = (set.component id).ns :=
    congrArg Heading.ns hheading
  have hids : (set.modifyComponent id change).ids = set.ids := by
    unfold ids
    rw [size_modifyComponent]
  rw [(h.modifyComponent hglobal hns).findGlobal?_eq, h.findGlobal?_eq, hids]
  refine List.find?_congr fun k _ => ?_
  rw [component_modifyComponent]
  split
  · rename_i hself
    rw [hself.1, hheading]
  · rfl

end SchemaSet

end SchemaBinding
