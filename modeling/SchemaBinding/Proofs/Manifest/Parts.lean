import SchemaBinding.Proofs.Manifest.Loaded

/-! # Parts of entries
Behind the declarations of a manifest stand the parts of their entries. Each of them is a local
element, an anonymous complex type or an attribute, and its own parts stand behind it. So the global
components of a schema set are the built-in types and the declarations, in their order. -/

namespace SchemaBinding

variable {m : Manifest} {set : SchemaSet} {refs : References} {ns document sourceName : String}

/-! ## What a part is -/

/-- A **part** of an entry, at its position. -/
inductive Part (set : SchemaSet) (refs : References) (ns document : String) (id : ComponentId) :
    Prop
  | localElement {entry : ElementEntry} {type : Option ComponentId} {last : Nat}
      (typed : TypeOf set refs ns document id entry type (id.index + 1) last)
      (component : set.component id = entry.head.component ns document false type)
  /-- An anonymous type stands behind the element that carries it. -/
  | anonymousType {head : TypeHead} {elements : List ElementEntry} {content : List Particle}
      {base : Option ComponentId} {line : Option Nat} {element : ComponentId} {inner : Nat}
      (carried : (set.component element).asElement.bind ElementDecl.type = some id)
      (before : element.index < id.index) (derives : refs.Answers ns head.base base)
      (contents : Contents set refs ns document elements content (id.index + 1) inner)
      (attributes : Attributes set refs ns document head.attributes
        (ComponentId.following inner head.attributes.length))
      (component : set.component id = head.anonymous ns document line element base content
        (ComponentId.following inner head.attributes.length))
  | localAttribute {entry : AttributeEntry} {type : Option ComponentId}
      (typed : refs.Answers ns entry.type type)
      (component : set.component id = entry.component ns document type)

/-- Attributes are parts. -/
theorem Attributes.part {entries : List AttributeEntry} {attributes : List ComponentId}
    (h : Attributes set refs ns document entries attributes) :
    ∀ id ∈ attributes, Part set refs ns document id := by
  intro id hid
  obtain ⟨i, hi, rfl⟩ := List.mem_iff_getElem.1 hid
  have hentry : i < entries.length := h.length_eq ▸ hi
  obtain ⟨type, htyped, hcomponent⟩ := List.forall₂_iff_get.1 h |>.2 i hentry hi
  exact .localAttribute htyped hcomponent

mutual

/-- All that stands between the ends of a content is a **part**. -/
theorem Contents.part {entries : List ElementEntry} {particles : List Particle} {first last : Nat} :
    Contents set refs ns document entries particles first last → ∀ k : ComponentId,
      first ≤ k.index → k.index < last → Part set refs ns document k
  | .nil, _, hk, hk' => absurd hk (Nat.not_le.2 hk')
  | .reference _ _ _ later, k, hk, hk' => later.part k hk hk'
  | @Contents.declaration _ _ _ _ entry _ _ _ inner _ type _ _ typed element later, k, hk, hk' => by
    rcases Nat.lt_or_ge k.index inner with hinner | hinner
    · rcases Nat.eq_or_lt_of_le hk with rfl | hbehind
      · exact .localElement typed element
      · refine typed.part ?_ (Nat.lt_succ_self _) k hbehind hinner
        rw [element]
        rfl
    · exact later.part k hinner hk'

/-- All that stands behind an element that carries its type is a **part**. -/
theorem TypeOf.part {element : ComponentId} {entry : ElementEntry} {type : Option ComponentId}
    {first last : Nat} : TypeOf set refs ns document element entry type first last →
      (set.component element).asElement.bind ElementDecl.type = type → element.index < first →
        ∀ k : ComponentId, first ≤ k.index → k.index < last → Part set refs ns document k
  | .plain _, _, _, _, hk, hk' => absurd hk (Nat.not_le.2 hk')
  | @TypeOf.typed _ _ _ _ _ _ _ _ _ _ inner _ derives contents attributes anonymous, hcarried,
      hbefore, k, hk, hk' => by
    rcases Nat.lt_or_ge k.index inner with hinner | hinner
    · rcases Nat.eq_or_lt_of_le hk with rfl | hbehind
      · exact .anonymousType hcarried hbefore derives contents attributes anonymous
      · exact contents.part k hbehind hinner
    · exact attributes.part k (ComponentId.mem_following.2 ⟨hinner, hk'⟩)

end

/-- Parts are local. -/
theorem Part.isGlobal {k : ComponentId} (h : Part set refs ns document k) :
    (set.component k).isGlobal = false := by
  cases h with
  | localElement _ component => rw [component, ElementHead.component]
  | anonymousType _ _ _ _ _ component => rw [component, TypeHead.anonymous]
  | localAttribute _ component => rw [component, AttributeEntry.component]

/-! ## What a declaration is -/

namespace Declaration.Describes

variable {d : Declaration} {id : ComponentId} {first last : Nat}

/-- A described declaration goes by what it was declared as. -/
theorem heading (h : d.Describes set refs id first last) :
    (set.component id).heading = d.placeholder.heading := by
  obtain ⟨ns, document, entry⟩ := d
  cases h with
  | simpleType declares _ component =>
    subst declares
    rw [component]
    rfl
  | complexType declares _ _ _ component =>
    subst declares
    rw [component]
    rfl
  | element declares _ _ component =>
    subst declares
    rw [component]
    rfl

/-- The parts of a declaration stand behind where they begin. -/
theorem le (h : d.Describes set refs id first last) : first ≤ last := by
  cases h with
  | simpleType => exact Nat.le_refl _
  | complexType _ _ contents => exact Nat.le_trans contents.le (Nat.le_add_right _ _)
  | element _ _ typed => exact typed.le

/-- All that belongs to a declaration is a **part**. -/
theorem part (h : d.Describes set refs id first last) (hid : id.index < first) (k : ComponentId)
    (hk : first ≤ k.index) (hk' : k.index < last) : ∃ ns document, Part set refs ns document k := by
  refine ⟨d.ns, d.document, ?_⟩
  cases h with
  | simpleType => exact absurd hk (Nat.not_le.2 hk')
  | @complexType _ _ _ inner _ _ _ contents attributes =>
    rcases Nat.lt_or_ge k.index inner with hinner | hinner
    · exact contents.part k hk hinner
    · exact attributes.part k (ComponentId.mem_following.2 ⟨hinner, hk'⟩)
  | element _ _ typed component =>
    refine typed.part ?_ hid k hk hk'
    rw [component]
    rfl

end Declaration.Describes

namespace Task.Describe

variable {tasks : List Task} {first last : Nat}

/-- The parts of declarations stand at positions in ascending order. -/
theorem le (h : Task.Describe set refs tasks first last) : first ≤ last := by
  induction h with
  | nil => exact Nat.le_refl _
  | cons describes _ ih => exact Nat.le_trans describes.le ih

/-- Each declaration is described, with its parts behind all declarations. -/
theorem exists_describes (h : Task.Describe set refs tasks first last) :
    ∀ t ∈ tasks, ∃ inner outer, first ≤ inner ∧ t.1.Describes set refs t.2 inner outer := by
  induction h with
  | nil => simp
  | @cons t rest first inner last describes later ih =>
    refine List.forall_mem_cons.2 ⟨⟨first, inner, Nat.le_refl _, describes⟩, fun t ht => ?_⟩
    obtain ⟨inner', outer, hle, hdescribes⟩ := ih t ht
    exact ⟨inner', outer, Nat.le_trans describes.le hle, hdescribes⟩

/-- All that belongs to declarations is a **part**. -/
theorem part (h : Task.Describe set refs tasks first last) (hid : ∀ t ∈ tasks, t.2.index < first)
    (k : ComponentId) (hk : first ≤ k.index) (hk' : k.index < last) :
    ∃ ns document, Part set refs ns document k := by
  induction h with
  | nil => exact absurd hk (Nat.not_le.2 hk')
  | @cons t rest first inner last describes later ih =>
    obtain ⟨hfirst, hrest⟩ := List.forall_mem_cons.1 hid
    rcases Nat.lt_or_ge k.index inner with hinner | hinner
    · exact describes.part hfirst k hk hinner
    · exact ih (fun t ht => Nat.lt_of_lt_of_le (hrest t ht) describes.le) hinner hk'

end Task.Describe

/-! ## What a schema set consists of -/

/-- The ids of the components of a set stand one after the other. -/
theorem SchemaSet.ids_eq_following (set : SchemaSet) :
    set.ids = ComponentId.following 0 set.size := by
  unfold ids ComponentId.following
  rw [List.range_eq_range']

/-- What follows up to some position and what follows from there on is all that follows. -/
theorem ComponentId.following_add (first count more : Nat) :
    following first (count + more) = following first count ++ following (first + count) more := by
  unfold following
  rw [← List.range'_append_1, List.map_append]

namespace Manifest.Describes

/-- A component is a **built-in type**, a **declaration** of the manifest or a **part** of one. -/
inductive Role (m : Manifest) (sourceName : String) (set : SchemaSet) (id : ComponentId) : Prop
  | builtin (index : id.index < SchemaSet.initial.size)
      (component : set.component id = SchemaSet.initial.component id)
  | declaration {d : Declaration} {first last : Nat} (declared : (d, id) ∈ m.tasks sourceName)
      (before : id.index < first)
      (describes : d.Describes set (m.references sourceName) id first last)
  | part {ns document : String} (part : Part set (m.references sourceName) ns document id)

/-- Declarations stand right behind the built-in types. -/
theorem index_lt_of_mem_tasks {t : Task} (ht : t ∈ m.tasks sourceName) :
    t.2.index < SchemaSet.initial.size + (m.declarations sourceName).length :=
  (Declaration.index_of_mem_tasks ht).2

variable (h : m.Describes sourceName set)

include h

/-- Every component of a described set has a role. -/
theorem role {id : ComponentId} (hid : id.index < set.size) : Role m sourceName set id := by
  rcases Nat.lt_or_ge id.index SchemaSet.initial.size with hinitial | hinitial
  · exact .builtin hinitial (h.builtin id hinitial)
  rcases Nat.lt_or_ge id.index
    (SchemaSet.initial.size + (m.declarations sourceName).length) with hdeclared | hdeclared
  · obtain ⟨d, hd⟩ := Declaration.exists_mem_tasks hinitial hdeclared
    obtain ⟨first, last, hfirst, hdescribes⟩ := h.declarations.exists_describes _ hd
    exact .declaration hd (Nat.lt_of_lt_of_le hdeclared hfirst) hdescribes
  · obtain ⟨ns, document, hpart⟩ :=
      h.declarations.part (fun _ => index_lt_of_mem_tasks) id hdeclared hid
    exact .part hpart

/-- Behind the built-in types stand the declarations, and then all parts. -/
theorem ids_eq : set.ids = SchemaSet.initial.ids ++ (m.tasks sourceName).map Prod.snd ++
    ComponentId.following (SchemaSet.initial.size + (m.declarations sourceName).length)
      (set.size - (SchemaSet.initial.size + (m.declarations sourceName).length)) := by
  have happend (first more : Nat) : ComponentId.following 0 (first + more) =
      ComponentId.following 0 first ++ ComponentId.following first more := by
    rw [ComponentId.following_add, Nat.zero_add]
  rw [SchemaSet.ids_eq_following, SchemaSet.ids_eq_following, tasks, Declaration.snd_tasks,
    ← happend, ← happend, Nat.add_sub_cancel' h.declarations.le]

/-- A declared component has the heading of its declaration. -/
theorem heading_of_mem_tasks {t : Task} (ht : t ∈ m.tasks sourceName) :
    (set.component t.2).heading = t.1.placeholder.heading := by
  obtain ⟨_, _, _, hdescribes⟩ := h.declarations.exists_describes t ht
  exact hdescribes.heading

/-- What stands before the parts is global. -/
theorem isGlobal_of_index_lt {id : ComponentId}
    (hid : id.index < SchemaSet.initial.size + (m.declarations sourceName).length) :
    (set.component id).isGlobal = true := by
  rcases Nat.lt_or_ge id.index SchemaSet.initial.size with hinitial | hinitial
  · have hglobal : ∀ id ∈ SchemaSet.initial.ids,
        (SchemaSet.initial.component id).isGlobal = true := by
      decide +kernel
    rw [h.builtin id hinitial]
    exact hglobal id (SchemaSet.mem_ids hinitial)
  · obtain ⟨d, hd⟩ := Declaration.exists_mem_tasks hinitial hid
    exact congrArg Heading.isGlobal (h.heading_of_mem_tasks hd)

/-- What is not global is a **part**. -/
theorem part_of_local {id : ComponentId} (hid : id.index < set.size)
    (hlocal : (set.component id).isGlobal = false) :
    ∃ ns document, Part set (m.references sourceName) ns document id := by
  refine h.declarations.part (fun _ => index_lt_of_mem_tasks) id
    (Nat.not_lt.1 fun hbefore => ?_) hid
  rw [h.isGlobal_of_index_lt hbefore] at hlocal
  cases hlocal

/-- The schema of a namespace lists the built-in types and the declarations of the namespace **in
the order in which they are written**, whichever schemas of the manifest they stand in. -/
theorem listedIn (ns : String) : set.listedIn ns = SchemaSet.initial.listedIn ns ++
    ((m.tasks sourceName).filter fun t => t.1.ns == ns).map Prod.snd := by
  rw [h.indexed.listedIn, SchemaSet.indexed_initial.listedIn, h.ids_eq, List.filter_append,
    List.filter_append, List.filter_map]
  have hbuiltin : SchemaSet.initial.ids.filter (fun id =>
      (set.component id).isGlobal && (set.component id).ns == ns) =
        SchemaSet.initial.ids.filter fun id => (SchemaSet.initial.component id).isGlobal &&
          (SchemaSet.initial.component id).ns == ns :=
    List.filter_congr fun id hid => by rw [h.builtin id (SchemaSet.index_lt_of_mem_ids hid)]
  have hdeclared : (m.tasks sourceName).filter ((fun id =>
      (set.component id).isGlobal && (set.component id).ns == ns) ∘ Prod.snd) =
        (m.tasks sourceName).filter fun t => t.1.ns == ns := by
    refine List.filter_congr fun t ht => ?_
    have hheading := h.heading_of_mem_tasks ht
    have hglobal : (set.component t.2).isGlobal = true := congrArg Heading.isGlobal hheading
    have hns : (set.component t.2).ns = t.1.ns := congrArg Heading.ns hheading
    rw [Function.comp_apply, hglobal, hns, Bool.true_and]
  have hparts : (ComponentId.following (SchemaSet.initial.size + (m.declarations sourceName).length)
      (set.size - (SchemaSet.initial.size + (m.declarations sourceName).length))).filter (fun id =>
        (set.component id).isGlobal && (set.component id).ns == ns) = [] := by
    refine List.filter_eq_nil_iff.2 fun id hid => ?_
    obtain ⟨hfirst, hlast⟩ := ComponentId.mem_following.1 hid
    rw [Nat.add_sub_cancel' h.declarations.le] at hlast
    obtain ⟨_, _, hpart⟩ := h.declarations.part (fun _ => index_lt_of_mem_tasks) id hfirst hlast
    simp [hpart.isGlobal]
  rw [hbuiltin, hdeclared, hparts, List.append_nil]

end Manifest.Describes

end SchemaBinding
