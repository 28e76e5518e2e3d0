import SchemaBinding.Proofs.Manifest.Parts

/-! # Ownership
A component may own the local components that it mentions: an element its anonymous type, a complex
type its local elements and its attributes. In the schema set of a manifest, every local component
is owned exactly once. -/

namespace SchemaBinding

variable {m : Manifest} {set : SchemaSet} {refs : References} {ns document sourceName : String}
  {k : ComponentId}

/-! ## Owned components -/

/-- What a component may own: the type of an element, or the attributes of a complex type and the
terms of its content. -/
def Component.parts (c : Component) : List ComponentId :=
  match c.kind with
  | .element decl => decl.type.toList
  | .complexType type => type.attributes ++ type.content.map Particle.term
  | _ => []

namespace SchemaSet

/-- Whether a component is not global. -/
def isLocal (set : SchemaSet) (id : ComponentId) : Bool := !(set.component id).isGlobal

/-- The components that a component **owns**. -/
def owned (set : SchemaSet) (id : ComponentId) : List ComponentId :=
  (set.component id).parts.filter set.isLocal

/-- A component without parts owns nothing. -/
theorem owned_of_parts (h : (set.component k).parts = []) : set.owned k = [] := by
  rw [owned, h, List.filter_nil]

/-- An element owns its anonymous type, if it has one. -/
theorem owned_of_element {decl : ElementDecl} (h : (set.component k).kind = .element decl) :
    set.owned k = decl.type.toList.filter set.isLocal := by
  rw [owned, Component.parts, h]

/-- A complex type owns its attributes and its local elements. -/
theorem owned_of_complexType {type : ComplexType}
    (h : (set.component k).kind = .complexType type) : set.owned k =
      type.attributes.filter set.isLocal ++
        (type.content.map Particle.term).filter set.isLocal := by
  rw [owned, Component.parts, h, ← List.filter_append]

/-- Built-in types have no parts. -/
theorem parts_initial (h : k.index < initial.size) : (initial.component k).parts = [] := by
  have hnone : ∀ id ∈ initial.ids, (initial.component id).parts = [] := by
    decide +kernel
  exact hnone k (mem_ids h)

end SchemaSet

/-- What is owned in total exactly once is owned by **one owner**. -/
theorem exists_owner_of_count {α β : Type} [DecidableEq β] {owners : List α}
    {owned : α → List β} {b : β}
    (hnodup : owners.Nodup) (h : (owners.flatMap owned).count b = 1) :
    ∃ a ∈ owners, (owned a).count b = 1 ∧ ∀ a' ∈ owners, b ∈ owned a' → a' = a := by
  induction owners with
  | nil => cases h
  | cons a rest ih =>
    obtain ⟨hfresh, hnodup⟩ := List.nodup_cons.1 hnodup
    rw [List.flatMap_cons, List.count_append] at h
    by_cases hfirst : b ∈ owned a
    -- the one time that it is owned is the first owner's, or else it is left for the others
    · have hpos := List.count_pos_iff.2 hfirst
      have hrest : (rest.flatMap owned).count b = 0 := by omega
      refine ⟨a, List.mem_cons_self, by omega, List.forall_mem_cons.2 ⟨fun _ => rfl, ?_⟩⟩
      intro a' ha' hb
      exact absurd (List.mem_flatMap.2 ⟨a', ha', hb⟩) (List.count_eq_zero.1 hrest)
    · rw [List.count_eq_zero.2 hfirst, Nat.zero_add] at h
      obtain ⟨a', ha', hcount, hunique⟩ := ih hnodup h
      refine ⟨a', .tail _ ha', hcount, List.forall_mem_cons.2 ⟨fun hb => absurd hb hfirst, hunique⟩⟩

/-! ## Positions between two ends -/

namespace ComponentId

/-- The positions from one on up to another. -/
def between (first last : Nat) : List ComponentId := following first (last - first)

@[simp] theorem between_self (first : Nat) : between first first = [] := by
  simp [between, following]

/-- The positions between two others include the first, but not the last. -/
theorem mem_between {first last : Nat} :
    k ∈ between first last ↔ first ≤ k.index ∧ k.index < last := by
  unfold between
  rw [mem_following]
  omega

/-- The positions up to one and from there on are all of them. -/
theorem between_append {first inner last : Nat} (h : first ≤ inner) (h' : inner ≤ last) :
    between first last = between first inner ++ between inner last := by
  unfold between
  rw [← Nat.add_sub_of_le h, Nat.add_sub_cancel_left, ← following_add]
  congr 1
  omega

/-- The positions between two others begin with the first. -/
theorem between_eq_cons {first last : Nat} (h : first < last) :
    between first last = ⟨first⟩ :: between (first + 1) last := by
  rw [between_append (Nat.le_succ first) h]
  simp [between, following]

/-- As many positions as are counted from one on follow it. -/
theorem between_add (first count : Nat) :
    between first (first + count) = following first count := by
  rw [between, Nat.add_sub_cancel_left]

/-- No position follows twice. -/
theorem nodup_following (first count : Nat) : (following first count).Nodup :=
  List.Nodup.map (fun _ _ hsame => congrArg index hsame) List.nodup_range'

end ComponentId

/-! ## Counting owners -/

open ComponentId (between between_append between_eq_cons between_add)

/-- What references mean is **global**. -/
structure References.Global (refs : References) (set : SchemaSet) : Prop where
  type : ∀ ns name id, refs.type? ns name = some id → (set.component id).isGlobal = true
  element : ∀ ns name id, refs.element? ns name = some id → (set.component id).isGlobal = true

/-- A type that is referred to is not owned. -/
theorem References.Answers.filter_isLocal (hrefs : refs.Global set) {reference : Option String}
    {type : Option ComponentId} (h : refs.Answers ns reference type) :
    type.toList.filter set.isLocal = [] := by
  cases type with
  | none => rfl
  | some id =>
    obtain ⟨name, -, hid⟩ := h.exists_name rfl
    simp [SchemaSet.isLocal, hrefs.type _ _ _ hid]

/-- Attributes are local, and own nothing. -/
theorem Attributes.owned {entries : List AttributeEntry} {attributes : List ComponentId}
    (h : Attributes set refs ns document entries attributes) :
    attributes.filter set.isLocal = attributes ∧ attributes.flatMap set.owned = [] := by
  induction h with
  | nil => exact ⟨rfl, rfl⟩
  | @cons entry id _ _ hfirst _ ih =>
    obtain ⟨type, -, hcomponent⟩ := hfirst
    have hlocal : set.isLocal id = true := by
      rw [SchemaSet.isLocal, hcomponent]
      rfl
    refine ⟨by rw [List.filter_cons_of_pos hlocal, ih.1], ?_⟩
    rw [List.flatMap_cons, ih.2, SchemaSet.owned_of_parts, List.nil_append]
    rw [hcomponent]
    rfl

mutual

/-- Between the ends of a content, each component is a local term of the content or **owned** by
another component there, and only once. -/
theorem Contents.count_owned (hrefs : refs.Global set) (k : ComponentId)
    {entries : List ElementEntry} {particles : List Particle} {first last : Nat} :
    Contents set refs ns document entries particles first last →
      (between first last).count k = ((particles.map Particle.term).filter set.isLocal).count k +
        ((between first last).flatMap set.owned).count k
  | .nil => by simp
  | .reference _ _ means later => by
    have hglobal := hrefs.element _ _ _ means
    rw [later.count_owned hrefs k, List.map_cons, List.filter_cons_of_neg]
    simp [SchemaSet.isLocal, hglobal]
  | @Contents.declaration _ _ _ _ entry _ _ first inner last type _ _ typed element later => by
    have hlocal : set.isLocal ⟨first⟩ = true := by
      rw [SchemaSet.isLocal, element]
      rfl
    have howned : set.owned ⟨first⟩ = type.toList.filter set.isLocal :=
      SchemaSet.owned_of_element (congrArg Component.kind element)
    -- the element itself is a term, its parts come right behind it and then the other terms
    have hinside := typed.count_owned hrefs k
    have hbehind := later.count_owned hrefs k
    have hinner := typed.le
    rw [between_append (Nat.le_of_succ_le hinner) later.le, between_eq_cons hinner]
    simp only [List.map_cons, List.filter_cons_of_pos hlocal, List.cons_append, List.flatMap_cons,
      List.flatMap_append, List.count_cons, List.count_append, howned]
    omega

/-- Behind an element, each component is its anonymous type or **owned** by another component there,
and only once. -/
theorem TypeOf.count_owned (hrefs : refs.Global set) (k : ComponentId) {element : ComponentId}
    {entry : ElementEntry} {type : Option ComponentId} {first last : Nat} :
    TypeOf set refs ns document element entry type first last →
      (between first last).count k = (type.toList.filter set.isLocal).count k +
        ((between first last).flatMap set.owned).count k
  | .plain typed => by simp [typed.filter_isLocal hrefs]
  | @TypeOf.typed _ _ _ _ _ _ head _ content first inner base _ contents attributes anonymous => by
    have hlocal : set.isLocal ⟨first⟩ = true := by
      rw [SchemaSet.isLocal, anonymous]
      rfl
    -- the anonymous type owns its attributes, which stand last, and the local terms of its content
    obtain ⟨hattributes, hnone⟩ := attributes.owned
    have howned : set.owned ⟨first⟩ = ComponentId.following inner head.attributes.length ++
        (content.map Particle.term).filter set.isLocal := by
      refine (SchemaSet.owned_of_complexType (congrArg Component.kind anonymous)).trans ?_
      exact congrArg (· ++ _) hattributes
    have hinside := contents.count_owned hrefs k
    have hinner := contents.le
    rw [between_append (Nat.le_of_succ_le hinner) (Nat.le_add_right _ _), between_eq_cons hinner,
      between_add]
    simp only [Option.toList_some, List.filter_cons_of_pos hlocal, List.filter_nil,
      List.cons_append, List.flatMap_cons, List.flatMap_append, List.count_cons, List.count_append,
      howned, hnone, List.count_nil]
    omega

end

/-- The parts of a declaration are **owned** by the declaration or by each other, and only once. -/
theorem Declaration.Describes.count_owned (hrefs : refs.Global set) (k : ComponentId)
    {d : Declaration} {id : ComponentId} {first last : Nat}
    (h : d.Describes set refs id first last) :
    (between first last).count k = (set.owned id).count k +
      ((between first last).flatMap set.owned).count k := by
  cases h with
  | simpleType _ _ component =>
    rw [SchemaSet.owned_of_parts (by rw [component]; rfl)]
    simp
  | @complexType entry content _ inner base _ _ contents attributes component =>
    obtain ⟨hattributes, hnone⟩ := attributes.owned
    have howned : set.owned id = ComponentId.following inner entry.head.attributes.length ++
        (content.map Particle.term).filter set.isLocal := by
      refine (SchemaSet.owned_of_complexType (congrArg Component.kind component)).trans ?_
      exact congrArg (· ++ _) hattributes
    have hinside := contents.count_owned hrefs k
    rw [between_append contents.le (Nat.le_add_right _ _), between_add]
    simp only [List.flatMap_append, List.count_append, howned, hnone, List.count_nil]
    omega
  | element _ _ typed component =>
    rw [SchemaSet.owned_of_element (congrArg Component.kind component)]
    exact typed.count_owned hrefs k

/-- The parts of declarations are **owned** by the declarations or by each other, and only once. -/
theorem Task.Describe.count_owned (hrefs : refs.Global set) (k : ComponentId) {tasks : List Task}
    {first last : Nat} (h : Task.Describe set refs tasks first last) :
    (between first last).count k = ((tasks.map Prod.snd).flatMap set.owned).count k +
      ((between first last).flatMap set.owned).count k := by
  induction h with
  | nil => simp
  | cons describes later ih =>
    have hfirst := describes.count_owned hrefs k
    rw [between_append describes.le later.le]
    simp only [List.map_cons, List.flatMap_cons, List.flatMap_append, List.count_append]
    omega

/-! ## One owner -/

namespace Manifest.Describes

/-- What is found by its name goes by the kind that was looked for. -/
theorem of_findGlobal? (h : m.Describes sourceName set) {ns name : String} {wantType : Bool}
    (hk : set.findGlobal? ns name wantType = some k) :
    (set.component k).isGlobal = true ∧ (set.component k).isElement = !wantType := by
  rw [h.indexed.findGlobal?_eq] at hk
  have hanswers := List.find?_some hk
  simp only [Heading.answers, Component.heading, Bool.and_eq_true, bne_iff_ne] at hanswers
  exact ⟨hanswers.1.1, Bool.eq_not.2 hanswers.2.1.2⟩

/-- A type that is referred to is global, and no element. -/
theorem of_type? (h : m.Describes sourceName set) {ns name : String}
    (hk : (m.references sourceName).type? ns name = some k) :
    (set.component k).isGlobal = true ∧ (set.component k).isElement = false := by
  rw [← h.references] at hk
  change Loading.findType? set ns name = some k at hk
  unfold Loading.findType? at hk
  split at hk
  · have hinitial : SchemaSet.initial.Loaded fun _ => True := SchemaSet.loaded_initial
    have hindex := SchemaSet.index_lt_of_isGlobal (Loading.isGlobal_of_builtin? hinitial hk)
    have htypes : ∀ id ∈ SchemaSet.initial.ids, (SchemaSet.initial.component id).isGlobal = true ∧
        (SchemaSet.initial.component id).isElement = false := by
      decide +kernel
    rw [h.builtin k hindex]
    exact htypes k (SchemaSet.mem_ids hindex)
  · exact h.of_findGlobal? hk

/-- What a name stands for in the schema set of a manifest is global. -/
theorem global_references (h : m.Describes sourceName set) :
    (m.references sourceName).Global set := by
  refine ⟨fun ns name id hid => (h.of_type? hid).1, fun ns name id hid => ?_⟩
  rw [← h.references] at hid
  exact (h.of_findGlobal? hid).1

/-- All owners together own what stands behind the declarations, and all of it **once**. -/
theorem count_owned (h : m.Describes sourceName set) (k : ComponentId) :
    (set.ids.flatMap set.owned).count k = (between (SchemaSet.initial.size +
      (m.declarations sourceName).length) set.size).count k := by
  have hbuiltin : SchemaSet.initial.ids.flatMap set.owned = [] := by
    refine List.flatMap_eq_nil_iff.2 fun id hid => SchemaSet.owned_of_parts ?_
    rw [h.builtin id (SchemaSet.index_lt_of_mem_ids hid)]
    exact SchemaSet.parts_initial (SchemaSet.index_lt_of_mem_ids hid)
  rw [h.declarations.count_owned h.global_references, h.ids_eq]
  simp only [List.flatMap_append, List.count_append, hbuiltin, List.count_nil, Nat.zero_add,
    between]

/-- A local component is owned **once** in total. -/
theorem count_owned_of_local (h : m.Describes sourceName set) (hk : k.index < set.size)
    (hlocal : set.isLocal k = true) : (set.ids.flatMap set.owned).count k = 1 := by
  rw [h.count_owned k]
  refine List.count_eq_one_of_mem (ComponentId.nodup_following _ _)
    (ComponentId.mem_between.2 ⟨?_, hk⟩)
  -- what stands before the parts is global
  by_contra hbefore
  simp [SchemaSet.isLocal, h.isGlobal_of_index_lt (Nat.not_le.1 hbefore)] at hlocal

/-- Every local component has **one owner**, which owns it only once. -/
theorem exists_owner (h : m.Describes sourceName set) (hk : k.index < set.size)
    (hlocal : set.isLocal k = true) : ∃ owner ∈ set.ids, (set.owned owner).count k = 1 ∧
      ∀ other ∈ set.ids, k ∈ set.owned other → other = owner := by
  have hnodup : set.ids.Nodup := by
    rw [set.ids_eq_following]
    exact ComponentId.nodup_following _ _
  exact exists_owner_of_count hnodup (h.count_owned_of_local hk hlocal)

end Manifest.Describes

end SchemaBinding
