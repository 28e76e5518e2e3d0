import SchemaBinding.Manifest.Decode
import SchemaBinding.Proofs.Reordering.Decoding
import SchemaBinding.Proofs.Reordering.Manifest

/-! # Rearranged documents
The document of a manifest may list its schemas, and the declarations of each of them, in another
order. It is decoded to the manifest in that order, or both documents are refused. What lies inside
a declaration stays as it is. -/

namespace SchemaBinding

open Toml (Value Entries Decoder TableForm)

variable {v w : Value} {items items' : List Value} {entries entries' : Entries}

namespace Toml

/-! ## Arrays in another order -/

/-- The items of an array, however it is written. -/
def Value.items? : Value → Option (List Value)
  | .array items | .tables items => some items
  | _ => none

/-- Arrays of the same items **in another order**. -/
def Shuffled (v w : Value) : Prop :=
  ∃ items items', v.items? = some items ∧ w.items? = some items' ∧ items.Perm items'

/-- A list is decoded item by item, however the array is written. -/
theorem list_of_items? {α : Type} (decode : Decoder α) (h : v.items? = some items) :
    list decode v = items.mapM decode := by
  cases v with
  | array | tables =>
    cases h
    rfl
  | _ => cases h

/-- An array in another order is decoded to the results **in another order**. -/
theorem Shuffled.agree_list {α : Type} (h : Shuffled v w) (decode : Decoder α) :
    Agree List.Perm (list decode v) (list decode w) := by
  obtain ⟨items, items', hv, hw, hperm⟩ := h
  rw [list_of_items? decode hv, list_of_items? decode hw]
  exact agree_mapM_perm decode hperm

/-! ## Depths -/

/-- An array is one deeper than its items. -/
theorem depth_of_items? (h : v.items? = some items) : v.depth = itemsDepth items + 1 := by
  cases v with
  | array | tables =>
    cases h
    rw [Value.depth]
  | _ => cases h

/-- The depth of items does not depend on their order. -/
theorem itemsDepth_perm (h : items.Perm items') : itemsDepth items = itemsDepth items' := by
  induction h with
  | nil => rfl
  | cons v _ ih => rw [itemsDepth, itemsDepth, ih]
  | swap v w rest => simp only [itemsDepth, Nat.max_left_comm]
  | trans _ _ ih ih' => rw [ih, ih']

/-- Items that are as deep one by one are as deep together. -/
theorem itemsDepth_forall₂ {Q : Value → Value → Prop} (h : List.Forall₂ Q items items')
    (hdepth : ∀ v w, Q v w → v.depth = w.depth) : itemsDepth items = itemsDepth items' := by
  induction h with
  | nil => rfl
  | cons hitem _ ih => rw [itemsDepth, itemsDepth, hdepth _ _ hitem, ih]

/-- Entries are as deep as their values. -/
theorem entriesDepth_eq (entries : Entries) :
    entriesDepth entries = itemsDepth (entries.map Prod.snd) := by
  induction entries with
  | nil => rw [entriesDepth, List.map_nil, itemsDepth]
  | cons entry rest ih => rw [entriesDepth, List.map_cons, itemsDepth, ih]

/-- Shuffled arrays are as deep as before. -/
theorem Shuffled.depth_eq (h : Shuffled v w) : v.depth = w.depth := by
  obtain ⟨items, items', hv, hw, hperm⟩ := h
  rw [depth_of_items? hv, depth_of_items? hw, itemsDepth_perm hperm]

/-- Rearranged tables are as deep as each other. -/
theorem Rearranged.entriesDepth_eq {Q : String → Value → Value → Prop}
    (h : Rearranged Q entries entries') (hdepth : ∀ key v w, Q key v w → v.depth = w.depth) :
    entriesDepth entries = entriesDepth entries' := by
  obtain ⟨same, hsame, horder⟩ := h
  have hfirst : itemsDepth (entries.map Prod.snd) = itemsDepth (same.map Prod.snd) := by
    refine itemsDepth_forall₂ (Q := fun v w => v.depth = w.depth) ?_ fun _ _ => id
    rw [List.forall₂_map_left_iff, List.forall₂_map_right_iff]
    exact hsame.imp fun _ _ hentry => hdepth _ _ _ hentry.2
  rw [Toml.entriesDepth_eq, Toml.entriesDepth_eq, hfirst]
  rcases horder with rfl | ⟨-, hperm⟩
  · rfl
  · exact itemsDepth_perm (hperm.map Prod.snd)

/-- A field that is decoded to related values puts them into related records. -/
theorem Field.agree_of {σ α : Type} {R : σ → σ → Prop} {S : α → α → Prop} {name : String}
    {absence : Absence} {decode : Decoder α} {put : α → σ → σ} {record record' : σ}
    (hdecode : Agree S (decode v) (decode w))
    (hput : ∀ a b, S a b → R (put a record) (put b record')) :
    Agree R ((Field.of name absence decode put).read v record)
      ((Field.of name absence decode put).read w record') :=
  hdecode.map hput

end Toml

/-! ## Schemas -/

namespace SchemaEntry

/-- The keys of a schema whose values are lists of declarations. -/
def listKeys : List String := ["element", "complex_type", "simple_type"]

/-- What may stand behind a key of a schema instead: declarations may stand in another order. -/
def Permits (key : String) (v w : Value) : Prop := v = w ∨ key ∈ listKeys ∧ Toml.Shuffled v w

/-- Tables of schemas are **rearranged** when its declarations stand in another order. -/
inductive Rearranged : Value → Value → Prop
  | same (v : Value) : Rearranged v v
  | table {form form' : TableForm} {entries entries' : Entries}
      (rearranged : Toml.Rearranged Permits entries entries') :
      Rearranged (.table form entries) (.table form' entries')

/-- What may stand instead behind a key of a schema is as deep. -/
theorem Permits.depth_eq {key : String} (h : Permits key v w) : v.depth = w.depth := by
  rcases h with rfl | ⟨-, hshuffled⟩
  · rfl
  · exact hshuffled.depth_eq

/-- A rearranged table of a schema is as deep as before. -/
theorem Rearranged.depth_eq (h : Rearranged v w) : v.depth = w.depth := by
  cases h with
  | same => rfl
  | table rearranged =>
    rw [Value.depth, Value.depth, rearranged.entriesDepth_eq fun _ _ _ => Permits.depth_eq]

/-- A field whose key is no list of declarations is read from the same value. -/
theorem Permits.agree_field {α : Type} {name : String} {absence : Toml.Absence}
    {decode : Decoder α} {put : α → SchemaEntry → SchemaEntry} {schema schema' : SchemaEntry}
    (h : Permits name v w) (hname : name ∉ listKeys)
    (hput : ∀ a, Reordered (put a schema) (put a schema')) :
    Toml.Agree Reordered ((Toml.Field.of name absence decode put).read v schema)
      ((Toml.Field.of name absence decode put).read w schema') := by
  obtain rfl : v = w := h.resolve_right fun hlist => hname hlist.1
  refine Toml.Field.agree_of (Toml.Agree.of_eq _) ?_
  rintro a _ rfl
  exact hput a

/-- A field that lists declarations is read in another order. -/
theorem Permits.agree_listField {α : Type} {name : String} {absence : Toml.Absence}
    {decode : Decoder α} {put : List α → SchemaEntry → SchemaEntry} {schema schema' : SchemaEntry}
    (h : Permits name v w)
    (hput : ∀ items items' : List α, items.Perm items' →
      Reordered (put items schema) (put items' schema')) :
    Toml.Agree Reordered ((Toml.Field.of name absence (Toml.list decode) put).read v schema)
      ((Toml.Field.of name absence (Toml.list decode) put).read w schema') := by
  refine Toml.Field.agree_of (S := List.Perm) ?_ hput
  rcases h with rfl | ⟨-, hshuffled⟩
  · refine (Toml.Agree.of_eq _).trans (.of_eq _) ?_
    rintro a _ _ rfl rfl
    exact .refl a
  · exact hshuffled.agree_list decode

/-- A schema has its own declarations in some order. -/
theorem Reordered.refl (schema : SchemaEntry) : schema.Reordered schema :=
  ⟨rfl, rfl, rfl, .refl _, .refl _, .refl _⟩

/-- The table of a schema is decoded to the schema **in another order**. -/
theorem agree_decodeWith (complexType : Decoder ComplexTypeEntry) (h : Rearranged v w) :
    Toml.Agree Reordered (decodeWith complexType v) (decodeWith complexType w) := by
  cases h with
  | same v =>
    refine (Toml.Agree.of_eq _).trans (.of_eq _) ?_
    rintro a _ _ rfl rfl
    exact .refl a
  | table rearranged =>
    refine Toml.agree_record ?commutes ?fields rearranged (.refl {})
    case commutes =>
      simp only [List.pairwise_cons, List.forall_mem_cons, List.not_mem_nil, IsEmpty.forall_iff,
        implies_true, List.Pairwise.nil, and_true]
      and_intros <;> exact Toml.Field.commutes_of fun _ _ _ => rfl
    case fields =>
      simp only [List.forall_mem_cons, List.not_mem_nil, IsEmpty.forall_iff, implies_true, and_true]
      refine ⟨?ns, ?package, ?location, ?elements, ?complexTypes, ?simpleTypes⟩ <;>
        intro v w schema schema' hvalue hschema
      case ns =>
        exact hvalue.agree_field (by decide) fun _ => { hschema with ns := rfl }
      case package =>
        exact hvalue.agree_field (by decide) fun _ => { hschema with package := rfl }
      case location =>
        exact hvalue.agree_field (by decide) fun _ => { hschema with location := rfl }
      case elements =>
        exact hvalue.agree_listField fun _ _ hperm => { hschema with elements := hperm }
      case complexTypes =>
        exact hvalue.agree_listField fun _ _ hperm => { hschema with complexTypes := hperm }
      case simpleTypes =>
        exact hvalue.agree_listField fun _ _ hperm => { hschema with simpleTypes := hperm }

end SchemaEntry

/-! ## Manifests -/

namespace Manifest

/-- What may stand behind a key of a manifest instead: schemas may stand in another order, each of
them rearranged. -/
def Permits (key : String) (v w : Value) : Prop :=
  v = w ∨ key = "schema" ∧ ∃ items same items', v.items? = some items ∧ w.items? = some items' ∧
    List.Forall₂ SchemaEntry.Rearranged items same ∧ same.Perm items'

/-- Documents of manifests are **rearranged** when their schemas stand in another order, and the
declarations of each schema in another order. -/
inductive Rearranged : Value → Value → Prop
  | table {form form' : TableForm} {entries entries' : Entries}
      (rearranged : Toml.Rearranged Permits entries entries') :
      Rearranged (.table form entries) (.table form' entries')

/-- What may stand instead behind a key of a manifest is as deep. -/
theorem Permits.depth_eq {key : String} (h : Permits key v w) : v.depth = w.depth := by
  rcases h with rfl | ⟨-, items, same, items', hv, hw, hsame, hperm⟩
  · rfl
  · rw [Toml.depth_of_items? hv, Toml.depth_of_items? hw, ← Toml.itemsDepth_perm hperm,
      Toml.itemsDepth_forall₂ hsame fun _ _ => SchemaEntry.Rearranged.depth_eq]

/-- A rearranged document is as deep as before. -/
theorem Rearranged.depth_eq (h : Rearranged v w) : v.depth = w.depth := by
  obtain ⟨rearranged⟩ := h
  rw [Value.depth, Value.depth, rearranged.entriesDepth_eq fun _ _ _ => Permits.depth_eq]

/-- A manifest has its own schemas in some order. -/
theorem Reordered.refl (m : Manifest) : m.Reordered m :=
  ⟨m.schemas, List.forall₂_same.2 fun _ _ => .refl _, .refl _⟩

/-- Rearranged schemas are decoded to the schemas in another order, each **reordered**. -/
theorem Permits.agree_list {key : String} (complexType : Decoder ComplexTypeEntry)
    (h : Permits key v w) :
    Toml.Agree (fun schemas schemas' => (⟨schemas⟩ : Manifest).Reordered ⟨schemas'⟩)
      (Toml.list (SchemaEntry.decodeWith complexType) v)
      (Toml.list (SchemaEntry.decodeWith complexType) w) := by
  rcases h with rfl | ⟨-, items, same, items', hv, hw, hsame, hperm⟩
  · refine (Toml.Agree.of_eq _).trans (.of_eq _) ?_
    rintro a _ _ rfl rfl
    exact .refl _
  · rw [Toml.list_of_items? _ hv, Toml.list_of_items? _ hw]
    have hfirst := Toml.agree_mapM hsame fun _ _ => SchemaEntry.agree_decodeWith complexType
    refine hfirst.trans (Toml.agree_mapM_perm _ hperm) ?_
    exact fun _ schemas _ hschemas hperm => ⟨schemas, hschemas, hperm⟩

/-- A rearranged document is decoded to the manifest **in another order**. -/
theorem agree_decode (h : Rearranged v w) : Toml.Agree Reordered (decode v) (decode w) := by
  have hdepth := h.depth_eq
  obtain ⟨rearranged⟩ := h
  unfold decode
  rw [hdepth]
  refine Toml.agree_record (List.pairwise_singleton _ _) ?_ rearranged (.refl {})
  simp only [List.mem_singleton, forall_eq]
  intro v w m m' hvalue _
  exact Toml.Field.agree_of (hvalue.agree_list _) fun _ _ hschemas => hschemas

end Manifest

end SchemaBinding
