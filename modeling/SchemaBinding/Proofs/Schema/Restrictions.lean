import SchemaBinding.Compilation
import SchemaBinding.Proofs.Schema.Assembly
import SchemaBinding.Proofs.Schema.Stages

/-! # Chains of restrictions
A simple type **ends in** a built-in one if restrictions lead from it to a type that is built in,
through simple types alone. It has the leaf of that type then, and no chain of restrictions is too
long for this: one that is longer than the set has no end. -/

namespace SchemaBinding

namespace SchemaSet

variable {set : SchemaSet} {t : ComponentId} {name name' : String} {n n' steps : Nat}

/-! ## Ends -/

/-- A simple type **ends in** a built-in one after so many restrictions: the first type on its chain
that is built in has that name. -/
inductive EndsIn (set : SchemaSet) (name : String) : ComponentId → Nat → Prop
  | builtin {t : ComponentId} {type : SimpleType}
      (htype : (set.component t).kind = .simpleType type) (hname : type.builtin = some name) :
      EndsIn set name t 0
  | restriction {t base : ComponentId} {type : SimpleType} {n : Nat}
      (htype : (set.component t).kind = .simpleType type) (hown : type.builtin = none)
      (hbase : type.base = some base) (hends : EndsIn set name base n) : EndsIn set name t (n + 1)

namespace EndsIn

/-- Only components of the set end in anything. -/
theorem index_lt (h : set.EndsIn name t n) : t.index < set.size := by
  refine Nat.lt_of_not_le fun hbeyond => ?_
  have hdefault := component_of_size_le hbeyond
  cases h with
  | builtin htype | restriction htype =>
    rw [hdefault] at htype
    cases htype

/-- A chain has **one end**. -/
theorem unique (h : set.EndsIn name t n) (h' : set.EndsIn name' t n') : name = name' ∧ n = n' := by
  induction h generalizing n' with
  | builtin htype hname =>
    cases h' with
    | builtin htype' hname' =>
      rw [htype] at htype'
      cases htype'
      exact ⟨Option.some.inj (hname.symm.trans hname'), rfl⟩
    | restriction htype' hown' =>
      rw [htype] at htype'
      cases htype'
      simp [hname] at hown'
  | restriction htype hown hbase _ ih =>
    cases h' with
    | builtin htype' hname' =>
      rw [htype] at htype'
      cases htype'
      simp [hown] at hname'
    | restriction htype' _ hbase' hends' =>
      rw [htype] at htype'
      cases htype'
      rw [hbase] at hbase'
      cases hbase'
      obtain ⟨rfl, rfl⟩ := ih hends'
      exact ⟨rfl, rfl⟩

end EndsIn

/-- What ends after fewer than so many restrictions, level by level. -/
theorem staged_endsIn (set : SchemaSet) :
    Staged set.ids fun n t => ∃ name m, m < n ∧ set.EndsIn name t m where
  mem := by
    rintro n ⟨index⟩ ⟨name, m, -, hends⟩
    simpa [ids] using hends.index_lt
  grows := by
    rintro n t ⟨name, m, hm, hends⟩
    exact ⟨name, m, by omega, hends⟩
  determined := by
    rintro n hsame t ⟨name, m, hm, hends⟩
    cases hends with
    | builtin htype hname => exact ⟨name, 0, by omega, .builtin htype hname⟩
    | restriction htype hown hbase hends =>
      -- the base ends early, so the type itself ends one restriction later
      obtain ⟨name', m', hm', hends'⟩ := hsame _ ⟨name, _, by omega, hends⟩
      exact ⟨name', m' + 1, by omega, .restriction htype hown hbase hends'⟩

/-- A chain that ends is **shorter than the set**. -/
theorem EndsIn.lt_size (h : set.EndsIn name t n) : n < set.size := by
  obtain ⟨name', m, hm, hends⟩ := set.staged_endsIn.suffices_length ⟨name, n, n.lt_succ_self, h⟩
  obtain ⟨-, rfl⟩ := h.unique hends
  simpa [ids] using hm

/-! ## Leaves -/

/-- The walk along a chain that ends finds the leaf of its end, if it goes so far. -/
theorem EndsIn.leafWithin (h : set.EndsIn name t n) (hsteps : n < steps) :
    set.leafWithin steps t = (Leaf.ofTypeName? name).getD .anySimpleType := by
  induction h generalizing steps with
  | builtin htype hname =>
    obtain ⟨steps, rfl⟩ := Nat.exists_eq_succ_of_ne_zero (by omega : steps ≠ 0)
    simp [SchemaSet.leafWithin, Component.asSimpleType_eq_some.2 htype, hname]
  | restriction htype hown hbase _ ih =>
    obtain ⟨steps, rfl⟩ := Nat.exists_eq_succ_of_ne_zero (by omega : steps ≠ 0)
    simp [SchemaSet.leafWithin, Component.asSimpleType_eq_some.2 htype, hown, hbase,
      ih (Nat.lt_of_succ_lt_succ hsteps)]

/-- The walk along a chain without an end finds `xs:anySimpleType`, however far it goes. -/
theorem leafWithin_of_endless (h : ∀ name n, ¬ set.EndsIn name t n) (steps : Nat) :
    set.leafWithin steps t = .anySimpleType := by
  induction steps generalizing t with
  | zero => rfl
  | succ steps ih =>
    cases hkind : (set.component t).asSimpleType with
    | none => simp [leafWithin, hkind]
    | some type =>
      have htype := Component.asSimpleType_eq_some.1 hkind
      cases hown : type.builtin with
      | some name => exact absurd (.builtin htype hown) (h name 0)
      | none =>
        cases hbase : type.base with
        | none => simp [leafWithin, hkind, hown, hbase]
        | some base =>
          have hrest := ih fun name n hends => h name (n + 1) (.restriction htype hown hbase hends)
          simp [leafWithin, hkind, hown, hbase, hrest]

/-- To walk further than the set is large **changes nothing**. -/
theorem leafWithin_of_size_le (hsteps : set.size ≤ steps) :
    set.leafWithin steps t = set.leaf t := by
  unfold leaf
  by_cases hends : ∃ name n, set.EndsIn name t n
  · obtain ⟨name, n, hends⟩ := hends
    rw [hends.leafWithin hends.lt_size, hends.leafWithin (Nat.lt_of_lt_of_le hends.lt_size hsteps)]
  · have hendless : ∀ name n, ¬ set.EndsIn name t n := fun name n h => hends ⟨name, n, h⟩
    rw [leafWithin_of_endless hendless, leafWithin_of_endless hendless]

end SchemaSet

/-! ## Built-in types -/

namespace ComponentKind

/-- A kind is **genuine** if it is that of a built-in type only under the name of one. -/
def IsGenuine : ComponentKind → Prop
  | .simpleType type => ∀ name ∈ type.builtin, name ∈ builtinSimpleTypes
  | _ => True

@[simp] theorem isGenuine_element (decl : ElementDecl) : (element decl).IsGenuine := trivial

@[simp] theorem isGenuine_complexType (type : ComplexType) : (complexType type).IsGenuine := trivial

@[simp] theorem isGenuine_attribute (decl : AttributeDecl) :
    (ComponentKind.attribute decl).IsGenuine := trivial

@[simp] theorem isGenuine_group (group : ModelGroup) : (ComponentKind.group group).IsGenuine :=
  trivial

@[simp] theorem isGenuine_simpleType {type : SimpleType} :
    (simpleType type).IsGenuine ↔ ∀ name ∈ type.builtin, name ∈ builtinSimpleTypes := .rfl

end ComponentKind

namespace SchemaSet

variable {set : SchemaSet} {id : ComponentId}

/-- The kinds of all components are **genuine**. -/
def Genuine (set : SchemaSet) : Prop := ∀ id, (set.component id).kind.IsGenuine

/-- A genuine component may be inserted. -/
theorem Genuine.insert (h : set.Genuine) {c : Component} (hc : c.kind.IsGenuine) :
    (set.insert c).2.Genuine := by
  intro id
  rw [component_insert]
  split
  · exact hc
  · exact h id

/-- A component may be changed to a genuine kind. -/
theorem Genuine.modifyComponent (h : set.Genuine) {f : Component → Component}
    (hf : (f (set.component id)).kind.IsGenuine) : (set.modifyComponent id f).Genuine := by
  intro k
  rw [component_modifyComponent]
  split
  · rename_i hself
    rwa [hself.1]
  · exact h k

/-- The built-in types are genuine. -/
theorem genuine_initial : initial.Genuine := by
  have hfold (components : List Component) (hgenuine : ∀ c ∈ components, c.kind.IsGenuine)
      (set : SchemaSet) (h : set.Genuine) :
      (components.foldl (fun set c => (set.insert c).2) set).Genuine := by
    induction components generalizing set with
    | nil => exact h
    | cons c rest ih =>
      exact ih (fun c hc => hgenuine c (.tail _ hc)) _ (h.insert (hgenuine c List.mem_cons_self))
  refine hfold (anyTypeComponent :: builtinSimpleTypes.map builtinComponent) (fun c hc => ?_) {}
    fun id => ?_
  · rcases List.mem_cons.1 hc with rfl | hc
    · simp [anyTypeComponent]
    · obtain ⟨name, hname, rfl⟩ := List.mem_map.1 hc
      simpa [builtinComponent] using hname
  · rw [component_of_size_le (Nat.zero_le _)]
    exact ComponentKind.isGenuine_element _

end SchemaSet

namespace Builder

open SchemaSet (Genuine)

variable {α : Type} {c : Component} {id owner term : ComponentId}

/-- Inserting a genuine component keeps the kinds genuine. -/
theorem genuine_insert (hc : c.kind.IsGenuine) : Preserves Genuine (insert c) :=
  fun _ h => h.insert hc

/-- A change that keeps the kind of a component keeps the kinds genuine. -/
theorem genuine_change {f : Component → Component} (hkind : ∀ c, (f c).kind = c.kind) :
    Preserves Genuine (change id f) :=
  .change fun _ h => h.modifyComponent (by rw [hkind]; exact h id)

/-- A change of kinds that gives no simple types, or keeps what they say to be built in. -/
theorem genuine_changeKind {f : ComponentKind → Except Misuse ComponentKind}
    (hf : ∀ kind kind', kind.IsGenuine → f kind = .ok kind' → kind'.IsGenuine) :
    Preserves Genuine (changeKind id f) :=
  .changeKind fun _ h _ hkind => h.modifyComponent (hf _ _ (h id) hkind)

/-- A particle is no built-in type. -/
theorem genuine_pushParticle : Preserves Genuine (pushParticle owner term) :=
  genuine_changeKind fun kind kind' _ hkind => by
    cases kind <;> cases hkind <;> simp

/-- Giving an element a type makes it no built-in one. -/
theorem genuine_setElementType : Preserves Genuine (setElementType owner term) :=
  genuine_changeKind fun kind kind' _ hkind => by
    cases kind with
    | element decl =>
      cases hkind
      simp
    | _ => cases hkind

/-- Building steps declare **nothing built in**. -/
theorem Call.genuine {step : Builder α} (h : Call step) : Preserves Genuine step := by
  cases h with
  | schema | package | schemaLocator => exact fun _ h => h
  | builtin name =>
    unfold Builder.builtin
    split
    · exact .pure _
    · exact .throw _
  | globalElement | globalComplexType => exact genuine_insert (by simp)
  | globalSimpleType => exact genuine_insert (by simp)
  | setElementType => exact genuine_setElementType
  | elementRef => exact genuine_pushParticle
  | setSimpleBase type base =>
    -- a simple type that is built in stays so under another base
    refine genuine_changeKind fun kind kind' hgenuine hkind => ?_
    cases kind with
    | simpleType t =>
      cases hkind
      exact hgenuine
    | _ => cases hkind
  | derive | setAbstract =>
    refine genuine_changeKind fun kind kind' _ hkind => ?_
    cases kind <;> cases hkind <;> simp
  | setRepeated owner term =>
    refine genuine_changeKind fun kind kind' _ hkind => ?_
    cases kind with
    | complexType | group =>
      dsimp only at hkind
      split at hkind
      · cases hkind
        simp
      · cases hkind
    | _ => cases hkind
  | anonymousComplexType element =>
    exact (Preserves.namespaceOf _).bind fun _ => (genuine_insert (by simp)).bind fun type =>
      genuine_setElementType.bind fun _ => .pure _
  | anonymousSimpleType element base =>
    exact (Preserves.namespaceOf _).bind fun _ =>
      (genuine_insert (by simp)).bind fun type =>
        genuine_setElementType.bind fun _ => .pure _
  | localElement owner name type =>
    exact (Preserves.namespaceOf _).bind fun _ => (genuine_insert (by simp)).bind fun _ =>
      genuine_pushParticle.bind fun _ => .pure _
  | localAttribute owner name type =>
    refine (Preserves.namespaceOf _).bind fun _ => (genuine_insert (by simp)).bind fun _ =>
      (genuine_changeKind fun kind kind' _ hkind => ?_).bind fun _ => .pure _
    cases kind with
    | complexType owner =>
      cases hkind
      simp
    | _ => cases hkind
  | group owner compositor =>
    exact (Preserves.namespaceOf _).bind fun _ => (genuine_insert (by simp)).bind fun _ =>
      genuine_pushParticle.bind fun _ => .pure _
  | setLocator | documentation | className | property => exact genuine_change fun _ => rfl

end Builder

namespace SchemaSet

variable {set : SchemaSet} {t : ComponentId} {name : String} {n : Nat}

/-- In a built set all components are **genuine**. -/
theorem Built.genuine (h : set.Built) : set.Genuine := by
  induction h with
  | initial => exact genuine_initial
  | call _ call ih => exact call.genuine _ ih

/-- A chain ends under the name of a built-in type. -/
theorem EndsIn.mem_builtinSimpleTypes (h : set.EndsIn name t n) (hset : set.Genuine) :
    name ∈ builtinSimpleTypes := by
  induction h with
  | builtin htype hname =>
    have hgenuine := htype ▸ hset _
    exact hgenuine _ hname
  | restriction _ _ _ _ ih => exact ih

end SchemaSet

/-- Every built-in type has a leaf. -/
theorem Leaf.isSome_ofTypeName? {name : String} (h : name ∈ builtinSimpleTypes) :
    (Leaf.ofTypeName? name).isSome = true := by
  revert name
  decide

namespace SchemaSet

variable {set : SchemaSet} {t : ComponentId} {name : String} {n : Nat}

/-- A chain that ends has the leaf of the built-in type that it **ends in**. -/
theorem EndsIn.ofTypeName?_eq (h : set.EndsIn name t n) (hset : set.Genuine) :
    Leaf.ofTypeName? name = some (set.leaf t) := by
  obtain ⟨leaf, hleaf⟩ :=
    Option.isSome_iff_exists.1 (Leaf.isSome_ofTypeName? (h.mem_builtinSimpleTypes hset))
  rw [SchemaSet.leaf, h.leafWithin h.lt_size, hleaf]
  rfl

/-- In the schema set of a **manifest** a simple type has the leaf that its chain of restrictions
ends in, and that of `xs:anySimpleType` if the chain has no end. -/
theorem leaf_of_ofManifest {text sourceName : String}
    (h : ofManifest text sourceName = .ok set) (t : ComponentId) :
    (∀ name n, set.EndsIn name t n → Leaf.ofTypeName? name = some (set.leaf t)) ∧
      ((∀ name n, ¬ set.EndsIn name t n) → set.leaf t = .anySimpleType) :=
  ⟨fun _ _ hends => hends.ofTypeName?_eq (built_of_ofManifest h).genuine,
    fun hendless => leafWithin_of_endless hendless _⟩

end SchemaSet

namespace Resolver

variable {r : Resolver} {t : ComponentId}

/-- The type of the values of a simple type **is found**, without a change of the state. It is the
leaf of the built-in type that its chain of restrictions ends in, fewer restrictions away than the
set has components, and that of `xs:anySimpleType` if the chain has no end; to walk on changes
nothing. -/
theorem bindSchemaType_simpleType (hset : r.schema.Built)
    (ht : (r.schema.component t).isSimpleType = true) (s : State) :
    ∃ leaf, (r.bindSchemaType t).runFrom s = (.ok (some (.leaf leaf)), s) ∧
      (∀ name n, r.schema.EndsIn name t n →
        n < r.schema.size ∧ Leaf.ofTypeName? name = some leaf) ∧
      ((∀ name n, ¬ r.schema.EndsIn name t n) → leaf = .anySimpleType) ∧
      ∀ steps, r.schema.size ≤ steps → r.schema.leafWithin steps t = leaf := by
  obtain ⟨type, hkind⟩ := Component.isSimpleType_iff.1 ht
  refine ⟨r.schema.leaf t, ?_, fun name n hends => ?_, fun hendless => ?_, fun steps hsteps => ?_⟩
  · rw [bindSchemaType, hkind]
    rfl
  · exact ⟨hends.lt_size, hends.ofTypeName?_eq hset.genuine⟩
  · exact SchemaSet.leafWithin_of_endless hendless _
  · exact SchemaSet.leafWithin_of_size_le hsteps

/-- Codes restrict sizes, which restrict `xs:int`; loops restrict themselves. -/
def codes : Compilation where
  schema := (Builder.setSimpleBase ⟨24⟩ ⟨24⟩).after
    ((Builder.globalSimpleType "urn:x" "Loop" ⟨2⟩).after
      ((Builder.globalSimpleType "urn:x" "Code" ⟨22⟩).after
        ((Builder.globalSimpleType "urn:x" "Size" ⟨8⟩).after .initial)))

/-- The codes are built. -/
theorem built_codes : codes.schema.Built :=
  (((SchemaSet.Built.initial.call (.globalSimpleType _ _ _)).call (.globalSimpleType _ _ _)).call
    (.globalSimpleType _ _ _)).call (.setSimpleBase _ _)

/-- A chain of restrictions ends in its built-in type, and a loop in the universal simple type. -/
theorem bindSchemaType_simpleType_codes :
    (codes.resolver.bindSchemaType ⟨23⟩).runFrom codes.start =
        (.ok (some (.leaf .int)), codes.start) ∧
      (codes.resolver.bindSchemaType ⟨24⟩).runFrom codes.start =
        (.ok (some (.leaf .anySimpleType)), codes.start) := by
  constructor
  · obtain ⟨leaf, hrun, hends, -⟩ := bindSchemaType_simpleType (r := codes.resolver) (t := ⟨23⟩)
      built_codes (by decide +kernel) codes.start
    have hcode : (codes.schema.component ⟨23⟩).kind = .simpleType ⟨some ⟨22⟩, none⟩ := by
      decide +kernel
    have hsize : (codes.schema.component ⟨22⟩).kind = .simpleType ⟨some ⟨8⟩, none⟩ := by
      decide +kernel
    have hint : (codes.schema.component ⟨8⟩).kind = .simpleType ⟨none, some "int"⟩ := by
      decide +kernel
    cases (hends "int" 2 (.restriction hcode rfl rfl (.restriction hsize rfl rfl
      (.builtin hint rfl)))).2
    exact hrun
  · obtain ⟨leaf, hrun, -, hendless, -⟩ := bindSchemaType_simpleType (r := codes.resolver)
      (t := ⟨24⟩) built_codes (by decide +kernel) codes.start
    have hloop : (codes.resolver.schema.component ⟨24⟩).kind =
        .simpleType ⟨some ⟨24⟩, none⟩ := by decide +kernel
    have hnone (name : String) (n : Nat) : ¬ codes.resolver.schema.EndsIn name ⟨24⟩ n := by
      intro h
      cases h with
      | builtin htype hname =>
        rw [hloop] at htype
        cases htype
        cases hname
      | restriction htype hown hbase hends =>
        rw [hloop] at htype
        cases htype
        cases hbase
        -- the loop would end one restriction before itself
        exact absurd (hends.unique (.restriction hloop rfl rfl hends)).2 (by omega)
    cases hendless hnone
    exact hrun

end Resolver

end SchemaBinding
