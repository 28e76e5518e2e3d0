import SchemaBinding.Proofs.Renaming.Plan
import SchemaBinding.Proofs.Schema.Depth

/-! # Documentation in renamed sets
What is written about a component names it and what it contains, but no positions. Only labels look
at positions, to find the element of an anonymous type before the type; in a loaded set it is always
there. -/

namespace SchemaBinding

variable {allowed allowed' : String → Prop} {φ : Equiv.Perm ComponentId} {set set' : SchemaSet}
  {c e : ComponentId}

namespace SchemaSet

/-- The label of an element says its name. -/
theorem label_of_isElement (h : (set.component e).isElement = true) :
    set.label e = namedLabel "element" (set.component e).name := by
  obtain ⟨decl, hkind⟩ := Component.isElement_iff.1 h
  rw [label, hkind]

/-- The label of an anonymous complex type says which element declares it. -/
theorem Loaded.label_of_declaringElement? (hset : set.Loaded allowed)
    (hname : (set.component c).name = none) (he : (set.component c).declaringElement? = some e) :
    set.label c =
      "anonymous complex type of " ++ namedLabel "element" (set.component e).name := by
  obtain ⟨-, helement, hbefore⟩ := (hset.fits c).declaring e he
  obtain ⟨type, htype, hdeclaring⟩ := Option.bind_eq_some_iff.1 he
  rw [label, Component.asComplexType_eq_some.1 htype]
  simp [hname, hdeclaring, hbefore, label_of_isElement helement]

namespace Renamed

/-- An anonymous type is declared by the same element. -/
theorem declaringElement? (h : set.Renamed φ set') (c : ComponentId) :
    (set'.component (φ c)).declaringElement? = (set.component c).declaringElement?.map φ := by
  unfold Component.declaringElement?
  rw [h.component, Component.asComplexType_rename]
  cases (set.component c).asComplexType <;> rfl

/-- A component has the same label. -/
theorem label (h : set.Renamed φ set') (hset : set.Loaded allowed) (hset' : set'.Loaded allowed')
    (c : ComponentId) : set'.label (φ c) = set.label c := by
  have hname : (set'.component (φ c)).name = (set.component c).name := by rw [h.component]; rfl
  have hkind : (set'.component (φ c)).kind = (set.component c).kind.rename φ := by
    rw [h.component]
    rfl
  cases hdeclaring : (set.component c).declaringElement? with
  | none =>
    -- nothing but an anonymous complex type is called after another component
    rw [SchemaSet.label, SchemaSet.label, hkind, hname]
    cases hc : (set.component c).kind with
    | complexType type =>
      have hnone : type.declaringElement = none := by
        rwa [Component.declaringElement?, Component.asComplexType_eq_some.2 hc] at hdeclaring
      simp only [ComponentKind.rename, ComplexType.rename, hnone, Option.map_none]
      cases (set.component c).name <;> rfl
    | _ => rfl
  | some e =>
    have hdeclaring' : (set'.component (φ c)).declaringElement? = some (φ e) := by
      rw [h.declaringElement?, hdeclaring]
      rfl
    cases hnamed : (set.component c).name with
    | none =>
      rw [hset.label_of_declaringElement? hnamed hdeclaring,
        hset'.label_of_declaringElement? (hname.trans hnamed) hdeclaring', h.component]
      rfl
    | some name =>
      rw [SchemaSet.label, SchemaSet.label, hkind, hname, hnamed]
      cases (set.component c).kind <;> rfl

/-! ## Fragments -/

/-- A component has the same qualified name. -/
theorem qualifiedName (h : set.Renamed φ set') (home : String) (c : ComponentId) :
    set'.qualifiedName home (φ c) = set.qualifiedName home c := by
  unfold SchemaSet.qualifiedName
  simp [h.component]

/-- The lines of a list of components, each read off by the same steps. -/
theorem mapM_lines {α : Type} {step step' : α → Option (List FragmentLine)} {r : α → α}
    {items : List α} (h : ∀ a ∈ items, step' (r a) = step a) :
    (items.map r).mapM step' = items.mapM step := by
  have hmap : (items.map r).mapM step' = (items.mapM step).map (List.map id) :=
    mapM_map_eq fun a ha => by rw [h a ha, Option.map_id_apply]
  simpa using hmap

/-- What is written for a component depends on no position. -/
theorem fragmentLines (h : set.Renamed φ set') (home : String) (steps : Nat) (c : ComponentId)
    (depth : Nat) (top repeated : Bool) :
    set'.fragmentLines home steps (φ c) depth top repeated =
      set.fragmentLines home steps c depth top repeated := by
  induction steps generalizing c depth top repeated with
  | zero => rfl
  | succ steps ih =>
    -- particles and attributes are written one after the other
    have hparticles (depth : Nat) (ps : List Particle) :
        (ps.map (Particle.rename φ)).mapM (fun p =>
          set'.fragmentLines home steps p.term depth false p.repeated) =
            ps.mapM fun p => set.fragmentLines home steps p.term depth false p.repeated :=
      mapM_lines fun p _ => ih p.term depth false p.repeated
    have hattributes (depth : Nat) (ids : List ComponentId) :
        (ids.map φ).mapM (fun id => set'.fragmentLines home steps id depth false false) =
          ids.mapM fun id => set.fragmentLines home steps id depth false false :=
      mapM_lines fun id _ => ih id depth false false
    unfold SchemaSet.fragmentLines
    simp only [h.component, Component.kind_rename, Component.name_rename,
      Component.isGlobal_rename]
    rcases (set.component c).kind with decl | type | type | decl | group
    · dsimp only [ComponentKind.rename, ElementDecl.rename]
      cases decl.type with
      | none => simp only [Option.map_none, h.qualifiedName]
      | some type => simp only [Option.map_some, h.qualifiedName, h.isAnonymousTypeOf, ih]
    · dsimp only [ComponentKind.rename, ComplexType.rename]
      simp only [hparticles, hattributes, List.isEmpty_map]
      cases type.base with
      | none => rfl
      | some base => simp only [Option.map_some, h.qualifiedName]
    · dsimp only [ComponentKind.rename, SimpleType.rename]
      cases type.base with
      | none => rfl
      | some base => simp only [Option.map_some, h.qualifiedName]
    · dsimp only [ComponentKind.rename, AttributeDecl.rename]
      cases decl.type with
      | none => rfl
      | some type => simp only [Option.map_some, h.qualifiedName]
    · dsimp only [ComponentKind.rename, ModelGroup.rename]
      rw [hparticles]

/-- A component has the same fragment. -/
theorem fragment? (h : set.Renamed φ set') (c : ComponentId) :
    set'.fragment? (φ c) = set.fragment? c := by
  unfold SchemaSet.fragment? fragmentLines?
  rw [h.component, Component.ns_rename, h.size, h.fragmentLines]

/-! ## Documentation -/

/-- A component is documented by the same text. -/
theorem documentation? (h : set.Renamed φ set') (hset : set.Loaded allowed)
    (hset' : set'.Loaded allowed') (c : ComponentId) :
    set'.documentation? (φ c) = set.documentation? c := by
  have horigin : set'.originText (φ c) = set.originText c := by
    unfold originText
    rw [h.component, Component.locator_rename, h.label hset hset']
  unfold SchemaSet.documentation?
  rw [h.fragment?, horigin, h.component, Component.custom_rename]

end Renamed

end SchemaSet

end SchemaBinding
