import SchemaBinding.Proofs.Reordering.Filling
import SchemaBinding.Proofs.Schema.Manifest

/-! # Matched sets
Two sets **match** when one is the other with its components at other positions, and whatever is
looked up by name is found at its position. To fill the same declarations in both of them keeps them
matched. -/

namespace SchemaBinding

variable {φ ψ : Equiv.Perm ComponentId} {set set' set'' : SchemaSet} {allowed : String → Prop}
  {f g : ComponentId → ComponentId}

namespace SchemaSet

/-- A set **matches** another one under a permutation of its positions. -/
structure Matched (φ : Equiv.Perm ComponentId) (set set' : SchemaSet) : Prop where
  indexed : set.Indexed
  indexed' : set'.Indexed
  size : set'.size = set.size
  component : ∀ c, set'.component (φ c) = (set.component c).rename φ
  /-- The built-in types stay where they are, and so does what does not exist as yet. -/
  initial : ∀ c : ComponentId, c.index < SchemaSet.initial.size → φ c = c
  beyond : ∀ c : ComponentId, set.size ≤ c.index → φ c = c
  found : ∀ ns name wantType,
    set'.findGlobal? ns name wantType = (set.findGlobal? ns name wantType).map φ
  package : ∀ ns, (set'.schema? ns).bind Schema.package = (set.schema? ns).bind Schema.package

/-- The positions of built-in types are those of the initial set. -/
theorem index_lt_of_builtin? {name : String} {id : ComponentId}
    (h : SchemaSet.builtin? name = some id) : id.index < SchemaSet.initial.size := by
  have hsize : SchemaSet.initial.size = builtinSimpleTypes.length + 1 := by
    decide +kernel
  obtain ⟨index, hindex, rfl⟩ := Option.map_eq_some_iff.1 h
  obtain ⟨hlt, -, -⟩ := List.idxOf?_eq_some_iff.1 hindex
  rw [hsize]
  exact Nat.succ_lt_succ hlt

/-- In a loaded set, a component is renamed by what happens to the positions **that exist**. -/
theorem Loaded.rename_congr (h : set.Loaded allowed)
    (hsame : ∀ c : ComponentId, c.index < set.size → f c = g c) (c : ComponentId) :
    (set.component c).rename f = (set.component c).rename g := by
  have hfits := h.fits c
  -- every id in a loaded component is that of a component: it is global, or not beyond the end,
  -- where only empty elements stand
  have hoption {t : Option ComponentId} (ht : ∀ d, t = some d → d.index < set.size) :
      t.map f = t.map g := Option.map_congr fun d hd => hsame d (ht d hd)
  have hglobal {d : ComponentId} (hd : (set.component d).isGlobal = true) : d.index < set.size :=
    index_lt_of_isGlobal hd
  unfold Component.rename
  congr 1
  rcases hkind : (set.component c).kind with decl | type | type | decl | g
  · have helement := Component.asElement_eq_some.2 hkind
    refine congrArg ComponentKind.element (congrArg (ElementDecl.mk · _) (hoption fun t ht => ?_))
    rcases hfits.carried decl t helement ht with hcarried | hdeclaring
    · exact hglobal hcarried
    · by_contra hbeyond
      rw [component_of_size_le (Nat.not_lt.1 hbeyond)] at hdeclaring
      cases hdeclaring
  · have htype := Component.asComplexType_eq_some.2 hkind
    have hbase := hoption fun b hb => hglobal (hfits.base type b htype hb)
    have hdeclaring : type.declaringElement.map f = type.declaringElement.map g := by
      refine hoption fun e he => (hfits.declaring e ?_).1
      rw [Component.declaringElement?, htype]
      exact he
    have hcontent : type.content.map (Particle.rename f) = type.content.map (Particle.rename g) :=
      List.map_congr_left fun p hp =>
        congrArg (Particle.mk · _) (hsame p.term (hfits.content type p htype hp).1)
    have hattributes : type.attributes.map f = type.attributes.map g := by
      refine List.map_congr_left fun a ha => hsame a ?_
      by_contra hbeyond
      have hattribute := hfits.attributes type a htype ha
      rw [component_of_size_le (Nat.not_lt.1 hbeyond)] at hattribute
      cases hattribute
    dsimp only [ComponentKind.rename, ComplexType.rename]
    rw [hbase, hdeclaring, hcontent, hattributes]
  · have htype := Component.asSimpleType_eq_some.2 hkind
    exact congrArg ComponentKind.simpleType (congrArg (SimpleType.mk · _)
      (hoption fun b hb => hglobal (hfits.restricted type b htype hb)))
  · have hdecl := Component.asAttribute_eq_some.2 hkind
    exact congrArg ComponentKind.attribute (congrArg AttributeDecl.mk
      (hoption fun t ht => hglobal (hfits.attributed decl t hdecl ht)))
  · have hgroup := hfits.ungrouped
    rw [Component.asGroup_eq_some.2 hkind] at hgroup
    cases hgroup

namespace Matched

/-- A set matches itself. -/
theorem refl (h : set.Indexed) : Matched (Equiv.refl _) set set where
  indexed := h
  indexed' := h
  size := rfl
  component c := (Component.rename_id _).symm
  initial _ _ := rfl
  beyond _ _ := rfl
  found ns name wantType := by
    cases set.findGlobal? ns name wantType <;> rfl
  package _ := rfl

/-- What matches a matched set matches under both permutations. -/
theorem trans (h : Matched φ set set') (h' : Matched ψ set' set'') :
    Matched (φ.trans ψ) set set'' where
  indexed := h.indexed
  indexed' := h'.indexed'
  size := h'.size.trans h.size
  component c := by
    rw [Equiv.trans_apply, h'.component, h.component, Component.rename_rename]
    rfl
  initial c hc := by
    rw [Equiv.trans_apply, h.initial c hc, h'.initial c hc]
  beyond c hc := by
    rw [Equiv.trans_apply, h.beyond c hc, h'.beyond c (h.size ▸ hc)]
  found ns name wantType := by
    rw [h'.found, h.found, Option.map_map]
    rfl
  package ns := (h'.package ns).trans (h.package ns)

/-- A matched set is **renamed**. -/
theorem renamed (h : Matched φ set set') : set.Renamed φ set' where
  size := h.size
  component := h.component
  anyType := h.initial anyType (by decide +kernel)
  package := h.package
  declared c := by
    rw [h.indexed'.mem_globalDeclarations, h.indexed.mem_globalDeclarations, h.component,
      Component.isGlobalDeclaration_rename, Component.ns_rename]

/-- What matched sets look like to a step that may be about any component. -/
def mirror (h : Matched φ set set') : Mirror where
  base := set
  image := set'
  place := φ
  inner _ := True
  injective := φ.injective
  fresh _ _ := trivial
  builtin _ id hid := h.initial id (index_lt_of_builtin? hid)
  found := h.found

/-- Matched sets mirror each other in all components. -/
theorem mirrors (h : Matched φ set set') : h.mirror.Mirrors set set' where
  spares := .refl h.indexed
  spares' := .refl h.indexed'
  size i := by
    rw [h.size]
    exact h.beyond _ (Nat.le_add_right _ _)
  component c _ := h.component c

/-- Sets that mirror each other **match** again. -/
theorem of_mirrors (h : Matched φ set set') {u u' : SchemaSet} (hu : h.mirror.Mirrors u u') :
    Matched φ u u' where
  indexed := hu.spares.indexed
  indexed' := hu.spares'.indexed
  size := by
    -- the end of the set is beyond that of the earlier set
    have hend : φ ⟨u.size⟩ = ⟨u'.size⟩ := hu.size 0
    rw [h.beyond ⟨u.size⟩ hu.spares.size] at hend
    exact (congrArg ComponentId.index hend).symm
  component c := hu.component c trivial
  initial := h.initial
  beyond c hc := h.beyond c (Nat.le_trans hu.spares.size hc)
  found ns name wantType := by
    rw [hu.spares'.found, hu.spares.found]
    exact h.found ns name wantType
  package ns := by
    rw [hu.spares'.package, hu.spares.package]
    exact h.package ns

end Matched

end SchemaSet

/-! ## Filling matched sets -/

/-- A **task** is to fill a declaration at a position. -/
abbrev Task := Declaration × ComponentId

namespace Task

/-- The declaration is filled. -/
def step (t : Task) : Loading Unit := t.1.fill t.2

/-- The same declaration at another position. -/
def moved (f : ComponentId → ComponentId) (t : Task) : Task := (t.1, f t.2)

end Task

/-- Fills declarations one after the other. -/
def Loading.fillAll (tasks : List Task) : Loading Unit := tasks.forM Task.step

/-- Runs **agree** when both fail, or both leave sets that match. -/
inductive Loading.Agree (fixed : ComponentId → Prop) :
    Except ManifestError Unit × SchemaSet → Except ManifestError Unit × SchemaSet → Prop
  | ok {φ : Equiv.Perm ComponentId} {set set' : SchemaSet} (matched : set.Matched φ set')
      (fixes : ∀ c, fixed c → φ c = c) : Agree fixed (.ok (), set) (.ok (), set')
  | error {e e' : ManifestError} {set set' : SchemaSet} :
      Agree fixed (.error e, set) (.error e', set')

/-- Tasks at the positions of a matched set **agree**. -/
theorem SchemaSet.Matched.fillAll (h : set.Matched φ set') (tasks : List Task) :
    Loading.Agree (fun c => φ c = c) ((Loading.fillAll tasks).run.run set)
      ((Loading.fillAll (tasks.map (Task.moved φ))).run.run set') := by
  have hall : h.mirror.Mirroring (Loading.fillAll tasks)
      (Loading.fillAll (tasks.map (Task.moved φ))) fun _ _ => True := by
    induction tasks with
    | nil => exact .pure trivial
    | cons t rest ih =>
      show h.mirror.Mirroring (t.step >>= fun _ => Loading.fillAll rest)
        ((t.moved φ).step >>= fun _ => Loading.fillAll (rest.map (Task.moved φ))) _
      exact (Mirror.mirroring_fill (M := h.mirror) trivial t.1).bind fun _ _ _ => ih
  have halike := hall set set' h.mirrors
  generalize (Loading.fillAll tasks).run.run set = r,
    (Loading.fillAll (tasks.map (Task.moved φ))).run.run set' = r' at halike ⊢
  cases halike with
  | ok mirrors => exact .ok (h.of_mirrors mirrors) fun _ hc => hc
  | error => exact .error

end SchemaBinding
