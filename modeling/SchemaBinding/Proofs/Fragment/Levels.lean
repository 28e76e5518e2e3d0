import SchemaBinding.Proofs.Schema.Stages
import SchemaBinding.Proofs.Termination.Fragment

/-! # The levels of a fragment
A component is written through as many levels as its parts lie inside each other. If that is a
finite number, then it is no more than the number of components, so the levels that are tried are
enough. -/

namespace SchemaBinding

/-- All results of a list are there exactly if each is. -/
theorem isSome_mapM_iff {α β : Type} {f : α → Option β} {items : List α} :
    (items.mapM f).isSome = true ↔ ∀ a ∈ items, (f a).isSome = true := by
  induction items with
  | nil => simp
  | cons a rest ih =>
    rw [List.mapM_cons, List.forall_mem_cons, ← ih]
    cases f a with
    | none => simp
    | some b => cases rest.mapM f <;> simp

namespace SchemaSet

variable {set : SchemaSet} {home : String} {id p : ComponentId} {domain : List ComponentId}
  {steps depth m n : Nat} {top repeated : Bool}

/-- The components that are **written inside** a component. Below the top, a global element is a
reference, with nothing inside. -/
def writtenInside (set : SchemaSet) (top : Bool) (id : ComponentId) : List ComponentId :=
  match (set.component id).kind with
  | .element decl =>
    if (set.component id).isGlobal && !top then []
    else (decl.type.filter fun type => set.isAnonymousTypeOf type id).toList
  | .complexType type => type.content.map Particle.term ++ type.attributes
  | .group group => group.particles.map Particle.term
  | .attribute _ | .simpleType _ => []

/-- What lies inside a component **comes to an end** within so many levels. -/
def EndsWithin (set : SchemaSet) : Nat → (top : Bool) → ComponentId → Prop
  | 0, _, _ => False
  | n + 1, top, id => ∀ p ∈ set.writtenInside top id, set.EndsWithin n false p

/-- What is written for the **content** of a complex type: its occurrences, then its attributes. -/
def contentLines (set : SchemaSet) (home : String) (steps depth : Nat) (type : ComplexType) :
    Option (List FragmentLine) := do
  let content ← (type.content.mapM fun p =>
    set.fragmentLines home steps p.term depth false p.repeated).map List.flatten
  let attributes ← type.attributes.mapM fun a => set.fragmentLines home steps a depth false false
  return content ++ attributes.flatten

/-- There is a text for the content of a complex type exactly if there is one for each particle and
each attribute; it is theirs in a row. -/
theorem contentLines_eq_some {type : ComplexType} {lines : List FragmentLine} :
    set.contentLines home steps depth type = some lines ↔
      ∃ contents attributes,
        (type.content.mapM fun p => set.fragmentLines home steps p.term depth false p.repeated) =
            some contents ∧
          (type.attributes.mapM fun a => set.fragmentLines home steps a depth false false) =
            some attributes ∧ contents.flatten ++ attributes.flatten = lines := by
  simp [contentLines, Option.bind_eq_some_iff]

/-- What is written through so many levels is written so through **any more**. -/
theorem grants_fragmentLines_of_le (set : SchemaSet) (hmn : m ≤ n) :
    Grants (set.fragmentLines home m id depth top repeated)
      (set.fragmentLines home n id depth top repeated) := by
  induction hmn with
  | refl => exact .refl _
  | step _ ih =>
    exact fun lines hlines => set.grants_fragmentLines home _ id depth top repeated _ (ih _ hlines)

/-- A component is written through so many levels exactly if it ends within them, at whatever depth
and however often it occurs. -/
theorem isSome_fragmentLines_iff :
    (set.fragmentLines home n id depth top repeated).isSome = true ↔ set.EndsWithin n top id := by
  induction n generalizing id depth top repeated with
  | zero => simp [fragmentLines, EndsWithin]
  | succ n ih =>
    -- occurrences and attributes are written one level below
    have hparticles (depth : Nat) (ps : List Particle) :
        (ps.mapM fun p => set.fragmentLines home n p.term depth false p.repeated).isSome = true ↔
          ∀ p ∈ ps.map Particle.term, set.EndsWithin n false p := by
      simp [isSome_mapM_iff, ih]
    have hattributes (depth : Nat) (attributes : List ComponentId) :
        (attributes.mapM fun a => set.fragmentLines home n a depth false false).isSome = true ↔
          ∀ a ∈ attributes, set.EndsWithin n false a := by
      simp [isSome_mapM_iff, ih]
    unfold EndsWithin writtenInside fragmentLines
    dsimp only
    cases hkind : (set.component id).kind with
    | element decl =>
      dsimp only
      split
      · simp
      · cases decl.type with
        | none => simp
        | some type =>
          by_cases hanonymous : set.isAnonymousTypeOf type id = true
          · simp [hanonymous, ih]
          · simp [hanonymous]
    | simpleType type => cases hbase : type.base <;> simp [hbase]
    | group group => simpa using hparticles (depth + 1) group.particles
    | complexType type =>
      have hbody (depth : Nat) : (set.contentLines home n depth type).isSome = true ↔
          ∀ p ∈ type.content.map Particle.term ++ type.attributes, set.EndsWithin n false p := by
        rw [List.forall_mem_append, ← hparticles depth, ← hattributes depth]
        simp [Option.isSome_iff_exists, contentLines_eq_some]
      dsimp only
      cases type.base with
      | some base =>
        dsimp only
        rw [Option.isSome_map]
        exact hbody (depth + 3)
      | none =>
        dsimp only
        by_cases hempty : (type.content.isEmpty && type.attributes.isEmpty) = true
        · simp_all
        · rw [if_neg hempty, Option.isSome_map]
          exact hbody (depth + 1)
    -- an attribute has nothing inside
    | _ => simp

/-- What ends within so many levels ends within more. -/
theorem EndsWithin.mono (h : set.EndsWithin m top id) (hmn : m ≤ n) : set.EndsWithin n top id := by
  induction m generalizing n top id with
  | zero => cases h
  | succ m ih =>
    obtain ⟨n, rfl⟩ := Nat.exists_eq_succ_of_ne_zero (by omega : n ≠ 0)
    exact fun p hp => ih (h p hp) (by omega)

/-- What ends below the top, level by level: components that have nothing inside are left out. -/
theorem staged_endsWithin (hdomain : ∀ p, p ∉ domain → set.writtenInside false p = []) :
    Staged domain fun n p => p ∈ domain ∧ set.EndsWithin (n + 1) false p where
  mem := fun _ _ h => h.1
  grows := fun _ _ h => ⟨h.1, h.2.mono (Nat.le_succ _)⟩
  determined := by
    rintro n hsame id ⟨hid, hends⟩
    refine ⟨hid, fun p hp => ?_⟩
    by_cases hpart : p ∈ domain
    · exact (hsame p ⟨hpart, hends p hp⟩).2
    · intro q hq
      rw [hdomain p hpart] at hq
      cases hq

/-- Below the top, **one level more** than there are components with something inside is enough. -/
theorem EndsWithin.within_length (hdomain : ∀ p, p ∉ domain → set.writtenInside false p = [])
    (h : set.EndsWithin n false id) : set.EndsWithin (domain.length + 1) false id := by
  by_cases hid : id ∈ domain
  · exact ((staged_endsWithin hdomain).suffices_length ⟨hid, h.mono (Nat.le_succ n)⟩).2
  · intro p hp
    rw [hdomain id hid] at hp
    cases hp

/-- Beyond the end of the set nothing has anything inside. -/
theorem writtenInside_of_not_mem (h : id ∉ set.ids) (top : Bool) :
    set.writtenInside top id = [] := by
  have hbeyond : set.size ≤ id.index := by
    refine Nat.le_of_not_lt fun hindex => h ?_
    exact List.mem_map.2 ⟨id.index, List.mem_range.2 hindex, rfl⟩
  rw [writtenInside, component_of_size_le hbeyond]
  cases top <;> rfl

/-- Nothing lies inside a reference, and only references differ from what they are on top. -/
theorem writtenInside_reference (h : set.writtenInside top id ≠ set.writtenInside false id) :
    set.writtenInside false id = [] := by
  unfold writtenInside at h ⊢
  cases hkind : (set.component id).kind with
  | element decl =>
    rw [hkind] at h
    cases hglobal : (set.component id).isGlobal with
    | true => simp
    | false => simp [hglobal] at h
  | _ => simp [hkind] at h

/-- Whatever comes to an end ends **within one level more** than there are components. -/
theorem EndsWithin.within_size (h : set.EndsWithin n top id) :
    set.EndsWithin (set.size + 1) top id := by
  have hlength : set.ids.length = set.size := by simp [ids]
  by_cases hreference : set.writtenInside top id = set.writtenInside false id
  · -- the component is one like those below the top
    have hfalse : set.EndsWithin n false id := by
      cases n with
      | zero => cases h
      | succ n => exact fun p hp => h p (hreference ▸ hp)
    have hwithin := hfalse.within_length fun p hp => set.writtenInside_of_not_mem hp false
    rw [hlength] at hwithin
    exact fun p hp => hwithin p (hreference ▸ hp)
  · -- a global element on top is a reference below, which leaves one component less
    have hmem : id ∈ set.ids := by
      by_contra hid
      rw [set.writtenInside_of_not_mem hid, set.writtenInside_of_not_mem hid] at hreference
      exact hreference rfl
    have hnil : set.writtenInside false id = [] := writtenInside_reference hreference
    have hothers (p : ComponentId) (hp : p ∉ set.ids.erase id) :
        set.writtenInside false p = [] := by
      by_cases hself : p = id
      · rw [hself, hnil]
      · exact set.writtenInside_of_not_mem (fun h => hp ((List.mem_erase_of_ne hself).2 h)) false
    have hpositive : 0 < set.ids.length := List.length_pos_of_mem hmem
    have hcount : (set.ids.erase id).length + 1 = set.size := by
      rw [List.length_erase_of_mem hmem]
      omega
    cases n with
    | zero => cases h
    | succ n =>
      intro p hp
      have hwithin := (h p hp).within_length hothers
      rwa [hcount] at hwithin

/-- What is written through **some** number of levels is written through those that are tried. -/
theorem fragmentLines?_of_fragmentLines {lines : List FragmentLine}
    (h : set.fragmentLines (set.component id).ns steps id 0 true false = some lines) :
    set.fragmentLines? id = some lines := by
  have hends : set.EndsWithin steps true id :=
    isSome_fragmentLines_iff.1 (Option.isSome_iff_exists.2 ⟨lines, h⟩)
  have hsome : (set.fragmentLines? id).isSome = true :=
    isSome_fragmentLines_iff.2 hends.within_size
  obtain ⟨lines', hlines'⟩ := Option.isSome_iff_exists.1 hsome
  -- both results are found through the larger number of levels
  have hfirst := set.grants_fragmentLines_of_le (Nat.le_max_left steps (set.size + 1)) _ h
  have hsecond := set.grants_fragmentLines_of_le (Nat.le_max_right steps (set.size + 1)) _ hlines'
  rw [hlines', ← hsecond, hfirst]

end SchemaSet

end SchemaBinding
