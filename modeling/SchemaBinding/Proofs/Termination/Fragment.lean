import SchemaBinding.Proofs.Schema.Depth

/-! # Content and fragments that come to an end
What a content says about elements and how a component is written are found by recursion over the
schema set, through at most so many levels. In a loaded set the levels suffice, and with more of
them the same is found: the content of a complex type has no groups, and what a component encloses
lies behind it unless it is written as a reference. -/

namespace SchemaBinding

variable {α β : Type}

/-! ## Options on more levels -/

/-- What one option **grants** another one gives as well. -/
def Grants (o o' : Option α) : Prop := ∀ a, o = some a → o' = some a

namespace Grants

variable {o o' : Option α}

/-- An option grants itself. -/
theorem refl (o : Option α) : Grants o o := fun _ => id

/-- What is granted may be rewritten. -/
theorem map (h : Grants o o') (f : α → β) : Grants (o.map f) (o'.map f) := by
  intro b hb
  obtain ⟨a, ha, rfl⟩ := Option.map_eq_some_iff.1 hb
  rw [h a ha]
  rfl

/-- What follows is granted if it is for every value. -/
theorem bind (h : Grants o o') {next next' : α → Option β}
    (hnext : ∀ a, Grants (next a) (next' a)) : Grants (o >>= next) (o' >>= next') := by
  intro b hb
  obtain ⟨a, ha, hb⟩ := Option.bind_eq_some_iff.1 hb
  exact Option.bind_eq_some_iff.2 ⟨a, h a ha, hnext a b hb⟩

/-- A list is granted if each of its items is. -/
theorem mapM {items : List α} {f g : α → Option β} (h : ∀ a, Grants (f a) (g a)) :
    Grants (items.mapM f) (items.mapM g) := by
  induction items with
  | nil => exact refl _
  | cons a rest ih =>
    rw [List.mapM_cons, List.mapM_cons]
    exact (h a).bind fun b => ih.bind fun bs => refl _

end Grants

namespace SchemaSet

variable {allowed : String → Prop} {set : SchemaSet} {c : ComponentId} {steps : Nat}

/-! ## Content -/

/-- The content of a complex type is a list of **elements**, which is found on the first level. -/
theorem Loaded.mapM_particleOccurrences (h : set.Loaded allowed) {type : ComplexType}
    (htype : (set.component c).asComplexType = some type) (hsteps : 0 < steps) :
    (type.content.mapM (set.particleOccurrences steps)).map List.flatten = some type.content := by
  obtain ⟨n, rfl⟩ : ∃ n, steps = n + 1 := Nat.exists_eq_succ_of_ne_zero (by omega)
  have hterm (p : Particle) (hp : p ∈ type.content) :
      set.particleOccurrences (n + 1) p = some [p] := by
    obtain ⟨decl, hkind⟩ := Component.isElement_iff.1 ((h.fits c).content type p htype hp).2.1
    simp [particleOccurrences, hkind]
  generalize type.content = content at hterm
  induction content with
  | nil => rfl
  | cons p rest ih =>
    obtain ⟨lists, hlists, hflat⟩ :=
      Option.map_eq_some_iff.1 (ih fun q hq => hterm q (List.mem_cons_of_mem p hq))
    rw [List.mapM_cons, hterm p List.mem_cons_self, hlists]
    simp [hflat]

/-! ## Fragments -/

/-- What is written through so many levels is written so through **one more**. -/
theorem grants_fragmentLines (set : SchemaSet) (home : String) (steps : Nat) (id : ComponentId)
    (depth : Nat) (top repeated : Bool) :
    Grants (set.fragmentLines home steps id depth top repeated)
      (set.fragmentLines home (steps + 1) id depth top repeated) := by
  induction steps generalizing id depth top repeated with
  | zero => rintro lines ⟨⟩
  | succ steps ih =>
    -- particles and attributes are written alike on the levels below
    have hparticles (depth : Nat) (ps : List Particle) : Grants
        ((ps.mapM fun p => set.fragmentLines home steps p.term depth false p.repeated).map
          List.flatten)
        ((ps.mapM fun p => set.fragmentLines home (steps + 1) p.term depth false p.repeated).map
          List.flatten) :=
      (Grants.mapM fun p : Particle => ih p.term depth false p.repeated).map _
    have hbody (depth : Nat) (type : ComplexType) : Grants
        (do
          let content ← (type.content.mapM fun p =>
            set.fragmentLines home steps p.term depth false p.repeated).map List.flatten
          let attributes ← type.attributes.mapM fun a =>
            set.fragmentLines home steps a depth false false
          return content ++ attributes.flatten)
        (do
          let content ← (type.content.mapM fun p =>
            set.fragmentLines home (steps + 1) p.term depth false p.repeated).map List.flatten
          let attributes ← type.attributes.mapM fun a =>
            set.fragmentLines home (steps + 1) a depth false false
          return content ++ attributes.flatten) :=
      (hparticles depth type.content).bind fun content =>
        (Grants.mapM fun a => ih a depth false false).bind fun attributes => .refl _
    unfold fragmentLines
    dsimp only
    split
    -- the kinds whose fragments have others inside: elements, groups and complex types
    case h_1 decl _ =>
      split
      · exact .refl _
      · cases decl.type with
        | none => exact .refl _
        | some type =>
          dsimp only
          split
          · exact (ih type (depth + 1) false false).map _
          · exact .refl _
    case h_4 group _ => exact (hparticles (depth + 1) group.particles).map _
    case h_5 type _ =>
      cases type.base with
      | some base => exact (hbody (depth + 3) type).map _
      | none =>
        dsimp only
        split
        · exact .refl _
        · exact (hbody (depth + 1) type).map _
    all_goals exact .refl _

/-- Every component of a loaded set is **written** through as many levels as there are components
from it on, and more of them change nothing. -/
theorem Loaded.exists_fragmentLines (h : set.Loaded allowed) (id : ComponentId) (home : String)
    (depth : Nat) (top repeated : Bool) :
    ∃ lines, ∀ steps, set.size - id.index < steps →
      set.fragmentLines home steps id depth top repeated = some lines := by
  have hgroup : (set.component id).isGroup = false := by
    rw [Component.isGroup, (h.fits id).ungrouped]
    rfl
  obtain ⟨lines, hlines⟩ := Option.isSome_iff_exists.1
    (h.isSome_fragmentLines (Nat.lt_succ_self _) hgroup depth top repeated)
  refine ⟨lines, fun steps hsteps => ?_⟩
  induction hsteps with
  | refl => exact hlines
  | step _ ih => exact grants_fragmentLines set home _ id depth top repeated lines ih

end SchemaSet

end SchemaBinding
