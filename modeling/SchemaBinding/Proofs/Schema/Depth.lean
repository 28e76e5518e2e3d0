import SchemaBinding.Proofs.Schema.Loaded
import SchemaBinding.Proofs.Standard.Plan

/-! # The depth of loaded sets
What lies inside a component of a loaded set lies behind it, so its fragment and its content come to
an end. The questions of proposals end as well: an anonymous type asks about its element, an element
without a class of its own about a named type, and a named type about nothing. -/

namespace SchemaBinding

namespace Component

variable {c : Component}

/-- Anonymous types of elements are complex. -/
theorem isComplexType_of_declaringElement? {e : ComponentId} (h : c.declaringElement? = some e) :
    c.isComplexType = true := by
  obtain ⟨type, htype, -⟩ := Option.bind_eq_some_iff.1 h
  exact Option.isSome_iff_exists.2 ⟨type, htype⟩

end Component

namespace SchemaSet

variable {allowed : String → Prop} {set : SchemaSet} {b c d e t id : ComponentId}

/-- An anonymous complex type of an element names it. -/
theorem isAnonymousTypeOf_iff (h : (set.component t).isComplexType = true) :
    set.isAnonymousTypeOf t e = true ↔ (set.component t).declaringElement? = some e := by
  obtain ⟨type, hkind⟩ := Component.isComplexType_iff.1 h
  rw [Component.declaringElement?, Component.asComplexType_eq_some.2 hkind]
  simp [isAnonymousTypeOf, hkind]

/-- Complex types exist. -/
theorem index_lt_of_isComplexType (h : (set.component c).isComplexType = true) :
    c.index < set.size := by
  refine Nat.lt_of_not_le fun hbeyond => ?_
  rw [component_of_size_le hbeyond] at h
  cases h

/-- The content of a body is that of a complex type. -/
theorem asComplexType_of_content {type : ComplexType} (h : set.bodyKind c = .content id type) :
    (set.component id).asComplexType = some type := by
  rw [Component.asComplexType_eq_some]
  unfold bodyKind at h
  cases hid : Resolver.bodyType? set c with
  | none => simp [hid] at h
  | some t =>
    simp only [hid] at h
    cases hkind : (set.component t).kind with
    | complexType type' =>
      simp only [hkind] at h
      split at h
      · cases h
      · cases h
        exact hkind
    | _ => simp [hkind] at h

/-- A complex type asks about an element if it is the anonymous type of that element. -/
theorem declaringElement?_of_asked? (hcomplex : (set.component c).isComplexType = true)
    (hasked : set.asked? c = some d) :
    (set.component c).name = none ∧ (set.component c).declaringElement? = some d := by
  obtain ⟨type, hkind⟩ := Component.isComplexType_iff.1 hcomplex
  rw [Component.declaringElement?, Component.asComplexType_eq_some.2 hkind]
  simp only [asked?, hkind] at hasked
  split at hasked
  · rename_i hname
    exact ⟨Option.isNone_iff_eq_none.1 hname, hasked⟩
  · cases hasked

/-- The kinds of components in the order in which proposals ask about them: anonymous complex types
come after elements, and elements after all others. -/
def questions (set : SchemaSet) (c : ComponentId) : Nat :=
  match (set.component c).kind with
  | .element _ => 1
  | .complexType _ => if (set.component c).name.isNone then 2 else 0
  | _ => 0

/-- No component has more than two questions. -/
theorem questions_le (set : SchemaSet) (c : ComponentId) : set.questions c ≤ 2 := by
  unfold questions
  split
  · decide
  · split <;> decide
  · decide

namespace Loaded

/-- The universal type is what it was in the initial set. -/
theorem stays_anyType (h : set.Loaded allowed) :
    anyTypeComponent.Stays (set.component anyType) := by
  have hinitial : initial.component anyType = anyTypeComponent := by decide +kernel
  rw [← hinitial]
  exact h.grown.stays anyType (by decide +kernel)

/-- The type that an element carries is global, or declared by the element. -/
theorem carried (h : set.Loaded allowed) (htype : set.elementType? e = some t) :
    (set.component t).isGlobal = true ∨ (set.component t).declaringElement? = some e := by
  obtain ⟨decl, hdecl, rfl⟩ := Option.map_eq_some_iff.1 htype
  cases hcarried : decl.type with
  | none => exact .inl h.stays_anyType.isGlobal
  | some t => exact (h.fits e).carried decl t hdecl hcarried

/-- Among the types that an element carries, only its own is anonymous. -/
theorem declaringElement?_of_isAnonymousTypeOf (h : set.Loaded allowed)
    (htype : set.elementType? e = some t) (hanonymous : set.isAnonymousTypeOf t e = true) :
    (set.component t).declaringElement? = some e := by
  rcases h.carried htype with hglobal | hdeclaring
  · by_cases hcomplex : (set.component t).isComplexType = true
    · exact (isAnonymousTypeOf_iff hcomplex).1 hanonymous
    · -- a global simple type is not anonymous
      unfold isAnonymousTypeOf at hanonymous
      cases hkind : (set.component t).kind with
      | complexType type => exact absurd (Component.isComplexType_iff.2 ⟨type, hkind⟩) hcomplex
      | _ => simp [hkind, hglobal] at hanonymous
  · exact hdeclaring

/-! ## Fragments -/

/-- Options that are all there are there together. -/
theorem isSome_mapM {α β : Type} {f : α → Option β} {items : List α}
    (h : ∀ a ∈ items, (f a).isSome = true) : (items.mapM f).isSome = true := by
  induction items with
  | nil => rfl
  | cons a rest ih =>
    obtain ⟨b, hb⟩ := Option.isSome_iff_exists.1 (h a List.mem_cons_self)
    obtain ⟨bs, hbs⟩ := Option.isSome_iff_exists.1 (ih fun a' ha' => h a' (.tail _ ha'))
    rw [List.mapM_cons, hb, hbs]
    rfl

/-- Inside another component, a global element is written as a reference. -/
theorem isSome_fragmentLines_reference {home : String} {steps depth : Nat} {repeated : Bool}
    (helement : (set.component e).isElement = true) (hglobal : (set.component e).isGlobal = true) :
    (set.fragmentLines home (steps + 1) e depth false repeated).isSome = true := by
  obtain ⟨decl, hkind⟩ := Component.isElement_iff.1 helement
  simp [fragmentLines, hkind, hglobal]

/-- An attribute is written on a line of its own. -/
theorem isSome_fragmentLines_attribute {home : String} {steps depth : Nat} {top repeated : Bool}
    (hattribute : (set.component e).asAttribute.isSome = true) :
    (set.fragmentLines home (steps + 1) e depth top repeated).isSome = true := by
  obtain ⟨decl, hdecl⟩ := Option.isSome_iff_exists.1 hattribute
  simp [fragmentLines, Component.asAttribute_eq_some.1 hdecl]

/-- An element has a fragment if its anonymous type does. -/
theorem isSome_fragmentLines_element {home : String} {steps depth : Nat} {top repeated : Bool}
    {decl : ElementDecl} (hkind : (set.component e).kind = .element decl)
    (htype : ∀ t, decl.type = some t → set.isAnonymousTypeOf t e = true →
      ∀ depth, (set.fragmentLines home steps t depth false false).isSome = true) :
    (set.fragmentLines home (steps + 1) e depth top repeated).isSome = true := by
  unfold fragmentLines
  simp only [hkind]
  split
  · rfl
  · cases hcarried : decl.type with
    | none => rfl
    | some t =>
      dsimp only
      split
      · rename_i hanonymous
        rw [Option.isSome_map]
        exact htype t hcarried hanonymous _
      · rfl

/-- A complex type has a fragment if all its particles and attributes do. -/
theorem isSome_fragmentLines_complexType {home : String} {steps depth : Nat} {top repeated : Bool}
    {type : ComplexType} (hkind : (set.component c).kind = .complexType type)
    (hcontent : ∀ p ∈ type.content, ∀ depth,
      (set.fragmentLines home steps p.term depth false p.repeated).isSome = true)
    (hattributes : ∀ a ∈ type.attributes, ∀ depth,
      (set.fragmentLines home steps a depth false false).isSome = true) :
    (set.fragmentLines home (steps + 1) c depth top repeated).isSome = true := by
  -- the lines inside the type, wherever they are indented to
  have hbody (depth : Nat) : ∃ content attributes,
      (type.content.mapM fun p =>
        set.fragmentLines home steps p.term depth false p.repeated) = some content ∧
      (type.attributes.mapM fun a =>
        set.fragmentLines home steps a depth false false) = some attributes := by
    obtain ⟨content, hcontent⟩ :=
      Option.isSome_iff_exists.1 (isSome_mapM fun p hp => hcontent p hp depth)
    obtain ⟨attributes, hattributes⟩ :=
      Option.isSome_iff_exists.1 (isSome_mapM fun a ha => hattributes a ha depth)
    exact ⟨content, attributes, hcontent, hattributes⟩
  unfold fragmentLines
  simp only [hkind]
  cases type.base with
  | some base =>
    obtain ⟨content, attributes, hcontent, hattributes⟩ := hbody (depth + 3)
    dsimp only
    rw [hcontent, hattributes]
    rfl
  | none =>
    dsimp only
    split
    · rfl
    · obtain ⟨content, attributes, hcontent, hattributes⟩ := hbody (depth + 1)
      rw [hcontent, hattributes]
      rfl

/-- Components **have a fragment**: what they enclose lies behind them, or is a reference. -/
theorem isSome_fragmentLines (h : set.Loaded allowed) {home : String} {steps : Nat}
    (hsteps : set.size - id.index < steps) (hgroup : (set.component id).isGroup = false)
    (depth : Nat) (top repeated : Bool) :
    (set.fragmentLines home steps id depth top repeated).isSome = true := by
  -- by induction on the steps: there are more of them than components from this one on
  induction steps generalizing id depth top repeated with
  | zero => exact absurd hsteps (Nat.not_lt_zero _)
  | succ steps ih =>
    cases hkind : (set.component id).kind with
    | element decl =>
      refine isSome_fragmentLines_element hkind fun t hcarried hanonymous depth => ?_
      have htype : set.elementType? id = some t := by
        rw [elementType?, Component.asElement_eq_some.2 hkind, Option.map_some, hcarried]
        rfl
      have hdeclaring := h.declaringElement?_of_isAnonymousTypeOf htype hanonymous
      have hcomplex := Component.isComplexType_of_declaringElement? hdeclaring
      -- the anonymous type lies behind its element
      have hlt := ((h.fits t).declaring id hdeclaring).2.2
      have hsize := set.index_lt_of_isComplexType hcomplex
      exact ih (by omega) (Component.isGroup_of_isComplexType hcomplex) _ _ _
    | complexType type =>
      have hcomplex := Component.asComplexType_eq_some.2 hkind
      have hsize := set.index_lt_of_isComplexType (Component.isComplexType_iff.2 ⟨type, hkind⟩)
      -- the type itself exists, so at least one step is left for what it encloses
      obtain ⟨steps, rfl⟩ : ∃ n, steps = n + 1 := Nat.exists_eq_succ_of_ne_zero (by omega)
      refine isSome_fragmentLines_complexType hkind (fun p hp depth => ?_) fun a ha depth => ?_
      · obtain ⟨hterm, helement, hglobal | hbehind⟩ := (h.fits id).content type p hcomplex hp
        · exact isSome_fragmentLines_reference helement hglobal
        · exact ih (by omega) (Component.isGroup_of_isElement helement) _ _ _
      · exact isSome_fragmentLines_attribute ((h.fits id).attributes type a hcomplex ha)
    | simpleType type =>
      unfold fragmentLines
      simp only [hkind]
      cases type.base <;> rfl
    | group g =>
      rw [Component.isGroup_iff.2 ⟨g, hkind⟩] at hgroup
      cases hgroup
    | _ =>
      unfold fragmentLines
      simp only [hkind]
      rfl

/-- Components are **documented**. -/
theorem documentation?_ne_none (h : set.Loaded allowed)
    (hgroup : (set.component id).isGroup = false) : set.documentation? id ≠ none := by
  have hlines : (set.fragmentLines? id).isSome = true :=
    h.isSome_fragmentLines (by omega) hgroup 0 true false
  obtain ⟨lines, hlines⟩ := Option.isSome_iff_exists.1 hlines
  simp [documentation?, fragment?, hlines]

/-! ## Content -/

/-- The content of a complex type **comes to an end**, since it has no groups. -/
theorem occurrences?_ne_none (h : set.Loaded allowed) {type : ComplexType}
    (htype : (set.component c).asComplexType = some type) :
    set.occurrences? type.content ≠ none := by
  have hparticles : (type.content.mapM (set.particleOccurrences (set.size + 1))).isSome = true := by
    refine isSome_mapM fun p hp => ?_
    have helement := ((h.fits c).content type p htype hp).2.1
    obtain ⟨decl, hkind⟩ := Component.isElement_iff.1 helement
    simp [particleOccurrences, hkind]
  obtain ⟨lists, hlists⟩ := Option.isSome_iff_exists.1 hparticles
  simp [occurrences?, hlists]

/-- Bodies **have items**. -/
theorem items?_ne_none (h : set.Loaded allowed) (c : ComponentId) : set.items? c ≠ none := by
  unfold items?
  split
  · simp
  · rename_i id type hbody
    have htype := asComplexType_of_content hbody
    obtain ⟨occurrences, hoccurrences⟩ :=
      Option.ne_none_iff_exists'.1 (h.occurrences?_ne_none htype)
    simp [contentItems?, hoccurrences]
  · simp

/-! ## Questions -/

/-- A question of a proposal is about a component with **fewer questions**. -/
theorem questions_lt (h : set.Loaded allowed) (hasked : set.asked? c = some d) :
    set.questions d < set.questions c := by
  cases hkind : (set.component c).kind with
  | element decl =>
    simp only [asked?, hkind] at hasked
    split at hasked
    · rename_i hwrapped
      obtain ⟨htype, hcomplex⟩ := Option.filter_eq_some_iff.1 hasked
      -- the type is named, since the element would have a class if it declared the type
      have hnamed : (set.component d).name.isNone = false := by
        rcases h.carried htype with hglobal | hdeclaring
        · have hname := (h.fits d).named hglobal
          cases hname' : (set.component d).name <;> simp [hname'] at hname ⊢
        · have hanonymous := (isAnonymousTypeOf_iff hcomplex).2 hdeclaring
          have hdeclares : Resolver.declaresComplexType set c = true := by
            simp [Resolver.declaresComplexType, htype, hanonymous, hcomplex]
          simp [isWrapped, hdeclares] at hwrapped
      obtain ⟨type, hkind'⟩ := Component.isComplexType_iff.1 hcomplex
      simp [questions, hkind, hkind', hnamed]
    · cases hasked
  | complexType type =>
    have hcomplex := Component.isComplexType_iff.2 ⟨type, hkind⟩
    obtain ⟨hname, hdeclaring⟩ := declaringElement?_of_asked? hcomplex hasked
    have helement := ((h.fits c).declaring d hdeclaring).2.1
    obtain ⟨decl, hkind'⟩ := Component.isElement_iff.1 helement
    simp [questions, hkind, hkind', hname]
  | _ => simp [asked?, hkind] at hasked

end Loaded

end SchemaSet

end SchemaBinding
