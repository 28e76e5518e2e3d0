import SchemaBinding.Proofs.Manifest.Contents
import SchemaBinding.Proofs.Manifest.Settling

/-! # Building with known components
When the component that a building step is about is known, so is what the step leaves behind: the
component with a change, and a new part at the end of the set if one is added. All other components
stand as before, and references mean the same. -/

namespace SchemaBinding

variable {α : Type} {set set' u base : SchemaSet} {id id' e owner : ComponentId} {c c' : Component}
  {ns document : String}

/-! ## Filled components -/

namespace Component

/-- A component of which only the place in its schema stays. -/
def filled (c : Component) (kind : ComponentKind) (custom : Customization) : Component :=
  { c with kind, custom }

end Component

/-! ## Filled sets -/

/-- A component that is there is **none of those** that are added behind. -/
theorem ComponentId.ne_of_lt_of_le {n : Nat} (hid : id.index < n) (he : n ≤ e.index) : id ≠ e := by
  rintro rfl
  exact Nat.not_le.2 hid he

/-- Sets in which the same declarations are found have the same references. -/
theorem References.ofSet_eq (h : ∀ ns name wantType,
    set'.findGlobal? ns name wantType = set.findGlobal? ns name wantType) :
    References.ofSet set' = References.ofSet set := by
  have htype : Loading.findType? set' = Loading.findType? set := by
    funext ns name
    unfold Loading.findType?
    split
    · rfl
    · exact h _ _ _
  have helement : Loading.findElement? set' = Loading.findElement? set := by
    funext ns name
    exact h _ _ _
  unfold References.ofSet
  rw [htype, helement]

namespace SchemaSet

/-- A set in which a component of an earlier one is **filled**: all others that were there stand as
before, and references mean what they meant. -/
structure Filled (id : ComponentId) (base set : SchemaSet) : Prop where
  indexed : set.Indexed
  size : base.size ≤ set.size
  kept : ∀ k : ComponentId, k.index < base.size → k ≠ id → set.component k = base.component k
  references : References.ofSet set = References.ofSet base

namespace Filled

/-- A set is filled when nothing was done to it. -/
theorem refl (h : base.Indexed) (id : ComponentId) : Filled id base base :=
  ⟨h, Nat.le_refl _, fun _ _ _ => rfl, rfl⟩

/-- A part of the component may be filled as well. -/
theorem trans (h : Filled id base set) (h' : Filled id' set set')
    (hid : id' = id ∨ base.size ≤ id'.index) : Filled id base set' where
  indexed := h'.indexed
  size := Nat.le_trans h.size h'.size
  kept k hk hne := by
    rw [h'.kept k (Nat.lt_of_lt_of_le hk h.size), h.kept k hk hne]
    rcases hid with hsame | hpart
    · exact hsame ▸ hne
    · exact ComponentId.ne_of_lt_of_le hk hpart
  references := h'.references.trans h.references

/-- The component is changed, but goes by the same heading. -/
theorem put (h : base.Indexed) (hheading : c.heading = (base.component id).heading) :
    Filled id base (base.put id c) where
  indexed := h.modifyComponent (congrArg Heading.isGlobal hheading) (congrArg Heading.ns hheading)
  size := Nat.le_of_eq (size_put base id c).symm
  kept _ _ hne := component_put_of_ne hne c
  references := References.ofSet_eq fun ns name wantType =>
    h.findGlobal?_modifyComponent hheading ns name wantType

/-- A local component is added. -/
theorem insert (h : base.Indexed) (hlocal : c.isGlobal = false) (id : ComponentId) :
    Filled id base (base.insert c).2 where
  indexed := h.insert c
  size := by
    rw [size_insert]
    exact Nat.le_succ _
  kept k hk _ := component_insert_of_mem (mem_ids hk) c
  references := References.ofSet_eq fun ns name wantType =>
    h.findGlobal?_insert hlocal ns name wantType

/-- A component that was there is there still. -/
theorem index_lt (h : Filled id base set) (hid : e.index < base.size) : e.index < set.size :=
  Nat.lt_of_lt_of_le hid h.size

end Filled

/-- A set in which a part was **added** at the end, and its owner changed. -/
structure Added (id : ComponentId) (c part : Component) (base set : SchemaSet) : Prop where
  filled : Filled id base set
  size : set.size = base.size + 1
  owner : set.component id = c
  part : set.component ⟨base.size⟩ = part

/-- A local component is added, changed once more, and its owner changed as well. -/
theorem Indexed.added (h : base.Indexed) (hid : id.index < base.size) {part part' : Component}
    (hlocal : part.isGlobal = false) (hheading : c.heading = (base.component id).heading)
    (hpart : part'.heading = part.heading) :
    Added id c part' base (((base.insert part).2.put id c).put ⟨base.size⟩ part') := by
  have hne : id ≠ ⟨base.size⟩ := ComponentId.ne_of_lt_of_le hid (Nat.le_refl _)
  have hinsert : Filled id base (base.insert part).2 := .insert h hlocal id
  have hkept : (base.insert part).2.component id = base.component id :=
    component_insert_of_mem (mem_ids hid) part
  have hlast (c : Component) : ((base.insert part).2.put id c).component ⟨base.size⟩ = part := by
    rw [component_put_of_ne hne.symm, component_insert, if_pos rfl]
  have howner : Filled id base ((base.insert part).2.put id c) := by
    refine hinsert.trans (.put hinsert.indexed ?_) (.inl rfl)
    rw [hkept]
    exact hheading
  refine ⟨howner.trans (.put howner.indexed ?_) (.inr (Nat.le_refl _)), by simp, ?_, ?_⟩
  · rw [hlast]
    exact hpart
  · rw [component_put_of_ne hne, component_put]
    -- the owner was there, so it is not the new component
    rw [size_insert]
    exact Nat.lt_succ_of_lt hid
  · rw [component_put]
    simp

end SchemaSet

/-! ## Runs of building steps -/

namespace Builder

/-- A known component is changed. -/
theorem run_change_of_eq (hid : id.index < set.size) (hc : set.component id = c)
    (f : Component → Component) : (change id f).run.run set = (.ok (), set.put id (f c)) := by
  rw [run_change hid, SchemaSet.modifyComponent_eq_put, hc]

/-- A known component is given another kind, if it is of a kind that can be. -/
theorem run_changeKind (hid : id.index < set.size) (hc : set.component id = c)
    {f : ComponentKind → Except Misuse ComponentKind} (kind : ComponentKind)
    (h : f c.kind = .ok kind) :
    (changeKind id f).run.run set = (.ok (), set.put id { c with kind }) := by
  have hrun := run_change_of_eq hid hc fun c => { c with kind }
  rw [← hc] at h
  unfold changeKind
  refine (SchemaSet.run_bind_of_ok (run_component hid) _).trans ?_
  rw [h]
  exact hrun

/-- Where a local component is added, and made a part of another one. -/
theorem run_insert_part (hid : id.index < set.size) (hc : set.component id = c)
    (part : String → Component) {attach : ComponentId → ComponentKind → Except Misuse ComponentKind}
    (kind : ComponentKind) (h : attach ⟨set.size⟩ c.kind = .ok kind) :
    (do
      let added ← insert (part (← namespaceOf id))
      changeKind id (attach added)
      return added : Builder ComponentId).run.run set =
        (.ok ⟨set.size⟩, (set.insert (part c.ns)).2.put id { c with kind }) := by
  have hkept : (set.insert (part c.ns)).2.component id = c :=
    (SchemaSet.component_insert_of_mem (SchemaSet.mem_ids hid) _).trans hc
  have hns : (namespaceOf id).run.run set = (.ok c.ns, set) := by
    rw [run_namespaceOf hid, hc]
  have hinsert : (insert (part c.ns)).run.run set =
      (.ok (⟨set.size⟩ : ComponentId), (set.insert (part c.ns)).2) := rfl
  refine (SchemaSet.run_bind_of_ok hns _).trans ((SchemaSet.run_bind_of_ok hinsert _).trans ?_)
  refine SchemaSet.run_bind_of_ok (run_changeKind ?_ hkept kind h) _
  rw [SchemaSet.size_insert]
  exact Nat.lt_succ_of_lt hid

/-- A term that occurs last is marked there. -/
theorem repeatLast_concat (term : ComponentId) (content : List Particle) :
    repeatLast term (content ++ [⟨term, false⟩]) = some (content ++ [⟨term, true⟩]) := by
  induction content with
  | nil => simp [repeatLast]
  | cons p rest ih => rw [List.cons_append, repeatLast, ih, List.cons_append]

end Builder

/-! ## Runs on known components -/

namespace ComplexType

/-- A complex type with more content. -/
def add (type : ComplexType) (particles : List Particle) : ComplexType :=
  { type with content := type.content ++ particles }

/-- A complex type with more attributes. -/
def attach (type : ComplexType) (attributes : List ComponentId) : ComplexType :=
  { type with attributes := type.attributes ++ attributes }

@[simp] theorem add_nil (type : ComplexType) : type.add [] = type := by simp [add]

@[simp] theorem add_add (type : ComplexType) (particles more : List Particle) :
    (type.add particles).add more = type.add (particles ++ more) := by simp [add]

@[simp] theorem attach_nil (type : ComplexType) : type.attach [] = type := by simp [attach]

@[simp] theorem attach_attach (type : ComplexType) (attributes more : List ComponentId) :
    (type.attach attributes).attach more = type.attach (attributes ++ more) := by simp [attach]

end ComplexType

namespace Builder

section ComplexType

variable {type : ComplexType} {custom : Customization}
  (hid : id.index < set.size)
  (hc : set.component id = c.filled (.complexType type) custom)

include hid hc

/-- To derive a complex type sets its base and how it is derived from it. -/
theorem run_derive (base : ComponentId) (derivation : Derivation) :
    (derive id base derivation).run.run set = (.ok (),
      set.put id (c.filled (.complexType { type with base := some base, derivation }) custom)) :=
  run_changeKind hid hc (.complexType { type with base := some base, derivation }) rfl

/-- To make a complex type abstract changes nothing else of it. -/
theorem run_setAbstract_complexType : (setAbstract id).run.run set =
    (.ok (), set.put id (c.filled (.complexType { type with isAbstract := true }) custom)) :=
  run_changeKind hid hc (.complexType { type with isAbstract := true }) rfl

/-- A reference to an element is one more particle, with no new component. -/
theorem run_elementRef (term : ComponentId) : (elementRef id term).run.run set =
    (.ok (), set.put id (c.filled (.complexType (type.add [⟨term, false⟩])) custom)) := by
  unfold elementRef pushParticle
  exact run_changeKind hid hc (.complexType (type.add [⟨term, false⟩])) rfl

/-- A local element is a new component at the end, and one more particle. -/
theorem run_localElement (name : String) :
    (localElement id name none).run.run set = (.ok ⟨set.size⟩,
      (set.insert { kind := .element {}, name := some name, ns := c.ns }).2.put id
        (c.filled (.complexType (type.add [⟨⟨set.size⟩, false⟩])) custom)) :=
  run_insert_part hid hc (fun ns => { kind := .element {}, name := some name, ns })
    (.complexType (type.add [⟨⟨set.size⟩, false⟩])) rfl

/-- A local attribute is a new component at the end, and one more attribute. -/
theorem run_localAttribute (name : String) (attributed : Option ComponentId) :
    (localAttribute id name attributed).run.run set = (.ok ⟨set.size⟩,
      (set.insert { kind := .attribute ⟨attributed⟩, name := some name, ns := c.ns }).2.put id
        (c.filled (.complexType (type.attach [⟨set.size⟩])) custom)) :=
  run_insert_part hid hc (fun ns => { kind := .attribute ⟨attributed⟩, name := some name, ns })
    (.complexType (type.attach [⟨set.size⟩])) rfl

end ComplexType

/-- The last occurrence of a term is marked, if it is the last of all. -/
theorem run_setRepeated {type : ComplexType} {custom : Customization} {term : ComponentId}
    (hid : id.index < set.size)
    (hc : set.component id = c.filled (.complexType (type.add [⟨term, false⟩])) custom) :
    (setRepeated id term).run.run set =
      (.ok (), set.put id (c.filled (.complexType (type.add [⟨term, true⟩])) custom)) := by
  refine run_changeKind hid hc (.complexType (type.add [⟨term, true⟩])) ?_
  have hlast : repeatLast term (type.add [⟨term, false⟩]).content =
      some (type.add [⟨term, true⟩]).content := repeatLast_concat term type.content
  simp only [Component.filled, hlast]
  rfl

section Element

variable {decl : ElementDecl} {custom : Customization}
  (hid : id.index < set.size)
  (hc : set.component id = c.filled (.element decl) custom)

include hid hc

/-- To give an element a type changes nothing else of it. -/
theorem run_setElementType (type : ComponentId) : (setElementType id type).run.run set =
    (.ok (), set.put id (c.filled (.element { decl with type := some type }) custom)) :=
  run_changeKind hid hc (.element { decl with type := some type }) rfl

/-- To make an element abstract changes nothing else of it. -/
theorem run_setAbstract_element : (setAbstract id).run.run set =
    (.ok (), set.put id (c.filled (.element { decl with isAbstract := true }) custom)) :=
  run_changeKind hid hc (.element { decl with isAbstract := true }) rfl

/-- An anonymous complex type is a new component at the end, and the type of the element that
declares it. -/
theorem run_anonymousComplexType :
    (anonymousComplexType id).run.run set = (.ok ⟨set.size⟩,
      (set.insert { kind := .complexType { declaringElement := some id }, ns := c.ns }).2.put id
        (c.filled (.element { decl with type := some ⟨set.size⟩ }) custom)) :=
  run_insert_part hid hc (fun ns => { kind := .complexType { declaringElement := some id }, ns })
    (.element { decl with type := some ⟨set.size⟩ }) rfl

end Element

/-- To give a simple type a base changes nothing else of it. -/
theorem run_setSimpleBase {type : SimpleType} {custom : Customization}
    (hid : id.index < set.size)
    (hc : set.component id = c.filled (.simpleType type) custom) (base : ComponentId) :
    (setSimpleBase id base).run.run set =
      (.ok (), set.put id (c.filled (.simpleType { type with base := some base }) custom)) :=
  run_changeKind hid hc (.simpleType { type with base := some base }) rfl

end Builder
end SchemaBinding
