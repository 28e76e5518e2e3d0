import Mathlib.Data.List.Chain
import Mathlib.Data.List.Nodup
import Mathlib.Logic.Relation
import SchemaBinding.Proofs.Schema.Depth

/-! # Bases of complex types
The global complex types of a set derive from each other. What the class for a component extends is
read off that relation, so a chain of extensions that comes back to where it was is a cycle of
derivations, and the path to it is one from base to base. -/

namespace SchemaBinding.SchemaSet

variable {allowed : String → Prop} {set : SchemaSet} {a b c t : ComponentId}

/-! ## Derivations -/

/-- Whether a component is the base of a complex type. -/
def HasBase (set : SchemaSet) (a b : ComponentId) : Prop :=
  ∃ type, (set.component a).asComplexType = some type ∧ type.base = some b

/-- A **declared** complex type: a global one, apart from the universal type. -/
structure DeclaresType (set : SchemaSet) (c : ComponentId) : Prop where
  isComplexType : (set.component c).isComplexType = true
  isGlobal : (set.component c).isGlobal = true
  ne_anyType : c ≠ anyType

/-- A declared complex type **derives** from another one. -/
structure Derives (set : SchemaSet) (a b : ComponentId) : Prop where
  derived : set.DeclaresType a
  base : set.DeclaresType b
  hasBase : set.HasBase a b

/-- A set is **cyclic** when a declared complex type derives from itself, directly or through
others. -/
def Cyclic (set : SchemaSet) : Prop := ∃ c, Relation.TransGen set.Derives c c

/-- An element **leads** to the type that it is declared with, or to the base of its anonymous
type. -/
def LeadsTo (set : SchemaSet) (e b : ComponentId) : Prop :=
  ∃ decl t, (set.component e).asElement = some decl ∧ decl.type = some t ∧
    (t = b ∨ set.isAnonymousTypeOf t e = true ∧ set.HasBase t b)

/-- A **cycle path** goes from base to base until a component is met again. Only its first component
may be an element. -/
structure IsCyclePath (set : SchemaSet) (path : List ComponentId) : Prop where
  distinct : path.dropLast.Nodup
  repeated : ∃ c ∈ path.dropLast, path.getLast? = some c
  bases : path.tail.IsChain set.HasBase
  first : ∀ a b rest, path = a :: b :: rest → set.HasBase a b ∨ set.LeadsTo a b

/-! ## Extensions -/

/-- The class of a complex type **extends** that of its base. -/
theorem extended?_of_asComplexType {type : ComplexType}
    (htype : (set.component a).asComplexType = some type) :
    set.extended? a = type.base.filter fun b => b ≠ anyType && (set.component b).isComplexType := by
  have hkind := Component.asComplexType_eq_some.1 htype
  simp [extended?, bodyKind, Resolver.bodyType?, hkind]

/-- The class of an element **extends** that of the type of the element, or of its base if the
element declares the type itself. -/
theorem extended?_of_elementType? (hcarried : set.elementType? a = some t) {type : ComplexType}
    (htype : (set.component t).asComplexType = some type) :
    set.extended? a =
      if set.isAnonymousTypeOf t a = true then
        type.base.filter fun b => b ≠ anyType && (set.component b).isComplexType
      else some t := by
  obtain ⟨decl, hdecl, -⟩ := Option.map_eq_some_iff.1 hcarried
  have helement := Component.asElement_eq_some.1 hdecl
  have hkind := Component.asComplexType_eq_some.1 htype
  have hne : t ≠ a := by
    rintro rfl
    rw [hkind] at helement
    cases helement
  have hbody : Resolver.bodyType? set a = some t := by
    rw [Resolver.bodyType?, helement]
    exact hcarried
  cases hanonymous : set.isAnonymousTypeOf t a with
  | true => simp [extended?, bodyKind, hbody, hkind, hanonymous]
  | false => simp [extended?, bodyKind, hbody, hkind, hanonymous, hne]

/-- Only a body that is about a complex type extends anything. -/
theorem exists_type_of_extended? (h : set.extended? a = some b) :
    ∃ t type, (t = a ∨ set.elementType? a = some t) ∧
      (set.component t).asComplexType = some type := by
  unfold extended? bodyKind at h
  cases hbody : Resolver.bodyType? set a with
  | none => simp [hbody] at h
  | some t =>
    -- a body is about its own component, or about the type of its element
    have hplace : t = a ∨ set.elementType? a = some t := by
      unfold Resolver.bodyType? at hbody
      split at hbody
      · exact .inr hbody
      · exact .inl (Option.some.inj hbody).symm
      · cases hbody
    cases hkind : (set.component t).kind with
    | complexType type => exact ⟨t, type, hplace, Component.asComplexType_eq_some.2 hkind⟩
    | _ => simp [hbody, hkind] at h

/-- What is extended is a complex type: a base, or the type of an element. -/
theorem extended?_cases (h : set.extended? a = some b) :
    (set.component b).isComplexType = true ∧
      (set.HasBase a b ∧ b ≠ anyType ∨ ∃ t, set.elementType? a = some t ∧
        (t = b ∧ set.isAnonymousTypeOf t a = false ∨
          set.isAnonymousTypeOf t a = true ∧ set.HasBase t b)) := by
  have hbase {type : ComplexType}
      (hb : type.base.filter (fun b => b ≠ anyType && (set.component b).isComplexType) = some b) :
      type.base = some b ∧ b ≠ anyType ∧ (set.component b).isComplexType = true := by
    simpa [Option.filter_eq_some_iff] using hb
  -- a complex type extends its base; an element its type, or the base of its own one
  obtain ⟨t, type, rfl | hcarried, htype⟩ := exists_type_of_extended? h
  · rw [extended?_of_asComplexType htype] at h
    obtain ⟨hb, hne, hcomplex⟩ := hbase h
    exact ⟨hcomplex, .inl ⟨⟨type, htype, hb⟩, hne⟩⟩
  · rw [extended?_of_elementType? hcarried htype] at h
    split at h
    · rename_i hanonymous
      obtain ⟨hb, -, hcomplex⟩ := hbase h
      exact ⟨hcomplex, .inr ⟨t, hcarried, .inr ⟨hanonymous, type, htype, hb⟩⟩⟩
    · rename_i hnamed
      obtain rfl := Option.some.inj h
      have hcomplex := Option.isSome_iff_exists.2 ⟨type, htype⟩
      exact ⟨hcomplex, .inr ⟨t, hcarried, .inl ⟨rfl, by simpa using hnamed⟩⟩⟩

/-- What a complex type extends is its **base**. -/
theorem hasBase_of_extended? (ha : (set.component a).isComplexType = true)
    (h : set.extended? a = some b) : set.HasBase a b ∧ b ≠ anyType := by
  rcases (extended?_cases h).2 with hbase | ⟨t, hcarried, -⟩
  · exact hbase
  · obtain ⟨decl, hdecl, -⟩ := Option.map_eq_some_iff.1 hcarried
    have helement := Component.isElement_iff.2 ⟨decl, Component.asElement_eq_some.1 hdecl⟩
    rw [Component.isComplexType_of_isElement helement] at ha
    cases ha

/-- In a chain of extensions, everything after the start is extended, so it has a base. -/
theorem isChain_tail {path : List ComponentId}
    (h : path.IsChain fun a b => set.extended? a = some b) : path.tail.IsChain set.HasBase := by
  induction path with
  | nil => exact .nil
  | cons a rest ih =>
    cases rest with
    | nil => exact .nil
    | cons b rest =>
      obtain ⟨hab, hrest⟩ := List.isChain_cons_cons.1 h
      refine List.isChain_cons.2 ⟨fun d hd => ?_, ih hrest⟩
      have hbd := (List.isChain_cons.1 hrest).1 d hd
      exact (hasBase_of_extended? (extended?_cases hab).1 hbd).1

/-- A declared type extends the type that it **derives** from. -/
theorem Derives.extended? (h : set.Derives a b) : set.extended? a = some b := by
  obtain ⟨type, htype, hb⟩ := h.hasBase
  rw [extended?_of_asComplexType htype, hb]
  simp [Option.filter, h.base.ne_anyType, h.base.isComplexType]

namespace Loaded

/-- What is extended is **global**. -/
theorem isGlobal_of_extended? (h : set.Loaded allowed) (hextended : set.extended? a = some b) :
    (set.component b).isGlobal = true := by
  have hglobal (c : ComponentId) (hbase : set.HasBase c b) : (set.component b).isGlobal = true := by
    obtain ⟨type, htype, hb⟩ := hbase
    exact (h.fits c).base type b htype hb
  obtain ⟨hcomplex, ⟨hbase, -⟩ | ⟨t, hcarried, ⟨rfl, hnamed⟩ | ⟨-, hbase⟩⟩⟩ :=
    extended?_cases hextended
  · exact hglobal a hbase
  · -- an anonymous type is not extended, since its element shares its class
    refine (h.carried hcarried).resolve_right fun hdeclaring => ?_
    rw [(isAnonymousTypeOf_iff hcomplex).2 hdeclaring] at hnamed
    cases hnamed
  · exact hglobal t hbase

/-- What a complex type extends is a declared type. -/
theorem declaresType_of_extended? (h : set.Loaded allowed)
    (ha : (set.component a).isComplexType = true) (hextended : set.extended? a = some b) :
    set.DeclaresType b where
  isComplexType := (extended?_cases hextended).1
  isGlobal := h.isGlobal_of_extended? hextended
  ne_anyType := (hasBase_of_extended? ha hextended).2

/-! ## Cycles -/

/-- A chain of extensions from a declared type is one of **derivations**. -/
theorem transGen_derives (h : set.Loaded allowed) (ha : set.DeclaresType a)
    (hchain : Relation.TransGen (fun a b => set.extended? a = some b) a b) :
    set.DeclaresType b ∧ Relation.TransGen set.Derives a b := by
  have hstep {a b : ComponentId} (ha : set.DeclaresType a) (hextended : set.extended? a = some b) :
      set.Derives a b :=
    ⟨ha, h.declaresType_of_extended? ha.isComplexType hextended,
      (hasBase_of_extended? ha.isComplexType hextended).1⟩
  induction hchain with
  | single hextended => exact ⟨(hstep ha hextended).base, .single (hstep ha hextended)⟩
  | tail _ hextended ih =>
    exact ⟨(hstep ih.1 hextended).base, ih.2.tail (hstep ih.1 hextended)⟩

/-- A component that extends itself through others makes the set **cyclic**. -/
theorem cyclic_of_transGen (h : set.Loaded allowed)
    (hcycle : Relation.TransGen (fun a b => set.extended? a = some b) c c) : set.Cyclic := by
  -- the component is extended, so it is a complex type, and what it extends is a declared one
  obtain ⟨_, -, hlast⟩ := Relation.TransGen.tail'_iff.1 hcycle
  have hcomplex := (extended?_cases hlast).1
  obtain ⟨b, hfirst, hrest⟩ := Relation.TransGen.head'_iff.1 hcycle
  have hb := h.declaresType_of_extended? hcomplex hfirst
  have hcycle : Relation.TransGen (fun a b => set.extended? a = some b) b b := .tail' hrest hfirst
  exact ⟨b, (h.transGen_derives hb hcycle).2⟩

/-- An element **leads to** what its class extends. -/
theorem leadsTo_of_extended? (h : set.Loaded allowed) (hb : b ≠ anyType)
    (hextended : set.extended? a = some b) : set.HasBase a b ∨ set.LeadsTo a b := by
  obtain ⟨-, ⟨hbase, -⟩ | ⟨t, hcarried, hplace⟩⟩ := extended?_cases hextended
  · exact .inl hbase
  · obtain ⟨decl, hdecl, htype⟩ := Option.map_eq_some_iff.1 hcarried
    cases hdeclared : decl.type with
    | some t' =>
      rw [hdeclared] at htype
      obtain rfl : t' = t := htype
      exact .inr ⟨decl, t', hdecl, hdeclared, hplace.imp And.left id⟩
    | none =>
      -- without a type, the element carries the universal one, which belongs to no element
      rw [hdeclared] at htype
      obtain rfl : anyType = t := htype
      rcases hplace with ⟨rfl, -⟩ | ⟨hanonymous, -⟩
      · exact absurd rfl hb
      · have hdeclaring := h.declaringElement?_of_isAnonymousTypeOf hcarried hanonymous
        rw [h.stays_anyType.declaring] at hdeclaring
        cases hdeclaring

/-- The bodies under construction, together with one that is asked for again, are a **cycle
path**. -/
theorem isCyclePath (h : set.Loaded allowed) {building : List ComponentId} (hnodup : building.Nodup)
    (hchain : (c :: building).IsChain fun later earlier => set.extended? earlier = some later)
    (hc : c ∈ building) (hany : anyType ∉ building) :
    set.IsCyclePath (building.reverse ++ [c]) := by
  -- outermost first, each body is followed by what it extends
  have hpath : (building.reverse ++ [c]).IsChain fun a b => set.extended? a = some b := by
    rw [← List.reverse_cons, List.isChain_reverse]
    exact hchain
  have hmem : ∀ b ∈ building.reverse ++ [c], b ≠ anyType := by
    rintro b hb rfl
    rcases List.mem_append.1 hb with hb | hb
    · exact hany (List.mem_reverse.1 hb)
    · obtain rfl := List.mem_singleton.1 hb
      exact hany hc
  refine ⟨?distinct, ⟨c, ?again, ?last⟩, ?bases, ?first⟩
  case distinct =>
    rw [List.dropLast_concat]
    exact List.nodup_reverse.2 hnodup
  case again =>
    rw [List.dropLast_concat]
    exact List.mem_reverse.2 hc
  case last =>
    exact List.getLast?_concat
  case bases =>
    exact isChain_tail hpath
  case first =>
    rintro a b rest heq
    rw [heq] at hpath hmem
    refine h.leadsTo_of_extended? (hmem b (by simp)) ?_
    exact (List.isChain_cons_cons.1 hpath).1

end Loaded

end SchemaBinding.SchemaSet
