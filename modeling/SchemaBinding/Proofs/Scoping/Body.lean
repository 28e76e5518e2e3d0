import SchemaBinding.Proofs.Scoping.Proposal

/-! # Bodies that differ in placement
Resolvers whose answers match fill the body of a class alike. The nested run builds it inside the
class itself, the flat one in the scope of the class, which is a package already. -/

namespace SchemaBinding

open Resolver (State)
open Resolving (Matching anyAnswer runFrom_bind runFrom_get_bind)

variable {r r' : Resolver} {s t : State} {c : ComponentId} {k : ClassId}

namespace Resolver.Alike

/-! ## Before the strategy is asked -/

/-- Class names are checked alike. -/
theorem checkClassName (h : r.Alike r') (hst : s.Similar t) (c : ComponentId) (k : ClassId) :
    Matching (r.checkClassName c k) (r'.checkClassName c k) s t anyAnswer := by
  refine .reading ?_
  dsimp only
  have hreserved (name : String) :
      r'.config.isReservedClassName name = r.config.isReservedClassName name := by
    rw [h.context.config]
    rfl
  rw [hst.model.name k, h.schema, hreserved]
  split
  · exact .report hst _
  · exact .pure hst trivial

/-- Constructors for values are added alike. -/
theorem addValueConstructor (h : r.Alike r') (hst : s.Similar t) (c : ComponentId) (k : ClassId) :
    Matching (r.addValueConstructor c k) (r'.addValueConstructor c k) s t anyAnswer := by
  unfold Resolver.addValueConstructor
  rw [h.schema]
  split
  · split
    · exact .modifyClass hst k (.addConstructor ["value"])
    · exact .pure hst trivial
  · exact .pure hst trivial

/-- Classes are documented alike. -/
theorem documentClass (h : r.Alike r') (hst : s.Similar t) (c : ComponentId) (k : ClassId) :
    Matching (Resolver.documentClass .standard r c k) (Resolver.documentClass .standard r' c k) s t
      anyAnswer := by
  refine .reading ?_
  have hdocs : r'.config.generateDocs = r.config.generateDocs := by rw [h.context.config]
  rw [hst.model.doc k, h.schema, hdocs]
  split
  · split
    · exact .throw _
    · exact .modifyClass hst k (.appendDoc _)
  · exact .pure hst trivial

/-- Bodies are prepared alike. -/
theorem prepareBody (h : r.Alike r') (hst : s.Similar t) (c : ComponentId) (k : ClassId) :
    Matching (Resolver.prepareBody .standard r c k) (Resolver.prepareBody .standard r' c k) s t
      anyAnswer :=
  (h.checkClassName hst c k).bind fun _ _ _ _ huv _ =>
    (h.addValueConstructor huv c k).bind fun _ _ _ _ huv' _ => h.documentClass huv' c k

/-! ## Items -/

/-- Names are acknowledged alike. -/
theorem acknowledgeName (h : r.Alike r') (hst : s.Similar t) (c : ComponentId) :
    Matching (r.acknowledgeName c) (r'.acknowledgeName c) s t anyAnswer := by
  unfold Resolver.acknowledgeName
  rw [h.schema]
  split
  · exact .acknowledge hst c
  · exact .pure hst trivial

/-- Items are acknowledged alike. -/
theorem acknowledgeItem (h : r.Alike r') (hst : s.Similar t) (item : Item) :
    Matching (r.acknowledgeItem item) (r'.acknowledgeItem item) s t anyAnswer := by
  cases item with
  | value type => exact .pure hst trivial
  | occurrence particle => exact h.acknowledgeName hst particle.term
  | attr id =>
    unfold Resolver.acknowledgeItem
    rw [h.schema]
    dsimp only
    split
    · exact h.acknowledgeName hst id
    · exact .pure hst trivial

/-- A type is looked up alike, whether it is asked for or known beforehand. -/
theorem sourceType (h : r.Alike r') (hst : s.Similar t) (source : TypeSource) :
    Matching (r.sourceType source) (r'.sourceType source) s t anyAnswer := by
  cases source with
  | known type => exact .pure hst trivial
  | complexType c => exact (h.bindToType hst c).imp fun _ _ _ => trivial
  | element e => exact (h.isBound hst e).imp fun _ _ _ => trivial

/-- An item of a type has the same property, be local classes nested or flat. -/
theorem itemProperty?_eq (h : r.Alike r') (item : Item) (type : Option TypeRef) :
    r'.toContext.itemProperty? item type = r.toContext.itemProperty? item type := by
  unfold Context.itemProperty? Context.propertyName
  rw [h.context.schema, h.context.naming]

/-- The properties for an item match. -/
theorem addItem (h : r.Alike r') (hst : s.Similar t) (k : ClassId) (item : Item) :
    Matching (r.addItem k item) (r'.addItem k item) s t anyAnswer := by
  rw [addItem_eq, addItem_eq, h.schema]
  refine (h.sourceType hst _).bind fun type u v _ huv _ => ?_
  refine (h.acknowledgeItem huv item).bind fun _ u' v' _ huv' _ => ?_
  rw [h.itemProperty?_eq]
  cases r.toContext.itemProperty? item type with
  | some p => exact .modifyClass huv' k fun _ _ => rfl
  | none => exact .pure huv' trivial

/-- So do those for a list of items. -/
theorem addItems (h : r.Alike r') (hst : s.Similar t) (k : ClassId) (c : ComponentId)
    (items : Option (List Item)) :
    Matching (r.addItems k c items) (r'.addItems k c items) s t anyAnswer := by
  cases items with
  | none => exact .throw _
  | some items => exact .forM hst fun item _ u v huv => h.addItem huv k item

/-! ## Standard bodies -/

/-- Bases match. -/
theorem addBase (h : r.Alike r') (hst : s.Similar t) (k : ClassId) (type : ComponentId) :
    Matching (r.addBase k type) (r'.addBase k type) s t anyAnswer := by
  have hbase : Matching (r.bindComplexType type true) (r'.bindComplexType type true) s t
      anyAnswer := by
    unfold Resolver.bindComplexType
    rw [h.schema]
    split
    · exact (h.answers type true s t hst).bind fun _ u v _ huv _ => .pure huv trivial
    · exact .pure hst trivial
  refine hbase.bind fun base u v _ huv _ => ?_
  cases base with
  | some base => exact .modifyClass huv k fun _ _ => rfl
  | none => exact .pure huv trivial

/-- What derivations give matches. -/
theorem addDerivation (h : r.Alike r') (hst : s.Similar t) (k : ClassId) (type : ComplexType) :
    Matching (r.addDerivation k type) (r'.addDerivation k type) s t anyAnswer := by
  unfold Resolver.addDerivation
  rw [h.schema]
  cases type.base with
  | none => exact .pure hst trivial
  | some base =>
    dsimp only
    split
    · exact .pure hst trivial
    · split
      · exact h.addItem hst k (.value base)
      · exact h.addBase hst k base

/-- Standard bodies match. -/
theorem standardBody (h : r.Alike r') (hst : s.Similar t) (c : ComponentId) (k : ClassId) :
    Matching (r.standardBody c k) (r'.standardBody c k) s t anyAnswer := by
  rw [standardBody_eq, standardBody_eq, h.schema]
  split
  · exact .pure hst trivial
  · exact h.addItem hst k (.value _)
  · exact h.addBase hst k _
  · rw [addContent_eq, addContent_eq, h.schema]
    exact (h.addDerivation hst k _).bind fun _ u v _ huv _ => h.addItems huv k _ _

/-! ## Bodies in their brackets -/

/-- Classes are filled alike. -/
theorem runBody (h : r.Alike r') (hst : s.Similar t) (c : ComponentId) (k : ClassId) :
    Matching (Resolver.runBody .standard r c k) (Resolver.runBody .standard r' c k) s t
      anyAnswer := by
  refine .reading ((Matching.record hst _ _).bind fun _ _ _ _ huv _ => ?_)
  exact (h.standardBody huv c k).bind fun _ _ _ _ huv' _ => .reading (.record huv' _ _)

/-- The scope that is opened for a body is **replaced** by the scope of its class. -/
theorem replaces_innerScope (h : r.Alike r') (hst : s.Similar t)
    (hk : k.index < s.model.classes.size) :
    s.model.Replaces (r.innerScope s.model k) (r'.innerScope t.model k) := by
  obtain ⟨p, hp, hflat⟩ := hst.model.scope k hk
  have hnested : r.innerScope s.model k = .nested k := by
    unfold Resolver.innerScope
    rw [h.context.nested]
  have htoplevel : r'.innerScope t.model k = (t.model.classInfo k).scope := by
    unfold Resolver.innerScope
    rw [h.context.config]
  rw [hnested, htoplevel]
  exact ⟨p, .nested hk hp, hflat⟩

/-- Bodies match although they are built inside of different scopes. -/
theorem placeBody (h : r.Alike r') (hst : s.Similar t) (c : ComponentId) {k : ClassId}
    (hk : k.index < s.model.classes.size) :
    Matching (Resolver.placeBody .standard r c k) (Resolver.placeBody .standard r' c k) s t
      anyAnswer := by
  have hscope := h.replaces_innerScope hst hk
  have hunder : (s.under c k).Similar (t.under c k) := { hst with cursor := rfl }
  have hrun := Matching.withScope hunder hscope
    (keeping_runBody h.keeping Strategy.keeping_standard c k)
    (keeping_runBody h.keeping' Strategy.keeping_standard c k)
    (h.runBody (hunder.inside hscope) c k)
  -- the scope is not the root in either run, so both open it
  have hclosed : Matching
      ((Resolving.withScope (r.innerScope s.model k) (Resolver.runBody .standard r c k)).closing
        fun after => { after with cursor := s.cursor })
      ((Resolving.withScope (r'.innerScope t.model k) (Resolver.runBody .standard r' c k)).closing
        fun after => { after with cursor := t.cursor }) (s.under c k) (t.under c k) anyAnswer := by
    rw [hst.cursor]
    exact hrun.closing _ (fun _ _ huv => { huv with cursor := rfl }) fun _ => rfl
  refine hclosed.congr ?_ ?_
  · unfold Resolver.placeBody
    rw [runFrom_get_bind]
    dsimp only
    rw [Resolving.runFrom_set_bind, if_neg hscope.ne_root.1]
  · unfold Resolver.placeBody
    rw [runFrom_get_bind]
    dsimp only
    rw [Resolving.runFrom_set_bind, if_neg hscope.ne_root.2]

/-- Whole bodies match. -/
theorem buildBody (h : r.Alike r') (hst : s.Similar t) (c : ComponentId) {k : ClassId}
    (hk : k.index < s.model.classes.size) :
    Matching (Resolver.buildBody .standard r c k) (Resolver.buildBody .standard r' c k) s t
      anyAnswer := by
  rw [buildBody_eq, buildBody_eq]
  refine (h.prepareBody hst c k).bind fun _ u v hrun huv _ => h.placeBody huv c ?_
  have hkeeping : Resolving.Keeping (some k) (Resolver.prepareBody .standard r c k) :=
    keeping_prepareBody c k
  have hkeeps := hkeeping s
  rw [hrun] at hkeeps
  exact lt_of_lt_of_le hk hkeeps.model.classes

/-- A binding to a type that **exists** is built alike. -/
theorem buildBinding (h : r.Alike r') (hst : s.Similar t) {b : Binding}
    (hb : s.model.HasType b.target) :
    Matching (Resolver.buildBinding .standard r b) (Resolver.buildBinding .standard r' b) s t
      anyAnswer := by
  have hstep := runFrom_buildBinding .standard r b s
  have hflat := runFrom_buildBinding .standard r' b t
  rw [hst.built, hst.building, h.schema] at hflat
  cases hclass : b.classId? with
  | none =>
    rw [hclass] at hstep hflat
    exact .ok hstep hflat hst trivial
  | some k =>
    rw [hclass] at hstep hflat
    dsimp only at hstep hflat
    by_cases hk : k ∈ s.built
    · rw [if_pos hk] at hstep hflat
      exact .ok hstep hflat hst trivial
    · rw [if_neg hk] at hstep hflat
      cases henter : s.building.enter b.component with
      | error cycle =>
        rw [henter] at hstep hflat
        exact .error hstep hflat
      | ok d =>
        rw [henter] at hstep hflat
        -- both runs claim the class, and both give up its component at the end
        have hclaimed : (s.claimed b.component k).Similar (t.claimed b.component k) :=
          { hst with
            building := by simp [State.claimed, hst.building]
            built := by simp [State.claimed, hst.built] }
        have hsize : k.index < s.model.classes.size := by
          obtain ⟨component, target⟩ := b
          cases target with
          | classRef j =>
            obtain rfl : j = k := Option.some.inj hclass
            exact hb
          | _ => cases hclass
        have hbody := (h.buildBody hclaimed b.component hsize).closing
          (fun s => { s with building := s.building.leave })
          (fun _ _ huv => { huv with building := congrArg CycleDetector.leave huv.building })
          fun _ => rfl
        refine Matching.congr (hbody.bind fun _ u v _ huv _ => ?_) hstep hflat
        split
        · exact .acknowledge huv _
        · exact .pure huv trivial

end Resolver.Alike

end SchemaBinding
