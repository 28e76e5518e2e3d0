import SchemaBinding.Proofs.Following.Basic

/-! # Customizations that a run uses
A property customization is used when its declaration gives its name to a property, and when the
class that is built for the declaration is finished. So a step **uses** the customizations behind
the names that it takes itself, and those that the bodies serve which it has finished meanwhile. It
does not warn about customizations. -/

namespace SchemaBinding

open Resolver (State Event)

/-! ## Named components -/

/-- Whether the property for a component is customized. -/
def SchemaSet.customizesProperty (set : SchemaSet) (c : ComponentId) : Bool :=
  (set.component c).custom.property.isSome

namespace Item

/-- The components whose names the property for an item may take. -/
def named (set : SchemaSet) : Item → List ComponentId
  | .value _ => []
  | .occurrence particle => [particle.term]
  | .attr id => if (set.component id).asAttribute.isSome then [id] else []

variable {set : SchemaSet} {e : ComponentId}

@[simp] theorem named_value (type : ComponentId) : (value type).named set = [] := rfl

@[simp] theorem named_occurrence (particle : Particle) :
    (occurrence particle).named set = [particle.term] := rfl

/-- An attribute names no element. -/
theorem not_mem_named_attr (h : (set.component e).isElement = true) (id : ComponentId) :
    e ∉ (attr id).named set := by
  show e ∉ if _ then [id] else []
  split
  · rename_i hid
    rw [List.mem_singleton]
    rintro rfl
    obtain ⟨decl, hdecl⟩ := Option.isSome_iff_exists.1 hid
    obtain ⟨decl', hkind⟩ := Component.isElement_iff.1 h
    rw [Component.asAttribute_eq_some, hkind] at hdecl
    cases hdecl
  · exact List.not_mem_nil

end Item

namespace SchemaSet

variable {set : SchemaSet} {c e : ComponentId}

/-- The components that the items of a body name. -/
def named (set : SchemaSet) (c : ComponentId) : List ComponentId :=
  ((set.items? c).getD []).flatMap (Item.named set)

/-- The items for the base of a complex type name nothing. -/
theorem named_baseItems (set : SchemaSet) (type : ComplexType) :
    (set.baseItems type).flatMap (Item.named set) = [] := by
  unfold baseItems
  split
  · split <;> rfl
  · rfl

/-- The body with a content names what the items for the content name. -/
theorem named_content {id : ComponentId} {type : ComplexType}
    (h : set.bodyKind c = .content id type) :
    set.named c = ((set.contentItems? type).getD []).flatMap (Item.named set) := by
  unfold named items?
  rw [h]
  cases hcontent : set.contentItems? type with
  | none => simp [hcontent]
  | some items => simp [hcontent, List.flatMap_append, named_baseItems]

/-- Among the items for a content, an element is named by the ones for its **occurrences**. -/
theorem mem_flatMap_contentItems? (h : (set.component e).isElement = true) (type : ComplexType) :
    e ∈ ((set.contentItems? type).getD []).flatMap (Item.named set) ↔
      ∃ occurrences, set.occurrences? type.content = some occurrences ∧
        ∃ p ∈ occurrences, p.term = e := by
  unfold contentItems?
  cases set.occurrences? type.content with
  | none => simp
  | some occurrences =>
    simp only [Option.map_some, Option.getD_some, List.mem_flatMap, List.mem_append, List.mem_map,
      Option.some.injEq, exists_eq_left']
    constructor
    · rintro ⟨item, ⟨p, hp, rfl⟩ | ⟨id, -, rfl⟩, hitem⟩
      · exact ⟨p, hp, (List.mem_singleton.1 hitem).symm⟩
      · exact absurd hitem (Item.not_mem_named_attr h id)
    · rintro ⟨p, hp, rfl⟩
      exact ⟨_, .inl ⟨p, hp, rfl⟩, List.mem_singleton_self _⟩

/-- A body names an element when the element **occurs** in its content. -/
theorem mem_named_iff (h : (set.component e).isElement = true) :
    e ∈ set.named c ↔ ∃ id type, set.bodyKind c = .content id type ∧
      ∃ occurrences, set.occurrences? type.content = some occurrences ∧
        ∃ p ∈ occurrences, p.term = e := by
  cases hbody : set.bodyKind c with
  | content id type =>
    rw [named_content hbody, mem_flatMap_contentItems? h]
    simp
  | _ => simp [named, items?, hbody]

end SchemaSet

/-- A finished body **serves** its component and everything that its items name. -/
def Mark.Serves (set : SchemaSet) (id : ComponentId) : Mark → Prop
  | .begun .. => False
  | .done c _ => id = c ∨ id ∈ set.named c

namespace Resolver.State

/-! ## What is used between two states -/

/-- Between two states exactly the customizations of some **names** have been **used**, and those
that the bodies serve which have been finished meanwhile. -/
structure Uses (set : SchemaSet) (names : List ComponentId) (s t : State) : Prop where
  acknowledged : ∃ marks, t.ledger.log = marks ++ s.ledger.log ∧
    ∀ id, id ∈ t.acknowledged ↔ id ∈ s.acknowledged ∨
      set.customizesProperty id = true ∧ (id ∈ names ∨ ∃ mark ∈ marks, mark.Serves set id)
  warnings : t.reports.withKey Finding.unusedCustomizationKey =
    s.reports.withKey Finding.unusedCustomizationKey

namespace Uses

variable {set : SchemaSet} {names later : List ComponentId} {s t u : State}

/-- Nothing is used when neither the log nor what is acknowledged changes. -/
theorem of_eq (hlog : t.ledger.log = s.ledger.log) (hacknowledged : t.acknowledged = s.acknowledged)
    (hwarnings : t.reports.withKey Finding.unusedCustomizationKey =
      s.reports.withKey Finding.unusedCustomizationKey) : Uses set [] s t :=
  ⟨⟨[], hlog, by simp [hacknowledged]⟩, hwarnings⟩

/-- A state follows itself without the use of a name. -/
theorem refl (s : State) : Uses set [] s s := of_eq rfl rfl rfl

/-- What is used from one state to the next adds up. -/
theorem trans (h : Uses set names s t) (h' : Uses set later t u) :
    Uses set (names ++ later) s u := by
  obtain ⟨⟨marks, hlog, hused⟩, hwarnings⟩ := h
  obtain ⟨⟨marks', hlog', hused'⟩, hwarnings'⟩ := h'
  refine ⟨⟨marks' ++ marks, by rw [hlog', hlog, List.append_assoc], fun id => ?_⟩,
    hwarnings'.trans hwarnings⟩
  rw [hused', hused]
  simp only [List.mem_append, or_and_right, exists_or]
  grind

/-- A report about something else than a customization uses nothing. -/
theorem raise {finding : Finding} (h : finding.key ≠ Finding.unusedCustomizationKey) (s : State) :
    Uses set [] s { s with reports := s.reports.raise finding } :=
  of_eq rfl rfl (by rw [Reports.withKey_raise, if_neg h, List.append_nil])

end Uses

/-- Between two states the body of a class has been **filled**: it has used the customizations of
everything that its items name, and its end is marked. -/
def Fills (set : SchemaSet) (c : ComponentId) (k : ClassId) (s u : State) : Prop :=
  ∃ t, s.Uses set (set.named c) t ∧ u.ledger.log = .done c k :: t.ledger.log ∧
    u.acknowledged = t.acknowledged ∧ u.reports = t.reports

/-- Once the customization of its component is used as well, a body that is filled has **served**
all that it serves. -/
theorem Fills.finish {set : SchemaSet} {c : ComponentId} {k : ClassId} {s u v : State}
    (h : Fills set c k s u) (hlog : v.ledger.log = u.ledger.log)
    (hacknowledged : ∀ id, id ∈ v.acknowledged ↔
      id ∈ u.acknowledged ∨ set.customizesProperty id = true ∧ id = c)
    (hreports : v.reports = u.reports) : s.Uses set [] v := by
  obtain ⟨t, ⟨⟨marks, hmarks, hused⟩, hwarnings⟩, hdone, hsame, hreported⟩ := h
  refine ⟨⟨.done c k :: marks, ?_, fun id => ?_⟩, ?_⟩
  · rw [hlog, hdone, hmarks]
    rfl
  · rw [hacknowledged, hsame, hused]
    simp only [List.mem_cons, exists_eq_or_imp, Mark.Serves, List.not_mem_nil, false_or]
    grind
  · rw [hreports, hreported, hwarnings]

end Resolver.State

namespace Resolving

variable {α β : Type} {set : SchemaSet} {names later : List ComponentId}

/-! ## Steps that use customizations -/

/-- A step **uses** the customizations of some names whenever it succeeds. -/
def Using (set : SchemaSet) (names : List ComponentId) (step : Resolving α) : Prop :=
  ∀ s a t, step.runFrom s = (.ok a, t) → s.Uses set names t

namespace Using

variable {step : Resolving α} {next : α → Resolving β}

/-- A value uses nothing. -/
theorem pure (a : α) : Using set [] (Pure.pure a : Resolving α) := by
  rintro s _ _ ⟨⟩
  exact .refl s

/-- A step that fails may be said to use any names, since only success counts. -/
theorem throw (e : ResolveError) : Using set names (MonadExcept.throw e : Resolving α) := by
  rintro s _ _ ⟨⟩

/-- A step after another uses the names of both. -/
theorem bind (h : Using set names step) (hnext : ∀ a, Using set later (next a)) :
    Using set (names ++ later) (step >>= next) := by
  intro s b u hrun
  obtain ⟨a, t, hstep, hlater⟩ := runFrom_bind_ok.1 hrun
  exact (h s a t hstep).trans (hnext a t b u hlater)

/-- A step that comes after one that uses nothing. -/
theorem nil_bind (h : Using set [] step) (hnext : ∀ a, Using set later (next a)) :
    Using set later (step >>= next) := h.bind hnext

/-- A step that comes before one that uses nothing. -/
theorem bind_nil (h : Using set names step) (hnext : ∀ a, Using set [] (next a)) :
    Using set names (step >>= next) := by
  simpa using h.bind hnext

/-- A step that first looks at the state. -/
theorem reading {next : State → Resolving β} (hnext : ∀ s, Using set names (next s)) :
    Using set names (MonadState.get >>= next) := by
  intro s b t hrun
  rw [runFrom_get_bind] at hrun
  exact hnext s s b t hrun

/-- To map the value of a step does not change what the step uses. -/
theorem map (h : Using set names step) (f : α → β) : Using set names (f <$> step) := by
  intro s b t hrun
  obtain ⟨a, hstep, -⟩ := runFrom_map_ok.1 hrun
  exact h s a t hstep

/-- A loop uses what its turns use, one after the other. -/
theorem forM {items : List α} {f : α → Resolving Unit} {named : α → List ComponentId}
    (h : ∀ a, Using set (named a) (f a)) : Using set (items.flatMap named) (items.forM f) := by
  induction items with
  | nil => exact pure ()
  | cons a rest ih =>
    show Using set (named a ++ rest.flatMap named) (f a >>= fun _ => rest.forM f)
    exact (h a).bind fun _ => ih

/-- A step inside a scope that it leaves as it found it. -/
theorem withScope {scope : Scope} (hscope : scope ≠ .root) {inner : Option ClassId}
    (hkeeping : Keeping inner step) (h : Using set names step) :
    Using set names (Resolving.withScope scope step) := by
  intro s a t hrun
  rw [runFrom_withScope hscope (hkeeping _).scopes] at hrun
  obtain ⟨hresult, rfl⟩ := Prod.mk.inj hrun
  obtain ⟨hacknowledged, hwarnings⟩ := h (inside scope s) a _ (Prod.ext hresult rfl)
  exact ⟨hacknowledged, hwarnings⟩

/-! ### Single changes -/

/-- A change of the state uses what it marks as used. -/
theorem modify {f : State → State} (h : ∀ s : State, s.Uses set names (f s)) :
    Using set names (modify f : Resolving PUnit) := by
  rintro s _ _ ⟨⟩
  exact h s

/-- To acknowledge a customized component uses its name. -/
theorem acknowledge {c : ComponentId} (hc : set.customizesProperty c = true) :
    Using set [c] (Resolving.acknowledge c) := by
  refine modify fun s => ⟨⟨[], rfl, fun id => ?_⟩, rfl⟩
  have hid (h : id = c) : set.customizesProperty id = true := h ▸ hc
  simp only [List.mem_cons, List.not_mem_nil, false_and, exists_false, or_false]
  tauto

/-- A finding uses nothing, unless it is the one about unused customizations. -/
theorem report {finding : Finding} (h : finding.key ≠ Finding.unusedCustomizationKey) :
    Using set [] (Resolving.report finding) := modify fun s => .raise h s

/-- The model may be changed without any use. -/
theorem changeModel (f : Model → Model) : Using set [] (Resolving.changeModel f) :=
  modify fun _ => .of_eq rfl rfl rfl

/-- What is allocated in the model is allocated without any use. -/
theorem allocate (f : Model → α × Model) : Using set [] (Resolving.allocate f) := by
  rintro s _ _ ⟨⟩
  exact .of_eq rfl rfl rfl

/-- The package for a namespace is found without any use. -/
theorem packageFor (x : Context) (ns : String) : Using set [] (x.packageFor ns) := by
  rintro s _ _ ⟨⟩
  show s.Uses set [] (x.packageOf ns s).2
  cases hlookup : s.packages.lookup ns with
  | some id =>
    rw [x.packageOf_known hlookup]
    exact .refl s
  | none =>
    rw [x.packageOf_unknown hlookup]
    have hcheck : s.Uses set [] (x.checkPackageName ns (x.packageName ns) s) := by
      have hkey : Finding.incorrectPackageNameKey ≠ Finding.unusedCustomizationKey := by decide
      have hnoted : s.Uses set [] { s with checkedNames := x.packageName ns :: s.checkedNames } :=
        .of_eq rfl rfl rfl
      exact x.checkPackageName_cases _ _ s (fun _ => .refl s) (fun _ _ => hnoted)
        fun _ _ => hnoted.trans (.raise hkey _)
    exact hcheck.trans (.of_eq rfl rfl rfl)

end Using

end Resolving

end SchemaBinding
