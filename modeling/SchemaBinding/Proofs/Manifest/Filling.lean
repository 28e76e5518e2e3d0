import SchemaBinding.Proofs.Manifest.Building

/-! # Filling declarations
A declaration is filled when all its references mean something, and what is left behind is what its
entry says: the component is changed in place, and its parts are added at the end. -/

namespace SchemaBinding

variable {α β : Type} {set set' u base : SchemaSet} {id e owner : ComponentId} {c : Component}
  {refs : References} {ns document : String}

/-! ## Entries that resolve -/

/-- A reference that is there **means** a type. -/
def References.Means (refs : References) (ns : String) (reference : Option String) : Prop :=
  ∀ name ∈ reference, (refs.type? ns name).isSome = true

/-- All types that a complex type refers to are there. -/
structure TypeHead.Resolves (refs : References) (ns : String) (head : TypeHead) : Prop where
  base : refs.Means ns head.base
  attributes : ∀ entry ∈ head.attributes, refs.Means ns entry.type

mutual

/-- All that the type of an element refers to is there. -/
def ElementEntry.Resolves (refs : References) (ns : String) : ElementEntry → Prop
  | .plain head => refs.Means ns head.type
  | .typed _ type elements => type.Resolves refs ns ∧ ElementEntry.AllResolve refs ns elements

/-- Entries for the content of a complex type say what they may, and what they refer to is there. -/
def ElementEntry.AllResolve (refs : References) (ns : String) : List ElementEntry → Prop
  | [] => True
  | entry :: rest =>
    (match entry.head.reference with
      | some reference =>
        entry.declarationKey? = none ∧ (refs.element? ns reference).isSome = true
      | none => entry.head.name.isSome = true ∧ entry.Resolves refs ns) ∧
        ElementEntry.AllResolve refs ns rest

end

/-- A declaration says what it may, and what it refers to is there. -/
def Declaration.Resolves (refs : References) (d : Declaration) : Prop :=
  match d.entry with
  | .simpleType entry => (refs.type? d.ns entry.base).isSome = true
  | .complexType entry =>
    entry.head.Resolves refs d.ns ∧ ElementEntry.AllResolve refs d.ns entry.elements
  | .element entry => entry.head.repeated = false ∧ entry.Resolves refs d.ns

/-! ## Steps -/

namespace Loading

/-- What is looked up settles for being found. -/
theorem settles_found (set : SchemaSet) (found : Option ComponentId) {e : ManifestError}
    (blames : ∀ cause, e ≠ .misuse cause) :
    Settles (match found with
      | some id => pure id
      | none => throw e) set (found.isSome = true) fun id u => found = some id ∧ u = set := by
  cases found with
  | none => exact (Settles.throw blames).congr (by simp)
  | some id => exact (Settles.pure ⟨rfl, rfl⟩).congr (by simp)

/-- A type is resolved when the reference means one. -/
theorem settles_resolveType (set : SchemaSet) (ns name : String) :
    Settles (resolveType ns name) set (((References.ofSet set).type? ns name).isSome = true)
      fun id u => (References.ofSet set).type? ns name = some id ∧ u = set :=
  .after (a := set) rfl (settles_found set (findType? set ns name) fun _ => by simp)

/-- An element is resolved when the reference means one. -/
theorem settles_resolveElement (set : SchemaSet) (ns name : String) :
    Settles (resolveElement ns name) set (((References.ofSet set).element? ns name).isSome = true)
      fun id u => (References.ofSet set).element? ns name = some id ∧ u = set :=
  .after (a := set) rfl (settles_found set (findElement? set ns name) fun _ => by simp)

/-- A reference to a type that may be missing is resolved and put to use. -/
theorem settles_whenSome_resolveType {step : ComponentId → Builder Unit}
    (put : Option ComponentId → Component) (hc : set.component id = c)
    (hstep : ∀ type, (step type).run.run set = (.ok (), set.put id (put (some type))))
    (hnone : put none = c) (reference : Option String) :
    Settles (whenSome reference fun name => do building (step (← resolveType ns name))) set
      ((References.ofSet set).Means ns reference) fun _ u =>
        ∃ type, (References.ofSet set).Answers ns reference type ∧ u = set.put id (put type) := by
  cases reference with
  | none =>
    refine (Settles.pure ⟨none, rfl, ?_⟩).congr (by simp [References.Means])
    rw [hnone, ← hc, SchemaSet.put_component]
  | some name =>
    refine ((settles_resolveType set ns name).andThen fun type u htype => ?_).congr
      (by simp [References.Means])
    obtain ⟨htype, rfl⟩ := htype
    exact .of_run (run_building (hstep type)) ⟨some type, References.answers_some htype, rfl⟩

/-- What may be customized is changed, if there is anything to change. -/
theorem run_whenSome_change (put : Option α → Component) (hid : id.index < set.size)
    (hc : set.component id = c) {f : α → Component → Component} (hsome : ∀ a, put (some a) = f a c)
    (hnone : put none = c) (value : Option α) :
    (whenSome value fun a => building (Builder.change id (f a))).run.run set =
      (.ok (), set.put id (put value)) := by
  cases value with
  | none =>
    rw [hnone, ← hc, SchemaSet.put_component]
    rfl
  | some a =>
    rw [hsome]
    exact run_building (Builder.run_change_of_eq hid hc (f a))

/-- A component without a locator is located, if there is a line. -/
theorem run_locate (hid : id.index < set.size) (hc : set.component id = c)
    (hlocator : c.locator = none) (document : String) (line : Option Nat) :
    (locate id document line).run.run set =
      (.ok (), set.put id { c with locator := line.map (.atLine document) }) := by
  refine run_whenSome_change (fun line =>
    { c with locator := line.map (Locator.atLine document) }) hid hc (fun _ => rfl) ?_ line
  cases c
  cases hlocator
  rfl

/-- A part that is added is located as well, if there is a line. -/
theorem exists_added (hindexed : set.Indexed) (hid : id.index < set.size) {part : Component}
    {step : Builder ComponentId}
    (hstep : step.run.run set = (.ok ⟨set.size⟩, (set.insert part).2.put id c))
    (hheading : c.heading = (set.component id).heading) (hlocal : part.isGlobal = false)
    (hlocator : part.locator = none) (document : String) (line : Option Nat) :
    ∃ u, SchemaSet.Added id c { part with locator := line.map (.atLine document) } set u ∧
      ∀ {β : Type} (next : ComponentId → Loading β),
        (do
          let added ← building step
          locate added document line
          next added).run.run set = (next ⟨set.size⟩).run.run u := by
  refine ⟨_, hindexed.added hid hlocal hheading rfl, fun next => ?_⟩
  have hne : (⟨set.size⟩ : ComponentId) ≠ id :=
    (ComponentId.ne_of_lt_of_le hid (Nat.le_refl _)).symm
  have hpart : ((set.insert part).2.put id c).component ⟨set.size⟩ = part := by
    rw [SchemaSet.component_put_of_ne hne, SchemaSet.component_insert, if_pos rfl]
  exact (SchemaSet.run_bind_of_ok (run_building hstep) _).trans
    (SchemaSet.run_bind_of_ok (run_locate (by simp) hpart hlocator document line) _)

/-- What is marked by a flag is marked, if the flag is set. -/
theorem run_optional (mark : Bool → Component) (hc : set.component id = mark false)
    {step : Builder Unit} (hstep : step.run.run set = (.ok (), set.put id (mark true)))
    (flag : Bool) (next : Unit → Loading β) :
    (if flag = true then building step >>= next else next ()).run.run set =
      (next ()).run.run (set.put id (mark flag)) := by
  cases flag with
  | false =>
    rw [← hc, SchemaSet.put_component]
    rfl
  | true => exact SchemaSet.run_bind_of_ok (run_building hstep) next

/-! ## Components without parts -/

/-- A complex type that was just declared is given its **base** and all else that it says of
itself. -/
theorem settles_fillHead (hid : id.index < set.size) {declaring : Option ComponentId}
    (hc : set.component id = c.filled (.complexType { declaringElement := declaring }) {})
    (head : TypeHead) :
    Settles (fillHead ns head id) set ((References.ofSet set).Means ns head.base) fun _ u =>
      ∃ base, (References.ofSet set).Answers ns head.base base ∧ u = set.put id
        (c.filled (.complexType (head.complexType base [] [] declaring)) head.customization) := by
  unfold fillHead
  have hat (c : Component) : (set.put id c).component id = c := SchemaSet.component_put hid c
  have hlt (c : Component) : id.index < (set.put id c).size := by rwa [SchemaSet.size_put]
  let derived (base : Option ComponentId) (isAbstract : Bool) : ComplexType :=
    { head.complexType base [] [] declaring with isAbstract }
  refine (settles_whenSome_resolveType (fun base =>
    c.filled (.complexType (derived base false)) {}) hc
      (fun base => Builder.run_derive hid hc base _) rfl head.base).andThen fun _ u hbase => ?_
  obtain ⟨base, hanswers, rfl⟩ := hbase
  have habstract := Builder.run_setAbstract_complexType (hlt _)
    (hat (c.filled (.complexType (derived base false)) {}))
  refine .skip (run_optional (fun isAbstract =>
    c.filled (.complexType (derived base isAbstract)) {}) (hat _) habstract head.isAbstract _) ?_
  rw [SchemaSet.put_put]
  refine .after (run_whenSome_change (fun doc =>
    c.filled (.complexType (derived base head.isAbstract)) { documentation := doc }) (hlt _)
      (hat _) (fun _ => rfl) rfl head.doc) ?_
  rw [SchemaSet.put_put]
  refine .of_run (run_whenSome_change (fun className =>
    c.filled (.complexType (derived base head.isAbstract))
      { documentation := head.doc, className }) (hlt _) (hat _) (fun _ => rfl) rfl head.className)
        ⟨base, hanswers, ?_⟩
  exact SchemaSet.put_put set id _ _

/-- An element that has its type is given **all else** that it says of itself. -/
theorem run_customizeElement (hid : id.index < set.size) {type : Option ComponentId}
    (hc : set.component id = c.filled (.element { type }) {}) (head : ElementHead) :
    (customizeElement head id).run.run set = (.ok (), set.put id
      (c.filled (.element { type, isAbstract := head.isAbstract }) head.customization)) := by
  unfold customizeElement
  have hat (c : Component) : (set.put id c).component id = c := SchemaSet.component_put hid c
  have hlt (c : Component) : id.index < (set.put id c).size := by rwa [SchemaSet.size_put]
  let customized (isAbstract : Bool) (custom : Customization) : Component :=
    c.filled (.element { type, isAbstract }) custom
  refine (run_optional (fun isAbstract => customized isAbstract {}) hc
    (Builder.run_setAbstract_element hid hc) head.isAbstract _).trans ?_
  refine (SchemaSet.run_bind_of_ok (run_whenSome_change (fun doc =>
    customized head.isAbstract { documentation := doc }) (hlt _) (hat _) (fun _ => rfl) rfl
      head.doc) _).trans ?_
  rw [SchemaSet.put_put]
  refine (SchemaSet.run_bind_of_ok (run_whenSome_change (fun className =>
    customized head.isAbstract { documentation := head.doc, className }) (hlt _) (hat _)
      (fun _ => rfl) rfl head.className) _).trans ?_
  rw [SchemaSet.put_put]
  refine (run_whenSome_change (fun name => customized head.isAbstract
    { documentation := head.doc, className := head.className,
      property := name.map fun name => ⟨some name⟩ }) (hlt _) (hat _) (fun _ => rfl) rfl
        head.property).trans ?_
  rw [SchemaSet.put_put]
  rfl

/-! ## Attributes -/

/-- What filling the attributes of a complex type leaves behind. -/
structure FilledAttributes (ns document : String) (entries : List AttributeEntry)
    (id : ComponentId) (c : ComplexType → Component) (type : ComplexType) (set u : SchemaSet) :
    Prop where
  filled : SchemaSet.Filled id set u
  size : u.size = set.size + entries.length
  component : u.component id = c (type.attach (ComponentId.following set.size entries.length))
  described : Attributes u (References.ofSet set) ns document entries
    (ComponentId.following set.size entries.length)

/-- To fill attributes settles for their types, **whatever owner** they have. -/
def AttributesSettle (ns document : String) (entries : List AttributeEntry) : Prop :=
  ∀ {set : SchemaSet} {id : ComponentId} {c : Component} {type : ComplexType}
    {custom : Customization}, set.Indexed → id.index < set.size →
      set.component id = c.filled (.complexType type) custom → c.ns = ns →
        Settles (fillAttributes ns document id entries) set
          (∀ entry ∈ entries, (References.ofSet set).Means ns entry.type) fun _ u =>
            FilledAttributes ns document entries id
              (fun type => c.filled (.complexType type) custom) type set u

/-- An attribute is added once its type is known, and the next ones follow. -/
theorem settles_fillAttribute {entry : AttributeEntry} {rest : List AttributeEntry}
    (hrest : AttributesSettle ns document rest) (hindexed : set.Indexed)
    (hid : id.index < set.size) {type : ComplexType} {custom : Customization}
    (hc : set.component id = c.filled (.complexType type) custom) (hns : c.ns = ns)
    {attributed : Option ComponentId}
    (hanswers : (References.ofSet set).Answers ns entry.type attributed) :
    Settles (do
      let declared ← building (.localAttribute id entry.name attributed)
      locate declared document entry.line
      fillAttributes ns document id rest) set
      (∀ entry ∈ rest, (References.ofSet set).Means ns entry.type) fun _ u =>
        FilledAttributes ns document (entry :: rest) id
          (fun type => c.filled (.complexType type) custom) type set u := by
  obtain ⟨v, hadded, hrun⟩ := exists_added hindexed hid
    (Builder.run_localAttribute hid hc entry.name attributed) (by rw [hc]; rfl) rfl rfl
      document entry.line
  refine .skip (hrun fun _ => fillAttributes ns document id rest) ?_
  have hv := hadded.filled
  rw [← hv.references]
  refine (hrest hv.indexed (hv.index_lt hid) hadded.owner hns).imp fun _ u hu => ?_
  obtain ⟨hu, hsize, hc', hlater⟩ := hu
  -- the attribute stands behind its owner, which alone is changed by the next ones
  have hsame : u.component ⟨set.size⟩ = v.component ⟨set.size⟩ := by
    refine hu.kept _ ?_ (ComponentId.ne_of_lt_of_le hid (Nat.le_refl _)).symm
    rw [hadded.size]
    exact Nat.lt_succ_self _
  rw [hadded.size] at hsize hc' hlater
  rw [hv.references] at hlater
  refine ⟨hv.trans hu (.inl rfl), ?_, ?_, .cons ⟨attributed, hanswers, ?_⟩ hlater⟩
  · rw [hsize, List.length_cons]
    omega
  · rw [hc', ComplexType.attach_attach]
    rfl
  · rw [hsame, hadded.part, hns]
    rfl

/-- Attributes are added **one after the other** when their types are there. -/
theorem settles_fillAttributes (entries : List AttributeEntry) :
    AttributesSettle ns document entries := by
  induction entries with
  | nil =>
    intro set id c type custom hindexed hid hc hns
    refine (Settles.pure ⟨.refl hindexed id, rfl, ?_, .nil⟩).congr (by simp)
    rw [hc]
    exact congrArg (fun type => c.filled (.complexType type) custom) type.attach_nil.symm
  | cons entry rest ih =>
    intro set id c type custom hindexed hid hc hns
    unfold fillAttributes
    have hstep (attributed : Option ComponentId)
        (hanswers : (References.ofSet set).Answers ns entry.type attributed) :=
      settles_fillAttribute ih hindexed hid hc hns hanswers
    refine Settles.congr ?_ List.forall_mem_cons.symm
    cases htype : entry.type with
    | none =>
      rw [htype] at hstep
      exact (Settles.given (hstep none rfl)).congr (by simp [References.Means])
    | some name =>
      rw [htype] at hstep
      -- the type is resolved before the attribute is added, and leaves the set alone
      have hfirst : Settles (some <$> resolveType ns name) set
          ((References.ofSet set).Means ns (some name)) fun attributed u =>
            (References.ofSet set).Answers ns (some name) attributed ∧ u = set := by
        rw [map_eq_pure_bind]
        refine ((settles_resolveType set ns name).andThen fun type u htype => ?_).congr ?_
        · obtain ⟨htype, rfl⟩ := htype
          exact .pure ⟨References.answers_some htype, rfl⟩
        · simp [References.Means]
      refine hfirst.bind fun attributed u hattributed => ?_
      obtain ⟨hanswers, rfl⟩ := hattributed
      exact hstep attributed hanswers

/-! ## Complex types -/

/-- What filling the content of a complex type leaves behind. -/
structure FilledContent (ns document : String) (entries : List ElementEntry) (owner : ComponentId)
    (c : ComplexType → Component) (type : ComplexType) (set u : SchemaSet) : Prop where
  filled : SchemaSet.Filled owner set u
  described : ∃ particles, Contents u (References.ofSet set) ns document entries particles set.size
    u.size ∧ u.component owner = c (type.add particles)

/-- To fill a content settles for its entries, **whatever owner** they have. -/
def ContentSettles (ns document : String) (entries : List ElementEntry) : Prop :=
  ∀ {set : SchemaSet} {owner : ComponentId} {c : Component} {type : ComplexType}
    {custom : Customization}, set.Indexed → owner.index < set.size →
      set.component owner = c.filled (.complexType type) custom → c.ns = ns →
        Settles (fillElements ns document owner entries) set
          (ElementEntry.AllResolve (References.ofSet set) ns entries) fun _ u =>
            FilledContent ns document entries owner
              (fun type => c.filled (.complexType type) custom) type set u

/-- What filling a complex type leaves behind. -/
structure FilledType (ns document : String) (head : TypeHead) (elements : List ElementEntry)
    (id : ComponentId) (declaring : Option ComponentId) (c : Component) (set u : SchemaSet) :
    Prop where
  filled : SchemaSet.Filled id set u
  described : ∃ base content inner,
    (References.ofSet set).Answers ns head.base base ∧
      Contents u (References.ofSet set) ns document elements content set.size inner ∧
        Attributes u (References.ofSet set) ns document head.attributes
          (ComponentId.following inner head.attributes.length) ∧
            u.size = inner + head.attributes.length ∧
              u.component id = c.filled (.complexType (head.complexType base content
                (ComponentId.following inner head.attributes.length) declaring)) head.customization

/-- A complex type that was just declared is filled: first its **head**, then its content and its
attributes. -/
theorem settles_fillComplexType (entry : ComplexTypeEntry)
    (helements : ContentSettles ns document entry.elements) (hindexed : set.Indexed)
    (hid : id.index < set.size) {declaring : Option ComponentId}
    (hc : set.component id = c.filled (.complexType { declaringElement := declaring }) {})
    (hns : c.ns = ns) :
    Settles (fillComplexType ns document entry id) set
      (entry.head.Resolves (References.ofSet set) ns ∧
        ElementEntry.AllResolve (References.ofSet set) ns entry.elements)
      fun _ u => FilledType ns document entry.head entry.elements id declaring c set u := by
  unfold fillComplexType
  have hiff : ((References.ofSet set).Means ns entry.head.base ∧
      ElementEntry.AllResolve (References.ofSet set) ns entry.elements ∧
        ∀ a ∈ entry.head.attributes, (References.ofSet set).Means ns a.type) ↔
      entry.head.Resolves (References.ofSet set) ns ∧
        ElementEntry.AllResolve (References.ofSet set) ns entry.elements :=
    ⟨fun h => ⟨⟨h.1, h.2.2⟩, h.2.1⟩, fun h => ⟨h.1.base, h.2, h.1.attributes⟩⟩
  refine Settles.congr ?_ hiff
  refine (settles_fillHead hid hc entry.head).bind fun _ v hbase => ?_
  obtain ⟨base, hanswers, rfl⟩ := hbase
  have hv : SchemaSet.Filled id set (set.put id (c.filled (.complexType
      (entry.head.complexType base [] [] declaring)) entry.head.customization)) :=
    .put hindexed (by rw [hc]; rfl)
  -- what was filled refers to the same declarations, so the conditions stay the same
  rw [← hv.references]
  refine (helements hv.indexed (hv.index_lt hid) (SchemaSet.component_put hid _) hns).bind
    fun _ w hcontent => ?_
  obtain ⟨hw, content, hcontents, howner⟩ := hcontent
  rw [← hw.references]
  refine (settles_fillAttributes _ hw.indexed (hw.index_lt (hv.index_lt hid)) howner hns).imp
    fun _ u hattributes => ?_
  obtain ⟨hu, hsize, hcomponent, hattributes⟩ := hattributes
  rw [hw.references, hv.references] at hattributes
  rw [hv.references, SchemaSet.size_put] at hcontents
  refine ⟨(hv.trans hw (.inl rfl)).trans hu (.inl rfl), base, content, w.size, hanswers,
    hcontents.congr fun k hk hk' => ?_, hattributes, hsize, ?_⟩
  · exact hu.kept k hk' (ComponentId.ne_of_lt_of_le hid hk).symm
  · rw [hcomponent]
    simp [ComplexType.add, ComplexType.attach, TypeHead.complexType]

/-! ## Elements -/

/-- What filling an element leaves behind. -/
structure FilledElement (ns document : String) (entry : ElementEntry) (id : ComponentId)
    (c : Component) (set u : SchemaSet) : Prop where
  filled : SchemaSet.Filled id set u
  described : ∃ type, TypeOf u (References.ofSet set) ns document id entry type set.size u.size ∧
    u.component id = c.filled (.element { type, isAbstract := entry.head.isAbstract })
      entry.head.customization

/-- An element with a type of its own is filled: the **anonymous type** is filled like a global one,
and then the element is customized. -/
theorem settles_fillTyped (head : ElementHead) (type : TypeHead) {elements : List ElementEntry}
    (helements : ContentSettles ns document elements) (hindexed : set.Indexed)
    (hid : id.index < set.size) (hc : set.component id = c.filled (.element {}) {})
    (hns : c.ns = ns) :
    Settles (fillElement ns document (.typed head type elements) id) set
      ((ElementEntry.typed head type elements).Resolves (References.ofSet set) ns)
      fun _ u => FilledElement ns document (.typed head type elements) id c set u := by
  unfold fillElement ElementEntry.Resolves
  obtain ⟨v, hadded, hrun⟩ := exists_added hindexed hid
    (Builder.run_anonymousComplexType hid hc) (by rw [hc]; rfl) rfl rfl document
      (type.line.or head.line)
  refine .skip (hrun _) ?_
  have hv := hadded.filled
  rw [← hv.references]
  have hlt : (⟨set.size⟩ : ComponentId).index < v.size := by
    rw [hadded.size]
    exact Nat.lt_succ_self _
  have hne : id ≠ ⟨set.size⟩ := ComponentId.ne_of_lt_of_le hid (Nat.le_refl _)
  let shell : Component :=
    { kind := .complexType { declaringElement := some id }, ns := c.ns,
      locator := (type.line.or head.line).map (.atLine document) }
  have hshell : v.component ⟨set.size⟩ =
      shell.filled (.complexType { declaringElement := some id }) {} := hadded.part
  have hboth : Settles (fillComplexType ns document ⟨type, elements⟩ ⟨set.size⟩ >>= fun _ =>
      customizeElement head id) v (type.Resolves (References.ofSet v) ns ∧
        ElementEntry.AllResolve (References.ofSet v) ns elements) fun _ u =>
          FilledElement ns document (.typed head type elements) id c set u := by
    refine (settles_fillComplexType ⟨type, elements⟩ helements hv.indexed hlt hshell hns).andThen
      fun _ w hw => ?_
    obtain ⟨hw, base, content, inner, hanswers, hcontents, hattributes, hsize, htype⟩ := hw
    have howner : w.component id = c.filled (.element { type := some ⟨set.size⟩ }) {} := by
      rw [hw.kept id (hv.index_lt hid) hne, hadded.owner]
    have hidw := hw.index_lt (hv.index_lt hid)
    refine .of_run (run_customizeElement hidw howner head) ?_
    -- to customize the element changes nothing of what is behind it
    have hsame (k : ComponentId) (hk : set.size ≤ k.index) (component : Component) :
        (w.put id component).component k = w.component k :=
      SchemaSet.component_put_of_ne (ComponentId.ne_of_lt_of_le hid hk).symm component
    rw [hv.references] at hanswers hcontents hattributes
    rw [hadded.size] at hcontents
    have hinner := hcontents.le
    refine ⟨(hv.trans hw (.inr (Nat.le_refl _))).trans (.put hw.indexed (by rw [howner]; rfl))
      (.inl rfl), some ⟨set.size⟩, ?_, SchemaSet.component_put hidw _⟩
    rw [SchemaSet.size_put, hsize]
    refine .typed hanswers (hcontents.congr fun k hk _ => hsame k (by omega) _)
      (hattributes.congr fun k hk => hsame k ?_ _) ?_
    · have hk := (ComponentId.mem_following.1 hk).1
      omega
    · rw [hsame ⟨set.size⟩ (Nat.le_refl set.size), htype, ← hns]
      rfl
  unfold fillComplexType at hboth
  simpa only [bind_assoc] using hboth

section Content

variable {entry : ElementEntry} {rest : List ElementEntry} {type : ComplexType}
  {custom : Customization} (hrest : ContentSettles ns document rest)
  (howner : owner.index < set.size)

include hrest howner

/-- After an occurrence it may be **repeated**, and the next ones follow. -/
theorem settles_fillNext {v : SchemaSet} {term : ComponentId} {repeated : Bool}
    (hns : c.ns = ns) (hv : SchemaSet.Filled owner set v)
    (hoccurs : v.component owner = c.filled (.complexType (type.add [⟨term, false⟩])) custom) :
    Settles (if repeated = true then
        building (.setRepeated owner term) >>= fun _ => fillElements ns document owner rest
      else fillElements ns document owner rest) v
      (ElementEntry.AllResolve (References.ofSet set) ns rest) fun _ u =>
        SchemaSet.Filled owner v u ∧ ∃ particles,
          Contents u (References.ofSet set) ns document rest particles v.size u.size ∧
            u.component owner =
              c.filled (.complexType (type.add (⟨term, repeated⟩ :: particles))) custom := by
  have hlt := hv.index_lt howner
  refine .skip (run_optional (fun repeated =>
    c.filled (.complexType (type.add [⟨term, repeated⟩])) custom) hoccurs
      (Builder.run_setRepeated hlt hoccurs) repeated
        fun _ => fillElements ns document owner rest) ?_
  have hw : SchemaSet.Filled owner v
      (v.put owner (c.filled (.complexType (type.add [⟨term, repeated⟩])) custom)) := by
    refine .put hv.indexed ?_
    rw [hoccurs]
    rfl
  rw [← hv.references, ← hw.references]
  refine (hrest hw.indexed (hw.index_lt hlt) (SchemaSet.component_put hlt _) hns).imp
    fun _ u hu => ?_
  obtain ⟨hu, particles, hcontents, hcomponent⟩ := hu
  rw [SchemaSet.size_put] at hcontents
  refine ⟨hw.trans hu (.inl rfl), particles, hcontents, ?_⟩
  rw [hcomponent, ComplexType.add_add]
  rfl

variable (hindexed : set.Indexed)
  (hc : set.component owner = c.filled (.complexType type) custom) (hns : c.ns = ns)

include hindexed hc hns

/-- An entry that refers to an element makes it **occur** in the content. -/
theorem settles_fillReference {reference : String}
    (hreference : entry.head.reference = some reference) (hkey : entry.declarationKey? = none) :
    Settles (do
        let target ← resolveElement ns reference
        building (.elementRef owner target)
        if entry.head.repeated = true then
          building (.setRepeated owner target) >>= fun _ => fillElements ns document owner rest
        else fillElements ns document owner rest) set
      (((References.ofSet set).element? ns reference).isSome = true ∧
        ElementEntry.AllResolve (References.ofSet set) ns rest) fun _ u =>
          FilledContent ns document (entry :: rest) owner
            (fun type => c.filled (.complexType type) custom) type set u := by
  refine (settles_resolveElement set ns reference).bind fun target u htarget => ?_
  obtain ⟨htarget, rfl⟩ := htarget
  have hv : SchemaSet.Filled owner u
      (u.put owner (c.filled (.complexType (type.add [⟨target, false⟩])) custom)) := by
    refine .put hindexed ?_
    rw [hc]
    rfl
  refine .after (run_building (Builder.run_elementRef howner hc target)) ?_
  refine (settles_fillNext hrest howner hns hv (SchemaSet.component_put howner _)).imp
    fun _ w hw => ?_
  obtain ⟨hw, particles, hcontents, hcomponent⟩ := hw
  rw [SchemaSet.size_put] at hcontents
  exact ⟨hv.trans hw (.inl rfl), _, .reference hreference hkey htarget hcontents, hcomponent⟩

/-- An entry with a name adds a **local** element to the content, which is filled first. -/
theorem settles_fillLocal {name : String} (hreference : entry.head.reference = none)
    (hname : entry.head.name = some name)
    (hentry : ∀ {v : SchemaSet} {shell : Component}, v.Indexed → set.size < v.size →
      v.component ⟨set.size⟩ = shell.filled (.element {}) {} → shell.ns = ns →
        Settles (fillElement ns document entry ⟨set.size⟩) v
          (entry.Resolves (References.ofSet v) ns) fun _ u =>
            FilledElement ns document entry ⟨set.size⟩ shell v u) :
    Settles (do
        let added ← building (.localElement owner name none)
        locate added document entry.head.line
        fillElement ns document entry added
        if entry.head.repeated = true then
          building (.setRepeated owner added) >>= fun _ => fillElements ns document owner rest
        else fillElements ns document owner rest) set
      (entry.Resolves (References.ofSet set) ns ∧
        ElementEntry.AllResolve (References.ofSet set) ns rest) fun _ u =>
          FilledContent ns document (entry :: rest) owner
            (fun type => c.filled (.complexType type) custom) type set u := by
  obtain ⟨v, hadded, hrun⟩ := exists_added hindexed howner
    (Builder.run_localElement howner hc name) (by rw [hc]; rfl) rfl rfl document entry.head.line
  refine .skip (hrun _) ?_
  have hv := hadded.filled
  have hlt : set.size < v.size := by
    rw [hadded.size]
    exact Nat.lt_succ_self _
  have hne : owner ≠ ⟨set.size⟩ := ComponentId.ne_of_lt_of_le howner (Nat.le_refl _)
  let shell : Component :=
    { kind := .element {}, name := some name, ns := c.ns,
      locator := entry.head.line.map (.atLine document) }
  have hshell : v.component ⟨set.size⟩ = shell.filled (.element {}) {} := hadded.part
  have hfirst := hentry hv.indexed hlt hshell hns
  rw [hv.references] at hfirst
  refine hfirst.bind fun _ w hw => ?_
  obtain ⟨hw, elementType, htype, helement⟩ := hw
  have hboth := hv.trans hw (.inr (Nat.le_refl _))
  have hoccurs : w.component owner =
      c.filled (.complexType (type.add [⟨⟨set.size⟩, false⟩])) custom := by
    rw [hw.kept owner (hv.index_lt howner) hne, hadded.owner]
  refine (settles_fillNext hrest howner hns hboth hoccurs).imp fun _ u hu => ?_
  obtain ⟨hu, particles, hcontents, hcomponent⟩ := hu
  -- the local element and its parts stand behind the owner, which alone is changed later
  have hsame (k : ComponentId) (hk : set.size ≤ k.index) (hk' : k.index < w.size) :
      u.component k = w.component k :=
    hu.kept k hk' (ComponentId.ne_of_lt_of_le howner hk).symm
  rw [hv.references, hadded.size] at htype
  have hinner := htype.le
  refine ⟨hboth.trans hu (.inl rfl), _, .declaration hreference (by rw [hname]; rfl)
    (htype.congr fun k hk hk' => hsame k (by omega) hk') ?_ hcontents, hcomponent⟩
  rw [hsame ⟨set.size⟩ (Nat.le_refl _) hinner, helement]
  unfold ElementHead.component
  rw [hname, ← hns]
  rfl

end Content

mutual

/-- To fill an element settles for all that it refers to, at any depth. -/
theorem settles_fillElement : ∀ (entry : ElementEntry) {set : SchemaSet} {id : ComponentId}
    {c : Component}, set.Indexed → id.index < set.size →
      set.component id = c.filled (.element {}) {} → c.ns = ns →
        Settles (fillElement ns document entry id) set (entry.Resolves (References.ofSet set) ns)
          fun _ u => FilledElement ns document entry id c set u
  | .plain head, set, id, c, hindexed, hid, hc, _ => by
    unfold fillElement ElementEntry.Resolves
    refine (settles_whenSome_resolveType (fun type => c.filled (.element { type }) {}) hc
      (fun type => Builder.run_setElementType hid hc type) rfl head.type).andThen
      fun _ u htype => ?_
    obtain ⟨type, hanswers, rfl⟩ := htype
    refine .of_run
      (run_customizeElement (by simpa using hid) (SchemaSet.component_put hid _) head) ?_
    rw [SchemaSet.put_put]
    refine ⟨.put hindexed (by rw [hc]; rfl), type, ?_, SchemaSet.component_put hid _⟩
    rw [SchemaSet.size_put]
    exact .plain hanswers
  | .typed head type elements, _, _, _, hindexed, hid, hc, hns =>
    settles_fillTyped head type (settles_fillElements elements) hindexed hid hc hns

/-- To fill a content settles for all that its entries refer to. -/
theorem settles_fillElements : ∀ entries : List ElementEntry, ContentSettles ns document entries
  | [], set, owner, c, type, custom, hindexed, howner, hc, _ => by
    unfold fillElements ElementEntry.AllResolve
    refine .pure ⟨.refl hindexed owner, [], .nil, ?_⟩
    rw [hc, ComplexType.add_nil]
  | entry :: rest, set, owner, c, type, custom, hindexed, howner, hc, hns => by
    have hrest : ContentSettles ns document rest := settles_fillElements rest
    unfold fillElements ElementEntry.AllResolve
    dsimp only
    cases hreference : entry.head.reference with
    | some reference =>
      dsimp only
      cases hkey : entry.declarationKey? with
      | some key => exact (Settles.failed fun _ => by simp).congr (by simp)
      | none =>
        refine .after (a := ()) (u := set) rfl ?_
        exact (settles_fillReference hrest howner hindexed hc hns hreference hkey).congr (by simp)
    | none =>
      cases hname : entry.head.name with
      | none => exact (Settles.failed fun _ => by simp).congr (by simp)
      | some name =>
        refine (settles_fillLocal hrest howner hindexed hc hns hreference hname ?_).congr (by simp)
        exact settles_fillElement entry

end

/-! ## Declarations -/

/-- A declaration is filled when it **resolves**, and is described by its entry then. -/
theorem settles_fill (hindexed : set.Indexed) (hid : id.index < set.size) (d : Declaration)
    (hc : set.component id = d.placeholder) :
    Settles (d.fill id) set (d.Resolves (References.ofSet set)) fun _ u =>
      SchemaSet.Filled id set u ∧ d.Describes u (References.ofSet set) id set.size u.size := by
  obtain ⟨ns, document, entry⟩ := d
  unfold Declaration.fill Declaration.Resolves
  cases entry with
  | simpleType entry =>
    refine (settles_resolveType set ns entry.base).andThen fun base u hbase => ?_
    obtain ⟨hbase, rfl⟩ := hbase
    -- until it is filled, a simple type restricts the universal one
    have hat : u.component id = (entry.component ns document ⟨1⟩).filled
        (.simpleType { base := some ⟨1⟩ }) {} := hc
    refine .of_run (run_building (Builder.run_setSimpleBase hid hat base))
      ⟨.put hindexed (by rw [hat]; rfl), ?_⟩
    rw [SchemaSet.size_put]
    exact .simpleType rfl hbase (SchemaSet.component_put hid _)
  | complexType entry =>
    have hat : set.component id = (entry.head.component ns document none [] []).filled
        (.complexType {}) {} := hc
    refine (settles_fillComplexType entry (settles_fillElements _) hindexed hid hat rfl).imp
      fun _ u hu => ?_
    obtain ⟨hu, base, content, inner, hanswers, hcontents, hattributes, hsize, hcomponent⟩ := hu
    refine ⟨hu, ?_⟩
    rw [hsize]
    exact .complexType rfl hanswers hcontents hattributes hcomponent
  | element entry =>
    have hat : set.component id = (entry.head.component ns document true none).filled
        (.element {}) {} := hc
    dsimp only
    split
    · rename_i hrepeated
      -- nothing at the top level may be repeated
      exact (Settles.failed fun _ => by simp).congr (by simp [hrepeated])
    · rename_i honce
      rw [Bool.not_eq_true] at honce
      refine ((settles_fillElement entry hindexed hid hat rfl).congr
        (and_iff_right honce).symm).imp fun _ u hu => ?_
      obtain ⟨hu, type, htype, hcomponent⟩ := hu
      exact ⟨hu, .element rfl honce htype hcomponent⟩

/-- What filling declarations leaves behind: each of them is described, and all else that was there
stands as before. -/
structure FilledAll (tasks : List Task) (set u : SchemaSet) : Prop where
  indexed : u.Indexed
  references : References.ofSet u = References.ofSet set
  kept : ∀ k : ComponentId, k.index < set.size → k ∉ tasks.map Prod.snd →
    u.component k = set.component k
  described : Task.Describe u (References.ofSet set) tasks set.size u.size

/-- Declarations are filled **one after the other** when all of them resolve. -/
theorem settles_fillAll (tasks : List Task) (hindexed : set.Indexed)
    (hdeclared : ∀ t ∈ tasks, t.2.index < set.size ∧ set.component t.2 = t.1.placeholder)
    (hnodup : (tasks.map Prod.snd).Nodup) :
    Settles (fillAll tasks) set (∀ t ∈ tasks, t.1.Resolves (References.ofSet set))
      fun _ u => FilledAll tasks set u := by
  induction tasks generalizing set with
  | nil =>
    refine (Settles.pure ⟨hindexed, rfl, fun _ _ _ => rfl, .nil⟩).congr (by simp)
  | cons t rest ih =>
    obtain ⟨hid, hc⟩ := hdeclared t List.mem_cons_self
    obtain ⟨hfresh, hnodup⟩ := List.nodup_cons.1 hnodup
    refine Settles.congr ?_ List.forall_mem_cons.symm
    refine (settles_fill hindexed hid t.1 hc).bind fun _ v hv => ?_
    obtain ⟨hv, hdescribes⟩ := hv
    rw [← hv.references]
    have hlater : ∀ t ∈ rest, t.2.index < v.size ∧ v.component t.2 = t.1.placeholder := by
      intro t' ht'
      obtain ⟨hid', hc'⟩ := hdeclared t' (.tail _ ht')
      refine ⟨hv.index_lt hid', (hv.kept t'.2 hid' ?_).trans hc'⟩
      intro hsame
      exact hfresh (hsame ▸ List.mem_map_of_mem ht')
    refine (ih hv.indexed hlater hnodup).imp fun _ u hu => ?_
    have hrefs := hv.references
    refine ⟨hu.indexed, hu.references.trans hrefs, fun k hk hmem => ?_,
      .cons ?_ (hrefs ▸ hu.described)⟩
    · rw [List.map_cons, List.mem_cons, not_or] at hmem
      rw [hu.kept k (hv.index_lt hk) hmem.2, hv.kept k hk hmem.1]
    · refine hdescribes.congr (hu.kept _ (hv.index_lt hid) hfresh) fun k hk hk' => hu.kept k hk' ?_
      -- the parts stand behind all declarations
      intro hmem
      obtain ⟨t', ht', rfl⟩ := List.mem_map.1 hmem
      exact Nat.not_le.2 (hdeclared t' (.tail _ ht')).1 hk

end Loading
end SchemaBinding
