import SchemaBinding.Proofs.Moves.Basic
import SchemaBinding.Proofs.Frame.Standard
import SchemaBinding.Proofs.Schema.Bases

/-! # Positions of generated types
A global declaration belongs in the package of its namespace. What a body finds of its own, the
anonymous types of the local elements in a content, belongs inside the class whose body it is. In a
state that is **placed**, every bound component has its type in such a position, and the packages
are those of the namespaces that were asked for. -/

namespace SchemaBinding

open Resolver (State)

/-! ## Scopes of types -/

namespace Model

variable {m n : Model} {target : TypeRef} {scope : Scope}

/-- The **scope** of a class or a wrapper that a model has. -/
def scope? (m : Model) : TypeRef → Option Scope
  | .classRef k => m.classes[k.index]?.map ClassInfo.scope
  | .wrapper w => m.elements[w.index]?.map ElementInfo.scope
  | .leaf _ => none

/-- The scope of a class that the model has is the one that is looked up. -/
theorem scope?_classRef {k : ClassId} (h : k.index < m.classes.size) :
    m.scope? (.classRef k) = some (m.classInfo k).scope := by
  simp [scope?, classInfo, Array.getD_eq_getD_getElem?, h]

/-- The scope of a wrapper that the model has is the one that is looked up. -/
theorem scope?_wrapper {w : ElementId} (h : w.index < m.elements.size) :
    m.scope? (.wrapper w) = some (m.elementInfo w).scope := by
  simp [scope?, elementInfo, Array.getD_eq_getD_getElem?, h]

/-- Only classes that a model has are in a scope. -/
theorem index_lt_of_scope? {k : ClassId} (h : m.scope? (.classRef k) = some scope) :
    k.index < m.classes.size := by
  obtain ⟨info, hinfo, -⟩ := Option.map_eq_some_iff.1 h
  exact (Array.getElem?_eq_some_iff.1 hinfo).1

/-- Only wrappers that a model has are in a scope. -/
theorem index_lt_of_scope?_wrapper {w : ElementId} (h : m.scope? (.wrapper w) = some scope) :
    w.index < m.elements.size := by
  obtain ⟨info, hinfo, -⟩ := Option.map_eq_some_iff.1 h
  exact (Array.getElem?_eq_some_iff.1 hinfo).1

/-- A class keeps its scope under changes of all else. -/
@[simp] theorem scope?_modifyClass {f : ClassInfo → ClassInfo} (hscope : ∀ c, (f c).scope = c.scope)
    (k : ClassId) (target : TypeRef) : (m.modifyClass k f).scope? target = m.scope? target := by
  cases target with
  | classRef j =>
    simp only [scope?, modifyClass, Array.getElem?_modify]
    split
    · cases m.classes[j.index]? with
      | none => rfl
      | some info => exact congrArg some (hscope info)
    · rfl
  | wrapper | leaf => rfl

/-- A wrapper keeps its scope when its content is filled in. -/
@[simp] theorem scope?_modifyElement (w : ElementId) (content : Option TypeRef)
    (target : TypeRef) :
    (m.modifyElement w fun e => { e with content }).scope? target = m.scope? target := by
  cases target with
  | wrapper v =>
    simp only [scope?, modifyElement, Array.getElem?_modify]
    split
    · cases m.elements[v.index]? <;> rfl
    · rfl
  | classRef | leaf => rfl

/-- A new class is in its scope. -/
theorem scope?_newClass (name : String) (scope : Scope) (target : TypeRef) :
    (m.newClass name scope).2.scope? target =
      if target = .classRef ⟨m.classes.size⟩ then some scope else m.scope? target := by
  cases target with
  | classRef k =>
    simp only [scope?, newClass, Array.getElem?_push, TypeRef.classRef.injEq]
    by_cases hk : k.index = m.classes.size
    · rw [if_pos hk, if_pos (by cases k; simpa using hk)]
      rfl
    · rw [if_neg hk, if_neg (by rintro rfl; exact hk rfl)]
  | wrapper | leaf => simp [scope?, newClass]

/-- A new wrapper is in its scope. -/
theorem scope?_newElement (name ns : String) (scope : Scope) (target : TypeRef) :
    (m.newElement name ns scope).2.scope? target =
      if target = .wrapper ⟨m.elements.size⟩ then some scope else m.scope? target := by
  cases target with
  | wrapper w =>
    simp only [scope?, newElement, Array.getElem?_push, TypeRef.wrapper.injEq]
    by_cases hw : w.index = m.elements.size
    · rw [if_pos hw, if_pos (by cases w; simpa using hw)]
      rfl
    · rw [if_neg hw, if_neg (by rintro rfl; exact hw rfl)]
  | classRef | leaf => simp [scope?, newElement]

@[simp] theorem scope?_package (name : String) (target : TypeRef) :
    (m.package name).2.scope? target = m.scope? target := by
  cases target <;> simp [scope?]

/-- Types **stay** where they are while a model grows. -/
theorem Grows.scope? {settled : ClassId → Prop} (h : m.Grows settled n)
    (hscope : m.scope? target = some scope) : n.scope? target = some scope := by
  cases target with
  | classRef k =>
    have hk := index_lt_of_scope? hscope
    rw [scope?_classRef (lt_of_lt_of_le hk h.classes), h.scope k hk, ← scope?_classRef hk, hscope]
  | wrapper w =>
    have hw := index_lt_of_scope?_wrapper hscope
    rw [scope?_wrapper (lt_of_lt_of_le hw h.wrappers), h.wrapper w hw, ← scope?_wrapper hw, hscope]
  | leaf => cases hscope

end Model

namespace Context

variable (x : Context) (declared : List ComponentId)

/-- The scope **inside** a class: what is found in its body goes there. -/
def inside (k : ClassId) (scope : Scope) : Scope :=
  match x.config.localScoping with
  | .nested => .nested k
  | .toplevel => scope

/-- Inside of a class that is not at the root nothing is. -/
theorem inside_ne_root {k : ClassId} {scope : Scope} (h : scope ≠ .root) :
    x.inside k scope ≠ .root := by
  unfold inside
  split
  · simp
  · exact h

/-- A component is **needed** when it is declared, or when the wrapper or the body of a needed
component refers to it. -/
inductive Needed : ComponentId → Prop
  | declared {c : ComponentId} (declared : c ∈ declared) : Needed c
  | wrapped {e c : ComponentId} (needed : Needed e) (wrapped : x.schema.isWrapped e = true)
      (content : c ∈ (x.schema.contentSource e).component?) : Needed c
  | referenced {c d : ComponentId} (needed : Needed c) (bindable : x.schema.isBindable c = true)
      (plain : x.schema.isWrapped c = false) (proper : c ≠ SchemaSet.anyType)
      (referenced : d ∈ x.referenced c) : Needed d

end Context

/-- A component **encloses** the anonymous type of a local element in the content of its body. -/
inductive SchemaSet.Encloses (set : SchemaSet) (d c : ComponentId) : Prop
  | intro {e id : ComponentId} {type : ComplexType} (body : set.bodyKind d = .content id type)
      (contained : (set.component id).Contains e) (inner : (set.component e).isGlobal = false)
      (declaring : (set.component c).declaringElement? = some e)
      (anonymous : (set.component c).isGlobal = false)

/-- A type **suits** a component: wrapped elements get wrappers, everything else classes. -/
def SchemaSet.Suits (set : SchemaSet) (c : ComponentId) : TypeRef → Prop
  | .classRef _ => set.isWrapped c = false
  | .wrapper _ => set.isWrapped c = true
  | .leaf _ => False

/-! ## Placed states -/

namespace Resolver.State

variable (x : Context) (declared : List ComponentId) (s : State)

/-- Where the type of a component is in **position**. -/
inductive Position (c : ComponentId) : Scope → Prop
  /-- A global declaration is in the package of its namespace. -/
  | declared {p : PackageId} (global : (x.schema.component c).isGlobal = true)
      (package : ((x.schema.component c).ns, p) ∈ s.packages) : Position c (.package p)
  /-- The anonymous type of a local element is inside the class of the component that encloses
  it. -/
  | enclosed {d : ComponentId} {k : ClassId} {scope : Scope} (encloses : x.schema.Encloses d c)
      (bound : s.registry.target? d = some (.classRef k))
      (outer : s.model.scope? (.classRef k) = some scope) : Position c (x.inside k scope)

/-- A component has its **seat** when its type is in position. -/
structure Seat (c : ComponentId) (target : TypeRef) : Prop where
  needed : x.Needed declared c
  bindable : x.schema.isBindable c = true
  suits : x.schema.Suits c target
  position : ∃ scope, s.model.scope? target = some scope ∧ s.Position x c scope

/-- The package of a global declaration is **known**. -/
def Known (c : ComponentId) : Prop :=
  (x.schema.component c).isGlobalDeclaration = true → c ≠ SchemaSet.anyType →
    ∃ p, ((x.schema.component c).ns, p) ∈ s.packages

/-- The **packages** are those of the namespaces that were asked for. -/
structure Packaged : Prop where
  named : ∀ ns p, (ns, p) ∈ s.packages → s.model.packages[p.index]? = some (x.packageName ns)
  asked : ∀ ns p, (ns, p) ∈ s.packages → ∃ c, x.Needed declared c ∧ c ≠ SchemaSet.anyType ∧
    (x.schema.component c).isGlobalDeclaration = true ∧ (x.schema.component c).ns = ns
  known : ∀ name ∈ s.model.packages, ∃ ns p, (ns, p) ∈ s.packages ∧ x.packageName ns = name
  nodup : s.model.packages.toList.Nodup

/-- A state is **placed** when every bound component has its seat. -/
structure Placed : Prop where
  anyType : s.registry.target? SchemaSet.anyType = some (.leaf .anyType)
  seated : ∀ c target, s.registry.target? c = some target → c ≠ SchemaSet.anyType →
    s.Seat x declared c target
  /-- Nothing is at the root. -/
  inside : ∀ target scope, s.model.scope? target = some scope → scope ≠ .root
  /-- A type is noted for wrapped elements only. -/
  noted : ∀ e note, s.elements.lookup e = some note →
    s.Known x e ∧ (note.isSome = true → x.schema.isWrapped e = true)
  queued : ∀ b ∈ s.queue, s.registry.target? b.component = some b.target
  packaged : s.Packaged x declared
  /-- A finished body knows the packages of what it refers to. -/
  told : ∀ c k, Mark.done c k ∈ s.ledger.log → ∀ d ∈ x.referenced c, s.Known x d
  building : ∀ c ∈ s.building.active, x.Needed declared c

/-! ## Later states -/

/-- What a state says about places stays right in a **later** one. -/
structure Later (s t : State) : Prop where
  target? : ∀ {c target}, s.registry.target? c = some target → t.registry.target? c = some target
  scope? : ∀ {target scope}, s.model.scope? target = some scope →
    t.model.scope? target = some scope
  packages : s.packages ⊆ t.packages

variable {x declared s} {t u : State} {c : ComponentId} {scope : Scope} {target : TypeRef}

/-- A state is no earlier than itself. -/
theorem Later.refl (s : State) : s.Later s := ⟨id, id, List.Subset.refl _⟩

/-- Later than a later state is later. -/
theorem Later.trans (h : s.Later t) (h' : t.Later u) : s.Later u where
  target? hc := h'.target? (h.target? hc)
  scope? hscope := h'.scope? (h.scope? hscope)
  packages := List.Subset.trans h.packages h'.packages

/-- A state that keeps what an earlier one holds is a later one. -/
theorem Keeps.later {inner : Option ClassId} (h : s.Keeps inner t) : s.Later t where
  target? {c target} hc := by
    obtain ⟨b, hb, rfl⟩ := Option.map_eq_some_iff.1 hc
    unfold Registry.target?
    rw [h.bound hb]
    rfl
  scope? hscope := h.model.scope? hscope
  packages := h.packages.subset

/-- A position stays right. -/
theorem Position.later (h : s.Position x c scope) (hlater : s.Later t) : t.Position x c scope := by
  cases h with
  | declared global package => exact .declared global (hlater.packages package)
  | enclosed encloses bound outer =>
    exact .enclosed encloses (hlater.target? bound) (hlater.scope? outer)

/-- A seat stays taken. -/
theorem Seat.later (h : s.Seat x declared c target) (hlater : s.Later t) :
    t.Seat x declared c target where
  needed := h.needed
  bindable := h.bindable
  suits := h.suits
  position := by
    obtain ⟨scope, hscope, hposition⟩ := h.position
    exact ⟨scope, hlater.scope? hscope, hposition.later hlater⟩

/-- What is known about the package of a declaration stays known. -/
theorem Known.later (h : s.Known x c) (hlater : s.Later t) : t.Known x c := by
  intro hglobal hc
  obtain ⟨p, hp⟩ := h hglobal hc
  exact ⟨p, hlater.packages hp⟩

/-- A position is never the root. -/
theorem Placed.ne_root (h : s.Placed x declared) (hposition : s.Position x c scope) :
    scope ≠ .root := by
  cases hposition with
  | declared => simp
  | enclosed _ _ outer => exact x.inside_ne_root (h.inside _ _ outer)

/-- The package of a component in position is known. -/
theorem Position.known (h : s.Position x c scope) : s.Known x c := by
  intro hglobal _
  cases h with
  | declared _ package => exact ⟨_, package⟩
  | enclosed encloses =>
    obtain ⟨-, -, -, -, anonymous⟩ := encloses
    simp [Component.isGlobalDeclaration, anonymous] at hglobal

/-- A bound component is **known**. -/
theorem Placed.known (h : s.Placed x declared) (hc : s.registry.target? c = some target) :
    s.Known x c := by
  by_cases hany : c = SchemaSet.anyType
  · exact fun _ hne => absurd hany hne
  · obtain ⟨scope, -, hposition⟩ := (h.seated c target hc hany).position
    exact hposition.known

/-! ## Changes that leave places alone -/

/-- States with the **same places** differ in other things only. -/
structure SamePlaces (s t : State) : Prop where
  registry : t.registry = s.registry
  queue : t.queue = s.queue
  elements : t.elements = s.elements
  packages : t.packages = s.packages
  names : t.model.packages = s.model.packages
  scope? : ∀ target, t.model.scope? target = s.model.scope? target
  done : ∀ c k, Mark.done c k ∈ t.ledger.log → Mark.done c k ∈ s.ledger.log
  building : t.building.active ⊆ s.building.active

namespace SamePlaces

/-- States with the same places as a third have the same places. -/
theorem trans (h : SamePlaces s t) (h' : SamePlaces t u) : SamePlaces s u where
  registry := h'.registry.trans h.registry
  queue := h'.queue.trans h.queue
  elements := h'.elements.trans h.elements
  packages := h'.packages.trans h.packages
  names := h'.names.trans h.names
  scope? target := (h'.scope? target).trans (h.scope? target)
  done c k hc := h.done c k (h'.done c k hc)
  building := List.Subset.trans h'.building h.building

/-- A state has its own places. -/
theorem refl (s : State) : SamePlaces s s :=
  ⟨rfl, rfl, rfl, rfl, rfl, fun _ => rfl, fun _ _ h => h, List.Subset.refl _⟩

/-- With the same places, a state is a later one. -/
theorem later (h : SamePlaces s t) : s.Later t where
  target? hc := by rwa [h.registry]
  scope? hscope := by rwa [h.scope?]
  packages := h.packages ▸ List.Subset.refl _

/-- A change of a class that leaves its scope alone. -/
theorem modifyClass (s : State) (k : ClassId) {f : ClassInfo → ClassInfo}
    (hscope : ∀ c, (f c).scope = c.scope) :
    SamePlaces s { s with model := s.model.modifyClass k f } :=
  { refl s with scope? := fun target => Model.scope?_modifyClass hscope k target }

end SamePlaces

/-- A later state with the same bindings is placed, if what is new in it is. -/
theorem Placed.of_later (h : s.Placed x declared) (hlater : s.Later t)
    (hregistry : t.registry = s.registry) (hqueue : t.queue = s.queue)
    (hinside : ∀ target scope, t.model.scope? target = some scope →
      s.model.scope? target = some scope ∨ scope ≠ .root)
    (hnoted : ∀ e note, t.elements.lookup e = some note → s.elements.lookup e = some note ∨
      s.Known x e ∧ (note.isSome = true → x.schema.isWrapped e = true))
    (hpackaged : t.Packaged x declared)
    (hdone : ∀ c k, Mark.done c k ∈ t.ledger.log → Mark.done c k ∈ s.ledger.log)
    (hbuilding : t.building.active ⊆ s.building.active) : t.Placed x declared where
  anyType := by
    rw [hregistry]
    exact h.anyType
  seated c target hc hany := by
    rw [hregistry] at hc
    exact (h.seated c target hc hany).later hlater
  inside target scope hscope := (hinside target scope hscope).elim (h.inside target scope) id
  noted e note he :=
    ((hnoted e note he).elim (h.noted e note) id).imp_left (·.later hlater)
  queued b hb := by
    rw [hqueue] at hb
    rw [hregistry]
    exact h.queued b hb
  packaged := hpackaged
  told c k hc d hd := (h.told c k (hdone c k hc) d hd).later hlater
  building c hc := h.building c (hbuilding hc)

/-- Packages do not depend on anything else. -/
theorem Packaged.congr (h : s.Packaged x declared) (hpackages : t.packages = s.packages)
    (hnames : t.model.packages = s.model.packages) : t.Packaged x declared := by
  obtain ⟨named, asked, known, nodup⟩ := h
  rw [← hpackages, ← hnames] at named known
  rw [← hpackages] at asked
  rw [← hnames] at nodup
  exact ⟨named, asked, known, nodup⟩

/-- A state with the same places is placed. -/
theorem Placed.same (h : s.Placed x declared) (hsame : SamePlaces s t) : t.Placed x declared := by
  refine h.of_later hsame.later hsame.registry hsame.queue (fun target scope hscope => .inl ?_)
    (fun e note he => .inl ?_) (h.packaged.congr hsame.packages hsame.names) hsame.done
    hsame.building
  · rwa [hsame.scope?] at hscope
  · rwa [hsame.elements] at he

end Resolver.State

end SchemaBinding
