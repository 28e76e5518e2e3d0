import Mathlib.Data.List.Forall2
import SchemaBinding.Proofs.Reordering.Declaring

/-! # What entries say
The component that an entry of a manifest describes is determined by the entry, the components that
its references mean and the parts that it has. The parts of an entry stand one after the other: a
local element, its anonymous type with the elements in it and then its attributes, and behind them
what the next entry adds. -/

namespace SchemaBinding

/-! ## References -/

/-- What references mean: the type, and the element, of a name as seen from a namespace. -/
structure References where
  type? : (ns name : String) → Option ComponentId
  element? : (ns name : String) → Option ComponentId

namespace References

/-- The references of a set. -/
def ofSet (set : SchemaSet) : References := ⟨Loading.findType? set, Loading.findElement? set⟩

/-- A type **answers** to a reference that may be missing. -/
def Answers (refs : References) (ns : String) (reference : Option String)
    (type : Option ComponentId) : Prop := reference.map (refs.type? ns) = type.map some

variable {refs : References} {ns : String} {reference : Option String} {type : Option ComponentId}

/-- A reference that is there is answered by the type that it means. -/
theorem answers_some {name : String} {id : ComponentId} (h : refs.type? ns name = some id) :
    refs.Answers ns (some name) (some id) := congrArg some h

/-- What answers to a reference is a type that it means. -/
theorem Answers.exists_name (h : refs.Answers ns reference type) {id : ComponentId}
    (hid : type = some id) : ∃ name, reference = some name ∧ refs.type? ns name = some id := by
  subst hid
  exact Option.map_eq_some_iff.1 h

end References

/-! ## Components of entries -/

/-- The component of an attribute. -/
def AttributeEntry.component (entry : AttributeEntry) (ns document : String)
    (type : Option ComponentId) : Component where
  kind := .attribute { type }
  name := some entry.name
  ns
  locator := entry.line.map (.atLine document)

/-- The component of a simple type. -/
def SimpleTypeEntry.component (entry : SimpleTypeEntry) (ns document : String)
    (base : ComponentId) : Component where
  kind := .simpleType { base := some base }
  name := some entry.name
  ns
  isGlobal := true
  locator := entry.line.map (.atLine document)

namespace TypeHead

/-- The complex type of an entry. How it is derived is said of its base, so without one it is an
extension. -/
def complexType (head : TypeHead) (base : Option ComponentId) (content : List Particle)
    (attributes : List ComponentId) (declaringElement : Option ComponentId) : ComplexType where
  base
  derivation := if base.isSome then head.derivation else .extension
  content
  attributes
  isAbstract := head.isAbstract
  declaringElement

/-- What a complex type customizes. -/
def customization (head : TypeHead) : Customization where
  documentation := head.doc
  className := head.className

/-- The component of a global complex type. -/
def component (head : TypeHead) (ns document : String) (base : Option ComponentId)
    (content : List Particle) (attributes : List ComponentId) : Component where
  kind := .complexType (head.complexType base content attributes none)
  name := some (head.name.getD "")
  ns
  isGlobal := true
  locator := head.line.map (.atLine document)
  custom := head.customization

/-- The component of an anonymous complex type; without a line of its own, it stands at that of its
element. -/
def anonymous (head : TypeHead) (ns document : String) (line : Option Nat) (element : ComponentId)
    (base : Option ComponentId) (content : List Particle) (attributes : List ComponentId) :
    Component where
  kind := .complexType (head.complexType base content attributes (some element))
  ns
  locator := (head.line.or line).map (.atLine document)
  custom := head.customization

end TypeHead

namespace ElementHead

/-- What an element customizes. -/
def customization (head : ElementHead) : Customization where
  documentation := head.doc
  className := head.className
  property := head.property.map fun name => ⟨some name⟩

/-- The component of an element. -/
def component (head : ElementHead) (ns document : String) (isGlobal : Bool)
    (type : Option ComponentId) : Component where
  kind := .element { type, isAbstract := head.isAbstract }
  name := some (head.name.getD "")
  ns
  isGlobal
  locator := head.line.map (.atLine document)
  custom := head.customization

end ElementHead

/-! ## Contents -/

section Contents

variable (set : SchemaSet) (refs : References) (ns document : String)

/-- The attributes of a complex type: **one to an entry**, with its name and type. -/
def Attributes (entries : List AttributeEntry) (attributes : List ComponentId) : Prop :=
  List.Forall₂ (fun entry id => ∃ type, refs.Answers ns entry.type type ∧
    set.component id = entry.component ns document type) entries attributes

mutual

/-- The content of a complex type: **one particle to an entry**, repeated if the entry says so. The
term is the element that the entry refers to, or a new element. The new elements and all that
belongs to them stand from `first` up to `last`. -/
inductive Contents : List ElementEntry → List Particle → (first last : Nat) → Prop
  | nil {first : Nat} : Contents [] [] first first
  /-- A reference says nothing else, but that it is repeated. -/
  | reference {entry : ElementEntry} {rest : List ElementEntry} {particles : List Particle}
      {first last : Nat} {name : String} {term : ComponentId}
      (refers : entry.head.reference = some name) (bare : entry.declarationKey? = none)
      (means : refs.element? ns name = some term) (later : Contents rest particles first last) :
      Contents (entry :: rest) (⟨term, entry.head.repeated⟩ :: particles) first last
  /-- A local element is the next component; its anonymous type stands behind it. -/
  | declaration {entry : ElementEntry} {rest : List ElementEntry} {particles : List Particle}
      {first inner last : Nat} {type : Option ComponentId}
      (declares : entry.head.reference = none) (named : entry.head.name.isSome = true)
      (typed : TypeOf ⟨first⟩ entry type (first + 1) inner)
      (element : set.component ⟨first⟩ = entry.head.component ns document false type)
      (later : Contents rest particles inner last) :
      Contents (entry :: rest) (⟨⟨first⟩, entry.head.repeated⟩ :: particles) first last

/-- The type of an element: its **anonymous** one, or else the one that is named. The anonymous type
stands at `first`, and what belongs to it behind it up to `last`. -/
inductive TypeOf : (element : ComponentId) → ElementEntry → Option ComponentId →
    (first last : Nat) → Prop
  | plain {element : ComponentId} {head : ElementHead} {type : Option ComponentId} {first : Nat}
      (typed : refs.Answers ns head.type type) : TypeOf element (.plain head) type first first
  | typed {element : ComponentId} {head : ElementHead} {type : TypeHead}
      {elements : List ElementEntry} {content : List Particle} {first inner : Nat}
      {base : Option ComponentId} (derives : refs.Answers ns type.base base)
      (contents : Contents elements content (first + 1) inner)
      (attributes : Attributes set refs ns document type.attributes
        (ComponentId.following inner type.attributes.length))
      (anonymous : set.component ⟨first⟩ = type.anonymous ns document head.line element base
        content (ComponentId.following inner type.attributes.length)) :
      TypeOf element (.typed head type elements) (some ⟨first⟩) first
        (inner + type.attributes.length)

end

end Contents

/-! ## Where parts stand -/

/-- The following ids are those from the first one on, as many as are counted. -/
theorem ComponentId.mem_following {first count : Nat} {id : ComponentId} :
    id ∈ following first count ↔ first ≤ id.index ∧ id.index < first + count := by
  unfold following
  rw [List.mem_map]
  constructor
  · rintro ⟨i, hi, rfl⟩
    exact List.mem_range'_1.1 hi
  · intro h
    exact ⟨id.index, List.mem_range'_1.2 h, rfl⟩

section Parts

variable {set set' : SchemaSet} {refs : References} {ns document : String}

mutual

/-- The parts of a content stand behind where they begin. -/
theorem Contents.le {entries : List ElementEntry} {particles : List Particle} {first last : Nat} :
    Contents set refs ns document entries particles first last → first ≤ last
  | .nil => Nat.le_refl _
  | .reference _ _ _ later => later.le
  | .declaration _ _ typed _ later =>
    Nat.le_trans (Nat.le_of_succ_le typed.le) later.le

/-- What belongs to the type of an element stands at positions in ascending order. -/
theorem TypeOf.le {element : ComponentId} {entry : ElementEntry} {type : Option ComponentId}
    {first last : Nat} : TypeOf set refs ns document element entry type first last → first ≤ last
  | .plain _ => Nat.le_refl _
  | .typed _ contents _ _ =>
    Nat.le_trans (Nat.le_of_succ_le contents.le) (Nat.le_add_right _ _)

end

/-- Attributes are what they are in any set that has the same components there. -/
theorem Attributes.congr {entries : List AttributeEntry} {attributes : List ComponentId}
    (h : Attributes set refs ns document entries attributes)
    (hsame : ∀ id ∈ attributes, set'.component id = set.component id) :
    Attributes set' refs ns document entries attributes := by
  induction h with
  | nil => exact .nil
  | cons hfirst _ ih =>
    obtain ⟨type, hanswers, hcomponent⟩ := hfirst
    refine .cons ⟨type, hanswers, ?_⟩ (ih fun id hid => hsame id (.tail _ hid))
    rw [hsame _ List.mem_cons_self]
    exact hcomponent

mutual

/-- A content is what it is in any set that has **the same parts**. -/
theorem Contents.congr {entries : List ElementEntry} {particles : List Particle}
    {first last : Nat} : Contents set refs ns document entries particles first last →
      (∀ k : ComponentId, first ≤ k.index → k.index < last →
        set'.component k = set.component k) →
          Contents set' refs ns document entries particles first last
  | .nil, _ => .nil
  | .reference refers bare means later, hsame =>
    .reference refers bare means (later.congr hsame)
  | .declaration declares named typed element later, hsame => by
    have hinner := typed.le
    have hlast := later.le
    refine .declaration declares named (typed.congr fun k hk hk' => hsame k (by omega) (by omega))
      ?_ (later.congr fun k hk hk' => hsame k (by omega) hk')
    exact (hsame _ (Nat.le_refl _) (Nat.lt_of_lt_of_le hinner hlast)).trans element

/-- What a set says about the type of an element depends on the components that belong to the
type. -/
theorem TypeOf.congr {element : ComponentId} {entry : ElementEntry} {type : Option ComponentId}
    {first last : Nat} : TypeOf set refs ns document element entry type first last →
      (∀ k : ComponentId, first ≤ k.index → k.index < last →
        set'.component k = set.component k) →
          TypeOf set' refs ns document element entry type first last
  | .plain typed, _ => .plain typed
  | .typed derives contents attributes anonymous, hsame => by
    have hinner := contents.le
    refine .typed derives (contents.congr fun k hk hk' => hsame k (by omega) (by omega))
      (attributes.congr fun k hk => ?_) ?_
    · obtain ⟨hk, hk'⟩ := ComponentId.mem_following.1 hk
      exact hsame k (by omega) hk'
    · exact (hsame _ (Nat.le_refl _) (Nat.lt_of_lt_of_le hinner (Nat.le_add_right _ _))).trans
        anonymous

end

end Parts

/-- What a declaration says about the component at a position, with its parts from `first` up to
`last`. -/
inductive Declaration.Describes (set : SchemaSet) (refs : References) (d : Declaration)
    (id : ComponentId) : (first last : Nat) → Prop
  | simpleType {entry : SimpleTypeEntry} {first : Nat} {base : ComponentId}
      (declares : d.entry = .simpleType entry) (derives : refs.type? d.ns entry.base = some base)
      (component : set.component id = entry.component d.ns d.document base) :
      Describes set refs d id first first
  | complexType {entry : ComplexTypeEntry} {content : List Particle} {first inner : Nat}
      {base : Option ComponentId} (declares : d.entry = .complexType entry)
      (derives : refs.Answers d.ns entry.head.base base)
      (contents : Contents set refs d.ns d.document entry.elements content first inner)
      (attributes : Attributes set refs d.ns d.document entry.head.attributes
        (ComponentId.following inner entry.head.attributes.length))
      (component : set.component id = entry.head.component d.ns d.document base content
        (ComponentId.following inner entry.head.attributes.length)) :
      Describes set refs d id first (inner + entry.head.attributes.length)
  | element {entry : ElementEntry} {first last : Nat} {type : Option ComponentId}
      (declares : d.entry = .element entry) (once : entry.head.repeated = false)
      (typed : TypeOf set refs d.ns d.document id entry type first last)
      (component : set.component id = entry.head.component d.ns d.document true type) :
      Describes set refs d id first last

/-- A declaration is described in any set that has the same component and **the same parts**. -/
theorem Declaration.Describes.congr {set set' : SchemaSet} {refs : References} {d : Declaration}
    {id : ComponentId} {first last : Nat} (h : d.Describes set refs id first last)
    (hid : set'.component id = set.component id)
    (hsame : ∀ k : ComponentId, first ≤ k.index → k.index < last →
      set'.component k = set.component k) : d.Describes set' refs id first last := by
  cases h with
  | simpleType declares derives component =>
    exact .simpleType declares derives (hid.trans component)
  | complexType declares derives contents attributes component =>
    have hinner := contents.le
    refine .complexType declares derives (contents.congr fun k hk hk' => hsame k hk (by omega))
      (attributes.congr fun k hk => ?_) (hid.trans component)
    obtain ⟨hk, hk'⟩ := ComponentId.mem_following.1 hk
    exact hsame k (by omega) hk'
  | element declares once typed component =>
    exact .element declares once (typed.congr hsame) (hid.trans component)

/-- Declarations are **described** one after the other, each with its parts behind those of the ones
before it. -/
inductive Task.Describe (set : SchemaSet) (refs : References) :
    List Task → (first last : Nat) → Prop
  | nil {first : Nat} : Describe set refs [] first first
  | cons {t : Task} {rest : List Task} {first inner last : Nat}
      (describes : t.1.Describes set refs t.2 first inner)
      (later : Describe set refs rest inner last) : Describe set refs (t :: rest) first last

end SchemaBinding
