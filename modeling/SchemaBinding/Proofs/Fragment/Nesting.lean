import SchemaBinding.Proofs.Fragment.Levels
import SchemaBinding.Proofs.Fragment.Reading
import SchemaBinding.Proofs.Schema.Built

/-! # The nesting of fragments
The lines of a component are **nested**: each tag that is opened is closed again at the same depth,
and what stands between is nested one level deeper. Nested lines are read without a trace, so the
text of a fragment is balanced as soon as no name breaks its lines. -/

namespace SchemaBinding

/-! ## Attributes that stay on their line -/

/-- The names and values of attributes **stay on a line**. -/
def StayOnLine (attributes : List (String × String)) : Prop :=
  ∀ a ∈ attributes, '\n' ∉ a.1.toList ∧ '\n' ∉ a.2.toList

namespace StayOnLine

variable {attributes attributes' : List (String × String)} {a : String × String}

@[simp] theorem nil : StayOnLine [] := fun _ h => nomatch h

@[simp] theorem cons_iff :
    StayOnLine (a :: attributes) ↔
      ('\n' ∉ a.1.toList ∧ '\n' ∉ a.2.toList) ∧ StayOnLine attributes := by
  simp [StayOnLine]

@[simp] theorem append_iff :
    StayOnLine (attributes ++ attributes') ↔ StayOnLine attributes ∧ StayOnLine attributes' :=
  List.forall_mem_append

@[simp] theorem abstractAttribute (isAbstract : Bool) :
    StayOnLine (SchemaSet.abstractAttribute isAbstract) := by
  cases isAbstract with
  | false => exact nil
  | true => simp [SchemaSet.abstractAttribute]

@[simp] theorem repeatedAttribute (repeated : Bool) :
    StayOnLine (SchemaSet.repeatedAttribute repeated) := by
  cases repeated with
  | false => exact nil
  | true => simp [SchemaSet.repeatedAttribute]

/-- Attributes without line breaks are written without one. -/
theorem not_mem_attributesText (h : StayOnLine attributes) :
    '\n' ∉ (Tag.attributesText attributes).toList := by
  simpa [Tag.attributesText, StayOnLine] using h

end StayOnLine

/-- There is no line break in a keyword. -/
theorem IsKeyword.not_mem {keyword : String} (h : IsKeyword keyword) : '\n' ∉ keyword.toList := by
  intro hmem
  have halpha := h.2 _ hmem
  revert halpha
  decide

/-! ## Nested lines -/

/-- Lines that are **nested** at a depth. -/
inductive Nested : Nat → List FragmentLine → Prop
  | nil {depth : Nat} : Nested depth []
  | single {depth : Nat} {keyword : String} {attributes : List (String × String)}
      (hkeyword : IsKeyword keyword) (hattributes : StayOnLine attributes) :
      Nested depth [⟨depth, .single keyword attributes⟩]
  | enclosed {depth : Nat} {keyword : String} {attributes : List (String × String)}
      {inner : List FragmentLine} (hkeyword : IsKeyword keyword)
      (hattributes : StayOnLine attributes) (hinner : Nested (depth + 1) inner) :
      Nested depth (SchemaSet.enclosed depth keyword attributes inner)
  | append {depth : Nat} {first rest : List FragmentLine} (hfirst : Nested depth first)
      (hrest : Nested depth rest) : Nested depth (first ++ rest)

namespace Nested

variable {depth : Nat} {lines : List FragmentLine}

/-- What is written for each item of a list is nested as a whole. -/
theorem flatten {α : Type} {items : List α} {f : α → Option (List FragmentLine)}
    {lists : List (List FragmentLine)} (hlists : items.mapM f = some lists)
    (h : ∀ a lines, f a = some lines → Nested depth lines) : Nested depth lists.flatten := by
  induction items generalizing lists with
  | nil =>
    cases hlists
    exact nil
  | cons a rest ih =>
    rw [List.mapM_cons] at hlists
    obtain ⟨first, hfirst, hlists⟩ := Option.bind_eq_some_iff.1 hlists
    obtain ⟨others, hothers, hlists⟩ := Option.bind_eq_some_iff.1 hlists
    cases hlists
    exact (h a first hfirst).append (ih hothers)

/-- Nested lines are read **without a trace**: what was open before is open after. -/
theorem foldlM_readLine (h : Nested depth lines) {unclosed : List (List Char)}
    (hdepth : unclosed.length = depth) :
    (lines.map FragmentLine.characters).foldlM readLine unclosed = some unclosed := by
  induction h generalizing unclosed with
  | nil => rfl
  | single hkeyword hattributes =>
    rw [List.map_singleton, List.foldlM_cons, FragmentLine.readLine_single hkeyword _ hdepth]
    rfl
  | @enclosed depth keyword attributes inner hkeyword hattributes hinner ih =>
    have hdeeper : (keyword.toList :: unclosed).length = depth + 1 := by simp [hdepth]
    have hinside := ih hdeeper
    rw [SchemaSet.enclosed, List.cons_append, List.map_cons, List.foldlM_cons,
      FragmentLine.readLine_opening hkeyword _ hdepth, List.map_append]
    simp [List.foldlM_append, hinside, FragmentLine.readLine_closing hkeyword hdepth]
  | append _ _ ihFirst ihRest =>
    rw [List.map_append, List.foldlM_append, ihFirst hdepth]
    exact ihRest hdepth

/-- No line of nested lines is broken. -/
theorem not_mem_characters (h : Nested depth lines) :
    ∀ l ∈ lines, '\n' ∉ l.characters := by
  have hspaces (n : Nat) : '\n' ∉ List.replicate n ' ' := by
    intro hmem
    cases (List.mem_replicate.1 hmem).2
  induction h with
  | nil => exact fun _ hl => nomatch hl
  | single hkeyword hattributes =>
    intro l hl
    cases List.mem_singleton.1 hl
    simp [FragmentLine.characters, Tag.text, hspaces, hkeyword.not_mem,
      hattributes.not_mem_attributesText]
  | enclosed hkeyword hattributes _ ih =>
    intro l hl
    rcases List.mem_append.1 hl with hl | hl
    · rcases List.mem_cons.1 hl with rfl | hl
      · simp [FragmentLine.characters, Tag.text, hspaces, hkeyword.not_mem,
          hattributes.not_mem_attributesText]
      · exact ih l hl
    · cases List.mem_singleton.1 hl
      simp [FragmentLine.characters, Tag.text, hspaces, hkeyword.not_mem]
  | append _ _ ihFirst ihRest =>
    intro l hl
    exact (List.mem_append.1 hl).elim (ihFirst l) (ihRest l)

/-- The text of nested lines is **balanced**. -/
theorem balanced (h : Nested 0 lines) : Balanced (String.join (lines.map FragmentLine.text)) := by
  refine ⟨lines.map FragmentLine.characters, ?_, h.foldlM_readLine rfl⟩
  have htext : (String.join (lines.map FragmentLine.text)).toList =
      ['\n'].intercalate (lines.map FragmentLine.characters ++ [[]]) := by
    clear h
    induction lines with
    | nil => simp
    | cons l rest ih =>
      rw [List.map_cons, String.join_cons, String.toList_append, ih, l.toList_text]
      cases rest <;> simp
  rw [htext, List.splitOn_intercalate _ ?_ (by simp)]
  intro line hline
  rcases List.mem_append.1 hline with hline | hline
  · obtain ⟨l, hl, rfl⟩ := List.mem_map.1 hline
    exact h.not_mem_characters l hl
  · simp [List.mem_singleton.1 hline]

end Nested

/-! ## Fragments -/

namespace SchemaSet

variable {set : SchemaSet} {home : String} {id : ComponentId} {steps depth : Nat}
  {top repeated : Bool} {lines : List FragmentLine}

/-- Names and namespaces **stay on a line**. -/
def NamesStayOnLine (set : SchemaSet) : Prop :=
  ∀ id, '\n' ∉ (set.component id).nameOrEmpty.toList ∧ '\n' ∉ (set.component id).ns.toList

/-- It is enough to look at the components that exist. -/
theorem namesStayOnLine_iff :
    set.NamesStayOnLine ↔
      ∀ c ∈ set.components.toList, '\n' ∉ c.nameOrEmpty.toList ∧ '\n' ∉ c.ns.toList := by
  constructor
  · intro h c hc
    obtain ⟨index, hindex, rfl⟩ := List.mem_iff_getElem.1 hc
    have hat := h ⟨index⟩
    rwa [component, Array.getD_eq_getD_getElem?, ← Array.getElem?_toList,
      List.getElem?_eq_getElem hindex] at hat
  · intro h id
    by_cases hid : id.index < set.size
    · refine h _ ?_
      rw [component, Array.getD_eq_getD_getElem?, Array.getElem?_eq_getElem hid]
      exact Array.getElem_mem_toList hid
    · rw [component_of_size_le (Nat.le_of_not_lt hid)]
      decide

instance (set : SchemaSet) : Decidable set.NamesStayOnLine :=
  decidable_of_iff _ namesStayOnLine_iff.symm

/-- A qualified name stays on its line if the names in the schema do. -/
theorem NamesStayOnLine.qualifiedName (h : set.NamesStayOnLine) (home : String)
    (id : ComponentId) : '\n' ∉ (set.qualifiedName home id).toList := by
  unfold SchemaSet.qualifiedName
  dsimp only
  split
  · simp [h id]
  · split <;> simp [h id]

/-- So does the attribute that shows a name. -/
theorem NamesStayOnLine.nameAttribute (h : set.NamesStayOnLine) (id : ComponentId) :
    StayOnLine (SchemaSet.nameAttribute (set.component id).name) := by
  have hname := (h id).1
  unfold Component.nameOrEmpty at hname
  cases hid : (set.component id).name with
  | none => simp [SchemaSet.nameAttribute]
  | some name =>
    rw [hid] at hname
    simpa [SchemaSet.nameAttribute] using hname

/-! What stands one level below is nested, so is what encloses it. -/

section below

variable (h : set.NamesStayOnLine) (hbelow : ∀ {id depth top repeated lines},
  set.fragmentLines home steps id depth top repeated = some lines → Nested depth lines)

include hbelow

/-- The lines of particles are nested, if those of each are. -/
theorem nested_particles {ps : List Particle} {lists : List (List FragmentLine)}
    (hlists : ps.mapM (fun p => set.fragmentLines home steps p.term depth false p.repeated) =
      some lists) : Nested depth lists.flatten :=
  .flatten hlists fun _ _ hlines => hbelow hlines

/-- The lines of attributes are nested, if those of each are. -/
theorem nested_attributes {attributes : List ComponentId} {lists : List (List FragmentLine)}
    (hlists : attributes.mapM (fun a => set.fragmentLines home steps a depth false false) =
      some lists) : Nested depth lists.flatten :=
  .flatten hlists fun _ _ hlines => hbelow hlines

/-- The lines of the content of a complex type are nested where the content stands. -/
theorem nested_contentLines {type : ComplexType}
    (hlines : set.contentLines home steps depth type = some lines) : Nested depth lines := by
  obtain ⟨contents, attributes, hcontents, hlists, rfl⟩ := contentLines_eq_some.1 hlines
  exact (nested_particles hbelow hcontents).append (nested_attributes hbelow hlists)

include h

/-- An element is a single line, or it encloses its anonymous type. -/
theorem nested_element {decl : ElementDecl} (hkind : (set.component id).kind = .element decl)
    (hlines : set.fragmentLines home (steps + 1) id depth top repeated = some lines) :
    Nested depth lines := by
  have hname := h.nameAttribute id
  unfold fragmentLines at hlines
  simp only [hkind] at hlines
  split at hlines
  · cases hlines
    exact .single (by decide) (by simp [h.qualifiedName])
  · cases htype : decl.type with
    | none =>
      rw [htype] at hlines
      cases hlines
      exact .single (by decide) (by simp [hname])
    | some type =>
      rw [htype] at hlines
      dsimp only at hlines
      split at hlines
      · obtain ⟨inner, hinner, rfl⟩ := Option.map_eq_some_iff.1 hlines
        exact .enclosed (by decide) (by simp [hname]) (hbelow hinner)
      · cases hlines
        exact .single (by decide) (by simp [hname, h.qualifiedName])

/-- A complex type encloses what derives it from its base, or else its content. -/
theorem nested_complexType {type : ComplexType}
    (hkind : (set.component id).kind = .complexType type)
    (hlines : set.fragmentLines home (steps + 1) id depth top repeated = some lines) :
    Nested depth lines := by
  have hname := h.nameAttribute id
  unfold fragmentLines at hlines
  simp only [hkind] at hlines
  cases hbase : type.base with
  | some base =>
    rw [hbase] at hlines
    obtain ⟨inner, hinner, rfl⟩ := Option.map_eq_some_iff.1 hlines
    exact .enclosed (by decide) (by simp [hname]) <| .enclosed (by decide) .nil <|
      .enclosed (by cases type.derivation <;> decide) (by simp [h.qualifiedName])
        (nested_contentLines hbelow hinner)
  | none =>
    rw [hbase] at hlines
    dsimp only at hlines
    split at hlines
    · cases hlines
      exact .single (by decide) (by simp [hname])
    · obtain ⟨inner, hinner, rfl⟩ := Option.map_eq_some_iff.1 hlines
      exact .enclosed (by decide) (by simp [hname]) (nested_contentLines hbelow hinner)

end below

/-- The lines of every component are **nested**, whatever components lie inside each other. -/
theorem NamesStayOnLine.nested (h : set.NamesStayOnLine)
    (hlines : set.fragmentLines home steps id depth top repeated = some lines) :
    Nested depth lines := by
  -- by induction on the levels: what stands inside is written one level below
  induction steps generalizing id depth top repeated lines with
  | zero => cases hlines
  | succ steps ih =>
    have hname := h.nameAttribute id
    cases hkind : (set.component id).kind with
    | element decl => exact nested_element h ih hkind hlines
    | complexType type => exact nested_complexType h ih hkind hlines
    | simpleType type =>
      simp only [fragmentLines, hkind] at hlines
      cases hbase : type.base with
      | some base =>
        rw [hbase] at hlines
        cases hlines
        exact .enclosed (by decide) hname (.single (by decide) (by simp [h.qualifiedName]))
      | none =>
        rw [hbase] at hlines
        cases hlines
        exact .single (by decide) hname
    | group group =>
      simp only [fragmentLines, hkind] at hlines
      obtain ⟨inner, hinner, rfl⟩ := Option.map_eq_some_iff.1 hlines
      obtain ⟨lists, hlists, rfl⟩ := Option.map_eq_some_iff.1 hinner
      exact .enclosed (by cases group.compositor <;> decide) .nil (nested_particles ih hlists)
    -- an attribute is a single line
    | _ =>
      rename_i decl
      simp only [fragmentLines, hkind] at hlines
      cases hlines
      refine .single (by decide) ?_
      cases decl.type <;> simp [hname, h.qualifiedName]

/-- A component that is written through any number of levels **has a fragment**, and the text of
the fragment is **balanced**: line by line, tags stand at the depth that the open ones give, the tag
that is closed is the one opened last, and none is open at the end. -/
theorem exists_balanced_fragment (hnames : set.NamesStayOnLine)
    (hlines : set.fragmentLines (set.component id).ns steps id 0 true false = some lines) :
    ∃ text, set.fragment? id = some text ∧ Balanced text := by
  refine ⟨_, ?_, (hnames.nested hlines).balanced⟩
  rw [fragment?, fragmentLines?_of_fragmentLines hlines]
  rfl

/-- A catalog extends `xs:anyType` by a choice of parts, among them further catalogs. -/
def catalogs : SchemaSet :=
  (Builder.setRepeated ⟨24⟩ ⟨22⟩).after <|
    (Builder.elementRef ⟨24⟩ ⟨22⟩).after <|
      (Builder.localAttribute ⟨23⟩ "size" (some ⟨8⟩)).after <|
        (Builder.localElement ⟨24⟩ "part" (some ⟨2⟩)).after <|
          (Builder.group ⟨23⟩ .choice).after <|
            (Builder.derive ⟨23⟩ anyType .extension).after <|
              (Builder.anonymousComplexType ⟨22⟩).after <|
                (Builder.globalElement "urn:x" "catalog" none).after .initial

/-- The fragment of a catalog. -/
def catalogText : String :=
  "<element name=\"catalog\">\n" ++
  "  <complexType>\n" ++
  "    <complexContent>\n" ++
  "      <extension base=\"xs:anyType\">\n" ++
  "        <choice>\n" ++
  "          <element name=\"part\" type=\"xs:string\"/>\n" ++
  "          <element ref=\"tns:catalog\" maxOccurs=\"unbounded\"/>\n" ++
  "        </choice>\n" ++
  "        <attribute name=\"size\" type=\"xs:int\"/>\n" ++
  "      </extension>\n" ++
  "    </complexContent>\n" ++
  "  </complexType>\n" ++
  "</element>\n"

/-- The fragment of the catalog is balanced, although catalogs lie in catalogs without end. -/
theorem exists_balanced_fragment_catalogs :
    catalogs.fragment? ⟨22⟩ = some catalogText ∧ Balanced catalogText := by
  have hsome : (catalogs.fragmentLines (catalogs.component ⟨22⟩).ns 5 ⟨22⟩ 0 true false).isSome =
      true := by decide +kernel
  obtain ⟨lines, hlines⟩ := Option.isSome_iff_exists.1 hsome
  obtain ⟨text, htext, hbalanced⟩ := exists_balanced_fragment (by decide +kernel) hlines
  have hcatalog : catalogs.fragment? ⟨22⟩ = some catalogText := by decide +kernel
  rw [hcatalog] at htext
  cases htext
  exact ⟨hcatalog, hbalanced⟩

end SchemaSet

end SchemaBinding
