import SchemaBinding.Proofs.Completion
import SchemaBinding.Proofs.Moves.Inheritance
import SchemaBinding.Proofs.Schema.Bases
import SchemaBinding.Proofs.Schema.Manifest

/-! # Failures of compilations
A compilation of a manifest fails only if types derive from each other in a cycle, and then it
always does. If it fails, the bodies under construction are a chain from base to base that has come
back to itself, as nothing else can go wrong with a loaded set. If it comes to its end, every
declared type has a class of its own, and the bases of the classes come to an end as well. -/

namespace SchemaBinding

open Resolver (State)

variable {allowed : String → Prop} {x : Context} {declared : List ComponentId} {l : Ledger}
  {a b c d e : ComponentId} {k : ClassId}

/-! ## Brackets -/

/-- Along a chain of questions, each component has **more questions** than all it asks about. -/
theorem SchemaSet.Loaded.pairwise_questions {set : SchemaSet} (h : set.Loaded allowed)
    {ids : List ComponentId}
    (hchain : ids.IsChain fun later earlier => set.asked? earlier = some later) :
    (ids.map set.questions).Pairwise (· < ·) := by
  refine List.IsChain.pairwise ((List.isChain_map _).2 ?_)
  exact hchain.imp fun _ _ hasked => h.questions_lt hasked

namespace Ledger

/-- At most three proposals are under way. -/
theorem Bound.length_proposing_le (h : l.Bound x) (hset : x.schema.Loaded allowed) :
    l.proposing.length ≤ 3 := by
  -- components under way have different numbers of questions, none of them more than two
  have hnodup : (l.proposing.map x.schema.questions).Nodup :=
    (hset.pairwise_questions h.chain).imp fun hlt => Nat.ne_of_lt hlt
  have hsubset : l.proposing.map x.schema.questions ⊆ List.range 3 := by
    intro n hn
    obtain ⟨c, -, rfl⟩ := List.mem_map.1 hn
    exact List.mem_range.2 (Nat.lt_succ_of_le (x.schema.questions_le c))
  simpa using (List.Nodup.subperm hnodup hsubset).length_le

/-- Components with classes are bindable. -/
theorem Bound.isBindable_of_classRef (h : l.Bound x) (hc : l.target? c = some (.classRef k)) :
    x.schema.isBindable c = true := by
  rcases h.bindable c _ hc with rfl | hbindable
  · rw [h.anyType] at hc
    cases hc
  · exact hbindable

/-- No body is under construction twice. -/
theorem length_building_le (hl : Reachable x l) : l.building.length ≤ x.schema.size := by
  -- only components of the set are bound to classes
  have hsubset : l.building ⊆ x.schema.ids := by
    intro c hc
    obtain ⟨k, hk, -⟩ := hl.building.active c hc
    have hbindable := hl.inOrder.isBindable_of_classRef hk
    exact List.mem_map.2
      ⟨c.index, List.mem_range.2 (SchemaSet.index_lt_of_isBindable hbindable), rfl⟩
  simpa [SchemaSet.ids] using (List.Nodup.subperm hl.building.nodup hsubset).length_le

end Ledger

/-! ## Stuck runs -/

/-- Bindable components are no groups. -/
theorem SchemaSet.isGroup_of_isBindable {set : SchemaSet} (h : set.isBindable c = true) :
    (set.component c).isGroup = false := by
  unfold isBindable at h
  cases hkind : (set.component c).kind with
  | element decl => exact Component.isGroup_of_isElement (Component.isElement_iff.2 ⟨decl, hkind⟩)
  | complexType type =>
    exact Component.isGroup_of_isComplexType (Component.isComplexType_iff.2 ⟨type, hkind⟩)
  | _ => simp [hkind] at h

/-- A run over a loaded set is stuck only in a **cycle of bases**: something on its path extends
itself through others. -/
theorem Stuck.exists_path (hl : Reachable x l) (hset : x.schema.Loaded allowed)
    {error : ResolveError} (h : Stuck x (2 * x.schema.size + 2) l error) :
    ∃ path, error = .buildCycle path ∧ x.schema.IsCyclePath path ∧
      ∃ c ∈ path, Relation.TransGen (fun a b => x.schema.extended? a = some b) c c := by
  cases h with
  | @extending c alone extended active =>
    refine ⟨_, rfl, hset.isCyclePath hl.building.nodup
      (List.isChain_cons.2 ⟨extended, hl.building.chain⟩) active fun hany => ?_, c, by simp, ?_⟩
    · obtain ⟨k, hk, -⟩ := hl.building.active _ hany
      rw [hl.inOrder.anyType] at hk
      cases hk
    · -- the body extends the latest one, to which it leads itself
      obtain ⟨a, rest, top⟩ := List.exists_cons_of_ne_nil (List.ne_nil_of_mem active)
      have hreach := Relation.ReflTransGen.mono (fun _ _ hstep => And.right hstep) _ _
        (hl.building.reaches top active)
      exact .tail' hreach (extended a (by rw [top]; rfl))
  | @proposing c path asked active =>
    -- the component would have fewer questions than itself
    have hpairwise := hset.pairwise_questions (List.isChain_cons.2 ⟨asked, hl.inOrder.chain⟩)
    have hless := (List.pairwise_cons.1 hpairwise).1 _ (List.mem_map_of_mem active)
    exact absurd hless (Nat.lt_irrefl _)
  | deep deep =>
    -- there are fewer proposals and bodies than brackets that may be open
    have hproposing := hl.inOrder.length_proposing_le hset
    have hbuilding := Ledger.length_building_le hl
    have hsize : SchemaSet.initial.size ≤ x.schema.size := hset.grown.size
    have hinitial : 22 ≤ SchemaSet.initial.size := by decide +kernel
    unfold Ledger.depth at deep
    omega
  | undocumented bound endless =>
    have hbindable := hl.inOrder.isBindable_of_classRef bound
    exact absurd endless (hset.documentation?_ne_none (SchemaSet.isGroup_of_isBindable hbindable))
  | unwritten building endless => exact absurd endless (hset.items?_ne_none _)

/-! ## Classes of declared types -/

/-- The class of a declared complex type is **not shared**. -/
theorem Reachable.eq_of_classRef (hl : Reachable x l) (hset : x.schema.Loaded allowed)
    (hglobal : (x.schema.component b).isGlobal = true)
    (hcomplex : (x.schema.component b).isComplexType = true)
    (hb : l.target? b = some (.classRef k)) (hc : l.target? c = some (.classRef k)) : c = b := by
  -- a declared type has a name, so it is no anonymous type
  have hnamed {e : ComponentId} (hasked : x.schema.asked? b = some e) : False := by
    have hname := (hset.fits b).named hglobal
    rw [(SchemaSet.declaringElement?_of_asked? hcomplex hasked).1] at hname
    cases hname
  by_contra hne
  obtain ⟨d, e, rfl | rfl, hd, hasked, he⟩ := hl.shared c b k hc hb hne
  · -- the class is also that of an element, with which it cannot be shared either
    obtain ⟨-, hdeclaring⟩ := SchemaSet.declaringElement?_of_asked? hd hasked
    have helement := ((hset.fits d).declaring e hdeclaring).2.1
    have hnot := Component.isComplexType_of_isElement helement
    have heb : e ≠ b := by
      rintro rfl
      rw [hnot] at hcomplex
      cases hcomplex
    obtain ⟨f, g, rfl | rfl, hf, hasked', -⟩ := hl.shared e b k he hb heb
    · rw [hnot] at hf
      cases hf
    · exact hnamed hasked'
  · exact hnamed hasked

/-- There is **no knot** in a loaded set: what is extended is a declared type, which shares its
class with nothing. -/
theorem Reachable.not_knotted (hl : Reachable x l) (hset : x.schema.Loaded allowed) :
    ¬ l.Knotted x := by
  rintro ⟨c, b, k, hbegun, hchain, hne, hb⟩
  obtain ⟨a, -, -, hextended⟩ := Relation.TransGen.tail'_iff.1 hchain
  have hc := (hl.building.of_begun hbegun).2.1
  have hglobal := hset.isGlobal_of_extended? hextended
  have hcomplex := (SchemaSet.extended?_cases hextended).1
  exact hne (hl.eq_of_classRef hset hglobal hcomplex hb hc).symm

/-- Whatever is bound has a **class**, apart from the universal type and wrapped elements. -/
def Ledger.Classed (x : Context) (l : Ledger) : Prop :=
  ∀ c target, l.target? c = some target →
    c = SchemaSet.anyType ∨ x.schema.isWrapped c = true ∨ ∃ k, target = .classRef k

/-- A move binds nothing but wrapped elements and classes, so what is bound keeps having a class. -/
theorem Ledger.Classed.move {l' : Ledger} (h : l.Classed x) (hl : Reachable x l)
    (hmove : Move x l l') : l'.Classed x := by
  cases hmove with
  | @conclude l' c rest outcome top conclusion =>
    intro d target hd
    rw [hl.inOrder.target?_conclusion top conclusion] at hd
    split at hd
    · rename_i hdc
      subst hdc hd
      cases conclusion with
      | fresh | shared => exact .inr (.inr ⟨_, rfl⟩)
      | wrapped wrapped => exact .inr (.inl wrapped)
    · exact h d target hd
  | propose | wrap | claim | write | finish | skip => exact h

/-- In every ledger that is reached, what is bound has a class. -/
theorem Reachable.classed (hl : Reachable x l) : l.Classed x := by
  refine hl.induct ?_ fun hl hmove ih => ih.move hl hmove
  intro c target hc
  have hmem := Registry.mem_of_target? hc
  simp only [Ledger.start, List.mem_singleton, Binding.mk.injEq] at hmem
  exact .inl hmem.1

namespace Ledger.Finished

/-- Every declared type of a finished run has a class that was **built for it**. -/
theorem exists_begun (h : l.Finished x declared) (hset : x.schema.Loaded allowed)
    (hc : x.schema.DeclaresType c) (hdeclared : c ∈ declared) : ∃ k, Mark.begun c k ∈ l.log := by
  have hl := h.reachable
  have hbindable := SchemaSet.isBindable_of_isComplexType hc.isComplexType
  -- a declared type is bindable, so it is bound when its declaration is answered
  obtain ⟨target, htarget⟩ : ∃ target, l.target? c = some target := by
    refine Option.ne_none_iff_exists'.1 fun hnone => ?_
    rw [h.answered c hdeclared hnone] at hbindable
    cases hbindable
  obtain ⟨k, rfl⟩ : ∃ k, target = .classRef k := by
    rcases hl.classed c target htarget with hany | hwrapped | hclass
    · exact absurd hany hc.ne_anyType
    · rw [SchemaSet.isWrapped_of_isComplexType hc.isComplexType] at hwrapped
      cases hwrapped
    · exact hclass
  obtain ⟨d, hd, hmarks⟩ := h.exists_marks (h.mem_built ((hl.housed k).2 ⟨c, htarget⟩))
  obtain rfl := hl.eq_of_classRef hset hc.isGlobal hc.isComplexType htarget hd
  have hbegun : Mark.begun d k ∈ l.marks k := by simp [hmarks]
  exact ⟨k, (mem_marks.1 hbegun).1⟩

/-- No class that was built in a finished run **extends itself** through others: it would be above
itself. -/
theorem not_extends (h : l.Finished x declared) (hset : x.schema.Loaded allowed)
    (hextends : Relation.TransGen (Extends x l) c c) : False := by
  have hl := h.reachable
  obtain ⟨_, ⟨⟨k, hbegun⟩, -⟩, -⟩ := Relation.TransGen.head'_iff.1 hextends
  obtain ⟨hbuilt, hclass, -⟩ := hl.building.of_begun hbegun
  have hbases := ancestors_of_extends hl h.building hextends hbegun hclass
  -- but a finished class is grounded
  obtain ⟨d, -, hmarks⟩ := h.exists_marks hbuilt
  have hdone : Mark.done d k ∈ l.marks k := by
    rw [hmarks]
    exact List.mem_cons_self
  have hgrounded := (hl.grounding d k (mem_marks.1 hdone).1).resolve_right (hl.not_knotted hset)
  obtain ⟨n, hn⟩ := hgrounded.exists_ancestor?
  exact Model.ancestor?_ne_none hbases n hn

/-- A run that comes to its end has found **no cycle**, as each type in it would have a body of its
own. -/
theorem not_cyclic (h : l.Finished x declared) (hset : x.schema.Loaded allowed)
    (hdeclared : ∀ c, x.schema.DeclaresType c → c ∈ declared) : ¬ x.schema.Cyclic := by
  rintro ⟨c, hcycle⟩
  refine h.not_extends hset (Relation.TransGen.mono (fun a b hderives => ?_) c c hcycle)
  obtain ⟨k, hbegun⟩ := h.exists_begun hset hderives.derived (hdeclared a hderives.derived)
  exact ⟨⟨k, hbegun⟩, hderives.extended?⟩

end Ledger.Finished

/-! ## Compilations -/

namespace Compilation

variable {c : Compilation}

/-- Declared types are declarations of a run. -/
theorem mem_declarations_of_declaresType (hset : c.schema.Loaded (· ≠ xmlSchemaNs))
    {id : ComponentId} (hid : c.schema.DeclaresType id) : id ∈ c.declarations :=
  mem_declarations hset.listed hid.isGlobal
    ((hset.fits id).foreign hid.isGlobal hid.isComplexType hid.ne_anyType) (.inr hid.isComplexType)

/-- Over a loaded set, a standard compilation fails **exactly** when the set is cyclic, and then
with a cycle path. -/
theorem outcome_of_loaded (hstandard : c.strategy = .standard)
    (hset : c.schema.Loaded (· ≠ xmlSchemaNs)) :
    ((∃ e, c.outcome = .error e) ↔ c.schema.Cyclic) ∧
      ∀ e, c.outcome = .error e →
        ∃ path, e = .buildCycle path ∧ c.schema.IsCyclePath path := by
  unfold outcome
  rcases hrun : c.run with ⟨e | ⟨⟩, s⟩
  · obtain ⟨l, hl, hstuck⟩ := stuck_of_run hstandard hrun
    obtain ⟨path, he, hpath, _, -, hcycle⟩ := hstuck.exists_path hl hset
    refine ⟨⟨fun _ => hset.cyclic_of_transGen hcycle, fun _ => ⟨e, rfl⟩⟩, ?_⟩
    rintro _ ⟨⟩
    exact ⟨path, he, hpath⟩
  · have hnot := (finished_of_run hstandard hrun).not_cyclic hset
      fun id hid => mem_declarations_of_declaresType hset hid
    refine ⟨⟨?_, fun hcyclic => absurd hcyclic hnot⟩, ?_⟩
    · rintro ⟨_, ⟨⟩⟩
    · rintro _ ⟨⟩

/-- **When a manifest cannot be compiled.** For a manifest that is accepted and adds nothing to the
schema of XML Schema itself, a standard compilation fails exactly when declared complex types derive
from each other in a cycle. The error is then the path along which the cycle was met. -/
theorem compileManifest_error_iff_cyclic {text name : String} {m : Manifest} {set : SchemaSet}
    (hstandard : c.strategy = .standard) (hread : Manifest.ofText text = .ok m)
    (hns : ∀ schema ∈ m.schemas, schema.ns ≠ xmlSchemaNs) (hset : m.schemaSet name = .ok set) :
    ((∃ e, c.compileManifest text name = .error e) ↔ set.Cyclic) ∧
      ∀ e, c.compileManifest text name = .error e →
        ∃ path, e = .resolve (.buildCycle path) ∧ set.IsCyclePath path := by
  obtain ⟨hfails, hpath⟩ := outcome_of_loaded (c := { c with schema := set }) hstandard
    (Manifest.loaded_of_schemaSet hns hset)
  -- the manifest is accepted, so only the run over its schema set can fail
  have hcompile : c.compileManifest text name =
      ({ c with schema := set } : Compilation).outcome.mapError .resolve := by
    unfold compileManifest SchemaSet.ofManifest
    rw [hread]
    dsimp only
    rw [hset]
    rfl
  rw [hcompile]
  cases houtcome : ({ c with schema := set } : Compilation).outcome with
  | ok o =>
    refine ⟨⟨?_, fun hcyclic => ?_⟩, ?_⟩
    · rintro ⟨_, ⟨⟩⟩
    · obtain ⟨e, he⟩ := hfails.2 hcyclic
      rw [houtcome] at he
      cases he
    · rintro _ ⟨⟩
  | error e =>
    refine ⟨⟨fun _ => hfails.1 ⟨e, houtcome⟩, fun _ => ⟨_, rfl⟩⟩, ?_⟩
    rintro _ ⟨⟩
    obtain ⟨path, rfl, hcycle⟩ := hpath e houtcome
    exact ⟨path, rfl, hcycle⟩

/-- A manifest of two types, each of which is the base of the other. -/
def mutualText : String :=
  "[[schema]]\nnamespace = \"urn:x\"\n" ++
  "[[schema.complex_type]]\nname = \"A\"\nbase = \"B\"\n" ++
  "[[schema.complex_type]]\nname = \"B\"\nbase = \"A\"\n"

/-- Two types that extend each other make such a manifest: it does not compile, and its error is a
cycle of theirs. -/
theorem compileManifest_error_iff_cyclic_mutualText :
    ∃ m set, Manifest.ofText mutualText = .ok m ∧
      (∀ schema ∈ m.schemas, schema.ns ≠ xmlSchemaNs) ∧ m.schemaSet "mutual.toml" = .ok set ∧
      ((∃ e, compileManifest {} mutualText "mutual.toml" = .error e) ↔ set.Cyclic) ∧
      ∀ e, compileManifest {} mutualText "mutual.toml" = .error e →
        ∃ path, e = .resolve (.buildCycle path) ∧ set.IsCyclePath path := by
  have haccepted : (Manifest.ofText mutualText).toOption.any (fun m =>
      m.schemas.all (fun schema => schema.ns != xmlSchemaNs) &&
        (m.schemaSet "mutual.toml").isOk) = true := by
    decide +kernel
  cases hread : Manifest.ofText mutualText with
  | error cause =>
    rw [hread] at haccepted
    cases haccepted
  | ok m =>
    rw [hread] at haccepted
    obtain ⟨hns, hok⟩ := Bool.and_eq_true_iff.1 haccepted
    have hns : ∀ schema ∈ m.schemas, schema.ns ≠ xmlSchemaNs := by
      intro schema hschema
      simpa using List.all_eq_true.1 hns schema hschema
    cases hset : m.schemaSet "mutual.toml" with
    | error cause =>
      rw [hset] at hok
      cases hok
    | ok set =>
      exact ⟨m, set, rfl, hns, hset, compileManifest_error_iff_cyclic rfl hread hns hset⟩

end Compilation

end SchemaBinding
