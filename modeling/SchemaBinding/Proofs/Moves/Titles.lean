import SchemaBinding.Proofs.Moves.Content

/-! # Titles along moves
A class has the name of a component that is bound to it, is abstract if one of them is an abstract
type, and is prepared for the one component that its body is built for. A wrapper has the name of
the element that it was noted for. -/

namespace SchemaBinding

variable {x : Context} {l l' : Ledger} {c : ComponentId} {k : ClassId}

/-- A class of which nothing is known. -/
def ClassInfo.blank : ClassInfo := { name := "", scope := .root }

/-- A class is **prepared for** a component when it has the constructors and the documentation with
which the body of the component begins. -/
def Context.PreparedFor (x : Context) (c : ComponentId) (info : ClassInfo) : Prop :=
  ∃ docs, x.docs? c .blank = some docs ∧
    info.constructors = (x.prepared c docs .blank).constructors ∧
    info.doc = (x.prepared c docs .blank).doc

/-- Any blank class is prepared in the same way. -/
theorem Context.preparedFor_of_blank {info : ClassInfo} (hblank : info.Blank) {docs : List String}
    (hdocs : x.docs? c info = some docs) : x.PreparedFor c (x.prepared c docs info) := by
  obtain ⟨-, hconstructors, hdoc, -⟩ := hblank
  have hfold (docs : List String) (a b : ClassInfo)
      (hconstructors : a.constructors = b.constructors) (hdoc : a.doc = b.doc) :
      (docs.foldl ClassInfo.appendDoc a).constructors =
          (docs.foldl ClassInfo.appendDoc b).constructors ∧
        (docs.foldl ClassInfo.appendDoc a).doc = (docs.foldl ClassInfo.appendDoc b).doc := by
    induction docs generalizing a b with
    | nil => exact ⟨hconstructors, hdoc⟩
    | cons text rest ih => exact ih _ _ hconstructors (by rw [ClassInfo.appendDoc, hdoc]; rfl)
  have hvalue (hasValue : Bool) :
      (if hasValue then info.addConstructor ["value"] else info).constructors =
          (if hasValue then ClassInfo.blank.addConstructor ["value"] else .blank).constructors ∧
        (if hasValue then info.addConstructor ["value"] else info).doc =
          (if hasValue then ClassInfo.blank.addConstructor ["value"] else .blank).doc := by
    cases hasValue <;>
      simp [ClassInfo.addConstructor, ClassInfo.blank, hconstructors, hdoc]
  refine ⟨docs, ?_, hfold docs _ _ (hvalue _).1 (hvalue _).2⟩
  unfold docs? at *
  rwa [hdoc] at hdocs

namespace Ledger

/-- The **titles** of classes and wrappers are those of their components. -/
structure Titled (x : Context) (l : Ledger) : Prop where
  named : ∀ k : ClassId, k.index < l.model.classes.size → ∃ c, l.target? c = some (.classRef k) ∧
    (l.model.classInfo k).name = x.nameAfter (x.schema.namesake c)
  marked : ∀ k : ClassId, k.index < l.model.classes.size →
    ((l.model.classInfo k).isAbstract = true ↔
      ∃ c, l.target? c = some (.classRef k) ∧ x.schema.isAbstractType c = true)
  prepared : ∀ c k, Mark.begun c k ∈ l.log → x.PreparedFor c (l.model.classInfo k)
  wrapped : ∀ e w, l.notes.lookup e = some (some (.wrapper w)) →
    (l.model.elementInfo w).name = (x.schema.component e).nameOrEmpty ∧
      (l.model.elementInfo w).ns = (x.schema.component e).ns

/-- Nothing has a title at the start. -/
theorem titled_start (x : Context) : Titled x .start where
  named k hk := by simp [start] at hk
  marked k hk := by simp [start] at hk
  prepared _ _ h := by cases h
  wrapped _ _ h := by simp [start] at h

/-- A move that leaves classes and wrappers alone keeps the titles. -/
theorem Titled.of_model (h : Titled x l) (hmodel : l'.model = l.model)
    (hregistry : l'.registry = l.registry) (hnotes : l'.notes = l.notes)
    (hlog : ∀ c k, Mark.begun c k ∈ l'.log → Mark.begun c k ∈ l.log) : Titled x l' := by
  have htarget (c : ComponentId) : l'.target? c = l.target? c := by
    unfold target?
    rw [hregistry]
  refine ⟨fun k hk => ?_, fun k hk => ?_, fun c k hk => ?_, fun e w he => ?_⟩
  · rw [hmodel] at hk ⊢
    simp only [htarget]
    exact h.named k hk
  · rw [hmodel] at hk ⊢
    simp only [htarget]
    exact h.marked k hk
  · rw [hmodel]
    exact h.prepared c k (hlog c k hk)
  · rw [hmodel]
    exact h.wrapped e w (hnotes ▸ he)

/-- A class that is changed in other respects keeps its title. -/
theorem Titled.modifyClass (h : Titled x l) {f : ClassInfo → ClassInfo}
    (hf : ∀ info, (f info).name = info.name ∧ (f info).isAbstract = info.isAbstract)
    (hclasses : l'.model = l.model.modifyClass k f) (hregistry : l'.registry = l.registry)
    (hnotes : l'.notes = l.notes)
    (hprepared : ∀ c j, Mark.begun c j ∈ l'.log → x.PreparedFor c (l'.model.classInfo j)) :
    Titled x l' := by
  -- titles are read off the names and the abstractness of classes, which the change keeps
  have hinfo (j : ClassId) : (l'.model.classInfo j).name = (l.model.classInfo j).name ∧
      (l'.model.classInfo j).isAbstract = (l.model.classInfo j).isAbstract := by
    rw [hclasses, Model.classInfo_modifyClass]
    split
    · exact hf _
    · exact ⟨rfl, rfl⟩
  have hsize : l'.model.classes.size = l.model.classes.size := by
    rw [hclasses, Model.size_classes_modifyClass]
  have htarget (c : ComponentId) : l'.target? c = l.target? c := by
    unfold target?
    rw [hregistry]
  refine ⟨fun j hj => ?_, fun j hj => ?_, hprepared, fun e w he => ?_⟩
  · rw [(hinfo j).1]
    simp only [htarget]
    exact h.named j (hsize ▸ hj)
  · rw [(hinfo j).2]
    simp only [htarget]
    exact h.marked j (hsize ▸ hj)
  · rw [hnotes] at he
    have hsame : l'.model.elementInfo w = l.model.elementInfo w := by
      rw [hclasses]
      rfl
    rw [hsame]
    exact h.wrapped e w he

/-- A body is begun on a class that is prepared for it. -/
theorem Titled.claim (h : Titled x l) (hl : Reachable x l) {docs : List String}
    (hk : k.index < l.model.classes.size) (unbuilt : k ∉ l.built)
    (documented : x.docs? c (l.model.classInfo k) = some docs) :
    Titled x (x.claiming l c k docs) := by
  refine h.modifyClass (fun info => ?_) rfl rfl rfl fun d j hj => ?_
  · obtain ⟨constructors, doc, hprepared⟩ := x.prepared_eq c docs info
    rw [hprepared]
    exact ⟨rfl, rfl⟩
  · rcases List.mem_cons.1 hj with heq | hold
    · obtain ⟨rfl, rfl⟩ : d = c ∧ j = k := by simpa using heq
      rw [show (x.claiming l d j docs).model.classInfo j = _ from
        Model.classInfo_modifyClass_self hk _]
      exact Context.preparedFor_of_blank (hl.written.blank j hk unbuilt) documented
    · -- any other class was begun before
      have hjk : j ≠ k := by
        rintro rfl
        exact unbuilt (hl.building.of_begun hold).1
      rw [show (x.claiming l c k docs).model.classInfo j = _ from
        Model.classInfo_modifyClass_of_ne hjk _]
      exact h.prepared d j hold

/-- A body writes neither what was prepared nor the title. -/
theorem Titled.write (h : Titled x l) (base : Option ClassId) (properties : List Property) :
    Titled x (l.writing k base properties) := by
  refine h.modifyClass (f := fun info => { info with base, properties }) (fun _ => ⟨rfl, rfl⟩) rfl
    rfl rfl fun c j hj => ?_
  have hsame : ((l.writing k base properties).model.classInfo j).constructors =
      (l.model.classInfo j).constructors ∧
        ((l.writing k base properties).model.classInfo j).doc = (l.model.classInfo j).doc := by
    unfold writing
    dsimp only
    rw [Model.classInfo_modifyClass]
    split <;> exact ⟨rfl, rfl⟩
  unfold Context.PreparedFor
  rw [hsame.1, hsame.2]
  exact h.prepared c j hj

/-- A conclusion gives a new class the abstractness of its component, and passes it on to a class
that is shared. -/
theorem isAbstract_conclusion {outcome : Option TypeRef}
    (conclusion : Conclusion x c l outcome l') (hk : k.index < l'.model.classes.size) :
    (l'.model.classInfo k).isAbstract = true ↔
      (outcome = some (.classRef k) ∧ x.schema.isAbstractType c = true) ∨
        (k.index < l.model.classes.size ∧ (l.model.classInfo k).isAbstract = true) := by
  cases conclusion with
  | declined | unbound =>
    have hk : k.index < l.model.classes.size := hk
    simp [hk, noting]
  | wrapped =>
    have hk : k.index < l.model.classes.size := hk
    simp only [Option.some.injEq, reduceCtorEq, false_and, false_or, hk, true_and]
    rfl
  -- a new class is as abstract as its component, and all others are as before
  | @fresh scope =>
    by_cases hold : k.index < l.model.classes.size
    · rw [classInfo_allocating_of_lt _ hold]
      have hne : ClassId.mk l.model.classes.size ≠ k := by
        rintro rfl
        exact lt_irrefl _ hold
      simp [hold, hne]
    · have hsize : k.index < (l.model.classes.push _).size := hk
      rw [Array.size_push] at hsize
      obtain rfl : k = ⟨l.model.classes.size⟩ :=
        congrArg ClassId.mk (Nat.le_antisymm (Nat.le_of_lt_succ hsize) (Nat.not_lt.1 hold))
      rw [classInfo_allocating_self]
      simp [Context.newClass]
  | @shared e j =>
    have hbefore : k.index < l.model.classes.size := by
      rwa [marking, Model.size_classes_modifyClass] at hk
    unfold marking
    dsimp only
    rw [Model.classInfo_modifyClass]
    -- abstractness is added to the shared class and never taken from it
    by_cases hkj : k = j
    · subst hkj
      rw [if_pos ⟨rfl, hbefore⟩]
      simp [hbefore, or_comm]
    · have hjk : j ≠ k := Ne.symm hkj
      rw [if_neg fun hself => hkj hself.1]
      simp [hbefore, hjk]

/-- A conclusion leaves the **titles of wrappers** alone. -/
theorem elementTitle_conclusion {outcome : Option TypeRef}
    (conclusion : Conclusion x c l outcome l') (w : ElementId) :
    (l'.model.elementInfo w).name = (l.model.elementInfo w).name ∧
      (l'.model.elementInfo w).ns = (l.model.elementInfo w).ns := by
  cases conclusion with
  | wrapped =>
    unfold filling
    dsimp only
    rw [Model.elementInfo_modifyElement]
    split <;> exact ⟨rfl, rfl⟩
  | declined | unbound | fresh | shared => exact ⟨rfl, rfl⟩

/-- Only the class that a conclusion gives is new, and it has the **name** for its component. -/
theorem name_of_fresh (hhoused : Housed l) {outcome : Option TypeRef}
    (conclusion : Conclusion x c l outcome l') (hk : k.index < l'.model.classes.size)
    (hfresh : ¬ k.index < l.model.classes.size) :
    outcome = some (.classRef k) ∧
      (l'.model.classInfo k).name = x.nameAfter (x.schema.namesake c) := by
  have houtcome := ((hhoused.conclusion conclusion k).1 hk).resolve_right fun hbound =>
    hfresh ((hhoused k).2 hbound)
  refine ⟨houtcome, ?_⟩
  subst houtcome
  cases conclusion with
  | fresh => rw [classInfo_allocating_self, Context.newClass]
  | shared _ _ bound => exact absurd ((hhoused k).2 ⟨_, bound⟩) hfresh

/-- A conclusion keeps the titles. -/
theorem Titled.conclude (h : Titled x l) (hl : Reachable x l) {rest : List ComponentId}
    {outcome : Option TypeRef} (top : l.proposing = c :: rest)
    (conclusion : Conclusion x c l outcome l') : Titled x (l'.concluded c rest outcome) := by
  have htarget := hl.inOrder.target?_conclusion top conclusion
  have hold {d : ComponentId} {target : TypeRef} (hd : l.target? d = some target) :
      (l'.concluded c rest outcome).target? d = some target :=
    hl.inOrder.target?_move (.conclude top conclusion) hd
  refine ⟨fun k hk => ?named, fun k hk => ?marked, fun d k hbegun => ?prepared,
    fun e w he => ?wrapped⟩
  case named =>
    rw [model_concluded] at hk ⊢
    by_cases hbefore : k.index < l.model.classes.size
    · obtain ⟨d, hd, hname⟩ := h.named k hbefore
      obtain ⟨hsame, -⟩ := ClassInfo.of_concrete (concrete_conclusion conclusion hbefore)
      exact ⟨d, hold hd, hsame.trans hname⟩
    · obtain ⟨houtcome, hname⟩ := name_of_fresh hl.housed conclusion hk hbefore
      exact ⟨c, by rw [htarget, if_pos rfl, houtcome], hname⟩
  case marked =>
    rw [model_concluded] at hk ⊢
    rw [isAbstract_conclusion conclusion hk]
    constructor
    · rintro (⟨houtcome, habstract⟩ | ⟨hbefore, habstract⟩)
      · exact ⟨c, by rw [htarget, if_pos rfl, houtcome], habstract⟩
      · obtain ⟨d, hd, habstract⟩ := (h.marked k hbefore).1 habstract
        exact ⟨d, hold hd, habstract⟩
    · rintro ⟨d, hd, habstract⟩
      rw [htarget] at hd
      split at hd
      · rename_i hdc
        exact .inl ⟨hd, hdc ▸ habstract⟩
      · have hbefore := (hl.housed k).2 ⟨d, hd⟩
        exact .inr ⟨hbefore, (h.marked k hbefore).2 ⟨d, hd, habstract⟩⟩
  case prepared =>
    rw [log_concluded, conclusion.log] at hbegun
    -- a class with a body was there before, and conclusions leave bodies alone
    have hk := hl.building.index_lt hl.housed (hl.building.of_begun hbegun).1
    rw [model_concluded]
    obtain ⟨-, -, -, hconstructors, hdoc, -⟩ :=
      ClassInfo.of_concrete (concrete_conclusion conclusion hk)
    unfold Context.PreparedFor
    rw [hconstructors, hdoc]
    exact h.prepared d k hbegun
  case wrapped =>
    rw [notes_concluded] at he
    rw [model_concluded]
    rcases lookup_conclusion hl.wrapped conclusion e with hsame | ⟨-, -, hnone, -⟩
    · obtain ⟨hname, hns⟩ := elementTitle_conclusion conclusion w
      rw [hname, hns]
      exact h.wrapped e w (hsame ▸ he)
    · rw [hnone] at he
      cases he

/-- A new wrapper has the name of its element. -/
theorem Titled.wrap (h : Titled x l) (hl : Reachable x l) (scope : Scope) :
    Titled x ((l.proposal c).wrapping (x.schema.component c) c scope) := by
  refine ⟨h.named, h.marked, h.prepared, fun e w he => ?_⟩
  have he : List.lookup e ((c, _) :: l.notes) = some (some (.wrapper w)) := he
  rw [lookup_noted] at he
  split at he
  · rename_i hec
    obtain rfl : ElementId.mk l.model.elements.size = w := by simpa [proposal] using he
    rw [hec]
    simp [wrapping, proposal, Model.newElement, Model.elementInfo, Array.getD_eq_getD_getElem?]
  · have hsame : ((l.proposal c).wrapping (x.schema.component c) c scope).model.elementInfo w =
        l.model.elementInfo w := Model.elementInfo_newElement_of_lt (hl.wrapped.index_lt he)
    rw [hsame]
    exact h.wrapped e w he

/-- Moves keep the titles. -/
theorem Titled.move (h : Titled x l) (hl : Reachable x l) (hmove : Move x l l') : Titled x l' := by
  cases hmove with
  | propose => exact h.of_model rfl rfl rfl fun _ _ hk => hk
  | wrap => exact h.wrap hl _
  | conclude top conclusion => exact h.conclude hl top conclusion
  | claim _ _ bound unbuilt _ documented =>
    exact h.claim hl ((hl.housed _).2 ⟨_, bound⟩) unbuilt documented
  | write => exact h.write _ _
  | finish =>
    exact h.of_model rfl rfl rfl fun _ _ hk => (List.mem_cons.1 hk).resolve_left (by simp)
  | skip => exact h.of_model rfl rfl rfl fun _ _ hk => hk

end Ledger

/-- Classes and wrappers have the **titles** of their components, in every reachable ledger. -/
theorem Reachable.titled (h : Reachable x l) : l.Titled x :=
  h.induct (Ledger.titled_start x) fun hl hmove ih => ih.move hl hmove

end SchemaBinding
