import SchemaBinding.Proofs.Moves.Building

/-! # What bodies write
A class is blank until its body is begun. It is documented and its name is checked at the beginning;
what it extends and the properties it has are complete at the end, and stay as they are. -/

namespace SchemaBinding

namespace Context

variable {x : Context} {l l' : Ledger} {c : ComponentId} {k : ClassId}

/-- A class is **prepared** by documentation and a constructor alone. -/
theorem prepared_eq (x : Context) (c : ComponentId) (docs : List String) (info : ClassInfo) :
    ∃ constructors doc, x.prepared c docs info = { info with constructors, doc } := by
  have hvalue (hasValue : Bool) : ∃ constructors,
      (if hasValue then info.addConstructor ["value"] else info) = { info with constructors } := by
    cases hasValue with
    | true => exact info.addConstructor_eq ["value"]
    | false => exact ⟨info.constructors, rfl⟩
  unfold prepared
  dsimp only
  obtain ⟨constructors, hconstructors⟩ := hvalue _
  obtain ⟨doc, hdoc⟩ := ClassInfo.foldl_appendDoc docs _
  exact ⟨constructors, doc, hdoc.trans (by rw [hconstructors])⟩

/-- A constructor is no documentation. -/
theorem doc_prepared_nil (x : Context) (c : ComponentId) (info : ClassInfo) :
    (x.prepared c [] info).doc = info.doc := by
  have hvalue (hasValue : Bool) :
      (if hasValue then info.addConstructor ["value"] else info).doc = info.doc := by
    obtain ⟨constructors, hconstructors⟩ := info.addConstructor_eq ["value"]
    split
    · rw [hconstructors]
    · rfl
  exact hvalue _

/-- A blank class stays without a base and without properties when it is prepared. -/
theorem base_properties_prepared {info : ClassInfo} (hblank : info.Blank) (docs : List String) :
    (x.prepared c docs info).base = none ∧ (x.prepared c docs info).properties = [] := by
  obtain ⟨constructors, doc, hprepared⟩ := x.prepared_eq c docs info
  rw [hprepared]
  exact ⟨hblank.1, hblank.2.2.2⟩

/-- Documentation that has no end was **wanted**. -/
theorem documentation?_of_docs? {info : ClassInfo} (h : x.docs? c info = none) :
    x.schema.documentation? c = none := by
  unfold docs? at h
  split at h
  · exact h
  · cases h

/-- A blank class is documented when it is prepared, if documentation is wanted. -/
theorem isSome_doc_prepared {docs : List String} {info : ClassInfo} (hblank : info.Blank)
    (hdocs : x.docs? c info = some docs) :
    (x.prepared c docs info).doc.isSome = x.config.generateDocs := by
  have hempty : docs.isEmpty = !x.config.generateDocs := by
    unfold docs? at hdocs
    rw [hblank.2.2.1] at hdocs
    cases hgenerate : x.config.generateDocs with
    | true =>
      simp only [hgenerate, Option.isNone_none, Bool.and_self, if_true] at hdocs
      obtain ⟨fragment, -, rfl⟩ := Option.map_eq_some_iff.1 hdocs
      simp
    | false =>
      simp only [hgenerate, Bool.false_and, Bool.false_eq_true, if_false,
        Option.some.injEq] at hdocs
      rw [← hdocs]
      rfl
  have hdoc : (x.prepared c [] info).doc = none := (x.doc_prepared_nil c info).trans hblank.2.2.1
  have hfold : x.prepared c docs info = docs.foldl ClassInfo.appendDoc (x.prepared c [] info) := rfl
  rw [hfold, ClassInfo.isSome_doc_foldl_appendDoc, hempty, Bool.not_not, hdoc]
  rfl

/-- The properties for items **settle** once the components that their types are of are answered. -/
theorem filterMap_property?_moves (h : Reachable x l) (hmoves : Moves x l l') {items : List Item}
    (hanswered : ∀ item ∈ items, ∀ d ∈ (x.schema.itemSource item).component?, x.Answered l d) :
    items.filterMap (x.property? l'.registry) = items.filterMap (x.property? l.registry) := by
  refine List.filterMap_congr fun item hitem => ?_
  unfold property?
  rw [h.type_moves hmoves (hanswered item hitem)]

/-- What the schema prescribes for a body **settles** once all that it refers to is answered. -/
theorem bodyProperties?_moves (h : Reachable x l) (hmoves : Moves x l l')
    (hanswered : ∀ d ∈ x.referenced c, x.Answered l d) :
    x.bodyProperties? l'.registry c = x.bodyProperties? l.registry c := by
  unfold bodyProperties?
  cases hitems : x.schema.items? c with
  | none => rfl
  | some items =>
    rw [Option.map_some, filterMap_property?_moves h hmoves]
    · rfl
    · intro item hitem d hd
      refine hanswered d (List.mem_append_left _ (List.mem_filterMap.2 ⟨item, ?_, hd⟩))
      rw [hitems]
      exact hitem

/-- The base for a component is settled once its references are answered: moves do not change it any
more. -/
theorem base?_moves (h : Reachable x l) (hmoves : Moves x l l')
    (hanswered : ∀ d ∈ x.referenced c, x.Answered l d) :
    x.base? l'.registry c = x.base? l.registry c := by
  unfold base?
  cases hextended : x.schema.extended? c with
  | none => rfl
  | some b =>
    have hb : x.Answered l b := by
      refine hanswered b (List.mem_append_right _ ?_)
      rw [hextended]
      exact List.mem_singleton_self b
    have htarget : l'.registry.target? b = l.registry.target? b := h.target?_answered hmoves hb
    simp only [Option.bind_some, htarget]

/-- A complete class **stays complete** when its base and its properties stay. -/
theorem Complete.moves (hcomplete : x.Complete l c k) (h : Reachable x l) (hmoves : Moves x l l')
    (hbase : (l'.model.classInfo k).base = (l.model.classInfo k).base)
    (hproperties : (l'.model.classInfo k).properties = (l.model.classInfo k).properties) :
    x.Complete l' c k where
  properties := by
    rw [bodyProperties?_moves h hmoves hcomplete.answered, hcomplete.properties, hproperties]
  base := by rw [base?_moves h hmoves hcomplete.answered, hbase, hcomplete.base]
  answered d hd := h.answered_moves hmoves (hcomplete.answered d hd)

end Context

namespace Ledger

variable {x : Context} {l l' : Ledger} {c : ComponentId} {k : ClassId}

/-- The classes before a new one are as they were. -/
theorem classInfo_allocating_of_lt (info : ClassInfo) (hk : k.index < l.model.classes.size) :
    (l.allocating info).model.classInfo k = l.model.classInfo k := by
  unfold allocating Model.classInfo
  simp only [Array.getD_eq_getD_getElem?, Array.getElem?_push]
  rw [if_neg (by omega)]

/-- The new class is as it was allocated. -/
theorem classInfo_allocating_self (info : ClassInfo) :
    (l.allocating info).model.classInfo ⟨l.model.classes.size⟩ = info := by
  simp [allocating, Model.classInfo, Array.getD_eq_getD_getElem?]

/-- A conclusion leaves the classes there are alone, but for their abstractness. -/
theorem concrete_conclusion {outcome : Option TypeRef}
    (conclusion : Conclusion x c l outcome l') (hk : k.index < l.model.classes.size) :
    (l'.model.classInfo k).concrete = (l.model.classInfo k).concrete := by
  cases conclusion with
  | fresh => rw [classInfo_allocating_of_lt _ hk]
  | shared =>
    unfold marking
    dsimp only
    rw [Model.classInfo_modifyClass]
    split <;> rfl
  | declined | unbound | wrapped => rfl

/-- A class that a conclusion allocates is blank. -/
theorem blank_conclusion {outcome : Option TypeRef} (conclusion : Conclusion x c l outcome l')
    (hk : k.index < l'.model.classes.size) (hnew : ¬ k.index < l.model.classes.size) :
    (l'.model.classInfo k).Blank := by
  cases conclusion with
  | @fresh scope =>
    have hsize : k.index < (l.model.classes.push _).size := hk
    rw [Array.size_push] at hsize
    -- only the class that was allocated is new
    obtain rfl : k = ⟨l.model.classes.size⟩ := by
      cases k
      simp only [ClassId.mk.injEq]
      dsimp only at hnew hsize
      omega
    rw [classInfo_allocating_self]
    exact ⟨rfl, rfl, rfl, rfl⟩
  | @shared e d =>
    have hsize : k.index < (l.model.modifyClass d _).classes.size := hk
    rw [Model.size_classes_modifyClass] at hsize
    exact absurd hsize hnew
  | wrapped =>
    have hsize : k.index < (l.model.modifyElement _ _).classes.size := hk
    rw [Model.classes_modifyElement] at hsize
    exact absurd hsize hnew
  | declined | unbound => exact absurd hk hnew

/-- The classes of a ledger are **written** by their bodies alone. -/
structure Written (x : Context) (l : Ledger) : Prop where
  blank : ∀ k : ClassId, k.index < l.model.classes.size → k ∉ l.built →
    (l.model.classInfo k).Blank
  documented : ∀ k ∈ l.built, (l.model.classInfo k).doc.isSome = x.config.generateDocs
  /-- Every class with a reserved name is reported once. -/
  reserved : l.reserved =
    l.built.countP fun k => x.config.isReservedClassName (l.model.classInfo k).name
  complete : ∀ c k, Mark.done c k ∈ l.log → x.Complete l c k

/-- No class is written at the start. -/
theorem written_start (x : Context) : Written x .start where
  blank k hk := by simp [start] at hk
  documented _ h := by cases h
  reserved := rfl
  complete _ _ h := by cases h

/-- A class that was begun exists. -/
theorem Building.index_lt (h : Building x l) (hhoused : l.Housed) (hk : k ∈ l.built) :
    k.index < l.model.classes.size := by
  obtain ⟨c, hc, -⟩ := h.marked k hk
  exact (hhoused k).2 ⟨c, hc⟩

/-- A move that leaves the classes that were begun alone keeps what bodies have written. -/
theorem Written.of_concrete (h : Written x l) (hl : Reachable x l) (hmove : Move x l l')
    (hbuilt : l'.built = l.built) (hreserved : l'.reserved = l.reserved) (hlog : l'.log = l.log)
    (hconcrete : ∀ k ∈ l.built,
      (l'.model.classInfo k).concrete = (l.model.classInfo k).concrete)
    (hblank : ∀ k : ClassId, k.index < l'.model.classes.size → k ∉ l.built →
      (l'.model.classInfo k).Blank) : Written x l' where
  blank k hk hnot := hblank k hk (hbuilt ▸ hnot)
  documented k hk := by
    rw [hbuilt] at hk
    obtain ⟨-, -, -, -, hdoc, -⟩ := ClassInfo.of_concrete (hconcrete k hk)
    rw [hdoc]
    exact h.documented k hk
  reserved := by
    rw [hbuilt, hreserved, h.reserved]
    refine List.countP_congr fun k hk => ?_
    obtain ⟨hname, -⟩ := ClassInfo.of_concrete (hconcrete k hk)
    rw [hname]
  complete c k hdone := by
    rw [hlog] at hdone
    obtain ⟨-, -, hbase, -, -, hproperties⟩ :=
      ClassInfo.of_concrete (hconcrete k (hl.building.of_done hdone).1)
    exact (h.complete c k hdone).moves hl (.single hmove) hbase hproperties

/-- A body is begun on a blank class. -/
theorem Written.claim (h : Written x l) (hl : Reachable x l) {docs : List String}
    (hmove : Move x l (x.claiming l c k docs)) (hk : k.index < l.model.classes.size)
    (unbuilt : k ∉ l.built) (documented : x.docs? c (l.model.classInfo k) = some docs) :
    Written x (x.claiming l c k docs) := by
  have hself : (x.claiming l c k docs).model.classInfo k =
      x.prepared c docs (l.model.classInfo k) := Model.classInfo_modifyClass_self hk _
  have hother : ∀ j, j ≠ k →
      (x.claiming l c k docs).model.classInfo j = l.model.classInfo j :=
    fun j hj => Model.classInfo_modifyClass_of_ne hj _
  have hbuilt : ∀ j ∈ l.built, j ≠ k := by
    rintro j hj rfl
    exact unbuilt hj
  have hname : ∀ j, ((x.claiming l c k docs).model.classInfo j).name =
      (l.model.classInfo j).name := by
    intro j
    by_cases hjk : j = k
    · subst hjk
      obtain ⟨constructors, doc, hprepared⟩ := x.prepared_eq c docs (l.model.classInfo j)
      rw [hself, hprepared]
    · rw [hother j hjk]
  refine ⟨?blank, ?documented, ?reserved, ?complete⟩
  case blank =>
    intro j hj hnot
    have hsize : j.index < (l.model.modifyClass k _).classes.size := hj
    rw [Model.size_classes_modifyClass] at hsize
    -- what is not begun after the move was not begun before
    obtain ⟨hjk, hnot⟩ := not_or.1 fun hor => hnot (List.mem_cons.2 hor)
    rw [hother j hjk]
    exact h.blank j hsize hnot
  case documented =>
    intro j hj
    rcases List.mem_cons.1 hj with rfl | hj
    · rw [hself]
      exact Context.isSome_doc_prepared (h.blank j hk unbuilt) documented
    · rw [hother j (hbuilt j hj)]
      exact h.documented j hj
  case reserved =>
    show l.reserved + _ = (k :: l.built).countP _
    rw [List.countP_cons, h.reserved]
    simp only [hname]
  case complete =>
    intro d j hdone
    -- the new mark is that of a beginning, so the class was finished before
    have hdone : Mark.done d j ∈ l.log := (List.mem_cons.1 hdone).resolve_left (by simp)
    have hj := hother j (hbuilt j (hl.building.of_done hdone).1)
    exact (h.complete d j hdone).moves hl (.single hmove) (by rw [hj]) (by rw [hj])

/-- The latest body writes to a class that is not finished. -/
theorem Written.write (h : Written x l) (hl : Reachable x l) {base : Option ClassId}
    {properties : List Property} (hmove : Move x l (l.writing k base properties))
    (hactive : c ∈ l.building) (begun : Mark.begun c k ∈ l.log) :
    Written x (l.writing k base properties) := by
  have hother : ∀ j, j ≠ k → (l.writing k base properties).model.classInfo j =
      l.model.classInfo j := fun j hj => Model.classInfo_modifyClass_of_ne hj _
  have hfields : ∀ j, ((l.writing k base properties).model.classInfo j).name =
      (l.model.classInfo j).name ∧
      ((l.writing k base properties).model.classInfo j).doc = (l.model.classInfo j).doc := by
    intro j
    unfold writing
    dsimp only
    rw [Model.classInfo_modifyClass]
    split <;> exact ⟨rfl, rfl⟩
  refine ⟨?blank, ?documented, ?reserved, ?complete⟩
  case blank =>
    intro j hj hnot
    have hsize : j.index < (l.model.modifyClass k _).classes.size := hj
    rw [Model.size_classes_modifyClass] at hsize
    rw [hother j]
    · exact h.blank j hsize hnot
    · rintro rfl
      exact hnot (hl.building.of_begun begun).1
  case documented =>
    intro j hj
    rw [(hfields j).2]
    exact h.documented j hj
  case reserved =>
    show l.reserved = l.built.countP _
    rw [h.reserved]
    simp only [(hfields _).1]
  case complete =>
    intro d j hdone
    -- a finished class has two marks, and one that is written to has only one
    have hj : j ≠ k := by
      rintro rfl
      have hmarks := hl.building.marks_of_active begun hactive
      rw [(hl.building.of_done hdone).2.2.2] at hmarks
      simp at hmarks
    exact (h.complete d j hdone).moves hl (.single hmove) (by rw [hother j hj])
      (by rw [hother j hj])

/-- Moves keep what bodies have written. -/
theorem Written.move (h : Written x l) (hl : Reachable x l) (hmove : Move x l l') :
    Written x l' := by
  have hrange : ∀ k ∈ l.built, k.index < l.model.classes.size :=
    fun k hk => hl.building.index_lt hl.housed hk
  cases hmove with
  | @conclude l' c rest outcome top conclusion =>
    refine h.of_concrete hl (.conclude top conclusion) ?_ ?_ ?_ ?_ ?_
    · rw [built_concluded, conclusion.built]
    · rw [reserved_concluded, conclusion.reserved]
    · rw [log_concluded, conclusion.log]
    · intro k hk
      rw [model_concluded]
      exact concrete_conclusion conclusion (hrange k hk)
    · intro k hk hnot
      rw [model_concluded] at hk ⊢
      -- a class that the conclusion allocates is blank, and it blanks no other
      by_cases hold : k.index < l.model.classes.size
      · obtain ⟨-, -, hbase, hconstructors, hdoc, hproperties⟩ :=
          ClassInfo.of_concrete (concrete_conclusion conclusion hold)
        unfold ClassInfo.Blank
        rw [hbase, hconstructors, hdoc, hproperties]
        exact h.blank k hold hnot
      · exact blank_conclusion conclusion hk hold
  | claim alone extended bound unbuilt idle documented =>
    exact h.claim hl (.claim alone extended bound unbuilt idle documented)
      ((hl.housed _).2 ⟨_, bound⟩) unbuilt documented
  | write alone top begun =>
    exact h.write hl (.write alone top begun) (by rw [top]; exact List.mem_cons_self) begun
  | finish _ _ _ complete =>
    refine ⟨h.blank, h.documented, h.reserved, ?_⟩
    intro d j hdone
    rcases List.mem_cons.1 hdone with heq | hdone
    · obtain ⟨rfl, rfl⟩ : d = _ ∧ j = _ := by simpa using heq
      -- the body is finished with a class that is complete
      exact ⟨complete.properties, complete.base, complete.answered⟩
    · have hd := h.complete d j hdone
      exact ⟨hd.properties, hd.base, hd.answered⟩
  | propose asked unbound idle plain =>
    exact h.of_concrete hl (.propose asked unbound idle plain) rfl rfl rfl (fun _ _ => rfl) h.blank
  | wrap asked unbound idle wrapped =>
    exact h.of_concrete hl (.wrap asked unbound idle wrapped) rfl rfl rfl (fun _ _ => rfl) h.blank
  | skip queued built =>
    exact h.of_concrete hl (.skip queued built) rfl rfl rfl (fun _ _ => rfl) h.blank

end Ledger

/-- Classes are **written** by their bodies alone, in every reachable ledger. -/
theorem Reachable.written {x : Context} {l : Ledger} (h : Reachable x l) : l.Written x :=
  h.induct (Ledger.written_start x) fun hl hmove ih => ih.move hl hmove

end SchemaBinding
