import SchemaBinding.Proofs.Moves.Registry

/-! # Allocated types along moves
Every class is the target of a binding as soon as it is allocated. Every wrapper is noted for one
element, which is bound to it or being proposed. -/

namespace SchemaBinding

namespace Ledger

variable {x : Context} {l l' : Ledger} {c d e : ComponentId}

/-! ## Classes -/

/-- The classes of a ledger are the targets of its bindings. -/
def Housed (l : Ledger) : Prop :=
  ∀ k : ClassId, k.index < l.model.classes.size ↔ ∃ c, l.target? c = some (.classRef k)

/-- There are no classes at the start. -/
theorem housed_start : Housed start := by
  intro k
  constructor
  · intro h
    simp [start] at h
  · rintro ⟨c, h⟩
    have hmem := Registry.mem_of_target? h
    simp [start] at hmem

/-- The targets after a conclusion are the earlier ones and the outcome. -/
theorem Bound.exists_target?_conclusion (h : Bound x l) {rest : List ComponentId}
    {outcome : Option TypeRef} (top : l.proposing = c :: rest)
    (conclusion : Conclusion x c l outcome l') (target : TypeRef) :
    (∃ d, (l'.concluded c rest outcome).target? d = some target) ↔
      outcome = some target ∨ ∃ d, l.target? d = some target := by
  have htarget := h.target?_conclusion top conclusion
  constructor
  · rintro ⟨d, hd⟩
    rw [htarget] at hd
    split at hd
    · exact .inl hd
    · exact .inr ⟨d, hd⟩
  · rintro (houtcome | ⟨d, hd⟩)
    · exact ⟨c, by rw [htarget, if_pos rfl, houtcome]⟩
    · refine ⟨d, ?_⟩
      -- a component that was bound is not the one that is concluded
      rw [htarget, if_neg]
      · exact hd
      · rintro rfl
        rw [h.target?_top top] at hd
        cases hd

/-- A conclusion gives a class when it allocates one, or one that is bound. -/
theorem Housed.conclusion (h : Housed l) {outcome : Option TypeRef}
    (conclusion : Conclusion x c l outcome l') (k : ClassId) :
    k.index < l'.model.classes.size ↔
      outcome = some (.classRef k) ∨ ∃ d, l.target? d = some (.classRef k) := by
  cases conclusion with
  | declined | unbound =>
    simp only [reduceCtorEq, false_or]
    exact h k
  | fresh =>
    -- the new class is the one after the last
    have hk := h k
    cases k with
    | mk index =>
      simp only [Option.some.injEq, TypeRef.classRef.injEq, ClassId.mk.injEq]
      show index < (l.model.classes.push _).size ↔ _ ∨ ∃ d, l.target? d = _
      rw [Array.size_push, ← hk]
      dsimp only
      omega
  | @shared e k' _ _ bound =>
    show k.index < (l.model.modifyClass _ _).classes.size ↔ _ ∨ ∃ d, l.target? d = _
    -- the class of the element was bound before
    rw [Model.size_classes_modifyClass, h k]
    constructor
    · exact .inr
    · rintro (hk | hk)
      · obtain rfl : k' = k := by simpa using hk
        exact ⟨e, bound⟩
      · exact hk
  | wrapped =>
    simp only [Option.some.injEq, reduceCtorEq, false_or]
    show k.index < (l.model.modifyElement _ _).classes.size ↔ _
    rw [Model.classes_modifyElement]
    exact h k

/-- Moves keep every class bound. -/
theorem Housed.move (h : Housed l) (hbound : l.Bound x) (hmove : Move x l l') : Housed l' := by
  cases hmove with
  | @conclude l' c rest outcome top conclusion =>
    intro k
    rw [hbound.exists_target?_conclusion top conclusion, model_concluded]
    exact h.conclusion conclusion k
  | claim | write =>
    intro k
    show k.index < (l.model.modifyClass _ _).classes.size ↔ _
    rw [Model.size_classes_modifyClass]
    exact h k
  | propose | wrap | finish | skip => exact h

/-! ## Wrappers -/

/-- What is known about an element once something is noted. -/
theorem lookup_noted (notes : List (ComponentId × Option TypeRef)) (e d : ComponentId)
    (type : Option TypeRef) :
    ((e, type) :: notes).lookup d = if d = e then some type else notes.lookup d := by
  rw [List.lookup_cons]
  by_cases h : d = e
  · simp [h]
  · rw [if_neg h, beq_eq_false_iff_ne.2 h]

/-- The **wrappers** of a ledger belong to one element each. -/
structure Wrapped (x : Context) (l : Ledger) : Prop where
  /-- A type is noted for a wrapped element that is bound to it, or being proposed. -/
  noted : ∀ e target, l.notes.lookup e = some (some target) → x.schema.isWrapped e = true ∧
    (l.target? e = some target ∨ e ∈ l.proposing) ∧
      ∃ w : ElementId, target = .wrapper w ∧ w.index < l.model.elements.size
  /-- Nothing is noted for other elements than local ones. -/
  unbindable : ∀ e, l.notes.lookup e = some none → x.schema.isBindable e = false
  anyType : l.notes.lookup SchemaSet.anyType = none
  proposed : ∀ e ∈ l.proposing, x.schema.isWrapped e = true →
    ∃ w, l.notes.lookup e = some (some (.wrapper w))
  bound : ∀ e w, l.target? e = some (.wrapper w) →
    l.notes.lookup e = some (some (.wrapper w))
  distinct : ∀ e d w, l.notes.lookup e = some (some (.wrapper w)) →
    l.notes.lookup d = some (some (.wrapper w)) → e = d
  every : ∀ w : ElementId, w.index < l.model.elements.size →
    ∃ e, l.notes.lookup e = some (some (.wrapper w))

/-- There are no wrappers at the start. -/
theorem wrapped_start (x : Context) : Wrapped x .start where
  noted _ _ h := by simp [start] at h
  unbindable _ h := by simp [start] at h
  anyType := rfl
  proposed _ h := by cases h
  bound e w h := by
    have hmem := Registry.mem_of_target? h
    simp [start] at hmem
  distinct _ _ _ h := by simp [start] at h
  every _ h := by simp [start] at h

/-- Every wrapper that is noted has been allocated. -/
theorem Wrapped.index_lt (h : Wrapped x l) {w : ElementId}
    (hnoted : l.notes.lookup e = some (some (.wrapper w))) :
    w.index < l.model.elements.size := by
  obtain ⟨-, -, v, hv, hlt⟩ := h.noted e _ hnoted
  obtain rfl : w = v := by simpa using hv
  exact hlt

/-- An element with a type noted for it is bound or being proposed, so no type is noted for one
that is **neither**. -/
theorem Wrapped.lookup_ne_of_idle (h : Wrapped x l) (hunbound : l.registry.find? c = none)
    (hidle : c ∉ l.proposing) (target : TypeRef) : l.notes.lookup c ≠ some (some target) := by
  intro hnoted
  rcases (h.noted c target hnoted).2.1 with hbound | hproposing
  · rw [target?, Registry.find?_eq_none_iff.1 hunbound] at hbound
    cases hbound
  · exact hidle hproposing

/-- A wrapper is noted for an element that had none. -/
theorem Wrapped.wrapping (h : Wrapped x l) (hanyType : c ≠ SchemaSet.anyType)
    (hunbound : l.registry.find? c = none) (hidle : c ∉ l.proposing)
    (hwrapped : x.schema.isWrapped c = true) (info : Component) (scope : Scope) :
    Wrapped x ((l.proposal c).wrapping info c scope) := by
  have hnew := h.lookup_ne_of_idle hunbound hidle
  have hlookup : ∀ e, ((l.proposal c).wrapping info c scope).notes.lookup e =
      if e = c then some (some (.wrapper ⟨l.model.elements.size⟩)) else l.notes.lookup e :=
    fun e => lookup_noted l.notes c e _
  have hsize : ((l.proposal c).wrapping info c scope).model.elements.size =
      l.model.elements.size + 1 := Model.size_elements_newElement _ _ _ _
  refine ⟨?noted, ?unbindable, ?anyType, ?proposed, ?bound, ?distinct, ?every⟩
  case noted =>
    intro e target he
    rw [hlookup] at he
    rw [hsize]
    split at he
    · rename_i hec
      subst hec
      obtain rfl : TypeRef.wrapper _ = target := by simpa using he
      exact ⟨hwrapped, .inr List.mem_cons_self, _, rfl, Nat.lt_succ_self _⟩
    · obtain ⟨hw, hstate, w, rfl, hlt⟩ := h.noted e target he
      exact ⟨hw, hstate.imp_right (.tail c), w, rfl, Nat.lt_succ_of_lt hlt⟩
  case unbindable =>
    intro e he
    rw [hlookup] at he
    split at he
    · cases he
    · exact h.unbindable e he
  case anyType =>
    rw [hlookup, if_neg hanyType.symm]
    exact h.anyType
  case proposed =>
    intro e he hw
    rw [hlookup]
    split
    · exact ⟨_, rfl⟩
    · rename_i hec
      exact h.proposed e ((List.mem_cons.1 he).resolve_left hec) hw
  case bound =>
    intro e w he
    rw [hlookup, if_neg]
    · exact h.bound e w he
    · rintro rfl
      exact hnew _ (h.bound e w he)
  case distinct =>
    intro e d w he hd
    rw [hlookup] at he hd
    split at he
    · -- two notes about the new wrapper are one, and the earlier ones are about others
      rename_i hec
      obtain rfl : ElementId.mk _ = w := by simpa using he
      split at hd
      · rename_i hdc
        rw [hec, hdc]
      · exact absurd (h.index_lt hd) (lt_irrefl _)
    · split at hd
      · obtain rfl : ElementId.mk _ = w := by simpa using hd
        exact absurd (h.index_lt he) (lt_irrefl _)
      · exact h.distinct e d w he hd
  case every =>
    intro w hw
    rw [hsize] at hw
    -- the last wrapper is the new one, and all others were noted before
    by_cases hlt : w.index < l.model.elements.size
    · obtain ⟨e, he⟩ := h.every w hlt
      refine ⟨e, ?_⟩
      rw [hlookup, if_neg]
      · exact he
      · rintro rfl
        exact hnew _ he
    · refine ⟨c, ?_⟩
      rw [hlookup, if_pos rfl]
      cases w
      simp only [Option.some.injEq, TypeRef.wrapper.injEq, ElementId.mk.injEq]
      dsimp only at hw hlt
      omega

/-- The universal type is never proposed. -/
theorem Bound.ne_anyType (h : Bound x l) (hunbound : l.registry.find? c = none) :
    c ≠ SchemaSet.anyType := by
  rintro rfl
  have hnone := Registry.find?_eq_none_iff.1 hunbound
  rw [show l.registry.target? SchemaSet.anyType = _ from h.anyType] at hnone
  cases hnone

/-- What a conclusion says about notes: only an element that is not bindable gets another one. -/
theorem lookup_conclusion (h : Wrapped x l) {outcome : Option TypeRef}
    (conclusion : Conclusion x c l outcome l') (e : ComponentId) :
    l'.notes.lookup e = l.notes.lookup e ∨
      (e = c ∧ x.schema.isBindable e = false ∧ l'.notes.lookup e = some none ∧
        ∀ target, l.notes.lookup e ≠ some (some target)) := by
  cases conclusion with
  | unbound unbindable =>
    by_cases hec : e = c
    · subst hec
      refine .inr ⟨rfl, unbindable, ?_, ?_⟩
      · exact (lookup_noted l.notes e e none).trans (if_pos rfl)
      · intro target hnoted
        have hbindable := SchemaSet.isBindable_of_isWrapped (h.noted e target hnoted).1
        rw [unbindable] at hbindable
        cases hbindable
    · exact .inl ((lookup_noted l.notes c e none).trans (if_neg hec))
  | declined | fresh | shared | wrapped => exact .inl rfl

/-- A conclusion allocates no wrapper; the one it fills was there. -/
theorem size_elements_conclusion {outcome : Option TypeRef}
    (conclusion : Conclusion x c l outcome l') :
    l'.model.elements.size = l.model.elements.size := by
  cases conclusion with
  | wrapped => exact Model.size_elements_modifyElement _ _ _
  | declined | unbound | fresh | shared => rfl

/-- A wrapper is the outcome for the element that it was noted for. -/
theorem outcome_of_isWrapped {outcome : Option TypeRef} (conclusion : Conclusion x c l outcome l')
    (hwrapped : x.schema.isWrapped c = true) :
    ∃ w, outcome = some (.wrapper w) ∧ l.notes.lookup c = some (some (.wrapper w)) := by
  have hbindable := SchemaSet.isBindable_of_isWrapped hwrapped
  cases conclusion with
  | declined unbindable | unbound unbindable =>
    rw [unbindable] at hbindable
    cases hbindable
  | fresh _ plain =>
    rw [plain] at hwrapped
    cases hwrapped
  | shared anonymous =>
    rw [SchemaSet.isWrapped_of_isComplexType anonymous] at hwrapped
    cases hwrapped
  | wrapped _ noted => exact ⟨_, rfl, noted⟩

/-- Only a wrapped element is given a wrapper. -/
theorem noted_of_outcome {w : ElementId}
    (conclusion : Conclusion x c l (some (.wrapper w)) l') :
    l.notes.lookup c = some (some (.wrapper w)) := by
  cases conclusion with
  | wrapped _ noted => exact noted

/-- A type that is noted after a conclusion was **noted before**. -/
theorem lookup_conclusion_iff (h : Wrapped x l) {outcome : Option TypeRef}
    (conclusion : Conclusion x c l outcome l') (e : ComponentId) (target : TypeRef) :
    l'.notes.lookup e = some (some target) ↔ l.notes.lookup e = some (some target) := by
  rcases lookup_conclusion h conclusion e with heq | ⟨-, -, hnone, hnot⟩
  · rw [heq]
  · rw [hnone]
    simpa using hnot target

/-- A conclusion registers the wrapper of its element, and no other notes are affected. -/
theorem Wrapped.conclude (h : Wrapped x l) (hbound : l.Bound x) {rest : List ComponentId}
    {outcome : Option TypeRef} (top : l.proposing = c :: rest)
    (conclusion : Conclusion x c l outcome l') : Wrapped x (l'.concluded c rest outcome) := by
  have htarget := hbound.target?_conclusion top conclusion
  have hnotes := lookup_conclusion_iff h conclusion
  refine ⟨?noted, ?unbindable, ?anyType, ?proposed, ?bound, ?distinct, ?every⟩
  case noted =>
    intro e target he
    rw [notes_concluded, hnotes] at he
    obtain ⟨hw, hstate, hlt⟩ := h.noted e target he
    rw [model_concluded, proposing_concluded, size_elements_conclusion conclusion, htarget]
    refine ⟨hw, ?_, hlt⟩
    by_cases hec : e = c
    · subst hec
      -- the outcome for a wrapped element is the wrapper that was noted for it
      obtain ⟨w, rfl, hnoted⟩ := outcome_of_isWrapped conclusion hw
      rw [he] at hnoted
      rw [if_pos rfl]
      exact .inl (by simpa using hnoted.symm)
    · rw [if_neg hec]
      refine hstate.imp_right fun hproposing => ?_
      rw [top] at hproposing
      exact (List.mem_cons.1 hproposing).resolve_left hec
  case unbindable =>
    intro e he
    rw [notes_concluded] at he
    rcases lookup_conclusion h conclusion e with heq | ⟨-, hunbindable, -⟩
    · exact h.unbindable e (heq ▸ he)
    · exact hunbindable
  case anyType =>
    rw [notes_concluded]
    rcases lookup_conclusion h conclusion SchemaSet.anyType with heq | ⟨heq, -⟩
    · exact heq.trans h.anyType
    · have hunbound := hbound.unbound c (by rw [top]; exact List.mem_cons_self)
      exact absurd heq.symm (hbound.ne_anyType hunbound)
  case proposed =>
    intro e he hw
    rw [proposing_concluded] at he
    obtain ⟨w, hnoted⟩ := h.proposed e (by rw [top]; exact .tail c he) hw
    exact ⟨w, by rw [notes_concluded, hnotes]; exact hnoted⟩
  case bound =>
    intro e w he
    rw [notes_concluded, hnotes]
    rw [htarget] at he
    split at he
    · rename_i hec
      subst hec he
      exact noted_of_outcome conclusion
    · exact h.bound e w he
  case distinct =>
    intro e d w he hd
    rw [notes_concluded, hnotes] at he hd
    exact h.distinct e d w he hd
  case every =>
    intro w hw
    rw [model_concluded, size_elements_conclusion conclusion] at hw
    obtain ⟨e, he⟩ := h.every w hw
    exact ⟨e, by rw [notes_concluded, hnotes]; exact he⟩

/-- Moves keep the wrappers in order. -/
theorem Wrapped.move (h : Wrapped x l) (hbound : l.Bound x) (hmove : Move x l l') :
    Wrapped x l' := by
  cases hmove with
  | @propose c asked unbound idle plain =>
    refine ⟨fun e target he => ?_, h.unbindable, h.anyType, fun e he hw => ?_, h.bound,
      h.distinct, h.every⟩
    · obtain ⟨hw, hstate, hrest⟩ := h.noted e target he
      exact ⟨hw, hstate.imp_right (.tail c), hrest⟩
    · refine h.proposed e ((List.mem_cons.1 he).resolve_left ?_) hw
      rintro rfl
      rw [plain] at hw
      cases hw
  | wrap asked unbound idle wrapped =>
    exact h.wrapping (hbound.ne_anyType unbound) unbound idle wrapped _ _
  | conclude top conclusion => exact h.conclude hbound top conclusion
  | claim | write | finish | skip =>
    exact ⟨h.noted, h.unbindable, h.anyType, h.proposed, h.bound, h.distinct, h.every⟩

/-- Registered wrappers are **filled** with the type of the values of their elements. -/
def Filled (x : Context) (l : Ledger) : Prop :=
  ∀ e w, l.target? e = some (.wrapper w) →
    (l.model.elementInfo w).content = (x.schema.contentSource e).type l.registry ∧
      ∀ d ∈ (x.schema.contentSource e).component?, x.Answered l d

/-- Only the wrapper that is the outcome changes with a conclusion. -/
theorem elementInfo_conclusion {outcome : Option TypeRef}
    (conclusion : Conclusion x c l outcome l') {w : ElementId} (h : outcome ≠ some (.wrapper w)) :
    l'.model.elementInfo w = l.model.elementInfo w := by
  cases conclusion with
  | @wrapped v _ noted _ =>
    refine (Model.elementInfo_modifyElement _ _ _ _).trans (if_neg ?_)
    rintro ⟨rfl, -⟩
    exact h rfl
  | declined | unbound | fresh | shared => rfl

/-- The outcome is filled by its conclusion. -/
theorem filled_of_outcome {w : ElementId} (conclusion : Conclusion x c l (some (.wrapper w)) l')
    (hw : w.index < l.model.elements.size) :
    (l'.model.elementInfo w).content = (x.schema.contentSource c).type l.registry ∧
      ∀ d ∈ (x.schema.contentSource c).component?, x.Answered l d := by
  cases conclusion with
  | wrapped _ _ answered =>
    refine ⟨?_, answered⟩
    unfold filling
    dsimp only
    rw [Model.elementInfo_modifyElement, if_pos ⟨rfl, hw⟩]

/-- Moves keep registered wrappers filled. -/
theorem Filled.move (h : Filled x l) (hl : Reachable x l) (hwrapped : l.Wrapped x)
    (hmove : Move x l l') : Filled x l' := by
  -- what an element's wrapper was filled with stays right as long as the wrapper stays
  have hkeep : ∀ e w, l.target? e = some (.wrapper w) →
      l'.model.elementInfo w = l.model.elementInfo w →
      (l'.model.elementInfo w).content = (x.schema.contentSource e).type l'.registry ∧
        ∀ d ∈ (x.schema.contentSource e).component?, x.Answered l' d := by
    intro e w he hinfo
    obtain ⟨hcontent, hanswered⟩ := h e w he
    refine ⟨?_, fun d hd => hl.answered_moves (.single hmove) (hanswered d hd)⟩
    rw [hinfo, hcontent, hl.type_moves (.single hmove) hanswered]
  cases hmove with
  | @conclude l' c rest outcome top conclusion =>
    intro e w he
    rw [hl.inOrder.target?_conclusion top conclusion] at he
    split at he
    · rename_i hec
      subst hec he
      -- the wrapper is filled by this very move
      have hmove' : Move x l (l'.concluded e rest (some (.wrapper w))) := .conclude top conclusion
      obtain ⟨hcontent, hanswered⟩ :=
        filled_of_outcome conclusion (hwrapped.index_lt (noted_of_outcome conclusion))
      refine ⟨?_, fun d hd => hl.answered_moves (.single hmove') (hanswered d hd)⟩
      rw [model_concluded, hcontent, hl.type_moves (.single hmove') hanswered]
    · rename_i hec
      -- no two elements have the same wrapper, so this one is left alone
      refine hkeep e w he ?_
      rw [model_concluded]
      refine elementInfo_conclusion conclusion ?_
      rintro rfl
      exact hec (hwrapped.distinct e c w (hwrapped.bound e w he) (noted_of_outcome conclusion))
  | wrap =>
    intro e w he
    exact hkeep e w he (Model.elementInfo_newElement_of_lt (hwrapped.index_lt
      (hwrapped.bound e w he)))
  | propose | claim | write | finish | skip => exact fun e w he => hkeep e w he rfl

end Ledger

namespace Reachable

variable {x : Context} {l l' : Ledger}

/-- Every class is **bound** as soon as it is allocated. -/
theorem housed (h : Reachable x l) : l.Housed :=
  h.induct Ledger.housed_start fun hl hmove ih => ih.move hl.inOrder hmove

/-- Every wrapper belongs to **one element**. -/
theorem wrapped (h : Reachable x l) : l.Wrapped x :=
  h.induct (Ledger.wrapped_start x) fun hl hmove ih => ih.move hl.inOrder hmove

/-- Registered wrappers are **filled**. -/
theorem filled (h : Reachable x l) : l.Filled x := by
  refine h.induct ?_ fun hl hmove ih => ih.move hl hl.wrapped hmove
  intro e w he
  have hmem := Registry.mem_of_target? he
  simp [Ledger.start] at hmem

variable {e : ComponentId} {w : ElementId}

/-- An element that is noted to have no type has none. -/
theorem target?_of_note (h : Reachable x l) (hnote : l.notes.lookup e = some none) :
    l.target? e = none ∧ x.schema.isBindable e = false := by
  have hunbindable := h.wrapped.unbindable e hnote
  refine ⟨?_, hunbindable⟩
  cases htarget : l.target? e with
  | none => rfl
  | some target =>
    rcases h.inOrder.bindable e target htarget with rfl | hbindable
    · rw [h.wrapped.anyType] at hnote
      cases hnote
    · rw [hunbindable] at hbindable
      cases hbindable

/-- A wrapper that is noted **stays noted**. -/
theorem lookup_moves (h : Reachable x l) (hmoves : Moves x l l')
    (he : l.notes.lookup e = some (some (.wrapper w))) :
    l'.notes.lookup e = some (some (.wrapper w)) := by
  induction hmoves with
  | refl => exact he
  | tail hmoves hmove ih =>
    have hwrapped := (h.moves hmoves).wrapped
    cases hmove with
    | @wrap c _ asked unbound idle =>
      refine (Ledger.lookup_noted _ c e _).trans ?_
      rw [if_neg]
      · exact ih
      · rintro rfl
        -- a wrapper is noted anew only for an element without a note
        exact hwrapped.lookup_ne_of_idle unbound idle _ ih
    | conclude top conclusion =>
      rw [Ledger.notes_concluded]
      rcases Ledger.lookup_conclusion hwrapped conclusion e with heq | ⟨-, -, -, hnot⟩
      · rw [heq]
        exact ih
      · exact absurd ih (hnot _)
    | propose | claim | write | finish | skip => exact ih

end Reachable

end SchemaBinding
