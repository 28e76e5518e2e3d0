import SchemaBinding.Proofs.Moves.Allocation

/-! # Bodies along moves
The bodies under construction form a chain, each of them extended by the one before. A body is begun
once for every class, and is finished or still under construction; a class that is bound and not
begun waits in the queue. -/

namespace SchemaBinding

namespace Ledger

variable {x : Context} {l l' : Ledger} {c d : ComponentId} {k : ClassId}

/-- The state of the body of a class that was begun for a component. -/
inductive Begun (l : Ledger) (c : ComponentId) (k : ClassId) : Prop where
  | active (active : c ∈ l.building) (marks : l.marks k = [.begun c k])
  | done (idle : c ∉ l.building) (marks : l.marks k = [.done c k, .begun c k])

/-- The bodies of a ledger are **in order**: each is begun once, and they wait, are under
construction or are finished. -/
structure Building (x : Context) (l : Ledger) : Prop where
  nodup : l.building.Nodup
  once : l.built.Nodup
  /-- Each body under construction is extended by the one before it. -/
  chain : l.building.IsChain fun later earlier => x.schema.extended? earlier = some later
  active : ∀ c ∈ l.building, ∃ k, l.target? c = some (.classRef k) ∧ Mark.begun c k ∈ l.log
  unmarked : ∀ k, k ∉ l.built → l.marks k = []
  marked : ∀ k ∈ l.built, ∃ c, l.target? c = some (.classRef k) ∧ l.Begun c k
  queued : ∀ b ∈ l.queue, l.target? b.component = some b.target
  waiting : ∀ c k, l.target? c = some (.classRef k) → ⟨c, .classRef k⟩ ∈ l.queue ∨ k ∈ l.built

/-- No body is begun at the start. -/
theorem building_start (x : Context) : Building x .start where
  nodup := List.nodup_nil
  once := List.nodup_nil
  chain := .nil
  active _ h := by cases h
  unmarked _ _ := rfl
  marked _ h := by cases h
  queued _ h := by cases h
  waiting c k h := by
    have hmem := Registry.mem_of_target? h
    simp [start] at hmem

/-- The marks about a class are the marks of the log that name it. -/
theorem mem_marks {mark : Mark} : mark ∈ l.marks k ↔ mark ∈ l.log ∧ mark.classId = k := by
  simp [marks]

/-- A new mark is one about its class. -/
theorem marks_cons {mark : Mark} (hlog : l'.log = mark :: l.log) (k : ClassId) :
    l'.marks k = if mark.classId = k then mark :: l.marks k else l.marks k := by
  unfold marks
  rw [hlog]
  by_cases hk : mark.classId = k
  · rw [List.filter_cons_of_pos (by simpa using hk), if_pos hk]
  · rw [List.filter_cons_of_neg (by simpa using hk), if_neg hk]

/-- A body that was begun is the **only one** of its class. -/
theorem Building.of_begun (h : Building x l) (hbegun : Mark.begun c k ∈ l.log) :
    k ∈ l.built ∧ l.target? c = some (.classRef k) ∧ l.Begun c k := by
  have hmark : Mark.begun c k ∈ l.marks k := mem_marks.2 ⟨hbegun, rfl⟩
  have hbuilt : k ∈ l.built := by
    by_contra hnot
    rw [h.unmarked k hnot] at hmark
    cases hmark
  -- all marks about a class are of one component
  obtain ⟨d, htarget, hd⟩ := h.marked k hbuilt
  obtain rfl : c = d := by
    cases hd with
    | active _ marks | done _ marks =>
      rw [marks] at hmark
      simpa using hmark
  exact ⟨hbuilt, htarget, hd⟩

/-- A body that is finished was begun, and its component is not under construction. -/
theorem Building.of_done (h : Building x l) (hdone : Mark.done c k ∈ l.log) :
    k ∈ l.built ∧ l.target? c = some (.classRef k) ∧ c ∉ l.building ∧
      l.marks k = [.done c k, .begun c k] := by
  have hmark : Mark.done c k ∈ l.marks k := mem_marks.2 ⟨hdone, rfl⟩
  have hbuilt : k ∈ l.built := by
    by_contra hnot
    rw [h.unmarked k hnot] at hmark
    cases hmark
  obtain ⟨d, htarget, hd⟩ := h.marked k hbuilt
  cases hd with
  | active _ marks =>
    rw [marks] at hmark
    simp at hmark
  | done idle marks =>
    rw [marks] at hmark
    obtain rfl : c = d := by simpa using hmark
    exact ⟨hbuilt, htarget, idle, marks⟩

/-- The class of the latest body is not finished. -/
theorem Building.marks_of_active (h : Building x l) (hbegun : Mark.begun c k ∈ l.log)
    (hactive : c ∈ l.building) : l.marks k = [.begun c k] := by
  obtain ⟨-, -, hc⟩ := h.of_begun hbegun
  cases hc with
  | active _ marks => exact marks
  | done idle => exact absurd hactive idle

/-- A body stays begun when the same components are under construction. -/
theorem Begun.congr (h : Begun l c k) (hmarks : l'.marks k = l.marks k)
    (hbuilding : c ∈ l'.building ↔ c ∈ l.building) : Begun l' c k := by
  cases h with
  | active active marks => exact .active (hbuilding.2 active) (hmarks.trans marks)
  | done idle marks => exact .done (fun hc => idle (hbuilding.1 hc)) (hmarks.trans marks)

/-- What is **queued** once a proposal is concluded: the binding of its outcome, unless that is
there without being built. -/
theorem mem_queue_concluded (l : Ledger) (c : ComponentId) (rest : List ComponentId)
    (outcome : Option TypeRef) (b : Binding) : b ∈ (l.concluded c rest outcome).queue ↔
      b ∈ l.queue ∨ ∃ target, outcome = some target ∧ target.isPrebuilt = false ∧
        b = ⟨c, target⟩ := by
  cases outcome with
  | none =>
    show b ∈ l.queue ↔ _
    simp
  | some target =>
    show b ∈ (if target.isPrebuilt then l.queue else ⟨c, target⟩ :: l.queue) ↔ _
    cases hprebuilt : target.isPrebuilt with
    | true => simp [hprebuilt]
    | false => simp [hprebuilt, or_comm]

/-- A conclusion puts the class that it binds into the queue. -/
theorem Building.conclude (h : Building x l) (hbound : l.Bound x) {rest : List ComponentId}
    {outcome : Option TypeRef} (top : l.proposing = c :: rest)
    (conclusion : Conclusion x c l outcome l') : Building x (l'.concluded c rest outcome) := by
  have htarget := hbound.target?_conclusion top conclusion
  have hold : ∀ d target, l.target? d = some target →
      (l'.concluded c rest outcome).target? d = some target :=
    fun d target hd => hbound.target?_move (.conclude top conclusion) hd
  -- a conclusion leaves bodies alone, and may add one binding to the queue
  have hlog : (l'.concluded c rest outcome).log = l.log := by
    rw [log_concluded, conclusion.log]
  have hbuilding : (l'.concluded c rest outcome).building = l.building := by
    rw [building_concluded, conclusion.building]
  have hbuilt : (l'.concluded c rest outcome).built = l.built := by
    rw [built_concluded, conclusion.built]
  have hmarks : ∀ k, (l'.concluded c rest outcome).marks k = l.marks k := by
    intro k
    unfold marks
    rw [hlog]
  have hqueue : ∀ b, b ∈ (l'.concluded c rest outcome).queue ↔
      b ∈ l.queue ∨ ∃ target, outcome = some target ∧ target.isPrebuilt = false ∧
        b = ⟨c, target⟩ := by
    intro b
    rw [mem_queue_concluded, conclusion.queue]
  refine ⟨?nodup, ?once, ?chain, ?active, ?unmarked, ?marked, ?queued, ?waiting⟩
  case nodup =>
    rw [hbuilding]
    exact h.nodup
  case once =>
    rw [hbuilt]
    exact h.once
  case chain =>
    rw [hbuilding]
    exact h.chain
  case active =>
    intro d hd
    rw [hbuilding] at hd
    obtain ⟨k, hk, hbegun⟩ := h.active d hd
    exact ⟨k, hold d _ hk, by rw [hlog]; exact hbegun⟩
  case unmarked =>
    intro k hk
    rw [hbuilt] at hk
    rw [hmarks]
    exact h.unmarked k hk
  case marked =>
    intro k hk
    rw [hbuilt] at hk
    obtain ⟨d, hd, hbegun⟩ := h.marked k hk
    exact ⟨d, hold d _ hd, hbegun.congr (hmarks k) (by rw [hbuilding])⟩
  case queued =>
    intro b hb
    rcases (hqueue b).1 hb with hb | ⟨target, rfl, -, rfl⟩
    · exact hold _ _ (h.queued b hb)
    · rw [htarget, if_pos rfl]
  case waiting =>
    intro d k hd
    rw [hbuilt, hqueue]
    rw [htarget] at hd
    split at hd
    · -- the class that is bound now is queued by the same move
      rename_i hdc
      exact .inl (.inr ⟨_, hd, rfl, by rw [hdc]⟩)
    · exact (h.waiting d k hd).imp_left .inl

/-- A body is begun once. -/
theorem Building.claim (h : Building x l) {docs : List String}
    (extended : ∀ a ∈ l.building.head?, x.schema.extended? a = some c)
    (bound : l.target? c = some (.classRef k)) (unbuilt : k ∉ l.built) (idle : c ∉ l.building) :
    Building x (x.claiming l c k docs) := by
  have hmarks : ∀ j, (x.claiming l c k docs).marks j =
      if k = j then .begun c k :: l.marks j else l.marks j :=
    marks_cons (show (x.claiming l c k docs).log = .begun c k :: l.log from rfl)
  refine ⟨List.nodup_cons.2 ⟨idle, h.nodup⟩, List.nodup_cons.2 ⟨unbuilt, h.once⟩,
    List.isChain_cons.2 ⟨extended, h.chain⟩, ?active, ?unmarked, ?marked, h.queued, ?waiting⟩
  case active =>
    intro d hd
    rcases List.mem_cons.1 hd with rfl | hd
    · exact ⟨k, bound, List.mem_cons_self⟩
    · obtain ⟨j, hj, hbegun⟩ := h.active d hd
      exact ⟨j, hj, .tail _ hbegun⟩
  case unmarked =>
    intro j hj
    obtain ⟨hjk, hj⟩ := not_or.1 fun hor => hj (List.mem_cons.2 hor)
    rw [hmarks, if_neg fun hkj => hjk hkj.symm]
    exact h.unmarked j hj
  case marked =>
    intro j hj
    by_cases hkj : k = j
    · subst hkj
      -- the class had no mark before it was claimed
      refine ⟨c, bound, .active List.mem_cons_self ?_⟩
      rw [hmarks, if_pos rfl, h.unmarked k unbuilt]
    · obtain ⟨d, hd, hbegun⟩ := h.marked j ((List.mem_cons.1 hj).resolve_left (Ne.symm hkj))
      refine ⟨d, hd, hbegun.congr ((hmarks j).trans (if_neg hkj)) ⟨fun hmem => ?_, .tail c⟩⟩
      -- the component is bound to the claimed class, so it began no other one
      refine (List.mem_cons.1 hmem).resolve_left ?_
      rintro rfl
      rw [bound] at hd
      exact hkj (by simpa using hd)
  case waiting =>
    intro d j hd
    exact (h.waiting d j hd).imp_right (.tail k)

/-- The latest body is finished. -/
theorem Building.finish (h : Building x l) {rest : List ComponentId}
    (top : l.building = c :: rest) (begun : Mark.begun c k ∈ l.log) :
    Building x { l with building := rest, log := .done c k :: l.log } := by
  have hactive : c ∈ l.building := by
    rw [top]
    exact List.mem_cons_self
  have hnodup := h.nodup
  have hchain := h.chain
  rw [top] at hnodup hchain
  obtain ⟨hidle, hnodup⟩ := List.nodup_cons.1 hnodup
  obtain ⟨hbuilt, hbound, -⟩ := h.of_begun begun
  have hmarks : ∀ j, ({ l with building := rest, log := .done c k :: l.log } : Ledger).marks j =
      if k = j then .done c k :: l.marks j else l.marks j :=
    marks_cons (show _ = Mark.done c k :: l.log from rfl)
  refine ⟨hnodup, h.once, (List.isChain_cons.1 hchain).2, ?active, ?unmarked, ?marked, h.queued,
    h.waiting⟩
  case active =>
    intro d hd
    obtain ⟨j, hj, hbegun⟩ := h.active d (by rw [top]; exact .tail c hd)
    exact ⟨j, hj, .tail _ hbegun⟩
  case unmarked =>
    intro j hj
    rw [hmarks, if_neg]
    · exact h.unmarked j hj
    · rintro rfl
      exact hj hbuilt
  case marked =>
    intro j hj
    by_cases hkj : k = j
    · subst hkj
      refine ⟨c, hbound, .done hidle ?_⟩
      rw [hmarks, if_pos rfl, h.marks_of_active begun hactive]
    · obtain ⟨d, hd, hbegun⟩ := h.marked j hj
      refine ⟨d, hd, hbegun.congr ((hmarks j).trans (if_neg hkj)) ?_⟩
      rw [top]
      -- the component that is finished began no other class
      refine ⟨.tail c, fun hmem => (List.mem_cons.1 hmem).resolve_left ?_⟩
      rintro rfl
      rw [show l.target? d = some (.classRef k) from hbound] at hd
      exact hkj (by simpa using hd)

/-- A binding of a class that was begun may leave the queue. -/
theorem Building.skip (h : Building x l) {b : Binding} {rest : List Binding}
    (queued : l.queue = b :: rest) (built : ∀ k, b.classId? = some k → k ∈ l.built) :
    Building x { l with queue := rest } := by
  refine ⟨h.nodup, h.once, h.chain, h.active, h.unmarked, ?marked, ?queued, ?waiting⟩
  case marked =>
    intro k hk
    obtain ⟨c, hc, hbegun⟩ := h.marked k hk
    exact ⟨c, hc, hbegun.congr rfl .rfl⟩
  case queued =>
    exact fun a ha => h.queued a (by rw [queued]; exact .tail b ha)
  case waiting =>
    intro c k hc
    rcases h.waiting c k hc with hmem | hbuilt
    · rw [queued] at hmem
      rcases List.mem_cons.1 hmem with rfl | hmem
      · exact .inr (built k rfl)
      · exact .inl hmem
    · exact .inr hbuilt

/-- Moves keep bodies in order. -/
theorem Building.move (h : Building x l) (hbound : l.Bound x) (hmove : Move x l l') :
    Building x l' := by
  cases hmove with
  | conclude top conclusion => exact h.conclude hbound top conclusion
  | claim _ extended bound unbuilt idle => exact h.claim extended bound unbuilt idle
  | finish _ top begun => exact h.finish top begun
  | skip queued built => exact h.skip queued built
  | propose | wrap | write =>
    refine ⟨h.nodup, h.once, h.chain, h.active, h.unmarked, ?_, h.queued, h.waiting⟩
    intro k hk
    obtain ⟨c, hc, hbegun⟩ := h.marked k hk
    exact ⟨c, hc, hbegun.congr rfl .rfl⟩

end Ledger

namespace Reachable

variable {x : Context} {l l' : Ledger}

/-- Every class is **begun once**, and waits until then. -/
theorem building (h : Reachable x l) : l.Building x :=
  h.induct (Ledger.building_start x) fun hl hmove ih => ih.move hl.inOrder hmove

end Reachable

end SchemaBinding
