import SchemaBinding.Proofs.Moves.Content

/-! # Inheritance along moves
A class is shared only with the anonymous type of an element. While that does not tie a chain of
bases into a knot, every finished class is grounded: its bases end, and all of them are finished. -/

namespace SchemaBinding

/-! ## Chains of bases -/

namespace Model

variable (m : Model)

/-- The class so many bases above another. -/
def ancestor? (k : ClassId) : Nat → Option ClassId
  | 0 => some k
  | n + 1 => (m.classInfo k).base.bind fun b => ancestor? b n

/-- Whether one class is the base of another. -/
def IsBase (k b : ClassId) : Prop := (m.classInfo k).base = some b

variable {m}

/-- Only the classes of a model matter to ancestors. -/
theorem ancestor?_congr {m' : Model} (h : m'.classes = m.classes) (k : ClassId) (n : Nat) :
    m'.ancestor? k n = m.ancestor? k n := by
  induction n generalizing k with
  | zero => rfl
  | succ n ih =>
    unfold ancestor?
    rw [classInfo_congr h]
    exact congrArg _ (funext fun b => ih b)

/-- A class above itself has an ancestor at every height. -/
theorem ancestor?_ne_none {k : ClassId} (h : Relation.TransGen m.IsBase k k) (n : Nat) :
    m.ancestor? k n ≠ none := by
  induction n generalizing k with
  | zero => simp [ancestor?]
  | succ n ih =>
    obtain ⟨b, hb, hrest⟩ := Relation.TransGen.head'_iff.1 h
    have hknot : Relation.TransGen m.IsBase b b := .tail' hrest hb
    unfold ancestor?
    rw [show (m.classInfo k).base = some b from hb]
    exact ih hknot

end Model

namespace Ledger

variable {x : Context} {l l' : Ledger} {a b c d : ComponentId} {k : ClassId}

/-! ## Shared classes -/

/-- A class is **shared** with an anonymous complex type of an element that has the class. -/
def Shared (x : Context) (l : Ledger) : Prop :=
  ∀ a b k, l.target? a = some (.classRef k) → l.target? b = some (.classRef k) → a ≠ b →
    ∃ d e, (d = a ∨ d = b) ∧ (x.schema.component d).isComplexType = true ∧
      x.schema.asked? d = some e ∧ l.target? e = some (.classRef k)

/-- A conclusion binds to a new class, or to that of the element that was asked. -/
theorem shared_of_outcome (hhoused : l.Housed)
    (conclusion : Conclusion x c l (some (.classRef k)) l')
    (ha : l.target? a = some (.classRef k)) :
    ∃ e, (x.schema.component c).isComplexType = true ∧ x.schema.asked? c = some e ∧
      l.target? e = some (.classRef k) := by
  cases conclusion with
  | fresh => exact absurd ((hhoused _).2 ⟨a, ha⟩) (lt_irrefl _)
  | shared anonymous asked bound => exact ⟨_, anonymous, asked, bound⟩

/-- A class that is shared with an anonymous type stays shared. -/
theorem Shared.move (h : Shared x l) (hl : Reachable x l) (hmove : Move x l l') :
    Shared x l' := by
  cases hmove with
  | @conclude l' c rest outcome top conclusion =>
    have htarget := hl.inOrder.target?_conclusion top conclusion
    have hold : ∀ d target, l.target? d = some target →
        (l'.concluded c rest outcome).target? d = some target :=
      fun d target hd => hl.inOrder.target?_move (.conclude top conclusion) hd
    intro a b k ha hb hne
    rw [htarget] at ha hb
    -- if one of the two is bound by this move, it is the anonymous type of an element
    split at ha
    · rename_i hac
      subst hac ha
      rw [if_neg hne.symm] at hb
      obtain ⟨e, hcomplex, hasked, he⟩ := shared_of_outcome hl.housed conclusion hb
      exact ⟨a, e, .inl rfl, hcomplex, hasked, hold e _ he⟩
    · split at hb
      · rename_i hbc
        subst hbc hb
        obtain ⟨e, hcomplex, hasked, he⟩ := shared_of_outcome hl.housed conclusion ha
        exact ⟨b, e, .inr rfl, hcomplex, hasked, hold e _ he⟩
      · obtain ⟨d, e, hd, hcomplex, hasked, he⟩ := h a b k ha hb hne
        exact ⟨d, e, hd, hcomplex, hasked, hold e _ he⟩
  | propose | wrap | claim | write | finish | skip => exact h

/-! ## Grounded classes -/

/-- A class is **grounded** when it is finished, and so are all its bases, which come to an end. -/
inductive Grounded (l : Ledger) : ClassId → Prop
  | intro {c : ComponentId} {k : ClassId} (done : Mark.done c k ∈ l.log)
      (base : ∀ b, (l.model.classInfo k).base = some b → Grounded l b) : Grounded l k

/-- The bases of a grounded class come to an end. -/
theorem Grounded.exists_ancestor? (h : Grounded l k) : ∃ n, l.model.ancestor? k n = none := by
  induction h with
  | @intro c k done base ih =>
    cases hbase : (l.model.classInfo k).base with
    | none => exact ⟨1, by simp [Model.ancestor?, hbase]⟩
    | some b =>
      obtain ⟨n, hn⟩ := ih b hbase
      exact ⟨n + 1, by simp [Model.ancestor?, hbase, hn]⟩

/-- A component that builds a class **extends** another one. -/
def Extends (x : Context) (l : Ledger) (c b : ComponentId) : Prop :=
  (∃ k, Mark.begun c k ∈ l.log) ∧ x.schema.extended? c = some b

/-- A **knot**: a chain of extensions comes back to the class that it started from, but under the
name of another component. -/
def Knotted (x : Context) (l : Ledger) : Prop :=
  ∃ c b k, Mark.begun c k ∈ l.log ∧ Relation.TransGen (Extends x l) c b ∧ b ≠ c ∧
    l.target? b = some (.classRef k)

/-- Moves forget no mark. -/
theorem log_subset_move (hmove : Move x l l') : l.log ⊆ l'.log := by
  cases hmove with
  | conclude top conclusion =>
    rw [log_concluded, conclusion.log]
    exact List.Subset.refl _
  | claim | finish => exact List.subset_cons_self _ _
  | propose | wrap | write | skip => exact List.Subset.refl _

/-- A knot cannot be undone. -/
theorem Knotted.move (h : Knotted x l) (hl : Reachable x l) (hmove : Move x l l') :
    Knotted x l' := by
  obtain ⟨c, b, k, hbegun, hchain, hne, htarget⟩ := h
  have hlog := log_subset_move hmove
  refine ⟨c, b, k, hlog hbegun, ?_, hne, hl.inOrder.target?_move hmove htarget⟩
  refine Relation.TransGen.mono (fun _ _ hstep => ?_) _ _ hchain
  obtain ⟨⟨j, hj⟩, hextended⟩ := hstep
  exact ⟨⟨j, hlog hj⟩, hextended⟩

/-- A grounded class stays grounded. -/
theorem Grounded.move (h : Grounded l k) (hl : Reachable x l) (hmove : Move x l l') :
    Grounded l' k := by
  induction h with
  | @intro c k done base ih =>
    have hdone := log_subset_move hmove done
    -- a finished class is complete before and after, with all that it refers to answered
    have hbefore := hl.written.complete c k done
    have hafter := (hl.move hmove).written.complete c k hdone
    have hbase : (l'.model.classInfo k).base = (l.model.classInfo k).base := by
      rw [hafter.base, hbefore.base]
      exact Context.base?_moves hl (.single hmove) hbefore.answered
    exact .intro hdone fun b hb => ih b (hbase ▸ hb)

/-- Each body under construction leads to the latest one along extensions. -/
theorem Building.reaches (h : Building x l) {rest : List ComponentId}
    (top : l.building = c :: rest) (hd : d ∈ l.building) :
    Relation.ReflTransGen (Extends x l) d c := by
  have hbegun : ∀ e ∈ c :: rest, ∃ k, Mark.begun e k ∈ l.log := by
    intro e he
    obtain ⟨k, -, hk⟩ := h.active e (by rw [top]; exact he)
    exact ⟨k, hk⟩
  have hchain := h.chain
  rw [top] at hchain hd
  clear top
  -- from the latest body outwards, along the chain
  induction rest generalizing c with
  | nil =>
    obtain rfl := List.mem_singleton.1 hd
    exact .refl
  | cons e rest ih =>
    obtain ⟨hextended, hchain⟩ := List.isChain_cons.1 hchain
    rcases List.mem_cons.1 hd with rfl | hd
    · exact .refl
    · have hreach := ih hd (fun f hf => hbegun f (.tail c hf)) hchain
      exact hreach.tail ⟨hbegun e (.tail c List.mem_cons_self), hextended e rfl⟩

/-- Every finished class is grounded, or there is a knot. -/
def Grounding (x : Context) (l : Ledger) : Prop :=
  ∀ c k, Mark.done c k ∈ l.log → Grounded l k ∨ Knotted x l

/-- What the latest body extends is grounded when it is finished, unless there is a knot: it is
finished as well, or under construction for another component. -/
theorem Grounding.base (h : Grounding x l) (hl : Reachable x l) {rest : List ComponentId}
    (top : l.building = c :: rest) (begun : Mark.begun c k ∈ l.log) (complete : x.Complete l c k)
    (extended : ∀ b ∈ x.schema.extended? c, b ∉ l.building ∧
      ∀ d, l.target? b = some (.classRef d) → d ∈ l.built)
    {b : ClassId} (hb : (l.model.classInfo k).base = some b) : Grounded l b ∨ Knotted x l := by
  rw [complete.base] at hb
  obtain ⟨e, he, hb⟩ := Option.bind_eq_some_iff.1 hb
  obtain ⟨target, htarget, hclass⟩ := Option.bind_eq_some_iff.1 hb
  obtain rfl := TypeRef.eq_classRef hclass
  obtain ⟨hidle, hbuilt⟩ := extended e he
  obtain ⟨d, hd, hbegun⟩ := hl.building.marked b (hbuilt b htarget)
  cases hbegun with
  | done _ marks =>
    have hmark : Mark.done d b ∈ l.marks b := by
      rw [marks]
      exact List.mem_cons_self
    exact h d b (mem_marks.1 hmark).1
  | active active marks =>
    -- extensions lead from `d` to `c` and on to `e`, which has the class of `d`
    have hmark : Mark.begun d b ∈ l.log := (mem_marks.1 (marks ▸ List.mem_singleton_self _)).1
    refine .inr ⟨d, e, b, hmark, ?_, ?_, htarget⟩
    · exact .tail' (hl.building.reaches top active) ⟨⟨k, begun⟩, he⟩
    · rintro rfl
      exact hidle active

/-- Moves keep finished classes grounded. -/
theorem Grounding.move (h : Grounding x l) (hl : Reachable x l) (hmove : Move x l l') :
    Grounding x l' := by
  have hstay : ∀ k, Grounded l k ∨ Knotted x l → Grounded l' k ∨ Knotted x l' :=
    fun k hk => hk.imp (·.move hl hmove) (·.move hl hmove)
  intro c k hdone
  cases hmove with
  | @finish d j rest alone top begun complete extended =>
    rcases List.mem_cons.1 hdone with heq | hold
    · obtain ⟨rfl, rfl⟩ : c = d ∧ k = j := by simpa using heq
      by_cases hknot : Knotted x { l with building := rest, log := .done c k :: l.log }
      · exact .inr hknot
      · -- its base was finished before, so it is grounded already
        refine .inl (.intro hdone fun b hb => ?_)
        exact (hstay b (h.base hl top begun complete extended hb)).resolve_right hknot
    · exact hstay k (h c k hold)
  | conclude top conclusion =>
    rw [log_concluded, conclusion.log] at hdone
    exact hstay k (h c k hdone)
  | claim => exact hstay k (h c k ((List.mem_cons.1 hdone).resolve_left (by simp)))
  | propose | wrap | write | skip => exact hstay k (h c k hdone)

/-- When all bodies are finished, a chain of extensions is one of bases. -/
theorem ancestors_of_extends (hl : Reachable x l) (hfinished : l.building = [])
    (hchain : Relation.TransGen (Extends x l) c b) (hbegun : Mark.begun c k ∈ l.log) {j : ClassId}
    (hb : l.target? b = some (.classRef j)) : Relation.TransGen l.model.IsBase k j := by
  -- no body is under construction, so each link of the chain is a finished one
  have hbase : ∀ c k b j, Mark.begun c k ∈ l.log → x.schema.extended? c = some b →
      l.target? b = some (.classRef j) → l.model.IsBase k j := by
    intro c k b j hbegun hextended hb
    obtain ⟨-, -, hstate⟩ := hl.building.of_begun hbegun
    cases hstate with
    | active active =>
      rw [hfinished] at active
      cases active
    | done _ marks =>
      have hmark : Mark.done c k ∈ l.marks k := by
        rw [marks]
        exact List.mem_cons_self
      have hcomplete := hl.written.complete c k (mem_marks.1 hmark).1
      have hb : l.registry.target? b = some (.classRef j) := hb
      unfold Model.IsBase
      rw [hcomplete.base, Context.base?, hextended, Option.bind_some, hb]
      rfl
  induction hchain using Relation.TransGen.head_induction_on generalizing k with
  | single hstep => exact .single (hbase _ k _ j hbegun hstep.2 hb)
  | head hstep hrest ih =>
    obtain ⟨i, hi⟩ : ∃ i, Mark.begun _ i ∈ l.log := by
      obtain ⟨_, hnext, -⟩ := Relation.TransGen.head'_iff.1 hrest
      exact hnext.1
    exact .head (hbase _ k _ i hbegun hstep.2 (hl.building.of_begun hi).2.1) (ih hi)

/-- A **knot** closes a chain of bases once all bodies are finished. -/
theorem Knotted.exists_cycle (h : Knotted x l) (hl : Reachable x l) (hfinished : l.building = []) :
    ∃ k ∈ l.built, Relation.TransGen l.model.IsBase k k := by
  obtain ⟨c, b, k, hbegun, hchain, -, hb⟩ := h
  exact ⟨k, (hl.building.of_begun hbegun).1, ancestors_of_extends hl hfinished hchain hbegun hb⟩

end Ledger

namespace Reachable

variable {x : Context} {l : Ledger}

/-- A class is **shared** only with the anonymous type of an element that has it. -/
theorem shared (h : Reachable x l) : l.Shared x := by
  refine h.induct ?_ fun hl hmove ih => ih.move hl hmove
  intro a b k ha
  have hmem := Registry.mem_of_target? ha
  simp [Ledger.start] at hmem

/-- Every finished class is **grounded**, unless there is a knot. -/
theorem grounding (h : Reachable x l) : l.Grounding x := by
  refine h.induct ?_ fun hl hmove ih => ih.move hl hmove
  intro c k hdone
  cases hdone

end Reachable

end SchemaBinding
