import SchemaBinding.Proofs.Concurrence.Basic

/-! # Steps that end alike
From concurring states two steps end alike when they fail with the same error, or succeed with the
same answer in concurring states, unless one of them is cut short as endless: what is documented may
have no end. Steps that only document classes or report reserved names are alike in that sense,
whatever they do. So concurrence is a simulation. -/

namespace SchemaBinding

open Resolver (State)

namespace Resolving

variable {α β : Type} {step other : Resolving α} {s t : State}

/-- Two steps **end alike** from two states. -/
inductive EndAlike (step other : Resolving α) (s t : State) : Prop
  /-- The first one is cut short. -/
  | cut (c : ComponentId) (hstep : (step.runFrom s).1 = .error (.endless c))
  /-- The second one is cut short. -/
  | cut' (c : ComponentId) (hother : (other.runFrom t).1 = .error (.endless c))
  /-- Both fail. -/
  | error (e : ResolveError) (hstep : (step.runFrom s).1 = .error e)
      (hother : (other.runFrom t).1 = .error e)
  /-- Both succeed. -/
  | ok {a : α} {u v : State} (hstep : step.runFrom s = (.ok a, u))
      (hother : other.runFrom t = (.ok a, v)) (concurs : u.Concurs v)

namespace EndAlike

/-- Steps end alike when they run as others do that end alike. -/
theorem congr {step' other' : Resolving α} {s' t' : State} (h : EndAlike step other s t)
    (hstep : step'.runFrom s' = step.runFrom s) (hother : other'.runFrom t' = other.runFrom t) :
    EndAlike step' other' s' t' := by
  cases h with
  | cut c h => exact .cut c (by rw [hstep, h])
  | cut' c h => exact .cut' c (by rw [hother, h])
  | error e h h' => exact .error e (by rw [hstep, h]) (by rw [hother, h'])
  | ok h h' hconcurs => exact .ok (hstep.trans h) (hother.trans h') hconcurs

/-- What follows on steps that end alike. -/
theorem bind {next next' : α → Resolving β} (h : EndAlike step other s t)
    (hnext : ∀ a u v, u.Concurs v → EndAlike (next a) (next' a) u v) :
    EndAlike (step >>= next) (other >>= next') s t := by
  cases h with
  | cut c h => exact .cut c (fst_runFrom_bind_of_error h)
  | cut' c h => exact .cut' c (fst_runFrom_bind_of_error h)
  | error e h h' => exact .error e (fst_runFrom_bind_of_error h) (fst_runFrom_bind_of_error h')
  | @ok a u v h h' hconcurs =>
    refine (hnext a u v hconcurs).congr ?_ ?_
    · rw [runFrom_bind, h]
    · rw [runFrom_bind, h']

/-- Steps that end alike may be closed alike. -/
theorem closing (h : EndAlike step other s t) {close : State → State}
    (hclose : ∀ u v : State, u.Concurs v → (close u).Concurs (close v)) :
    EndAlike (step.closing close) (other.closing close) s t := by
  cases h with
  | cut c h => exact .cut c (by rw [runFrom_closing, h])
  | cut' c h => exact .cut' c (by rw [runFrom_closing, h])
  | error e h h' => exact .error e (by rw [runFrom_closing, h]) (by rw [runFrom_closing, h'])
  | @ok a u v h h' hconcurs =>
    refine .ok (a := a) (u := close u) (v := close v) ?_ ?_ (hclose u v hconcurs)
    · rw [runFrom_closing, h]
    · rw [runFrom_closing, h']

/-! ## Changes of models -/

/-- What is allocated in the models has one id. -/
theorem allocate (h : s.Concurs t) {f : Model → α × Model}
    (hf : ∀ m : Model, f m.undocumented = ((f m).1, (f m).2.undocumented)) :
    EndAlike (Resolving.allocate f) (Resolving.allocate f) s t := by
  cases h with
  | @intro model reports hmodel hreports =>
    have hsame : ((f model).1, (f model).2.undocumented) =
        ((f s.model).1, (f s.model).2.undocumented) := by rw [← hf, hmodel, hf]
    obtain ⟨hid, hallocated⟩ := Prod.mk.inj hsame
    refine .ok (a := (f s.model).1) rfl (v := { s with model := (f model).2, reports }) ?_
      (.intro (s := { s with model := (f s.model).2 }) hallocated hreports)
    rw [← hid]
    rfl

/-- A model is changed alike when documentation makes no difference to that. -/
theorem changeModel (h : s.Concurs t) {f : Model → Model}
    (hf : ∀ m : Model, f m.undocumented = (f m).undocumented) :
    EndAlike (Resolving.changeModel f) (Resolving.changeModel f) s t := by
  cases h with
  | intro hmodel hreports =>
    exact .ok rfl rfl
      (.intro (s := { s with model := f s.model }) (by rw [← hf, hmodel, hf]) hreports)

end EndAlike

end Resolving

open Resolving (EndAlike)

/-- The **simulation** of runs by runs that concur with them. -/
def concurrence : Simulation where
  Rel := State.Concurs
  Runs := EndAlike
  abreast h := h.abreast
  steer hf h := h.change hf.model_reports
  pure _ _ _ h := .ok rfl rfl h
  throw e _ _ _ := .error e rfl rfl
  bind h hnext := h.bind hnext
  entering _ h hstep hother := h.congr hstep hother
  closing hclose h := h.closing fun _ _ huv => huv.change hclose.model_reports
  newClass name scope _ _ h := .allocate h fun m => m.newClass_undocumented name scope
  newElement name ns scope _ _ h := .allocate h fun m => m.newElement_undocumented name ns scope
  modifyElement w f _ _ h := .changeModel h fun m => m.modifyElement_undocumented w f
  modifyClass k _ _ _ hf h := .changeModel h fun m => m.modifyClass_undocumented k hf

namespace concurrence

/-- States may be changed in different ways if they concur afterwards. -/
theorem modify {f g : State → State} (h : ∀ s t : State, s.Concurs t → (f s).Concurs (g t)) :
    concurrence.Simulates (modify f : Resolving PUnit) (modify g) :=
  fun s t hst => .ok rfl rfl (h s t hst)

/-- Findings of one key and message are reported alike, wherever they point to. -/
theorem report {f g : Finding} (hkey : g.key = f.key) (hmessage : g.message = f.message) :
    concurrence.Simulates (Resolving.report f) (Resolving.report g) :=
  modify fun _ _ h => h.raise hkey hmessage

/-! ## Steps without notice -/

/-- A step is **unnoticed** when it leaves a concurring state or is cut short. -/
def Unnoticed (step : Resolving Unit) : Prop :=
  ∀ s : State, (∃ c, (step.runFrom s).1 = .error (.endless c)) ∨
    ∃ t, step.runFrom s = (.ok (), t) ∧ s.Concurs t

/-- Steps that go unnoticed **end alike**, whatever they do. -/
theorem of_unnoticed {step other : Resolving Unit} (h : Unnoticed step) (h' : Unnoticed other) :
    concurrence.Simulates step other := by
  intro s t hst
  rcases h s with ⟨c, hcut⟩ | ⟨u, hstep, hu⟩
  · exact .cut c hcut
  · rcases h' t with ⟨c, hcut⟩ | ⟨v, hother, hv⟩
    · exact .cut' c hcut
    · -- each step leads aside, to a state that still concurs with the one before it
      exact .ok hstep hother ((hu.symm.trans hst).trans hv)

/-- A reserved name is reported, which is no notice. -/
theorem unnoticed_checkClassName (r : Resolver) (c : ComponentId) (k : ClassId) :
    Unnoticed (r.checkClassName c k) := by
  intro s
  apply Or.inr
  unfold Resolver.checkClassName
  rw [Resolving.runFrom_get_bind]
  dsimp only
  split
  · exact ⟨_, rfl, .intro rfl (Reports.notices_raise_of_not _ rfl)⟩
  · exact ⟨s, rfl, .refl s⟩

/-- A class is documented, unless there is no end to that. -/
theorem unnoticed_documentClass (r : Resolver) (c : ComponentId) (k : ClassId) :
    Unnoticed (Resolver.documentClass .standard r c k) := by
  intro s
  unfold Resolver.documentClass
  rw [Resolving.runFrom_get_bind]
  split
  · split
    · exact .inl ⟨c, rfl⟩
    · rename_i paragraphs _
      refine .inr ⟨_, rfl, .intro (s.model.undocumented_modifyClass k fun info => ?_) rfl⟩
      exact ClassInfo.undocumented_foldl_appendDoc paragraphs info
  · exact .inr ⟨s, rfl, .refl s⟩

end concurrence

end SchemaBinding
