import SchemaBinding.Proofs.Reordering.Mirroring

/-! # Steps that settle
A step of loading either succeeds or is rejected, and which of the two happens depends on what is
loaded and not on how far the loading has come. A step **settles** for a condition when it succeeds
exactly under that condition; when it is rejected, no building step was misused. -/

namespace SchemaBinding

variable {α β : Type}

/-! ## The judgment -/

/-- What a step **settled** for: success, if it is accepted, or a reason that blames the manifest.
-/
inductive Settled (accepted : Prop) (answer : α → SchemaSet → Prop) :
    Except ManifestError α × SchemaSet → Prop
  | ok {a : α} {set : SchemaSet} (accept : accepted) (answers : answer a set) :
      Settled accepted answer (.ok a, set)
  | error {e : ManifestError} {set : SchemaSet} (reject : ¬ accepted)
      (blames : ∀ cause, e ≠ .misuse cause) : Settled accepted answer (.error e, set)

/-- A step **settles** from a set for a condition, with an answer if it succeeds. -/
def Settles (step : Loading α) (set : SchemaSet) (accepted : Prop)
    (answer : α → SchemaSet → Prop) : Prop := Settled accepted answer (step.run.run set)

namespace Settles

variable {step : Loading α} {next : α → Loading β} {set u : SchemaSet} {accepted more : Prop}
  {answer later : α → SchemaSet → Prop} {answer' : β → SchemaSet → Prop} {a : α}

/-- To return settles for every condition that holds anyway. -/
theorem pure (h : answer a set) : Settles (Pure.pure a) set True answer := .ok trivial h

/-- To fail settles for a condition that never holds, if the reason blames the manifest. -/
theorem throw {e : ManifestError} (blames : ∀ cause, e ≠ .misuse cause) :
    Settles (MonadExcept.throw e) set False answer := .error id blames

/-- A condition may be put in other words. -/
theorem congr (h : Settles step set accepted answer) (hiff : accepted ↔ more) :
    Settles step set more answer := by
  rwa [← propext hiff]

/-- An answer may be weakened. -/
theorem imp (h : Settles step set accepted answer) (himp : ∀ a u, answer a u → later a u) :
    Settles step set accepted later := by
  unfold Settles at h ⊢
  generalize step.run.run set = r at h ⊢
  cases h with
  | ok accept answers => exact .ok accept (himp _ _ answers)
  | error reject blames => exact .error reject blames

/-- What follows a step settles for a condition that the step does not change. -/
theorem bind (h : Settles step set accepted answer)
    (hnext : ∀ a u, answer a u → Settles (next a) u more answer') :
    Settles (step >>= next) set (accepted ∧ more) answer' := by
  unfold Settles at h ⊢
  rw [SchemaSet.run_bind]
  generalize step.run.run set = r at h
  cases h with
  | ok accept answers => exact (hnext _ _ answers).congr (and_iff_right accept).symm
  | error reject blames => exact .error (fun h => reject h.1) blames

/-- What follows a step cannot fail. -/
theorem andThen (h : Settles step set accepted answer)
    (hnext : ∀ a u, answer a u → Settles (next a) u True answer') :
    Settles (step >>= next) set accepted answer' := (h.bind hnext).congr (and_iff_left trivial)

/-- Whatever follows, a rejected step is rejected. -/
theorem failed {e : ManifestError} (blames : ∀ cause, e ≠ .misuse cause) :
    Settles (MonadExcept.throw e >>= next) set False answer' := .error id blames

/-- A step that runs like another one from another set. -/
theorem skip {step' : Loading α} (h : step.run.run set = step'.run.run u)
    (h' : Settles step' u accepted answer) : Settles step set accepted answer := by
  unfold Settles
  rwa [h]

/-- A step whose run is known. -/
theorem of_run (h : step.run.run set = (.ok a, u)) (hanswer : answer a u) :
    Settles step set True answer := by
  unfold Settles
  rw [h]
  exact .ok trivial hanswer

/-- What follows a step whose run is known. -/
theorem after (h : step.run.run set = (.ok a, u)) (hnext : Settles (next a) u accepted answer') :
    Settles (step >>= next) set accepted answer' := .skip (SchemaSet.run_bind_of_ok h next) hnext

/-- A step that is given its value at once. -/
theorem given (h : Settles (next a) set accepted answer') :
    Settles (Pure.pure a >>= next) set accepted answer' := by
  rwa [pure_bind]

end Settles

/-! ## Putting components -/

namespace SchemaSet

variable {set : SchemaSet} {id k : ComponentId} {c c' : Component}

/-- The set with another component at a position. -/
def put (set : SchemaSet) (id : ComponentId) (c : Component) : SchemaSet :=
  set.modifyComponent id fun _ => c

@[simp] theorem size_put (set : SchemaSet) (id : ComponentId) (c : Component) :
    (set.put id c).size = set.size := size_modifyComponent set id _

/-- The component put at a position is found there. -/
theorem component_put (h : id.index < set.size) (c : Component) :
    (set.put id c).component id = c := by
  unfold put
  rw [component_modifyComponent, if_pos ⟨rfl, h⟩]

/-- All other components stay in their places. -/
theorem component_put_of_ne (h : k ≠ id) (c : Component) :
    (set.put id c).component k = set.component k := by
  unfold put
  rw [component_modifyComponent, if_neg fun hk => h hk.1]

/-- To change a component is to put another one in its place. -/
theorem modifyComponent_eq_put (set : SchemaSet) (id : ComponentId) (f : Component → Component) :
    set.modifyComponent id f = set.put id (f (set.component id)) := by
  unfold put modifyComponent component
  congr 1
  refine Array.ext (by simp) fun i hi _ => ?_
  rw [Array.size_modify] at hi
  rw [Array.getElem_modify, Array.getElem_modify]
  split
  · rename_i hindex
    subst hindex
    simp [hi]
  · rfl

/-- What is put last stays. -/
theorem put_put (set : SchemaSet) (id : ComponentId) (c c' : Component) :
    (set.put id c).put id c' = set.put id c' := by
  unfold put modifyComponent
  congr 1
  refine Array.ext (by simp) fun i _ _ => ?_
  rw [Array.getElem_modify, Array.getElem_modify, Array.getElem_modify]
  split <;> rfl

/-- To put a component where it stands changes nothing. -/
theorem put_component (set : SchemaSet) (id : ComponentId) :
    set.put id (set.component id) = set := by
  rw [← modifyComponent_eq_put set id fun c => c]
  unfold modifyComponent
  congr 1
  refine Array.ext (by simp) fun i _ _ => ?_
  rw [Array.getElem_modify]
  split <;> rfl

end SchemaSet
end SchemaBinding
