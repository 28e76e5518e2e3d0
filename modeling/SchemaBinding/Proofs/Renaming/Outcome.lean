import SchemaBinding.Proofs.Renaming.Run

/-! # Outcomes over renamed sets
A run over a renamed set fails if the other one fails: what extends itself there is needed in either
set, wherever it stands. When both come to their end, their models are renamings of each other. -/

namespace SchemaBinding.Compilation

open Resolver (State)

variable {φ : Equiv.Perm ComponentId} {c c' : Compilation} {id : ComponentId} {s : State}

/-- The same declarations are bound, at other positions. -/
theorem mem_declarations_rename (hx : c.context.Renamed φ c'.context) (id : ComponentId) :
    φ id ∈ c'.declarations ↔ id ∈ c.declarations := by
  have hcomponent := hx.schema.component id
  have hdeclared := hx.schema.declared id
  simp only [context] at hcomponent hdeclared
  unfold declarations
  rw [List.mem_filter, List.mem_filter, hdeclared, hcomponent, Component.isElement_rename,
    Component.isComplexType_rename]

/-- When a run **comes to its end**, so does a run over a renamed set. -/
theorem exists_run_rename (hx : c.context.Renamed φ c'.context) (hstandard : c.strategy = .standard)
    (hstandard' : c'.strategy = .standard) (hset : c.schema.Loaded fun _ => True)
    (hset' : c'.schema.Loaded fun _ => True) (hrun : c.run = (.ok (), s)) :
    ∃ s', c'.run = (.ok (), s') := by
  rcases hrun' : c'.run with ⟨e | ⟨⟩, s'⟩
  · obtain ⟨l, hl, hstuck⟩ := stuck_of_run hstandard' hrun'
    obtain ⟨path, rfl, -, id, hid, hcycle⟩ := hstuck.exists_path hl hset'
    -- what extends itself is needed in either set, which the other run could not have ended with
    have hneeded' : c'.context.Needed c'.declarations id :=
      blames_of_run hstandard' hset' hrun' id hid
    have hneeded : c.context.Needed c.declarations (φ.symm id) :=
      hx.symm.needed (fun d hd => by
        rwa [← mem_declarations_rename hx, φ.apply_symm_apply]) hneeded'
    have hfinal := final_of_run hstandard hset hrun
    exact absurd (hx.schema.symm.transGen_extended? hcycle) (hfinal.not_extends hneeded)
  · exact ⟨s', rfl⟩

/-- **Outcomes over renamed sets**: both runs fail, or one model is a renaming of the other. -/
theorem outcome_rename (hx : c.context.Renamed φ c'.context) (hstandard : c.strategy = .standard)
    (hstandard' : c'.strategy = .standard) (hset : c.schema.Loaded fun _ => True)
    (hset' : c'.schema.Loaded fun _ => True) :
    (∃ o o' σ, c.outcome = .ok o ∧ c'.outcome = .ok o' ∧ o.model.Renamed σ o'.model) ∨
      ∃ e e', c.outcome = .error e ∧ c'.outcome = .error e' := by
  unfold outcome
  rcases hrun : c.run with ⟨e | ⟨⟩, s⟩
  · rcases hrun' : c'.run with ⟨e' | ⟨⟩, s'⟩
    · exact .inr ⟨e, e', rfl, rfl⟩
    · obtain ⟨s, hrun''⟩ := exists_run_rename hx.symm hstandard' hstandard hset' hset hrun'
      rw [hrun] at hrun''
      cases hrun''
  · obtain ⟨s', hrun'⟩ := exists_run_rename hx hstandard hstandard' hset hset' hrun
    have hcorresponds : State.Corresponds φ c.context c'.context c.declarations c'.declarations
        s s' :=
      ⟨hx, final_of_run hstandard hset hrun, final_of_run hstandard' hset' hrun',
        mem_declarations_rename hx⟩
    obtain ⟨σ, hσ⟩ := hcorresponds.exists_renamed
    rw [hrun']
    exact .inl ⟨_, _, σ, rfl, rfl, hσ⟩

end SchemaBinding.Compilation
