import SchemaBinding.Proofs.Acknowledging.Resolver
import SchemaBinding.Proofs.Changes.Run
import SchemaBinding.Proofs.Following.Run
import SchemaBinding.Proofs.Reordering.Indexed

/-! # Customizations that a run leaves unused
At its end a run warns, in the order of the components, about every property customization that it
has not used. It has used those that its finished bodies serve and no others. -/

namespace SchemaBinding

open Resolver (State)
open Resolving (Using)

variable {set : SchemaSet} {x : Context} {c : Compilation} {s t : State} {n : Nat}

/-! ## Draining -/

namespace Resolver

/-- The queue is worked off without any use but for the bodies that are finished. -/
theorem using_drainWithin (hr : (within x .standard n).Uses set) (turns : Nat) :
    Using set [] ((within x .standard (n + 1)).drainWithin turns) := by
  refine drainWithin_of_steps (P := Using set []) .pure .throw .nil_bind (fun s b t hrun => ?_)
    (using_buildBinding hr) turns
  obtain ⟨queue, hqueue⟩ := exists_queue_takeQueued s
  rw [hrun] at hqueue
  subst hqueue
  exact .of_eq rfl rfl rfl

end Resolver

/-! ## Warnings -/

/-- The finding about the property customization of a component that was not used. -/
def SchemaSet.unusedFinding (set : SchemaSet) (id : ComponentId) : Finding :=
  .unusedCustomization (set.label id) (set.component id).locator

namespace Reports

/-- Findings are reported in their order, against the same sources. -/
theorem withKey_foldl_raise {key : String} (findings : List Finding)
    (hkey : ∀ f ∈ findings, f.key = key) (r : Reports) :
    (findings.foldl raise r).sources = r.sources ∧
      (findings.foldl raise r).withKey key =
        r.withKey key ++ findings.map fun f => f.diagnostic r.sources := by
  induction findings generalizing r with
  | nil => simp
  | cons f rest ih =>
    obtain ⟨hsources, hrest⟩ := ih (fun g hg => hkey g (List.mem_cons_of_mem f hg)) (r.raise f)
    refine ⟨hsources, ?_⟩
    rw [List.foldl_cons, hrest, withKey_raise, if_pos (hkey f List.mem_cons_self),
      List.append_assoc]
    rfl

end Reports

/-- The components, out of some, with a property customization that is not **acknowledged**. -/
def SchemaSet.unused (set : SchemaSet) (acknowledged ids : List ComponentId) : List ComponentId :=
  ids.filter fun id => set.customizesProperty id && !acknowledged.contains id

namespace Context

/-- Warns about the property customization of a component, if it has one that was not used. -/
def warnUnused (x : Context) (id : ComponentId) : Resolving Unit := do
  if x.schema.customizesProperty id && !(← get).acknowledged.contains id then
    Resolving.report (x.schema.unusedFinding id)

/-- Exactly what is unused is **warned** about. -/
theorem runFrom_forM_warnUnused (x : Context) (ids : List ComponentId) (s : State) :
    (ids.forM x.warnUnused).runFrom s =
      (.ok (), { s with
        reports := ((x.schema.unused s.acknowledged ids).map x.schema.unusedFinding).foldl
          Reports.raise s.reports }) := by
  induction ids generalizing s with
  | nil => rfl
  | cons id rest ih =>
    show (x.warnUnused id >>= fun _ => rest.forM x.warnUnused).runFrom s = _
    rw [Resolving.runFrom_bind, warnUnused, Resolving.runFrom_get_bind]
    unfold SchemaSet.unused at ih ⊢
    by_cases hid : (x.schema.customizesProperty id && !s.acknowledged.contains id) = true
    · rw [if_pos hid, List.filter_cons_of_pos (by exact hid)]
      exact ih { s with reports := s.reports.raise (x.schema.unusedFinding id) }
    · rw [if_neg hid, List.filter_cons_of_neg (by exact hid)]
      exact ih s

/-- At the end of a run one warning is raised for each customization that was **not used**, in the
order of the components. -/
theorem runFrom_reportUnacknowledged (x : Context) (s : State) :
    x.reportUnacknowledged.runFrom s =
      (.ok (), { s with
        reports := ((x.schema.unused s.acknowledged x.schema.ids).map
          x.schema.unusedFinding).foldl Reports.raise s.reports }) :=
  x.runFrom_forM_warnUnused x.schema.ids s

end Context

/-! ## Whole runs -/

namespace Compilation

/-- Declarations are bound without any use but for the bodies that are finished. -/
theorem using_bindDeclarations (hr : (Resolver.within x .standard n).Uses set) (c : Compilation) :
    Using set [] (c.bindDeclarations (.within x .standard n)) := by
  have hdeclared : Using set (c.declarations.flatMap fun _ => [])
      (c.bindDeclarations (.within x .standard n)) :=
    Using.forM fun id => ((Resolver.using_bindToType hr id).nil_bind fun _ => .pure ())
  rwa [List.flatMap_eq_nil_iff.2 fun _ _ => rfl] at hdeclared

/-- Before it warns, a run has **used** what its finished bodies serve. -/
theorem exists_uses_of_run (hstandard : c.strategy = .standard) (hrun : c.run = (.ok (), s)) :
    ∃ u, c.start.Uses c.schema [] u ∧ c.context.reportUnacknowledged.runFrom u = (.ok (), s) := by
  have hresolver : c.resolver = .within c.context .standard (2 * c.schema.size + 1 + 1) := by
    rw [← hstandard]
    rfl
  have hwithin (n : Nat) := Resolver.uses_within c.context n
  obtain ⟨_, t, hdeclared, hrest⟩ := Resolving.runFrom_bind_ok.1 hrun
  obtain ⟨turns, u, hdrained, hwarned⟩ := Resolving.runFrom_bind_ok.1 hrest
  rw [hresolver] at hdeclared hdrained
  exact ⟨u, (using_bindDeclarations (hwithin _) c _ _ _ hdeclared).trans
    (Resolver.using_drainWithin (hwithin _) _ _ _ _ hdrained), hwarned⟩

/-- From the start of a run on, exactly what the finished bodies serve is **acknowledged**. -/
theorem mem_acknowledged_of_uses (h : c.start.Uses c.schema [] s) (id : ComponentId) :
    id ∈ s.acknowledged ↔ c.schema.customizesProperty id = true ∧
      ∃ mark ∈ s.ledger.log, mark.Serves c.schema id := by
  obtain ⟨marks, hlog, hacknowledged⟩ := h.acknowledged
  rw [ledger_start, show Ledger.start.log = [] from rfl, List.append_nil] at hlog
  have hstart : id ∉ c.start.acknowledged := List.not_mem_nil
  rw [hlog, hacknowledged]
  simp [hstart]

/-- At the end of a run exactly the customizations are **unused** that no finished body serves, and
there is a warning for each of them, in the order of the components. -/
theorem unused_of_run (hstandard : c.strategy = .standard) (hrun : c.run = (.ok (), s)) :
    ∃ unused : List ComponentId, unused.Sublist c.schema.ids ∧
      s.reports.withKey Finding.unusedCustomizationKey =
        unused.map (fun id => (c.schema.unusedFinding id).diagnostic s.reports.sources) ∧
      ∀ id, id ∈ unused ↔ c.schema.customizesProperty id = true ∧
        ∀ mark ∈ s.ledger.log, ¬ mark.Serves c.schema id := by
  obtain ⟨u, hused, hwarned⟩ := exists_uses_of_run hstandard hrun
  rw [Context.runFrom_reportUnacknowledged] at hwarned
  obtain ⟨-, rfl⟩ := Prod.mk.inj hwarned
  refine ⟨c.schema.unused u.acknowledged c.schema.ids, List.filter_sublist, ?warnings, ?members⟩
  case warnings =>
    have hkeys : ∀ f ∈ (c.schema.unused u.acknowledged c.schema.ids).map c.schema.unusedFinding,
        f.key = Finding.unusedCustomizationKey := by
      simp [SchemaSet.unusedFinding, Finding.unusedCustomization]
    obtain ⟨hsources, hraised⟩ := Reports.withKey_foldl_raise _ hkeys u.reports
    -- all warnings of this kind are raised at the end
    have hsilent : u.reports.withKey Finding.unusedCustomizationKey = [] := by
      rw [hused.warnings, Reports.withKey, diagnostics_start]
      rfl
    rw [hsilent, List.map_map, ← hsources] at hraised
    exact hraised
  case members =>
    intro id
    have hid (h : c.schema.customizesProperty id = true) : id ∈ c.schema.ids := by
      refine SchemaSet.mem_ids (Nat.not_le.1 fun hsize => ?_)
      rw [SchemaSet.customizesProperty, SchemaSet.component_of_size_le hsize] at h
      cases h
    have hmem := mem_acknowledged_of_uses hused id
    show _ ↔ _ ∧ ∀ mark ∈ u.ledger.log, _
    unfold SchemaSet.unused
    grind

end Compilation

end SchemaBinding
