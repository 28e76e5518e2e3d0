import SchemaBinding.Proofs.Completion
import SchemaBinding.Proofs.Moves.Inheritance

/-! # Inheritance of generated classes
The cycle detector for bodies knows components, and a class may be that of two of them. So the bases
of the classes come to an end unless extensions lead from the component that a class was built for
to another component with the class. -/

namespace SchemaBinding

open Resolver (State)

namespace Ledger

variable {x : Context} {declared : List ComponentId} {l : Ledger}

/-- One of the two components of a **knot** is the anonymous type of an element with the class. -/
theorem Knotted.exists_anonymous (h : Knotted x l) (hl : Reachable x l) :
    ∃ a b k e, Relation.TransGen (Extends x l) a b ∧ l.target? a = some (.classRef k) ∧
      l.target? b = some (.classRef k) ∧ l.target? e = some (.classRef k) ∧
      ∃ d, (d = a ∨ d = b) ∧ (x.schema.component d).isComplexType = true ∧
        x.schema.asked? d = some e := by
  obtain ⟨a, b, k, hbegun, hchain, hne, hb⟩ := h
  have ha := (hl.building.of_begun hbegun).2.1
  obtain ⟨d, e, hd, hcomplex, hasked, he⟩ := hl.shared a b k ha hb hne.symm
  exact ⟨a, b, k, e, hchain, ha, hb, he, d, hd, hcomplex, hasked⟩

/-- At the end of a run the bases of all classes come to an end, **unless there is a knot**. -/
theorem Finished.exists_ancestor?_iff (h : l.Finished x declared) :
    (∀ k ∈ l.model.classIds, ∃ n, l.model.ancestor? k n = none) ↔ ¬ Knotted x l := by
  constructor
  · intro hend hknot
    obtain ⟨k, hk, hcycle⟩ := hknot.exists_cycle h.reachable h.building
    obtain ⟨n, hn⟩ := hend k (h.perm_built.subset hk)
    exact Model.ancestor?_ne_none hcycle n hn
  · intro hknot k hk
    obtain ⟨c, -, hmarks⟩ := h.exists_marks (h.perm_built.symm.subset hk)
    have hdone : Mark.done c k ∈ l.marks k := by
      rw [hmarks]
      exact List.mem_cons_self
    have hgrounded := h.reachable.grounding c k (mem_marks.1 hdone).1
    exact (hgrounded.resolve_right hknot).exists_ancestor?

end Ledger

namespace Compilation

variable {c : Compilation} {s : State}

/-- A standard run that comes to its end leaves no class below itself, **unless there is a knot**:
extensions lead from the component that a class was built for to another one that is bound to it. -/
theorem acyclic_iff_not_knotted (hstandard : c.strategy = .standard) (hrun : c.run = (.ok (), s)) :
    (∀ k ∈ s.model.classIds, ∃ n, s.model.ancestor? k n = none) ↔
      ¬ s.ledger.Knotted c.context := by
  have hclasses : s.model.classes = s.ledger.model.classes := rfl
  have hledger (k : ClassId) (n : Nat) : s.model.ancestor? k n = s.ledger.model.ancestor? k n :=
    Model.ancestor?_congr hclasses k n
  simp only [hledger]
  exact (finished_of_run hstandard hrun).exists_ancestor?_iff

/-- An element with an anonymous complex type that extends itself. -/
def selfExtending : Compilation where
  schema := (Builder.derive ⟨23⟩ ⟨23⟩ .extension).after
    ((Builder.anonymousComplexType ⟨22⟩).after
      ((Builder.globalElement "urn:x" "e" none).after .initial))

/-- The run for the type that extends itself comes to its end. -/
theorem run_selfExtending : selfExtending.run = (.ok (), selfExtending.run.2) :=
  run_of_fst (by decide +kernel)

/-- The element whose anonymous type extends itself: its run succeeds, and the class is its own
ancestor. -/
theorem acyclic_iff_not_knotted_selfExtending :
    selfExtending.run = (.ok (), selfExtending.run.2) ∧
      ((∀ k ∈ selfExtending.run.2.model.classIds,
        ∃ n, selfExtending.run.2.model.ancestor? k n = none) ↔
          ¬ selfExtending.run.2.ledger.Knotted selfExtending.context) :=
  ⟨run_selfExtending, acyclic_iff_not_knotted rfl run_selfExtending⟩

/-- The class of a type that **extends itself** is below itself. -/
theorem exists_cyclic_inheritance :
    selfExtending.schema.Built ∧ selfExtending.run = (.ok (), selfExtending.run.2) ∧
      ∃ k ∈ selfExtending.run.2.model.classIds,
        ∀ n, selfExtending.run.2.model.ancestor? k n ≠ none := by
  refine ⟨?_, run_selfExtending, ⟨0⟩, by decide +kernel, ?_⟩
  · exact ((SchemaSet.Built.initial.call (.globalElement _ _ _)).call
      (.anonymousComplexType _)).call (.derive _ _ _)
  · have hbase : selfExtending.run.2.model.IsBase ⟨0⟩ ⟨0⟩ := by
      unfold Model.IsBase
      decide +kernel
    exact Model.ancestor?_ne_none (.single hbase)

end Compilation

end SchemaBinding
