import Mathlib.Algebra.Group.End
import Mathlib.Logic.Equiv.Fin.Basic

/-! # Pairing positions
What stands at the positions of one collection may stand at other positions of another one. When
each position of the one has exactly one partner among those of the other, the collections have the
same size, and a permutation takes each position to its partner. -/

namespace SchemaBinding

variable {ι : Type} {index : ι ≃ Nat} {m n : Nat} {partner : ι → ι → Prop}

/-- The positions below two limits are **paired**: each has exactly one partner. -/
structure Pairing (index : ι ≃ Nat) (m n : Nat) (partner : ι → ι → Prop) : Prop where
  within : ∀ i j, partner i j → index i < m ∧ index j < n
  left : ∀ i, index i < m → ∃ j, partner i j
  right : ∀ j, index j < n → ∃ i, partner i j
  unique : ∀ i j j', partner i j → partner i j' → j = j'
  unique' : ∀ i i' j, partner i j → partner i' j → i = i'

namespace Pairing

/-- A position is taken to its partner. -/
theorem exists_equiv (h : Pairing index m n partner) :
    ∃ e : { i // index i < m } ≃ { j // index j < n }, ∀ i, partner i.1 (e i).1 := by
  choose toRight hright using h.left
  let f (i : { i // index i < m }) : { j // index j < n } :=
    ⟨toRight i.1 i.2, (h.within _ _ (hright i.1 i.2)).2⟩
  have hbijective : f.Bijective := by
    constructor
    · rintro ⟨i, hi⟩ ⟨i', hi'⟩ hsame
      refine Subtype.ext (h.unique' i i' _ (hright i hi) ?_)
      rw [show toRight i hi = toRight i' hi' from congrArg Subtype.val hsame]
      exact hright i' hi'
    · rintro ⟨j, hj⟩
      obtain ⟨i, hi⟩ := h.right j hj
      have hlt := (h.within i j hi).1
      exact ⟨⟨i, hlt⟩, Subtype.ext (h.unique i _ _ (hright i hlt) hi)⟩
  exact ⟨.ofBijective f hbijective, fun i => hright i.1 i.2⟩

/-- There are as many positions on either side. -/
theorem size_eq (h : Pairing index m n partner) : m = n := by
  obtain ⟨e, -⟩ := h.exists_equiv
  have hbelow (limit : Nat) : { i // index i < limit } ≃ Fin limit :=
    (index.subtypeEquiv fun _ => Iff.rfl).trans Fin.equivSubtype.symm
  exact Fin.equiv_iff_eq.1 ⟨(hbelow m).symm.trans (e.trans (hbelow n))⟩

/-- A **permutation** takes every position to its partner, and leaves all others where they are. -/
theorem exists_perm (h : Pairing index m n partner) : ∃ σ : Equiv.Perm ι,
    (∀ i, index i < m → partner i (σ i)) ∧ ∀ i, m ≤ index i → σ i = i := by
  obtain rfl := h.size_eq
  obtain ⟨e, he⟩ := h.exists_equiv
  refine ⟨Equiv.Perm.ofSubtype e, fun i hi => ?_, fun i hi => ?_⟩
  · rw [Equiv.Perm.ofSubtype_apply_of_mem e hi]
    exact he ⟨i, hi⟩
  · exact Equiv.Perm.ofSubtype_apply_of_not_mem e (Nat.not_lt.2 hi)

end Pairing

end SchemaBinding
