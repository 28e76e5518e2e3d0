import Mathlib.Data.Finset.Card
import SchemaBinding.Schema.Basic

/-! # Searches by levels
A search through a schema set goes down level by level, and every level is found from the one
before. With finitely many components to find, a level that finds nothing new comes before the
levels outnumber them, and from then on nothing new is found. -/

namespace SchemaBinding

/-- A search **by levels** among some components: each level finds what the one before it finds, and
is determined by it. -/
structure Staged (domain : List ComponentId) (P : Nat → ComponentId → Prop) : Prop where
  mem : ∀ n id, P n id → id ∈ domain
  grows : ∀ n id, P n id → P (n + 1) id
  determined : ∀ n, (∀ id, P (n + 1) id → P n id) → ∀ id, P (n + 2) id → P (n + 1) id

namespace Staged

variable {domain : List ComponentId} {P : Nat → ComponentId → Prop} {id : ComponentId} {m n : Nat}

/-- What is found stays found. -/
theorem mono (h : Staged domain P) (hmn : m ≤ n) (hfound : P m id) : P n id := by
  induction hmn with
  | refl => exact hfound
  | step _ ih => exact h.grows _ _ ih

open Classical in
/-- The components **found** on a level. -/
noncomputable def found (domain : List ComponentId) (P : Nat → ComponentId → Prop) (n : Nat) :
    Finset ComponentId := domain.toFinset.filter (P n)

/-- A level finds what it says. -/
theorem mem_found (h : Staged domain P) : id ∈ found domain P n ↔ P n id := by
  classical
  rw [found, Finset.mem_filter, List.mem_toFinset]
  exact ⟨And.right, fun hfound => ⟨h.mem n id hfound, hfound⟩⟩

/-- No level finds more than there is. -/
theorem card_found_le : (found domain P n).card ≤ domain.length := by
  classical
  exact (Finset.card_filter_le _ _).trans (List.toFinset_card_le domain)

/-- Later levels find what earlier ones do. -/
theorem found_subset (h : Staged domain P) (hmn : m ≤ n) :
    found domain P m ⊆ found domain P n := by
  intro id hid
  rw [h.mem_found] at hid ⊢
  exact h.mono hmn hid

/-- A level that finds nothing new is followed by another one that finds nothing new. -/
theorem card_found_stays (h : Staged domain P)
    (hsame : (found domain P m).card = (found domain P (m + 1)).card) :
    (found domain P (m + 1)).card = (found domain P (m + 2)).card := by
  have hfound : found domain P m = found domain P (m + 1) :=
    Finset.eq_of_subset_of_card_le (h.found_subset (Nat.le_succ m)) hsame.ge
  have hnext : found domain P (m + 2) ⊆ found domain P (m + 1) := by
    intro id hid
    rw [h.mem_found] at hid ⊢
    refine h.determined m (fun id' hid' => ?_) id hid
    rwa [← h.mem_found, hfound, h.mem_found]
  exact le_antisymm (Finset.card_le_card (h.found_subset (Nat.le_succ _)))
    (Finset.card_le_card hnext)

/-- As many levels as there are components **suffice**: nothing is found later on. -/
theorem suffices_length (h : Staged domain P) (hfound : P n id) : P domain.length id := by
  by_cases hn : n ≤ domain.length
  · exact h.mono hn hfound
  · -- the numbers of components found are bounded, and once they stay the same they always do
    have hcard : (found domain P n).card = (found domain P domain.length).card :=
      Nat.stabilises_of_monotone (f := fun n => (found domain P n).card)
        (fun _ _ hmn => Finset.card_le_card (h.found_subset hmn)) (fun _ => card_found_le)
        (fun _ => h.card_found_stays) (by omega)
    have hsame : found domain P domain.length = found domain P n :=
      Finset.eq_of_subset_of_card_le (h.found_subset (by omega)) hcard.le
    rwa [← h.mem_found, hsame, h.mem_found]

end Staged

end SchemaBinding
