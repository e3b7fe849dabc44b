import Mathlib.Data.List.Basic

/-!
# Batches

A list of items is split, in its order, into batches: runs of items with one key, each
of a limited size.  A greedy split closes a batch only when it is full or the next item
has another key.  No split needs fewer batches than a greedy one.
-/

namespace TowerDefence.Foundations

variable {α κ : Type} {key : α → κ} {capacity : Nat}

/-- The items have one key, and they fit into a batch. -/
structure IsBatch (key : α → κ) (capacity : Nat) (batch : List α) : Prop where
  fits : batch.length ≤ capacity
  uniform : ∀ a ∈ batch, ∀ b ∈ batch, key a = key b

/-- The item that follows does not go into the batch. -/
def Closes (key : α → κ) (capacity : Nat) (batch rest : List α) : Prop :=
  ∀ next, rest.head? = some next → batch.length = capacity ∨ ∀ item ∈ batch, key item ≠ key next

/-- Batches that are filled one after the other, each as far as possible. -/
inductive GreedyBatches (key : α → κ) (capacity : Nat) : List (List α) → Prop where
  | nil : GreedyBatches key capacity []
  | cons {batch : List α} {batches : List (List α)} (nonempty : batch ≠ [])
      (isBatch : IsBatch key capacity batch)
      (closes : Closes key capacity batch batches.flatten)
      (greedy : GreedyBatches key capacity batches) :
      GreedyBatches key capacity (batch :: batches)

/-- A batch that is closed is not a proper part of another one. -/
theorem Closes.suffix_of_prefix {batch rest taken others : List α}
    (closes : Closes key capacity batch rest) (nonempty : batch ≠ [])
    (isBatch : IsBatch key capacity taken) (same : batch ++ rest = taken ++ others) :
    rest <:+ others := by
  rcases List.append_eq_append_iff.mp same with ⟨more, isTaken, isRest⟩ | ⟨more, _, isOthers⟩
  · cases more with
    | nil => exact isRest ▸ List.suffix_refl _
    | cons next more =>
        exfalso
        have nextTaken : next ∈ taken := isTaken ▸ List.mem_append_right _ List.mem_cons_self
        cases closes next (isRest ▸ rfl) with
        | inl full =>
            have fits := isBatch.fits
            rw [isTaken, List.length_append, List.length_cons, full] at fits
            exact absurd fits (by omega)
        | inr differs =>
            obtain ⟨item, member⟩ := List.exists_mem_of_ne_nil batch nonempty
            have itemTaken : item ∈ taken := isTaken ▸ List.mem_append_left _ member
            exact differs item member (isBatch.uniform item itemTaken next nextTaken)
  · exact isOthers ▸ List.suffix_append _ _

/-- Part of a batch is a batch. -/
theorem IsBatch.of_append_right {earlier batch : List α}
    (isBatch : IsBatch key capacity (earlier ++ batch)) : IsBatch key capacity batch where
  fits := by
    have fits := isBatch.fits
    rw [List.length_append] at fits
    omega
  uniform a memberA b memberB := isBatch.uniform a (List.mem_append_right _ memberA) b
    (List.mem_append_right _ memberB)

/-- The greedy batches are as far ahead as any others, so there are not more of them. -/
theorem GreedyBatches.length_le_of_suffix {batches others : List (List α)}
    (greedy : GreedyBatches key capacity batches)
    (areBatches : ∀ other ∈ others, IsBatch key capacity other)
    (covers : batches.flatten <:+ others.flatten) : batches.length ≤ others.length := by
  induction others generalizing batches with
  | nil =>
      cases greedy with
      | nil => exact Nat.le_refl _
      | cons nonempty _ _ _ =>
          have nothing := List.eq_nil_of_suffix_nil covers
          exact absurd (List.append_eq_nil_iff.mp nothing).1 nonempty
  | cons other others ih =>
      obtain ⟨isOther, areOthers⟩ := List.forall_mem_cons.mp areBatches
      rcases covers with ⟨ahead, same⟩
      rw [List.flatten_cons] at same
      rcases List.append_eq_append_iff.mp same with ⟨taken, isTaken, rest⟩ | ⟨more, _, rest⟩
      · cases greedy with
        | nil => exact Nat.zero_le _
        | cons nonempty _ closes greedy =>
            have isPart : IsBatch key capacity taken :=
              IsBatch.of_append_right (isTaken ▸ isOther)
            have covered := closes.suffix_of_prefix nonempty isPart rest
            exact Nat.succ_le_succ (ih greedy areOthers covered)
      · have covered : batches.flatten <:+ others.flatten := rest ▸ List.suffix_append _ _
        exact Nat.le_trans (ih greedy areOthers covered) (Nat.le_succ _)

/-- No split of the same items into batches has fewer batches than the greedy one. -/
theorem GreedyBatches.length_le {batches others : List (List α)}
    (greedy : GreedyBatches key capacity batches)
    (areBatches : ∀ other ∈ others, IsBatch key capacity other)
    (same : others.flatten = batches.flatten) : batches.length ≤ others.length :=
  greedy.length_le_of_suffix areBatches (same ▸ List.suffix_refl _)

end TowerDefence.Foundations
