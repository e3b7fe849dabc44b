import Mathlib.Data.List.Basic

/-!
# Draining a queue

A consumer that takes everything a queue holds, and then finds it empty until
something is enqueued again.
-/

namespace TowerDefence.Foundations

/-- The batches drain the queue: the first one takes all of it, and the others
take nothing.  What is left is `rest`. -/
def Drains {α : Type} (queue : List α) (batches : List (List α)) (rest : List α) : Prop :=
  batches = [] ∧ rest = queue ∨
    ∃ later, batches = queue :: later ∧ (∀ batch ∈ later, batch = []) ∧ rest = []

namespace Drains

variable {α : Type} {queue rest : List α} {batches : List (List α)}

theorem flatten_append (drains : Drains queue batches rest) : batches.flatten ++ rest = queue := by
  cases drains with
  | inl idle =>
      rw [idle.1, idle.2]
      rfl
  | inr drained =>
      rcases drained with ⟨later, split, nothing, empty⟩
      rw [split, List.flatten_cons, List.flatten_eq_nil_iff.mpr nothing, empty, List.append_nil,
        List.append_nil]

theorem tail_empty (drains : Drains queue batches rest) : ∀ batch ∈ batches.tail, batch = [] := by
  cases drains with
  | inl idle => simp [idle.1]
  | inr drained =>
      rcases drained with ⟨later, split, nothing, _⟩
      rw [split]
      exact nothing

/-- The batch in front takes the whole queue. -/
theorem cons (drains : Drains [] batches rest) : Drains queue (queue :: batches) rest := by
  cases drains with
  | inl idle => exact .inr ⟨[], by rw [idle.1], by simp, idle.2⟩
  | inr drained =>
      rcases drained with ⟨later, split, nothing, empty⟩
      refine .inr ⟨batches, rfl, ?_, empty⟩
      intro batch member
      rw [split] at member
      cases List.mem_cons.mp member with
      | inl first => exact first
      | inr other => exact nothing batch other

end Drains

end TowerDefence.Foundations
