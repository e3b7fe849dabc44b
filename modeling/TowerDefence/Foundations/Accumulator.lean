import Mathlib.Algebra.Order.Archimedean.Basic
import Mathlib.Algebra.Order.Group.Basic

/-!
# Accumulators that are drained in fixed portions

A loop takes a fixed `portion` from an accumulator for as long as the accumulator
exceeds it.  `Drained` relates the amount before the loop to the number of
iterations and to the amount that is left.  The comparison is strict, so what is
left may be a whole portion, and after at least one iteration it is not zero.
`Settled` is the invariant of an accumulator that is filled and drained in turn:
its total and the portion already determine the rest of it.
-/

namespace TowerDefence.Foundations

/-- Draining `amount` takes `count` iterations and leaves `rest`. -/
inductive Drained {A : Type*} [Sub A] [LT A] (portion : A) :
    (amount : A) → (count : Nat) → (rest : A) → Prop where
  | stop {amount : A} (enough : ¬portion < amount) : Drained portion amount 0 amount
  | take {amount rest : A} {count : Nat} (exceeds : portion < amount)
      (continued : Drained portion (amount - portion) count rest) :
      Drained portion amount (count + 1) rest

variable {A : Type*} [AddCommGroup A] [LinearOrder A]

/-- After `count` portions of a total, `rest` is left in the accumulator. -/
structure Settled (portion total : A) (count : Nat) (rest : A) : Prop where
  balance : count • portion + rest = total
  nonneg : 0 ≤ rest
  le_portion : rest ≤ portion
  pos_of_taken : 0 < count → 0 < rest

namespace Drained

variable {portion amount rest : A} {count : Nat}

theorem balance (drained : Drained portion amount count rest) :
    count • portion + rest = amount := by
  induction drained with
  | stop => rw [zero_nsmul, zero_add]
  | take _ _ ih => rw [succ_nsmul, add_right_comm, ih, sub_add_cancel]

theorem rest_le (drained : Drained portion amount count rest) : rest ≤ portion := by
  induction drained with
  | stop enough => exact not_lt.mp enough
  | take _ _ ih => exact ih

variable [IsOrderedAddMonoid A]

theorem rest_nonneg (nonneg : 0 ≤ amount) (drained : Drained portion amount count rest) :
    0 ≤ rest := by
  induction drained with
  | stop => exact nonneg
  | take exceeds _ ih => exact ih (sub_nonneg.mpr exceeds.le)

theorem rest_pos_of_pos (positive : 0 < amount) (drained : Drained portion amount count rest) :
    0 < rest := by
  induction drained with
  | stop => exact positive
  | take exceeds _ ih => exact ih (sub_pos.mpr exceeds)

theorem rest_pos (drained : Drained portion amount count rest) (taken : 0 < count) :
    0 < rest := by
  cases drained with
  | stop => exact absurd taken (lt_irrefl 0)
  | take exceeds continued => exact continued.rest_pos_of_pos (sub_pos.mpr exceeds)

/-- An amount of at most `bound` portions needs at most `bound` iterations. -/
theorem count_le {bound : Nat} (positive : 0 < portion) (nonneg : 0 ≤ amount)
    (bounded : amount ≤ bound • portion) (drained : Drained portion amount count rest) :
    count ≤ bound := by
  have taken : count • portion ≤ bound • portion :=
    calc count • portion ≤ count • portion + rest :=
          le_add_of_nonneg_right (drained.rest_nonneg nonneg)
      _ = amount := drained.balance
      _ ≤ bound • portion := bounded
  by_contra more
  exact absurd taken (not_le.mpr (nsmul_lt_nsmul_left positive (not_le.mp more)))

/-- The same without a sign of the amount: a loop that does not start takes nothing. -/
theorem count_le_of_le {bound : Nat} (positive : 0 < portion)
    (bounded : amount ≤ bound • portion) (drained : Drained portion amount count rest) :
    count ≤ bound := by
  cases drained with
  | stop => exact Nat.zero_le _
  | take exceeds continued =>
      exact (take exceeds continued).count_le positive (positive.trans exceeds).le bounded

/-- One number of portions bounds several amounts. -/
theorem exists_bound [Archimedean A] (positive : 0 < portion) (amounts : List A) :
    ∃ bound : Nat, ∀ amount ∈ amounts, amount ≤ bound • portion := by
  induction amounts with
  | nil => exact ⟨0, by simp⟩
  | cons first amounts ih =>
      obtain ⟨here, firstBounded⟩ := Archimedean.arch first positive
      obtain ⟨later, bounded⟩ := ih
      refine ⟨max here later, List.forall_mem_cons.mpr ⟨?_, fun amount member => ?_⟩⟩
      · exact firstBounded.trans (nsmul_le_nsmul_left positive.le (le_max_left _ _))
      · exact (bounded amount member).trans (nsmul_le_nsmul_left positive.le (le_max_right _ _))

/-- The loop terminates. -/
theorem exists_of_pos [Archimedean A] (positive : 0 < portion) (amount : A) :
    ∃ count rest, Drained portion amount count rest := by
  rcases Archimedean.arch amount positive with ⟨bound, bounded⟩
  induction bound generalizing amount with
  | zero =>
      rw [zero_nsmul] at bounded
      exact ⟨0, amount, .stop (not_lt.mpr (bounded.trans positive.le))⟩
  | succ bound ih =>
      by_cases exceeds : portion < amount
      · have left : amount - portion ≤ bound • portion := by
          rw [sub_le_iff_le_add, ← succ_nsmul]
          exact bounded
        rcases ih (amount - portion) left with ⟨count, rest, drained⟩
        exact ⟨count + 1, rest, .take exceeds drained⟩
      · exact ⟨0, amount, .stop exceeds⟩

end Drained

namespace Settled

variable {portion total more rest amount : A} {count taken : Nat}

/-- An empty accumulator is settled. -/
theorem empty (nonneg : 0 ≤ portion) : Settled portion (0 : A) 0 0 where
  balance := by rw [zero_nsmul, zero_add]
  nonneg := le_refl 0
  le_portion := nonneg
  pos_of_taken impossible := absurd impossible (lt_irrefl 0)

variable [IsOrderedAddMonoid A]

/-- Filling the accumulator and draining it again keeps it settled. -/
theorem drain (settled : Settled portion total count rest) (nonneg : 0 ≤ more)
    (drained : Drained portion (rest + more) taken amount) :
    Settled portion (total + more) (count + taken) amount where
  balance := by
    rw [← settled.balance, add_nsmul, add_assoc, drained.balance, add_assoc]
  nonneg := drained.rest_nonneg (add_nonneg settled.nonneg nonneg)
  le_portion := drained.rest_le
  pos_of_taken some := by
    cases drained with
    | stop => exact add_pos_of_pos_of_nonneg (settled.pos_of_taken some) nonneg
    | take exceeds continued =>
        exact (Drained.take exceeds continued).rest_pos (Nat.succ_pos _)

/-- The total determines the number of portions and the rest. -/
theorem unique {otherCount : Nat} {otherRest : A} (settled : Settled portion total count rest)
    (other : Settled portion total otherCount otherRest) :
    count = otherCount ∧ rest = otherRest := by
  have notMore {small large : Nat} {before after : A} (first : Settled portion total small before)
      (second : Settled portion total large after) : large ≤ small := by
    by_contra less
    rcases Nat.exists_eq_add_of_lt (not_le.mp less) with ⟨between, rfl⟩
    have portionPos : 0 < portion :=
      lt_of_lt_of_le (second.pos_of_taken (Nat.succ_pos _)) second.le_portion
    have larger : portion < before :=
      calc portion ≤ between • portion + portion :=
            le_add_of_nonneg_left (nsmul_nonneg portionPos.le between)
        _ < between • portion + portion + after :=
            lt_add_of_pos_right _ (second.pos_of_taken (Nat.succ_pos _))
        _ = before := by
            have same := second.balance.trans first.balance.symm
            rw [add_nsmul, add_nsmul, one_nsmul, add_assoc, add_assoc] at same
            rw [add_assoc]
            exact add_left_cancel same
    exact absurd first.le_portion (not_le.mpr larger)
  have sameCount : count = otherCount := Nat.le_antisymm (notMore other settled)
    (notMore settled other)
  refine ⟨sameCount, ?_⟩
  have same := settled.balance.trans other.balance.symm
  rw [sameCount] at same
  exact add_left_cancel same

end Settled

end TowerDefence.Foundations
