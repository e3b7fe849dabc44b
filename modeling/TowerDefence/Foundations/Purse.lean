import Mathlib.Algebra.Order.Group.Defs
import Mathlib.Algebra.Order.Monoid.Defs

/-!
# Purchases from a purse

A purse serves transactions in order.  A deposit raises its balance.  A purchase is
made when the balance at its turn covers the price, and is refused otherwise.
-/

namespace TowerDefence.Foundations

variable {F ι : Type}

/-- What is asked of a purse: to take an amount, or to buy an item for a price. -/
inductive Transaction (F ι : Type) where
  | deposit (amount : F)
  | purchase (price : F) (item : ι)

/-- The gold that is left and the items that were bought, in order. -/
structure Purse (F ι : Type) where
  balance : F
  bought : List ι

section Serving

variable [Add F] [Sub F] [LE F] [DecidableLE F]

/-- One transaction. -/
def Purse.serve (purse : Purse F ι) : Transaction F ι → Purse F ι
  | .deposit amount => { purse with balance := purse.balance + amount }
  | .purchase price item =>
      if price ≤ purse.balance then
        { balance := purse.balance - price, bought := purse.bought ++ [item] }
      else
        purse

/-- The transactions in order, from a purse that has bought nothing. -/
def settle (balance : F) (transactions : List (Transaction F ι)) : Purse F ι :=
  transactions.foldl Purse.serve ⟨balance, []⟩

theorem settle_append (balance : F) (first second : List (Transaction F ι)) :
    settle balance (first ++ second) = second.foldl Purse.serve (settle balance first) :=
  List.foldl_append

end Serving

/-! ## Solvency -/

section Solvency

variable [AddCommGroup F] [LinearOrder F] [IsOrderedAddMonoid F]

/-- The transaction takes nothing out of the purse without asking for the balance. -/
def Transaction.IsHonest : Transaction F ι → Prop
  | .deposit amount => 0 ≤ amount
  | .purchase _ _ => True

theorem Purse.serve_nonneg {purse : Purse F ι} {transaction : Transaction F ι}
    (solvent : 0 ≤ purse.balance) (honest : transaction.IsHonest) :
    0 ≤ (purse.serve transaction).balance := by
  cases transaction with
  | deposit amount => exact add_nonneg solvent honest
  | purchase price item =>
      rw [Purse.serve]
      split
      · rename_i covered
        exact sub_nonneg.mpr covered
      · exact solvent

/-- A purse that starts solvent stays solvent, whatever the prices are. -/
theorem settle_nonneg {balance : F} {transactions : List (Transaction F ι)}
    (solvent : 0 ≤ balance) (honest : ∀ transaction ∈ transactions, transaction.IsHonest) :
    0 ≤ (settle balance transactions).balance := by
  apply List.foldlRecOn transactions Purse.serve (motive := fun purse => 0 ≤ purse.balance) solvent
  intro purse holds transaction member
  exact Purse.serve_nonneg holds (honest transaction member)

end Solvency

end TowerDefence.Foundations
