import Mathlib.Data.List.Nodup
import Mathlib.Data.List.Perm.Subperm

/-!
# Ids from a wrapping counter

`Allocates bound first ids last` says that a counter which wraps at `bound` handed
out `ids` one after the other on its way from `first` to `last`.  As long as the
counter does not wrap, the ids are consecutive, so they never repeat.
-/

namespace TowerDefence.Foundations

/-- A counter that wraps at `bound` hands out `ids` between `first` and `last`. -/
inductive Allocates (bound : Nat) : Nat → List Nat → Nat → Prop where
  | nil (counter : Nat) : Allocates bound counter [] counter
  | snoc {first last : Nat} {ids : List Nat} : Allocates bound first ids last →
      Allocates bound first (ids ++ [last]) ((last + 1) % bound)

namespace Allocates

variable {bound first middle last : Nat} {ids later : List Nat}

/-- Handing out one id. -/
theorem single (bound counter : Nat) :
    Allocates bound counter [counter] ((counter + 1) % bound) :=
  .snoc (.nil counter)

theorem append (before : Allocates bound first ids middle)
    (after : Allocates bound middle later last) :
    Allocates bound first (ids ++ later) last := by
  induction after with
  | nil => simpa using before
  | snoc _ ih =>
      rw [← List.append_assoc]
      exact .snoc ih

/-- Without a wrap the ids are consecutive. -/
theorem eq_range' (allocates : Allocates bound first ids last)
    (bounded : first + ids.length < bound) :
    ids = List.range' first ids.length ∧ last = first + ids.length := by
  induction allocates with
  | nil => exact ⟨rfl, rfl⟩
  | @snoc last ids _ ih =>
      rw [List.length_append, List.length_singleton, ← Nat.add_assoc] at bounded
      obtain ⟨consecutive, reached⟩ := ih (by omega)
      constructor
      · rw [List.length_append, List.length_singleton, List.range'_1_concat, ← consecutive, reached]
      · rw [List.length_append, List.length_singleton, reached, Nat.mod_eq_of_lt bounded,
          Nat.add_assoc]

theorem last_eq (allocates : Allocates bound first ids last)
    (bounded : first + ids.length < bound) : last = first + ids.length :=
  (allocates.eq_range' bounded).2

/-- Every id lies between the two values of the counter. -/
theorem mem_bounds (allocates : Allocates bound first ids last)
    (bounded : first + ids.length < bound) {id : Nat} (member : id ∈ ids) :
    first ≤ id ∧ id < last := by
  obtain ⟨consecutive, reached⟩ := allocates.eq_range' bounded
  rw [consecutive, List.mem_range'_1] at member
  omega

/-- Ids are handed out in increasing order. -/
theorem pairwise_lt (allocates : Allocates bound first ids last)
    (bounded : first + ids.length < bound) : ids.Pairwise (· < ·) := by
  rw [(allocates.eq_range' bounded).1]
  exact List.pairwise_lt_range'

theorem nodup (allocates : Allocates bound first ids last)
    (bounded : first + ids.length < bound) : ids.Nodup :=
  (allocates.pairwise_lt bounded).imp Nat.ne_of_lt

end Allocates

/-! ## All ids -/

/-- Distinct numbers below a bound are at most as many, and if they are as many,
they are all of them. -/
theorem nodup_below {ids : List Nat} {bound : Nat} (nodup : ids.Nodup)
    (below : ∀ id ∈ ids, id < bound) :
    ids.length ≤ bound ∧ (bound ≤ ids.length → ∀ id < bound, id ∈ ids) := by
  have within : ids.Subperm (List.range bound) :=
    List.subperm_of_subset nodup fun id member => List.mem_range.mpr (below id member)
  constructor
  · simpa using within.length_le
  · intro full id isBelow
    have all := within.perm_of_length_le (by simpa using full)
    exact all.mem_iff.mpr (List.mem_range.mpr isBelow)

end TowerDefence.Foundations
