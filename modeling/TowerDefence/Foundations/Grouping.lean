import Mathlib.Algebra.BigOperators.Group.Finset.Basic
import Mathlib.Algebra.BigOperators.Group.Finset.Piecewise
import Mathlib.Algebra.Order.BigOperators.Group.Finset
import Mathlib.Algebra.Order.Floor.Div
import TowerDefence.Foundations.Batches

/-!
# Batches of a grouped list

In a grouped list the items with one key stand together.  Its greedy batches are as many as
the keys need when the items of each key are packed densely, and no split of any rearrangement
of the list has fewer batches.
-/

namespace TowerDefence.Foundations

variable {α κ : Type} {key : α → κ} {capacity : Nat}

/-- Between two items with one key there are only items with this key. -/
def Grouped (key : α → κ) (items : List α) : Prop :=
  ∀ front a middle b back, items = front ++ a :: (middle ++ b :: back) → key a = key b →
    ∀ item ∈ middle, key item = key a

theorem Grouped.of_append_right {earlier items : List α}
    (grouped : Grouped key (earlier ++ items)) : Grouped key items := by
  intro front a middle b back split
  apply grouped (earlier ++ front) a middle b back
  rw [split, List.append_assoc]

/-- The items in front of a change of the key are all of their key. -/
theorem Grouped.key_ne {batch later : List α} {next : α}
    (grouped : Grouped key (batch ++ next :: later)) (changes : ∀ item ∈ batch, key item ≠ key next)
    {a item : α} (member : a ∈ batch) (isLater : item ∈ next :: later) : key item ≠ key a := by
  intro same
  cases List.mem_cons.mp isLater with
  | inl isNext => exact changes a member (isNext ▸ same).symm
  | inr behind =>
      rcases List.append_of_mem member with ⟨front, middle, isBatch⟩
      rcases List.append_of_mem behind with ⟨between, back, isBehind⟩
      have split : batch ++ next :: later =
          front ++ a :: ((middle ++ next :: between) ++ item :: back) := by
        rw [isBatch, isBehind]
        simp only [List.append_assoc, List.cons_append]
      have between := grouped front a _ item back split same.symm next
        (List.mem_append_right _ List.mem_cons_self)
      exact changes a member between.symm

/-- A list that is sorted by a rank of the keys is grouped. -/
theorem Grouped.of_sorted {β : Type} [PartialOrder β] {rank : α → β} {items : List α}
    (sorted : items.Pairwise fun a b => rank a ≤ rank b)
    (faithful : ∀ a ∈ items, ∀ b ∈ items, rank a = rank b ↔ key a = key b) :
    Grouped key items := by
  intro front a middle b back split same item member
  have memberA : a ∈ items := by simp [split]
  have memberB : b ∈ items := by simp [split]
  have memberItem : item ∈ items := by simp [split, member]
  rw [split] at sorted
  have fromA := (List.pairwise_cons.mp (List.pairwise_append.mp sorted).2.1).1 item
    (List.mem_append_left _ member)
  have toB := (List.pairwise_append.mp
    (List.pairwise_cons.mp (List.pairwise_append.mp sorted).2.1).2).2.2 item member b
    List.mem_cons_self
  rw [← (faithful a memberA b memberB).mpr same] at toB
  exact (faithful item memberItem a memberA).mp (le_antisymm toB fromA)

variable [DecidableEq κ]

/-- How many items have a key. -/
def keyCount (key : α → κ) (wanted : κ) (items : List α) : Nat :=
  items.countP fun item => key item = wanted

theorem keyCount_append (wanted : κ) (items later : List α) :
    keyCount key wanted (items ++ later) = keyCount key wanted items + keyCount key wanted later :=
  List.countP_append

theorem keyCount_eq_zero {wanted : κ} {items : List α} (other : ∀ item ∈ items, key item ≠ wanted) :
    keyCount key wanted items = 0 := by
  apply List.countP_eq_zero.mpr
  intro item member
  rw [decide_eq_true_eq]
  exact other item member

/-- The items of a batch all have the key of each of them. -/
theorem IsBatch.keyCount_eq {batch : List α} (isBatch : IsBatch key capacity batch) {a : α}
    (member : a ∈ batch) (wanted : κ) :
    keyCount key wanted batch = if wanted = key a then batch.length else 0 := by
  by_cases isKey : wanted = key a
  case pos =>
    rw [if_pos isKey]
    apply List.countP_eq_length.mpr
    intro item itemMember
    rw [decide_eq_true_eq, isKey]
    exact isBatch.uniform item itemMember a member
  case neg =>
    rw [if_neg isKey]
    apply keyCount_eq_zero
    intro item itemMember same
    exact isKey (same.symm.trans (isBatch.uniform item itemMember a member))

/-- How many batches the keys need when the items of each key are packed densely. -/
def neededBatches (keys : Finset κ) (key : α → κ) (capacity : Nat) (items : List α) : Nat :=
  ∑ wanted ∈ keys, keyCount key wanted items ⌈/⌉ capacity

theorem neededBatches_perm {keys : Finset κ} {items items' : List α} (perm : items.Perm items') :
    neededBatches keys key capacity items = neededBatches keys key capacity items' := by
  apply Finset.sum_congr rfl
  intro wanted _
  rw [keyCount, keyCount, perm.countP_eq]

/-- One more full batch. -/
theorem ceilDiv_add_capacity (positive : 0 < capacity) (count : Nat) :
    (capacity + count) ⌈/⌉ capacity = count ⌈/⌉ capacity + 1 := by
  rw [Nat.ceilDiv_eq_add_pred_div, Nat.ceilDiv_eq_add_pred_div, ← Nat.add_div_right _ positive]
  congr 1
  omega

theorem ceilDiv_add_le (positive : 0 < capacity) {size : Nat} (fits : size ≤ capacity)
    (count : Nat) : (size + count) ⌈/⌉ capacity ≤ count ⌈/⌉ capacity + 1 := by
  rw [← ceilDiv_add_capacity positive, Nat.ceilDiv_eq_add_pred_div, Nat.ceilDiv_eq_add_pred_div]
  apply Nat.div_le_div_right
  omega

/-- The needs of all keys, when those of one key grow by one batch. -/
theorem sum_add_one_at {keys : Finset κ} (needs : κ → Nat) (grows : κ) :
    ∑ wanted ∈ keys, (needs wanted + if wanted = grows then 1 else 0) =
      (∑ wanted ∈ keys, needs wanted) + if grows ∈ keys then 1 else 0 := by
  rw [Finset.sum_add_distrib, Finset.sum_ite_eq']

/-- Putting a batch in front of the items adds at most one to their needs. -/
theorem IsBatch.needed_append_le {keys : Finset κ} {batch : List α} (positive : 0 < capacity)
    (isBatch : IsBatch key capacity batch) (items : List α) :
    neededBatches keys key capacity (batch ++ items) ≤
      neededBatches keys key capacity items + 1 := by
  cases isEmpty : batch with
  | nil => exact Nat.le_succ _
  | cons a others =>
      have member : a ∈ batch := isEmpty ▸ List.mem_cons_self
      rw [← isEmpty]
      calc neededBatches keys key capacity (batch ++ items)
          ≤ ∑ wanted ∈ keys, (keyCount key wanted items ⌈/⌉ capacity +
              if wanted = key a then 1 else 0) := by
            apply Finset.sum_le_sum
            intro wanted _
            rw [keyCount_append, isBatch.keyCount_eq member]
            by_cases isKey : wanted = key a
            case pos =>
              rw [if_pos isKey, if_pos isKey]
              exact ceilDiv_add_le positive isBatch.fits _
            case neg => rw [if_neg isKey, if_neg isKey, Nat.zero_add, Nat.add_zero]
        _ ≤ neededBatches keys key capacity items + 1 := by
            rw [sum_add_one_at]
            apply Nat.add_le_add_left
            split
            · exact Nat.le_refl _
            · exact Nat.zero_le _

/-- No batches are fewer than the keys of their items need. -/
theorem neededBatches_le_length {keys : Finset κ} {batches : List (List α)}
    (positive : 0 < capacity) (areBatches : ∀ batch ∈ batches, IsBatch key capacity batch) :
    neededBatches keys key capacity batches.flatten ≤ batches.length := by
  induction batches with
  | nil =>
      apply Nat.le_of_eq
      apply Finset.sum_eq_zero
      intro wanted _
      exact zero_ceilDiv _
  | cons batch batches ih =>
      obtain ⟨isBatch, areOthers⟩ := List.forall_mem_cons.mp areBatches
      rw [List.flatten_cons, List.length_cons]
      exact Nat.le_trans (isBatch.needed_append_le positive _) (Nat.succ_le_succ (ih areOthers))

/-- A batch that is full, or that holds all items of its key, adds one to the needs of the
other items. -/
theorem IsBatch.needed_append_eq {keys : Finset κ} {batch items : List α} {a : α}
    (isBatch : IsBatch key capacity batch) (member : a ∈ batch) (listed : key a ∈ keys)
    (closed : batch.length = capacity ∨ keyCount key (key a) items = 0) :
    neededBatches keys key capacity (batch ++ items) =
      neededBatches keys key capacity items + 1 := by
  have nonempty : 0 < batch.length := List.length_pos_of_mem member
  have positive : 0 < capacity := Nat.lt_of_lt_of_le nonempty isBatch.fits
  calc neededBatches keys key capacity (batch ++ items)
      = ∑ wanted ∈ keys, (keyCount key wanted items ⌈/⌉ capacity +
          if wanted = key a then 1 else 0) := by
        apply Finset.sum_congr rfl
        intro wanted _
        rw [keyCount_append, isBatch.keyCount_eq member]
        by_cases isKey : wanted = key a
        case neg => rw [if_neg isKey, if_neg isKey, Nat.zero_add, Nat.add_zero]
        case pos =>
          rw [if_pos isKey, if_pos isKey, isKey]
          cases closed with
          | inl full => rw [full, ceilDiv_add_capacity positive]
          | inr last =>
              rw [last, zero_ceilDiv, Nat.add_zero, Nat.ceilDiv_eq_add_pred_div]
              apply Nat.div_eq_of_lt_le
              · omega
              · have fits := isBatch.fits
                omega
    _ = neededBatches keys key capacity items + 1 := by
        rw [sum_add_one_at, if_pos listed]
        rfl

/-- The greedy batches of a grouped list are as many as the keys need. -/
theorem GreedyBatches.length_eq {keys : Finset κ} {batches : List (List α)}
    (greedy : GreedyBatches key capacity batches) (grouped : Grouped key batches.flatten)
    (listed : ∀ item ∈ batches.flatten, key item ∈ keys) :
    batches.length = neededBatches keys key capacity batches.flatten := by
  induction greedy with
  | nil =>
      symm
      apply Finset.sum_eq_zero
      intro wanted _
      exact zero_ceilDiv _
  | @cons batch batches nonempty isBatch closes _ ih =>
      rw [List.flatten_cons] at grouped listed ⊢
      obtain ⟨a, member⟩ := List.exists_mem_of_ne_nil batch nonempty
      have closed : batch.length = capacity ∨ keyCount key (key a) batches.flatten = 0 := by
        cases isRest : batches.flatten with
        | nil => exact .inr rfl
        | cons next later =>
            apply (closes next (by rw [isRest]; rfl)).imp_right
            intro changes
            rw [isRest] at grouped
            exact keyCount_eq_zero fun item isLater => grouped.key_ne changes member isLater
      rw [isBatch.needed_append_eq member (listed a (List.mem_append_left _ member)) closed,
        List.length_cons, ih grouped.of_append_right fun item isLater =>
          listed item (List.mem_append_right _ isLater)]

/-- No rearrangement of a grouped list can be split into fewer batches. -/
theorem GreedyBatches.length_le_of_perm {batches others : List (List α)}
    (greedy : GreedyBatches key capacity batches) (grouped : Grouped key batches.flatten)
    (positive : 0 < capacity) (areBatches : ∀ other ∈ others, IsBatch key capacity other)
    (perm : others.flatten.Perm batches.flatten) : batches.length ≤ others.length := by
  rw [greedy.length_eq grouped fun item member =>
    List.mem_toFinset.mpr (List.mem_map_of_mem member), ← neededBatches_perm perm]
  exact neededBatches_le_length positive areBatches

end TowerDefence.Foundations
