import Mathlib.Order.Lattice

/-!
# Comparisons for sorting

A sort that is given a comparison has to work for strict weak orderings only.
This module says when the comparison "smaller in one key or in the other" is one:
the two keys must never pull in opposite directions.
-/

namespace TowerDefence.Foundations

variable {α κ μ : Type}

/-- The comparison is a strict weak ordering of the items. -/
structure StrictWeakOrder (less : α → α → Bool) (items : List α) : Prop where
  irreflexive : ∀ a ∈ items, less a a = false
  asymmetric : ∀ a ∈ items, ∀ b ∈ items, less a b = true → less b a = false
  transitive : ∀ a ∈ items, ∀ b ∈ items, ∀ c ∈ items,
    less a b = true → less b c = true → less a c = true
  incomparable : ∀ a ∈ items, ∀ b ∈ items, ∀ c ∈ items,
    less a b = false → less b a = false → less b c = false → less c b = false →
      less a c = false ∧ less c a = false

instance (less : α → α → Bool) (items : List α) : Decidable (StrictWeakOrder less items) :=
  decidable_of_iff
    ((∀ a ∈ items, less a a = false) ∧
      (∀ a ∈ items, ∀ b ∈ items, less a b = true → less b a = false) ∧
      (∀ a ∈ items, ∀ b ∈ items, ∀ c ∈ items,
        less a b = true → less b c = true → less a c = true) ∧
      ∀ a ∈ items, ∀ b ∈ items, ∀ c ∈ items,
        less a b = false → less b a = false → less b c = false → less c b = false →
          less a c = false ∧ less c a = false)
    ⟨fun conditions => ⟨conditions.1, conditions.2.1, conditions.2.2.1, conditions.2.2.2⟩,
      fun ordering => ⟨ordering.irreflexive, ordering.asymmetric, ordering.transitive,
        ordering.incomparable⟩⟩

/-- Comparing the keys of a linear order is one. -/
theorem StrictWeakOrder.of_key [LinearOrder κ] {less : α → α → Bool} {items : List α}
    (key : α → κ) (compares : ∀ a ∈ items, ∀ b ∈ items, less a b = decide (key a < key b)) :
    StrictWeakOrder less items where
  irreflexive a memberA := by
    rw [compares a memberA a memberA]
    exact decide_eq_false (lt_irrefl _)
  asymmetric a memberA b memberB isLess := by
    rw [compares a memberA b memberB, decide_eq_true_iff] at isLess
    rw [compares b memberB a memberA]
    exact decide_eq_false isLess.asymm
  transitive a memberA b memberB c memberC first second := by
    rw [compares a memberA b memberB, decide_eq_true_iff] at first
    rw [compares b memberB c memberC, decide_eq_true_iff] at second
    rw [compares a memberA c memberC]
    exact decide_eq_true (first.trans second)
  incomparable a memberA b memberB c memberC notAB notBA notBC notCB := by
    rw [compares a memberA b memberB, decide_eq_false_iff_not, not_lt] at notAB
    rw [compares b memberB a memberA, decide_eq_false_iff_not, not_lt] at notBA
    rw [compares b memberB c memberC, decide_eq_false_iff_not, not_lt] at notBC
    rw [compares c memberC b memberB, decide_eq_false_iff_not, not_lt] at notCB
    rw [compares a memberA c memberC, compares c memberC a memberA]
    exact ⟨decide_eq_false (notBC.trans notAB).not_gt, decide_eq_false (notBA.trans notCB).not_gt⟩

/-- A sort that is correct for strict weak orderings; nothing is known about what
it does with any other comparison. -/
structure ComparisonSort (α : Type) where
  sort : (α → α → Bool) → List α → List α
  correct : ∀ less items, StrictWeakOrder less items →
    (sort less items).Perm items ∧ (sort less items).Pairwise fun a b => less b a = false

@[simp] theorem ComparisonSort.sort_nil (std : ComparisonSort α) (less : α → α → Bool) :
    std.sort less [] = [] :=
  (std.correct less [] ⟨by simp, by simp, by simp, by simp⟩).1.eq_nil

/-- Not to be greater is transitive. -/
theorem StrictWeakOrder.not_less_trans {less : α → α → Bool} {items : List α}
    (ordering : StrictWeakOrder less items) {a b c : α} (memberA : a ∈ items) (memberB : b ∈ items)
    (memberC : c ∈ items) (first : less b a = false) (second : less c b = false) :
    less c a = false := by
  by_contra isLess
  rw [Bool.not_eq_false] at isLess
  have sameAB : less a b = false := by
    by_contra above
    rw [ordering.transitive c memberC a memberA b memberB isLess
      (eq_true_of_ne_false above)] at second
    cases second
  have sameBC : less b c = false := by
    by_contra above
    rw [ordering.transitive b memberB c memberC a memberA (eq_true_of_ne_false above)
      isLess] at first
    cases first
  have same := ordering.incomparable a memberA b memberB c memberC sameAB first sameBC second
  rw [same.2] at isLess
  cases isLess

/-- Sorting by merging is such a sort. -/
def ComparisonSort.merge : ComparisonSort α where
  sort less items := (items.attach.mergeSort fun a b => !less b a).map Subtype.val
  correct less items ordering := by
    constructor
    · have perm := (List.mergeSort_perm items.attach fun a b => !less b a).map Subtype.val
      rw [List.attach_map_subtype_val] at perm
      exact perm
    · rw [List.pairwise_map]
      refine List.Pairwise.imp ?_ (List.pairwise_mergeSort ?_ ?_ items.attach)
      · intro a b notGreater
        rw [Bool.not_eq_true'] at notGreater
        exact notGreater
      · intro a b c first second
        rw [Bool.not_eq_true'] at first second ⊢
        exact ordering.not_less_trans a.2 b.2 c.2 first second
      · intro a b
        cases isLess : less b a with
        | false => rfl
        | true =>
            rw [ordering.asymmetric b b.2 a a.2 isLess]
            rfl

/-- In a sorted list, what stands between two items lies between their keys. -/
theorem between_of_pairwise_le [LE κ] {key : α → κ} {front middle back : List α} {a b item : α}
    (sorted : (front ++ a :: (middle ++ b :: back)).Pairwise fun x y => key x ≤ key y)
    (member : item ∈ middle) : key a ≤ key item ∧ key item ≤ key b := by
  have fromFirst := (List.pairwise_append.mp sorted).2.1
  obtain ⟨afterFirst, rest⟩ := List.pairwise_cons.mp fromFirst
  have toSecond := (List.pairwise_append.mp rest).2.2
  exact ⟨afterFirst item (List.mem_append_left _ member),
    toSecond item member b List.mem_cons_self⟩

section LessByEither

variable [LinearOrder κ] [LinearOrder μ]

/-- Smaller in one of two keys. -/
def lessByEither (major : α → κ) (minor : α → μ) (a b : α) : Bool :=
  major a < major b ∨ minor a < minor b

variable {major : α → κ} {minor : α → μ} {items : List α} {a b : α}

theorem lessByEither_eq_false :
    lessByEither major minor a b = false ↔ major b ≤ major a ∧ minor b ≤ minor a := by
  simp [lessByEither]

/-- The two keys never pull in opposite directions. -/
def Aligned (major : α → κ) (minor : α → μ) (items : List α) : Prop :=
  ∀ a ∈ items, ∀ b ∈ items, major a < major b → minor a ≤ minor b

/-- Items with aligned keys are less in one of them only if they are not greater
in the other. -/
theorem Aligned.not_less (aligned : Aligned major minor items) (memberA : a ∈ items)
    (memberB : b ∈ items) (less : lessByEither major minor a b = true) :
    lessByEither major minor b a = false := by
  rw [lessByEither_eq_false]
  simp only [lessByEither, decide_eq_true_eq] at less
  cases less with
  | inl byMajor => exact ⟨le_of_lt byMajor, aligned a memberA b memberB byMajor⟩
  | inr byMinor =>
      refine ⟨?_, le_of_lt byMinor⟩
      by_contra opposite
      have reversed := aligned b memberB a memberA (lt_of_not_ge opposite)
      exact absurd byMinor (not_lt.mpr reversed)

/-- Comparing by either key is a strict weak ordering exactly for aligned keys. -/
theorem strictWeakOrder_lessByEither_iff :
    StrictWeakOrder (lessByEither major minor) items ↔ Aligned major minor items := by
  constructor
  · intro ordering a memberA b memberB byMajor
    have less : lessByEither major minor a b = true := by
      simp [lessByEither, byMajor]
    have notGreater := ordering.asymmetric a memberA b memberB less
    exact (lessByEither_eq_false.mp notGreater).2
  · intro aligned
    constructor
    · intro a _
      exact lessByEither_eq_false.mpr ⟨le_refl _, le_refl _⟩
    · intro a memberA b memberB less
      exact aligned.not_less memberA memberB less
    · intro a memberA b memberB c memberC lessAB lessBC
      have notGreaterAB := lessByEither_eq_false.mp (aligned.not_less memberA memberB lessAB)
      have notGreaterBC := lessByEither_eq_false.mp (aligned.not_less memberB memberC lessBC)
      simp only [lessByEither, decide_eq_true_eq] at lessAB ⊢
      cases lessAB with
      | inl byMajor => exact .inl (lt_of_lt_of_le byMajor notGreaterBC.1)
      | inr byMinor => exact .inr (lt_of_lt_of_le byMinor notGreaterBC.2)
    · intro a _ b _ c _ notAB notBA notBC notCB
      rw [lessByEither_eq_false] at notAB notBA notBC notCB
      constructor
      · exact lessByEither_eq_false.mpr
          ⟨le_trans notBC.1 notAB.1, le_trans notBC.2 notAB.2⟩
      · exact lessByEither_eq_false.mpr
          ⟨le_trans notBA.1 notCB.1, le_trans notBA.2 notCB.2⟩

end LessByEither

end TowerDefence.Foundations
