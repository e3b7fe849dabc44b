import Mathlib.Data.List.Perm.Basic

/-!
# All but one

A loop over the entries of a list that leaves out one slot sees the list without that entry.
Lists that are permutations of each other stay so when each loses one occurrence of the same
item, wherever it stands.
-/

namespace TowerDefence.Foundations

variable {α : Type} {items other : List α} {item : α} {slot otherSlot : Nat}

/-! ## Leaving out a slot -/

/-- No entry is left out for a slot before the list. -/
theorem filter_zipIdx_of_lt (items : List α) {start slot : Nat} (before : slot < start)
    (keep : α → Bool) :
    ((items.zipIdx start).filter fun entry =>
        decide (slot ≠ entry.2) && keep entry.1).map Prod.fst = items.filter keep := by
  induction items generalizing start with
  | nil => rfl
  | cons item items ih =>
      have elsewhere : decide (slot ≠ start) = true := decide_eq_true (Nat.ne_of_lt before)
      rw [List.zipIdx_cons, List.filter_cons, List.filter_cons, elsewhere, Bool.true_and]
      split
      · rw [List.map_cons, ih (Nat.lt_succ_of_lt before)]
      · exact ih (Nat.lt_succ_of_lt before)

/-- The entries outside a slot, read without their slots. -/
theorem filter_zipIdx (items : List α) (start slot : Nat) (keep : α → Bool) :
    ((items.zipIdx start).filter fun entry =>
        decide (start + slot ≠ entry.2) && keep entry.1).map Prod.fst =
      (items.eraseIdx slot).filter keep := by
  induction items generalizing start slot with
  | nil => rfl
  | cons item items ih =>
      rw [List.zipIdx_cons, List.filter_cons]
      cases slot with
      | zero =>
          have itself : decide (start + 0 ≠ start) = false := decide_eq_false (by simp)
          rw [itself, Bool.false_and, if_neg Bool.false_ne_true, List.eraseIdx_cons_zero]
          exact filter_zipIdx_of_lt items (Nat.lt_succ_self start) keep
      | succ slot =>
          have elsewhere : decide (start + (slot + 1) ≠ start) = true :=
            decide_eq_true (by omega)
          have later := ih (start + 1) slot
          rw [Nat.add_assoc, Nat.add_comm 1] at later
          rw [elsewhere, Bool.true_and, List.eraseIdx_cons_succ, List.filter_cons]
          split
          · rw [List.map_cons, later]
          · exact later

/-- What is left of two permutations when each loses the same item. -/
theorem eraseIdx_perm (perm : items.Perm other) (found : items[slot]? = some item)
    (foundOther : other[otherSlot]? = some item) :
    (items.eraseIdx slot).Perm (other.eraseIdx otherSlot) := by
  obtain ⟨inside, sameItem⟩ := List.getElem?_eq_some_iff.mp found
  obtain ⟨insideOther, sameOther⟩ := List.getElem?_eq_some_iff.mp foundOther
  have split := List.getElem_cons_eraseIdx_perm inside
  have splitOther := List.getElem_cons_eraseIdx_perm insideOther
  rw [sameItem] at split
  rw [sameOther] at splitOther
  exact (split.trans (perm.trans splitOther.symm)).cons_inv

/-! ## Leaving out the slots -/

section Actions

variable {β : Type} {m : Type → Type} [Monad m] [LawfulMonad m]

theorem mapM_congr_of_mem {action actionOn : α → m β}
    (same : ∀ item ∈ items, action item = actionOn item) :
    items.mapM action = items.mapM actionOn := by
  induction items with
  | nil => rfl
  | cons item items ih =>
      rw [List.mapM_cons, List.mapM_cons, same item List.mem_cons_self,
        ih fun later member => same later (List.mem_cons_of_mem _ member)]

/-- An action that does not depend on the slots of the entries. -/
theorem mapM_zipIdx {action : α × Nat → m β} {actionOn : α → m β}
    (same : ∀ item slot, items[slot]? = some item → action (item, slot) = actionOn item) :
    items.zipIdx.mapM action = items.mapM actionOn := by
  have slotless : items.zipIdx.mapM action = items.zipIdx.mapM (actionOn ∘ Prod.fst) :=
    mapM_congr_of_mem fun entry member =>
      same entry.1 entry.2 (List.mem_zipIdx_iff_getElem?.mp member)
  rw [slotless, ← List.mapM_map, List.zipIdx_map_fst]

end Actions

end TowerDefence.Foundations
