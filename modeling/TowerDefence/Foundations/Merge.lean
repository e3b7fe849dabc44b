import Mathlib.Data.List.Nodup

/-!
# One-pass matching of two lists

A loop that walks along two lists and pairs entries with equal keys, advancing
the second list only after a match.  It finds every common key when the second
list consists of entries of the first, in the same order, followed by new ones.
As soon as a new entry comes before a common one, the loop gets stuck there.
-/

namespace TowerDefence.Foundations

variable {κ α β : Type} [DecidableEq κ]

/-- The keys that the loop matches. -/
def matched : (earlier later : List κ) → List κ
  | [], _ => []
  | _ :: _, [] => []
  | a :: earlier, b :: later =>
      if a = b then b :: matched earlier later else matched earlier (b :: later)

/-- The loop, with the entries it produces. -/
def mergeBy (key : α → κ) (combine : α → α → α) : (earlier later : List α) → List α
  | [], _ => []
  | _ :: _, [] => []
  | a :: earlier, b :: later =>
      if key a = key b then combine a b :: mergeBy key combine earlier later
      else mergeBy key combine earlier (b :: later)

theorem mergeBy_nil (key : α → κ) (combine : α → α → α) (earlier : List α) :
    mergeBy key combine earlier [] = [] := by
  cases earlier <;> rfl

/-- The keys of the produced entries are the matched keys. -/
theorem map_mergeBy {key : α → κ} {combine : α → α → α}
    (keeps : ∀ a b, key (combine a b) = key b) (earlier later : List α) :
    (mergeBy key combine earlier later).map key =
      matched (earlier.map key) (later.map key) := by
  induction earlier generalizing later with
  | nil => rfl
  | cons a earlier ih =>
      cases later with
      | nil => rfl
      | cons b later =>
          simp only [mergeBy, List.map_cons, matched]
          split
          · rw [List.map_cons, keeps, ih]
          · rw [ih, List.map_cons]

/-- A produced entry combines two entries with equal keys. -/
theorem exists_of_mem_mergeBy {key : α → κ} {combine : α → α → α} {earlier later : List α}
    {entry : α} (member : entry ∈ mergeBy key combine earlier later) :
    ∃ a ∈ earlier, ∃ b ∈ later, key a = key b ∧ entry = combine a b := by
  induction earlier generalizing later with
  | nil => cases member
  | cons first earlier ih =>
      cases later with
      | nil => cases member
      | cons second later =>
          rw [mergeBy] at member
          split at member
          · rename_i same
            cases List.mem_cons.mp member with
            | inl here =>
                exact ⟨first, List.mem_cons_self, second, List.mem_cons_self, same, here⟩
            | inr further =>
                obtain ⟨a, aMember, b, bMember, combined⟩ := ih further
                exact ⟨a, List.mem_cons_of_mem _ aMember, b, List.mem_cons_of_mem _ bMember,
                  combined⟩
          · obtain ⟨a, aMember, combined⟩ := ih member
            exact ⟨a, List.mem_cons_of_mem _ aMember, combined⟩

theorem length_matched_le (earlier later : List κ) :
    (matched earlier later).length ≤ earlier.length := by
  induction earlier generalizing later with
  | nil => exact Nat.le_refl 0
  | cons a earlier ih =>
      cases later with
      | nil => exact Nat.zero_le _
      | cons b later =>
          rw [matched]
          split
          · exact Nat.succ_le_succ (ih later)
          · exact Nat.le_succ_of_le (ih (b :: later))

/-- A first entry with a new key blocks the loop. -/
theorem matched_eq_nil {earlier later : List κ} {fresh : κ} (isFresh : fresh ∉ earlier) :
    matched earlier (fresh :: later) = [] := by
  induction earlier with
  | nil => rfl
  | cons a earlier ih =>
      have different : a ≠ fresh := fun same => isFresh (same ▸ List.mem_cons_self)
      rw [matched, if_neg different]
      exact ih fun member => isFresh (List.mem_cons_of_mem _ member)

/-- New entries behind the common ones do no harm. -/
theorem matched_append {earlier kept fresh : List κ} (sublist : kept.Sublist earlier)
    (nodup : earlier.Nodup) (isFresh : ∀ key ∈ fresh, key ∉ earlier) :
    matched earlier (kept ++ fresh) = kept := by
  induction earlier generalizing kept with
  | nil =>
      rw [List.sublist_nil.mp sublist]
      rfl
  | cons a earlier ih =>
      obtain ⟨notAgain, nodup⟩ := List.nodup_cons.mp nodup
      have laterFresh : ∀ key ∈ fresh, key ∉ earlier := by
        intro key member present
        exact isFresh key member (List.mem_cons_of_mem _ present)
      cases kept with
      | nil =>
          cases fresh with
          | nil => rfl
          | cons b fresh => exact matched_eq_nil (isFresh b List.mem_cons_self)
      | cons b kept =>
          rw [List.cons_append, matched]
          cases sublist with
          | cons _ skipped =>
              have different : a ≠ b := by
                intro same
                exact notAgain (same ▸ skipped.subset List.mem_cons_self)
              rw [if_neg different]
              exact ih skipped nodup laterFresh
          | cons_cons _ rest =>
              rw [if_pos rfl, ih rest nodup laterFresh]

/-- The matched keys are the common ones, in the order of the second list. -/
def Matches (earlier later found : List κ) : Prop :=
  found = later.filter (· ∈ earlier)

theorem matches_append {earlier kept fresh : List κ} (sublist : kept.Sublist earlier)
    (nodup : earlier.Nodup) (isFresh : ∀ key ∈ fresh, key ∉ earlier) :
    Matches earlier (kept ++ fresh) (matched earlier (kept ++ fresh)) := by
  have keptAll : kept.filter (· ∈ earlier) = kept := by
    rw [List.filter_eq_self]
    intro key member
    exact decide_eq_true (sublist.subset member)
  have freshNone : fresh.filter (· ∈ earlier) = [] := by
    rw [List.filter_eq_nil_iff]
    intro key member
    simpa using isFresh key member
  rw [Matches, matched_append sublist nodup isFresh, List.filter_append, keptAll, freshNone,
    List.append_nil]

/-- With new entries in front, the loop finds the common keys only if the second
list has either no new entries or no common keys. -/
theorem matches_of_fresh_append_iff {earlier kept fresh : List κ} (sublist : kept.Sublist earlier)
    (nodup : earlier.Nodup) (isFresh : ∀ key ∈ fresh, key ∉ earlier) :
    Matches earlier (fresh ++ kept) (matched earlier (fresh ++ kept)) ↔
      (∀ key ∈ fresh ++ kept, key ∈ earlier) ∨ ∀ key ∈ fresh ++ kept, key ∉ earlier := by
  cases fresh with
  | nil =>
      have found := matches_append sublist nodup isFresh
      rw [List.append_nil] at found
      have allCommon : ∀ key ∈ kept, key ∈ earlier := fun key member => sublist.subset member
      simp only [List.nil_append, found, true_iff]
      exact .inl allCommon
  | cons b fresh =>
      have blocked := isFresh b List.mem_cons_self
      rw [Matches, List.cons_append, matched_eq_nil blocked, eq_comm, List.filter_eq_nil_iff]
      constructor
      · intro noneCommon
        apply Or.inr
        intro key member
        simpa using noneCommon key member
      · intro separated key member
        cases separated with
        | inl allCommon => exact absurd (allCommon b List.mem_cons_self) blocked
        | inr noneCommon => simpa using noneCommon key member

/-! ## Matchable lists -/

/-- Two lists that one pass can match: keys do not repeat, the common keys come in
the same order, and in the second list they come before the others. -/
structure Matchable (earlier later : List κ) : Prop where
  earlierNodup : earlier.Nodup
  laterNodup : later.Nodup
  sameOrder : earlier.filter (· ∈ later) = later.filter (· ∈ earlier)
  commonFirst : later.Pairwise fun first second => second ∈ earlier → first ∈ earlier

/-- If nothing comes before the entries with a property, they are a prefix. -/
theorem filter_prefix {items : List α} {holds : α → Prop} [DecidablePred holds]
    (inFront : items.Pairwise fun first second => holds second → holds first) :
    ∃ rest, items = items.filter (fun item => holds item) ++ rest ∧ ∀ item ∈ rest, ¬holds item := by
  induction items with
  | nil => exact ⟨[], rfl, List.forall_mem_nil _⟩
  | cons first items ih =>
      obtain ⟨firstFirst, inFront⟩ := List.pairwise_cons.mp inFront
      by_cases here : holds first
      · obtain ⟨rest, split, others⟩ := ih inFront
        refine ⟨rest, ?_, others⟩
        rw [List.filter_cons, if_pos (decide_eq_true here), List.cons_append, ← split]
      · have nowhere : ∀ item ∈ first :: items, ¬holds item :=
          List.forall_mem_cons.mpr
            ⟨here, fun item member there => here (firstFirst item member there)⟩
        refine ⟨first :: items, ?_, nowhere⟩
        rw [List.filter_eq_nil_iff.mpr (by simpa using nowhere), List.nil_append]

namespace Matchable

variable {earlier later : List κ}

/-- A list can be matched with itself. -/
theorem self {keys : List κ} (nodup : keys.Nodup) : Matchable keys keys :=
  ⟨nodup, nodup, rfl, List.pairwise_of_forall_mem_list fun _ member _ _ _ => member⟩

/-- The loop finds all common keys. -/
theorem matched_eq (matchable : Matchable earlier later) :
    matched earlier later = later.filter (· ∈ earlier) := by
  obtain ⟨fresh, split, isFresh⟩ := filter_prefix matchable.commonFirst
  have sublist : (later.filter (· ∈ earlier)).Sublist earlier := by
    rw [← matchable.sameOrder]
    exact List.filter_sublist
  have found := matched_append sublist matchable.earlierNodup isFresh
  rwa [← split] at found

/-- If all keys of the second list are common, it is a part of the first list. -/
theorem sublist_of_subset (matchable : Matchable earlier later) (common : later ⊆ earlier) :
    later.Sublist earlier := by
  have allCommon : later.filter (· ∈ earlier) = later := by
    rw [List.filter_eq_self]
    exact fun key member => decide_eq_true (common member)
  rw [← allCommon, ← matchable.sameOrder]
  exact List.filter_sublist

end Matchable

end TowerDefence.Foundations
