import Mathlib.Data.List.Perm.Basic
import Mathlib.Data.List.Sort

/-!
# Ordered maps

A map that is iterated in the order of its keys, such as the one of the C++
standard library: a list of entries with increasing keys.  Assigning to a key
replaces its entry or inserts one in its place.
-/

namespace TowerDefence.Foundations

variable {κ β : Type} [LinearOrder κ]

/-- The entries of an ordered map, in the order of their keys. -/
structure OrderedMap (κ β : Type) [LinearOrder κ] where
  entries : List (κ × β)
  increasing : (entries.map Prod.fst).Pairwise (· < ·)

namespace OrderedMap

/-- A map without entries. -/
def empty : OrderedMap κ β := ⟨[], .nil⟩

/-- The order of entries is that of their keys. -/
def KeyLe (first second : κ × β) : Prop := first.1 ≤ second.1

instance : DecidableRel (KeyLe (κ := κ) (β := β)) :=
  fun first second => inferInstanceAs (Decidable (first.1 ≤ second.1))

instance : IsTrans (κ × β) KeyLe := ⟨fun _ _ _ first second => le_trans first second⟩

instance : Std.Total (KeyLe (κ := κ) (β := β)) := ⟨fun first second => le_total first.1 second.1⟩

/-- The entries after an assignment to a key. -/
def assign (entries : List (κ × β)) (key : κ) (value : β) : List (κ × β) :=
  (entries.filter fun entry => entry.1 ≠ key).orderedInsert KeyLe (key, value)

theorem assign_perm (entries : List (κ × β)) (key : κ) (value : β) :
    (assign entries key value).Perm
      ((key, value) :: entries.filter fun entry => entry.1 ≠ key) :=
  List.perm_orderedInsert _ _ _

theorem assign_increasing {entries : List (κ × β)}
    (increasing : (entries.map Prod.fst).Pairwise (· < ·)) (key : κ) (value : β) :
    ((assign entries key value).map Prod.fst).Pairwise (· < ·) := by
  have others : (entries.filter fun entry => entry.1 ≠ key).Pairwise KeyLe := by
    rw [List.pairwise_map] at increasing
    exact (increasing.imp fun less => le_of_lt less).filter _
  have sorted : (assign entries key value).Pairwise KeyLe := others.orderedInsert _ _
  have distinct : ((assign entries key value).map Prod.fst).Nodup := by
    rw [((assign_perm entries key value).map Prod.fst).nodup_iff, List.map_cons, List.nodup_cons]
    refine ⟨by simp, ?_⟩
    exact (increasing.imp fun less => ne_of_lt less).sublist ((List.filter_sublist).map Prod.fst)
  have ordered : ((assign entries key value).map Prod.fst).Pairwise (· ≤ ·) :=
    List.pairwise_map.mpr sorted
  exact (ordered.and distinct).imp fun both => lt_of_le_of_ne both.1 both.2

/-- `map[key] = value`. -/
def insert (map : OrderedMap κ β) (key : κ) (value : β) : OrderedMap κ β :=
  ⟨assign map.entries key value, assign_increasing map.increasing key value⟩

variable {map : OrderedMap κ β} {key : κ} {value : β}

theorem keys_nodup (map : OrderedMap κ β) : (map.entries.map Prod.fst).Nodup :=
  map.increasing.imp ne_of_lt

/-- A key that is not in the map gets an entry of its own. -/
theorem insert_perm (fresh : key ∉ map.entries.map Prod.fst) :
    (map.insert key value).entries.Perm (map.entries ++ [(key, value)]) := by
  have all : (map.entries.filter fun entry => entry.1 ≠ key) = map.entries := by
    rw [List.filter_eq_self]
    intro entry member
    rw [decide_eq_true_eq]
    exact fun same => fresh (List.mem_map.mpr ⟨entry, member, same⟩)
  refine (assign_perm map.entries key value).trans ?_
  rw [all]
  exact (List.perm_append_singleton _ _).symm

/-- Images that are permuted are the images of permuted items. -/
theorem exists_map_of_perm {α γ : Type} {image : α → γ} {items : List α} {images : List γ}
    (permuted : images.Perm (items.map image)) :
    ∃ ordered : List α, ordered.Perm items ∧ images = ordered.map image := by
  obtain ⟨ordered, sameImages, isPerm⟩ := List.perm_comp_forall₂ permuted
    (List.forall₂_map_left_iff.mpr (List.forall₂_same.mpr fun item _ => Eq.refl (image item)) :
      List.Forall₂ (fun whole item => whole = image item) (items.map image) items)
  rw [← List.forall₂_map_right_iff, List.forall₂_eq_eq_eq] at sameImages
  exact ⟨ordered, isPerm, sameImages⟩

end OrderedMap

end TowerDefence.Foundations
