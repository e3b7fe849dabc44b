import Mathlib.Data.List.Forall2
import Mathlib.Data.List.Nodup

/-!
# Carrying a list over

A loop that visits the items of a list in order and either appends an image of
the item to a second list or drops the item.  `Carried keep drop items images`
says that `images` is a possible result: the kept items and their images are
related by `keep`, the dropped ones satisfy `drop`, and the order is that of
`items`.
-/

namespace TowerDefence.Foundations

variable {α β γ : Type}

/-- `images` consists of the images of those items that were not dropped. -/
inductive Carried (keep : α → β → Prop) (drop : α → Prop) : List α → List β → Prop where
  | nil : Carried keep drop [] []
  | keep {item : α} {image : β} {items : List α} {images : List β} :
      keep item image → Carried keep drop items images →
      Carried keep drop (item :: items) (image :: images)
  | drop {item : α} {items : List α} {images : List β} :
      drop item → Carried keep drop items images → Carried keep drop (item :: items) images

/-- A key that related entries share is the same list on both sides. -/
theorem map_eq_of_forall₂ {related : α → β → Prop} {items : List α} {images : List β}
    {itemKey : α → γ} {imageKey : β → γ} (pairs : List.Forall₂ related items images)
    (inherits : ∀ item image, related item image → imageKey image = itemKey item) :
    images.map imageKey = items.map itemKey := by
  induction pairs with
  | nil => rfl
  | cons first _ ih => rw [List.map_cons, List.map_cons, inherits _ _ first, ih]

/-- Related entries stand in the same place. -/
theorem getElem?_of_forall₂ {related : α → β → Prop} {items : List α} {images : List β}
    (pairs : List.Forall₂ related items images) {place : Nat} {image : β}
    (found : images[place]? = some image) :
    ∃ item, items[place]? = some item ∧ related item image := by
  obtain ⟨lt, rfl⟩ := List.getElem?_eq_some_iff.mp found
  obtain ⟨sameLength, paired⟩ := List.forall₂_iff_get.mp pairs
  have inside : place < items.length := sameLength ▸ lt
  exact ⟨_, List.getElem?_eq_getElem inside, paired place inside lt⟩

namespace Carried

variable {keep : α → β → Prop} {drop : α → Prop} {items : List α} {images : List β}

theorem append {items' : List α} {images' : List β} (first : Carried keep drop items images)
    (second : Carried keep drop items' images') :
    Carried keep drop (items ++ items') (images ++ images') := by
  induction first with
  | nil => exact second
  | keep related _ ih => exact .keep related ih
  | drop dropped _ ih => exact .drop dropped ih

/-- One more item is kept. -/
theorem append_keep {item : α} {image : β} (carried : Carried keep drop items images)
    (related : keep item image) :
    Carried keep drop (items ++ [item]) (images ++ [image]) :=
  carried.append (.keep related .nil)

/-- One more item is dropped. -/
theorem append_drop {item : α} (carried : Carried keep drop items images)
    (dropped : drop item) : Carried keep drop (items ++ [item]) images := by
  simpa using carried.append (.drop dropped .nil)

theorem mono {keep' : α → β → Prop} {drop' : α → Prop}
    (carried : Carried keep drop items images)
    (weakenKeep : ∀ item image, keep item image → keep' item image)
    (weakenDrop : ∀ item, drop item → drop' item) : Carried keep' drop' items images := by
  induction carried with
  | nil => exact .nil
  | keep related _ ih => exact .keep (weakenKeep _ _ related) ih
  | drop dropped _ ih => exact .drop (weakenDrop _ dropped) ih

/-- The items may be replaced by what the relations depend on. -/
theorem map {items : List γ} {item : γ → α} {keepItem : γ → β → Prop} {dropItem : γ → Prop}
    (carried : Carried keepItem dropItem items images)
    (keeps : ∀ source image, keepItem source image → keep (item source) image)
    (drops : ∀ source, dropItem source → drop (item source)) :
    Carried keep drop (items.map item) images := by
  induction carried with
  | nil => exact .nil
  | keep related _ ih => exact .keep (keeps _ _ related) ih
  | drop dropped _ ih => exact .drop (drops _ dropped) ih

/-- Every item may be dropped. -/
theorem drop_all (dropped : ∀ item ∈ items, drop item) : Carried keep drop items [] := by
  induction items with
  | nil => exact .nil
  | cons item items ih =>
      exact .drop (dropped item List.mem_cons_self)
        (ih fun other member => dropped other (List.mem_cons_of_mem _ member))

/-- Images may be exchanged for others with the same keys. -/
theorem of_key_eq {key : β → γ} {images' : List β} (carried : Carried keep drop items images)
    (sameKeys : images'.map key = images.map key)
    (respects : ∀ item image image', keep item image → key image' = key image →
      keep item image') : Carried keep drop items images' := by
  induction carried generalizing images' with
  | nil =>
      rw [List.map_nil, List.map_eq_nil_iff] at sameKeys
      rw [sameKeys]
      exact .nil
  | keep related _ ih =>
      rw [List.map_cons, List.map_eq_cons_iff] at sameKeys
      rcases sameKeys with ⟨image', rest, split, sameKey, sameRest⟩
      rw [split]
      exact .keep (respects _ _ _ related sameKey) (ih sameRest)
  | drop dropped _ ih => exact .drop dropped (ih sameKeys)

theorem exists_of_mem_images {image : β} (carried : Carried keep drop items images)
    (member : image ∈ images) : ∃ item ∈ items, keep item image := by
  induction carried with
  | nil => cases member
  | @keep item head items images related _ ih =>
      cases List.mem_cons.mp member with
      | inl equal => exact ⟨item, List.mem_cons_self, equal ▸ related⟩
      | inr later =>
          obtain ⟨item, itemMember, related⟩ := ih later
          exact ⟨item, List.mem_cons_of_mem _ itemMember, related⟩
  | drop _ _ ih =>
      obtain ⟨item, itemMember, related⟩ := ih member
      exact ⟨item, List.mem_cons_of_mem _ itemMember, related⟩

/-- Every item was kept or dropped. -/
theorem kept_or_dropped {item : α} (carried : Carried keep drop items images)
    (member : item ∈ items) : drop item ∨ ∃ image ∈ images, keep item image := by
  induction carried with
  | nil => cases member
  | @keep head image items images related _ ih =>
      cases List.mem_cons.mp member with
      | inl equal => exact .inr ⟨image, List.mem_cons_self, equal ▸ related⟩
      | inr later =>
          cases ih later with
          | inl dropped => exact .inl dropped
          | inr kept =>
              rcases kept with ⟨image, imageMember, related⟩
              exact .inr ⟨image, List.mem_cons_of_mem _ imageMember, related⟩
  | drop dropped _ ih =>
      cases List.mem_cons.mp member with
      | inl equal => exact .inl (equal ▸ dropped)
      | inr later => exact ih later

/-- A key that images inherit from their items keeps its order. -/
theorem map_sublist {itemKey : α → γ} {imageKey : β → γ}
    (carried : Carried keep drop items images)
    (inherits : ∀ item image, keep item image → imageKey image = itemKey item) :
    (images.map imageKey).Sublist (items.map itemKey) := by
  induction carried with
  | nil => exact .slnil
  | keep related _ ih =>
      rw [List.map_cons, List.map_cons, inherits _ _ related]
      exact ih.cons_cons _
  | drop _ _ ih =>
      rw [List.map_cons]
      exact ih.cons _

/-- When one test separates kept from dropped items, the images correspond
position by position to the items that pass it. -/
theorem forall₂_filter (carried : Carried keep drop items images) (stays : α → Bool)
    (kept : ∀ item image, keep item image → stays item = true)
    (dropped : ∀ item, drop item → stays item = false) :
    List.Forall₂ keep (items.filter stays) images := by
  induction carried with
  | nil => exact .nil
  | keep related _ ih =>
      rw [List.filter_cons_of_pos (kept _ _ related)]
      exact .cons related ih
  | drop isDropped _ ih =>
      rw [List.filter_cons_of_neg (by simp [dropped _ isDropped])]
      exact ih

/-- A dropped item leaves no image behind when keys do not repeat. -/
theorem key_notMem_of_drop {itemKey : α → γ} {imageKey : β → γ} {item : α}
    (carried : Carried keep drop items images)
    (inherits : ∀ item image, keep item image → imageKey image = itemKey item)
    (exclusive : ∀ image, ¬keep item image) (distinct : (items.map itemKey).Nodup)
    (member : item ∈ items) : itemKey item ∉ images.map imageKey := by
  intro present
  obtain ⟨image, imageMember, sameKey⟩ := List.mem_map.mp present
  obtain ⟨origin, originMember, related⟩ := carried.exists_of_mem_images imageMember
  have sameItem : origin = item := by
    apply List.inj_on_of_nodup_map distinct originMember member
    rw [← inherits _ _ related, sameKey]
  exact exclusive image (sameItem ▸ related)

end Carried

end TowerDefence.Foundations
