/-!
# Slabs

A slab keeps items in numbered slots.  A removed item leaves its slot free, and
a new item takes the first free slot, so numbers stay small.
-/

namespace DemuxSession

/-- Items in numbered slots, some of which may be free. -/
structure Slab (Item : Type) where
  slots : List (Option Item)
  deriving DecidableEq

namespace Slab

variable {Item : Type}

def empty : Slab Item := ⟨[]⟩

/-- The item in a slot. -/
def get? (slab : Slab Item) (slot : Nat) : Option Item := slab.slots[slot]?.join

/-- The slot a new item takes: the first free one, or one more at the end. -/
def nextSlot (slab : Slab Item) : Nat := slab.slots.findIdx Option.isNone

/-- Puts an item into the next slot. -/
def insert (slab : Slab Item) (item : Item) : Slab Item :=
  if slab.nextSlot < slab.slots.length then ⟨slab.slots.set slab.nextSlot (some item)⟩
  else ⟨slab.slots ++ [some item]⟩

/-- Frees a slot. -/
def remove (slab : Slab Item) (slot : Nat) : Slab Item := ⟨slab.slots.set slot none⟩

/-- The number of items. -/
def count (slab : Slab Item) : Nat := slab.slots.countP Option.isSome

/-- The number of slots, free or not. -/
def capacity (slab : Slab Item) : Nat := slab.slots.length

/-! ## The next slot -/

theorem nextSlot_le_capacity (slab : Slab Item) : slab.nextSlot ≤ slab.capacity :=
  List.findIdx_le_length

/-- The next slot is free. -/
theorem get?_nextSlot (slab : Slab Item) : slab.get? slab.nextSlot = none := by
  by_cases hfree : slab.nextSlot < slab.slots.length
  · have hnone : slab.slots[slab.nextSlot].isNone = true := List.findIdx_getElem
    simpa [get?, List.getElem?_eq_getElem hfree] using hnone
  · simp [get?, List.getElem?_eq_none (Nat.le_of_not_lt hfree)]

/-- All slots before the next one are taken. -/
theorem isSome_get?_of_lt_nextSlot (slab : Slab Item) {slot : Nat} (hlt : slot < slab.nextSlot) :
    (slab.get? slot).isSome = true := by
  have hbound : slot < slab.slots.length := Nat.lt_of_lt_of_le hlt slab.nextSlot_le_capacity
  have hfull := List.not_of_lt_findIdx hlt
  cases hitem : slab.slots[slot] with
  | none => simp [hitem] at hfull
  | some item => simp [get?, List.getElem?_eq_getElem hbound, hitem]

/-! ## What stands in the slots -/

@[simp] theorem get?_empty (slot : Nat) : (empty : Slab Item).get? slot = none := rfl

/-- A new item stands in the slot that was the next one, and no other slot
changes. -/
theorem get?_insert (slab : Slab Item) (item : Item) (slot : Nat) :
    (slab.insert item).get? slot =
      if slot = slab.nextSlot then some item else slab.get? slot := by
  rw [insert]
  split
  case isTrue hfree =>
    by_cases hslot : slot = slab.nextSlot
    · subst hslot
      simp [get?, hfree]
    · simp [get?, hslot, List.getElem?_set_ne (Ne.symm hslot)]
  case isFalse hfull =>
    have hnext : slab.nextSlot = slab.slots.length :=
      Nat.le_antisymm slab.nextSlot_le_capacity (Nat.le_of_not_lt hfull)
    rw [hnext]
    rcases Nat.lt_trichotomy slot slab.slots.length with hlt | heq | hgt
    · simp [get?, List.getElem?_append_left hlt, Nat.ne_of_lt hlt]
    · simp [get?, heq]
    · rw [if_neg (Nat.ne_of_gt hgt)]
      have hlength : (slab.slots ++ [some item]).length ≤ slot := by
        rw [List.length_append]
        exact hgt
      rw [get?, get?, List.getElem?_eq_none hlength, List.getElem?_eq_none (Nat.le_of_lt hgt)]

/-- A removed item leaves its slot free, and no other slot changes. -/
theorem get?_remove (slab : Slab Item) (removed slot : Nat) :
    (slab.remove removed).get? slot = if slot = removed then none else slab.get? slot := by
  by_cases hslot : slot = removed
  · subst hslot
    by_cases hbound : slot < slab.slots.length
    · simp [get?, remove, hbound]
    · simp [get?, remove, hbound]
  · simp [get?, remove, hslot, List.getElem?_set_ne (Ne.symm hslot)]

/-! ## The number of items -/

@[simp] theorem count_empty : (empty : Slab Item).count = 0 := rfl

/-- A new item is one item more. -/
theorem count_insert (slab : Slab Item) (item : Item) :
    (slab.insert item).count = slab.count + 1 := by
  rw [insert]
  split
  case isTrue hfree =>
    have hnone : slab.slots[slab.nextSlot].isNone = true := List.findIdx_getElem
    have hnotSome : ¬ slab.slots[slab.nextSlot].isSome = true := by simpa using hnone
    simp [count, List.countP_set hfree, hnotSome]
  case isFalse hfull => simp [count]

/-- Removing an item is one item less. -/
theorem count_remove (slab : Slab Item) {slot : Nat} (hitem : (slab.get? slot).isSome) :
    (slab.remove slot).count + 1 = slab.count := by
  have hbound : slot < slab.slots.length := by
    refine Nat.lt_of_not_le fun hout => ?_
    simp [get?, List.getElem?_eq_none hout] at hitem
  have hsome : slab.slots[slot].isSome = true := by
    simpa [get?, List.getElem?_eq_getElem hbound] using hitem
  have hpositive : 0 < slab.slots.countP Option.isSome :=
    List.countP_pos_iff.mpr ⟨slab.slots[slot], List.getElem_mem hbound, hsome⟩
  simp only [count, remove, List.countP_set hbound, hsome, Option.isSome_none,
    Bool.false_eq_true, if_true, if_false]
  omega

end Slab

end DemuxSession
