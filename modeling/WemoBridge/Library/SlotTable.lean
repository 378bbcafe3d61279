/-
**Tables of slots**, as partial functions from slots to items.

Two tables mirror each other (`Mirrors`) if the same slots are filled and the items of a slot agree;
a table has distinct keys (`DistinctKeys`) if no two slots hold items of one key. Both survive
filling one slot on both sides and clearing one slot on both sides. Laying a newer table over an
older one keeps the keys distinct exactly if it covers every older slot that has the key of a newer
item (`distinctKeys_overlay_iff`).

A table that changes by layers and replacements holds at a slot what the last change that decides
the slot says (`layered_apply`), so what a change wrote is still there exactly if the last later
change that decides the slot agrees (`layered_keeps_iff`).

A table that is filled from the front shows a list, and filling its next slot appends to the list
(`update_length_eq`).
-/

import Mathlib

namespace WemoBridge.Library

variable {Slot Item Image Key : Type}

/-- The same slots are filled, with items that agree. -/
def Mirrors (agree : Item → Image → Prop) (table : Slot → Option Item)
    (mirror : Slot → Option Image) : Prop :=
  ∀ slot, Option.Rel agree (table slot) (mirror slot)

/-- No two slots hold items of one key. -/
def DistinctKeys (key : Item → Key) (table : Slot → Option Item) : Prop :=
  ∀ slot other item second, table slot = some item → table other = some second →
    key item = key second → slot = other

section Filled

variable [DecidableEq Slot] {table : Slot → Option Item} {slot other : Slot} {item : Item}

/-- What is filled after clearing a slot was filled before. -/
theorem eq_some_of_clear (filled : Function.update table slot none other = some item) :
    table other = some item := by
  by_cases same : other = slot
  · subst same
    rw [Function.update_self] at filled
    cases filled
  · rwa [Function.update_of_ne same] at filled

/-- What holds of all filled slots and of a new one holds after filling it. -/
theorem forall_filled_update {property : Slot → Item → Prop}
    (before : ∀ other item, table other = some item → property other item)
    (here : property slot item) : ∀ other second,
      Function.update table slot (some item) other = some second → property other second := by
  intro other second filled
  by_cases same : other = slot
  · subst same
    rw [Function.update_self] at filled
    cases filled
    exact here
  · rw [Function.update_of_ne same] at filled
    exact before other second filled

end Filled

section Mirrors

variable {agree agree' : Item → Image → Prop} {table : Slot → Option Item}
  {mirror : Slot → Option Image}

theorem Mirrors.eq_none_iff (mirrors : Mirrors agree table mirror) (slot : Slot) :
    table slot = none ↔ mirror slot = none := by
  have here := mirrors slot
  generalize table slot = item at here ⊢
  generalize mirror slot = image at here ⊢
  cases here <;> simp

theorem Mirrors.agree_of_eq_some (mirrors : Mirrors agree table mirror) {slot : Slot} {item : Item}
    {image : Image} (here : table slot = some item) (there : mirror slot = some image) :
    agree item image := by
  have both := mirrors slot
  rw [here, there] at both
  exact Option.rel_some_some.mp both

/-- A filled mirror slot is filled in the table. -/
theorem Mirrors.exists_item (mirrors : Mirrors agree table mirror) {slot : Slot} {image : Image}
    (there : mirror slot = some image) : ∃ item, table slot = some item ∧ agree item image := by
  cases here : table slot with
  | none =>
    rw [(mirrors.eq_none_iff slot).mp here] at there
    cases there
  | some item => exact ⟨item, rfl, mirrors.agree_of_eq_some here there⟩

/-- What the items of the table agree with may change, as long as they still agree. -/
theorem Mirrors.imp (mirrors : Mirrors agree table mirror)
    (still : ∀ slot item image, table slot = some item → agree item image → agree' item image) :
    Mirrors agree' table mirror := by
  intro slot
  have both := mirrors slot
  cases here : table slot with
  | none =>
    rw [here] at both
    generalize mirror slot = image at both ⊢
    cases both
    exact Option.Rel.none
  | some item =>
    rw [here] at both
    generalize mirror slot = image at both ⊢
    cases both with
    | some agrees => exact Option.Rel.some (still slot item _ here agrees)

variable [DecidableEq Slot]

theorem Mirrors.set (mirrors : Mirrors agree table mirror) (slot : Slot) {item : Item}
    {image : Image} (agrees : agree item image) :
    Mirrors agree (Function.update table slot (some item))
      (Function.update mirror slot (some image)) := by
  intro other
  by_cases same : other = slot
  · subst same
    rw [Function.update_self, Function.update_self]
    exact Option.Rel.some agrees
  · rw [Function.update_of_ne same, Function.update_of_ne same]
    exact mirrors other

theorem Mirrors.clear (mirrors : Mirrors agree table mirror) (slot : Slot) :
    Mirrors agree (Function.update table slot none) (Function.update mirror slot none) := by
  intro other
  by_cases same : other = slot
  · subst same
    rw [Function.update_self, Function.update_self]
    exact Option.Rel.none
  · rw [Function.update_of_ne same, Function.update_of_ne same]
    exact mirrors other

end Mirrors

section DistinctKeys

variable [DecidableEq Slot] {key : Item → Key} {table : Slot → Option Item}

/-- A slot is filled under a key that no other slot has. -/
theorem DistinctKeys.set (distinct : DistinctKeys key table) {slot : Slot} {item : Item}
    (fresh : ∀ other second, other ≠ slot → table other = some second → key second ≠ key item) :
    DistinctKeys key (Function.update table slot (some item)) := by
  intro left right first second atLeft atRight same
  by_cases isLeft : left = slot
  · by_cases isRight : right = slot
    · rw [isLeft, isRight]
    · subst isLeft
      rw [Function.update_self] at atLeft
      rw [Function.update_of_ne isRight] at atRight
      cases atLeft
      exact absurd same.symm (fresh right second isRight atRight)
  · rw [Function.update_of_ne isLeft] at atLeft
    by_cases isRight : right = slot
    · subst isRight
      rw [Function.update_self] at atRight
      cases atRight
      exact absurd same (fresh left first isLeft atLeft)
    · rw [Function.update_of_ne isRight] at atRight
      exact distinct left right first second atLeft atRight same

theorem DistinctKeys.clear (distinct : DistinctKeys key table) (slot : Slot) :
    DistinctKeys key (Function.update table slot none) := by
  intro left right first second atLeft atRight same
  exact distinct left right first second (eq_some_of_clear atLeft) (eq_some_of_clear atRight) same

end DistinctKeys

section Overlay

variable {key : Item → Key} {newer older : Slot → Option Item}

/-- A newer table laid over an older one. -/
def overlay (newer older : Slot → Option Item) : Slot → Option Item :=
  fun slot => (newer slot).or (older slot)

theorem overlay_of_eq_some {slot : Slot} {item : Item} (here : newer slot = some item) :
    overlay newer older slot = some item := by
  rw [overlay, here, Option.some_or]

theorem overlay_of_eq_none {slot : Slot} (uncovered : newer slot = none) :
    overlay newer older slot = older slot := by
  rw [overlay, uncovered, Option.none_or]

/-- **Exactly when an overlay has distinct keys**: every older slot with the key of a newer item is
covered. -/
theorem distinctKeys_overlay_iff (newerDistinct : DistinctKeys key newer)
    (olderDistinct : DistinctKeys key older) :
    DistinctKeys key (overlay newer older) ↔
      ∀ slot other item second, newer slot = some item → older other = some second →
        key second = key item → newer other ≠ none := by
  constructor
  · intro distinct slot other item second here there same uncovered
    have sameSlot : slot = other := distinct slot other item second (overlay_of_eq_some here)
      ((overlay_of_eq_none uncovered).trans there) same.symm
    rw [← sameSlot, here] at uncovered
    cases uncovered
  · intro covered left right first second atLeft atRight same
    cases isLeft : newer left with
    | some item =>
      rw [overlay_of_eq_some isLeft] at atLeft
      cases atLeft
      cases isRight : newer right with
      | some image =>
        rw [overlay_of_eq_some isRight] at atRight
        cases atRight
        exact newerDistinct left right _ _ isLeft isRight same
      | none =>
        rw [overlay_of_eq_none isRight] at atRight
        exact absurd isRight (covered left right _ _ isLeft atRight same.symm)
    | none =>
      rw [overlay_of_eq_none isLeft] at atLeft
      cases isRight : newer right with
      | some image =>
        rw [overlay_of_eq_some isRight] at atRight
        cases atRight
        exact absurd isLeft (covered right left _ _ isRight atLeft same)
      | none =>
        rw [overlay_of_eq_none isRight] at atRight
        exact olderDistinct left right _ _ atLeft atRight same

end Overlay

/-! ### Layers -/

/-- A change of a whole table: laid over what is there, or in place of it. -/
structure Layer (Slot Item : Type) where
  table : Slot → Option Item
  replaces : Bool

/-- One change. -/
def Layer.apply (older : Slot → Option Item) (layer : Layer Slot Item) : Slot → Option Item :=
  if layer.replaces then layer.table else overlay layer.table older

/-- The change says what the slot holds. -/
def Layer.decides (slot : Slot) (layer : Layer Slot Item) : Bool :=
  layer.replaces || (layer.table slot).isSome

/-- Changes one after the other. -/
def layered (older : Slot → Option Item) (layers : List (Layer Slot Item)) : Slot → Option Item :=
  layers.foldl Layer.apply older

section Layers

variable {older : Slot → Option Item} {slot : Slot}

theorem Layer.apply_of_decides {layer : Layer Slot Item} (decides : layer.decides slot = true) :
    layer.apply older slot = layer.table slot := by
  unfold Layer.apply
  unfold Layer.decides at decides
  split
  · rfl
  · rename_i lays
    rw [Bool.not_eq_true] at lays
    rw [lays, Bool.false_or] at decides
    obtain ⟨item, here⟩ := Option.isSome_iff_exists.mp decides
    rw [overlay_of_eq_some here, here]

theorem Layer.apply_of_not_decides {layer : Layer Slot Item}
    (undecided : layer.decides slot = false) : layer.apply older slot = older slot := by
  obtain ⟨lays, uncovered⟩ := Bool.or_eq_false_iff.mp undecided
  rw [Layer.apply, lays, if_neg Bool.false_ne_true,
    overlay_of_eq_none (Option.not_isSome_iff_eq_none.mp (Bool.not_eq_true _ ▸ uncovered))]

/-- **The last change that decides a slot counts.** -/
theorem layered_apply (older : Slot → Option Item) (layers : List (Layer Slot Item)) (slot : Slot) :
    layered older layers slot =
      ((layers.reverse.find? (·.decides slot)).map (·.table slot)).getD (older slot) := by
  induction layers using List.reverseRecOn with
  | nil => rfl
  | append_singleton rest last ih =>
    have applied : layered older (rest ++ [last]) = last.apply (layered older rest) := by
      rw [layered, List.foldl_append]
      rfl
    rw [applied, List.reverse_append, List.reverse_singleton, List.singleton_append, List.find?_cons]
    cases decides : last.decides slot with
    | true => exact Layer.apply_of_decides decides
    | false => exact (Layer.apply_of_not_decides decides).trans ih

/-- **What was written stays exactly if the last later change that decides the slot agrees.** -/
theorem layered_keeps_iff {layer : Layer Slot Item} {later : List (Layer Slot Item)} {item : Item}
    (here : layer.table slot = some item) :
    layered (layer.apply older) later slot = some item ↔
      ∀ last, later.reverse.find? (·.decides slot) = some last → last.table slot = some item := by
  have decides : layer.decides slot = true := by
    rw [Layer.decides, here, Option.isSome_some, Bool.or_true]
  rw [layered_apply, Layer.apply_of_decides decides, here]
  cases later.reverse.find? (·.decides slot) with
  | none => simp
  | some last => simp

end Layers

/-! ### Tables filled from the front -/

section Front

variable {items : List Item} {keys : Nat → Key}

/-- Keys stay pairwise different with a new one. -/
theorem update_length_inj {count : Nat} {key : Key}
    (inj : ∀ i < count, ∀ j < count, keys i = keys j → i = j) (fresh : ∀ i < count, keys i ≠ key) :
    ∀ i < count + 1, ∀ j < count + 1,
      Function.update keys count key i = Function.update keys count key j → i = j := by
  have sameBelow : ∀ i < count, Function.update keys count key i = keys i :=
    fun i below => Function.update_of_ne below.ne _ _
  intro i belowI j belowJ same
  rcases Nat.lt_succ_iff_lt_or_eq.mp belowI with oldI | rfl
  · rcases Nat.lt_succ_iff_lt_or_eq.mp belowJ with oldJ | rfl
    · rw [sameBelow i oldI, sameBelow j oldJ] at same
      exact inj i oldI j oldJ same
    · rw [sameBelow i oldI, Function.update_self] at same
      exact absurd same (fresh i oldI)
  · rcases Nat.lt_succ_iff_lt_or_eq.mp belowJ with oldJ | rfl
    · rw [sameBelow j oldJ, Function.update_self] at same
      exact absurd same.symm (fresh j oldJ)
    · rfl

/-- **Filling the next slot of a table that shows a list**, with its keys, appends to the list. -/
theorem update_length_eq {table : Nat → Option Image} (image : Item → Key → Image)
    (shows : ∀ i, table i = items[i]?.map (image · (keys i))) (last : Item) (key : Key) (i : Nat) :
    Function.update table items.length (some (image last key)) i =
      (items ++ [last])[i]?.map (image · (Function.update keys items.length key i)) := by
  rcases lt_trichotomy i items.length with below | rfl | above
  · rw [Function.update_of_ne below.ne, shows, List.getElem?_append_left below,
      Function.update_of_ne below.ne]
  · simp
  · rw [Function.update_of_ne above.ne', shows, List.getElem?_eq_none (by omega),
      List.getElem?_eq_none (by simp; omega)]
    rfl

end Front

end WemoBridge.Library
