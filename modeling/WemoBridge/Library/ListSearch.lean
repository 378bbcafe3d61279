/-
**Searching and changing one element of a list.**

`modifyFirst p change` is the loop "find the first element with `p`, change it, break". Two such
loops that find the same element do the same (`modifyFirst_congr`), and two in a row are one
(`modifyFirst_modifyFirst`). `find?_modifyFirst` says what a later search by a key finds, when the
keys are pairwise distinct and the change keeps them. The last two sections are about collecting the
elements for which a partial function has a value, and about the rank of an element by its key.
-/

import Mathlib

namespace WemoBridge.Library

section ModifyFirst

variable {α β κ : Type}

/-- Change the first element with `p`, leave the others. -/
def modifyFirst (p : α → Bool) (change : α → α) : List α → List α
  | [] => []
  | a :: rest => if p a then change a :: rest else a :: modifyFirst p change rest

@[simp] theorem modifyFirst_nil (p : α → Bool) (change : α → α) :
    modifyFirst p change [] = [] := rfl

theorem modifyFirst_cons_pos {p : α → Bool} {a : α} (here : p a = true) (change : α → α)
    (rest : List α) : modifyFirst p change (a :: rest) = change a :: rest := if_pos here

theorem modifyFirst_cons_neg {p : α → Bool} {a : α} (notHere : ¬ p a = true) (change : α → α)
    (rest : List α) : modifyFirst p change (a :: rest) = a :: modifyFirst p change rest :=
  if_neg notHere

/-- The search afterwards finds the changed element, when the change keeps `p`. -/
theorem find?_modifyFirst_self {p : α → Bool} {change : α → α} {list : List α} {a : α}
    (found : list.find? p = some a) (kept : p (change a) = true) :
    (modifyFirst p change list).find? p = some (change a) := by
  induction list with
  | nil => cases found
  | cons b rest ih =>
    by_cases here : p b = true
    · rw [List.find?_cons_of_pos here] at found
      cases found
      rw [modifyFirst_cons_pos here, List.find?_cons_of_pos kept]
    · rw [List.find?_cons_of_neg here] at found
      rw [modifyFirst_cons_neg here, List.find?_cons_of_neg here]
      exact ih found

/-- **Two loops that find the same element and change it alike are the same loop.** -/
theorem modifyFirst_congr {p q : α → Bool} {first second : α → α} {list : List α} {a : α}
    (found : list.find? p = some a) (found' : list.find? q = some a)
    (same : first a = second a) : modifyFirst p first list = modifyFirst q second list := by
  induction list with
  | nil => rfl
  | cons b rest ih =>
    -- the found element satisfies both conditions, so neither loop stops before the other
    by_cases here : p b = true
    · rw [List.find?_cons_of_pos here] at found
      cases found
      rw [modifyFirst_cons_pos here, modifyFirst_cons_pos (List.find?_some found'), same]
    · rw [List.find?_cons_of_neg here] at found
      by_cases there : q b = true
      · rw [List.find?_cons_of_pos there] at found'
        cases found'
        exact absurd (List.find?_some found) here
      · rw [List.find?_cons_of_neg there] at found'
        rw [modifyFirst_cons_neg here, modifyFirst_cons_neg there, ih found found']

/-- A loop that changes what it finds to itself does nothing. -/
theorem modifyFirst_self {p : α → Bool} {change : α → α} {list : List α} {a : α}
    (found : list.find? p = some a) (same : change a = a) : modifyFirst p change list = list := by
  induction list with
  | nil => rfl
  | cons b rest ih =>
    by_cases here : p b = true
    · rw [List.find?_cons_of_pos here] at found
      cases found
      rw [modifyFirst_cons_pos here, same]
    · rw [List.find?_cons_of_neg here] at found
      rw [modifyFirst_cons_neg here, ih found]

/-- Two loops in a row, the first keeping `p`, are one. -/
theorem modifyFirst_modifyFirst {p : α → Bool} (first second : α → α)
    (kept : ∀ a, p a = true → p (first a) = true) (list : List α) :
    modifyFirst p second (modifyFirst p first list) = modifyFirst p (second ∘ first) list := by
  induction list with
  | nil => rfl
  | cons b rest ih =>
    by_cases here : p b = true
    · rw [modifyFirst_cons_pos here, modifyFirst_cons_pos (kept b here),
        modifyFirst_cons_pos here, Function.comp_apply]
    · rw [modifyFirst_cons_neg here, modifyFirst_cons_neg here, modifyFirst_cons_neg here, ih]

/-- What the change keeps of the element found, the loop keeps of the list. -/
theorem map_modifyFirst {p : α → Bool} {change : α → α} {observe : α → β} {list : List α}
    (kept : ∀ a, list.find? p = some a → observe (change a) = observe a) :
    (modifyFirst p change list).map observe = list.map observe := by
  induction list with
  | nil => rfl
  | cons b rest ih =>
    by_cases here : p b = true
    · rw [modifyFirst_cons_pos here, List.map_cons, List.map_cons,
        kept b (List.find?_cons_of_pos here)]
    · rw [List.find?_cons_of_neg here] at kept
      rw [modifyFirst_cons_neg here, List.map_cons, List.map_cons, ih kept]

/-! ### Keys -/

variable [DecidableEq κ] {key : α → κ}

/-- A search by a key finds an element of the list with that key. -/
theorem find?_key_eq_some {list : List α} {wanted : κ} {a : α}
    (found : list.find? (fun b => key b = wanted) = some a) : a ∈ list ∧ key a = wanted :=
  ⟨List.mem_of_find?_eq_some found, by simpa using List.find?_some found⟩

/-- With distinct keys every element is found by its key. -/
theorem find?_key_of_mem {list : List α} (distinct : (list.map key).Nodup) {a : α}
    (member : a ∈ list) : list.find? (fun b => key b = key a) = some a := by
  induction list with
  | nil => cases member
  | cons b rest ih =>
    rw [List.map_cons, List.nodup_cons] at distinct
    rcases List.mem_cons.mp member with rfl | member
    · simp
    · have different : key b ≠ key a := fun same =>
        distinct.1 (same ▸ List.mem_map_of_mem member)
      rw [List.find?_cons_of_neg (by simpa using different)]
      exact ih distinct.2 member

/-- **A search by another key** finds what it found before the loop. -/
theorem find?_modifyFirst_other {p : α → Bool} {change : α → α} {list : List α} {wanted : κ}
    (kept : ∀ a, p a = true → key (change a) = key a)
    (other : ∀ a, p a = true → key a ≠ wanted) :
    (modifyFirst p change list).find? (fun a => key a = wanted) =
      list.find? fun a => key a = wanted := by
  induction list with
  | nil => rfl
  | cons b rest ih =>
    by_cases here : p b = true
    · have different : ¬ key b = wanted := other b here
      rw [modifyFirst_cons_pos here, List.find?_cons_of_neg (by simpa [kept b here]),
        List.find?_cons_of_neg (by simpa)]
    · rw [modifyFirst_cons_neg here]
      by_cases same : key b = wanted
      · rw [List.find?_cons_of_pos (by simpa), List.find?_cons_of_pos (by simpa)]
      · rw [List.find?_cons_of_neg (by simpa), List.find?_cons_of_neg (by simpa), ih]

/-- Loops that replace the elements of two different keys commute. -/
theorem modifyFirst_comm {first second : α} {k l : κ} (different : k ≠ l) (ofFirst : key first = k)
    (ofSecond : key second = l) (list : List α) :
    modifyFirst (fun a => key a = k) (fun _ => first)
        (modifyFirst (fun a => key a = l) (fun _ => second) list) =
      modifyFirst (fun a => key a = l) (fun _ => second)
        (modifyFirst (fun a => key a = k) (fun _ => first) list) := by
  induction list with
  | nil => rfl
  | cons b rest ih =>
    by_cases atK : key b = k
    · have notAtL : ¬ key b = l := fun same => different (atK.symm.trans same)
      have firstNotL : ¬ key first = l := fun same => different (ofFirst.symm.trans same)
      rw [modifyFirst_cons_neg (by simpa using notAtL), modifyFirst_cons_pos (by simpa using atK),
        modifyFirst_cons_pos (by simpa using atK), modifyFirst_cons_neg (by simpa using firstNotL)]
    · by_cases atL : key b = l
      · have secondNotK : ¬ key second = k := fun same => different (same.symm.trans ofSecond)
        rw [modifyFirst_cons_pos (by simpa using atL), modifyFirst_cons_neg (by simpa using secondNotK),
          modifyFirst_cons_neg (by simpa using atK), modifyFirst_cons_pos (by simpa using atL)]
      · rw [modifyFirst_cons_neg (by simpa using atL), modifyFirst_cons_neg (by simpa using atK),
          modifyFirst_cons_neg (by simpa using atK), modifyFirst_cons_neg (by simpa using atL), ih]

end ModifyFirst

section FilterMap

variable {α β : Type}

/-- Collecting by position is collecting. -/
theorem filterMap_range_getElem? (list : List α) (f : α → Option β) :
    (List.range list.length).filterMap (fun i => list[i]?.bind f) = list.filterMap f := by
  induction list with
  | nil => rfl
  | cons a rest ih =>
    rw [List.length_cons, List.range_succ_eq_map, List.filterMap_cons, List.filterMap_map,
      List.filterMap_cons, ← ih]
    rfl

/-- What is not collected can be left out before. -/
theorem filterMap_filter_isSome (list : List α) (f : α → Option β) :
    (list.filter fun a => (f a).isSome).filterMap f = list.filterMap f := by
  rw [List.filterMap_filter]
  refine List.filterMap_congr fun a _ => ?_
  cases f a <;> rfl

/-- Where everything is collected, the last is collected from the last. -/
theorem getLast?_filterMap {list : List α} {f : α → Option β}
    (all : ∀ a ∈ list, (f a).isSome = true) :
    (list.filterMap f).getLast? = list.getLast?.bind f := by
  rcases List.eq_nil_or_concat list with rfl | ⟨front, last, rfl⟩
  · rfl
  · rw [List.concat_eq_append] at all ⊢
    obtain ⟨b, collected⟩ := Option.isSome_iff_exists.mp (all last (by simp))
    simp [List.filterMap_append, collected]

/-- Elements that contribute nothing can be left out. -/
theorem flatMap_filter_of_nil {list : List α} {p : α → Bool} {f : α → List β}
    (nothing : ∀ a, p a = false → f a = []) : (list.filter p).flatMap f = list.flatMap f := by
  induction list with
  | nil => rfl
  | cons a rest ih =>
    cases here : p a with
    | true => rw [List.filter_cons_of_pos here, List.flatMap_cons, List.flatMap_cons, ih]
    | false =>
      rw [List.filter_cons_of_neg (by simp [here]), List.flatMap_cons, nothing a here, ih,
        List.nil_append]

end FilterMap

section Rank

variable {α κ : Type} [LinearOrder κ] {key : α → κ}

/-- **In a list with increasing keys the position of an element is its rank**: the number of
elements with a smaller key. -/
theorem length_filter_key_lt {list : List α} (sorted : list.Pairwise fun a b => key a < key b)
    {i : Nat} {a : α} (here : list[i]? = some a) :
    (list.filter fun b => key b < key a).length = i := by
  induction list generalizing i with
  | nil => cases here
  | cons first rest ih =>
    obtain ⟨above, sortedRest⟩ := List.pairwise_cons.mp sorted
    cases i with
    | zero =>
      obtain rfl : first = a := by simpa using here
      have none : rest.filter (fun b => key b < key first) = [] := by
        refine List.filter_eq_nil_iff.mpr fun b member => ?_
        simpa using le_of_lt (above b member)
      rw [List.filter_cons_of_neg (by simp), none]
      rfl
    | succ i =>
      rw [List.getElem?_cons_succ] at here
      have smaller : key first < key a := above a (List.mem_of_getElem? here)
      rw [List.filter_cons_of_pos (by simpa using smaller), List.length_cons, ih sortedRest here]

end Rank

end WemoBridge.Library
