/-
**The distinct elements of a list**, in the order of their first occurrence (`List.eraseDups`).

One more element of the list adds itself or nothing (`eraseDups_concat_of_notMem`,
`eraseDups_concat_of_mem`), so a prefix of the list has a prefix of the distinct elements, and every
number of them is reached just before a new one (`exists_new_element`).
-/

import Mathlib

namespace WemoBridge.Library

section Distinct

variable {α : Type} [BEq α] [LawfulBEq α] {list : List α} {a : α}

theorem eraseDups_concat_of_mem (member : a ∈ list) : (list ++ [a]).eraseDups = list.eraseDups := by
  rw [List.eraseDups_append, List.cons_removeAll]
  simp [member]

theorem eraseDups_concat_of_notMem (new : a ∉ list) :
    (list ++ [a]).eraseDups = list.eraseDups ++ [a] := by
  rw [List.eraseDups_append, List.cons_removeAll]
  simp [new, List.eraseDups_cons]

theorem nodup_eraseDups (list : List α) : list.eraseDups.Nodup := by
  induction list using List.reverseRecOn with
  | nil => exact List.nodup_nil
  | append_singleton earlier a ih =>
    by_cases member : a ∈ earlier
    · rw [eraseDups_concat_of_mem member]
      exact ih
    · rw [eraseDups_concat_of_notMem member]
      refine List.nodup_append.mpr ⟨ih, List.nodup_singleton a, ?_⟩
      rintro b old _ last rfl
      rw [List.mem_singleton] at last
      exact member (last ▸ List.mem_eraseDups.mp old)

theorem eraseDups_of_nodup (distinct : list.Nodup) : list.eraseDups = list := by
  induction list using List.reverseRecOn with
  | nil => rfl
  | append_singleton earlier a ih =>
    obtain ⟨distinctEarlier, -, apart⟩ := List.nodup_append.mp distinct
    have new : a ∉ earlier := fun member => apart a member a (List.mem_singleton_self a) rfl
    rw [eraseDups_concat_of_notMem new, ih distinctEarlier]

/-- A prefix has a prefix of the distinct elements. -/
theorem eraseDups_isPrefix {earlier : List α} (first : earlier <+: list) :
    earlier.eraseDups <+: list.eraseDups := by
  obtain ⟨later, rfl⟩ := first
  rw [List.eraseDups_append]
  exact List.prefix_append _ _

/-- **Each distinct element occurs for the first time**, after as many others as come before it. -/
theorem exists_new_element {n : Nat} : ∀ {list : List α}, n < list.eraseDups.length →
    ∃ earlier a, earlier ++ [a] <+: list ∧ earlier.eraseDups.length = n ∧ a ∉ earlier := by
  intro list
  induction list using List.reverseRecOn with
  | nil => exact fun short => absurd short (Nat.not_lt_zero n)
  | append_singleton front last ih =>
    intro enough
    have shorter : front <+: front ++ [last] := List.prefix_append _ _
    by_cases before : n < front.eraseDups.length
    · obtain ⟨earlier, a, first, count, new⟩ := ih before
      exact ⟨earlier, a, first.trans shorter, count, new⟩
    · by_cases member : last ∈ front
      · rw [eraseDups_concat_of_mem member] at enough
        exact absurd enough before
      · rw [eraseDups_concat_of_notMem member, List.length_append, List.length_singleton] at enough
        exact ⟨front, last, List.prefix_rfl, by omega, member⟩

end Distinct

end WemoBridge.Library
