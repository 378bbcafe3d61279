/-
**Texts that can be read back.**

A printer `Tells` a key of its values if a text that begins with what it printed gives the key, and
says where the printed part ends. A text up to a byte it does not contain tells itself
(`Tells.field`), printers one after the other tell their keys (`Tells.andThen`), and what tells a key
tells whatever the key decides (`Tells.through`). If every item of a list is told in full, so is the
list (`Tells.flatMap_injective`).
-/

import WemoBridge.Library.Decimal

namespace WemoBridge.Library

variable {Byte Value Key Key' : Type}

/-- Any text that begins with what was printed gives the key, and what comes after the print. -/
def Tells (ok : Value → Prop) (print : Value → List Byte) (key : Value → Key) : Prop :=
  ∀ a b, ok a → ok b → ∀ rest rest', print a ++ rest = print b ++ rest' →
    key a = key b ∧ rest = rest'

/-- A label, a text, and the byte that ends it. -/
def field (label text : List Byte) (stop : Byte) : List Byte := label ++ (text ++ [stop])

section Cut

variable [DecidableEq Byte] {stop : Byte} {text text' rest rest' : List Byte}

/-- A text up to the first byte that ends it. -/
theorem takeWhile_stop (free : stop ∉ text) (rest : List Byte) :
    (text ++ stop :: rest).takeWhile (· ≠ stop) = text ∧
      (text ++ stop :: rest).dropWhile (· ≠ stop) = stop :: rest := by
  refine Decimal.takeWhile_run (fun byte member => ?_) fun byte here => ?_
  · exact decide_eq_true fun same => free (same ▸ member)
  · obtain rfl := Option.some.inj here
    simp

/-- **Two texts that end at the same byte.** -/
theorem cut (free : stop ∉ text) (free' : stop ∉ text')
    (same : text ++ stop :: rest = text' ++ stop :: rest') : text = text' ∧ rest = rest' := by
  obtain ⟨taken, dropped⟩ := takeWhile_stop free rest
  obtain ⟨taken', dropped'⟩ := takeWhile_stop free' rest'
  rw [same] at taken dropped
  exact ⟨taken.symm.trans taken', (List.cons.inj (dropped.symm.trans dropped')).2⟩

end Cut

namespace Tells

variable {ok : Value → Prop} {print print' : Value → List Byte} {key : Value → Key}
  {key' : Value → Key'}

/-- **A field** tells its text, if the text does not contain the byte that ends it. -/
theorem field [DecidableEq Byte] {text : Value → List Byte} (label : List Byte) (stop : Byte)
    (free : ∀ a, ok a → stop ∉ text a) : Tells ok (fun a => field label (text a) stop) text := by
  intro a b okA okB rest rest' same
  refine cut (free a okA) (free b okB) ((List.append_right_inj label).mp ?_)
  simpa only [Library.field, List.append_assoc, List.singleton_append] using same

/-- **One print after the other.** -/
theorem andThen (first : Tells ok print key) (second : Tells ok print' key') :
    Tells ok (fun a => print a ++ print' a) fun a => (key a, key' a) := by
  intro a b okA okB rest rest' same
  rw [List.append_assoc, List.append_assoc] at same
  obtain ⟨sameKey, after⟩ := first a b okA okB _ _ same
  obtain ⟨sameKey', ended⟩ := second a b okA okB _ _ after
  exact ⟨Prod.ext sameKey sameKey', ended⟩

/-- What a key decides is told with it. -/
theorem through (tells : Tells ok print key)
    (decides : ∀ a b, ok a → ok b → key a = key b → key' a = key' b) : Tells ok print key' := by
  intro a b okA okB rest rest' same
  obtain ⟨sameKey, ended⟩ := tells a b okA okB rest rest' same
  exact ⟨decides a b okA okB sameKey, ended⟩

/-- **A list is read back item by item.** -/
theorem flatMap_injective (tells : Tells ok print id) (nonempty : ∀ a, print a ≠ []) :
    ∀ items items' : List Value, (∀ a ∈ items, ok a) → (∀ a ∈ items', ok a) →
      items.flatMap print = items'.flatMap print → items = items' := by
  intro items
  induction items with
  | nil =>
    rintro (_ | ⟨b, rest⟩) - - same
    · rfl
    · exact absurd (List.append_eq_nil_iff.mp same.symm).1 (nonempty b)
  | cons a rest ih =>
    rintro (_ | ⟨b, rest'⟩) oks oks' same
    · exact absurd (List.append_eq_nil_iff.mp same).1 (nonempty a)
    · obtain ⟨sameFirst, after⟩ :=
        tells a b (oks a List.mem_cons_self) (oks' b List.mem_cons_self) _ _ same
      obtain rfl : a = b := sameFirst
      rw [ih rest' (fun c member => oks c (List.mem_cons_of_mem _ member))
        (fun c member => oks' c (List.mem_cons_of_mem _ member)) after]

end Tells

end WemoBridge.Library
