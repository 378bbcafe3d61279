/-
**The command line: `set-on`, `set-off` and `set-level`.**

`main` turns its arguments into a command to the adapter; `ParsePercent` reads the level with
`strtol` and accepts it if nothing is left of the string and the value is in 0..100. `strtol` leaves
nothing of the empty string, either, and answers 0 for it. So `ParsePercent` accepts exactly its
grammar, and `set-level` sends only levels that were spelled out, for every string but the empty one
(`parse_percent_exact_iff`).
-/

import WemoBridge.Targets
import WemoBridge.Library.Decimal

namespace WemoBridge

open Library
open Library.Decimal (Written strtol longMin longMax strtol_written strtol_eq_nil_iff)

/-! ### The program -/

/-- `ParsePercent`; `strtol` always sets the end pointer, and it is at the end of the string if
nothing is left. -/
def parsePercent (value : CppString) : Option Int :=
  let parsed := strtol (cStr value)
  if parsed.2 ≠ [] ∨ parsed.1 < 0 ∨ parsed.1 > 100 then none else some parsed.1

/-- The command `main` gives to the adapter, for the arguments `argv`; none if it prints the usage
or refuses the level. -/
def commandOf : List CppString → Option Command
  | [_, cmd, udn] =>
      if cmd = literal "set-on" ∨ cmd = literal "set-off" then
        some (.setOnOff udn (cmd = literal "set-on"))
      else none
  | [_, cmd, udn, level] =>
      if cmd = literal "set-level" then
        (parsePercent level).map fun percent => .setLevelPercent udn (UInt8.ofInt percent)
      else none
  | _ => none

/-- `main`: the adapter after it, the exit code, and the calls of `we_set_action`. What it prints,
and the registry's part of `list`, is left out. -/
def main (argv : List CppString) (answers : EngineAnswers) (adapter : Adapter) :
    Adapter × Int × List Action :=
  if argv.length ≤ 1 ∨ argv[1]? = some (literal "list") then
    ((adapter.discover answers.weInit answers.weListDevices).1, 0, [])
  else
    match commandOf argv with
    | none => (adapter, 1, [])
    | some command =>
      let called := adapter.call command answers
      (called.1, if called.2.1 = .returned true then 0 else 1, called.2.2)

/-! ### What the user spells out -/

/-- The string spells the level out: white space, an optional sign and digits, for 0..100. -/
def Spells (text : CppString) (level : Int) : Prop :=
  (∃ written : Written, written.text = text ∧ written.number = level) ∧ 0 ≤ level ∧ level ≤ 100

/-- `ParsePercent` returns a level exactly if the string spells it out. -/
def AcceptsExactly (text : CppString) : Prop :=
  ∀ level, parsePercent text = some level ↔ Spells text level

/-- `set-level` sends no level that its last argument does not spell out. -/
def SendsSpelled (text : CppString) : Prop :=
  ∀ program udn answers adapter,
    ∀ action ∈ (main [program, literal "set-level", udn, text] answers adapter).2.2,
      Spells text action.level

section Accepts

variable {text : CppString} {level : Int}

/-- When a level is returned. -/
theorem parsePercent_eq_some_iff (nulFree : NulFree text) : parsePercent text = some level ↔
    (strtol text).2 = [] ∧ (strtol text).1 = level ∧ 0 ≤ level ∧ level ≤ 100 := by
  rw [parsePercent, cStr_of_nulFree nulFree]
  constructor
  · intro returns
    split at returns
    · cases returns
    · rename_i accepted
      obtain ⟨ended, nonneg, small⟩ : (strtol text).2 = [] ∧ ¬ (strtol text).1 < 0 ∧
          ¬ (strtol text).1 > 100 := by simpa only [not_or, not_not] using accepted
      obtain rfl := Option.some.inj returns
      exact ⟨ended, rfl, not_lt.mp nonneg, not_lt.mp small⟩
  · rintro ⟨ended, rfl, nonneg, small⟩
    rw [if_neg]
    rintro (left | negative | large)
    · exact left ended
    · exact not_lt.mpr nonneg negative
    · exact not_lt.mpr small large

/-- No level is saturated. -/
theorem saturated_eq_iff {n : Int} (nonneg : 0 ≤ level) (small : level ≤ 100) :
    max longMin (min n longMax) = level ↔ n = level := by
  unfold longMin longMax
  omega

/-- **`ParsePercent` accepts exactly its grammar**, but for the empty string. -/
theorem acceptsExactly_of_ne_nil (nulFree : NulFree text) (nonempty : text ≠ []) :
    AcceptsExactly text := by
  intro level
  rw [parsePercent_eq_some_iff nulFree, strtol_eq_nil_iff]
  constructor
  · rintro ⟨empty | ⟨written, rfl⟩, value, nonneg, small⟩
    · exact absurd empty nonempty
    · rw [strtol_written, saturated_eq_iff nonneg small] at value
      exact ⟨⟨written, rfl, value⟩, nonneg, small⟩
  · rintro ⟨⟨written, rfl, number⟩, nonneg, small⟩
    refine ⟨Or.inr ⟨written, rfl⟩, ?_, nonneg, small⟩
    rw [strtol_written, saturated_eq_iff nonneg small]
    exact number

/-- The level of a `set-level` command is the one that was parsed. -/
theorem sendState_level (nonneg : 0 ≤ level) (small : level ≤ 100) (udn : CppString)
    (wemoId : Int) :
    ((Command.setLevelPercent udn (UInt8.ofInt level)).sendState wemoId).level = level := by
  have parsed : ((UInt8.ofInt level).toNat : Int) = level := by
    rw [UInt8.ofInt, UInt8.toNat_ofNat']
    omega
  show min (max ((UInt8.ofInt level).toNat : Int) 0) 100 = level
  rw [parsed]
  omega

/-- **`set-level` sends only what was parsed.** -/
theorem AcceptsExactly.sendsSpelled (accepts : AcceptsExactly text) : SendsSpelled text := by
  intro program udn answers adapter action member
  have notList : ¬ ([program, literal "set-level", udn, text].length ≤ 1 ∨
      [program, literal "set-level", udn, text][1]? = some (literal "list")) := by
    rintro (short | list)
    · exact absurd short (by simp)
    · exact absurd (Option.some.inj list) (by decide)
  rw [main, if_neg notList, commandOf, if_pos rfl] at member
  cases parsed : parsePercent text with
  | none =>
    rw [parsed] at member
    cases member
  | some level =>
    rw [parsed] at member
    obtain ⟨wemoId, rfl⟩ := Adapter.call_sends member
    have spelled := (accepts level).mp parsed
    rw [sendState_level spelled.2.1 spelled.2.2]
    exact spelled

end Accepts

/-- **Exactly when `ParsePercent` accepts its grammar and nothing else.** A string without NULs is
accepted, with the level it spells out, exactly if it spells one out, and `set-level` sends no other
level, exactly if the string is not empty. -/
theorem parse_percent_exact_iff {text : CppString} (nulFree : NulFree text) :
    (AcceptsExactly text ∧ SendsSpelled text) ↔ text ≠ [] := by
  constructor
  · rintro ⟨accepts, -⟩ rfl
    obtain ⟨⟨written, empty, -⟩, -⟩ := (accepts 0).mp rfl
    exact written.text_ne_nil empty
  · intro nonempty
    have accepts := acceptsExactly_of_ne_nil nulFree nonempty
    exact ⟨accepts, accepts.sendsSpelled⟩

/-- **The empty string is taken for 0**: `set-level` with an empty level turns the light off, and no
level was spelled out. -/
theorem empty_level_accepted :
    NulFree [] ∧ parsePercent [] = some 0 ∧ ¬ Spells [] 0 ∧
      (main [literal "wemo", literal "set-level", literal "uuid:Lamp", []]
        { weInit := true, weListDevices := some (listOf [listedSocket 1 "uuid:Lamp"])
          weSetAction := true } Adapter.fresh).2 =
        (0, [{ wemoId := 1, state := 0, level := 0, isOnline := 1 }]) := by
  refine ⟨by decide, rfl, ?_, by decide⟩
  rintro ⟨⟨written, empty, -⟩, -⟩
  exact written.text_ne_nil empty

/-- " +42" is accepted as 42. -/
theorem parse_percent_exact_iff_sample :
    AcceptsExactly (literal " +42") ∧ parsePercent (literal " +42") = some 42 := by
  have nulFree : NulFree (literal " +42") := by decide
  exact ⟨((parse_percent_exact_iff nulFree).mpr (by decide)).1, by decide⟩

end WemoBridge
