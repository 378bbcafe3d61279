/-
**A reported value with a settle window.**

Two parties write one value: a controller *commands* it and a device *reports* it. For `window`
after a command a report that contradicts the command is dropped, so that a report that was already
on its way cannot flip the value back. A `Register` is the lazy implementation: the pending command
and its deadline are kept in two fields, an expired command is cleared only when somebody looks.

`heard` is the specification, a function of the history of commands and reports alone: the value is
the one the last entry carries, unless that entry is a report inside the window of the last command.
`Tracks` ties a register to its history; every operation keeps it (`tracks_command`,
`tracks_report`, `tracks_inspect`), so the value of a register is `heard` of its history whatever
was cleared when. A `Remembered` is the eager implementation, a value and the last command, and
`Refines.follow` says that the lazy register does what the eager one does.
-/

import Mathlib

namespace WemoBridge.Library.Settle

/-- One entry of a history: who set the value, and to what. -/
inductive Entry (Value : Type) where
  | command (value : Value)
  | report (value : Value)
  deriving DecidableEq, Repr

/-- The value an entry carries. -/
def Entry.value {Value : Type} : Entry Value → Value
  | .command value => value
  | .report value => value

/-- The lazy register: the value, the command that may still be settling, and its deadline. -/
@[ext] structure Register (Value Time : Type) where
  value : Value
  pending : Option Value
  deadline : Time
  deriving DecidableEq, Repr

section History

variable {Value Time : Type}

/-- The command of an entry, with its time. -/
def commandOf : Time × Entry Value → Option (Time × Value)
  | (time, .command value) => some (time, value)
  | (_, .report _) => none

/-- The last command of a history. -/
def lastCommand (history : List (Time × Entry Value)) : Option (Time × Value) :=
  (history.filterMap commandOf).getLast?

@[simp] theorem lastCommand_nil : lastCommand ([] : List (Time × Entry Value)) = none := rfl

@[simp] theorem lastCommand_concat_command (history : List (Time × Entry Value)) (time : Time)
    (value : Value) : lastCommand (history ++ [(time, .command value)]) = some (time, value) := by
  simp [lastCommand, commandOf]

@[simp] theorem lastCommand_concat_report (history : List (Time × Entry Value)) (time : Time)
    (value : Value) : lastCommand (history ++ [(time, .report value)]) = lastCommand history := by
  simp [lastCommand, commandOf]

/-- The value the last entry of a history carries. -/
def lastValue (initial : Value) (history : List (Time × Entry Value)) : Value :=
  (history.getLast?.map fun entry => entry.2.value).getD initial

@[simp] theorem lastValue_nil (initial : Value) :
    lastValue initial ([] : List (Time × Entry Value)) = initial := rfl

@[simp] theorem lastValue_concat (initial : Value) (history : List (Time × Entry Value))
    (time : Time) (entry : Entry Value) :
    lastValue initial (history ++ [(time, entry)]) = entry.value := by
  simp [lastValue]

variable [LinearOrder Time] [Add Time] (window : Time)

/-- A command settling at `time`: its value, if the last command is at most `window` old. -/
def settling (time : Time) (history : List (Time × Entry Value)) : Option Value :=
  match lastCommand history with
  | none => none
  | some (commanded, value) => if time ≤ commanded + window then some value else none

/-- **The specification.** The value the last entry carries, unless that entry is a report while a
command was settling: then the commanded value. -/
def heard (initial : Value) (history : List (Time × Entry Value)) : Value :=
  match history.getLast? with
  | none => initial
  | some (_, .command value) => value
  | some (time, .report value) => (settling window time history).getD value

/-- The last entry is a report that contradicts the command settling at its time. -/
def LastDropped (history : List (Time × Entry Value)) : Prop :=
  ∃ time reported commanded, history.getLast? = some (time, .report reported) ∧
    settling window time history = some commanded ∧ reported ≠ commanded

theorem settling_concat_report (at_ time : Time) (value : Value)
    (history : List (Time × Entry Value)) :
    settling window at_ (history ++ [(time, .report value)]) = settling window at_ history := by
  simp only [settling, lastCommand_concat_report]

@[simp] theorem heard_nil (initial : Value) :
    heard window initial ([] : List (Time × Entry Value)) = initial := rfl

@[simp] theorem heard_concat_command (initial : Value) (history : List (Time × Entry Value))
    (time : Time) (value : Value) :
    heard window initial (history ++ [(time, .command value)]) = value := by
  simp [heard]

theorem heard_concat_report (initial : Value) (history : List (Time × Entry Value)) (time : Time)
    (value : Value) :
    heard window initial (history ++ [(time, .report value)]) =
      (settling window time history).getD value := by
  simp [heard, settling_concat_report]

/-- **The specification misses the last value exactly when the last entry was dropped.** -/
theorem heard_eq_lastValue_iff (initial : Value) (history : List (Time × Entry Value)) :
    heard window initial history = lastValue initial history ↔ ¬ LastDropped window history := by
  rcases List.eq_nil_or_concat history with rfl | ⟨past, ⟨time, entry⟩, rfl⟩
  · simp [LastDropped]
  · rw [List.concat_eq_append, lastValue_concat]
    cases entry with
    | command value => simp [LastDropped, Entry.value]
    | report value =>
      rw [heard_concat_report, LastDropped]
      simp only [settling_concat_report, List.getLast?_append, List.getLast?_singleton,
        Option.some_or, Option.some.injEq, Prod.mk.injEq, Entry.report.injEq, Entry.value]
      cases settled : settling window time past with
      | none =>
        simp only [Option.getD_none, true_iff]
        rintro ⟨_, _, _, ⟨rfl, rfl⟩, found, _⟩
        rw [settled] at found
        cases found
      | some commanded =>
        simp only [Option.getD_some]
        constructor
        · rintro same ⟨_, _, _, ⟨rfl, rfl⟩, found, different⟩
          rw [settled] at found
          cases found
          exact different same.symm
        · intro kept
          by_contra different
          exact kept ⟨time, value, commanded, ⟨rfl, rfl⟩, settled, fun same => different same.symm⟩

end History

namespace Register

section Operations

variable {Value Time : Type} [LinearOrder Time] [Add Time] (window : Time)

/-- A command at `now`: it takes effect and starts its window. -/
def command (now : Time) (value : Value) (_ : Register Value Time) : Register Value Time :=
  { value := value, pending := some value, deadline := now + window }

omit [Add Time] in
/-- Looking at the register: an expired command is cleared. -/
def inspect (now : Time) (register : Register Value Time) : Register Value Time :=
  if register.deadline < now then { register with pending := none } else register

variable [DecidableEq Value]

omit [Add Time] in
/-- A report at `now`: dropped if it contradicts a command still settling. -/
def report (now : Time) (value : Value) (register : Register Value Time) : Register Value Time :=
  { register.inspect now with
    value := match (register.inspect now).pending with
      | none => value
      | some commanded => if value = commanded then value else register.value }

end Operations

section Tracking

variable {Value Time : Type} [LinearOrder Time] [Add Time] (window : Time)

/-- **A register and its history at `now`.** The value is the specified one; a register with no
pending command has no command settling; a pending command is the last one, with its deadline. -/
structure Tracks (initial : Value) (now : Time) (history : List (Time × Entry Value))
    (register : Register Value Time) : Prop where
  value_eq : register.value = heard window initial history
  idle : register.pending = none → ∀ time value, lastCommand history = some (time, value) →
    time + window < now
  held : ∀ commanded, register.pending = some commanded →
    ∃ time, lastCommand history = some (time, commanded) ∧ register.deadline = time + window ∧
      (now ≤ time + window → register.value = commanded)

variable {window} {initial : Value} {now later : Time} {history : List (Time × Entry Value)}
  {register : Register Value Time}

/-- A register without a pending command tracks the empty history. -/
theorem tracks_nil (idle : register.pending = none) :
    Tracks window register.value now [] register where
  value_eq := rfl
  idle _ _ _ last := by cases last
  held _ pending := by rw [idle] at pending; cases pending

/-- The register may be looked at later. -/
theorem Tracks.mono (tracks : Tracks window initial now history register) (le : now ≤ later) :
    Tracks window initial later history register where
  value_eq := tracks.value_eq
  idle idle time value last := lt_of_lt_of_le (tracks.idle idle time value last) le
  held commanded pending := by
    obtain ⟨time, last, deadline, same⟩ := tracks.held commanded pending
    exact ⟨time, last, deadline, fun within => same (le_trans le within)⟩

/-- The pending command of an inspected register is exactly the one settling. -/
theorem Tracks.inspect_pending (tracks : Tracks window initial now history register) :
    (register.inspect now).pending = settling window now history := by
  unfold inspect settling
  cases pending : register.pending with
  | none =>
    have cleared : (if register.deadline < now then { register with pending := none }
        else register).pending = none := by split <;> simp [pending]
    rw [cleared]
    cases last : lastCommand history with
    | none => rfl
    | some command =>
      have expired := tracks.idle pending command.1 command.2 last
      exact (if_neg (not_le.mpr expired)).symm
  | some commanded =>
    obtain ⟨time, last, deadline, -⟩ := tracks.held commanded pending
    rw [last, deadline]
    by_cases expired : time + window < now
    · simp [expired, not_le.mpr expired]
    · simp [expired, not_lt.mp expired, pending]

/-- While a command settles the register shows it. -/
theorem Tracks.value_settling (tracks : Tracks window initial now history register)
    {commanded : Value} (settles : settling window now history = some commanded) :
    register.value = commanded := by
  have pending : register.pending = some commanded := by
    have inspected := tracks.inspect_pending
    rw [settles] at inspected
    unfold inspect at inspected
    split at inspected
    · cases inspected
    · exact inspected
  obtain ⟨time, last, -, same⟩ := tracks.held commanded pending
  refine same ?_
  simp only [settling, last] at settles
  split at settles
  · assumption
  · cases settles

omit [Add Time] in
theorem inspect_value (register : Register Value Time) (now : Time) :
    (register.inspect now).value = register.value := by
  unfold inspect
  split <;> rfl

/-- **Looking keeps the tie.** -/
theorem tracks_inspect (tracks : Tracks window initial now history register) :
    Tracks window initial now history (register.inspect now) := by
  refine ⟨(inspect_value register now).trans tracks.value_eq, ?_, ?_⟩
  · intro idle time value last
    rw [tracks.inspect_pending] at idle
    simp only [settling, last] at idle
    split at idle
    · cases idle
    · exact not_le.mp ‹_›
  · intro commanded pending
    unfold inspect at pending ⊢
    split at pending
    · cases pending
    · rename_i live
      rw [if_neg live]
      exact tracks.held commanded pending

/-- **A command keeps the tie**, with the command added to the history. -/
theorem tracks_command (value : Value) :
    Tracks window initial now (history ++ [(now, .command value)])
      (register.command window now value) where
  value_eq := (heard_concat_command window initial history now value).symm
  idle idle := by cases idle
  held commanded pending := by
    cases pending
    exact ⟨now, lastCommand_concat_command history now _, rfl, fun _ => rfl⟩

/-- **A report keeps the tie**, with the report added to the history. -/
theorem tracks_report [DecidableEq Value] (tracks : Tracks window initial now history register)
    (value : Value) :
    Tracks window initial now (history ++ [(now, .report value)]) (register.report now value) := by
  have looked := tracks_inspect tracks
  have pendingEq := tracks.inspect_pending
  have valueEq : (register.report now value).value = (settling window now history).getD value := by
    cases settles : settling window now history with
    | none =>
      rw [settles] at pendingEq
      simp [report, pendingEq]
    | some commanded =>
      rw [settles] at pendingEq
      simp only [report, pendingEq, Option.getD_some, tracks.value_settling settles]
      split
      · assumption
      · rfl
  refine ⟨?_, ?_, ?_⟩
  · rw [valueEq, heard_concat_report]
  · intro idle time commanded last
    rw [lastCommand_concat_report] at last
    exact looked.idle idle time commanded last
  · intro commanded (pending : (register.inspect now).pending = some commanded)
    obtain ⟨time, last, deadline, -⟩ := looked.held commanded pending
    refine ⟨time, by rw [lastCommand_concat_report, last], deadline, fun _ => ?_⟩
    rw [pendingEq] at pending
    rw [valueEq, pending, Option.getD_some]

/-- What a step at `now` may do to a register when it adds `entry` to its history, if any. -/
def Follows [DecidableEq Value] (window : Time) (now : Time) (entry : Option (Entry Value))
    (before after : Register Value Time) : Prop :=
  match entry with
  | none => after = before ∨ after = before.inspect now
  | some (.command value) => after = before.command window now value
  | some (.report value) => after = before.report now value

/-- **A step that follows its entry keeps the tie.** -/
theorem Tracks.follow [DecidableEq Value] {entry : Option (Entry Value)}
    {after : Register Value Time} (tracks : Tracks window initial now history register)
    (follows : Follows window now entry register after) :
    Tracks window initial now (history ++ (entry.map (now, ·)).toList) after := by
  match entry with
  | none =>
    rw [Option.map_none, Option.toList_none, List.append_nil]
    rcases follows with rfl | rfl
    · exact tracks
    · exact tracks_inspect tracks
  | some (.command value) =>
    obtain rfl := follows
    exact tracks_command value
  | some (.report value) =>
    obtain rfl := follows
    exact tracks_report tracks value

omit [Add Time] in
theorem pending_of_inspect {commanded : Value}
    (held : (register.inspect now).pending = some commanded) :
    register.pending = some commanded := by
  unfold inspect at held
  split at held
  · cases held
  · exact held

/-- **What values a register may take.** If its value, its pending command and every new command are
good, the value stays good exactly if no bad value is reported while no command is settling; the
pending command stays good in any case. -/
theorem Follows.good_iff [DecidableEq Value] {good : Value → Prop} {entry : Option (Entry Value)}
    {before after : Register Value Time} (follows : Follows window now entry before after)
    (pendingGood : ∀ commanded, before.pending = some commanded → good commanded)
    (valueGood : good before.value)
    (commandGood : ∀ value, entry = some (.command value) → good value) :
    (∀ commanded, after.pending = some commanded → good commanded) ∧
      (good after.value ↔ ∀ value, entry = some (.report value) →
        (before.inspect now).pending = none → good value) := by
  match entry with
  | none =>
    have noReport : good after.value ↔ ∀ value, (none : Option (Entry Value)) =
        some (.report value) → (before.inspect now).pending = none → good value := by
      refine ⟨fun _ _ report => (by cases report), fun _ => ?_⟩
      rcases follows with rfl | rfl
      · exact valueGood
      · rwa [inspect_value]
    refine ⟨fun commanded held => pendingGood commanded ?_, noReport⟩
    rcases follows with rfl | rfl
    · exact held
    · exact pending_of_inspect held
  | some (.command value) =>
    obtain rfl := follows
    refine ⟨fun commanded held => ?_, fun _ _ report => (by cases report), fun _ => ?_⟩
    · obtain rfl : value = commanded := Option.some.inj held
      exact commandGood value rfl
    · exact commandGood value rfl
  | some (.report value) =>
    obtain rfl := follows
    refine ⟨fun commanded held => pendingGood commanded (pending_of_inspect held), ?_⟩
    cases settles : (before.inspect now).pending with
    | none =>
      have taken : (before.report now value).value = value := by simp [report, settles]
      rw [taken]
      refine ⟨fun good _ same _ => ?_, fun all => all value rfl rfl⟩
      obtain rfl := Entry.report.inj (Option.some.inj same)
      exact good
    | some commanded =>
      refine ⟨fun _ _ _ open_ => (by cases open_), fun _ => ?_⟩
      have kept : (before.report now value).value =
          if value = commanded then value else before.value := by simp [report, settles]
      rw [kept]
      split
      · rename_i same
        rw [same]
        exact pendingGood commanded (pending_of_inspect settles)
      · exact valueGood

end Tracking

end Register

/-! ### The eager register -/

/-- **The eager register**: the value and the last command with its time. Nothing is cleared; whether
the command is still settling is asked of the clock. -/
@[ext] structure Remembered (Value Time : Type) where
  value : Value
  commanded : Option (Time × Value)
  deriving DecidableEq, Repr

namespace Remembered

section Operations

variable {Value Time : Type} [LinearOrder Time] [Add Time] (window now : Time)

/-- The command still settling at `now`. -/
def settling (remembered : Remembered Value Time) : Option Value :=
  match remembered.commanded with
  | none => none
  | some (commanded, value) => if now ≤ commanded + window then some value else none

omit [LinearOrder Time] [Add Time] in
/-- A command takes effect and is remembered. -/
def command (value : Value) (_ : Remembered Value Time) : Remembered Value Time :=
  { value := value, commanded := some (now, value) }

/-- A report takes effect unless a command settles. -/
def report (value : Value) (remembered : Remembered Value Time) : Remembered Value Time :=
  { remembered with value := (remembered.settling window now).getD value }

/-- What an entry does, if there is one. -/
def follow (remembered : Remembered Value Time) : Option (Entry Value) → Remembered Value Time
  | none => remembered
  | some (.command value) => remembered.command now value
  | some (.report value) => remembered.report window now value

end Operations

end Remembered

namespace Register

section Refines

variable {Value Time : Type} [LinearOrder Time] [Add Time]

/-- **The lazy register refines the eager one**: the same value, and a history with the same last
command that it tracks. -/
def Refines (window now : Time) (register : Register Value Time)
    (remembered : Remembered Value Time) : Prop :=
  register.value = remembered.value ∧ ∃ initial history,
    Tracks window initial now history register ∧ lastCommand history = remembered.commanded

variable {window now later : Time} {register after : Register Value Time}
  {remembered : Remembered Value Time}

/-- A register without a pending command, with nothing remembered. -/
theorem refines_start (idle : register.pending = none) :
    Refines window now register { value := register.value, commanded := none } :=
  ⟨rfl, register.value, [], tracks_nil idle, rfl⟩

theorem Refines.mono (refines : Refines window now register remembered) (le : now ≤ later) :
    Refines window later register remembered := by
  obtain ⟨value, initial, history, tracks, last⟩ := refines
  exact ⟨value, initial, history, tracks.mono le, last⟩

/-- The command that is pending when the register is looked at is the one that settles. -/
theorem Refines.inspect_pending (refines : Refines window now register remembered) :
    (register.inspect now).pending = remembered.settling window now := by
  obtain ⟨-, initial, history, tracks, last⟩ := refines
  rw [tracks.inspect_pending, Settle.settling, Remembered.settling, last]

/-- **What the lazy register follows, the eager one follows.** -/
theorem Refines.follow [DecidableEq Value] (refines : Refines window now register remembered)
    {entry : Option (Entry Value)} (follows : Follows window now entry register after) :
    Refines window now after (remembered.follow window now entry) := by
  have settles := refines.inspect_pending
  obtain ⟨value, initial, history, tracks, last⟩ := refines
  have kept := tracks.follow follows
  rcases entry with _ | ⟨commanded⟩ | ⟨reported⟩
  · refine ⟨?_, initial, history, ?_, last⟩
    · rcases follows with rfl | rfl
      · exact value
      · exact (inspect_value register now).trans value
    · rwa [Option.map_none, Option.toList_none, List.append_nil] at kept
  · obtain rfl := follows
    exact ⟨rfl, initial, _, kept, lastCommand_concat_command history now commanded⟩
  · obtain rfl := follows
    refine ⟨?_, initial, _, kept, (lastCommand_concat_report history now reported).trans last⟩
    have heard : (register.report now reported).value =
        (Settle.settling window now history).getD reported := by
      rw [kept.value_eq]
      exact heard_concat_report window initial history now reported
    rw [heard, ← tracks.inspect_pending, settles]
    rfl

end Refines

end Register

end WemoBridge.Library.Settle
