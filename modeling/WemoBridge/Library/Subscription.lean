/-
**Subscribers that re-read what is reported.**

A machine reports keys whose value may have changed. A subscriber keeps the value it read last of
every key; reports wait until they are delivered, in any order and at any time, and on delivery the
subscriber reads the key again. If every change of a watched key is reported, then along every run
the subscriber either has the current value or a report of the key is still waiting
(`agrees_or_pending`).
-/

import WemoBridge.Library.Machine

namespace WemoBridge.Library

/-- A machine's state, what a subscriber read last, and the reports that wait. -/
structure Subscribed (State Key Value : Type) where
  state : State
  view : Key → Value
  pending : List Key

namespace Machine

variable {State Input Output Key Value : Type} [DecidableEq Key]
  (machine : Machine State Input Output) (read : State → Key → Value)
  (reported : Output → List Key)

/-- **The machine with a subscriber**: it makes a step and its reports wait, or a waiting report is
delivered. -/
def subscribe : Machine (Subscribed State Key Value) (Input ⊕ Key) (Option Output) where
  step subscribed
    | .inl input =>
        ({ subscribed with
            state := (machine.step subscribed.state input).1
            pending := subscribed.pending ++ reported (machine.step subscribed.state input).2 },
          some (machine.step subscribed.state input).2)
    | .inr key =>
        if key ∈ subscribed.pending then
          ({ subscribed with
              view := Function.update subscribed.view key (read subscribed.state key)
              pending := subscribed.pending.erase key }, none)
        else (subscribed, none)

/-- The subscriber has the current value of every watched key no report waits for. -/
def Agrees (watched : Key → Prop) (subscribed : Subscribed State Key Value) : Prop :=
  ∀ key, watched key → key ∉ subscribed.pending →
    subscribed.view key = read subscribed.state key

variable {machine read reported}

/-- **A subscriber never misses a change.** If in a good state every step that changes a watched key
reports it, and good states stay good, then the subscriber agrees along every run. -/
theorem agrees_or_pending {good : State → Prop} {watched : Key → Prop}
    (kept : ∀ state input, good state → good (machine.step state input).1)
    (complete : ∀ state input key, good state → watched key →
      read (machine.step state input).1 key ≠ read state key →
        key ∈ reported (machine.step state input).2)
    (events : List (Input ⊕ Key)) {start : Subscribed State Key Value} (goodStart : good start.state)
    (agrees : Agrees read watched start) :
    Agrees read watched ((machine.subscribe read reported).run start events) := by
  refine ((machine.subscribe read reported).run_invariant
    (fun subscribed => good subscribed.state ∧ Agrees read watched subscribed) ?_ events
    ⟨goodStart, agrees⟩).2
  rintro subscribed event ⟨goodNow, agreesNow⟩
  cases event with
  | inl input =>
    refine ⟨kept _ _ goodNow, fun key isWatched notPending => ?_⟩
    have notReported : key ∉ reported (machine.step subscribed.state input).2 :=
      fun member => notPending (List.mem_append_right _ member)
    have unchanged : read (machine.step subscribed.state input).1 key =
        read subscribed.state key := by
      by_contra changed
      exact notReported (complete _ _ key goodNow isWatched changed)
    exact (agreesNow key isWatched fun member =>
      notPending (List.mem_append_left _ member)).trans unchanged.symm
  | inr key =>
    simp only [subscribe]
    split
    · refine ⟨goodNow, fun other isWatched notPending => ?_⟩
      by_cases same : other = key
      · rw [same]
        exact Function.update_self _ _ _
      · refine (Function.update_of_ne same _ _).trans (agreesNow other isWatched fun member => ?_)
        exact notPending ((List.mem_erase_of_ne same).mpr member)
    · exact ⟨goodNow, agreesNow⟩

end Machine

end WemoBridge.Library
