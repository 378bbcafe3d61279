/-
**Deterministic machines: runs, histories, invariants and simulations.**

A `Machine` takes a state and an input to a state and an output; everything nondeterministic about
its surroundings is in the inputs. `run` is the state after a list of inputs, `history` pairs every
input with the output it got. Where inputs carry the time they arrive at, `Ordered now` says that
the times do not decrease from `now` on.

* `timed_history_invariant` — what one timed step preserves of (time, past, state), a whole ordered
  run preserves. Laws about "the last command in the history" are invariants of this shape.
* `trajectory` — the states of a run without end.
* `along_of_invariant` — what an invariant implies of every step holds along a run.
* `throughout_iff_along` — if a condition on a step is exactly what it takes to keep a property,
  then a run keeps it exactly if its steps meet the condition.
* `Unwinding.observations_filter` — if a relation of states meets the unwinding conditions, deleting
  inputs from a run changes neither the outputs of the others nor what is observed after them.
* `outputs_filter_of_simulation` — a machine simulated on the inputs that are kept gives them the
  simulating machine's outputs.
* `firstTaker` — machines in a row, where the first one that takes an input makes the step.
* `outputs_eq_of_bisimulation` — two states related by a relation that every later step keeps, and
  under which outputs agree, answer every later input list with the same outputs.
-/

import Mathlib

namespace WemoBridge.Library

/-- A deterministic machine with an output for every input. -/
structure Machine (State Input Output : Type) where
  step : State → Input → State × Output

namespace Machine

section Untimed

variable {State Input Output : Type} (machine : Machine State Input Output)

/-- The state after a list of inputs. -/
def run : State → List Input → State
  | state, [] => state
  | state, input :: rest => run (machine.step state input).1 rest

/-- Every input with the output it got. -/
def history : State → List Input → List (Input × Output)
  | _, [] => []
  | state, input :: rest =>
      (input, (machine.step state input).2) :: history (machine.step state input).1 rest

/-- The outputs of a run. -/
def outputs (state : State) (inputs : List Input) : List Output :=
  (machine.history state inputs).map Prod.snd

@[simp] theorem run_nil (state : State) : machine.run state [] = state := rfl

@[simp] theorem run_cons (state : State) (input : Input) (rest : List Input) :
    machine.run state (input :: rest) = machine.run (machine.step state input).1 rest := rfl

@[simp] theorem history_nil (state : State) : machine.history state [] = [] := rfl

@[simp] theorem history_cons (state : State) (input : Input) (rest : List Input) :
    machine.history state (input :: rest) =
      (input, (machine.step state input).2) ::
        machine.history (machine.step state input).1 rest := rfl

@[simp] theorem outputs_nil (state : State) : machine.outputs state [] = [] := rfl

@[simp] theorem outputs_cons (state : State) (input : Input) (rest : List Input) :
    machine.outputs state (input :: rest) =
      (machine.step state input).2 :: machine.outputs (machine.step state input).1 rest := rfl

theorem run_append (state : State) (inputs more : List Input) :
    machine.run state (inputs ++ more) = machine.run (machine.run state inputs) more := by
  induction inputs generalizing state with
  | nil => rfl
  | cons input rest ih => rw [List.cons_append, run_cons, run_cons, ih]

theorem history_map_fst (state : State) (inputs : List Input) :
    (machine.history state inputs).map Prod.fst = inputs := by
  induction inputs generalizing state with
  | nil => rfl
  | cons input rest ih => rw [history_cons, List.map_cons, ih]

theorem mem_of_mem_history {machine : Machine State Input Output} {state : State}
    {inputs : List Input} {step : Input × Output} (member : step ∈ machine.history state inputs) :
    step.1 ∈ inputs := by
  rw [← machine.history_map_fst state inputs]
  exact List.mem_map_of_mem member

/-- Every output of a run is one of a step. -/
theorem exists_step_of_mem_history {machine : Machine State Input Output} (inputs : List Input) :
    ∀ {state : State} {step : Input × Output}, step ∈ machine.history state inputs →
      ∃ now, step.2 = (machine.step now step.1).2 := by
  induction inputs with
  | nil => exact fun member => by cases member
  | cons input rest ih =>
    intro state step member
    rcases List.mem_cons.mp member with rfl | later
    · exact ⟨state, rfl⟩
    · exact ih later

/-- **What one step preserves, a run preserves.** -/
theorem run_invariant (inv : State → Prop)
    (preserved : ∀ state input, inv state → inv (machine.step state input).1)
    (inputs : List Input) : ∀ {state : State}, inv state → inv (machine.run state inputs) := by
  induction inputs with
  | nil => exact fun start => start
  | cons input rest ih => exact fun start => ih (preserved _ input start)

/-- **What one step preserves of the past and the state, a run preserves.** -/
theorem history_invariant (inv : List (Input × Output) → State → Prop)
    (preserved : ∀ past state input, inv past state →
      inv (past ++ [(input, (machine.step state input).2)]) (machine.step state input).1)
    (inputs : List Input) : ∀ {past : List (Input × Output)} {state : State}, inv past state →
      inv (past ++ machine.history state inputs) (machine.run state inputs) := by
  induction inputs with
  | nil =>
    intro past state start
    simpa using start
  | cons input rest ih =>
    intro past state start
    have next := ih (preserved past state input start)
    simpa using next

/-! ### Runs without end -/

/-- The state after the first inputs of an endless schedule. -/
def trajectory (state : State) (schedule : Nat → Input) : Nat → State
  | 0 => state
  | count + 1 => (machine.step (trajectory state schedule count) (schedule count)).1

/-- What one step preserves holds all along the schedule. -/
theorem trajectory_invariant (inv : State → Prop)
    (preserved : ∀ state input, inv state → inv (machine.step state input).1) {state : State}
    (start : inv state) (schedule : Nat → Input) (count : Nat) :
    inv (machine.trajectory state schedule count) := by
  induction count with
  | zero => exact start
  | succ count ih => exact preserved _ _ ih

/-- The states of the schedule are those of its runs. -/
theorem trajectory_eq_run (state : State) (schedule : Nat → Input) (count : Nat) :
    machine.trajectory state schedule count =
      machine.run state ((List.range count).map schedule) := by
  induction count with
  | zero => rfl
  | succ count ih => rw [List.range_succ, List.map_append, run_append, ← ih]; rfl

/-! ### Along a run -/

/-- A property of the state before a step and its input holds at every step of a run. -/
def Along (property : State → Input → Prop) : State → List Input → Prop
  | _, [] => True
  | state, input :: rest =>
      property state input ∧ Along property (machine.step state input).1 rest

/-- A property holds of every state of a run, the first and the last included. -/
def Throughout (property : State → Prop) : State → List Input → Prop
  | state, [] => property state
  | state, input :: rest => property state ∧ Throughout property (machine.step state input).1 rest

variable {machine}

/-- What an invariant implies of every step holds along a run. -/
theorem along_of_invariant (inv : State → Prop) {property : State → Input → Prop}
    (preserved : ∀ state input, inv state → inv (machine.step state input).1)
    (implies : ∀ state input, inv state → property state input) (inputs : List Input) :
    ∀ {state : State}, inv state → machine.Along property state inputs := by
  induction inputs with
  | nil => exact fun _ => trivial
  | cons input rest ih =>
    exact fun start => ⟨implies _ input start, ih (preserved _ input start)⟩

/-- **Exactly when a run stays good.** If, from a sound state with the property, an allowed step
keeps the property exactly if it meets a condition, then the property holds throughout a run of
allowed steps exactly if it holds at the start and every step meets the condition. -/
theorem throughout_iff_along {sound property : State → Prop} {allowed : Input → Prop}
    {condition : State → Input → Prop}
    (kept : ∀ state input, sound state → property state → allowed input →
      sound (machine.step state input).1 ∧
        (property (machine.step state input).1 ↔ condition state input))
    (inputs : List Input) : ∀ {state : State}, (∀ input ∈ inputs, allowed input) → sound state →
      (machine.Throughout property state inputs ↔
        property state ∧ machine.Along condition state inputs) := by
  induction inputs with
  | nil => exact fun _ _ => ⟨fun holds => ⟨holds, trivial⟩, fun holds => holds.1⟩
  | cons input rest ih =>
    intro state admitted good
    refine and_congr_right fun now => ?_
    obtain ⟨goodAfter, exact⟩ := kept state input good now (admitted input List.mem_cons_self)
    have restAdmitted : ∀ later ∈ rest, allowed later := fun later member =>
      admitted later (List.mem_cons_of_mem _ member)
    rw [ih restAdmitted goodAfter, Along, exact]

end Untimed

/-! ### Deleting inputs -/

section Purge

variable {State Input Output Observation : Type} (machine : Machine State Input Output)
  (observe : State → Observation)

/-- Every input with its output and what is observed of the state after it. -/
def observations : State → List Input → List (Input × Output × Observation)
  | _, [] => []
  | state, input :: rest =>
      (input, (machine.step state input).2, observe (machine.step state input).1) ::
        observations (machine.step state input).1 rest

/-- **The unwinding conditions.** Related states look the same, answer a kept input alike and stay
related; a deleted input on one side keeps them related. -/
structure Unwinding (keep : Input → Bool) (related : State → State → Prop) : Prop where
  alike : ∀ first second, related first second → observe first = observe second
  kept : ∀ first second input, related first second → keep input = true →
    (machine.step first input).2 = (machine.step second input).2 ∧
      related (machine.step first input).1 (machine.step second input).1
  deleted : ∀ first second input, related first second → keep input = false →
    related (machine.step first input).1 second

variable {machine observe} {keep : Input → Bool} {related : State → State → Prop}

/-- **The unwinding theorem**: without the deleted inputs, the kept ones give the same outputs and
observations. -/
theorem Unwinding.observations_filter (unwinding : machine.Unwinding observe keep related)
    (inputs : List Input) : ∀ {first second : State}, related first second →
      machine.observations observe second (inputs.filter keep) =
        (machine.observations observe first inputs).filter fun entry => keep entry.1 := by
  induction inputs with
  | nil => exact fun _ => rfl
  | cons input rest ih =>
    intro first second start
    cases kept : keep input with
    | true =>
      obtain ⟨same, next⟩ := unwinding.kept first second input start kept
      rw [List.filter_cons_of_pos kept, observations, observations,
        List.filter_cons_of_pos (by exact kept), same, unwinding.alike _ _ next, ih next]
    | false =>
      have next := unwinding.deleted first second input start kept
      rw [List.filter_cons_of_neg (by simp [kept]), observations,
        List.filter_cons_of_neg (by simp [kept]), ih next]

end Purge

/-! ### Timed inputs -/

section Timed

variable {Time State Input Output : Type} [Preorder Time]

/-- The times of the inputs do not decrease from `now` on. -/
def Ordered : Time → List (Time × Input) → Prop
  | _, [] => True
  | now, (time, _) :: rest => now ≤ time ∧ Ordered time rest

/-- The time of the last input, `now` if there is none. -/
def endTime : Time → List (Time × Input) → Time
  | now, [] => now
  | _, (time, _) :: rest => endTime time rest

omit [Preorder Time] in
@[simp] theorem endTime_nil (now : Time) :
    endTime now ([] : List (Time × Input)) = now := rfl

omit [Preorder Time] in
@[simp] theorem endTime_cons (now time : Time) (input : Input) (rest : List (Time × Input)) :
    endTime now ((time, input) :: rest) = endTime time rest := rfl

@[simp] theorem ordered_nil (now : Time) : Ordered now ([] : List (Time × Input)) := trivial

@[simp] theorem ordered_cons (now time : Time) (input : Input) (rest : List (Time × Input)) :
    Ordered now ((time, input) :: rest) ↔ now ≤ time ∧ Ordered time rest := Iff.rfl

theorem ordered_append (now : Time) (inputs more : List (Time × Input)) :
    Ordered now (inputs ++ more) ↔ Ordered now inputs ∧ Ordered (endTime now inputs) more := by
  induction inputs generalizing now with
  | nil => exact ⟨fun ordered => ⟨trivial, ordered⟩, fun both => both.2⟩
  | cons head rest ih =>
    rw [List.cons_append, Ordered, Ordered, endTime, ih, and_assoc]

theorem le_endTime {now : Time} {inputs : List (Time × Input)} (ordered : Ordered now inputs) :
    now ≤ endTime now inputs := by
  induction inputs generalizing now with
  | nil => exact le_rfl
  | cons head rest ih => exact le_trans ordered.1 (ih ordered.2)

/-- Ordered inputs have pairwise ordered times. -/
theorem Ordered.pairwise {now : Time} {inputs : List (Time × Input)}
    (ordered : Ordered now inputs) :
    (∀ input ∈ inputs, now ≤ input.1) ∧ inputs.Pairwise fun a b => a.1 ≤ b.1 := by
  induction inputs generalizing now with
  | nil => simp
  | cons head rest ih =>
    obtain ⟨le, orderedRest⟩ := ordered
    obtain ⟨above, pairwise⟩ := ih orderedRest
    refine ⟨fun input member => ?_, List.pairwise_cons.mpr ⟨above, pairwise⟩⟩
    rcases List.mem_cons.mp member with rfl | later
    · exact le
    · exact le_trans le (above input later)

theorem Ordered.mem_le_endTime {now : Time} {inputs : List (Time × Input)}
    (ordered : Ordered now inputs) {input : Time × Input} (member : input ∈ inputs) :
    input.1 ≤ endTime now inputs := by
  induction inputs generalizing now with
  | nil => cases member
  | cons head rest ih =>
    rcases List.mem_cons.mp member with rfl | later
    · exact le_endTime ordered.2
    · exact ih ordered.2 later

variable (machine : Machine State (Time × Input) Output)

/-- The steps of an ordered run are in the order of their times. -/
theorem history_pairwise {now : Time} {inputs : List (Time × Input)}
    (ordered : Ordered now inputs) (state : State) :
    (machine.history state inputs).Pairwise fun a b => a.1.1 ≤ b.1.1 := by
  have sameInputs := machine.history_map_fst state inputs
  have pairwise := ordered.pairwise.2
  rw [← sameInputs] at pairwise
  rwa [List.pairwise_map] at pairwise

/-- No step of an ordered run is later than its end. -/
theorem history_le_endTime {now : Time} {inputs : List (Time × Input)}
    (ordered : Ordered now inputs) (state : State) {step : (Time × Input) × Output}
    (member : step ∈ machine.history state inputs) : step.1.1 ≤ endTime now inputs := by
  refine ordered.mem_le_endTime ?_
  rw [← machine.history_map_fst state inputs]
  exact List.mem_map_of_mem member

/-- **The timed run lemma.** What one step at a time not before the last one preserves of the time,
the past and the state, an ordered run preserves. -/
theorem timed_history_invariant (inv : Time → List ((Time × Input) × Output) → State → Prop)
    (preserved : ∀ now time past state input, now ≤ time → inv now past state →
      inv time (past ++ [((time, input), (machine.step state (time, input)).2)])
        (machine.step state (time, input)).1)
    (inputs : List (Time × Input)) :
    ∀ {now : Time} {past : List ((Time × Input) × Output)} {state : State},
      Ordered now inputs → inv now past state →
        inv (endTime now inputs) (past ++ machine.history state inputs)
          (machine.run state inputs) := by
  induction inputs with
  | nil =>
    intro now past state _ start
    simpa using start
  | cons head rest ih =>
    obtain ⟨time, input⟩ := head
    intro now past state ordered start
    have next := ih ordered.2 (preserved now time past state input ordered.1 start)
    simpa using next

/-- **Bisimilar states answer alike.** A relation that every step keeps as time passes, and under
which one step has equal outputs, makes all later outputs equal. -/
theorem outputs_eq_of_bisimulation (related : Time → State → State → Prop)
    (kept : ∀ now time first second input, now ≤ time → related now first second →
      (machine.step first (time, input)).2 = (machine.step second (time, input)).2 ∧
        related time (machine.step first (time, input)).1 (machine.step second (time, input)).1)
    (inputs : List (Time × Input)) : ∀ {now : Time} {first second : State},
      Ordered now inputs → related now first second →
        machine.outputs first inputs = machine.outputs second inputs := by
  induction inputs with
  | nil => exact fun _ _ => rfl
  | cons head rest ih =>
    obtain ⟨time, input⟩ := head
    intro now first second ordered start
    obtain ⟨same, next⟩ := kept now time first second input ordered.1 start
    rw [outputs_cons, outputs_cons, same, ih ordered.2 next]

/-- **Simulation on the inputs that are kept.** Related states answer a kept input alike and stay
related; another input keeps them related. Then the outputs for the kept inputs are those of the
simulating machine, run on the kept inputs alone. -/
theorem outputs_filter_of_simulation {Abstract : Type}
    (abstract : Machine Abstract (Time × Input) Output) (keep : Input → Bool)
    (related : Time → State → Abstract → Prop)
    (kept : ∀ now time state reference input, now ≤ time → related now state reference →
      keep input = true →
        (machine.step state (time, input)).2 = (abstract.step reference (time, input)).2 ∧
          related time (machine.step state (time, input)).1
            (abstract.step reference (time, input)).1)
    (skipped : ∀ now time state reference input, now ≤ time → related now state reference →
      keep input = false → related time (machine.step state (time, input)).1 reference)
    (inputs : List (Time × Input)) : ∀ {now : Time} {state : State} {reference : Abstract},
      Ordered now inputs → related now state reference →
        ((machine.history state inputs).filter fun step => keep step.1.2).map Prod.snd =
          abstract.outputs reference (inputs.filter fun timed => keep timed.2) := by
  induction inputs with
  | nil => exact fun _ _ => rfl
  | cons head rest ih =>
    obtain ⟨time, input⟩ := head
    intro now state reference ordered start
    cases taken : keep input with
    | true =>
      obtain ⟨same, next⟩ := kept now time state reference input ordered.1 start taken
      rw [history_cons, List.filter_cons_of_pos (by exact taken), List.map_cons,
        List.filter_cons_of_pos (by exact taken), outputs_cons, same, ih ordered.2 next]
    | false =>
      have next := skipped now time state reference input ordered.1 start taken
      rw [history_cons, List.filter_cons_of_neg (by simp [taken]),
        List.filter_cons_of_neg (by simp [taken]), ih ordered.2 next]

end Timed

/-! ### Machines in a row -/

section Row

variable {State Input Output : Type} (takes : State → Input → Bool)
  (step : State → Input → State × Output) (missed : Input → Output)

/-- The first state that takes the input makes the step; if none does, nothing happens. -/
def firstTaker : List State → Input → List State × Output
  | [], input => ([], missed input)
  | state :: rest, input =>
      if takes state input then ((step state input).1 :: rest, (step state input).2)
      else (state :: (firstTaker rest input).1, (firstTaker rest input).2)

variable {takes step missed} {input : Input}

theorem firstTaker_of_none {states : List State} (none_ : ∀ state ∈ states,
    takes state input = false) : firstTaker takes step missed states input =
      (states, missed input) := by
  induction states with
  | nil => rfl
  | cons state rest ih =>
    rw [firstTaker, if_neg (by simp [none_ state List.mem_cons_self]),
      ih fun other member => none_ other (List.mem_cons_of_mem _ member)]

theorem firstTaker_append {earlier rest : List State} {state : State}
    (none_ : ∀ other ∈ earlier, takes other input = false) (taken : takes state input = true) :
    firstTaker takes step missed (earlier ++ state :: rest) input =
      (earlier ++ (step state input).1 :: rest, (step state input).2) := by
  induction earlier with
  | nil => rw [List.nil_append, firstTaker, if_pos taken, List.nil_append]
  | cons other earlier ih =>
    rw [List.cons_append, firstTaker, if_neg (by simp [none_ other List.mem_cons_self]),
      ih fun third member => none_ third (List.mem_cons_of_mem _ member), List.cons_append]

end Row

end Machine

end WemoBridge.Library
