/-
**Lights do not interfere.**

All published lights share the tables that the handlers search. Still, a run says of one light only
what its own steps say: deleting every step addressed to another light leaves the light, after every
remaining step, and the reply to every remaining step as they were (`lights_do_not_interfere`). The
argument is unwinding: two bridges that find the same targets and agree on the light (`AgreeOn`)
answer a remaining step alike and keep agreeing, and a deleted step on one side changes neither.
-/

import WemoBridge.Init

namespace WemoBridge

open Library

variable {D : Type} [ChipSdk D]

namespace Bridge

/-- The step is addressed to another published light. -/
def forAnother (bridge : Bridge D) (x : PublishedLight) (input : Input) : Bool :=
  (bridge.target input).any (· ≠ x.device)

/-- The run without the steps addressed to other lights. -/
def withoutOthers (bridge : Bridge D) (x : PublishedLight) (inputs : List (TimePoint × Input)) :
    List (TimePoint × Input) :=
  inputs.filter fun step => !bridge.forAnother x step.2

/-- The commands dispatched for a light. -/
def commandsFor (bridge : Bridge D) (x : PublishedLight) (inputs : List (TimePoint × Input)) :
    List Command :=
  ((bridgeMachine D).history bridge inputs).flatMap fun entry =>
    if entry.1.2.isFor x then entry.2.dispatched else []

/-- Two bridges that find the same light for every step, and agree on one light. -/
structure AgreeOn (x : PublishedLight) (target : Input → Option DevicePtr)
    (first second : Bridge D) : Prop where
  published : first.Published
  published' : second.Published
  publishes : first.Publishes x
  publishes' : second.Publishes x
  target_eq : first.target = target
  target_eq' : second.target = target
  light : first.lightAt x.device = second.lightAt x.device

section Unwinding

variable {first second bridge : Bridge D} {x : PublishedLight}
  {target : Input → Option DevicePtr} {now : TimePoint} {input : Input}

theorem AgreeOn.step (agree : AgreeOn x target first second)
    (remains : target input = none ∨ target input = some x.device) :
    (first.step (now, input)).2 = (second.step (now, input)).2 ∧
      AgreeOn x target (first.step (now, input)).1 (second.step (now, input)).1 := by
  have answer : (first.step (now, input)).2 = (second.step (now, input)).2 ∧
      (first.step (now, input)).1.lightAt x.device =
        (second.step (now, input)).1.lightAt x.device := by
    rcases remains with missed | aimed
    · rw [agree.published.step_no_target (by rw [agree.target_eq, missed]),
        agree.published'.step_no_target (by rw [agree.target_eq', missed])]
      exact ⟨rfl, agree.light⟩
    · obtain ⟨light, found, backs⟩ := agree.publishes.light
      have found' := agree.light.symm.trans found
      have device := (light.step_static now input).device
      rw [agree.published.step_target agree.publishes (by rw [agree.target_eq, aimed]) found backs,
        agree.published'.step_target agree.publishes' (by rw [agree.target_eq', aimed]) found'
          backs]
      refine ⟨rfl, ?_⟩
      rw [lightAt_putLight_self found (device.trans (lightAt_device found)),
        lightAt_putLight_self found' (device.trans (lightAt_device found'))]
  exact ⟨answer.1, agree.published.step now input, agree.published'.step now input,
    (agree.published.step_publishes_iff now input x).mpr agree.publishes,
    (agree.published'.step_publishes_iff now input x).mpr agree.publishes',
    (agree.published.target_step now input).trans agree.target_eq,
    (agree.published'.target_step now input).trans agree.target_eq', answer.2⟩

/-- A step for another light on one side goes unnoticed. -/
theorem AgreeOn.step_other (agree : AgreeOn x target first second)
    (elsewhere : target input ≠ some x.device) :
    AgreeOn x target (first.step (now, input)).1 second :=
  ⟨agree.published.step now input, agree.published',
    (agree.published.step_publishes_iff now input x).mpr agree.publishes, agree.publishes',
    (agree.published.target_step now input).trans agree.target_eq, agree.target_eq',
    (agree.published.lightAt_step_elsewhere now input
      (by rw [agree.target_eq]; exact elsewhere)).trans agree.light⟩

omit [ChipSdk D] in
theorem forAnother_eq_false_iff :
    bridge.forAnother x input = false ↔
      bridge.target input = none ∨ bridge.target input = some x.device := by
  unfold forAnother
  cases bridge.target input <;> simp

/-- **The unwinding conditions hold.** -/
theorem unwinding (bridge : Bridge D) (x : PublishedLight) :
    (bridgeMachine D).Unwinding (fun bridge => bridge.lightAt x.device)
      (fun step => !bridge.forAnother x step.2) (AgreeOn x bridge.target) where
  alike _ _ agree := agree.light
  kept _ _ step agree remains :=
    agree.step (forAnother_eq_false_iff.mp (by simpa using remains))
  deleted _ _ step agree deleted := by
    refine agree.step_other fun aimed => ?_
    have notDeleted : bridge.forAnother x step.2 = false :=
      forAnother_eq_false_iff.mpr (Or.inr aimed)
    simp [notDeleted] at deleted

/-- A step is for another light exactly if it is addressed to one. -/
theorem Published.forAnother_iff (published : bridge.Published)
    (distinct : bridge.DistinctWemoIds) (ofX : bridge.Publishes x) :
    bridge.forAnother x input = true ↔
      ∃ y, bridge.Publishes y ∧ y ≠ x ∧ input.isFor y = true := by
  constructor
  · intro another
    cases aimed : bridge.target input with
    | none => simp [forAnother, aimed] at another
    | some dev =>
      obtain ⟨y, ofY, rfl⟩ := published.exists_of_target aimed
      refine ⟨y, ofY, ?_, (published.target_eq_some_iff distinct ofY input).mp aimed⟩
      rintro rfl
      simp [forAnother, aimed] at another
  · rintro ⟨y, ofY, different, addressed⟩
    have aimed := (published.target_eq_some_iff distinct ofY input).mpr addressed
    have devices : y.device ≠ x.device := fun same =>
      different (published.eq_of_device ofY ofX same)
    simp [forAnother, aimed, devices]

/-- What is dispatched for the light can be read off the remaining steps. -/
theorem commandsFor_eq (bridge : Bridge D) (x : PublishedLight)
    (inputs : List (TimePoint × Input)) : bridge.commandsFor x inputs =
      ((bridgeMachine D).observations (fun bridge => bridge.lightAt x.device) bridge
        inputs).flatMap fun entry => if entry.1.2.isFor x then entry.2.1.dispatched else [] := by
  unfold commandsFor
  induction inputs generalizing bridge with
  | nil => rfl
  | cons step rest ih =>
    rw [Machine.history_cons, List.flatMap_cons, ih, Machine.observations, List.flatMap_cons]

end Unwinding

end Bridge

/-- **Lights do not interfere.** Delete from a run every step addressed to another published light:
after every remaining step the light is as before, with its settle windows, every remaining step is
answered as before, and the same commands are dispatched for the light. -/
theorem lights_do_not_interfere {bridge : Bridge D} {x : PublishedLight}
    (published : bridge.Published) (distinct : bridge.DistinctWemoIds) (ofX : bridge.Publishes x)
    (inputs : List (TimePoint × Input)) :
    (∀ input, bridge.forAnother x input = true ↔
      ∃ y, bridge.Publishes y ∧ y ≠ x ∧ input.isFor y = true) ∧
    (bridgeMachine D).observations (fun bridge => bridge.lightAt x.device) bridge
        (bridge.withoutOthers x inputs) =
      ((bridgeMachine D).observations (fun bridge => bridge.lightAt x.device) bridge
        inputs).filter (fun entry => !bridge.forAnother x entry.1.2) ∧
    bridge.commandsFor x (bridge.withoutOthers x inputs) = bridge.commandsFor x inputs := by
  have start : Bridge.AgreeOn x bridge.target bridge bridge :=
    ⟨published, published, ofX, ofX, rfl, rfl, rfl⟩
  have same := (bridge.unwinding x).observations_filter inputs start
  refine ⟨fun input => published.forAnother_iff distinct ofX, same, ?_⟩
  rw [Bridge.commandsFor_eq, Bridge.commandsFor_eq, Bridge.withoutOthers, same]
  refine flatMap_filter_of_nil fun entry another => if_neg fun addressed => ?_
  have aimed := (published.target_eq_some_iff distinct ofX entry.1.2).mpr addressed
  simp [Bridge.forAnother, aimed] at another

/-- A write to the dimmer, a write to the socket and an event of the socket: the dimmer sees its own
write alone. -/
theorem lights_do_not_interfere_sample :
    let inputs : List (TimePoint × Input) :=
      [(0, .write 4 (.onOff .onOff) fun _ => 0), (5, .write 3 (.onOff .onOff) fun _ => 1),
        (9, .event { wemoId := 8, isOnline := false, state := 0, level := -1 })]
    (sampleHome.withoutOthers sampleDimmer inputs).length = 1 ∧
      sampleHome.commandsFor sampleDimmer (sampleHome.withoutOthers sampleDimmer inputs) =
        sampleHome.commandsFor sampleDimmer inputs := by
  refine ⟨by decide, ?_⟩
  exact (lights_do_not_interfere sampleHome_started.1.published sampleHome_started.2
    sampleHome_publishes _).2.2

end WemoBridge
