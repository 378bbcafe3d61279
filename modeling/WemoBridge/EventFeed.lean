/-
**From the engine's events to the Matter thread.**

The engine calls `OnWeStateEvent` from its own thread. Before `RegisterStateCallback` the event is
lost; after it the lambda of `ApplicationInit` copies the event into a context and posts it to the
Matter thread, which runs what was posted in order, between the reads and writes of controllers. A
`Feed` is the bridge with this queue and with the WeMos as the engine reports them. All of this runs
in any order: WeMos change, events are fired, lost, posted and handled at any time.

`feed_converges`: an event of a WeMo fired after the registration brings its light up to date. Once
what is posted for the WeMo has been handled, the light shows the WeMo, if the WeMo has not changed
since that event and no controller has written to the light since shortly before it. So the refresh
at the end of `ApplicationInit` makes up for what was lost before the registration.
-/

import WemoBridge.Reference
import WemoBridge.Adapter

namespace WemoBridge

open Library

variable {D : Type} [ChipSdk D]

/-! ### The feed -/

/-- The bridge between the engine and the Matter thread. -/
structure Feed (D : Type) where
  bridge : Bridge D
  /-- `gStateCallback` is set -/
  registered : Bool
  /-- posted with `ScheduleWork` and not yet run -/
  scheduled : List WemoEventContext
  /-- the WeMos as the engine reports them -/
  wemos : Int → WeState

/-- What happens around the Matter thread. -/
inductive FeedInput where
  /-- `RegisterStateCallback`, and whether the engine is initialised -/
  | registerStateCallback (initialized : Bool)
  | change (wemoId : Int) (data : WeState)
  /-- the engine calls `OnWeStateEvent`, and `ScheduleWork` posts the context or fails -/
  | fire (wemoId : Int) (posted : Bool)
  /-- the Matter thread runs the next context -/
  | runWork
  | write (endpoint : EndpointId) (path : AttributePath) (buffer : Buffer)
  | read (endpoint : EndpointId) (path : AttributePath) (maxReadLength : Nat)

/-- One step of the feed, with the bridge's answer if it makes a step. -/
def Feed.step (feed : Feed D) : TimePoint × FeedInput → Feed D × Option Reply
  | (_, .registerStateCallback initialized) =>
      ({ feed with registered := feed.registered || initialized }, none)
  | (_, .change wemoId data) =>
      ({ feed with wemos := Function.update feed.wemos wemoId data }, none)
  | (_, .fire wemoId posted) =>
      if feed.registered ∧ posted then
        ({ feed with
            scheduled := feed.scheduled ++ [onWeStateEvent wemoId (feed.wemos wemoId)] }, none)
      else (feed, none)
  | (now, .runWork) =>
      match feed.scheduled with
      | [] => (feed, none)
      | ctx :: rest =>
        ({ feed with bridge := (feed.bridge.step (now, .event ctx)).1, scheduled := rest },
          some (feed.bridge.step (now, .event ctx)).2)
  | (now, .write endpoint path buffer) =>
      ({ feed with bridge := (feed.bridge.step (now, .write endpoint path buffer)).1 },
        some (feed.bridge.step (now, .write endpoint path buffer)).2)
  | (now, .read endpoint path maxReadLength) =>
      ({ feed with bridge := (feed.bridge.step (now, .read endpoint path maxReadLength)).1 },
        some (feed.bridge.step (now, .read endpoint path maxReadLength)).2)

/-- **The running feed.** -/
def feedMachine (D : Type) [ChipSdk D] : Machine (Feed D) (TimePoint × FeedInput) (Option Reply) :=
  { step := Feed.step }

/-- A started bridge: no callback, nothing posted. -/
def Bridge.feed (bridge : Bridge D) (wemos : Int → WeState) : Feed D :=
  { bridge := bridge, registered := false, scheduled := [], wemos := wemos }

/-- What is posted for a WeMo, in order. -/
def Feed.pending (feed : Feed D) (wemoId : Int) : List WemoEventContext :=
  feed.scheduled.filter (·.wemoId = wemoId)

/-- **The light shows the WeMo**: its reachability, and of a WeMo that is online its OnOff and, on a
dimmer that reports one, its level. -/
def Bridge.ShowsWemo (bridge : Bridge D) (x : PublishedLight) (data : WeState) : Prop :=
  bridge.isReachableOf x = some (decide (data.isOnline ≠ 0)) ∧
    (data.isOnline ≠ 0 → bridge.onOffOf x = some (decide (data.state ≠ 0)) ∧
      (x.isDimmable = true → 0 ≤ data.level → bridge.levelOf x = some (matterLevelOf data.level)))

/-- The step writes to an endpoint. -/
def FeedInput.writesTo (endpoint : EndpointId) : FeedInput → Prop
  | .write address _ _ => address = endpoint
  | _ => False

/-! ### A reference light that nobody writes to -/

namespace ReferenceLight

/-- The reference shows the WeMo. -/
def ShowsWemo (reference : ReferenceLight) (data : WeState) : Prop :=
  reference.isReachable = decide (data.isOnline ≠ 0) ∧
    (data.isOnline ≠ 0 → reference.onOff.value = decide (data.state ≠ 0) ∧
      (reference.isDimmable = true → 0 ≤ data.level →
        reference.level.value = matterLevelOf data.level))

/-- Every write to the light is long past at `fired`. -/
structure Quiet (fired : TimePoint) (reference : ReferenceLight) : Prop where
  onOff : ∀ time on, reference.onOff.commanded = some (time, on) →
    time + kCommandSettleWindow < fired
  level : ∀ time value, reference.level.commanded = some (time, value) →
    time + kCommandSettleWindow < fired

variable {fired now : TimePoint} {reference : ReferenceLight}

/-- A remembered command that is long past does not settle. -/
theorem settling_of_past {α : Type} {remembered : Settle.Remembered α TimePoint}
    (past : ∀ time value, remembered.commanded = some (time, value) →
      time + kCommandSettleWindow < fired) (le : fired ≤ now) :
    remembered.settling kCommandSettleWindow now = none := by
  unfold Settle.Remembered.settling
  cases commanded : remembered.commanded with
  | none => rfl
  | some command =>
    obtain ⟨time, value⟩ := command
    exact if_neg (not_le.mpr (lt_of_lt_of_le (past time value commanded) le))

/-- An event takes effect on a quiet light. -/
theorem Quiet.event (quiet : reference.Quiet fired) (le : fired ≤ now) (wemoId : Int)
    (data : WeState) :
    (reference.event now (onWeStateEvent wemoId data)).1.ShowsWemo data := by
  have onOff := settling_of_past quiet.onOff le
  have level := settling_of_past quiet.level le
  refine ⟨rfl, fun online => ⟨?_, fun dimmable above => ?_⟩⟩
  · have reported : (reference.event now (onWeStateEvent wemoId data)).1.onOff =
        reference.onOff.report kCommandSettleWindow now (decide (data.state ≠ 0)) :=
      if_pos (by simpa [onWeStateEvent] using online)
    rw [reported, Settle.Remembered.report, onOff]
    rfl
  · have reported : (reference.event now (onWeStateEvent wemoId data)).1.level =
        reference.level.report kCommandSettleWindow now (matterLevelOf data.level) :=
      if_pos ⟨by simpa [onWeStateEvent] using online, dimmable, above⟩
    rw [reported, Settle.Remembered.report, level]
    rfl

/-- An event is not remembered. -/
theorem event_commanded (now : TimePoint) (reference : ReferenceLight) (ctx : WemoEventContext) :
    (reference.event now ctx).1.onOff.commanded = reference.onOff.commanded ∧
      (reference.event now ctx).1.level.commanded = reference.level.commanded := by
  unfold event become
  constructor
  · dsimp only
    split <;> rfl
  · dsimp only
    split <;> rfl

/-- Only a write is remembered, and only its own time. -/
theorem Quiet.step (quiet : reference.Quiet fired) (input : Input)
    (past : ∀ endpoint path buffer, input = .write endpoint path buffer →
      now + kCommandSettleWindow < fired) :
    (reference.step D now input).1.Quiet fired := by
  cases input with
  | write endpoint path buffer =>
    have here := past endpoint path buffer rfl
    rw [ReferenceLight.step]
    split
    · split
      · unfold ReferenceLight.write
        split
        · refine ⟨fun time on commanded => ?_, quiet.level⟩
          cases commanded
          exact here
        · split
          · exact quiet
          · refine ⟨quiet.onOff, fun time value commanded => ?_⟩
            cases commanded
            exact here
        · split <;> exact ⟨quiet.onOff, quiet.level⟩
        · exact quiet
        · exact quiet
      · exact quiet
    · exact quiet
  | read endpoint path maxReadLength => exact quiet
  | event ctx =>
    obtain ⟨sameOnOff, sameLevel⟩ := event_commanded now reference ctx
    exact ⟨fun time on commanded => quiet.onOff time on (sameOnOff.symm.trans commanded),
      fun time value commanded => quiet.level time value (sameLevel.symm.trans commanded)⟩

end ReferenceLight

/-- A step of the bridge, addressed to the light or not. -/
theorem Bridge.ShowsLight.step_any {x : PublishedLight} {now : TimePoint} {bridge : Bridge D}
    {reference : ReferenceLight} (shows : bridge.ShowsLight x now reference) (input : Input) :
    (bridge.step (now, input)).1.ShowsLight x now
      (if input.isFor x = true then (reference.step D now input).1 else reference) := by
  by_cases addressed : input.isFor x = true
  · rw [if_pos addressed]
    by_cases specified : input.isSpecified = true
    · exact shows.step specified addressed
    · cases input with
      | read endpoint path maxReadLength => exact shows
      | write endpoint path buffer => exact absurd rfl specified
      | event ctx => exact absurd rfl specified
  · rw [if_neg addressed]
    exact shows.step_other (by simpa using addressed)

/-! ### Before the event and after it -/

namespace Feed

/-- A write to the light is long past at `fired`. -/
def LongPast (x : PublishedLight) (fired : TimePoint) (step : TimePoint × FeedInput) : Prop :=
  step.2.writesTo x.endpoint → step.1 + kCommandSettleWindow < fired

/-- **Before the event**: the light shows a reference light on which every write is long past. -/
def Rests (x : PublishedLight) (fired now : TimePoint) (feed : Feed D) : Prop :=
  ∃ reference : ReferenceLight, feed.bridge.ShowsLight x now reference ∧ reference.Quiet fired

/-- **After the event**: the WeMo has not changed, and the last context posted for it carries its
state, or none is posted and the light shows it. -/
structure Caught (x : PublishedLight) (data : WeState) (fired now : TimePoint) (feed : Feed D) :
    Prop where
  wemo : feed.wemos x.wemoId = data
  le : fired ≤ now
  shown : ∃ reference : ReferenceLight, feed.bridge.ShowsLight x now reference ∧
    reference.Quiet fired ∧
      ((feed.pending x.wemoId).getLast? = some (onWeStateEvent x.wemoId data) ∨
        feed.pending x.wemoId = [] ∧ reference.ShowsWemo data)

variable {x : PublishedLight} {now time fired : TimePoint} {feed : Feed D} {data : WeState}

/-- A step of the bridge keeps the light quiet. -/
theorem Rests.bridge_step (rests : feed.Rests x fired now) (le : now ≤ time) (input : Input)
    (past : ∀ endpoint path buffer, input = .write endpoint path buffer → endpoint = x.endpoint →
      time + kCommandSettleWindow < fired) (scheduled : List WemoEventContext) :
    Rests x fired time
      { feed with bridge := (feed.bridge.step (time, input)).1, scheduled := scheduled } := by
  obtain ⟨reference, shows, quiet⟩ := rests
  refine ⟨_, (shows.mono le).step_any input, ?_⟩
  split
  · rename_i addressed
    refine quiet.step input fun endpoint path buffer same => past endpoint path buffer same ?_
    subst same
    simpa [Input.isFor] using addressed
  · exact quiet

theorem Rests.step (rests : feed.Rests x fired now) (le : now ≤ time) {input : FeedInput}
    (longPast : LongPast x fired (time, input)) :
    (feed.step (time, input)).1.Rests x fired time := by
  have stays : feed.Rests x fired time := by
    obtain ⟨reference, shows, quiet⟩ := rests
    exact ⟨reference, shows.mono le, quiet⟩
  cases input with
  | registerStateCallback initialized => exact stays
  | change wemoId data => exact stays
  | fire wemoId posted =>
    rw [Feed.step]
    split <;> exact stays
  | runWork =>
    rw [Feed.step]
    split
    · exact stays
    · exact rests.bridge_step le _ (fun _ _ _ same => by cases same) _
  | write endpoint path buffer =>
    refine rests.bridge_step le _ (fun address _ _ same here => longPast ?_) _
    cases same
    exact here
  | read endpoint path maxReadLength =>
    exact rests.bridge_step le _ (fun _ _ _ same => by cases same) _

/-- **The event is posted.** -/
theorem Rests.fire (rests : feed.Rests x fired now) (le : now ≤ fired)
    (registered : feed.registered = true) :
    (feed.step (fired, .fire x.wemoId true)).1.Caught x (feed.wemos x.wemoId) fired fired := by
  obtain ⟨reference, shows, quiet⟩ := rests
  rw [Feed.step, if_pos ⟨registered, rfl⟩]
  refine ⟨rfl, le_rfl, reference, shows.mono le, quiet, Or.inl ?_⟩
  rw [pending, List.filter_append, List.filter_singleton]
  simp [onWeStateEvent]

/-- What is done with the context at the head of the queue. -/
theorem Caught.runWork (caught : feed.Caught x data fired now) (le : now ≤ time) :
    (feed.step (time, .runWork)).1.Caught x data fired time := by
  obtain ⟨wemo, leNow, reference, shows, quiet, owed⟩ := caught
  have leTime := le_trans leNow le
  rw [Feed.step]
  split
  · exact ⟨wemo, leTime, reference, shows.mono le, quiet, owed⟩
  · rename_i ctx rest queue
    have stepped := (shows.mono le).step_any (.event ctx)
    rw [pending, queue] at owed
    by_cases own : ctx.wemoId = x.wemoId
    · rw [if_pos (by simpa [Input.isFor] using own)] at stepped
      have quietNext : (reference.step D time (.event ctx)).1.Quiet fired :=
        quiet.step _ fun _ _ _ same => by cases same
      rw [List.filter_cons_of_pos (by simpa using own)] at owed
      have last := owed.resolve_right fun nothing => by cases nothing.1
      refine ⟨wemo, leTime, _, stepped, quietNext, ?_⟩
      show (rest.filter (·.wemoId = x.wemoId)).getLast? = _ ∨
        rest.filter (·.wemoId = x.wemoId) = [] ∧ _
      cases others : rest.filter (·.wemoId = x.wemoId) with
      | nil =>
        -- it was the last one: the event takes effect
        rw [others] at last
        obtain rfl : ctx = onWeStateEvent x.wemoId data := Option.some.inj last
        exact Or.inr ⟨rfl, quiet.event leTime x.wemoId data⟩
      | cons next more =>
        rw [others, List.getLast?_cons_cons] at last
        exact Or.inl last
    · rw [if_neg (by simpa [Input.isFor] using own)] at stepped
      rw [List.filter_cons_of_neg (by simpa using own)] at owed
      exact ⟨wemo, leTime, reference, stepped, quiet, owed⟩

/-- **Nothing but a change of the WeMo or a write undoes the event.** -/
theorem Caught.step (caught : feed.Caught x data fired now) (le : now ≤ time) {input : FeedInput}
    (unchanged : ∀ data, input ≠ .change x.wemoId data)
    (longPast : LongPast x fired (time, input)) :
    (feed.step (time, input)).1.Caught x data fired time := by
  have leTime := le_trans caught.le le
  have stays : feed.Caught x data fired time := by
    obtain ⟨wemo, -, reference, shows, quiet, owed⟩ := caught
    exact ⟨wemo, leTime, reference, shows.mono le, quiet, owed⟩
  cases input with
  | registerStateCallback initialized => exact ⟨stays.wemo, leTime, stays.shown⟩
  | change wemoId other =>
    have elsewhere : x.wemoId ≠ wemoId := by
      rintro rfl
      exact unchanged other rfl
    exact ⟨(Function.update_of_ne elsewhere _ _).trans stays.wemo, leTime, stays.shown⟩
  | fire wemoId posted =>
    rw [Feed.step]
    split
    · obtain ⟨wemo, -, reference, shows, quiet, owed⟩ := stays
      refine ⟨wemo, leTime, reference, shows, quiet, ?_⟩
      rw [pending, List.filter_append, List.filter_singleton]
      by_cases own : wemoId = x.wemoId
      · subst own
        refine Or.inl ?_
        simp [onWeStateEvent, wemo]
      · rw [show (decide ((onWeStateEvent wemoId (feed.wemos wemoId)).wemoId = x.wemoId)) = false by
          simpa [onWeStateEvent] using own]
        simpa [pending] using owed
    · exact stays
  | runWork => exact caught.runWork le
  | write endpoint path buffer =>
    have elsewhere : ¬ (Input.write endpoint path buffer).isFor x = true := by
      intro addressed
      have own : endpoint = x.endpoint := by simpa [Input.isFor] using addressed
      have early := longPast own
      have window : (0 : TimePoint) ≤ kCommandSettleWindow := by decide
      exact absurd (lt_of_le_of_lt (le_trans leTime (le_add_of_nonneg_right window)) early)
        (lt_irrefl _)
    obtain ⟨wemo, -, reference, shows, quiet, owed⟩ := stays
    have stepped := shows.step_any (.write endpoint path buffer)
    rw [if_neg elsewhere] at stepped
    exact ⟨wemo, leTime, reference, stepped, quiet, owed⟩
  | read endpoint path maxReadLength =>
    obtain ⟨wemo, -, reference, shows, quiet, owed⟩ := stays
    exact ⟨wemo, leTime, reference, shows, quiet, owed⟩

/-- A turn of the Matter thread takes one context from the queue. -/
theorem scheduled_runWork (now : TimePoint) (feed : Feed D) :
    (feed.step (now, .runWork)).1.scheduled = feed.scheduled.tail := by
  rw [Feed.step]
  split
  · rename_i empty
    rw [empty, List.tail_nil]
  · rename_i queue
    rw [queue, List.tail_cons]

/-- As many turns as there are contexts leave none. -/
theorem drained (times : List TimePoint) : ∀ feed : Feed D,
    times.length = feed.scheduled.length →
      ((feedMachine D).run feed (times.map (·, .runWork))).scheduled = [] := by
  induction times with
  | nil => exact fun feed length => List.length_eq_zero_iff.mp length.symm
  | cons time rest ih =>
    intro feed length
    refine ih _ ?_
    show rest.length = (feed.step (time, .runWork)).1.scheduled.length
    rw [scheduled_runWork, List.length_tail, ← length, List.length_cons, Nat.add_sub_cancel]

end Feed

/-! ### Convergence -/

section Converges

variable {heap : Allocator} {lastFixed : EndpointId} {refuses : Nat → EndpointId → Bool}
  {discovered : List WemoDevice} {start : Bridge D}

/-- A started bridge rests. -/
theorem Bridge.feed_rests (starts : applicationInit heap lastFixed refuses discovered = some start)
    (distinct : start.DistinctWemoIds) {x : PublishedLight} (ofX : start.Publishes x)
    (wemos : Int → WeState) (fired now : TimePoint) : (start.feed wemos).Rests x fired now := by
  obtain ⟨dev, endpoint, shows⟩ := applicationInit_showsLight starts distinct ofX now
  refine ⟨_, shows, fun time on commanded => ?_, fun time value commanded => ?_⟩
  · cases commanded
  · cases commanded

/-- **An event after the registration brings its light up to date**, whatever happens in between: if
the WeMo of a published light is reported after the registration and does not change afterwards, and
no controller writes to the light from 2000 ms before that on, then the light shows the WeMo as soon
as nothing is posted for it. What is posted is run: as many turns of the Matter thread as there are
contexts leave none. -/
theorem feed_converges (invalid : ∀ call, refuses call kInvalidEndpointId = true)
    (starts : applicationInit heap lastFixed refuses discovered = some start)
    (wemoIds : (discovered.map (·.wemoId)).Nodup) {x : PublishedLight} (ofX : start.Publishes x)
    (wemos : Int → WeState) {now fired : TimePoint} {before later : List (TimePoint × FeedInput)}
    (ordered : Machine.Ordered now (before ++ (fired, .fire x.wemoId true) :: later))
    (registered : ((feedMachine D).run (start.feed wemos) before).registered = true)
    (unchanged : ∀ step ∈ later, ∀ data, step.2 ≠ .change x.wemoId data)
    (unwritten : ∀ step ∈ before ++ later, step.2.writesTo x.endpoint →
      step.1 + milliseconds 2000 < fired) :
    let after := (feedMachine D).run (start.feed wemos)
      (before ++ (fired, .fire x.wemoId true) :: later)
    (after.pending x.wemoId = [] → after.bridge.ShowsWemo x (after.wemos x.wemoId)) ∧
      ∀ times : List TimePoint, times.length = after.scheduled.length →
        ((feedMachine D).run after (times.map (·, .runWork))).scheduled = [] := by
  intro after
  have distinct := (applicationInit_started invalid starts).2 wemoIds
  obtain ⟨orderedBefore, le, orderedLater⟩ := (Machine.ordered_append _ _ _).mp ordered
  have rests := @Machine.timed_history_invariant _ _ _ _ _ (feedMachine D)
    (fun now past feed => (∀ step ∈ past, Feed.LongPast x fired step.1) → feed.Rests x fired now)
    (fun now time past feed input le rests longPast =>
      (rests fun step member => longPast step (List.mem_append_left _ member)).step le
        (longPast _ (List.mem_append_right _ (List.mem_singleton_self _))))
    before now [] (start.feed wemos) orderedBefore
    (fun _ => Bridge.feed_rests starts distinct ofX wemos fired now)
  have caught := (rests fun step member =>
    unwritten _ (List.mem_append_left _ (Machine.mem_of_mem_history member))).fire le registered
  generalize ((feedMachine D).run (start.feed wemos) before).wemos x.wemoId = data at caught
  have caughtLater := @Machine.timed_history_invariant _ _ _ _ _ (feedMachine D)
    (fun now past feed => (∀ step ∈ past, (∀ data, step.1.2 ≠ .change x.wemoId data) ∧
      Feed.LongPast x fired step.1) → feed.Caught x data fired now)
    (fun now time past feed input le caught kept =>
      (caught fun step member => kept step (List.mem_append_left _ member)).step le
        (kept _ (List.mem_append_right _ (List.mem_singleton_self _))).1
        (kept _ (List.mem_append_right _ (List.mem_singleton_self _))).2)
    later fired [] _ orderedLater (fun _ => caught)
  have ends : after.Caught x data fired (Machine.endTime fired later) := by
    have run : after = (feedMachine D).run ((feedMachine D).step
        ((feedMachine D).run (start.feed wemos) before) (fired, .fire x.wemoId true)).1 later :=
      Machine.run_append _ _ _ _
    rw [run]
    refine caughtLater fun step member => ?_
    have listed := Machine.mem_of_mem_history member
    exact ⟨unchanged _ listed, unwritten _ (List.mem_append_right _ listed)⟩
  refine ⟨fun nothing => ?_, fun times => Feed.drained times after⟩
  obtain ⟨wemo, -, reference, shows, -, owed⟩ := ends
  rw [nothing] at owed
  obtain ⟨-, reachable, online⟩ := owed.resolve_left fun last => by cases last
  obtain ⟨sameReachable, sameOnOff, sameLevel⟩ := shows.shown
  rw [wemo]
  refine ⟨sameReachable.trans (congrArg some reachable), fun isOnline => ?_⟩
  obtain ⟨onOff, level⟩ := online isOnline
  refine ⟨sameOnOff.trans (congrArg some onOff), fun dimmable above => ?_⟩
  rw [sameLevel, if_pos dimmable, level (shows.isDimmable.trans dimmable) above]

end Converges

/-- The dimmer is switched on while the bridge starts, and its event comes before the registration. -/
def lostEvent : List (TimePoint × FeedInput) :=
  [(0, .change 7 { isOnline := 1, state := 1, level := 80 }), (0, .fire 7 true),
    (milliseconds 10, .registerStateCallback true)]

/-- The event is lost; the one the refresh brings is not. -/
theorem feed_converges_sample :
    ((feedMachine PlainDevice).run (sampleHome.feed fun _ => { isOnline := 1, state := 0, level := 50 })
        (lostEvent ++ [(milliseconds 20, .fire 7 true), (milliseconds 30, .runWork)])).bridge.ShowsWemo
      sampleDimmer { isOnline := 1, state := 1, level := 80 } := by
  refine (@feed_converges _ _ _ _ _ _ _ (fun _ => rfl) sampleHome_starts (by decide) _
    sampleHome_publishes (fun _ => { isOnline := 1, state := 0, level := 50 }) 0 (milliseconds 20)
    lostEvent [(milliseconds 30, .runWork)] ?_ rfl ?_ ?_).1 rfl
  · refine ⟨?_, ?_, ?_, ?_, ?_, trivial⟩ <;> decide
  · intro step member data
    obtain rfl := List.mem_singleton.mp member
    exact FeedInput.noConfusion
  · intro step member writes
    fin_cases member <;> cases writes

end WemoBridge
