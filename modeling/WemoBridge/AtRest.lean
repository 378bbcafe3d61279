/-
**Agreement at rest between the bridge and the WeMos.**

A `Home` is the bridge with the WeMos behind it: their on/off states, the commands dispatched and
not yet executed, and the events emitted and not yet handled, both in order for each WeMo. The
commands reach the WeMo the adapter's cache has for their UDN. A home moves by OnOff writes, toggles
at the switch, executions and deliveries; a WeMo emits one event for each change of its state.

In every reachable home the state of a WeMo is the last one it reported, and a write that nothing
has followed yet is still in the queue, was executed, or its event is under way (`Home.Follows`). At
rest the WeMo therefore has the value of the last thing that happened to the light, and so has the
bridge, unless that was an event the settle window dropped (`at_rest_iff`).
-/

import WemoBridge.Dispatch
import WemoBridge.Window

namespace WemoBridge

open Library
open Library.Settle (Entry Register)

variable {D : Type} [ChipSdk D]

/-! ### The home -/

/-- The bridge and the WeMos, by wemo_id. -/
structure Home (D : Type) where
  bridge : Bridge D
  wemo : Int → Bool
  /-- dispatched and not yet executed -/
  commands : Int → List Bool
  /-- emitted and not yet handled -/
  events : Int → List Bool

/-- What happens in a home: an OnOff write, a toggle at the switch, the execution of the next
command, the delivery of the next event with some level. -/
inductive HomeInput where
  | write (endpoint : EndpointId) (buffer : Buffer)
  | toggle (wemoId : Int)
  | execute (wemoId : Int)
  | deliver (wemoId : Int) (level : Int)

/-- A dispatched command joins the queue of the WeMo the cache has for its UDN. -/
def enqueue (cache : UdnCache) (commands : Int → List Bool) (command : Command) :
    Int → List Bool :=
  match cache command.udn with
  | none => commands
  | some wemoId => Function.update commands wemoId
      (commands wemoId ++ [decide ((command.sendState wemoId).state ≠ 0)])

/-- The event a WeMo emits for its new state. -/
def eventOf (wemoId : Int) (on : Bool) (level : Int) : WemoEventContext :=
  { wemoId := wemoId, isOnline := true, state := if on then 1 else 0, level := level }

/-- One step of a home, with the step of the bridge in it, if any. -/
def Home.step (cache : UdnCache) (home : Home D) : TimePoint × HomeInput → Home D × Option Step
  | (now, .write endpoint buffer) =>
      let input := Input.write endpoint (.onOff .onOff) buffer
      let stepped := home.bridge.step (now, input)
      ({ home with
          bridge := stepped.1
          commands := stepped.2.dispatched.foldl (enqueue cache) home.commands },
        some ((now, input), stepped.2))
  | (_, .toggle wemoId) =>
      ({ home with
          wemo := Function.update home.wemo wemoId (!home.wemo wemoId)
          events := Function.update home.events wemoId
            (home.events wemoId ++ [!home.wemo wemoId]) }, none)
  | (_, .execute wemoId) =>
      match home.commands wemoId with
      | [] => (home, none)
      | on :: rest =>
        ({ home with
            wemo := Function.update home.wemo wemoId on
            commands := Function.update home.commands wemoId rest
            events :=
              if home.wemo wemoId = on then home.events
              else Function.update home.events wemoId (home.events wemoId ++ [on]) }, none)
  | (now, .deliver wemoId level) =>
      match home.events wemoId with
      | [] => (home, none)
      | on :: rest =>
        let input := Input.event (eventOf wemoId on level)
        let stepped := home.bridge.step (now, input)
        ({ home with
            bridge := stepped.1
            events := Function.update home.events wemoId rest },
          some ((now, input), stepped.2))

/-- **The running home.** -/
def homeMachine (D : Type) [ChipSdk D] (cache : UdnCache) :
    Machine (Home D) (TimePoint × HomeInput) (Option Step) :=
  { step := Home.step cache }

/-- The steps of the bridge in a run of the home. -/
def bridgeTrace (history : List ((TimePoint × HomeInput) × Option Step)) : List Step :=
  history.filterMap Prod.snd

/-! ### What follows a write -/

/-- The values reported in a history. -/
def reports (history : List (TimePoint × Entry Bool)) : List Bool :=
  history.filterMap fun entry =>
    match entry.2 with
    | .command _ => none
    | .report on => some on

/-- **A WeMo follows its light**: its state is the last one it reported, and the value of a write
that nothing has followed yet is the last one queued, was executed, or an event is under way. -/
structure Home.Follows (x : PublishedLight) (onOff : Bool) (level : UInt8) (now : TimePoint)
    (past : List Step) (home : Home D) : Prop where
  tracks : home.bridge.Tracks x onOff level now past
  reported : home.wemo x.wemoId =
    (reports (onOffHistory x past) ++ home.events x.wemoId).getLast?.getD onOff
  commanded : ∀ time on, (onOffHistory x past).getLast? = some (time, .command on) →
    (home.commands x.wemoId).getLast? = some on ∨ home.events x.wemoId ≠ [] ∨
      home.wemo x.wemoId = on

/-- At rest a WeMo has the value of the last thing that happened to its light. -/
theorem Home.Follows.wemo_eq {x : PublishedLight} {onOff : Bool} {level : UInt8} {now : TimePoint}
    {past : List Step} {home : Home D} (follows : home.Follows x onOff level now past)
    (noCommand : home.commands x.wemoId = []) (noEvent : home.events x.wemoId = []) :
    home.wemo x.wemoId = Settle.lastValue onOff (onOffHistory x past) := by
  have reported := follows.reported
  have commanded := follows.commanded
  rw [noEvent, List.append_nil] at reported
  rw [noCommand, noEvent] at commanded
  rcases List.eq_nil_or_concat (onOffHistory x past) with empty | ⟨before, ⟨time, entry⟩, last⟩
  · rw [reported, empty]
    rfl
  · rw [List.concat_eq_append] at last
    rw [last] at reported commanded ⊢
    rw [Settle.lastValue_concat]
    cases entry with
    | command on => simpa [Entry.value] using commanded time on (by simp)
    | report on => simpa [reports, List.filterMap_append, Entry.value] using reported

/-! ### Every step keeps it -/

/-- The cache has every published light's own wemo_id for its UDN. -/
def RoutedBy (cache : UdnCache) (bridge : Bridge D) : Prop :=
  ∀ y, bridge.Publishes y → cache y.udn = some y.wemoId

section Queue

variable {cache : UdnCache} {wemoId : Int}

omit [ChipSdk D]

/-- Commands for other WeMos do not touch a queue. -/
theorem foldl_enqueue_other (sent : List Command)
    (elsewhere : ∀ command ∈ sent, cache command.udn ≠ some wemoId) :
    ∀ commands : Int → List Bool, sent.foldl (enqueue cache) commands wemoId = commands wemoId := by
  induction sent with
  | nil => exact fun _ => rfl
  | cons command rest ih =>
    intro commands
    rw [List.foldl_cons, ih fun other member => elsewhere other (List.mem_cons_of_mem _ member)]
    have notHere := elsewhere command List.mem_cons_self
    unfold enqueue
    cases target : cache command.udn with
    | none => rfl
    | some other =>
      refine Function.update_of_ne (fun same => notHere ?_) _ _
      rw [target, same]

theorem enqueue_setOnOff {udn : CppString} (routed : cache udn = some wemoId) (on : Bool)
    (commands : Int → List Bool) :
    enqueue cache commands (.setOnOff udn on) wemoId = commands wemoId ++ [on] := by
  have value : decide (((Command.setOnOff udn on).sendState wemoId).state ≠ 0) = on := by
    cases on <;> rfl
  unfold enqueue
  rw [show cache (Command.setOnOff udn on).udn = some wemoId from routed]
  dsimp only
  rw [Function.update_self, value]

theorem reports_append (first second : List (TimePoint × Entry Bool)) :
    reports (first ++ second) = reports first ++ reports second := List.filterMap_append

end Queue

namespace Home

variable {cache : UdnCache} {x : PublishedLight} {onOff : Bool} {level : UInt8}
  {now time : TimePoint} {past : List Step} {home : Home D}

/-- An OnOff write adds a command to the history of `x` exactly if it queues it for its WeMo. -/
theorem write_queues {bridge : Bridge D} (published : bridge.Published)
    (distinct : bridge.DistinctWemoIds) (ofX : bridge.Publishes x) (routed : RoutedBy cache bridge)
    (time : TimePoint) (endpoint : EndpointId) (buffer : Buffer) (commands : Int → List Bool) :
    let input := Input.write endpoint (.onOff .onOff) buffer
    let reply := (bridge.step (time, input)).2
    (onOffEntryAt x ((time, input), reply) = none ∧
        reply.dispatched.foldl (enqueue cache) commands x.wemoId = commands x.wemoId) ∨
      ∃ on, onOffEntryAt x ((time, input), reply) = some (time, .command on) ∧
        reply.dispatched.foldl (enqueue cache) commands x.wemoId = commands x.wemoId ++ [on] := by
  intro input reply
  by_cases addressed : input.isFor x = true
  · obtain ⟨light, found, backs⟩ := ofX.light
    obtain ⟨-, replied⟩ := published.lightAt_step time input distinct ofX addressed found
    have sent := light.step_onOff_dispatched time endpoint buffer
    rw [← replied, backs.udn] at sent
    by_cases success : reply.status = .success
    · refine Or.inr ⟨decide (buffer 0 ≠ 0), ?_, ?_⟩
      · rw [onOffEntryAt, if_pos addressed]
        exact congrArg (Option.map (time, ·)) (if_pos success)
      · rw [show reply.dispatched = [.setOnOff x.udn (decide (buffer 0 ≠ 0))] from
          sent.trans (if_pos success)]
        exact enqueue_setOnOff (routed x ofX) _ commands
    · refine Or.inl ⟨?_, ?_⟩
      · rw [onOffEntryAt, if_pos addressed]
        exact congrArg (Option.map (time, ·)) (if_neg success)
      · rw [show reply.dispatched = [] from sent.trans (if_neg success)]
        rfl
  · refine Or.inl ⟨if_neg addressed, foldl_enqueue_other _ ?_ commands⟩
    intro command sent
    rcases published.step_cases time input with ⟨-, stepEq⟩ | ⟨y, light, ofY, aimed, -, backs, stepEq⟩
    · rw [show reply = Bridge.missedReply input from congrArg Prod.snd stepEq] at sent
      cases sent
    · rw [show reply = (light.step time input).2 from congrArg Prod.snd stepEq] at sent
      rw [light.step_udn time input command sent, backs.udn]
      intro toX
      have sameId : y.wemoId = x.wemoId := Option.some.inj ((routed y ofY).symm.trans toX)
      obtain rfl := published.eq_of_wemoId distinct ofY ofX sameId
      exact addressed ((published.target_eq_some_iff distinct ofY input).mp aimed)

/-- An OnOff write to any endpoint. -/
theorem Follows.write (follows : home.Follows x onOff level now past)
    (routed : RoutedBy cache home.bridge) (le : now ≤ time) (endpoint : EndpointId)
    (buffer : Buffer) :
    (home.step cache (time, .write endpoint buffer)).1.Follows x onOff level time
      (past ++ (home.step cache (time, .write endpoint buffer)).2.toList) := by
  have tracks := follows.tracks
  refine ⟨tracks.step le (.write endpoint (.onOff .onOff) buffer), ?_, ?_⟩
  all_goals
    simp only [step, Option.toList_some, onOffHistory_concat]
    rcases write_queues tracks.published tracks.distinct tracks.publishes routed time endpoint buffer
      home.commands with ⟨noEntry, sameQueue⟩ | ⟨on, entry, queued⟩
  · rw [noEntry, Option.toList_none, List.append_nil]
    exact follows.reported
  · rw [entry, Option.toList_some, reports_append]
    simpa [reports] using follows.reported
  · rw [noEntry, Option.toList_none, List.append_nil, sameQueue]
    exact follows.commanded
  · rw [entry, Option.toList_some, queued]
    intro written value last
    refine Or.inl ?_
    have same : time = written ∧ on = value := by simpa using last
    rw [List.getLast?_concat, same.2]

/-- The event of a WeMo reports its state to its light. -/
theorem eventOf_entry (time : TimePoint) (on : Bool) (eventLevel : Int) (reply : Reply) :
    onOffEntryAt x ((time, .event (eventOf x.wemoId on eventLevel)), reply) =
      some (time, .report on) := by
  cases on <;> simp [onOffEntryAt, onOffEntry, Input.isFor, eventOf]

theorem eventOf_other {wemoId : Int} (elsewhere : wemoId ≠ x.wemoId) (time : TimePoint) (on : Bool)
    (eventLevel : Int) (reply : Reply) :
    onOffEntryAt x ((time, .event (eventOf wemoId on eventLevel)), reply) = none := by
  simp [onOffEntryAt, Input.isFor, eventOf, elsewhere]

/-- A toggle at the switch of any WeMo. -/
theorem Follows.toggle (follows : home.Follows x onOff level now past) (le : now ≤ time)
    (wemoId : Int) :
    (home.step cache (time, .toggle wemoId)).1.Follows x onOff level time past := by
  by_cases here : wemoId = x.wemoId
  · subst here
    refine ⟨follows.tracks.mono le, ?_, fun _ _ _ => Or.inr (Or.inl ?_)⟩
    · simp [step, ← List.append_assoc]
    · simp [step]
  · have notHere : x.wemoId ≠ wemoId := fun same => here same.symm
    refine ⟨follows.tracks.mono le, ?_, ?_⟩
    · simpa [step, notHere] using follows.reported
    · simpa [step, notHere] using follows.commanded

/-- The execution of a command of any WeMo. -/
theorem Follows.execute (follows : home.Follows x onOff level now past) (le : now ≤ time)
    (wemoId : Int) :
    (home.step cache (time, .execute wemoId)).1.Follows x onOff level time past := by
  cases queue : home.commands wemoId with
  | nil =>
    have idle : home.step cache (time, .execute wemoId) = (home, none) := by simp [step, queue]
    rw [idle]
    exact ⟨follows.tracks.mono le, follows.reported, follows.commanded⟩
  | cons on rest =>
    by_cases here : wemoId = x.wemoId
    · subst here
      have reported := follows.reported
      refine ⟨by simpa [step, queue] using follows.tracks.mono le, ?_, ?_⟩
      · by_cases same : home.wemo x.wemoId = on
        · simpa [step, queue, same] using reported
        · simp [step, queue, same, ← List.append_assoc]
      · intro written value last
        by_cases same : home.wemo x.wemoId = on
        · rcases follows.commanded written value last with queued | underWay | executed
          · rcases List.eq_nil_or_concat rest with empty | ⟨front, final, split⟩
            · rw [queue, empty] at queued
              have same : on = value := by simpa using queued
              simp [step, queue, same]
            · rw [queue, split] at queued
              have same : final = value := by
                rw [List.concat_eq_append, ← List.cons_append, List.getLast?_concat] at queued
                exact Option.some.inj queued
              simp [step, queue, split, same]
          · simp [step, queue, same, underWay]
          · simp [step, queue, ← same, executed]
        · simp [step, queue, same]
    · have notHere : x.wemoId ≠ wemoId := fun same => here same.symm
      refine ⟨by simpa [step, queue] using follows.tracks.mono le, ?_, ?_⟩
      · have reported := follows.reported
        by_cases same : home.wemo wemoId = on <;> simpa [step, queue, notHere, same] using reported
      · have commanded := follows.commanded
        by_cases same : home.wemo wemoId = on <;> simpa [step, queue, notHere, same] using commanded

/-- The delivery of an event of any WeMo. -/
theorem Follows.deliver (follows : home.Follows x onOff level now past) (le : now ≤ time)
    (wemoId eventLevel : Int) :
    (home.step cache (time, .deliver wemoId eventLevel)).1.Follows x onOff level time
      (past ++ (home.step cache (time, .deliver wemoId eventLevel)).2.toList) := by
  cases queue : home.events wemoId with
  | nil =>
    have idle : home.step cache (time, .deliver wemoId eventLevel) = (home, none) := by
      simp [step, queue]
    rw [idle, Option.toList_none, List.append_nil]
    exact ⟨follows.tracks.mono le, follows.reported, follows.commanded⟩
  | cons on rest =>
    simp only [step, queue, Option.toList_some]
    refine ⟨follows.tracks.step le _, ?_, ?_⟩
    all_goals
      rw [onOffHistory_concat]
      by_cases here : wemoId = x.wemoId
    · subst here
      rw [eventOf_entry, Option.toList_some, reports_append]
      have reported := follows.reported
      rw [queue] at reported
      simpa [reports, Function.update_self] using reported
    · have same : Function.update home.events wemoId rest x.wemoId = home.events x.wemoId :=
        Function.update_of_ne (fun same => here same.symm) _ _
      rw [eventOf_other here, Option.toList_none, List.append_nil]
      dsimp only
      rw [same]
      exact follows.reported
    · subst here
      rw [eventOf_entry, Option.toList_some, List.getLast?_concat]
      intro written value last
      cases last
    · have same : Function.update home.events wemoId rest x.wemoId = home.events x.wemoId :=
        Function.update_of_ne (fun same => here same.symm) _ _
      rw [eventOf_other here, Option.toList_none, List.append_nil]
      dsimp only
      rw [same]
      exact follows.commanded

/-- A home that follows a light, with a cache that routes. -/
structure Runs (cache : UdnCache) (x : PublishedLight) (onOff : Bool) (level : UInt8)
    (now : TimePoint) (history : List ((TimePoint × HomeInput) × Option Step)) (home : Home D) :
    Prop where
  routed : RoutedBy cache home.bridge
  follows : home.Follows x onOff level now (bridgeTrace history)

theorem bridgeTrace_concat (history : List ((TimePoint × HomeInput) × Option Step))
    (step : (TimePoint × HomeInput) × Option Step) :
    bridgeTrace (history ++ [step]) = bridgeTrace history ++ step.2.toList := by
  unfold bridgeTrace
  rw [List.filterMap_append]
  cases bridgeStep : step.2 <;> simp [bridgeStep]

/-- **Every step keeps it.** -/
theorem Runs.step {history : List ((TimePoint × HomeInput) × Option Step)}
    (runs : Runs cache x onOff level now history home) (le : now ≤ time) (input : HomeInput) :
    Runs cache x onOff level time
      (history ++ [((time, input), (home.step cache (time, input)).2)])
      (home.step cache (time, input)).1 := by
  have published := runs.follows.tracks.published
  have stepped : ∀ input, RoutedBy cache (home.bridge.step (time, input)).1 :=
    fun input y ofY => runs.routed y ((published.step_publishes_iff time input y).mp ofY)
  refine ⟨?_, ?_⟩
  · cases input with
    | write endpoint buffer => exact stepped _
    | toggle wemoId => exact runs.routed
    | execute wemoId =>
      rw [Home.step]
      split
      · exact runs.routed
      · exact runs.routed
    | deliver wemoId eventLevel =>
      rw [Home.step]
      split
      · exact runs.routed
      · exact stepped _
  · rw [bridgeTrace_concat]
    cases input with
    | write endpoint buffer => exact runs.follows.write runs.routed le endpoint buffer
    | toggle wemoId =>
      rw [show (home.step cache (time, .toggle wemoId)).2 = none from rfl, Option.toList_none,
        List.append_nil]
      exact runs.follows.toggle le wemoId
    | execute wemoId =>
      have silent : (home.step cache (time, .execute wemoId)).2 = none := by
        rw [Home.step]
        split <;> rfl
      rw [silent, Option.toList_none, List.append_nil]
      exact runs.follows.execute le wemoId
    | deliver wemoId eventLevel => exact runs.follows.deliver le wemoId eventLevel

end Home

/-! ### At rest -/

/-- The home a started world is in: nothing dispatched and nothing emitted. -/
def World.home (world : World D) (wemo : Int → Bool) : Home D :=
  { bridge := world.bridge, wemo := wemo, commands := fun _ => [], events := fun _ => [] }

/-- **The last thing that happened to the light was suppressed**: of the successful OnOff writes to
it and the online events for it the last is an event that contradicts the last write, which it
follows by at most 2000 ms. -/
def LastEventSuppressed (x : PublishedLight) (trace : List Step) : Prop :=
  ∃ time on written commanded, (onOffHistory x trace).getLast? = some (time, .report on) ∧
    lastOnOffWrite x trace = some (written, commanded) ∧ time ≤ written + milliseconds 2000 ∧
    on ≠ commanded

omit [ChipSdk D] in
theorem lastDropped_iff (x : PublishedLight) (trace : List Step) :
    Settle.LastDropped kCommandSettleWindow (onOffHistory x trace) ↔
      LastEventSuppressed x trace := by
  unfold Settle.LastDropped LastEventSuppressed Settle.settling
  rw [lastCommand_onOffHistory]
  constructor
  · rintro ⟨time, on, commanded, last, settles, different⟩
    split at settles
    · cases settles
    · rename_i written value lastWrite
      split at settles
      · rename_i within
        obtain rfl := Option.some.inj settles
        exact ⟨time, on, written, value, last, lastWrite, within, different⟩
      · cases settles
  · rintro ⟨time, on, written, commanded, last, lastWrite, within, different⟩
    refine ⟨time, on, commanded, last, ?_, different⟩
    rw [lastWrite]
    exact if_pos within

section Startup

variable {heap : Allocator} {lastFixed : EndpointId} {refuses : Nat → EndpointId → Bool}
  {weInit : Bool} {list : WeDeviceList} {world : World D} {wemo : Int → Bool}
  (invalid : ∀ call, refuses call kInvalidEndpointId = true)
  (starts : startup heap lastFixed refuses weInit (some list) = some world)
  (states : ∀ info ∈ list.listed, wemo info.wemoId = decide (info.state ≠ 0))
  {x : PublishedLight} (ofX : world.bridge.Publishes x)

include invalid starts states ofX

/-- A light starts with the state of its WeMo. -/
theorem startup_onOffOf : world.bridge.onOffOf x = some (wemo x.wemoId) := by
  obtain ⟨bridge, started, rfl⟩ := Option.map_eq_some_iff.mp starts
  obtain ⟨dev, member, -, wemoId, isOn⟩ := applicationInit_discovered invalid started ofX
  obtain ⟨found, sameList, discovered⟩ := Adapter.discover_of_mem member
  obtain rfl : list = found := Option.some.inj sameList
  rw [discovered] at member
  obtain ⟨info, infoMember, rfl⟩ := List.mem_map.mp member
  obtain ⟨light, lightFound, -⟩ := ofX.light
  have sameState : decide ((wemoDeviceOf info).onoff ≠ 0) = decide (info.state ≠ 0) := by
    by_cases on : info.state = 0 <;> simp [wemoDeviceOf, on]
  rw [Bridge.onOffOf, lightFound, Option.map_some, isOn light lightFound, sameState, wemoId]
  exact congrArg some (states info infoMember).symm

/-- The home of a started world runs. -/
theorem startup_runs (udns : (list.listed.map (cStr ·.udn)).Nodup)
    (nonempty : ∀ info ∈ list.listed, cStr info.udn ≠ [])
    (wemoIds : (list.listed.map (·.wemoId)).Nodup) (start : TimePoint) :
    ∃ level, Home.Runs world.adapter.mUdnToWemoId x (wemo x.wemoId) level start []
      (world.home wemo) := by
  have routing := startup_routing invalid udns nonempty starts
  have distinct := startup_distinct invalid wemoIds starts
  have started : world.bridge.Started := by
    obtain ⟨bridge, bridgeStarts, rfl⟩ := Option.map_eq_some_iff.mp starts
    exact (applicationInit_started invalid bridgeStarts).1
  obtain ⟨onOff, level, tracks⟩ :=
    @Bridge.Started.run_tracks D _ _ x started distinct ofX start [] trivial
  have agrees := startup_onOffOf invalid starts states ofX
  obtain rfl : onOff = wemo x.wemoId :=
    Option.some.inj (tracks.onOffOf_eq.symm.trans agrees)
  refine ⟨level, fun y ofY => (routing.routed y ofY).2, tracks, rfl, ?_⟩
  intro time on last
  cases last

/-- **Agreement at rest.** From a start with an engine list with pairwise distinct non-empty UDNs and
pairwise distinct wemo_ids, whose states are those of the WeMos, after any ordered run of OnOff
writes, toggles, executions and deliveries: when no command for the WeMo of a light and no event of
it is under way, the bridge's OnOff is the WeMo's state exactly when the last thing that happened to
the light was not an event the settle window suppressed. -/
theorem at_rest_iff (udns : (list.listed.map (cStr ·.udn)).Nodup)
    (nonempty : ∀ info ∈ list.listed, cStr info.udn ≠ [])
    (wemoIds : (list.listed.map (·.wemoId)).Nodup) {start : TimePoint}
    {inputs : List (TimePoint × HomeInput)} (ordered : Machine.Ordered start inputs) :
    let machine := homeMachine D world.adapter.mUdnToWemoId
    let after := machine.run (world.home wemo) inputs
    after.commands x.wemoId = [] → after.events x.wemoId = [] →
      (after.bridge.onOffOf x = some (after.wemo x.wemoId) ↔
        ¬ LastEventSuppressed x (bridgeTrace (machine.history (world.home wemo) inputs))) := by
  intro machine after noCommand noEvent
  obtain ⟨level, runs⟩ :=
    startup_runs invalid starts states ofX udns nonempty wemoIds start
  have runsAfter := @Machine.timed_history_invariant _ _ _ _ _ machine
    (Home.Runs world.adapter.mUdnToWemoId x (wemo x.wemoId) level)
    (fun now time past home input le before => before.step le input) inputs start [] _ ordered runs
  rw [List.nil_append] at runsAfter
  have follows := runsAfter.follows
  rw [show after.wemo x.wemoId = _ from follows.wemo_eq noCommand noEvent,
    show after.bridge.onOffOf x = _ from follows.tracks.onOffOf_eq, Option.some.injEq,
    Settle.heard_eq_lastValue_iff, lastDropped_iff]

end Startup

/-! ### A toggle inside the settle window -/

/-- The states of the WeMos of the sample world. -/
def sampleStates : Int → Bool := fun wemoId => wemoId = 8

/-- The dimmer is switched on and reports it; 900 ms later somebody switches it off by hand. -/
def toggledSoon : List (TimePoint × HomeInput) :=
  [(0, .write 3 fun _ => 1), (milliseconds 50, .execute 7), (milliseconds 100, .deliver 7 50),
   (milliseconds 900, .toggle 7), (milliseconds 1000, .deliver 7 50)]

theorem toggledSoon_ordered : Machine.Ordered 0 toggledSoon := by
  refine ⟨?_, ?_, ?_, ?_, ?_, trivial⟩ <;> decide

/-- At rest after the toggle the last event of the dimmer was suppressed. -/
theorem at_rest_iff_sample :
    let machine := homeMachine PlainDevice sampleWorld.adapter.mUdnToWemoId
    LastEventSuppressed sampleDimmer
      (bridgeTrace (machine.history (sampleWorld.home sampleStates) toggledSoon)) := by
  intro machine
  have states : ∀ info ∈ sampleList.listed, sampleStates info.wemoId = decide (info.state ≠ 0) := by
    decide
  have atRest := at_rest_iff (fun _ => rfl) sampleWorld_starts states sampleWorld_publishes
    (by decide) (by decide) (by decide) toggledSoon_ordered (by decide) (by decide)
  by_contra agrees
  have shown := atRest.mpr agrees
  revert shown
  decide

/-- **The toggle is lost**: at rest, after the window, the bridge shows the dimmer on. -/
theorem toggle_lost :
    ¬ ∀ (inputs : List (TimePoint × HomeInput)) (now : TimePoint), Machine.Ordered 0 inputs →
      Machine.endTime 0 inputs ≤ now →
      let machine := homeMachine PlainDevice sampleWorld.adapter.mUdnToWemoId
      let after := machine.run (sampleWorld.home sampleStates) inputs
      let trace := bridgeTrace (machine.history (sampleWorld.home sampleStates) inputs)
      after.commands 7 = [] → after.events 7 = [] →
      (∀ written ∈ lastOnOffWrite sampleDimmer trace, written.1 + milliseconds 2000 < now) →
      after.bridge.onOffOf sampleDimmer = some (after.wemo 7) := by
  intro agree
  have shown := agree toggledSoon (milliseconds 3000) toggledSoon_ordered (by decide) (by decide)
    (by decide) (by decide)
  revert shown
  decide

end WemoBridge
