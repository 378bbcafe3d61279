/-
**From the controller's write to the WeMo.**

The bridge that `ApplicationInit` starts answers a write at once and detaches a thread that calls the
adapter. Here the threads of a whole run of the bridge go through the statements of the adapter, next
to the `RegisterStateCallback` and the `Refresh` of `ApplicationInit`; a thread that is not scheduled
yet is one that is not detached yet, so every moment of the writes is covered.

`writes_delivered`: under every fair schedule, whatever the engine answers, each published WeMo is
asked exactly for what the accepted writes to its light ask for, once each, and no other WeMo is
asked for anything.
-/

import WemoBridge.CommandOrder
import WemoBridge.Delivery

namespace WemoBridge

open Library

variable {D : Type} [ChipSdk D]

/-! ### What a step dispatches -/

/-- What an accepted write of a step of the bridge asks for. -/
def writeRequest (x : PublishedLight) (step : Step) : Option (Int × Int) :=
  acceptedRequest x ((step.1.1, .matter step.1.2), .replied step.2)

/-- The action a command is sent as, by the cache. -/
def Command.actionIn (cache : UdnCache) (command : Command) : Option Action :=
  (AdapterPlace.begins (.lister (.command command))).actionIn cache

/-- The cache has every published light, under its wemo_id. -/
def Bridge.Cached (bridge : Bridge D) (cache : UdnCache) : Prop :=
  ∀ x, bridge.Publishes x → cache x.udn = some x.wemoId

section Dispatched

variable {bridge : Bridge D} {cache : UdnCache} {x : PublishedLight}

/-- A dispatched command is that of a published light, which the input writes to. -/
theorem dispatched_light (published : bridge.Published) (time : TimePoint) (input : Input) :
    ∀ command ∈ (bridge.step (time, input)).2.dispatched, ∃ y path buffer,
      bridge.Publishes y ∧ command.udn = y.udn ∧ input = .write y.endpoint path buffer := by
  intro command member
  obtain ⟨-, y, ofY, carries⟩ := World.spawn_carries published time input
    { cause := input, command := command, phase := .lookup } (List.mem_map_of_mem member)
  obtain ⟨path, buffer, cause⟩ := carries.cause_eq
  exact ⟨y, path, buffer, ofY, carries.udn, cause⟩

/-- **What a step has its WeMo asked for is what its accepted write asks for.** -/
theorem dispatched_requests (published : bridge.Published) (distinct : bridge.DistinctWemoIds)
    (cached : bridge.Cached cache) (ofX : bridge.Publishes x) (time : TimePoint) (input : Input) :
    ((((bridge.step (time, input)).2.dispatched.filterMap (·.actionIn cache)).filter
        (·.wemoId = x.wemoId)).map Action.request) =
      (writeRequest x ((time, input), (bridge.step (time, input)).2)).toList := by
  rw [writeRequest, ← spawn_requests published x time input, spawn, List.filterMap_map,
    List.filter_filterMap, List.map_filterMap]
  refine List.filterMap_congr fun command member => ?_
  obtain ⟨y, path, buffer, ofY, udn, rfl⟩ := dispatched_light published time input command member
  show (Option.filter _ (((cache command.udn).map fun wemoId => command.sendState wemoId))).map _ =
    if decide (y.endpoint = x.endpoint) = true then some command.request else none
  rw [udn, cached y ofY, Option.map_some]
  by_cases same : y = x
  · subst same
    rw [Option.filter_some_pos (by simp), if_pos (by simp), Option.map_some,
      Command.request_sendState]
  · have otherWemo : y.wemoId ≠ x.wemoId := fun equal =>
      same (published.eq_of_wemoId distinct ofY ofX equal)
    have otherEndpoint : y.endpoint ≠ x.endpoint := fun equal =>
      same (published.eq_of_endpoint ofY ofX equal)
    rw [Option.filter_some_neg (by simpa using otherWemo), if_neg (by simpa using otherEndpoint)]
    rfl

/-- The commands dispatched in a run. -/
def dispatchedIn (past : List Step) : List Command := past.flatMap (·.2.dispatched)

/-- **What a run has a WeMo asked for is what the accepted writes to its light ask for**, and all its
commands are those of lights. -/
theorem dispatchedIn_requests (published : bridge.Published) (distinct : bridge.DistinctWemoIds)
    (cached : bridge.Cached cache) (inputs : List (TimePoint × Input)) :
    let past := (bridgeMachine D).history bridge inputs
    (∀ command ∈ dispatchedIn past, ∃ y, bridge.Publishes y ∧ command.udn = y.udn) ∧
      ∀ x, bridge.Publishes x → ((((dispatchedIn past).filterMap (·.actionIn cache)).filter
        (·.wemoId = x.wemoId)).map Action.request) = past.filterMap (writeRequest x) := by
  let inv := fun (past : List Step) (now : Bridge D) =>
    now.Published ∧ now.DistinctWemoIds ∧ (∀ y, now.Publishes y ↔ bridge.Publishes y) ∧
      (∀ command ∈ dispatchedIn past, ∃ y, bridge.Publishes y ∧ command.udn = y.udn) ∧
      ∀ x, bridge.Publishes x → ((((dispatchedIn past).filterMap (·.actionIn cache)).filter
        (·.wemoId = x.wemoId)).map Action.request) = past.filterMap (writeRequest x)
  have kept : ∀ past now input, inv past now →
      inv (past ++ [(input, ((bridgeMachine D).step now input).2)])
        ((bridgeMachine D).step now input).1 := by
    rintro past now ⟨time, input⟩ ⟨published, distinct, publishes, known, requests⟩
    refine ⟨published.step time input, published.step_distinct time input distinct,
      fun y => (published.step_publishes_iff time input y).trans (publishes y), ?_, ?_⟩
    · intro command member
      rw [dispatchedIn, List.flatMap_append] at member
      rcases List.mem_append.mp member with before | last
      · exact known command before
      · rw [List.flatMap_singleton] at last
        obtain ⟨y, _, _, ofY, udn, -⟩ := dispatched_light published time input command last
        exact ⟨y, (publishes y).mp ofY, udn⟩
    · intro x ofX
      have here := dispatched_requests published distinct
        (fun y ofY => cached y ((publishes y).mp ofY)) ((publishes x).mpr ofX) time input
      rw [dispatchedIn, List.flatMap_append, List.flatMap_singleton, List.filterMap_append,
        List.filter_append, List.map_append, List.filterMap_append]
      refine congrArg₂ _ (requests x ofX) (here.trans ?_)
      show _ = [((time, input), (now.step (time, input)).2)].filterMap (writeRequest x)
      rw [List.filterMap_cons, List.filterMap_nil]
      cases writeRequest x ((time, input), (now.step (time, input)).2) <;> rfl
  have initially : inv [] bridge := by
    refine ⟨published, distinct, fun _ => Iff.rfl, fun command none_ => ?_, fun _ _ => rfl⟩
    cases none_
  exact ((bridgeMachine D).history_invariant inv kept inputs initially).2.2.2

end Dispatched

/-! ### Delivery -/

/-- The threads of a bridge: the other calls it makes, and those its writes detach. -/
def World.threadsFor (world : World D) (others : List Method) (commands : List Command) :
    AdapterSections :=
  { guarded := fun mutex => match mutex with
      | .initLock => { targetConfigured := true, initialized := world.adapter.initialized }
      | .cacheMutex => { mUdnToWemoId := world.adapter.mUdnToWemoId, sent := [] }
    places := others.map .begins ++ commands.map fun command => .begins (.lister (.command command)) }

omit [ChipSdk D] in
theorem World.threadsFor_begin (world : World D) (others : List Method) (commands : List Command) :
    (world.threadsFor others commands).Begin := by
  intro place member
  rcases List.mem_append.mp member with other | command
  · obtain ⟨method, -, rfl⟩ := List.mem_map.mp other
    exact ⟨_, rfl⟩
  · obtain ⟨_, -, rfl⟩ := List.mem_map.mp command
    exact ⟨_, rfl⟩

/-- The calls of `ApplicationInit` send nothing. -/
def Method.OfInit (method : Method) : Prop := method = .refresh ∨ method = .registerStateCallback

omit [ChipSdk D] in
/-- The actions of the threads are those of the commands. -/
theorem World.threadsFor_actions (world : World D) {others : List Method}
    (ofInit : ∀ method ∈ others, method.OfInit) (commands : List Command) (cache : UdnCache) :
    (world.threadsFor others commands).places.filterMap (·.actionIn cache) =
      commands.filterMap (·.actionIn cache) := by
  have silent : (others.map AdapterPlace.begins).filterMap (·.actionIn cache) = [] := by
    rw [List.filterMap_map]
    refine List.filterMap_eq_nil_iff.mpr fun method member => ?_
    rcases ofInit method member with rfl | rfl <;> rfl
  rw [threadsFor, List.filterMap_append, silent, List.nil_append, List.filterMap_map]
  rfl

/-- **Every accepted write reaches its WeMo once.** From an engine list with pairwise distinct
non-empty UDNs and pairwise distinct wemo_ids, for every run of the bridge and every fair schedule of
the statements of its threads, whatever the engine answers to them: all calls return, every action
was sent to the WeMo of a published light, and each of these was asked exactly for what the accepted
writes to its light ask for. -/
theorem writes_delivered {heap : Allocator} {lastFixed : EndpointId}
    {refuses : Nat → EndpointId → Bool} {list : WeDeviceList} {world : World D}
    (invalid : ∀ call, refuses call kInvalidEndpointId = true)
    (udns : (list.listed.map (cStr ·.udn)).Nodup)
    (nonempty : ∀ info ∈ list.listed, cStr info.udn ≠ [])
    (wemoIds : (list.listed.map (·.wemoId)).Nodup)
    (starts : startup heap lastFixed refuses true (some list) = some world)
    (engineSocket : CppString) (others : List Method) (ofInit : ∀ method ∈ others, method.OfInit)
    (inputs : List (TimePoint × Input)) (schedule : Nat → Nat × EngineAnswers) :
    let past := (bridgeMachine D).history world.bridge inputs
    let start := world.threadsFor others (dispatchedIn past)
    Sections.Fair start.places.length schedule → ∃ count,
      let now := (adapterSections engineSocket).machine.trajectory
        (start.threads AdapterMutex.Inside) schedule count
      let sent := (now.guarded .cacheMutex).sent
      (∀ place ∈ now.places, ∃ result, place = .inl (.returned result)) ∧
        (∀ action ∈ sent, ∃ x, world.bridge.Publishes x ∧ action.wemoId = x.wemoId) ∧
        ∀ x, world.bridge.Publishes x →
          ((sent.filter (·.wemoId = x.wemoId)).map Action.request).Perm
            (past.filterMap (writeRequest x)) := by
  intro past start fair
  have routing := startup_routing invalid udns nonempty starts
  have distinct := startup_distinct invalid wemoIds starts
  have cached : world.bridge.Cached world.adapter.mUdnToWemoId :=
    fun x ofX => (routing.routed x ofX).2
  have initialized : (start.guarded .initLock).initialized = true := by
    obtain ⟨bridge, -, rfl⟩ := Option.map_eq_some_iff.mp starts
    rfl
  obtain ⟨lights, requests⟩ := dispatchedIn_requests routing.sound.published distinct cached inputs
  have known : ∀ method, AdapterPlace.begins method ∈ start.places →
      method.KnownTo (start.guarded .cacheMutex).mUdnToWemoId := by
    intro method member
    rcases List.mem_append.mp member with other | detached
    · obtain ⟨_, asked, same⟩ := List.mem_map.mp other
      cases same
      rcases ofInit method asked with rfl | rfl <;> exact trivial
    · obtain ⟨command, dispatched, same⟩ := List.mem_map.mp detached
      cases same
      obtain ⟨x, ofX, udn⟩ := lights command dispatched
      show (world.adapter.mUdnToWemoId command.udn).isSome
      rw [udn, cached x ofX, Option.isSome_some]
  obtain ⟨count, ended, sent⟩ := known_delivered engineSocket
    (world.threadsFor_begin others (dispatchedIn past)) initialized known schedule fair
  rw [world.threadsFor_actions ofInit] at sent
  refine ⟨count, ended, fun action member => ?_, fun x ofX => ?_⟩
  · obtain ⟨command, dispatched, made⟩ := List.mem_filterMap.mp (sent.mem_iff.mp member)
    obtain ⟨x, ofX, udn⟩ := lights command dispatched
    obtain ⟨wemoId, found, rfl⟩ := Option.map_eq_some_iff.mp made
    rw [udn] at found
    refine ⟨x, ofX, ?_⟩
    rw [Command.sendState_wemoId, Option.some.inj (found.symm.trans (cached x ofX))]
  · rw [← requests x ofX]
    exact (sent.filter _).map _

/-- The dimmer is switched on, a level write is swallowed while that settles, and the socket is
switched off. -/
def controllerWrites : List (TimePoint × Input) :=
  [(0, .write 3 (.onOff .onOff) fun _ => 1),
    (milliseconds 100, .write 3 (.levelControl .currentLevel) fun _ => 200),
    (milliseconds 200, .write 4 (.onOff .onOff) fun _ => 0)]

/-- The dimmer is asked once, to be on, next to the two calls of the start and the other light's. -/
theorem writes_delivered_sample : ∃ count,
    (((((adapterSections []).machine.trajectory ((sampleWorld.threadsFor
      [.registerStateCallback, .refresh] (dispatchedIn ((bridgeMachine PlainDevice).history
        sampleWorld.bridge controllerWrites))).threads AdapterMutex.Inside)
      (fun moment => (moment % 4, willing)) count).guarded .cacheMutex).sent.filter
        (·.wemoId = 7)).map Action.request) = [(1, -1)] := by
  obtain ⟨count, -, -, asked⟩ := writes_delivered (fun _ => rfl) (by decide) (by decide) (by decide)
    sampleWorld_starts [] [.registerStateCallback, .refresh] (fun method member => by
      rcases List.mem_pair.mp member with rfl | rfl
      · exact Or.inr rfl
      · exact Or.inl rfl) controllerWrites (fun moment => (moment % 4, willing))
    (Sections.fair_turns 4 _)
  refine ⟨count, List.perm_singleton.mp ((asked sampleDimmer sampleWorld_publishes).trans
    (List.Perm.of_eq ?_))⟩
  decide

end WemoBridge
