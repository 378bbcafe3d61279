/-
**The order of the commands.**

Every accepted write to a light spawns one thread, and once its thread has run it has made exactly
one call of `we_set_action`. The calls are in the order in which the threads ran, which is any order
the scheduler likes: `World.InOrder` is the invariant, `commands_in_thread_order` the result, and
`commands_reordered` a run in which an ON accepted before an OFF is sent after it.
-/

import WemoBridge.Dispatch
import WemoBridge.LevelGate

namespace WemoBridge

open Library

variable {D : Type} [ChipSdk D]

/-! ### Requests -/

/-- What an action asks a WeMo for: a state, and a level or -1. -/
def Action.request (action : Action) : Int × Int := (action.state, action.level)

/-- What a command asks for, whichever WeMo it reaches. -/
def Command.request (command : Command) : Int × Int := (command.sendState 0).request

theorem Command.request_sendState (command : Command) (wemoId : Int) :
    (command.sendState wemoId).request = command.request := by
  cases command <;> rfl

/-- What a thread asks the WeMo of the light for, if it is a thread of the light. -/
def DispatchThread.requestFor (x : PublishedLight) (thread : DispatchThread) : Option (Int × Int) :=
  if thread.cause.isFor x then some thread.command.request else none

/-- One step of a run of the world. -/
abbrev WorldStep := (TimePoint × WorldInput) × WorldOutput

/-- **What an accepted write asks for**: a successful OnOff write for its value, a level write that
took effect for state 1 and the converted percent. -/
def acceptedRequest (x : PublishedLight) : WorldStep → Option (Int × Int)
  | ((_, .matter (.write endpoint (.onOff .onOff) buffer)), .replied reply) =>
      if endpoint = x.endpoint ∧ reply.status = .success then
        some (if buffer 0 ≠ 0 then 1 else 0, -1)
      else none
  | ((_, .matter (.write endpoint (.levelControl .currentLevel) buffer)), .replied reply) =>
      if endpoint = x.endpoint ∧ reply.dispatched ≠ [] then
        some (1, (wemoPercentOf (buffer 0)).toNat)
      else none
  | _ => none

/-- The threads that took a step, in the order in which they did. -/
def moves (past : List WorldStep) : List Nat :=
  past.filterMap fun step =>
    match step with
    | ((_, .thread id _), .moved true) => some id
    | _ => none

namespace World

omit [ChipSdk D] in
/-- What the thread with a number asks the WeMo of the light for. -/
def requestOf (world : World D) (x : PublishedLight) (id : Nat) : Option (Int × Int) :=
  world.threads[id]?.bind (·.requestFor x)

omit [ChipSdk D] in
/-- The thread with a number is one of the light. -/
def isThreadOf (world : World D) (x : PublishedLight) (id : Nat) : Bool :=
  (world.requestOf x id).isSome

omit [ChipSdk D] in
/-- What the threads of the light have asked for, in the order of the calls. -/
def sentFor (world : World D) (x : PublishedLight) : List (Int × Int) :=
  world.sent.filterMap fun call =>
    if world.isThreadOf x call.1 then some call.2.request else none

end World

/-! ### What a write spawns -/

theorem setLevelPercent_request {level : UInt8} (above : 2 ≤ level) (udn : CppString) :
    (Command.setLevelPercent udn (wemoPercentOf level)).request =
      (1, ((wemoPercentOf level).toNat : Int)) := by
  obtain ⟨positive, atMost⟩ := wemoPercentOf_mem above
  rw [UInt8.le_iff_toNat_le] at positive atMost
  have lower : 1 ≤ (wemoPercentOf level).toNat := positive
  have upper : (wemoPercentOf level).toNat ≤ 100 := atMost
  have clamped : min (max ((wemoPercentOf level).toNat : Int) 0) 100 =
      (wemoPercentOf level).toNat := by omega
  have on : ((wemoPercentOf level).toNat : Int) > 0 := by omega
  simp only [Command.request, Command.sendState, Action.request, clamped, if_pos on]

/-- **A step spawns a thread of the light exactly if it accepts a write to it**, and the thread asks
for what the write asks for. -/
theorem spawn_requests {bridge : Bridge D} (published : bridge.Published) (x : PublishedLight)
    (time : TimePoint) (input : Input) :
    (spawn input (bridge.step (time, input)).2).filterMap (·.requestFor x) =
      (acceptedRequest x ((time, .matter input),
        .replied (bridge.step (time, input)).2)).toList := by
  rcases published.step_cases time input with ⟨-, stepEq⟩ | ⟨y, light, -, -, -, -, stepEq⟩
  · rw [stepEq]
    cases input with
    | write endpoint path buffer =>
      cases path with
      | onOff attributeId => cases attributeId <;> simp [spawn, Bridge.missedReply, acceptedRequest]
      | levelControl attributeId =>
        cases attributeId <;> simp [spawn, Bridge.missedReply, acceptedRequest]
      | _ => rfl
    | _ => rfl
  · rw [stepEq]
    rcases light.step_dispatched time input with
      none | ⟨endpoint, buffer, rfl, onOff⟩ | ⟨endpoint, buffer, rfl, above, level⟩
    · rw [spawn, none, List.map_nil, List.filterMap_nil]
      cases input with
      | write endpoint path buffer =>
        cases path with
        | onOff attributeId =>
          cases attributeId with
          | onOff =>
            have failed : (light.step time (.write endpoint (.onOff .onOff) buffer)).2.status ≠
                .success := by
              intro success
              rw [light.step_onOff_dispatched, if_pos success] at none
              cases none
            simp [acceptedRequest, failed]
          | _ => rfl
        | levelControl attributeId => cases attributeId <;> simp [acceptedRequest, none]
        | _ => rfl
      | _ => rfl
    · have success : (light.step time (.write endpoint (.onOff .onOff) buffer)).2.status =
          .success := by
        by_contra failed
        rw [light.step_onOff_dispatched, if_neg failed] at onOff
        cases onOff
      generalize (light.step time (.write endpoint (.onOff .onOff) buffer)).2 = reply at *
      by_cases here : endpoint = x.endpoint <;> by_cases on : buffer 0 = 0 <;>
        simp [spawn, onOff, DispatchThread.requestFor, Input.isFor, acceptedRequest, success, here,
          on, Command.request, Command.sendState, Action.request]
    · generalize (light.step time (.write endpoint (.levelControl .currentLevel) buffer)).2 = reply
        at *
      by_cases here : endpoint = x.endpoint <;>
        simp [spawn, level, DispatchThread.requestFor, Input.isFor, acceptedRequest, here,
          setLevelPercent_request above]

/-! ### The invariant -/

theorem moves_concat (past : List WorldStep) (step : WorldStep) :
    moves (past ++ [step]) = moves past ++ moves [step] := List.filterMap_append

namespace World

/-- **The calls are in the order of the moves**, for the threads of a light whose UDN is cached. -/
structure InOrder (x : PublishedLight) (past : List WorldStep) (world : World D) : Prop where
  sound : world.Sound
  publishes : world.bridge.Publishes x
  knows : world.adapter.Knows x.udn
  phases : ∀ thread ∈ world.threads, thread.cause.isFor x = true →
    thread.phase = .lookup ∨ thread.hasRun = true
  accepted : past.filterMap (acceptedRequest x) = world.threads.filterMap (·.requestFor x)
  moved : ∀ id ∈ moves past, id < world.threads.length
  called : ∀ call ∈ world.sent, call.1 < world.threads.length
  sent : world.sentFor x = (moves past).filterMap (world.requestOf x)
  once : ((moves past).filter (world.isThreadOf x)).Nodup
  run : ∀ id thread, world.threads[id]? = some thread → thread.cause.isFor x = true →
    (id ∈ moves past ↔ thread.hasRun = true)

section Requests

variable {world : World D} {x : PublishedLight} {id : Nat} {thread : DispatchThread}

omit [ChipSdk D] in
theorem isThreadOf_iff (world : World D) (x : PublishedLight) (id : Nat) :
    world.isThreadOf x id = true ↔
      ∃ thread, world.threads[id]? = some thread ∧ thread.cause.isFor x = true := by
  unfold isThreadOf requestOf DispatchThread.requestFor
  cases world.threads[id]? with
  | none => simp
  | some thread => by_cases forX : thread.cause.isFor x = true <;> simp [forX]

omit [ChipSdk D] in
/-- A thread that moves on asks for what it asked for. -/
theorem requestOf_set (found : world.threads[id]? = some thread) (adapter : Adapter) (phase : Phase)
    (sent : List (Nat × Action)) (x : PublishedLight) :
    requestOf { world with
      adapter := adapter
      threads := world.threads.set id { thread with phase := phase }
      sent := sent } x = world.requestOf x := by
  funext other
  have below := (List.getElem?_eq_some_iff.mp found).1
  unfold requestOf
  dsimp only
  by_cases same : id = other
  · subst same
    rw [List.getElem?_set_self below, found]
    rfl
  · rw [List.getElem?_set_ne same]

omit [ChipSdk D] in
/-- New threads change nothing about the old ones. -/
theorem requestOf_append (bridge : Bridge D) (spawned : List DispatchThread)
    (below : id < world.threads.length) :
    requestOf { world with bridge := bridge, threads := world.threads ++ spawned } x id =
      world.requestOf x id := by
  unfold requestOf
  rw [List.getElem?_append_left below]

/-- A thread of the light carries a command of the light. -/
theorem Sound.carries (sound : world.Sound) (ofX : world.bridge.Publishes x)
    (member : thread ∈ world.threads) (forX : thread.cause.isFor x = true) : thread.Carries x := by
  obtain ⟨y, ofY, carries⟩ := sound.threads thread member
  obtain ⟨path, buffer, cause⟩ := carries.cause_eq
  rw [cause] at forX
  have same : y = x := sound.published.eq_of_endpoint ofY ofX (by simpa [Input.isFor] using forX)
  rwa [← same]

end Requests

section Step

variable {world : World D} {x : PublishedLight} {past : List WorldStep}

/-- A step of the Matter thread. -/
theorem InOrder.matter (inOrder : world.InOrder x past) (time : TimePoint) (input : Input) :
    (world.step (time, .matter input)).1.InOrder x
      (past ++ [((time, .matter input), (world.step (time, .matter input)).2)]) := by
  have published := inOrder.sound.published
  have spawned := spawn_carries published time input
  have requests := spawn_requests published x time input
  have sameMoves : moves (past ++ [((time, .matter input), (world.step (time, .matter input)).2)]) =
      moves past := by rw [moves_concat]; exact List.append_nil _
  have sound := inOrder.sound.step time (.matter input)
  have publishes := (step_publishes_iff published time (.matter input) x).mpr inOrder.publishes
  rw [step] at sameMoves sound publishes ⊢
  dsimp only at sameMoves sound publishes ⊢
  generalize world.bridge.step (time, input) = stepped at *
  have sameRequest : ∀ id < world.threads.length,
      requestOf { world with
        bridge := stepped.1
        threads := world.threads ++ spawn input stepped.2 } x id = world.requestOf x id :=
    fun id below => requestOf_append stepped.1 (spawn input stepped.2) below
  refine ⟨sound, publishes, inOrder.knows, ?_, ?_, ?_, ?_, ?_, ?_, ?_⟩
  · intro thread member forX
    rcases List.mem_append.mp member with old | new
    · exact inOrder.phases thread old forX
    · exact Or.inl (spawned thread new).1
  · rw [List.filterMap_append, List.filterMap_append, inOrder.accepted, requests]
    congr 1
  · intro id member
    rw [sameMoves] at member
    rw [List.length_append]
    exact Nat.lt_add_right _ (inOrder.moved id member)
  · intro call member
    rw [List.length_append]
    exact Nat.lt_add_right _ (inOrder.called call member)
  · rw [sameMoves, List.filterMap_congr fun id member => sameRequest id (inOrder.moved id member),
      ← inOrder.sent]
    refine List.filterMap_congr fun call member => ?_
    unfold isThreadOf
    rw [sameRequest call.1 (inOrder.called call member)]
  · rw [sameMoves, List.filter_congr fun id member => ?_]
    · exact inOrder.once
    · unfold isThreadOf
      rw [sameRequest id (inOrder.moved id member)]
  · intro id thread found forX
    rw [sameMoves]
    rcases lt_or_ge id world.threads.length with below | above
    · rw [List.getElem?_append_left below] at found
      exact inOrder.run id thread found forX
    · rw [List.getElem?_append_right above] at found
      obtain ⟨first, -⟩ := spawned thread (List.mem_of_getElem? found)
      constructor
      · intro member
        exact absurd (inOrder.moved id member) (not_lt.mpr above)
      · intro run
        simp [DispatchThread.hasRun, first] at run

/-- A move of a dispatch thread; if it is a thread of the light, it is the one it has, and it makes
its call. -/
structure Moves (world : World D) (x : PublishedLight) (id : Nat) (thread : DispatchThread)
    (adapter : Adapter) (phase : Phase) (actions : List Action) (moved : Bool) : Prop where
  found : world.threads[id]? = some thread
  knows : adapter.Knows x.udn
  calls : thread.cause.isFor x = true → thread.hasRun = false ∧
    ({ thread with phase := phase } : DispatchThread).hasRun = true ∧
    actions.map Action.request = [thread.command.request] ∧ moved = true

/-- A step of a dispatch thread changes nothing, or is a move. -/
theorem InOrder.thread_cases (inOrder : world.InOrder x past) (time : TimePoint) (id : Nat)
    (answers : EngineAnswers) :
    world.step (time, .thread id answers) = (world, .moved false) ∨
    ∃ thread adapter phase actions moved,
      world.Moves x id thread adapter phase actions moved ∧
      world.step (time, .thread id answers) =
        ({ world with
            adapter := adapter
            threads := world.threads.set id { thread with phase := phase }
            sent := world.sent ++ actions.map (id, ·) }, .moved moved) := by
  cases found : world.threads[id]? with
  | none =>
    refine Or.inl ?_
    rw [step, found]
  | some thread =>
    have member := List.mem_of_getElem? found
    by_cases idle : thread.cause.isFor x = true ∧ thread.hasRun = true
    · exact Or.inl (step_thread_hasRun found idle.2 time answers)
    · refine Or.inr ⟨thread, _, _, _, _, ⟨found, inOrder.knows.commandStep thread.command answers
        thread.phase, fun forX => ?_⟩, by rw [step, found]⟩
      have first := (inOrder.phases thread member forX).resolve_right fun run => idle ⟨forX, run⟩
      have carries := inOrder.sound.carries inOrder.publishes member forX
      obtain ⟨initialized, cached⟩ := inOrder.knows
      rw [← carries.udn] at cached
      obtain ⟨wemoId, cached⟩ := Option.isSome_iff_exists.mp cached
      rw [first, Adapter.commandStep_known initialized cached]
      simp [DispatchThread.hasRun, first, Command.request_sendState]

/-- A move keeps the calls in order. -/
theorem InOrder.move (inOrder : world.InOrder x past) (time : TimePoint) {id : Nat}
    {answers : EngineAnswers} {thread : DispatchThread} {adapter : Adapter} {phase : Phase}
    {actions : List Action} {moved : Bool}
    (move : world.Moves x id thread adapter phase actions moved)
    (stepEq : world.step (time, .thread id answers) =
      ({ world with
          adapter := adapter
          threads := world.threads.set id { thread with phase := phase }
          sent := world.sent ++ actions.map (id, ·) }, .moved moved)) :
    (world.step (time, .thread id answers)).1.InOrder x
      (past ++ [((time, .thread id answers), .moved moved)]) := by
  have below := (List.getElem?_eq_some_iff.mp move.found).1
  have sameRequest := requestOf_set move.found adapter phase
    (world.sent ++ actions.map (id, ·)) x
  have sound := inOrder.sound.step time (.thread id answers)
  have sameMoves : moves (past ++ [((time, .thread id answers), .moved moved)]) =
      moves past ++ if moved then [id] else [] := by
    rw [moves_concat]
    cases moved <;> rfl
  have isThread : world.isThreadOf x id = thread.cause.isFor x := by
    rw [Bool.eq_iff_iff, isThreadOf_iff, move.found]
    simp
  have sameThreads : (world.threads.set id { thread with phase := phase }).filterMap
      (·.requestFor x) = world.threads.filterMap (·.requestFor x) := by
    rw [← filterMap_range_getElem?, ← filterMap_range_getElem? world.threads, List.length_set]
    exact congrArg (List.filterMap · (List.range world.threads.length)) sameRequest
  rw [stepEq] at sound ⊢
  refine ⟨sound, inOrder.publishes, move.knows, ?_, ?_, ?_, ?_, ?_, ?_, ?_⟩
  · intro other member forX
    rcases List.mem_or_eq_of_mem_set member with old | rfl
    · exact inOrder.phases other old forX
    · exact Or.inr (move.calls forX).2.1
  · rw [sameThreads, ← inOrder.accepted, List.filterMap_append]
    exact List.append_nil _
  · intro other member
    rw [sameMoves] at member
    rw [List.length_set]
    rcases List.mem_append.mp member with old | last
    · exact inOrder.moved other old
    · cases moved with
      | true => rwa [List.mem_singleton.mp last]
      | false => cases last
  · intro call member
    rw [List.length_set]
    rcases List.mem_append.mp member with old | last
    · exact inOrder.called call old
    · obtain ⟨action, -, rfl⟩ := List.mem_map.mp last
      exact below
  · have requestHere : world.requestOf x id = thread.requestFor x := by
      rw [requestOf, move.found, Option.bind_some]
    unfold sentFor isThreadOf
    rw [sameRequest, sameMoves, List.filterMap_append, List.filterMap_append]
    refine congr (congrArg _ inOrder.sent) ?_
    rw [List.filterMap_map]
    by_cases forX : thread.cause.isFor x = true
    · obtain ⟨-, -, request, rfl⟩ := move.calls forX
      have asks : thread.requestFor x = some thread.command.request := if_pos forX
      simp [requestHere, asks, ← request]
    · have silent : thread.requestFor x = none := if_neg forX
      cases moved <;> simp [requestHere, silent]
  · rw [sameMoves, List.filter_append]
    unfold isThreadOf
    rw [sameRequest]
    refine List.nodup_append.mpr ⟨inOrder.once, ?_, ?_⟩
    · cases moved
      · exact List.nodup_nil
      · exact (List.nodup_singleton id).filter _
    · rintro other before last member rfl
      obtain ⟨alreadyMoved, ofX⟩ := List.mem_filter.mp before
      obtain rfl : other = id := by
        cases moved with
        | true => exact List.mem_singleton.mp (List.mem_of_mem_filter member)
        | false => cases member
      -- a thread of the light moves once
      have forX : thread.cause.isFor x = true := isThread.symm.trans ofX
      have notRun := (move.calls forX).1
      rw [(inOrder.run other thread move.found forX).mp alreadyMoved] at notRun
      cases notRun
  · intro other after found forX
    rw [sameMoves, List.mem_append]
    by_cases here : id = other
    · subst here
      rw [List.getElem?_set_self below] at found
      obtain rfl := Option.some.inj found
      obtain ⟨-, run, -, rfl⟩ := move.calls forX
      exact ⟨fun _ => run, fun _ => Or.inr (List.mem_singleton_self id)⟩
    · rw [List.getElem?_set_ne here] at found
      rw [← inOrder.run other after found forX, or_iff_left]
      intro last
      cases moved with
      | true => exact here (List.mem_singleton.mp last).symm
      | false => cases last

/-- **Every step keeps the calls in order.** -/
theorem InOrder.step (inOrder : world.InOrder x past) (time : TimePoint) (input : WorldInput) :
    (world.step (time, input)).1.InOrder x
      (past ++ [((time, input), (world.step (time, input)).2)]) := by
  cases input with
  | matter input => exact inOrder.matter time input
  | thread id answers =>
    rcases inOrder.thread_cases time id answers with
      idle | ⟨thread, adapter, phase, actions, moved, move, stepEq⟩
    · rw [idle]
      refine { inOrder with accepted := ?_, moved := ?_, sent := ?_, once := ?_, run := ?_ }
      · rw [List.filterMap_append, inOrder.accepted]
        exact List.append_nil _
      all_goals
        rw [moves_concat, show moves [((time, WorldInput.thread id answers), .moved false)] = []
          from rfl, List.append_nil]
      · exact inOrder.moved
      · exact inOrder.sent
      · exact inOrder.once
      · exact inOrder.run
    · have next := inOrder.move time move stepEq
      rwa [show (world.step (time, .thread id answers)).2 = .moved moved from
        congrArg Prod.snd stepEq]

end Step

end World

/-! ### The order of the calls -/

section Startup

variable {heap : Allocator} {lastFixed : EndpointId} {refuses : Nat → EndpointId → Bool}
  {weInit : Bool} {weListDevices : Option WeDeviceList} {world : World D} {x : PublishedLight}

/-- The world starts with its calls in order. -/
theorem startup_inOrder (invalid : ∀ call, refuses call kInvalidEndpointId = true)
    (starts : startup heap lastFixed refuses weInit weListDevices = some world)
    (ofX : world.bridge.Publishes x) (nonempty : x.udn ≠ []) : world.InOrder x [] := by
  obtain ⟨bridge, started, rfl⟩ := Option.map_eq_some_iff.mp starts
  have published := (applicationInit_started invalid started).1.published
  obtain ⟨dev, member, udn, -⟩ := applicationInit_discovered invalid started ofX
  obtain ⟨list, -, discovered⟩ := Adapter.discover_of_mem member
  have cached := Adapter.discover_isSome member (udn ▸ nonempty)
  rw [← udn] at cached
  exact ⟨⟨published, by simp⟩, ofX, ⟨by rw [discovered], cached⟩, by simp, rfl, by simp [moves],
    by simp, rfl, List.nodup_nil, by simp⟩

/-- **The commands take effect in the order in which their threads run.** For a light with a
non-empty UDN, after any run: its threads are those of the accepted writes, in the order of
acceptance; the calls of `we_set_action` they made are in the order in which they ran, each asking
for what its write asked for, so the last is that of the write whose thread ran last. Once all of
them have run, every accepted write has made exactly one call; and the last call is that of the last
accepted write if its thread ran last. -/
theorem commands_in_thread_order (invalid : ∀ call, refuses call kInvalidEndpointId = true)
    (starts : startup heap lastFixed refuses weInit weListDevices = some world)
    (ofX : world.bridge.Publishes x) (nonempty : x.udn ≠ [])
    (inputs : List (TimePoint × WorldInput)) :
    let history := (worldMachine D).history world inputs
    let after := (worldMachine D).run world inputs
    let accepted := history.filterMap (acceptedRequest x)
    let order := (moves history).filter (after.isThreadOf x)
    let spawned := (List.range after.threads.length).filter (after.isThreadOf x)
    spawned.filterMap (after.requestOf x) = accepted ∧
      after.sentFor x = order.filterMap (after.requestOf x) ∧
      (after.sentFor x).getLast? = order.getLast?.bind (after.requestOf x) ∧
      ((∀ thread ∈ after.threads, thread.cause.isFor x = true → thread.hasRun = true) →
        order.Perm spawned ∧ (after.sentFor x).Perm accepted ∧
        (order.getLast? = spawned.getLast? → (after.sentFor x).getLast? = accepted.getLast?)) := by
  intro history after accepted order spawned
  have inOrder : after.InOrder x history :=
    (worldMachine D).history_invariant (World.InOrder x)
      (fun past before input inOrder => inOrder.step input.1 input.2) inputs
      (startup_inOrder invalid starts ofX nonempty)
  have acceptedEq : spawned.filterMap (after.requestOf x) = accepted := by
    refine (filterMap_filter_isSome _ _).trans (Eq.trans ?_ inOrder.accepted.symm)
    exact filterMap_range_getElem? after.threads _
  have sentEq : after.sentFor x = order.filterMap (after.requestOf x) :=
    inOrder.sent.trans (filterMap_filter_isSome _ _).symm
  have lastOf : ∀ list : List Nat, ((list.filter (after.isThreadOf x)).filterMap
      (after.requestOf x)).getLast? = (list.filter (after.isThreadOf x)).getLast?.bind
        (after.requestOf x) :=
    fun list => getLast?_filterMap fun id member => (List.mem_filter.mp member).2
  refine ⟨acceptedEq, sentEq, by rw [sentEq, lastOf], fun allRun => ?_⟩
  have perm : order.Perm spawned := by
    refine (List.perm_ext_iff_of_nodup inOrder.once (List.nodup_range.filter _)).mpr fun id => ?_
    rw [List.mem_filter, List.mem_filter, List.mem_range]
    refine and_congr_left fun isThread => ⟨inOrder.moved id, fun _ => ?_⟩
    obtain ⟨thread, found, forX⟩ := (World.isThreadOf_iff after x id).mp isThread
    exact (inOrder.run id thread found forX).mpr
      (allRun thread (List.mem_of_getElem? found) forX)
  refine ⟨perm, ?_, fun sameLast => ?_⟩
  · rw [sentEq, ← acceptedEq]
    exact perm.filterMap _
  · rw [sentEq, ← acceptedEq, lastOf, lastOf]
    exact congrArg (·.bind (after.requestOf x)) sameLast

end Startup

/-- The dimmer is switched on and off, and the thread of the second write runs first. -/
def overtaken : List (TimePoint × WorldInput) :=
  [(0, .matter (.write 3 (.onOff .onOff) fun _ => 1)),
   (1, .matter (.write 3 (.onOff .onOff) fun _ => 0)),
   (2, .thread 1 willing), (3, .thread 0 willing)]

theorem commands_in_thread_order_sample :
    (((worldMachine PlainDevice).run sampleWorld overtaken).sentFor sampleDimmer).Perm
      (((worldMachine PlainDevice).history sampleWorld overtaken).filterMap
        (acceptedRequest sampleDimmer)) :=
  ((commands_in_thread_order (fun _ => rfl) sampleWorld_starts sampleWorld_publishes (by decide)
    overtaken).2.2.2 (by decide)).2.1

/-- **The order of acceptance is not the order of the calls**: the dimmer is left on. -/
theorem commands_reordered :
    ¬ ∀ inputs : List (TimePoint × WorldInput),
      let after := (worldMachine PlainDevice).run sampleWorld inputs
      (∀ thread ∈ after.threads, thread.hasRun = true) →
        (after.sentFor sampleDimmer).getLast? =
          (((worldMachine PlainDevice).history sampleWorld inputs).filterMap
            (acceptedRequest sampleDimmer)).getLast? := by
  intro inOrder
  have lastOff := inOrder overtaken (by decide)
  revert lastOff
  decide

end WemoBridge
