/-
**The dispatch threads.**

A `World` is the running bridge with the adapter and the detached threads its writes spawned. The
Matter thread and the dispatch threads take steps in any order; one step of a dispatch thread is one
hold of the cache mutex, or the fetch outside it (`Adapter.commandStep`), with whatever the engine
answers.

A UDN in the cache stays in the cache (`commandStep_known`), so after `ApplicationInit` every
thread of a light finds its UDN at the first look and none ever fetches a list. The cache is then
never rewritten, and a command goes to the wemo_id under which the events of the same light arrive
(`command_routing`).
-/

import WemoBridge.Init

namespace WemoBridge

open Library

variable {D : Type} [ChipSdk D]

/-! ### The world -/

/-- A detached thread, with the write that spawned it. -/
structure DispatchThread where
  cause : Input
  command : Command
  phase : Phase

/-- The thread has run to its end. -/
def DispatchThread.hasRun (thread : DispatchThread) : Bool :=
  match thread.phase with
  | .returned _ => true
  | _ => false

/-- The running bridge, the adapter, the threads in the order they were spawned, and the calls of
`we_set_action` in the order they were made, each with the number of its thread. -/
structure World (D : Type) where
  bridge : Bridge D
  adapter : Adapter
  threads : List DispatchThread
  sent : List (Nat × Action)

/-- A step of the Matter thread, or of a dispatch thread. -/
inductive WorldInput where
  | matter (input : Input)
  | thread (id : Nat) (answers : EngineAnswers)

/-- The answer of a step of the Matter thread, and whether a dispatch thread had a step to take. -/
inductive WorldOutput where
  | replied (reply : Reply)
  | moved (moved : Bool)

/-- The threads a step of the Matter thread spawns. -/
def spawn (input : Input) (reply : Reply) : List DispatchThread :=
  reply.dispatched.map fun command => { cause := input, command := command, phase := .lookup }

/-- One step of a world. -/
def World.step (world : World D) : TimePoint × WorldInput → World D × WorldOutput
  | (now, .matter input) =>
      let stepped := world.bridge.step (now, input)
      ({ world with
          bridge := stepped.1
          threads := world.threads ++ spawn input stepped.2 }, .replied stepped.2)
  | (_, .thread id answers) =>
      match world.threads[id]? with
      | none => (world, .moved false)
      | some thread =>
        let stepped := world.adapter.commandStep thread.command answers thread.phase
        ({ world with
            adapter := stepped.1
            threads := world.threads.set id { thread with phase := stepped.2.1 }
            sent := world.sent ++ stepped.2.2.map (id, ·) }, .moved (!thread.hasRun))

/-- **The bridge with its dispatch threads.** -/
def worldMachine (D : Type) [ChipSdk D] : Machine (World D) (TimePoint × WorldInput) WorldOutput :=
  { step := World.step }

/-- `ApplicationInit` in a fresh process, from `Discover` on. -/
def startup (heap : Allocator) (lastFixed : EndpointId) (refuses : Nat → EndpointId → Bool)
    (weInit : Bool) (weListDevices : Option WeDeviceList) : Option (World D) :=
  let discovered := Adapter.fresh.discover weInit weListDevices
  (applicationInit heap lastFixed refuses discovered.2).map fun bridge =>
    { bridge := bridge, adapter := discovered.1, threads := [], sent := [] }

/-! ### A cached UDN -/

/-- The adapter runs and has the UDN in its cache. -/
def Adapter.Knows (adapter : Adapter) (udn : CppString) : Prop :=
  adapter.initialized = true ∧ (adapter.mUdnToWemoId udn).isSome

namespace Adapter

variable {adapter : Adapter} {udn : CppString}

theorem ensureEngineInitialized_of_initialized (initialized : adapter.initialized = true)
    (weInit : Bool) : adapter.ensureEngineInitialized weInit = adapter := by
  unfold ensureEngineInitialized
  rw [initialized, Bool.true_or, ← initialized]

/-- **No step of a command thread takes a UDN out of the cache.** -/
theorem Knows.commandStep (knows : adapter.Knows udn) (command : Command)
    (answers : EngineAnswers) (phase : Phase) :
    (adapter.commandStep command answers phase).1.Knows udn := by
  cases phase with
  | lookup =>
    rw [Adapter.commandStep, ensureEngineInitialized_of_initialized knows.1, if_pos knows.1]
    exact knows
  | fetch =>
    rw [Adapter.commandStep]
    split <;> exact knows
  | merge list =>
    refine ⟨knows.1, ?_⟩
    show (cacheItems adapter.mUdnToWemoId list.listed udn).isSome
    rw [cacheItems_apply]
    split
    · exact knows.2
    · rw [Option.isSome_or, knows.2, Bool.or_true]
  | returned sent => exact knows

/-- **A thread whose UDN is cached sends at its first look** and leaves the adapter alone. -/
theorem commandStep_known {command : Command} {wemoId : Int}
    (initialized : adapter.initialized = true)
    (cached : adapter.mUdnToWemoId command.udn = some wemoId) (answers : EngineAnswers) :
    adapter.commandStep command answers .lookup =
      (adapter, .returned answers.weSetAction, [command.sendState wemoId]) := by
  rw [commandStep, ensureEngineInitialized_of_initialized initialized, if_pos initialized,
    lookupAndSend, cached]

end Adapter

/-! ### What the threads carry -/

/-- The thread was spawned by a write to the light that took effect, and has the command of it. -/
def DispatchThread.Carries (thread : DispatchThread) (x : PublishedLight) : Prop :=
  (∃ buffer, thread.cause = .write x.endpoint (.onOff .onOff) buffer ∧
    thread.command = .setOnOff x.udn (decide (buffer 0 ≠ 0))) ∨
  ∃ buffer, thread.cause = .write x.endpoint (.levelControl .currentLevel) buffer ∧
    2 ≤ buffer 0 ∧ thread.command = .setLevelPercent x.udn (wemoPercentOf (buffer 0))

namespace DispatchThread

variable {thread : DispatchThread} {x : PublishedLight}

theorem Carries.udn (carries : thread.Carries x) : thread.command.udn = x.udn := by
  rcases carries with ⟨_, -, command⟩ | ⟨_, -, -, command⟩ <;> rw [command] <;> rfl

theorem Carries.cause_eq (carries : thread.Carries x) :
    ∃ path buffer, thread.cause = .write x.endpoint path buffer := by
  rcases carries with ⟨buffer, cause, -⟩ | ⟨buffer, cause, -, -⟩ <;> exact ⟨_, buffer, cause⟩

end DispatchThread

/-- The tables of the bridge agree, and every thread carries a command of a published light. -/
structure World.Sound (world : World D) : Prop where
  published : world.bridge.Published
  threads : ∀ thread ∈ world.threads, ∃ x, world.bridge.Publishes x ∧ thread.Carries x

namespace World

variable {world : World D}

/-- The threads a step spawns are new and carry the command of the light written to. -/
theorem spawn_carries {bridge : Bridge D} (published : bridge.Published) (now : TimePoint)
    (input : Input) :
    ∀ thread ∈ spawn input (bridge.step (now, input)).2, thread.phase = .lookup ∧
      ∃ x, bridge.Publishes x ∧ thread.Carries x := by
  intro thread member
  obtain ⟨command, sent, rfl⟩ := List.mem_map.mp member
  refine ⟨rfl, ?_⟩
  rcases published.step_cases now input with ⟨-, stepEq⟩ | ⟨x, light, ofX, aimed, -, backs, stepEq⟩
  · rw [stepEq] at sent
    cases input <;> cases sent
  · rw [stepEq] at sent
    refine ⟨x, ofX, ?_⟩
    rcases light.step_dispatched now input with
      none | ⟨endpoint, buffer, rfl, onOff⟩ | ⟨endpoint, buffer, rfl, above, level⟩
    · rw [none] at sent
      cases sent
    · rw [onOff, backs.udn] at sent
      rw [(published.slot_eq_some_iff ofX endpoint).mp aimed]
      exact Or.inl ⟨buffer, rfl, List.mem_singleton.mp sent⟩
    · rw [level, backs.udn] at sent
      rw [(published.slot_eq_some_iff ofX endpoint).mp aimed]
      exact Or.inr ⟨buffer, rfl, above, List.mem_singleton.mp sent⟩

/-- A thread that has run has no step to take. -/
theorem step_thread_hasRun {id : Nat} {thread : DispatchThread}
    (found : world.threads[id]? = some thread) (run : thread.hasRun = true) (now : TimePoint)
    (answers : EngineAnswers) : world.step (now, .thread id answers) = (world, .moved false) := by
  have stays : world.adapter.commandStep thread.command answers thread.phase =
      (world.adapter, thread.phase, []) := by
    unfold DispatchThread.hasRun at run
    split at run
    · rename_i phase
      rw [phase]
      rfl
    · cases run
  have same : world.threads.set id thread = world.threads := by
    obtain ⟨below, rfl⟩ := List.getElem?_eq_some_iff.mp found
    exact List.set_getElem_self below
  rw [step, found]
  dsimp only
  rw [stays]
  simp [same, run]

/-- No step of a dispatch thread changes the bridge. -/
theorem step_thread_bridge (now : TimePoint) (id : Nat) (answers : EngineAnswers) :
    (world.step (now, .thread id answers)).1.bridge = world.bridge := by
  rw [step]
  cases world.threads[id]? <;> rfl

/-- A thread after a step of a dispatch thread has the cause and the command it had. -/
theorem mem_threads_step_thread {now : TimePoint} {id : Nat} {answers : EngineAnswers}
    {thread : DispatchThread}
    (member : thread ∈ (world.step (now, .thread id answers)).1.threads) :
    ∃ before ∈ world.threads, thread.cause = before.cause ∧ thread.command = before.command := by
  rw [step] at member
  cases found : world.threads[id]? with
  | none =>
    rw [found] at member
    exact ⟨thread, member, rfl, rfl⟩
  | some before =>
    rw [found] at member
    rcases List.mem_or_eq_of_mem_set member with old | rfl
    · exact ⟨thread, old, rfl, rfl⟩
    · exact ⟨before, List.mem_of_getElem? found, rfl, rfl⟩

/-- A light stays published as it is. -/
theorem step_publishes_iff (published : world.bridge.Published) (now : TimePoint)
    (input : WorldInput) (x : PublishedLight) :
    (world.step (now, input)).1.bridge.Publishes x ↔ world.bridge.Publishes x := by
  cases input with
  | matter input => exact published.step_publishes_iff now input x
  | thread id answers => rw [step_thread_bridge]

/-- **Every step keeps a world sound.** -/
theorem Sound.step (sound : world.Sound) (now : TimePoint) (input : WorldInput) :
    (world.step (now, input)).1.Sound := by
  have publishes := step_publishes_iff sound.published now input
  refine ⟨?_, fun thread member => ?_⟩
  · cases input with
    | matter input => exact sound.published.step now input
    | thread id answers =>
      rw [step_thread_bridge]
      exact sound.published
  · cases input with
    | matter input =>
      rcases List.mem_append.mp member with old | new
      · obtain ⟨x, ofX, carries⟩ := sound.threads thread old
        exact ⟨x, (publishes x).mpr ofX, carries⟩
      · obtain ⟨-, x, ofX, carries⟩ := spawn_carries sound.published now input thread new
        exact ⟨x, (publishes x).mpr ofX, carries⟩
    | thread id answers =>
      obtain ⟨before, old, cause, command⟩ := mem_threads_step_thread member
      obtain ⟨x, ofX, carries⟩ := sound.threads before old
      refine ⟨x, (publishes x).mpr ofX, ?_⟩
      unfold DispatchThread.Carries
      rw [cause, command]
      exact carries

/-! ### Routing -/

/-- **The cache routes**: the adapter runs and maps the UDN of every published light to the wemo_id
of its entry. -/
def Routed (world : World D) : Prop :=
  ∀ x, world.bridge.Publishes x →
    world.adapter.initialized = true ∧ world.adapter.mUdnToWemoId x.udn = some x.wemoId

/-- **What routing rests on.** The cache routes; every thread is at its first look or has run; and
every action was sent by a thread, to the WeMo of the light the thread was spawned for. -/
structure Routing (world : World D) : Prop where
  sound : world.Sound
  routed : world.Routed
  phases : ∀ thread ∈ world.threads, thread.phase = .lookup ∨ thread.hasRun = true
  sent : ∀ id action, (id, action) ∈ world.sent → ∃ thread x, world.threads[id]? = some thread ∧
    world.bridge.Publishes x ∧ thread.Carries x ∧ action = thread.command.sendState x.wemoId

/-- A step of a dispatch thread in a routed world: nothing moves, or the thread finds its UDN at its
first look and sends. -/
theorem Routing.step_thread (routing : world.Routing) (now : TimePoint) (id : Nat)
    (answers : EngineAnswers) :
    world.step (now, .thread id answers) = (world, .moved false) ∨
      ∃ thread x, world.threads[id]? = some thread ∧ thread.phase = .lookup ∧
        world.bridge.Publishes x ∧ thread.Carries x ∧
        world.step (now, .thread id answers) =
          ({ world with
              threads := world.threads.set id
                { thread with phase := .returned answers.weSetAction }
              sent := world.sent ++ [(id, thread.command.sendState x.wemoId)] }, .moved true) := by
  rw [step]
  cases found : world.threads[id]? with
  | none => exact Or.inl rfl
  | some thread =>
    have member := List.mem_of_getElem? found
    rcases routing.phases thread member with first | run
    · obtain ⟨x, ofX, carries⟩ := routing.sound.threads thread member
      obtain ⟨initialized, cached⟩ := routing.routed x ofX
      rw [← carries.udn] at cached
      refine Or.inr ⟨thread, x, rfl, first, ofX, carries, ?_⟩
      simp [first, Adapter.commandStep_known initialized cached, DispatchThread.hasRun]
    · refine Or.inl ?_
      have idle := @step_thread_hasRun D _ world id thread found run now answers
      rwa [step, found] at idle

/-- **Every step keeps the routing**, whatever the engine answers. -/
theorem Routing.step (routing : world.Routing) (now : TimePoint) (input : WorldInput) :
    (world.step (now, input)).1.Routing := by
  have publishes := step_publishes_iff routing.sound.published now input
  cases input with
  | matter input =>
    refine ⟨routing.sound.step now _, ?_, ?_, ?_⟩
    · exact fun x ofX => routing.routed x ((publishes x).mp ofX)
    · intro thread member
      rcases List.mem_append.mp member with old | new
      · exact routing.phases thread old
      · exact Or.inl (spawn_carries routing.sound.published now input thread new).1
    · intro id action sent
      obtain ⟨thread, x, found, ofX, rest⟩ := routing.sent id action sent
      have below := (List.getElem?_eq_some_iff.mp found).1
      exact ⟨thread, x, (List.getElem?_append_left below).trans found, (publishes x).mpr ofX, rest⟩
  | thread id answers =>
    have sound := routing.sound.step now (.thread id answers)
    rcases routing.step_thread now id answers with
      idle | ⟨thread, x, found, first, ofX, carries, stepEq⟩
    · rw [idle]
      exact routing
    · rw [stepEq] at sound ⊢
      refine ⟨sound, routing.routed, ?_, ?_⟩
      · intro other member
        rcases List.mem_or_eq_of_mem_set member with old | rfl
        · exact routing.phases other old
        · exact Or.inr rfl
      · intro other action sent
        have below := (List.getElem?_eq_some_iff.mp found).1
        rcases List.mem_append.mp sent with old | last
        · obtain ⟨before, y, there, ofY, carriesY, actionEq⟩ := routing.sent other action old
          by_cases same : id = other
          · subst same
            obtain rfl : before = thread := Option.some.inj (there.symm.trans found)
            exact ⟨_, y, List.getElem?_set_self below, ofY, carriesY, actionEq⟩
          · exact ⟨before, y, (List.getElem?_set_ne same).trans there, ofY, carriesY, actionEq⟩
        · obtain ⟨rfl, rfl⟩ := Prod.mk.inj (List.mem_singleton.mp last)
          exact ⟨_, x, List.getElem?_set_self below, ofX, carries, rfl⟩

/-- **Every run keeps the routing.** -/
theorem Routing.run (routing : world.Routing) (inputs : List (TimePoint × WorldInput)) :
    ((worldMachine D).run world inputs).Routing :=
  (worldMachine D).run_invariant Routing
    (fun _ input before => before.step input.1 input.2) inputs routing

/-- Every run publishes the same lights, and keeps their wemo_ids distinct. -/
theorem Sound.run (sound : world.Sound) (inputs : List (TimePoint × WorldInput)) :
    let after := (worldMachine D).run world inputs
    (∀ x, after.bridge.Publishes x ↔ world.bridge.Publishes x) ∧
      (world.bridge.DistinctWemoIds → after.bridge.DistinctWemoIds) ∧ after.Sound := by
  refine (worldMachine D).run_invariant
    (fun after : World D => (∀ x, after.bridge.Publishes x ↔ world.bridge.Publishes x) ∧
      (world.bridge.DistinctWemoIds → after.bridge.DistinctWemoIds) ∧ after.Sound)
    ?_ inputs ⟨fun _ => Iff.rfl, id, sound⟩
  rintro before ⟨now, input⟩ ⟨publishes, distinct, soundBefore⟩
  refine ⟨fun x => ?_, fun start => ?_, soundBefore.step now input⟩
  · exact (step_publishes_iff soundBefore.published now input x).trans (publishes x)
  · cases input with
    | matter input => exact soundBefore.published.step_distinct now input (distinct start)
    | thread id answers =>
      show (before.step (now, .thread id answers)).1.bridge.DistinctWemoIds
      rw [step_thread_bridge]
      exact distinct start

end World

section Startup

variable {heap : Allocator} {lastFixed : EndpointId} {refuses : Nat → EndpointId → Bool}
  {weInit : Bool} {weListDevices : Option WeDeviceList} {world : World D}

/-- The start always ends. -/
theorem startup_ends (invalid : ∀ call, refuses call kInvalidEndpointId = true) :
    ∃ world : World D, startup heap lastFixed refuses weInit weListDevices = some world := by
  obtain ⟨bridge, ends⟩ := @applicationInit_ends D _ heap refuses lastFixed invalid
    (Adapter.fresh.discover weInit weListDevices).2
  exact ⟨_, Option.map_eq_some_iff.mpr ⟨bridge, ends, rfl⟩⟩

/-- **The world starts routed**, from a list with pairwise distinct non-empty UDNs. -/
theorem startup_routing {list : WeDeviceList}
    (invalid : ∀ call, refuses call kInvalidEndpointId = true)
    (udns : (list.listed.map (cStr ·.udn)).Nodup)
    (nonempty : ∀ info ∈ list.listed, cStr info.udn ≠ [])
    (starts : startup heap lastFixed refuses weInit (some list) = some world) :
    world.Routing := by
  obtain ⟨bridge, started, rfl⟩ := Option.map_eq_some_iff.mp starts
  have published := (applicationInit_started invalid started).1.published
  refine ⟨⟨published, by simp⟩, ?_, by simp, by simp⟩
  intro x ofX
  obtain ⟨dev, member, udn, wemoId, -⟩ := applicationInit_discovered invalid started ofX
  obtain ⟨found, sameList, discovered⟩ := Adapter.discover_of_mem member
  obtain rfl : list = found := Option.some.inj sameList
  have distinct : ((Adapter.fresh.discover weInit (some list)).2.map (·.udn)).Nodup := by
    rw [discovered, List.map_map]
    exact udns
  have dev_ne : dev.udn ≠ [] := by
    rw [discovered] at member
    obtain ⟨info, infoMember, rfl⟩ := List.mem_map.mp member
    exact nonempty info infoMember
  refine ⟨by rw [discovered], ?_⟩
  rw [udn, wemoId]
  exact Adapter.discover_cached distinct member dev_ne

/-- Distinct wemo_ids in the engine's list are distinct among the published lights. -/
theorem startup_distinct {list : WeDeviceList}
    (invalid : ∀ call, refuses call kInvalidEndpointId = true)
    (wemoIds : (list.listed.map (·.wemoId)).Nodup)
    (starts : startup heap lastFixed refuses weInit (some list) = some world) :
    world.bridge.DistinctWemoIds := by
  obtain ⟨bridge, started, rfl⟩ := Option.map_eq_some_iff.mp starts
  refine (applicationInit_started invalid started).2 ?_
  rcases Adapter.fresh.discover_cases weInit (some list) with empty | ⟨found, sameList, discovered⟩
  · rw [empty]
    exact List.nodup_nil
  · obtain rfl : list = found := Option.some.inj sameList
    rw [discovered, List.map_map]
    exact wemoIds

end Startup

/-! ### Commands and events agree -/

/-- The events with the wemo_id, and no others, are steps of the light. -/
def Bridge.UpdatedBy (bridge : Bridge D) (x : PublishedLight) (wemoId : Int) : Prop :=
  ∀ time ctx,
    (ctx.wemoId = wemoId → ∀ light, bridge.lightAt x.device = some light →
      (bridge.step (time, .event ctx)).1.lightAt x.device =
        some (light.step time (.event ctx)).1) ∧
    (ctx.wemoId ≠ wemoId →
      (bridge.step (time, .event ctx)).1.lightAt x.device = bridge.lightAt x.device)

theorem Bridge.Published.updatedBy {bridge : Bridge D} (published : bridge.Published)
    (distinct : bridge.DistinctWemoIds) {x : PublishedLight} (ofX : bridge.Publishes x) :
    bridge.UpdatedBy x x.wemoId := by
  refine fun time ctx => ⟨fun same light found => ?_, fun different => ?_⟩
  · exact (published.lightAt_step time (.event ctx) distinct ofX (by simpa [Input.isFor] using same)
      found).1
  · exact published.lightAt_step_other time (.event ctx) distinct ofX
      (by simpa [Input.isFor] using different)

/-- **Command and event routing agree.** From an engine list with pairwise distinct non-empty UDNs
and pairwise distinct wemo_ids, after any run of writes, reads and events on the Matter thread and
of dispatch threads, with whatever the engine answers and lists later on: every `we_set_action` was
sent by a thread that a write to a published light's endpoint spawned, and it is addressed to the
one wemo_id whose events update that light; they update no other light. -/
theorem command_routing {heap : Allocator} {lastFixed : EndpointId}
    {refuses : Nat → EndpointId → Bool} {weInit : Bool} {list : WeDeviceList} {world : World D}
    (invalid : ∀ call, refuses call kInvalidEndpointId = true)
    (udns : (list.listed.map (cStr ·.udn)).Nodup)
    (nonempty : ∀ info ∈ list.listed, cStr info.udn ≠ [])
    (wemoIds : (list.listed.map (·.wemoId)).Nodup)
    (starts : startup heap lastFixed refuses weInit (some list) = some world)
    (inputs : List (TimePoint × WorldInput)) :
    let after := (worldMachine D).run world inputs
    ∀ id action, (id, action) ∈ after.sent →
      ∃ thread x, after.threads[id]? = some thread ∧
        (∃ path buffer, thread.cause = .write x.endpoint path buffer) ∧
        world.bridge.Publishes x ∧ after.bridge.Publishes x ∧
        action.wemoId = x.wemoId ∧ after.bridge.UpdatedBy x action.wemoId ∧
        ∀ y, after.bridge.Publishes y → y ≠ x → y.wemoId ≠ action.wemoId ∧
          ∀ time ctx, ctx.wemoId = action.wemoId →
            (after.bridge.step (time, .event ctx)).1.lightAt y.device =
              after.bridge.lightAt y.device := by
  intro after id action sent
  have routing := startup_routing invalid udns nonempty starts
  obtain ⟨publishes, distinct, sound⟩ := routing.sound.run inputs
  have distinctAfter := distinct (startup_distinct invalid wemoIds starts)
  obtain ⟨thread, x, found, ofX, carries, rfl⟩ := (routing.run inputs).sent id action sent
  rw [Command.sendState_wemoId]
  refine ⟨thread, x, found, carries.cause_eq, (publishes x).mp ofX, ofX, rfl,
    sound.published.updatedBy distinctAfter ofX, fun y ofY other => ?_⟩
  have different : y.wemoId ≠ x.wemoId := fun same =>
    other (sound.published.eq_of_wemoId distinctAfter ofY ofX same)
  refine ⟨different, fun time ctx forX => ?_⟩
  exact (sound.published.updatedBy distinctAfter ofY time ctx).2 fun forY =>
    different (forY.symm.trans forX)

/-- The engine's list behind the sample home. -/
def sampleList : WeDeviceList :=
  { count := 2
    items :=
      [{ wemoId := 8, udn := literal "uuid:Socket", friendlyName := literal "Hall", deviceType := 1
         isOnline := 1, state := 1, level := -1 },
       { wemoId := 7, udn := literal "uuid:Dimmer", friendlyName := literal "Kitchen"
         deviceType := 4, isOnline := 1, state := 0, level := 50 }] }

def sampleWorld : World PlainDevice :=
  (startup nextAddress 2 refusesInvalid true (some sampleList)).getD
    { bridge := freshProcess, adapter := .fresh, threads := [], sent := [] }

theorem sampleWorld_starts :
    startup nextAddress 2 refusesInvalid true (some sampleList) = some sampleWorld := by
  obtain ⟨world, starts⟩ :=
    @startup_ends PlainDevice _ nextAddress 2 refusesInvalid true (some sampleList) fun _ => rfl
  rw [sampleWorld, starts, Option.getD_some]

theorem sampleWorld_publishes : sampleWorld.bridge.Publishes sampleDimmer where
  index_lt := by decide
  slot := by decide
  registered := by decide
  udn := by decide
  light := ⟨_, rfl, by decide, by decide, by decide, by decide, by decide⟩

/-- An engine that accepts every action, and lists nothing. -/
def willing : EngineAnswers := { weInit := true, weListDevices := none, weSetAction := true }

/-- The dimmer of the sample world is switched on; its thread sends to WeMo 7. -/
theorem command_routing_sample :
    ∃ x, sampleWorld.bridge.Publishes x ∧ 7 = x.wemoId := by
  obtain ⟨-, x, -, -, ofX, -, same, -⟩ :=
    command_routing (fun _ => rfl) (by decide) (by decide) (by decide) sampleWorld_starts
      [(0, .matter (.write 3 (.onOff .onOff) fun _ => 1)), (5, .thread 0 willing)] 0
      { wemoId := 7, state := 1, level := -1, isOnline := 1 } (by decide)
  exact ⟨x, ofX, same⟩

end WemoBridge
