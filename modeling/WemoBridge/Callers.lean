/-
**Device lists that go stale.**

Any number of threads in `Discover`, `SetOnOff` and `SetLevelPercent` on one adapter take their
steps in any order. A thread fetches its list outside the cache mutex and applies it under the mutex
later, so the lists are not applied in the order in which they were fetched.

`Callers.Tracks` reads the cache off the updates of the run: it is the start's under their layers,
and every thread that fetched a list and has returned has applied it once. So the UDNs of the list
applied last are always mapped as it says, and those of the list fetched last exactly if the updates
applied after its own agree with it (`newest_list_kept_iff`).
-/

import WemoBridge.Resolution

namespace WemoBridge

open Library

/-! ### Discover, step by step -/

/-- What a thread in `Discover` waits for: the engine, the list it fetches outside the mutex, and
the rebuild of the cache; or it has returned. -/
inductive DiscoverPhase where
  | start
  | fetch
  | rebuild (list : WeDeviceList)
  | returned (devices : List WemoDevice)
  deriving DecidableEq, Repr

namespace Adapter

/-- **One atomic step of `Discover`**: the part under the cache mutex, or one of those before it. -/
def discoverStep (adapter : Adapter) (answers : EngineAnswers) :
    DiscoverPhase → Adapter × DiscoverPhase
  | .start =>
      let adapter := adapter.ensureEngineInitialized answers.weInit
      (adapter, if adapter.initialized then .fetch else .returned [])
  | .fetch =>
      match answers.weListDevices with
      | none => (adapter, .returned [])
      | some list => (adapter, .rebuild list)
  | .rebuild list =>
      ({ adapter with mUdnToWemoId := cacheItems (fun _ => none) list.listed },
        .returned (list.listed.map wemoDeviceOf))
  | .returned devices => (adapter, .returned devices)

/-- The steps of a thread that is alone are `discover`. -/
theorem discover_eq_steps (adapter : Adapter) (answers : EngineAnswers) :
    let first := adapter.discoverStep answers .start
    let second := first.1.discoverStep answers first.2
    let discovered := adapter.discover answers.weInit answers.weListDevices
    second.1.discoverStep answers second.2 = (discovered.1, .returned discovered.2) := by
  unfold discover
  dsimp only [discoverStep]
  by_cases runs : (adapter.ensureEngineInitialized answers.weInit).initialized = true
  · rw [if_pos runs, if_pos runs]
    dsimp only
    cases answers.weListDevices <;> rfl
  · rw [if_neg runs, if_neg runs]

end Adapter

/-! ### Threads -/

/-- A thread in one of the three calls. -/
inductive Caller where
  | discover (phase : DiscoverPhase)
  | command (asked : Command) (phase : Phase)
  deriving DecidableEq, Repr

/-- A list applied to the cache: in its place by `Discover`, over it by a command. -/
structure CacheUpdate where
  list : WeDeviceList
  rebuilds : Bool
  deriving DecidableEq, Repr

/-- What a step does with a list. -/
inductive CallerEvent where
  | fetched (list : WeDeviceList)
  | updated (update : CacheUpdate)
  deriving DecidableEq, Repr

namespace CallerEvent

/-- The list a step fetched. -/
def list? : CallerEvent → Option WeDeviceList
  | .fetched list => some list
  | .updated _ => none

/-- The update a step made. -/
def update? : CallerEvent → Option CacheUpdate
  | .fetched _ => none
  | .updated update => some update

end CallerEvent

/-- How far a thread is with its list. -/
inductive Stage where
  | before
  | holding (list : WeDeviceList)
  | finished
  deriving DecidableEq, Repr

namespace Caller

/-- The next step of a thread, with the calls of `we_set_action` it makes. -/
def step (adapter : Adapter) (answers : EngineAnswers) : Caller → Adapter × Caller × List Action
  | .discover phase =>
      let stepped := adapter.discoverStep answers phase
      (stepped.1, .discover stepped.2, [])
  | .command asked phase =>
      let stepped := adapter.commandStep asked answers phase
      (stepped.1, .command asked stepped.2.1, stepped.2.2)

/-- `Discover` clears the cache before it applies its list. -/
def rebuilds : Caller → Bool
  | .discover _ => true
  | .command _ _ => false

def stage : Caller → Stage
  | .discover .start => .before
  | .discover .fetch => .before
  | .discover (.rebuild list) => .holding list
  | .discover (.returned _) => .finished
  | .command _ .lookup => .before
  | .command _ .fetch => .before
  | .command _ (.merge list) => .holding list
  | .command _ (.returned _) => .finished

/-- What the next step does with a list. -/
def event (answers : EngineAnswers) : Caller → Option CallerEvent
  | .discover .fetch => answers.weListDevices.map .fetched
  | .command _ .fetch => answers.weListDevices.map .fetched
  | .discover (.rebuild list) => some (.updated { list := list, rebuilds := true })
  | .command _ (.merge list) => some (.updated { list := list, rebuilds := false })
  | _ => none

/-- The call begins. -/
def AtStart (caller : Caller) : Prop :=
  caller = .discover .start ∨ ∃ asked, caller = .command asked .lookup

/-- The call has returned. -/
def Finished (caller : Caller) : Prop := caller.stage = .finished

instance (caller : Caller) : Decidable caller.Finished := inferInstanceAs (Decidable (_ = _))

end Caller

/-- An adapter and the threads that call it. -/
structure Callers where
  adapter : Adapter
  callers : List Caller
  sent : List Action

/-- The thread with this number takes a step, with what the engine answers at that moment. -/
def Callers.step (state : Callers) (input : Nat × EngineAnswers) : Callers × Option CallerEvent :=
  match state.callers[input.1]? with
  | none => (state, none)
  | some caller =>
    let stepped := caller.step state.adapter input.2
    ({ adapter := stepped.1
       callers := state.callers.set input.1 stepped.2.1
       sent := state.sent ++ stepped.2.2 }, caller.event input.2)

/-- **The threads in any order of steps.** -/
def callersMachine : Machine Callers (Nat × EngineAnswers) (Option CallerEvent) :=
  { step := Callers.step }

/-! ### What the steps did -/

/-- A step with what it did. -/
abbrev CallerStep := (Nat × EngineAnswers) × Option CallerEvent

/-- The list a step fetched, with the thread. -/
def CallerStep.fetch (entry : CallerStep) : Option (Nat × WeDeviceList) :=
  match entry.2 with
  | some (.fetched list) => some (entry.1.1, list)
  | _ => none

/-- The update a step made, with the thread. -/
def CallerStep.update (entry : CallerStep) : Option (Nat × CacheUpdate) :=
  match entry.2 with
  | some (.updated update) => some (entry.1.1, update)
  | _ => none

/-- The lists fetched, in order. -/
def fetches (past : List CallerStep) : List (Nat × WeDeviceList) := past.filterMap CallerStep.fetch

/-- The updates of the cache, in order. -/
def updates (past : List CallerStep) : List (Nat × CacheUpdate) := past.filterMap CallerStep.update

/-- The most recently fetched list. -/
def newestFetch (past : List CallerStep) : Option (Nat × WeDeviceList) := (fetches past).getLast?

/-- The most recently applied list. -/
def newestUpdate (past : List CallerStep) : Option CacheUpdate :=
  (updates past).getLast?.map Prod.snd

/-- The updates made after that of a thread. -/
def laterUpdates (id : Nat) (past : List CallerStep) : List CacheUpdate :=
  ((updates past).dropWhile (·.1 ≠ id)).tail.map Prod.snd

/-- The update says what the UDN is mapped to: it contains the UDN, or it cleared the cache. -/
def CacheUpdate.decides (udn : CppString) (update : CacheUpdate) : Bool :=
  update.rebuilds || (update.list.wemoIdOf udn).isSome

/-- The cache maps every UDN of the list to the wemo_id the list gives it. -/
def Adapter.Agrees (adapter : Adapter) (list : WeDeviceList) : Prop :=
  ∀ udn wemoId, udn ≠ [] → list.wemoIdOf udn = some wemoId →
    adapter.mUdnToWemoId udn = some wemoId

/-- **Later updates leave a list alone**: for every UDN of it, the last one that decides the UDN
gives it the same wemo_id. -/
def LeaveAlone (list : WeDeviceList) (later : List CacheUpdate) : Prop :=
  ∀ udn wemoId, udn ≠ [] → list.wemoIdOf udn = some wemoId →
    ∀ last, later.reverse.find? (·.decides udn) = some last → last.list.wemoIdOf udn = some wemoId

/-! ### Updates as layers -/

namespace CacheUpdate

/-- The update as a change of the cache. -/
def layer (update : CacheUpdate) : Layer CppString Int :=
  { table := cacheItems (fun _ => none) update.list.listed, replaces := update.rebuilds }

variable {update : CacheUpdate} {udn : CppString}

theorem layer_table (nonempty : udn ≠ []) : update.layer.table udn = update.list.wemoIdOf udn := by
  show cacheItems (fun _ => none) update.list.listed udn = _
  rw [cacheItems_listed _ _ nonempty, Option.or_none]

theorem layer_decides (nonempty : udn ≠ []) : update.layer.decides udn = update.decides udn := by
  rw [Layer.decides, layer_table nonempty]
  rfl

theorem layer_apply_rebuild (cache : UdnCache) (list : WeDeviceList) :
    (layer { list := list, rebuilds := true }).apply cache =
      cacheItems (fun _ => none) list.listed := rfl

theorem layer_apply_merge (cache : UdnCache) (list : WeDeviceList) :
    (layer { list := list, rebuilds := false }).apply cache = cacheItems cache list.listed :=
  (cacheItems_eq_overlay cache list.listed).symm

end CacheUpdate

/-! ### What a step of a thread can do -/

namespace Caller

variable (adapter : Adapter) (answers : EngineAnswers) (caller : Caller)

/-- A thread stays in its call. -/
theorem step_rebuilds : (caller.step adapter answers).2.1.rebuilds = caller.rebuilds := by
  cases caller <;> rfl

/-- **A step fetches a list, applies the one the thread holds, or does nothing with a list.** -/
theorem step_cases :
    (caller.event answers = none ∧
      (caller.step adapter answers).1.mUdnToWemoId = adapter.mUdnToWemoId ∧
      ((caller.step adapter answers).2.1.stage = caller.stage ∨
        caller.stage = .before ∧ (caller.step adapter answers).2.1.stage = .finished)) ∨
    (∃ list, caller.event answers = some (.fetched list) ∧
      (caller.step adapter answers).1.mUdnToWemoId = adapter.mUdnToWemoId ∧
      caller.stage = .before ∧ (caller.step adapter answers).2.1.stage = .holding list) ∨
    ∃ list, caller.event answers = some (.updated { list := list, rebuilds := caller.rebuilds }) ∧
      (caller.step adapter answers).1.mUdnToWemoId =
        (CacheUpdate.layer { list := list, rebuilds := caller.rebuilds }).apply
          adapter.mUdnToWemoId ∧
      caller.stage = .holding list ∧ (caller.step adapter answers).2.1.stage = .finished := by
  cases caller with
  | discover phase =>
    cases phase with
    | start =>
      refine Or.inl ⟨rfl, rfl, ?_⟩
      dsimp only [step, Adapter.discoverStep]
      split
      · exact Or.inl rfl
      · exact Or.inr ⟨rfl, rfl⟩
    | fetch =>
      dsimp only [step, Adapter.discoverStep, event]
      cases answers.weListDevices with
      | none => exact Or.inl ⟨rfl, rfl, Or.inr ⟨rfl, rfl⟩⟩
      | some list => exact Or.inr (Or.inl ⟨list, rfl, rfl, rfl, rfl⟩)
    | rebuild list =>
      exact Or.inr (Or.inr ⟨list, rfl, (CacheUpdate.layer_apply_rebuild _ list).symm, rfl, rfl⟩)
    | returned devices => exact Or.inl ⟨rfl, rfl, Or.inl rfl⟩
  | command asked phase =>
    cases phase with
    | lookup =>
      dsimp only [step, Adapter.commandStep, Adapter.lookupAndSend]
      split
      · split
        · exact Or.inl ⟨rfl, rfl, Or.inr ⟨rfl, rfl⟩⟩
        · exact Or.inl ⟨rfl, rfl, Or.inl rfl⟩
      · exact Or.inl ⟨rfl, rfl, Or.inr ⟨rfl, rfl⟩⟩
    | fetch =>
      dsimp only [step, Adapter.commandStep, event]
      cases answers.weListDevices with
      | none => exact Or.inl ⟨rfl, rfl, Or.inr ⟨rfl, rfl⟩⟩
      | some list => exact Or.inr (Or.inl ⟨list, rfl, rfl, rfl, rfl⟩)
    | merge list =>
      refine Or.inr (Or.inr ⟨list, rfl, (CacheUpdate.layer_apply_merge _ list).symm, rfl, ?_⟩)
      dsimp only [step, Adapter.commandStep, Adapter.lookupAndSend]
      split <;> rfl
    | returned sent => exact Or.inl ⟨rfl, rfl, Or.inl rfl⟩

/-- **A step puts its update on the cache.** -/
theorem step_cache : (caller.step adapter answers).1.mUdnToWemoId = layered adapter.mUdnToWemoId
    (((caller.event answers).bind CallerEvent.update?).toList.map CacheUpdate.layer) := by
  rcases caller.step_cases adapter answers with ⟨nothing, cache, -⟩ | ⟨list, fetched, cache, -⟩ |
    ⟨list, updated, cache, -⟩
  · rw [cache, nothing]
    rfl
  · rw [cache, fetched]
    rfl
  · rw [cache, updated]
    rfl

end Caller

/-! ### The invariant -/

/-- The entries of one thread. -/
def ofThread {α : Type} (id : Nat) (entries : List (Nat × α)) : List α :=
  (entries.filter (·.1 = id)).map Prod.snd

/-- **How far a thread is with its list**, by the lists it fetched and the updates it made. -/
inductive Progress : Option Caller → List WeDeviceList → List CacheUpdate → Prop where
  | absent : Progress none [] []
  | before {caller : Caller} (stage : caller.stage = .before) : Progress (some caller) [] []
  | holding {caller : Caller} {list : WeDeviceList} (stage : caller.stage = .holding list) :
      Progress (some caller) [list] []
  | unfetched {caller : Caller} (stage : caller.stage = .finished) : Progress (some caller) [] []
  | applied {caller : Caller} {list : WeDeviceList} (stage : caller.stage = .finished) :
      Progress (some caller) [list] [{ list := list, rebuilds := caller.rebuilds }]

/-- **The cache is the start's under the updates of the past**, and every thread has fetched and
applied as far as it is. -/
structure Callers.Tracks (start : UdnCache) (past : List CallerStep) (now : Callers) : Prop where
  cache : now.adapter.mUdnToWemoId = layered start ((updates past).map (·.2.layer))
  progress : ∀ id, Progress now.callers[id]? (ofThread id (fetches past))
    (ofThread id (updates past))

namespace Progress

variable {caller next : Caller} {lists : List WeDeviceList} {made : List CacheUpdate}

/-- No thread, no list. -/
theorem of_none (progress : Progress none lists made) : lists = [] := by
  cases progress with
  | absent => rfl

/-- A thread before its fetch has fetched and applied nothing. -/
theorem of_before (progress : Progress (some caller) lists made) (stage : caller.stage = .before) :
    lists = [] ∧ made = [] := by
  cases progress with
  | before _ => exact ⟨rfl, rfl⟩
  | holding other => cases stage.symm.trans other
  | unfetched _ => exact ⟨rfl, rfl⟩
  | applied other => cases stage.symm.trans other

/-- A thread that holds a list has fetched it and applied nothing. -/
theorem of_holding (progress : Progress (some caller) lists made) {list : WeDeviceList}
    (stage : caller.stage = .holding list) : lists = [list] ∧ made = [] := by
  cases progress with
  | before other => cases stage.symm.trans other
  | holding other =>
    cases stage.symm.trans other
    exact ⟨rfl, rfl⟩
  | unfetched other => cases stage.symm.trans other
  | applied other => cases stage.symm.trans other

/-- A thread that has returned has applied the list it fetched, once. -/
theorem of_finished (progress : Progress (some caller) lists made)
    (stage : caller.stage = .finished) {list : WeDeviceList} (fetched : list ∈ lists) :
    made = [{ list := list, rebuilds := caller.rebuilds }] := by
  cases progress with
  | before other => cases stage.symm.trans other
  | holding other => cases stage.symm.trans other
  | unfetched _ => cases fetched
  | applied _ => rw [List.mem_singleton.mp fetched]

/-- A step that does nothing with a list. -/
theorem quiet (progress : Progress (some caller) lists made)
    (rebuilds : next.rebuilds = caller.rebuilds)
    (stage : next.stage = caller.stage ∨ caller.stage = .before ∧ next.stage = .finished) :
    Progress (some next) lists made := by
  rcases stage with same | ⟨before, finished⟩
  · cases progress with
    | before stage => exact .before (same.trans stage)
    | holding stage => exact .holding (same.trans stage)
    | unfetched stage => exact .unfetched (same.trans stage)
    | applied stage =>
      rw [← rebuilds]
      exact .applied (same.trans stage)
  · obtain ⟨rfl, rfl⟩ := progress.of_before before
    exact .unfetched finished

/-- **A step keeps a thread's progress**, with what the step did. -/
theorem step (progress : Progress (some caller) lists made) (adapter : Adapter)
    (answers : EngineAnswers) :
    Progress (some (caller.step adapter answers).2.1)
      (lists ++ ((caller.event answers).bind CallerEvent.list?).toList)
      (made ++ ((caller.event answers).bind CallerEvent.update?).toList) := by
  have sameCall := caller.step_rebuilds adapter answers
  rcases caller.step_cases adapter answers with ⟨nothing, -, stage⟩ |
    ⟨list, fetched, -, before, holding⟩ | ⟨list, updated, -, holding, finished⟩
  · rw [nothing, Option.bind_none, Option.bind_none, Option.toList_none, Option.toList_none,
      List.append_nil, List.append_nil]
    exact progress.quiet sameCall stage
  · obtain ⟨rfl, rfl⟩ := progress.of_before before
    rw [fetched]
    exact .holding holding
  · obtain ⟨rfl, rfl⟩ := progress.of_holding holding
    rw [updated, ← sameCall]
    exact .applied finished

end Progress

section Tracking

variable {start : UdnCache} {past : List CallerStep} {now : Callers} {id : Nat}
  {answers : EngineAnswers} {caller : Caller}

/-- The fetches after one more step. -/
theorem fetches_concat (past : List CallerStep) (id : Nat) (answers : EngineAnswers)
    (event : Option CallerEvent) :
    fetches (past ++ [((id, answers), event)]) =
      fetches past ++ (event.bind CallerEvent.list?).toList.map (id, ·) := by
  rw [fetches, List.filterMap_append, fetches]
  rcases event with _ | list | update <;> rfl

/-- The updates after one more step. -/
theorem updates_concat (past : List CallerStep) (id : Nat) (answers : EngineAnswers)
    (event : Option CallerEvent) :
    updates (past ++ [((id, answers), event)]) =
      updates past ++ (event.bind CallerEvent.update?).toList.map (id, ·) := by
  rw [updates, List.filterMap_append, updates]
  rcases event with _ | list | update <;> rfl

theorem ofThread_append_self {α : Type} (id : Nat) (entries : List (Nat × α)) (items : List α) :
    ofThread id (entries ++ items.map (id, ·)) = ofThread id entries ++ items := by
  simp [ofThread, List.filter_map, Function.comp_def]

theorem ofThread_append_other {α : Type} {id other : Nat} (different : other ≠ id)
    (entries : List (Nat × α)) (items : List α) :
    ofThread id (entries ++ items.map (other, ·)) = ofThread id entries := by
  simp [ofThread, List.filter_map, Function.comp_def, different]

/-- The threads after a step of one of them. -/
theorem getElem?_step (found : now.callers[id]? = some caller) (other : Nat) :
    (now.step (id, answers)).1.callers[other]? =
      if other = id then some (caller.step now.adapter answers).2.1 else now.callers[other]? := by
  have below := (List.getElem?_eq_some_iff.mp found).1
  unfold Callers.step
  rw [found]
  dsimp only
  split
  · rename_i same
    rw [same, List.getElem?_set_self below]
  · rename_i different
    rw [List.getElem?_set_ne (Ne.symm different)]

theorem adapter_step (found : now.callers[id]? = some caller) :
    (now.step (id, answers)).1.adapter = (caller.step now.adapter answers).1 ∧
      (now.step (id, answers)).2 = caller.event answers := by
  unfold Callers.step
  rw [found]
  exact ⟨rfl, rfl⟩

/-- **A step keeps the cache and the threads tracked.** -/
theorem Callers.Tracks.step (tracks : now.Tracks start past) (input : Nat × EngineAnswers) :
    (now.step input).1.Tracks start (past ++ [(input, (now.step input).2)]) := by
  obtain ⟨id, answers⟩ := input
  cases found : now.callers[id]? with
  | none =>
    have stays : now.step (id, answers) = (now, none) := by
      unfold Callers.step
      rw [found]
    rw [stays]
    constructor
    · rw [updates_concat]
      exact tracks.cache.trans (by simp)
    · intro other
      rw [fetches_concat, updates_concat]
      simpa using tracks.progress other
  | some caller =>
    obtain ⟨adapter, event⟩ := @adapter_step now id answers caller found
    constructor
    · rw [adapter, event, caller.step_cache, tracks.cache, updates_concat, List.map_append,
        List.map_map, layered, layered, layered, List.foldl_append]
      rfl
    · intro other
      have progress := tracks.progress other
      rw [getElem?_step found, event, fetches_concat, updates_concat]
      by_cases here : other = id
      · rw [here, found] at progress
        rw [if_pos here, here, ofThread_append_self, ofThread_append_self]
        exact progress.step now.adapter answers
      · rw [if_neg here, ofThread_append_other (Ne.symm here), ofThread_append_other (Ne.symm here)]
        exact progress

end Tracking

/-! ### The newest lists -/

section Newest

variable {past : List CallerStep}

/-- The entries after the first one of a thread. -/
theorem exists_eq_append_of_ofThread {α : Type} {id : Nat} {item : α} {more : List α} :
    ∀ {entries : List (Nat × α)}, ofThread id entries = item :: more →
      ∃ earlier, entries = earlier ++ (id, item) :: (entries.dropWhile (·.1 ≠ id)).tail := by
  intro entries
  induction entries with
  | nil => exact fun first => by cases first
  | cons entry rest ih =>
    intro first
    by_cases here : entry.1 = id
    · have head : entry = (id, item) := by
        refine Prod.ext here ?_
        simp only [ofThread, List.filter_cons, here, decide_true, if_true, List.map_cons,
          List.cons.injEq] at first
        exact first.1
      refine ⟨[], ?_⟩
      rw [List.dropWhile_cons_of_neg (by simpa using here), List.tail_cons, head]
      rfl
    · have later : ofThread id rest = item :: more := by
        simpa only [ofThread, List.filter_cons, here, decide_false, Bool.false_eq_true,
          if_false] using first
      obtain ⟨earlier, split⟩ := ih later
      refine ⟨entry :: earlier, ?_⟩
      rw [List.dropWhile_cons_of_pos (by simpa using here), List.cons_append, ← split]

/-- **An update is still in the cache exactly if the later ones leave it alone.** -/
theorem layered_updates_iff {update : CacheUpdate} {udn : CppString} {wemoId : Int}
    (nonempty : udn ≠ []) (gives : update.list.wemoIdOf udn = some wemoId) (older : UdnCache)
    (later : List CacheUpdate) :
    layered (update.layer.apply older) (later.map CacheUpdate.layer) udn = some wemoId ↔
      ∀ last, later.reverse.find? (·.decides udn) = some last →
        last.list.wemoIdOf udn = some wemoId := by
  have decides : (fun update : CacheUpdate => update.layer.decides udn) = (·.decides udn) :=
    funext fun _ => CacheUpdate.layer_decides nonempty
  rw [layered_keeps_iff ((CacheUpdate.layer_table nonempty).trans gives), ← List.map_reverse,
    List.find?_map]
  show (∀ last, (later.reverse.find? fun update => update.layer.decides udn).map _ = _ → _) ↔ _
  rw [decides]
  cases later.reverse.find? (·.decides udn) with
  | none => simp
  | some last => simp [CacheUpdate.layer_table nonempty]

/-- A list is still in the cache exactly if the updates after its own leave it alone. -/
theorem Callers.Tracks.agrees_iff {start : UdnCache} {now : Callers} (tracks : now.Tracks start past)
    {earlier later : List (Nat × CacheUpdate)} {id : Nat} {update : CacheUpdate}
    (split : updates past = earlier ++ (id, update) :: later) :
    now.adapter.Agrees update.list ↔ LeaveAlone update.list (later.map Prod.snd) := by
  have cache : now.adapter.mUdnToWemoId =
      layered (update.layer.apply (layered start (earlier.map (·.2.layer))))
        ((later.map Prod.snd).map CacheUpdate.layer) := by
    rw [tracks.cache, split, List.map_append, List.map_cons, layered, List.foldl_append,
      List.foldl_cons, List.map_map]
    rfl
  unfold Adapter.Agrees LeaveAlone
  rw [cache]
  refine forall_congr' fun udn => forall_congr' fun wemoId => ?_
  refine imp_congr_right fun nonempty => imp_congr_right fun gives => ?_
  exact layered_updates_iff nonempty gives _ _

/-- **The list applied last is in the cache.** -/
theorem Callers.Tracks.agrees_newestUpdate {start : UdnCache} {now : Callers}
    (tracks : now.Tracks start past) {update : CacheUpdate}
    (newest : newestUpdate past = some update) : now.adapter.Agrees update.list := by
  obtain ⟨⟨id, last⟩, isLast, rfl⟩ := Option.map_eq_some_iff.mp newest
  have split : updates past = (updates past).dropLast ++ [(id, last)] :=
    (List.dropLast_append_getLast? _ isLast).symm
  refine (tracks.agrees_iff split).mpr fun udn wemoId nonempty gives later found => ?_
  cases found

/-- **The list fetched last is in the cache exactly if the updates after its own leave it alone**,
when all calls have returned: then its thread has applied it, once. -/
theorem Callers.Tracks.agrees_newestFetch_iff {start : UdnCache} {now : Callers}
    (tracks : now.Tracks start past) (finished : ∀ caller ∈ now.callers, caller.Finished) {id : Nat}
    {list : WeDeviceList} (newest : newestFetch past = some (id, list)) :
    now.adapter.Agrees list ↔ LeaveAlone list (laterUpdates id past) := by
  have fetched : list ∈ ofThread id (fetches past) := by
    refine List.mem_map.mpr ⟨(id, list), List.mem_filter.mpr ⟨?_, by simp⟩, rfl⟩
    exact List.mem_of_getLast? newest
  have progress := tracks.progress id
  cases found : now.callers[id]? with
  | none =>
    rw [found] at progress
    rw [progress.of_none] at fetched
    cases fetched
  | some caller =>
    rw [found] at progress
    have made := progress.of_finished (finished caller (List.mem_of_getElem? found)) fetched
    obtain ⟨earlier, split⟩ := exists_eq_append_of_ofThread made
    have kept := tracks.agrees_iff split
    exact kept

/-- Threads that begin have done nothing with a list. -/
theorem Callers.tracks_start {start : Callers}
    (begins : ∀ caller ∈ start.callers, caller.AtStart) :
    start.Tracks start.adapter.mUdnToWemoId [] := by
  refine ⟨rfl, fun id => ?_⟩
  cases found : start.callers[id]? with
  | none => exact .absent
  | some caller =>
    refine .before ?_
    rcases begins caller (List.mem_of_getElem? found) with rfl | ⟨asked, rfl⟩
    · rfl
    · rfl

end Newest

/-- **Exactly when a stale list does not overwrite a newer one.** Whatever calls the threads make,
whatever lists the engine has when they fetch, and in whatever order their steps are taken, every
UDN of the list applied last is mapped to the wemo_id that list gives it. Once all calls have
returned, every UDN of the list fetched last is mapped to the wemo_id that list gives it exactly if
the updates made after its own leave it alone. -/
theorem newest_list_kept_iff {start : Callers} (begins : ∀ caller ∈ start.callers, caller.AtStart)
    (steps : List (Nat × EngineAnswers)) :
    let past := callersMachine.history start steps
    let now := callersMachine.run start steps
    (∀ update, newestUpdate past = some update → now.adapter.Agrees update.list) ∧
      ((∀ caller ∈ now.callers, caller.Finished) → ∀ id list, newestFetch past = some (id, list) →
        (now.adapter.Agrees list ↔ LeaveAlone list (laterUpdates id past))) := by
  intro past now
  have tracks : now.Tracks start.adapter.mUdnToWemoId past :=
    callersMachine.history_invariant
      (fun past now => Callers.Tracks start.adapter.mUdnToWemoId past now)
      (fun past now input tracks => tracks.step input) steps (Callers.tracks_start begins)
  constructor
  · intro update newest
    exact tracks.agrees_newestUpdate newest
  · intro finished id list newest
    exact tracks.agrees_newestFetch_iff finished newest

/-! ### Two misses for one lamp -/

/-- Two threads that switch the lamp, from an empty cache. -/
def twoSwitches : Callers :=
  { adapter := Adapter.fresh
    callers := [.command (.setOnOff (literal "uuid:Lamp") true) .lookup,
      .command (.setOnOff (literal "uuid:Lamp") false) .lookup]
    sent := [] }

theorem twoSwitches_begin : ∀ caller ∈ twoSwitches.callers, caller.AtStart := by
  intro caller member
  rcases List.mem_pair.mp member with rfl | rfl
  · exact Or.inr ⟨_, rfl⟩
  · exact Or.inr ⟨_, rfl⟩

/-- The engine lists the lamp, alone, under a wemo_id. -/
def lampListed (wemoId : Int) : EngineAnswers :=
  { weInit := true, weListDevices := some (listOf [listedSocket wemoId "uuid:Lamp"])
    weSetAction := true }

/-- Both threads miss; the first fetches the lamp as WeMo 1, the second as WeMo 2, the second
applies its list, and the first applies its own after that. -/
def staleSteps : List (Nat × EngineAnswers) :=
  [(0, lampListed 1), (1, lampListed 1), (0, lampListed 1), (1, lampListed 2), (1, lampListed 2),
    (0, lampListed 2)]

/-- **The stale list wins**: all calls have returned, the list fetched last has the lamp as WeMo 2,
and the cache maps it to WeMo 1. -/
theorem stale_list_wins :
    (∀ caller ∈ twoSwitches.callers, caller.AtStart) ∧
      (∀ caller ∈ (callersMachine.run twoSwitches staleSteps).callers, caller.Finished) ∧
      newestFetch (callersMachine.history twoSwitches staleSteps) =
        some (1, listOf [listedSocket 2 "uuid:Lamp"]) ∧
      ¬ (callersMachine.run twoSwitches staleSteps).adapter.Agrees
        (listOf [listedSocket 2 "uuid:Lamp"]) ∧
      (callersMachine.run twoSwitches staleSteps).adapter.mUdnToWemoId (literal "uuid:Lamp") =
        some 1 := by
  refine ⟨twoSwitches_begin, by decide, by decide, fun agrees => ?_, by decide⟩
  have newer := agrees (literal "uuid:Lamp") 2 (by decide) (by decide)
  revert newer
  decide

/-- The same steps with the updates in the order of the fetches. -/
def orderedSteps : List (Nat × EngineAnswers) :=
  [(0, lampListed 1), (1, lampListed 1), (0, lampListed 1), (1, lampListed 2), (0, lampListed 2),
    (1, lampListed 2)]

/-- Then the newer list is kept. -/
theorem newest_list_kept_iff_sample :
    (callersMachine.run twoSwitches orderedSteps).adapter.Agrees
      (listOf [listedSocket 2 "uuid:Lamp"]) := by
  refine ((newest_list_kept_iff twoSwitches_begin orderedSteps).2 (by decide) 1 _ (by decide)).mpr ?_
  intro udn wemoId _ _ last found
  rw [show laterUpdates 1 (callersMachine.history twoSwitches orderedSteps) = [] by decide] at found
  cases found

end WemoBridge
