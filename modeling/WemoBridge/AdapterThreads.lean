/-
**The adapter's threads, statement by statement.**

`Discover`, `Refresh`, `RegisterStateCallback`, `SetOnOff` and `SetLevelPercent` with their two
mutexes: `init_lock` around `EnsureEngineInitialized`, `mCacheMutex` around the cache. Every step is
one statement of the source that reads or writes what a mutex guards, one item of a caching loop, or
one call of the engine; the threads take their steps in any order.

`Callers` treats what a call does under one hold of the cache mutex as one step and initialises the
engine in passing. `interleavings_refine` is why that is sound: after any steps of the threads there
is a run of `callersMachine` with the same results, the same calls of `we_set_action` in the same
order, and the same cache whenever no thread holds its mutex.
-/

import WemoBridge.Callers
import WemoBridge.IpcTarget
import WemoBridge.Library.Mutex

namespace WemoBridge

open Library
open Library.Sections (Atomic Threads)

/-! ### What the mutexes guard -/

/-- The mutexes of the adapter: the one in `EnsureEngineInitialized` and that of the cache. -/
inductive AdapterMutex where
  | initLock
  | cacheMutex
  deriving DecidableEq, Repr

/-- The static variables of `EnsureEngineInitialized`. -/
structure EngineStatus where
  targetConfigured : Bool
  initialized : Bool
  deriving DecidableEq, Repr

/-- The cache; every call of `we_set_action` is made under its mutex, so the calls made so far are
kept with it. -/
structure CacheStatus where
  mUdnToWemoId : UdnCache
  sent : List Action

abbrev AdapterMutex.Guarded : AdapterMutex → Type
  | .initLock => EngineStatus
  | .cacheMutex => CacheStatus

/-- A call of the engine, with what it answers where the adapter depends on it. -/
inductive EngineCall where
  | setIpcTarget (host : CppString) (port : Int)
  | init (answer : Bool)
  | discover
  | listDevices (answer : Option WeDeviceList)
  | setAction (action : Action)
  | registerEventCallback
  deriving DecidableEq, Repr

/-! ### Where a thread is -/

/-- The calls that fetch a device list. -/
inductive Lister where
  | discover
  | command (asked : Command)
  deriving DecidableEq, Repr

/-- The methods of the adapter. -/
inductive Method where
  | lister (lister : Lister)
  | refresh
  | registerStateCallback
  deriving DecidableEq, Repr

/-- What a call returns; a command with what was asked. -/
inductive CallResult where
  | devices (devices : List WemoDevice)
  | sent (asked : Command) (sent : Bool)
  | nothing
  deriving DecidableEq, Repr

/-- What a call returns without a device list. -/
def Lister.refused : Lister → CallResult
  | .discover => .devices []
  | .command asked => .sent asked false

/-- What a call returns if the engine is not initialised. -/
def Method.refused : Method → CallResult
  | .lister call => call.refused
  | .refresh => .nothing
  | .registerStateCallback => .nothing

/-- A thread outside the two mutexes: before `EnsureEngineInitialized`, after it returned true, after
a command's first look into the cache failed, after `we_discover`, with a device list, or at the
end. -/
inductive AdapterPlace where
  | begins (method : Method)
  | ensured (method : Method)
  | missed (asked : Command)
  | discovered (lister : Lister)
  | listed (lister : Lister) (list : WeDeviceList)
  | returned (result : CallResult)
  deriving DecidableEq, Repr

/-- A thread that holds `init_lock`. -/
inductive EnsurePlace where
  | check (method : Method)
  | configure (method : Method)
  | weInit (method : Method)
  deriving DecidableEq, Repr

/-- A thread that holds the cache mutex: the first look, `clear`, the two caching loops with the
items to come, the second look, and `SendState`. -/
inductive CachePlace where
  | lookup (asked : Command)
  | clear (list : WeDeviceList)
  | rebuild (rest : List WeDeviceInfo) (devices : List WemoDevice)
  | merge (rest : List WeDeviceInfo) (asked : Command)
  | retry (asked : Command)
  | send (asked : Command) (wemoId : Int)
  deriving DecidableEq, Repr

abbrev AdapterMutex.Inside : AdapterMutex → Type
  | .initLock => EnsurePlace
  | .cacheMutex => CachePlace

/-! ### The statements -/

/-- The mutex a thread takes next. -/
def AdapterPlace.takes : AdapterPlace → Option (Sigma AdapterMutex.Inside)
  | .begins method => some ⟨.initLock, .check method⟩
  | .ensured (.lister (.command asked)) => some ⟨.cacheMutex, .lookup asked⟩
  | .listed .discover list => some ⟨.cacheMutex, .clear list⟩
  | .listed (.command asked) list => some ⟨.cacheMutex, .merge list.listed asked⟩
  | _ => none

/-- A statement outside the mutexes; where `takes` names a mutex there is none. -/
def AdapterPlace.alone (answers : EngineAnswers) :
    AdapterPlace → AdapterPlace × Option EngineCall
  | .ensured (.lister .discover) => (.discovered .discover, some .discover)
  | .ensured .refresh => (.returned .nothing, some .discover)
  | .ensured .registerStateCallback => (.returned .nothing, some .registerEventCallback)
  | .missed asked => (.discovered (.command asked), some .discover)
  | .discovered lister =>
      (match answers.weListDevices with
        | none => .returned lister.refused
        | some list => .listed lister list, some (.listDevices answers.weListDevices))
  | place => (place, none)

/-- A statement of `EnsureEngineInitialized`. -/
def EnsurePlace.step (engineSocket : CppString) (status : EngineStatus) (answers : EngineAnswers) :
    EnsurePlace → EngineStatus × (EnsurePlace ⊕ AdapterPlace) × Option EngineCall
  | .check method =>
      (status,
        if status.initialized then .inr (.ensured method)
        else .inl (if status.targetConfigured then .weInit method else .configure method), none)
  | .configure method =>
      ({ status with targetConfigured := true }, .inl (.weInit method),
        (maybeConfigureIpcTarget engineSocket).map fun target => .setIpcTarget target.1 target.2)
  | .weInit method =>
      ({ status with initialized := answers.weInit },
        .inr (if answers.weInit then .ensured method else .returned method.refused),
        some (.init answers.weInit))

/-- A statement under the cache mutex. -/
def CachePlace.step (status : CacheStatus) (answers : EngineAnswers) :
    CachePlace → CacheStatus × (CachePlace ⊕ AdapterPlace) × Option EngineCall
  | .lookup asked =>
      (status,
        match status.mUdnToWemoId asked.udn with
        | some wemoId => .inl (.send asked wemoId)
        | none => .inr (.missed asked), none)
  | .clear list =>
      ({ status with mUdnToWemoId := fun _ => none }, .inl (.rebuild list.listed []), none)
  | .rebuild [] devices => (status, .inr (.returned (.devices devices)), none)
  | .rebuild (info :: rest) devices =>
      ({ status with mUdnToWemoId := cacheItem status.mUdnToWemoId info },
        .inl (.rebuild rest (devices ++ [wemoDeviceOf info])), none)
  | .merge [] asked => (status, .inl (.retry asked), none)
  | .merge (info :: rest) asked =>
      ({ status with mUdnToWemoId := cacheItem status.mUdnToWemoId info }, .inl (.merge rest asked),
        none)
  | .retry asked =>
      (status,
        match status.mUdnToWemoId asked.udn with
        | some wemoId => .inl (.send asked wemoId)
        | none => .inr (.returned (.sent asked false)), none)
  | .send asked wemoId =>
      ({ status with sent := status.sent ++ [asked.sendState wemoId] },
        .inr (.returned (.sent asked answers.weSetAction)), some (.setAction (asked.sendState wemoId)))

/-- **The methods of the adapter**, for a socket. -/
def adapterSections (engineSocket : CppString) :
    Sections AdapterMutex AdapterMutex.Guarded AdapterMutex.Inside AdapterPlace EngineAnswers
      EngineCall where
  takes := AdapterPlace.takes
  alone place answers := place.alone answers
  within mutex status place answers :=
    match mutex, status, place with
    | .initLock, status, place => place.step engineSocket status answers
    | .cacheMutex, status, place => place.step status answers

/-- The adapter's threads. -/
abbrev AdapterThreads := Threads AdapterMutex.Guarded AdapterMutex.Inside AdapterPlace

/-- The threads between whole sections. -/
abbrev AdapterSections := Atomic AdapterMutex.Guarded AdapterPlace

/-! ### Whole sections -/

section Whole

variable {engineSocket : CppString} {next : AdapterPlace}

/-- **`EnsureEngineInitialized` as a whole**: the engine is initialised, or it was not and is not. -/
theorem ensure_completes {status after : EngineStatus} {method : Method}
    (completes : Sections.Completes (adapterSections engineSocket) .initLock
      (status, .check method) after next) :
    after.initialized = true ∧ next = .ensured method ∨
      status.initialized = false ∧ after.initialized = false ∧
        next = .returned method.refused := by
  refine completes.rule
    (fun now => now = (status, .check method) ∨ status.initialized = false ∧
      now.1.initialized = false ∧ (now.2 = .configure method ∨ now.2 = .weInit method))
    (fun after next => after.initialized = true ∧ next = .ensured method ∨
      status.initialized = false ∧ after.initialized = false ∧ next = .returned method.refused)
    (Or.inl rfl) ?_ ?_
  · rintro ⟨now, place⟩ ⟨later, there⟩ inv ⟨answers, call, stepped⟩
    rcases inv with same | ⟨before, off, rfl | rfl⟩
    · cases same
      by_cases ready : status.initialized = true
      · simp [adapterSections, EnsurePlace.step, ready] at stepped
      · rw [Bool.not_eq_true] at ready
        simp only [adapterSections, EnsurePlace.step, ready, Bool.false_eq_true, if_false,
          Prod.mk.injEq, Sum.inl.injEq] at stepped
        obtain ⟨rfl, rfl, -⟩ := stepped
        refine Or.inr ⟨ready, ready, ?_⟩
        dsimp only
        split
        · exact Or.inr rfl
        · exact Or.inl rfl
    · simp only [adapterSections, EnsurePlace.step, Prod.mk.injEq, Sum.inl.injEq] at stepped
      obtain ⟨rfl, rfl, -⟩ := stepped
      exact Or.inr ⟨before, off, Or.inr rfl⟩
    · simp [adapterSections, EnsurePlace.step] at stepped
  · rintro ⟨now, place⟩ answers after next call inv left
    rcases inv with same | ⟨before, off, rfl | rfl⟩
    · cases same
      by_cases ready : status.initialized = true
      · simp only [adapterSections, EnsurePlace.step, ready, if_true, Prod.mk.injEq,
          Sum.inr.injEq] at left
        obtain ⟨rfl, rfl, -⟩ := left
        exact Or.inl ⟨ready, rfl⟩
      · simp [adapterSections, EnsurePlace.step, ready] at left
    · simp [adapterSections, EnsurePlace.step] at left
    · simp only [adapterSections, EnsurePlace.step, Prod.mk.injEq, Sum.inr.injEq] at left
      obtain ⟨rfl, rfl, -⟩ := left
      cases answers.weInit with
      | true => exact Or.inl ⟨rfl, rfl⟩
      | false => exact Or.inr ⟨before, rfl, rfl⟩

/-- The outcome of a look into the cache: the command is sent to the WeMo the UDN is mapped to, or
there is none and the thread goes on as `missed`. -/
def LooksUp (status : CacheStatus) (asked : Command) (missed : AdapterPlace) (after : CacheStatus)
    (next : AdapterPlace) : Prop :=
  (∃ wemoId sent, status.mUdnToWemoId asked.udn = some wemoId ∧
    after = { status with sent := status.sent ++ [asked.sendState wemoId] } ∧
    next = .returned (.sent asked sent)) ∨
  status.mUdnToWemoId asked.udn = none ∧ after = status ∧ next = missed

/-- **The first look as a whole.** -/
theorem lookup_completes {status after : CacheStatus} {asked : Command}
    (completes : Sections.Completes (adapterSections engineSocket) .cacheMutex
      (status, .lookup asked) after next) : LooksUp status asked (.missed asked) after next := by
  refine completes.rule
    (fun now => now = (status, .lookup asked) ∨ ∃ wemoId,
      status.mUdnToWemoId asked.udn = some wemoId ∧ now = (status, .send asked wemoId))
    (LooksUp status asked (.missed asked)) (Or.inl rfl) ?_ ?_
  · rintro now ⟨later, there⟩ inv ⟨answers, call, stepped⟩
    rcases inv with rfl | ⟨wemoId, found, rfl⟩
    · cases found : status.mUdnToWemoId asked.udn with
      | none => simp [adapterSections, CachePlace.step, found] at stepped
      | some wemoId =>
        simp only [adapterSections, CachePlace.step, found, Prod.mk.injEq, Sum.inl.injEq] at stepped
        obtain ⟨rfl, rfl, -⟩ := stepped
        exact Or.inr ⟨wemoId, rfl, rfl⟩
    · simp [adapterSections, CachePlace.step] at stepped
  · rintro now answers after next call inv left
    rcases inv with rfl | ⟨wemoId, found, rfl⟩
    · cases found : status.mUdnToWemoId asked.udn with
      | none =>
        simp only [adapterSections, CachePlace.step, found, Prod.mk.injEq, Sum.inr.injEq] at left
        obtain ⟨rfl, rfl, -⟩ := left
        exact Or.inr ⟨found, rfl, rfl⟩
      | some wemoId => simp [adapterSections, CachePlace.step, found] at left
    · simp only [adapterSections, CachePlace.step, Prod.mk.injEq, Sum.inr.injEq] at left
      obtain ⟨rfl, rfl, -⟩ := left
      exact Or.inl ⟨wemoId, answers.weSetAction, found, rfl, rfl⟩

/-- The cache with some items applied. -/
def CacheStatus.apply (status : CacheStatus) (items : List WeDeviceInfo) : CacheStatus :=
  { status with mUdnToWemoId := cacheItems status.mUdnToWemoId items }

/-- One more item. -/
theorem CacheStatus.apply_concat (status : CacheStatus) (items : List WeDeviceInfo)
    (info : WeDeviceInfo) : status.apply (items ++ [info]) =
      { status.apply items with
        mUdnToWemoId := cacheItem (status.apply items).mUdnToWemoId info } := by
  simp [CacheStatus.apply, cacheItems]

/-- **The merge of a list and the second look as a whole.** The invariant of the loop: the items that
are not to come have been applied. -/
theorem merge_completes {status after : CacheStatus} {asked : Command} {items : List WeDeviceInfo}
    (completes : Sections.Completes (adapterSections engineSocket) .cacheMutex
      (status, .merge items asked) after next) :
    LooksUp (status.apply items) asked (.returned (.sent asked false)) after next := by
  refine completes.rule
    (fun now => (∃ applied rest, items = applied ++ rest ∧
        now = (status.apply applied, .merge rest asked)) ∨
      now = (status.apply items, .retry asked) ∨ ∃ wemoId,
        (status.apply items).mUdnToWemoId asked.udn = some wemoId ∧
          now = (status.apply items, .send asked wemoId))
    (LooksUp (status.apply items) asked (.returned (.sent asked false)))
    (Or.inl ⟨[], items, rfl, rfl⟩) ?_ ?_
  · rintro now ⟨later, there⟩ inv ⟨answers, call, stepped⟩
    rcases inv with ⟨applied, _ | ⟨info, rest⟩, all, rfl⟩ | rfl | ⟨wemoId, found, rfl⟩
    · rw [List.append_nil] at all
      simp only [adapterSections, CachePlace.step, Prod.mk.injEq, Sum.inl.injEq] at stepped
      obtain ⟨rfl, rfl, -⟩ := stepped
      exact Or.inr (Or.inl (by rw [all]))
    · simp only [adapterSections, CachePlace.step, Prod.mk.injEq, Sum.inl.injEq] at stepped
      obtain ⟨rfl, rfl, -⟩ := stepped
      refine Or.inl ⟨applied ++ [info], rest, by rw [all, List.append_assoc]; rfl, ?_⟩
      rw [CacheStatus.apply_concat]
    · cases found : (status.apply items).mUdnToWemoId asked.udn with
      | none => simp [adapterSections, CachePlace.step, found] at stepped
      | some wemoId =>
        simp only [adapterSections, CachePlace.step, found, Prod.mk.injEq, Sum.inl.injEq] at stepped
        obtain ⟨rfl, rfl, -⟩ := stepped
        exact Or.inr (Or.inr ⟨wemoId, rfl, rfl⟩)
    · simp [adapterSections, CachePlace.step] at stepped
  · rintro now answers after next call inv left
    rcases inv with ⟨applied, _ | ⟨info, rest⟩, all, rfl⟩ | rfl | ⟨wemoId, found, rfl⟩
    · simp [adapterSections, CachePlace.step] at left
    · simp [adapterSections, CachePlace.step] at left
    · cases found : (status.apply items).mUdnToWemoId asked.udn with
      | none =>
        simp only [adapterSections, CachePlace.step, found, Prod.mk.injEq, Sum.inr.injEq] at left
        obtain ⟨rfl, rfl, -⟩ := left
        exact Or.inr ⟨found, rfl, rfl⟩
      | some wemoId => simp [adapterSections, CachePlace.step, found] at left
    · simp only [adapterSections, CachePlace.step, Prod.mk.injEq, Sum.inr.injEq] at left
      obtain ⟨rfl, rfl, -⟩ := left
      exact Or.inl ⟨wemoId, answers.weSetAction, found, rfl, rfl⟩

/-- **The rebuild of the cache as a whole.** -/
theorem rebuild_completes {status after : CacheStatus} {list : WeDeviceList}
    (completes : Sections.Completes (adapterSections engineSocket) .cacheMutex
      (status, .clear list) after next) :
    after = { status with mUdnToWemoId := cacheItems (fun _ => none) list.listed } ∧
      next = .returned (.devices (list.listed.map wemoDeviceOf)) := by
  let cleared : CacheStatus := { status with mUdnToWemoId := fun _ => none }
  refine completes.rule
    (fun now => now = (status, .clear list) ∨ ∃ applied rest, list.listed = applied ++ rest ∧
      now = (cleared.apply applied, .rebuild rest (applied.map wemoDeviceOf)))
    (fun after next => after = cleared.apply list.listed ∧
      next = .returned (.devices (list.listed.map wemoDeviceOf)))
    (Or.inl rfl) ?_ ?_
  · rintro now ⟨later, there⟩ inv ⟨answers, call, stepped⟩
    rcases inv with rfl | ⟨applied, _ | ⟨info, rest⟩, all, rfl⟩
    · simp only [adapterSections, CachePlace.step, Prod.mk.injEq, Sum.inl.injEq] at stepped
      obtain ⟨rfl, rfl, -⟩ := stepped
      exact Or.inr ⟨[], list.listed, rfl, rfl⟩
    · simp [adapterSections, CachePlace.step] at stepped
    · simp only [adapterSections, CachePlace.step, Prod.mk.injEq, Sum.inl.injEq] at stepped
      obtain ⟨rfl, rfl, -⟩ := stepped
      refine Or.inr ⟨applied ++ [info], rest, by rw [all, List.append_assoc]; rfl, ?_⟩
      rw [CacheStatus.apply_concat, List.map_append]
      rfl
  · rintro now answers after next call inv left
    rcases inv with rfl | ⟨applied, _ | ⟨info, rest⟩, all, rfl⟩
    · simp [adapterSections, CachePlace.step] at left
    · rw [List.append_nil] at all
      simp only [adapterSections, CachePlace.step, Prod.mk.injEq, Sum.inr.injEq] at left
      obtain ⟨rfl, rfl, -⟩ := left
      rw [all]
      exact ⟨rfl, rfl⟩
    · simp [adapterSections, CachePlace.step] at left

end Whole

/-! ### The threads as `Callers` sees them -/

/-- A thread in a call that does not touch the cache. -/
def Caller.idle : Caller := .discover (.returned [])

/-- A call at its beginning. -/
def Method.caller : Method → Caller
  | .lister .discover => .discover .start
  | .lister (.command asked) => .command asked .lookup
  | .refresh => .idle
  | .registerStateCallback => .idle

/-- A call before it has its device list. -/
def Lister.fetching : Lister → Caller
  | .discover => .discover .fetch
  | .command asked => .command asked .fetch

/-- A call with its device list. -/
def Lister.holding (list : WeDeviceList) : Lister → Caller
  | .discover => .discover (.rebuild list)
  | .command asked => .command asked (.merge list)

/-- A call that has returned. -/
def CallResult.caller : CallResult → Caller
  | .devices discovered => .discover (.returned discovered)
  | .sent asked answer => .command asked (.returned answer)
  | .nothing => .idle

/-- Where a thread between two sections is for `Callers`. A command that has initialised the engine
still has that to do, with its first look; a `Discover` has done it. -/
def AdapterPlace.caller : AdapterPlace → Caller
  | .begins method => method.caller
  | .ensured (.lister .discover) => .discover .fetch
  | .ensured method => method.caller
  | .missed asked => .command asked .fetch
  | .discovered lister => lister.fetching
  | .listed lister list => lister.holding list
  | .returned result => result.caller

/-- The thread goes on after `EnsureEngineInitialized`. -/
def AdapterPlace.NeedsEngine : AdapterPlace → Prop
  | .begins _ => False
  | .returned _ => False
  | _ => True

/-- **`Callers` follows the threads between whole sections.** The engine may be initialised earlier
than `Callers` says, never later. -/
structure Abstracts (threads : AdapterSections) (callers : Callers) : Prop where
  cache : callers.adapter.mUdnToWemoId = (threads.guarded .cacheMutex).mUdnToWemoId
  sent : callers.sent = (threads.guarded .cacheMutex).sent
  initialized : callers.adapter.initialized = true →
    (threads.guarded .initLock).initialized = true
  callers : callers.callers = threads.places.map AdapterPlace.caller
  ready : ∀ place ∈ threads.places, place.NeedsEngine →
    (threads.guarded .initLock).initialized = true

section Simulation

variable {engineSocket : CppString} {threads after : AdapterSections} {callers : Callers}
  {id : Nat} {place next : AdapterPlace} {answers : EngineAnswers}

/-- The thread as `Callers` has it. -/
theorem Abstracts.getElem? (abstracts : Abstracts threads callers)
    (here : threads.places[id]? = some place) : callers.callers[id]? = some place.caller := by
  rw [abstracts.callers, List.getElem?_map, here]
  rfl

/-- One step of the thread in `Callers`. -/
theorem callersMachine_step {caller : Caller} (here : callers.callers[id]? = some caller)
    (answers : EngineAnswers) : callersMachine.run callers [(id, answers)] =
      { adapter := (caller.step callers.adapter answers).1
        callers := callers.callers.set id (caller.step callers.adapter answers).2.1
        sent := callers.sent ++ (caller.step callers.adapter answers).2.2 } := by
  show (callers.step (id, answers)).1 = _
  unfold Callers.step
  rw [here]

/-- A step in `Callers` that follows one of the threads. -/
theorem Abstracts.follow (abstracts : Abstracts threads callers)
    (here : threads.places[id]? = some place) {guarded : (mutex : AdapterMutex) → mutex.Guarded}
    (answers : EngineAnswers) (adapter : Adapter) (sent : List Action)
    (stepped : place.caller.step callers.adapter answers = (adapter, next.caller, sent))
    (cache : adapter.mUdnToWemoId = (guarded .cacheMutex).mUdnToWemoId)
    (sends : callers.sent ++ sent = (guarded .cacheMutex).sent)
    (initialized : adapter.initialized = true → (guarded .initLock).initialized = true)
    (stays : (threads.guarded .initLock).initialized = true →
      (guarded .initLock).initialized = true)
    (ready : next.NeedsEngine → (guarded .initLock).initialized = true) :
    ∃ steps, Abstracts { guarded := guarded, places := threads.places.set id next }
      (callersMachine.run callers steps) := by
  refine ⟨[(id, answers)], ?_⟩
  rw [callersMachine_step (abstracts.getElem? here), stepped]
  refine ⟨cache, sends, initialized, ?_, fun other member needs => ?_⟩
  · rw [abstracts.callers, List.map_set]
  · rcases List.mem_or_eq_of_mem_set member with old | rfl
    · exact stays (abstracts.ready other old needs)
    · exact ready needs

/-- A step of the threads that `Callers` does not see. -/
theorem Abstracts.stay (abstracts : Abstracts threads callers)
    (here : threads.places[id]? = some place) {guarded : (mutex : AdapterMutex) → mutex.Guarded}
    (same : next.caller = place.caller)
    (cache : guarded .cacheMutex = threads.guarded .cacheMutex)
    (stays : (threads.guarded .initLock).initialized = true →
      (guarded .initLock).initialized = true)
    (ready : next.NeedsEngine → (guarded .initLock).initialized = true) :
    ∃ steps, Abstracts { guarded := guarded, places := threads.places.set id next }
      (callersMachine.run callers steps) := by
  obtain ⟨below, found⟩ := List.getElem?_eq_some_iff.mp here
  refine ⟨[], ?_, ?_, fun on => stays (abstracts.initialized on), ?_, fun other member needs => ?_⟩
  · exact abstracts.cache.trans (congrArg CacheStatus.mUdnToWemoId cache.symm)
  · exact abstracts.sent.trans (congrArg CacheStatus.sent cache.symm)
  · rw [List.map_set, same, ← List.map_set, ← found, List.set_getElem_self]
    exact abstracts.callers
  · rcases List.mem_or_eq_of_mem_set member with old | rfl
    · exact stays (abstracts.ready other old needs)
    · exact ready needs

/-- What the thread does outside the mutexes, `Callers` does or does not see. -/
theorem Abstracts.alone (abstracts : Abstracts threads callers)
    (here : threads.places[id]? = some place) (answers : EngineAnswers)
    (waits : place.takes = none) :
    ∃ steps, Abstracts
      { threads with places := threads.places.set id (place.alone answers).1 }
      (callersMachine.run callers steps) := by
  have ready := abstracts.ready place (List.mem_of_getElem? here)
  cases place with
  | begins method => cases waits
  | ensured method =>
    refine abstracts.stay here ?_ rfl (fun on => on) fun _ => ready trivial
    rcases method with (_ | asked) | _ | _
    · rfl
    · cases waits
    · rfl
    · rfl
  | missed asked => exact abstracts.stay here rfl rfl (fun on => on) fun _ => ready trivial
  | discovered lister =>
    refine abstracts.follow here answers callers.adapter [] ?_ abstracts.cache ?_
      abstracts.initialized (fun on => on) fun _ => ready trivial
    · cases lister <;> cases found : answers.weListDevices <;>
        simp [AdapterPlace.caller, AdapterPlace.alone, Lister.fetching, Lister.holding,
          Lister.refused, CallResult.caller, Caller.step, Adapter.discoverStep, Adapter.commandStep,
          found]
    · rw [List.append_nil]
      exact abstracts.sent
  | listed lister list => cases lister <;> cases waits
  | returned result => exact abstracts.stay here rfl rfl (fun on => on) False.elim

/-- A first step in `Callers`, with what `EnsureEngineInitialized` answered. -/
def engineAnswers (weInit weSetAction : Bool) : EngineAnswers :=
  { weInit := weInit, weListDevices := none, weSetAction := weSetAction }

/-- `EnsureEngineInitialized` is part of the first step in `Callers`, or of a later one. -/
theorem Abstracts.ensure (abstracts : Abstracts threads callers) {method : Method}
    (here : threads.places[id]? = some (.begins method)) {status : EngineStatus}
    (completes : Sections.Completes (adapterSections engineSocket) .initLock
      (threads.guarded .initLock, .check method) status next) :
    ∃ steps, Abstracts
      { guarded := Function.update threads.guarded .initLock status
        places := threads.places.set id next } (callersMachine.run callers steps) := by
  have elsewhere : Function.update threads.guarded .initLock status .cacheMutex =
      threads.guarded .cacheMutex := Function.update_of_ne (by decide) _ _
  have there : Function.update threads.guarded .initLock status .initLock = status :=
    Function.update_self _ _ _
  rcases ensure_completes completes with ⟨on, rfl⟩ | ⟨off, stillOff, rfl⟩
  · rcases method with (_ | asked) | _ | _
    · refine abstracts.follow here (engineAnswers true true)
        (callers.adapter.ensureEngineInitialized true) [] ?_ ?_ ?_ ?_ ?_ ?_
      · simp [AdapterPlace.caller, Method.caller, Caller.step, Adapter.discoverStep,
          Adapter.ensureEngineInitialized, engineAnswers]
      · rw [elsewhere]
        exact abstracts.cache
      · rw [elsewhere, List.append_nil]
        exact abstracts.sent
      all_goals
        intro _
        rw [there]
        exact on
    all_goals
      refine abstracts.stay here rfl elsewhere ?_ ?_
      all_goals
        intro _
        rw [there]
        exact on
  · have notYet : callers.adapter.initialized = false := by
      rw [← Bool.not_eq_true]
      intro already
      rw [abstracts.initialized already] at off
      cases off
    rcases method with lister | _ | _
    · refine abstracts.follow here (engineAnswers false true) callers.adapter [] ?_ ?_ ?_ ?_ ?_ ?_
      · have same : callers.adapter.ensureEngineInitialized false = callers.adapter := by
          simp [Adapter.ensureEngineInitialized]
        cases lister <;>
          simp [AdapterPlace.caller, Method.caller, Method.refused, Lister.refused,
            CallResult.caller, Caller.step, Adapter.discoverStep, Adapter.commandStep, engineAnswers,
            same, notYet]
      · rw [elsewhere]
        exact abstracts.cache
      · rw [elsewhere, List.append_nil]
        exact abstracts.sent
      · intro already
        rw [notYet] at already
        cases already
      · intro already
        rw [off] at already
        cases already
      · exact False.elim
    all_goals
      refine abstracts.stay here rfl elsewhere ?_ False.elim
      intro already
      rw [off] at already
      cases already

/-- The first step of a command in `Callers`, once the engine is initialised. -/
theorem Caller.step_lookup (adapter : Adapter) (asked : Command) (weSetAction : Bool) :
    Caller.step adapter (engineAnswers true weSetAction) (.command asked .lookup) =
      let ready := adapter.ensureEngineInitialized true
      let looked := ready.lookupAndSend asked (engineAnswers true weSetAction) .fetch
      (ready, .command asked looked.1, looked.2) := by
  have on : (adapter.ensureEngineInitialized (engineAnswers true weSetAction).weInit).initialized
      = true := Bool.or_true _
  rw [Caller.step, Adapter.commandStep]
  dsimp only
  rw [if_pos on]
  rfl

/-- The last step of a command in `Callers` that has fetched a list. -/
theorem Caller.step_merge (adapter : Adapter) (asked : Command) (list : WeDeviceList)
    (weSetAction : Bool) :
    Caller.step adapter (engineAnswers true weSetAction) (.command asked (.merge list)) =
      let merged : Adapter :=
        { adapter with mUdnToWemoId := cacheItems adapter.mUdnToWemoId list.listed }
      let looked := merged.lookupAndSend asked (engineAnswers true weSetAction) (.returned false)
      (merged, .command asked looked.1, looked.2) := rfl

/-- A look into the cache is one in `Callers`. -/
theorem LooksUp.lookupAndSend {status after : CacheStatus} {asked : Command} {missed : AdapterPlace}
    (looks : LooksUp status asked missed after next) (adapter : Adapter)
    (cache : adapter.mUdnToWemoId = status.mUdnToWemoId) (phase : Phase)
    (goesOn : missed.caller = .command asked phase) :
    after.mUdnToWemoId = status.mUdnToWemoId ∧ ∃ weSetAction sent phase',
      adapter.lookupAndSend asked (engineAnswers true weSetAction) phase = (phase', sent) ∧
        next.caller = .command asked phase' ∧ after.sent = status.sent ++ sent := by
  rcases looks with ⟨wemoId, answer, found, rfl, rfl⟩ | ⟨found, rfl, rfl⟩
  · refine ⟨rfl, answer, [asked.sendState wemoId], .returned answer, ?_, rfl, rfl⟩
    rw [Adapter.lookupAndSend, cache, found]
    rfl
  · refine ⟨rfl, true, [], phase, ?_, goesOn, by rw [List.append_nil]⟩
    rw [Adapter.lookupAndSend, cache, found]

/-- The first look of a command is its first step in `Callers`, with the engine initialised. -/
theorem Abstracts.lookup (abstracts : Abstracts threads callers) {asked : Command}
    (here : threads.places[id]? = some (.ensured (.lister (.command asked))))
    {status : CacheStatus}
    (completes : Sections.Completes (adapterSections engineSocket) .cacheMutex
      (threads.guarded .cacheMutex, .lookup asked) status next) :
    ∃ steps, Abstracts
      { guarded := Function.update threads.guarded .cacheMutex status
        places := threads.places.set id next } (callersMachine.run callers steps) := by
  have ready := abstracts.ready _ (List.mem_of_getElem? here) trivial
  have elsewhere : Function.update threads.guarded .cacheMutex status .initLock =
      threads.guarded .initLock := Function.update_of_ne (by decide) _ _
  obtain ⟨cache, weSetAction, sent, phase, looks, goesOn, sends⟩ :=
    (lookup_completes completes).lookupAndSend (callers.adapter.ensureEngineInitialized true)
      abstracts.cache .fetch rfl
  refine abstracts.follow here (engineAnswers true weSetAction)
    (callers.adapter.ensureEngineInitialized true) sent ?_ ?_ ?_ ?_ ?_ ?_
  · rw [goesOn]
    refine (Caller.step_lookup callers.adapter asked weSetAction).trans ?_
    dsimp only
    rw [looks]
  · rw [Function.update_self, cache]
    exact abstracts.cache
  · rw [Function.update_self, sends, abstracts.sent]
  all_goals
    intro _
    rw [elsewhere]
    exact ready

/-- The rebuild of a `Discover` is its last step in `Callers`. -/
theorem Abstracts.rebuild (abstracts : Abstracts threads callers) {list : WeDeviceList}
    (here : threads.places[id]? = some (.listed .discover list)) {status : CacheStatus}
    (completes : Sections.Completes (adapterSections engineSocket) .cacheMutex
      (threads.guarded .cacheMutex, .clear list) status next) :
    ∃ steps, Abstracts
      { guarded := Function.update threads.guarded .cacheMutex status
        places := threads.places.set id next } (callersMachine.run callers steps) := by
  have ready := abstracts.ready _ (List.mem_of_getElem? here) trivial
  have elsewhere : Function.update threads.guarded .cacheMutex status .initLock =
      threads.guarded .initLock := Function.update_of_ne (by decide) _ _
  obtain ⟨rfl, rfl⟩ := rebuild_completes completes
  refine abstracts.follow here (engineAnswers true true)
    { callers.adapter with mUdnToWemoId := cacheItems (fun _ => none) list.listed } []
    rfl ?_ ?_ ?_ ?_ False.elim
  · rw [Function.update_self]
  · rw [Function.update_self, List.append_nil]
    exact abstracts.sent
  all_goals
    intro _
    rw [elsewhere]
    exact ready

/-- The merge of a command and its second look are its last step in `Callers`. -/
theorem Abstracts.merge (abstracts : Abstracts threads callers) {asked : Command}
    {list : WeDeviceList} (here : threads.places[id]? = some (.listed (.command asked) list))
    {status : CacheStatus}
    (completes : Sections.Completes (adapterSections engineSocket) .cacheMutex
      (threads.guarded .cacheMutex, .merge list.listed asked) status next) :
    ∃ steps, Abstracts
      { guarded := Function.update threads.guarded .cacheMutex status
        places := threads.places.set id next } (callersMachine.run callers steps) := by
  have ready := abstracts.ready _ (List.mem_of_getElem? here) trivial
  have elsewhere : Function.update threads.guarded .cacheMutex status .initLock =
      threads.guarded .initLock := Function.update_of_ne (by decide) _ _
  let merged : Adapter :=
    { callers.adapter with mUdnToWemoId := cacheItems callers.adapter.mUdnToWemoId list.listed }
  have same : merged.mUdnToWemoId =
      ((threads.guarded .cacheMutex).apply list.listed).mUdnToWemoId := by
    show cacheItems callers.adapter.mUdnToWemoId list.listed = _
    rw [abstracts.cache]
    rfl
  obtain ⟨cache, weSetAction, sent, phase, looks, goesOn, sends⟩ :=
    (merge_completes completes).lookupAndSend merged same (.returned false) rfl
  refine abstracts.follow here (engineAnswers true weSetAction) merged sent ?_ ?_ ?_ ?_ ?_ ?_
  · rw [goesOn]
    refine (Caller.step_merge callers.adapter asked list weSetAction).trans ?_
    dsimp only
    rw [looks]
  · rw [Function.update_self, cache, same]
  · rw [Function.update_self, sends, abstracts.sent]
    rfl
  all_goals
    intro _
    rw [elsewhere]
    exact ready

/-- **A whole section is a step in `Callers`, or none.** -/
theorem Abstracts.step (abstracts : Abstracts threads callers)
    (stepped : Sections.AtomicStep (adapterSections engineSocket) threads after) :
    ∃ steps, Abstracts after (callersMachine.run callers steps) := by
  cases stepped with
  | @alone id answers place next call here waits stepped =>
    have moved : (place.alone answers).1 = next := congrArg Prod.fst stepped
    rw [← moved]
    exact abstracts.alone here answers waits
  | @«section» id place next first status here waits completes =>
    replace waits : place.takes = some first := waits
    cases place with
    | begins method =>
      cases waits
      exact abstracts.ensure here completes
    | ensured method =>
      rcases method with (_ | asked) | _ | _
      · cases waits
      · cases waits
        exact abstracts.lookup here completes
      · cases waits
      · cases waits
    | missed asked => cases waits
    | discovered lister => cases waits
    | listed lister list =>
      cases lister with
      | discover =>
        cases waits
        exact abstracts.rebuild here completes
      | command asked =>
        cases waits
        exact abstracts.merge here completes
    | returned result => cases waits

/-- **A run of whole sections is a run of `Callers`.** -/
theorem Abstracts.run (abstracts : Abstracts threads callers)
    (reached : Sections.AtomicRun (adapterSections engineSocket) threads after) :
    ∃ steps, Abstracts after (callersMachine.run callers steps) := by
  induction reached with
  | refl => exact ⟨[], abstracts⟩
  | tail _ stepped ih =>
    obtain ⟨steps, follows⟩ := ih
    obtain ⟨more, followsOn⟩ := follows.step stepped
    refine ⟨steps ++ more, ?_⟩
    rw [callersMachine.run_append]
    exact followsOn

end Simulation

/-! ### The interleavings -/

/-- The threads at the beginning of their calls, for `Callers`. -/
def AdapterSections.callers (start : AdapterSections) : Callers :=
  { adapter :=
      { initialized := (start.guarded .initLock).initialized
        mUdnToWemoId := (start.guarded .cacheMutex).mUdnToWemoId }
    callers := start.places.map AdapterPlace.caller
    sent := (start.guarded .cacheMutex).sent }

/-- Every thread is at the beginning of its call. -/
def AdapterSections.Begin (start : AdapterSections) : Prop :=
  ∀ place ∈ start.places, ∃ method, place = .begins method

/-- At the beginning `Callers` follows the threads. -/
theorem AdapterSections.Begin.abstracts {start : AdapterSections} (begins : start.Begin) :
    Abstracts start start.callers := by
  refine ⟨rfl, rfl, fun on => on, rfl, fun place member needs => ?_⟩
  obtain ⟨method, rfl⟩ := begins place member
  cases needs

/-- Nothing is sent before the statement that leaves the section. -/
theorem sent_of_partway {engineSocket : CppString} {first now : CacheStatus × CachePlace}
    (partway : Sections.Partway (adapterSections engineSocket) .cacheMutex first now) :
    now.1.sent = first.1.sent := by
  induction partway with
  | refl => rfl
  | @tail between last _ stays ih =>
    rw [← ih]
    obtain ⟨answers, call, stepped⟩ := stays
    obtain ⟨status, place⟩ := between
    obtain ⟨later, there⟩ := last
    rcases place with asked | list | ⟨_ | _, _⟩ | ⟨_ | _, _⟩ | asked | _
    all_goals
      simp only [adapterSections, CachePlace.step, Prod.mk.injEq, reduceCtorEq, false_and,
        and_false] at stepped
    all_goals
      rw [← stepped.1]

/-- **Every interleaving of the adapter's statements is a run of whole calls' steps.** Whatever
methods the threads call, whatever the engine answers and in whatever order the statements are
executed, no two threads are ever inside the section of one mutex, and `callersMachine` has a run in
which the same commands were sent in the same order, every thread outside the mutexes is at the same
place of its call with the same result, and the cache is the same whenever its mutex is free. -/
theorem interleavings_refine (engineSocket : CppString) {start : AdapterSections}
    (begins : start.Begin) (steps : List (Nat × EngineAnswers)) :
    let now : AdapterThreads :=
      (adapterSections engineSocket).machine.run (start.threads AdapterMutex.Inside) steps
    (∀ (id other : Nat) (mutex : AdapterMutex) (there elsewhere : mutex.Inside),
      now.places[id]? = some (.inr ⟨mutex, there⟩) →
        now.places[other]? = some (.inr ⟨mutex, elsewhere⟩) → id = other) ∧
    ∃ callerSteps,
      let seen := callersMachine.run start.callers callerSteps
      seen.sent = (now.guarded .cacheMutex).sent ∧
        (∀ (id : Nat) (place : AdapterPlace), now.places[id]? = some (.inl place) →
          seen.callers[id]? = some place.caller) ∧
        (now.owner .cacheMutex = none →
          seen.adapter.mUdnToWemoId = (now.guarded .cacheMutex).mUdnToWemoId) := by
  intro now
  obtain ⟨atomic, reached, reduces⟩ :
      ∃ atomic, Sections.AtomicRun (adapterSections engineSocket) start atomic ∧
        Sections.Reduces (adapterSections engineSocket) now atomic :=
    Sections.Reduces.run start steps
  obtain ⟨callerSteps, abstracts⟩ := begins.abstracts.run reached
  refine ⟨fun id other mutex there elsewhere here also => ?_, callerSteps, ?_, ?_, ?_⟩
  · have owner := reduces.sound.owns here
    rw [reduces.sound.owns also] at owner
    exact (Option.some.inj owner).symm
  · rw [abstracts.sent]
    cases owner : now.owner .cacheMutex with
    | none => rw [reduces.free owner]
    | some id =>
      obtain ⟨place, here⟩ := reduces.sound.owned owner
      obtain ⟨_, _, _, _, partway⟩ := reduces.inside here
      exact (sent_of_partway partway).symm
  · intro id place here
    exact abstracts.getElem? (reduces.outside here)
  · intro free
    rw [abstracts.cache, reduces.free free]

/-- A `Discover` and a command to the lamp, on a fresh adapter. -/
def sampleThreads : AdapterSections :=
  { guarded := fun mutex => match mutex with
      | .initLock => { targetConfigured := false, initialized := false }
      | .cacheMutex => { mUdnToWemoId := fun _ => none, sent := [] }
    places := [.begins (.lister .discover),
      .begins (.lister (.command (.setOnOff (literal "uuid:Lamp") true)))] }

theorem sampleThreads_begin : sampleThreads.Begin := by
  intro place member
  rcases List.mem_pair.mp member with rfl | rfl
  · exact ⟨_, rfl⟩
  · exact ⟨_, rfl⟩

/-- The threads in turns. -/
def sampleTurns : List (Nat × EngineAnswers) :=
  (List.range 36).map fun count => (count % 2, lampListed 7)

/-- In turns both threads come to their end, and the command was sent to the lamp. -/
theorem interleavings_refine_sample : ∃ callerSteps,
    (callersMachine.run sampleThreads.callers callerSteps).sent =
      [{ wemoId := 7, state := 1, level := -1, isOnline := 1 }] := by
  obtain ⟨callerSteps, sent, -⟩ := (interleavings_refine [] sampleThreads_begin sampleTurns).2
  refine ⟨callerSteps, sent.trans ?_⟩
  decide

end WemoBridge
