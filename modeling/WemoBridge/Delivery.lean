/-
**What a call has done when it returns.**

The statements of any number of threads in the adapter, in any order, with any answers of the
engine. `adapterOutline` says at every statement what its thread knows: which list it holds, which
WeMos the cache names, and that it has not called `we_set_action` yet.

* `sends_once` — a call sends nothing before it returns. A command that has returned has sent its
  action once, to a WeMo that its UDN stands for, or it has sent nothing, returns false, and the
  engine is the reason; the other calls send nothing, and `Discover` returns the devices of a list.
* `commands_delivered` — if the engine is up and its lists name one home, then under every fair
  schedule all calls return, and what was sent is the action of every command to a WeMo of the
  home, once each. So no `Discover` that clears the cache and no list that is merged late makes a
  command get lost or be sent twice.
-/

import WemoBridge.EngineProtocol
import WemoBridge.Library.ListSearch
import WemoBridge.Library.Outline

namespace WemoBridge

open Library
open Library.Sections (Outline eventsOf)

/-! ### What a call can find -/

/-- What a caching loop makes of a list alone. -/
def WeDeviceList.cached (list : WeDeviceList) : UdnCache := cacheItems (fun _ => none) list.listed

/-- A list over an older cache. -/
theorem WeDeviceList.cacheItems_eq (list : WeDeviceList) (older : UdnCache) (udn : CppString) :
    cacheItems older list.listed udn = (list.cached udn).or (older udn) :=
  congrFun (cacheItems_eq_overlay older list.listed) udn

/-- The action of a call of `we_set_action`. -/
def EngineCall.action? : EngineCall → Option Action
  | .setAction action => some action
  | _ => none

/-- The actions sent by some calls of the engine. -/
def actionsOf (calls : List EngineCall) : List Action := calls.filterMap EngineCall.action?

theorem actionsOf_append (calls more : List EngineCall) :
    actionsOf (calls ++ more) = actionsOf calls ++ actionsOf more :=
  List.filterMap_append

section Found

/-- The engine gave the list in one of the calls. -/
def Fetched (calls : List EngineCall) (list : WeDeviceList) : Prop :=
  .listDevices (some list) ∈ calls

/-- The engine was not there in one of the calls, or had no list. -/
def EngineFails (calls : List EngineCall) : Prop :=
  .init false ∈ calls ∨ .listDevices none ∈ calls

variable (start : CacheStatus) (made : List EngineCall)

/-- The UDN stands for the WeMo in the cache at the start or in a list the engine gave. -/
def Named (udn : CppString) (wemoId : Int) : Prop :=
  start.mUdnToWemoId udn = some wemoId ∨
    ∃ list, Fetched made list ∧ list.cached udn = some wemoId

/-- The cache has only WeMos that its UDNs stand for. -/
def CacheNames (cache : UdnCache) : Prop :=
  ∀ udn wemoId, cache udn = some wemoId → Named start made udn wemoId

/-- **What a call has done when it returns**, by the calls of the engine it made itself; a WeMo may
have come into the cache with any call `made`. -/
def Returns (calls : List EngineCall) : Method → CallResult → Prop
  | .lister (.command asked), result =>
      ∃ answer, result = .sent asked answer ∧
        ((∃ wemoId, Named start made asked.udn wemoId ∧
            actionsOf calls = [asked.sendState wemoId]) ∨
          actionsOf calls = [] ∧ answer = false ∧
            (EngineFails calls ∨ ∃ list, Fetched calls list ∧ list.cached asked.udn = none))
  | .lister .discover, result =>
      actionsOf calls = [] ∧
        ((∃ list, Fetched calls list ∧ result = .devices (list.listed.map wemoDeviceOf)) ∨
          EngineFails calls ∧ result = .devices [])
  | .refresh, result => actionsOf calls = [] ∧ result = .nothing
  | .registerStateCallback, result => actionsOf calls = [] ∧ result = .nothing

/-! ### What a thread knows -/

/-- The call a thread in `EnsureEngineInitialized` is in. -/
def EnsurePlace.method : EnsurePlace → Method
  | .check method => method
  | .configure method => method
  | .weInit method => method

/-- **Outside the mutexes.** -/
def AdapterPlace.Reached (method : Method) (calls : List EngineCall) : AdapterPlace → Prop
  | .begins asked => asked = method ∧ actionsOf calls = []
  | .ensured asked => asked = method ∧ actionsOf calls = []
  | .missed asked => method = .lister (.command asked) ∧ actionsOf calls = []
  | .discovered lister => method = .lister lister ∧ actionsOf calls = []
  | .listed lister list => method = .lister lister ∧ Fetched calls list ∧ actionsOf calls = []
  | .returned result => Returns start made calls method result

/-- **Under the cache mutex**: what the cache is once the items to come are applied. -/
def CachePlace.Reached (method : Method) (calls : List EngineCall) (status : CacheStatus) :
    CachePlace → Prop
  | .lookup asked => method = .lister (.command asked) ∧ CacheNames start made status.mUdnToWemoId
  | .clear list => method = .lister .discover ∧ Fetched calls list
  | .rebuild rest devices =>
      method = .lister .discover ∧ ∃ list, Fetched calls list ∧
        cacheItems status.mUdnToWemoId rest = list.cached ∧
        devices ++ rest.map wemoDeviceOf = list.listed.map wemoDeviceOf
  | .merge rest asked =>
      method = .lister (.command asked) ∧ ∃ list older, Fetched calls list ∧
        CacheNames start made older ∧
        cacheItems status.mUdnToWemoId rest = cacheItems older list.listed
  | .retry asked =>
      method = .lister (.command asked) ∧ ∃ list older, Fetched calls list ∧
        CacheNames start made older ∧
        status.mUdnToWemoId = cacheItems older list.listed
  | .send asked wemoId =>
      method = .lister (.command asked) ∧ CacheNames start made status.mUdnToWemoId ∧
        Named start made asked.udn wemoId

/-- **The outline of the adapter**, for threads that begin at these places and whose calls of the
engine are among those `made`. -/
def adapterOutline (places : List AdapterPlace) :
    Outline AdapterMutex.Guarded AdapterMutex.Inside AdapterPlace EngineCall where
  free mutex guarded :=
    match mutex, guarded with
    | .initLock, _ => True
    | .cacheMutex, status => CacheNames start made (CacheStatus.mUdnToWemoId status)
  outside id calls place :=
    ∃ method, places[id]? = some (.begins method) ∧ calls ⊆ made ∧
      place.Reached start made method calls
  inside id calls mutex guarded place :=
    ∃ method, places[id]? = some (.begins method) ∧ calls ⊆ made ∧ actionsOf calls = [] ∧
      match mutex, guarded, place with
      | .initLock, _, place => EnsurePlace.method place = method
      | .cacheMutex, status, place => CachePlace.Reached start made method calls status place

end Found

/-! ### Statement by statement -/

section Statements

variable {start : CacheStatus} {made : List EngineCall} {method : Method} {calls : List EngineCall}

/-- A list alone names what its UDNs stand for. -/
theorem cacheNames_cached {list : WeDeviceList} (fetched : Fetched made list) :
    CacheNames start made list.cached :=
  fun _ _ found => Or.inr ⟨list, fetched, found⟩

/-- So does a list over a cache that does. -/
theorem cacheNames_merged {list : WeDeviceList} {older : UdnCache}
    (fetched : Fetched made list) (names : CacheNames start made older) :
    CacheNames start made (cacheItems older list.listed) := by
  intro udn wemoId found
  rw [list.cacheItems_eq] at found
  rcases Option.or_eq_some_iff.mp found with newer | ⟨-, kept⟩
  · exact Or.inr ⟨list, fetched, newer⟩
  · exact names udn wemoId kept

/-- A call that is refused has not sent anything. -/
theorem returns_refused (fails : EngineFails calls) (silent : actionsOf calls = [])
    (method : Method) : Returns start made calls method method.refused := by
  rcases method with (_ | asked) | _ | _
  · exact ⟨silent, Or.inr ⟨fails, rfl⟩⟩
  · exact ⟨false, rfl, Or.inr ⟨silent, rfl, Or.inl fails⟩⟩
  · exact ⟨silent, rfl⟩
  · exact ⟨silent, rfl⟩

/-- Only `setAction` is an action. -/
theorem actionsOf_silent (silent : actionsOf calls = []) (call : EngineCall)
    (other : call.action? = none) : actionsOf (calls ++ (some call).toList) = [] := by
  rw [actionsOf_append, silent, List.nil_append]
  exact List.filterMap_cons_none other

/-- The last call is one of the calls. -/
theorem last_mem (calls : List EngineCall) (call : EngineCall) :
    call ∈ calls ++ (some call).toList :=
  List.mem_append_right _ (List.mem_singleton_self call)

/-- A statement of `EnsureEngineInitialized`. -/
theorem ensure_reached (start : CacheStatus) (made : List EngineCall) (engineSocket : CppString)
    (status : EngineStatus) (answers : EngineAnswers) (silent : actionsOf calls = [])
    (place : EnsurePlace) :
    let stepped := place.step engineSocket status answers
    stepped.2.1.elim
      (fun next => next.method = place.method ∧ actionsOf (calls ++ stepped.2.2.toList) = [])
      (fun next => next.Reached start made place.method (calls ++ stepped.2.2.toList)) := by
  have quiet : actionsOf (calls ++ (none : Option EngineCall).toList) = [] := by
    rw [Option.toList_none, List.append_nil, silent]
  cases place with
  | check method =>
    dsimp only [EnsurePlace.step]
    split
    · exact ⟨rfl, quiet⟩
    · split <;> exact ⟨rfl, quiet⟩
  | configure method =>
    refine ⟨rfl, ?_⟩
    dsimp only [EnsurePlace.step]
    cases maybeConfigureIpcTarget engineSocket with
    | none => exact quiet
    | some target => exact actionsOf_silent silent _ rfl
  | weInit method =>
    have quietInit := actionsOf_silent silent (.init answers.weInit) rfl
    have asked := last_mem calls (.init answers.weInit)
    dsimp only [EnsurePlace.step]
    cases up : answers.weInit with
    | true =>
      rw [up] at quietInit
      exact ⟨rfl, quietInit⟩
    | false =>
      rw [up] at quietInit asked
      exact returns_refused (Or.inl asked) quietInit method

/-- A statement under the cache mutex. -/
theorem cache_reached {status : CacheStatus} (silent : actionsOf calls = []) (own : calls ⊆ made)
    (answers : EngineAnswers) {place : CachePlace}
    (reached : place.Reached start made method calls status) :
    let stepped := place.step status answers
    stepped.2.1.elim
      (fun next => next.Reached start made method (calls ++ stepped.2.2.toList) stepped.1 ∧
        actionsOf (calls ++ stepped.2.2.toList) = [])
      (fun next => CacheNames start made stepped.1.mUdnToWemoId ∧
        next.Reached start made method (calls ++ stepped.2.2.toList)) := by
  have same : calls ++ (none : Option EngineCall).toList = calls := by
    rw [Option.toList_none, List.append_nil]
  rcases place with asked | list | ⟨_ | ⟨info, rest⟩, devices⟩ | ⟨_ | ⟨info, rest⟩, asked⟩ | asked |
    ⟨asked, wemoId⟩
  · obtain ⟨rfl, names⟩ := reached
    dsimp only [CachePlace.step]
    cases found : status.mUdnToWemoId asked.udn with
    | none => exact ⟨names, rfl, same.symm ▸ silent⟩
    | some wemoId => exact ⟨⟨rfl, names, names _ _ found⟩, same.symm ▸ silent⟩
  · obtain ⟨rfl, fetched⟩ := reached
    exact ⟨⟨rfl, list, same.symm ▸ fetched, rfl, rfl⟩, same.symm ▸ silent⟩
  · obtain ⟨rfl, list, fetched, cached, devices⟩ := reached
    refine ⟨?_, same.symm ▸ silent, Or.inl ⟨list, same.symm ▸ fetched, ?_⟩⟩
    · exact Eq.mpr (congrArg _ cached) (cacheNames_cached (own fetched))
    · rw [List.map_nil, List.append_nil] at devices
      rw [devices]
  · obtain ⟨rfl, list, fetched, cached, devices⟩ := reached
    refine ⟨⟨rfl, list, same.symm ▸ fetched, cached, ?_⟩, same.symm ▸ silent⟩
    rw [List.append_assoc]
    exact devices
  · obtain ⟨rfl, list, older, fetched, names, merged⟩ := reached
    exact ⟨⟨rfl, list, older, same.symm ▸ fetched, names, merged⟩, same.symm ▸ silent⟩
  · obtain ⟨rfl, list, older, fetched, names, merged⟩ := reached
    exact ⟨⟨rfl, list, older, same.symm ▸ fetched, names, merged⟩, same.symm ▸ silent⟩
  · obtain ⟨rfl, list, older, fetched, names, merged⟩ := reached
    have namesNow : CacheNames start made status.mUdnToWemoId := by
      rw [merged]
      exact cacheNames_merged (own fetched) names
    dsimp only [CachePlace.step]
    cases found : status.mUdnToWemoId asked.udn with
    | none =>
      refine ⟨namesNow, false, rfl, Or.inr ⟨same.symm ▸ silent, rfl,
        Or.inr ⟨list, same.symm ▸ fetched, ?_⟩⟩⟩
      rw [merged, list.cacheItems_eq] at found
      exact (Option.or_eq_none_iff.mp found).1
    | some wemoId => exact ⟨⟨rfl, namesNow, namesNow _ _ found⟩, same.symm ▸ silent⟩
  · obtain ⟨rfl, names, named⟩ := reached
    refine ⟨names, answers.weSetAction, rfl, Or.inl ⟨wemoId, named, ?_⟩⟩
    rw [actionsOf_append, silent]
    rfl

/-- A statement outside the mutexes. -/
theorem alone_reached (answers : EngineAnswers) {place : AdapterPlace}
    (waits : place.takes = none) (reached : place.Reached start made method calls) :
    (place.alone answers).1.Reached start made method
      (calls ++ (place.alone answers).2.toList) := by
  rcases place with asked | asked | asked | lister | ⟨lister, list⟩ | result
  · cases waits
  · obtain ⟨rfl, silent⟩ := reached
    rcases asked with (_ | asked) | _ | _
    · exact ⟨rfl, actionsOf_silent silent _ rfl⟩
    · cases waits
    · exact ⟨actionsOf_silent silent _ rfl, rfl⟩
    · exact ⟨actionsOf_silent silent _ rfl, rfl⟩
  · obtain ⟨rfl, silent⟩ := reached
    exact ⟨rfl, actionsOf_silent silent _ rfl⟩
  · obtain ⟨rfl, silent⟩ := reached
    have quiet := actionsOf_silent silent (.listDevices answers.weListDevices) rfl
    have asked := last_mem calls (.listDevices answers.weListDevices)
    dsimp only [AdapterPlace.alone]
    cases given : answers.weListDevices with
    | none =>
      rw [given] at quiet asked
      exact returns_refused (Or.inr asked) quiet (.lister lister)
    | some list =>
      rw [given] at quiet asked
      exact ⟨rfl, asked, quiet⟩
  · cases lister <;> cases waits
  · dsimp only [AdapterPlace.alone]
    rw [Option.toList_none, List.append_nil]
    exact reached

/-- A thread that takes a mutex. -/
theorem takes_reached {place : AdapterPlace} {first : Sigma AdapterMutex.Inside}
    {guarded : first.1.Guarded} (waits : place.takes = some first) (own : calls ⊆ made)
    (reached : place.Reached start made method calls)
    (free : ∀ places, (adapterOutline start made places).free first.1 guarded)
    {places : List AdapterPlace} {id : Nat} (begins : places[id]? = some (.begins method)) :
    (adapterOutline start made places).inside id calls first.1 guarded first.2 := by
  rcases place with asked | asked | asked | lister | ⟨lister, list⟩ | result
  · cases waits
    obtain ⟨rfl, silent⟩ := reached
    exact ⟨asked, begins, own, silent, rfl⟩
  · rcases asked with (_ | asked) | _ | _ <;> cases waits
    obtain ⟨rfl, silent⟩ := reached
    exact ⟨_, begins, own, silent, rfl, free []⟩
  · cases waits
  · cases waits
  · cases lister with
    | discover =>
      cases waits
      obtain ⟨rfl, fetched, silent⟩ := reached
      exact ⟨_, begins, own, silent, rfl, fetched⟩
    | command asked =>
      cases waits
      obtain ⟨rfl, fetched, silent⟩ := reached
      exact ⟨_, begins, own, silent, rfl, list, guarded.mUdnToWemoId, fetched, free [], rfl⟩
  · cases waits

/-- **The outline is valid**, whatever the engine answers. -/
theorem adapterOutline_valid (engineSocket : CppString) (places : List AdapterPlace) :
    (adapterOutline start made places).Valid (adapterSections engineSocket)
      fun _ call => call.toList ⊆ made where
  takes := by
    rintro id own place first guarded ⟨method, begins, known, reached⟩ waits free
    exact takes_reached waits known reached (fun _ => free) begins
  alone := by
    rintro id own place answers ⟨method, begins, known, reached⟩ waits more
    exact ⟨method, begins, List.append_subset.mpr ⟨known, more⟩,
      alone_reached answers waits reached⟩
  stays := by
    rintro id own mutex guarded place answers after next call ⟨method, begins, known, silent, here⟩
      more stepped
    have all := List.append_subset.mpr ⟨known, more⟩
    cases mutex with
    | initLock =>
      have kept := ensure_reached start made engineSocket guarded answers silent place
      rw [show place.step engineSocket guarded answers = _ from stepped] at kept
      exact ⟨method, begins, all, kept.2, kept.1.trans here⟩
    | cacheMutex =>
      have kept := cache_reached silent known answers here
      rw [show place.step guarded answers = _ from stepped] at kept
      exact ⟨method, begins, all, kept.2, kept.1⟩
  leaves := by
    rintro id own mutex guarded place answers after next call ⟨method, begins, known, silent, here⟩
      more stepped
    have all := List.append_subset.mpr ⟨known, more⟩
    cases mutex with
    | initLock =>
      have kept := ensure_reached start made engineSocket guarded answers silent place
      rw [show place.step engineSocket guarded answers = _ from stepped] at kept
      exact ⟨trivial, method, begins, all, here ▸ kept⟩
    | cacheMutex =>
      have kept := cache_reached silent known answers here
      rw [show place.step guarded answers = _ from stepped] at kept
      exact ⟨kept.1, method, begins, all, kept.2⟩

end Statements

/-! ### Every call -/

section Runs

variable {engineSocket : CppString} {start : AdapterSections}

/-- Only `we_set_action` adds to what was sent. -/
theorem sent_step (engineSocket : CppString) (now : AdapterThreads) (id : Nat)
    (answers : EngineAnswers) :
    let stepped := (adapterSections engineSocket).step now (id, answers)
    (stepped.1.guarded .cacheMutex).sent =
      (now.guarded .cacheMutex).sent ++ actionsOf stepped.2.toList := by
  have within : ∀ {mutex : AdapterMutex} {place : mutex.Inside} {after : mutex.Guarded}
      {next : mutex.Inside ⊕ AdapterPlace} {call : Option EngineCall},
      (adapterSections engineSocket).within mutex (now.guarded mutex) place answers =
        (after, next, call) →
      (Function.update now.guarded mutex after .cacheMutex).sent =
        (now.guarded .cacheMutex).sent ++ actionsOf call.toList := by
    intro mutex place after next call stepped
    cases mutex with
    | initLock =>
      rw [Function.update_of_ne (by decide)]
      replace stepped : EnsurePlace.step engineSocket _ answers place = _ := stepped
      cases place <;> cases stepped
      · exact (List.append_nil _).symm
      · cases maybeConfigureIpcTarget engineSocket <;> exact (List.append_nil _).symm
      · exact (List.append_nil _).symm
    | cacheMutex =>
      rw [Function.update_self]
      replace stepped : CachePlace.step _ answers place = _ := stepped
      rcases place with asked | list | ⟨_ | _, _⟩ | ⟨_ | _, _⟩ | asked | ⟨asked, wemoId⟩ <;>
        cases stepped
      all_goals first | exact (List.append_nil _).symm | rfl
  dsimp only
  rcases Sections.step_cases now id answers with moves | ⟨-, stays⟩
  · generalize (adapterSections engineSocket).step now (id, answers) = stepped at moves
    obtain ⟨next, event⟩ := stepped
    dsimp only at moves ⊢
    cases moves with
    | takes => exact (List.append_nil _).symm
    | @alone place next event here waits stepped =>
      replace stepped : place.alone answers = _ := stepped
      rcases place with asked | ((_ | asked) | _ | _) | asked | lister | ⟨lister, list⟩ | result <;>
        cases stepped <;> exact (List.append_nil _).symm
    | stays here stepped => exact within stepped
    | leaves here stepped => exact within stepped
  · rw [stays]
    exact (List.append_nil _).symm

/-- What was sent is what the engine was asked to send, in the same order. -/
theorem sent_eq (engineSocket : CppString) (start : AdapterThreads)
    (steps : List (Nat × EngineAnswers)) :
    (((adapterSections engineSocket).machine.run start steps).guarded .cacheMutex).sent =
      (start.guarded .cacheMutex).sent ++ actionsOf
        (((adapterSections engineSocket).machine.history start steps).filterMap Prod.snd) := by
  refine @Machine.history_invariant _ _ _ (adapterSections engineSocket).machine
    (fun past now => (now.guarded .cacheMutex).sent =
      (start.guarded .cacheMutex).sent ++ actionsOf (past.filterMap Prod.snd)) ?_ steps [] start
      (List.append_nil _).symm
  rintro past now ⟨id, answers⟩ sent
  refine (sent_step engineSocket now id answers).trans ?_
  rw [sent, List.append_assoc, ← actionsOf_append, List.filterMap_append]
  refine congrArg (fun calls => _ ++ actionsOf (_ ++ calls)) ?_
  show Option.toList ((adapterSections engineSocket).machine.step now (id, answers)).2 = _
  cases ((adapterSections engineSocket).machine.step now (id, answers)).2 <;> rfl

/-- **The outline holds in every run of calls that begin.** -/
theorem outline_run (engineSocket : CppString) (begins : start.Begin)
    (steps : List (Nat × EngineAnswers)) :
    let past := (adapterSections engineSocket).machine.history
      (start.threads AdapterMutex.Inside) steps
    (adapterOutline (start.guarded .cacheMutex) (past.filterMap Prod.snd) start.places).Holds past
      ((adapterSections engineSocket).machine.run (start.threads AdapterMutex.Inside) steps) := by
  intro past
  refine (adapterOutline_valid engineSocket start.places).run (fun entry member call made => ?_)
    (Outline.holds_start start (fun mutex => ?_) fun id place here => ?_)
  · exact List.mem_filterMap.mpr ⟨entry, member, Option.mem_toList.mp made⟩
  · cases mutex with
    | initLock => trivial
    | cacheMutex => exact fun udn wemoId found => Or.inl found
  · obtain ⟨method, rfl⟩ := begins place (List.mem_of_getElem? here)
    exact ⟨method, here, List.nil_subset _, rfl, rfl⟩

/-- What was sent is what the threads sent. -/
theorem sent_perm (engineSocket : CppString) (start : AdapterSections)
    (steps : List (Nat × EngineAnswers)) :
    let past := (adapterSections engineSocket).machine.history
      (start.threads AdapterMutex.Inside) steps
    let now := (adapterSections engineSocket).machine.run (start.threads AdapterMutex.Inside) steps
    (now.guarded .cacheMutex).sent.Perm ((start.guarded .cacheMutex).sent ++
      (List.range start.places.length).flatMap fun id => actionsOf (eventsOf id past)) := by
  intro past now
  have below := (@Sections.length_places_run _ _ _ _ _ _ (adapterSections engineSocket) _
    (start.threads AdapterMutex.Inside) steps).2
  rw [Sections.Atomic.length_threads] at below
  rw [show (now.guarded .cacheMutex).sent = _ from sent_eq engineSocket _ steps]
  refine List.Perm.append_left _ ?_
  refine ((Sections.events_perm past below).filterMap EngineCall.action?).trans ?_
  rw [List.filterMap_flatMap]
  exact List.Perm.refl _

/-- A thread has returned and done what its call says, or it has not and has sent nothing. -/
theorem returns_or_silent (engineSocket : CppString) (begins : start.Begin)
    (steps : List (Nat × EngineAnswers)) {id : Nat} {method : Method}
    (begun : start.places[id]? = some (.begins method)) :
    let past := (adapterSections engineSocket).machine.history
      (start.threads AdapterMutex.Inside) steps
    let now := (adapterSections engineSocket).machine.run (start.threads AdapterMutex.Inside) steps
    (∃ result, now.places[id]? = some (.inl (.returned result)) ∧
        Returns (start.guarded .cacheMutex) (past.filterMap Prod.snd) (eventsOf id past) method
          result) ∨
      (∀ result, now.places[id]? ≠ some (.inl (.returned result))) ∧
        actionsOf (eventsOf id past) = [] := by
  intro past now
  have holds : (adapterOutline (start.guarded .cacheMutex) (past.filterMap Prod.snd)
    start.places).Holds past now := outline_run engineSocket begins steps
  have inRange : id < now.places.length := by
    rw [show now.places.length = _ from (Sections.length_places_run _ steps).1,
      Sections.Atomic.length_threads]
    exact (List.getElem?_eq_some_iff.mp begun).1
  have here := List.getElem?_eq_getElem inRange
  generalize now.places[id] = place at here
  rw [here]
  rcases place with outside | ⟨mutex, inside⟩
  · obtain ⟨_, same, -, reached⟩ := holds.outside here
    cases begun.symm.trans same
    rcases outside with asked | asked | asked | lister | ⟨lister, list⟩ | result
    iterate 4 exact Or.inr ⟨(fun _ other => by cases other), reached.2⟩
    · exact Or.inr ⟨(fun _ other => by cases other), reached.2.2⟩
    · exact Or.inl ⟨result, rfl, reached⟩
  · obtain ⟨_, -, -, silent, -⟩ := holds.inside here
    exact Or.inr ⟨(fun _ other => by cases other), silent⟩

/-- **A call sends at most once, and only with its last statement.** In every interleaving of the
adapter's statements, whatever the engine answers: what is sent is what the threads sent; a thread
that has not returned has sent nothing, and one that has returned did what its call says. -/
theorem sends_once (engineSocket : CppString) (begins : start.Begin)
    (steps : List (Nat × EngineAnswers)) :
    let past := (adapterSections engineSocket).machine.history
      (start.threads AdapterMutex.Inside) steps
    let now := (adapterSections engineSocket).machine.run (start.threads AdapterMutex.Inside) steps
    let made := past.filterMap Prod.snd
    (now.guarded .cacheMutex).sent.Perm ((start.guarded .cacheMutex).sent ++
        (List.range start.places.length).flatMap fun id => actionsOf (eventsOf id past)) ∧
      ∀ id method, start.places[id]? = some (.begins method) →
        (∃ result, now.places[id]? = some (.inl (.returned result)) ∧
          Returns (start.guarded .cacheMutex) made (eventsOf id past) method result) ∨
        (∀ result, now.places[id]? ≠ some (.inl (.returned result))) ∧
          actionsOf (eventsOf id past) = [] :=
  ⟨sent_perm engineSocket start steps, fun _ _ begun => returns_or_silent engineSocket begins steps
    begun⟩

/-- In the sample run the command to the lamp returned true, so it was sent, to a WeMo the lamp stands
for in a list the engine gave, and the `Discover` beside it sent nothing. -/
theorem sends_once_sample :
    let past := (adapterSections []).machine.history
      (sampleThreads.threads AdapterMutex.Inside) sampleTurns
    actionsOf (eventsOf 0 past) = [] ∧ ∃ wemoId list, Fetched (past.filterMap Prod.snd) list ∧
      list.cached (literal "uuid:Lamp") = some wemoId ∧ actionsOf (eventsOf 1 past) =
        [(Command.setOnOff (literal "uuid:Lamp") true).sendState wemoId] := by
  intro past
  obtain ⟨-, calls⟩ := sends_once [] sampleThreads_begin sampleTurns
  constructor
  · rcases calls 0 (.lister .discover) rfl with ⟨_, -, silent, -⟩ | ⟨-, silent⟩
    · exact silent
    · exact silent
  · have returned : ((adapterSections []).machine.run (sampleThreads.threads AdapterMutex.Inside)
        sampleTurns).places[1]? =
          some (.inl (.returned (.sent (.setOnOff (literal "uuid:Lamp") true) true))) := by rfl
    rcases calls 1 (.lister (.command (.setOnOff (literal "uuid:Lamp") true))) rfl with
      ⟨_, here, _, rfl, ⟨wemoId, before | ⟨list, fetched, named⟩, sent⟩ | ⟨-, rfl, -⟩⟩ |
        ⟨unfinished, -⟩
    · cases before
    · exact ⟨wemoId, list, fetched, named, sent⟩
    · cases returned.symm.trans here
    · exact absurd returned (unfinished _)

/-! ### Delivery -/

/-- The engine is up and its list names the home. -/
def EngineAnswers.Serves (home : UdnCache) (answers : EngineAnswers) : Prop :=
  answers.weInit = true ∧ ∃ list, answers.weListDevices = some list ∧ list.cached = home

/-- The action of a command to a WeMo of the home. -/
def AdapterPlace.actionIn (home : UdnCache) : AdapterPlace → Option Action
  | .begins (.lister (.command asked)) =>
      (home asked.udn).map fun wemoId => asked.sendState wemoId
  | _ => none

/-- The call was answered by an engine that is up and lists the home. -/
def EngineCall.ServedBy (home : UdnCache) : EngineCall → Prop
  | .init answer => answer = true
  | .listDevices answer => ∃ list, answer = some list ∧ list.cached = home
  | _ => True

/-- A call records what the engine answers to it. -/
theorem call_served {home : UdnCache} {answers : EngineAnswers} (serves : answers.Serves home)
    (engineSocket : CppString) (now : AdapterThreads) (id : Nat) {call : EngineCall}
    (calls : ((adapterSections engineSocket).step now (id, answers)).2 = some call) :
    call.ServedBy home := by
  have within : ∀ {mutex : AdapterMutex} {place : mutex.Inside} {guarded after : mutex.Guarded}
      {next : mutex.Inside ⊕ AdapterPlace},
      (adapterSections engineSocket).within mutex guarded place answers = (after, next, some call) →
        call.ServedBy home := by
    intro mutex place guarded after next stepped
    cases mutex with
    | initLock =>
      replace stepped : EnsurePlace.step engineSocket guarded answers place = _ := stepped
      cases place with
      | check method => cases stepped
      | configure method =>
        rw [EnsurePlace.step] at stepped
        obtain ⟨target, -, rfl⟩ := Option.map_eq_some_iff.mp (congrArg (·.2.2) stepped)
        exact trivial
      | weInit method =>
        cases stepped
        exact serves.1
    | cacheMutex =>
      replace stepped : CachePlace.step guarded answers place = _ := stepped
      rcases place with asked | list | ⟨_ | _, _⟩ | ⟨_ | _, _⟩ | asked | ⟨asked, wemoId⟩ <;>
        cases stepped
      exact trivial
  rcases Sections.step_cases now id answers with moves | ⟨-, stays⟩
  · rw [calls] at moves
    generalize ((adapterSections engineSocket).step now (id, answers)).1 = after at moves
    cases moves with
    | @alone place next event here waits stepped =>
      replace stepped : place.alone answers = _ := stepped
      rcases place with asked | ((_ | asked) | _ | _) | asked | lister | ⟨lister, list⟩ | result <;>
        cases stepped
      all_goals first | exact trivial | exact serves.2
    | stays here stepped => exact within stepped
    | leaves here stepped => exact within stepped
  · rw [stays] at calls
    cases calls

/-- So do all calls of a run. -/
theorem made_served {home : UdnCache} (engineSocket : CppString) (start : AdapterThreads)
    {steps : List (Nat × EngineAnswers)} (serves : ∀ step ∈ steps, step.2.Serves home) :
    ∀ call ∈ ((adapterSections engineSocket).machine.history start steps).filterMap Prod.snd,
      call.ServedBy home := by
  intro call member
  obtain ⟨⟨⟨id, answers⟩, made⟩, listed, rfl⟩ := List.mem_filterMap.mp member
  obtain ⟨now, stepped⟩ := Machine.exists_step_of_mem_history _ listed
  exact call_served (serves _ (Machine.mem_of_mem_history listed)) engineSocket now id stepped.symm

/-- A list that was given names the home. -/
theorem fetched_home {home : UdnCache} {calls : List EngineCall}
    (served : ∀ call ∈ calls, call.ServedBy home) {list : WeDeviceList}
    (fetched : Fetched calls list) : list.cached = home := by
  obtain ⟨_, same, cached⟩ := served _ fetched
  cases same
  exact cached

/-- With an engine that serves a home, a UDN stands for what the home says. -/
theorem named_home {home : UdnCache} {status : CacheStatus} {made : List EngineCall}
    (cached : ∀ udn wemoId, status.mUdnToWemoId udn = some wemoId → home udn = some wemoId)
    (served : ∀ call ∈ made, call.ServedBy home) {udn : CppString} {wemoId : Int}
    (named : Named status made udn wemoId) : home udn = some wemoId := by
  rcases named with before | ⟨list, fetched, found⟩
  · exact cached udn wemoId before
  · rw [← fetched_home served fetched]
    exact found

/-- So a call that has returned has sent the action the home gives its command. -/
theorem returns_home {home : UdnCache} {status : CacheStatus} {made calls : List EngineCall}
    (cached : ∀ udn wemoId, status.mUdnToWemoId udn = some wemoId → home udn = some wemoId)
    (served : ∀ call ∈ made, call.ServedBy home) (own : calls ⊆ made) {method : Method}
    {result : CallResult} (returns : Returns status made calls method result) :
    actionsOf calls = ((AdapterPlace.begins method).actionIn home).toList := by
  have up : ¬ EngineFails calls := by
    rintro (off | missing)
    · cases served _ (own off)
    · obtain ⟨_, other, -⟩ := served _ (own missing)
      cases other
  rcases method with (_ | asked) | _ | _
  · exact returns.1
  · obtain ⟨answer, -, ⟨wemoId, named, sent⟩ | ⟨silent, -, fails | ⟨list, fetched, missing⟩⟩⟩ :=
      returns
    · rw [sent, AdapterPlace.actionIn, named_home cached served named]
      rfl
    · exact absurd fails up
    · rw [silent, AdapterPlace.actionIn, ← fetched_home served (own fetched), missing]
      rfl
  · exact returns.1
  · exact returns.1

/-- If every thread has sent the action of its call, then those are the actions that were sent. -/
theorem sent_actions (engineSocket : CppString) (begins : start.Begin) {home : UdnCache}
    {steps : List (Nat × EngineAnswers)}
    (each : ∀ id method, start.places[id]? = some (.begins method) →
      actionsOf (eventsOf id ((adapterSections engineSocket).machine.history
        (start.threads AdapterMutex.Inside) steps)) =
        ((AdapterPlace.begins method).actionIn home).toList) :
    (((adapterSections engineSocket).machine.run (start.threads AdapterMutex.Inside)
      steps).guarded .cacheMutex).sent.Perm
        ((start.guarded .cacheMutex).sent ++ start.places.filterMap (·.actionIn home)) := by
  refine (sent_perm engineSocket start steps).trans (List.Perm.append_left _ ?_)
  rw [← filterMap_range_getElem?, List.filterMap_eq_flatMap_toList]
  refine List.Perm.of_eq (List.flatMap_congr fun id member => ?_)
  have inRange := List.mem_range.mp member
  obtain ⟨method, begun⟩ := begins _ (List.getElem_mem inRange)
  have here : start.places[id]? = some (.begins method) := by
    rw [List.getElem?_eq_getElem inRange, begun]
  rw [each id method here, here, Option.bind_some]

/-- When all calls have returned, so has each. -/
theorem returned_of_ended {engineSocket : CppString} {steps : List (Nat × EngineAnswers)} {id : Nat}
    {method : Method} (begun : start.places[id]? = some (.begins method))
    (ended : ∀ place ∈ ((adapterSections engineSocket).machine.run
      (start.threads AdapterMutex.Inside) steps).places, ∃ result, place = .inl (.returned result)) :
    ∃ result, ((adapterSections engineSocket).machine.run (start.threads AdapterMutex.Inside)
      steps).places[id]? = some (.inl (.returned result)) := by
  have inRange : id < ((adapterSections engineSocket).machine.run
      (start.threads AdapterMutex.Inside) steps).places.length := by
    rw [(Sections.length_places_run _ _).1, Sections.Atomic.length_threads]
    exact (List.getElem?_eq_some_iff.mp begun).1
  obtain ⟨result, returned⟩ := ended _ (List.getElem_mem inRange)
  exact ⟨result, by rw [List.getElem?_eq_getElem inRange, returned]⟩

/-- **Every command is delivered once.** If the engine is up and every list it gives names the same
home, and the cache names no WeMo that is not in the home, then under every fair schedule all calls
return, and when they have, what was sent is the action of every command to the WeMo of its UDN in
the home, once each, and nothing for a UDN the home does not have. -/
theorem commands_delivered (engineSocket : CppString) (begins : start.Begin) {home : UdnCache}
    (cached : ∀ udn wemoId,
      (start.guarded .cacheMutex).mUdnToWemoId udn = some wemoId → home udn = some wemoId)
    (schedule : Nat → Nat × EngineAnswers) (fair : Sections.Fair start.places.length schedule)
    (serves : ∀ moment, (schedule moment).2.Serves home) :
    let trace := (adapterSections engineSocket).machine.trajectory
      (start.threads AdapterMutex.Inside) schedule
    let ended := fun count => ∀ place ∈ (trace count).places,
      ∃ result, place = .inl (.returned result)
    (∃ count, ended count) ∧ ∀ count, ended count →
      ((trace count).guarded .cacheMutex).sent.Perm
        ((start.guarded .cacheMutex).sent ++ start.places.filterMap (·.actionIn home)) := by
  intro trace ended
  refine ⟨calls_end engineSocket start fair, fun count all => ?_⟩
  have run : trace count = _ := Machine.trajectory_eq_run _ _ schedule count
  replace all : ∀ place ∈ (trace count).places, ∃ result, place = .inl (.returned result) := all
  rw [run] at all ⊢
  refine sent_actions engineSocket begins fun id method here => ?_
  have scheduled : ∀ step ∈ (List.range count).map schedule, step.2.Serves home := by
    intro step member
    obtain ⟨moment, -, rfl⟩ := List.mem_map.mp member
    exact serves moment
  have served := made_served engineSocket (start.threads AdapterMutex.Inside) scheduled
  obtain ⟨result, returned⟩ := returned_of_ended here all
  rcases returns_or_silent engineSocket begins ((List.range count).map schedule) here with
    ⟨_, -, returns⟩ | ⟨unfinished, -⟩
  · exact returns_home cached served (Sections.eventsOf_subset _ _) returns
  · exact absurd returned (unfinished result)

/-- The sample threads taking turns, on an engine that lists the lamp as WeMo 7. -/
theorem commands_delivered_sample : ∃ count,
    ((((adapterSections []).machine.trajectory (sampleThreads.threads AdapterMutex.Inside)
      (fun moment => (moment % 2, lampListed 7)) count)).guarded .cacheMutex).sent =
        [{ wemoId := 7, state := 1, level := -1, isOnline := 1 }] := by
  have served : (lampListed 7).Serves
      (WeDeviceList.cached (listOf [listedSocket 7 "uuid:Lamp"])) := ⟨rfl, _, rfl, rfl⟩
  obtain ⟨⟨count, ended⟩, sent⟩ := commands_delivered [] sampleThreads_begin
    (fun _ _ found => by cases found) (fun moment => (moment % 2, lampListed 7))
    (Sections.fair_turns 2 _) fun _ => served
  refine ⟨count, List.perm_singleton.mp ((sent count ended).trans (List.Perm.of_eq ?_))⟩
  decide

end Runs

/-! ### Commands the cache knows -/

section Known

variable (cache : UdnCache)

/-- The call fetches no list: a command's UDN is in the cache. -/
def Method.KnownTo : Method → Prop
  | .lister (.command asked) => (cache asked.udn).isSome
  | .lister .discover => False
  | .refresh => True
  | .registerStateCallback => True

/-- **The outline of calls that fetch no list**: the engine stays initialised and the cache the
same. -/
def knownOutline (places : List AdapterPlace) :
    Outline AdapterMutex.Guarded AdapterMutex.Inside AdapterPlace EngineCall where
  free mutex guarded :=
    match mutex, guarded with
    | .initLock, status => EngineStatus.initialized status = true
    | .cacheMutex, status => CacheStatus.mUdnToWemoId status = cache
  outside id calls place :=
    ∃ method, places[id]? = some (.begins method) ∧ method.KnownTo cache ∧
      ((place = .begins method ∨ place = .ensured method) ∧ actionsOf calls = [] ∨
        (∃ result, place = .returned result) ∧
          actionsOf calls = ((AdapterPlace.begins method).actionIn cache).toList)
  inside id calls mutex guarded place :=
    ∃ method, places[id]? = some (.begins method) ∧ method.KnownTo cache ∧ actionsOf calls = [] ∧
      match mutex, guarded, place with
      | .initLock, status, place =>
          EngineStatus.initialized status = true ∧ place = EnsurePlace.check method
      | .cacheMutex, status, place =>
          CacheStatus.mUdnToWemoId status = cache ∧
            ∃ asked, method = .lister (.command asked) ∧
              (place = CachePlace.lookup asked ∨
                ∃ wemoId, cache asked.udn = some wemoId ∧ place = CachePlace.send asked wemoId)

variable {cache}

/-- **The outline is valid**, whatever the engine answers. -/
theorem knownOutline_valid (engineSocket : CppString) (places : List AdapterPlace) :
    (knownOutline cache places).Valid (adapterSections engineSocket) fun _ _ => True where
  takes := by
    rintro id own place first guarded ⟨method, begins, known, ⟨rfl | rfl, silent⟩ | ⟨⟨_, rfl⟩, -⟩⟩
      waits free
    · cases waits
      exact ⟨method, begins, known, silent, free, rfl⟩
    · rcases method with (_ | asked) | _ | _ <;> cases waits
      exact ⟨_, begins, known, silent, free, asked, rfl, Or.inl rfl⟩
    · cases waits
  alone := by
    rintro id own place answers ⟨method, begins, known, ⟨rfl | rfl, silent⟩ | ⟨⟨_, rfl⟩, sent⟩⟩
      waits -
    · cases waits
    · rcases method with (_ | asked) | _ | _
      · exact False.elim known
      · cases waits
      · exact ⟨_, begins, known, Or.inr ⟨⟨_, rfl⟩, actionsOf_silent silent _ rfl⟩⟩
      · exact ⟨_, begins, known, Or.inr ⟨⟨_, rfl⟩, actionsOf_silent silent _ rfl⟩⟩
    · exact ⟨_, begins, known, Or.inr ⟨⟨_, rfl⟩, by rw [← sent]; exact congrArg _ (List.append_nil _)⟩⟩
  stays := by
    rintro id own mutex guarded place answers after next call ⟨method, begins, known, silent, here⟩ -
      stepped
    cases mutex with
    | initLock =>
      obtain ⟨ready, rfl⟩ := here
      simp [adapterSections, EnsurePlace.step, ready] at stepped
    | cacheMutex =>
      obtain ⟨same, asked, rfl, rfl | ⟨wemoId, found, rfl⟩⟩ := here
      · obtain ⟨wemoId, found⟩ := Option.isSome_iff_exists.mp known
        replace stepped : (CachePlace.lookup asked).step guarded answers = _ := stepped
        rw [← same] at found
        simp only [CachePlace.step, found, Prod.mk.injEq, Sum.inl.injEq] at stepped
        obtain ⟨rfl, rfl, rfl⟩ := stepped
        refine ⟨_, begins, known, ?_, same, asked, rfl, Or.inr ⟨wemoId, same ▸ found, rfl⟩⟩
        rw [Option.toList_none, List.append_nil, silent]
      · simp [adapterSections, CachePlace.step] at stepped
  leaves := by
    rintro id own mutex guarded place answers after next call ⟨method, begins, known, silent, here⟩ -
      stepped
    cases mutex with
    | initLock =>
      obtain ⟨ready, rfl⟩ := here
      simp only [adapterSections, EnsurePlace.step, ready, if_true, Prod.mk.injEq,
        Sum.inr.injEq] at stepped
      obtain ⟨rfl, rfl, rfl⟩ := stepped
      refine ⟨ready, method, begins, known, Or.inl ⟨Or.inr rfl, ?_⟩⟩
      rw [Option.toList_none, List.append_nil, silent]
    | cacheMutex =>
      obtain ⟨same, asked, rfl, rfl | ⟨wemoId, found, rfl⟩⟩ := here
      · obtain ⟨wemoId, found⟩ := Option.isSome_iff_exists.mp known
        rw [← same] at found
        simp [adapterSections, CachePlace.step, found] at stepped
      · replace stepped : (CachePlace.send asked wemoId).step guarded answers = _ := stepped
        simp only [CachePlace.step, Prod.mk.injEq, Sum.inr.injEq] at stepped
        obtain ⟨rfl, rfl, rfl⟩ := stepped
        refine ⟨same, _, begins, known, Or.inr ⟨⟨_, rfl⟩, ?_⟩⟩
        rw [actionsOf_append, silent, AdapterPlace.actionIn, found]
        rfl

/-- **Commands the cache knows are delivered once, whatever the engine answers**: under every fair
schedule the calls return, having sent the action of every command to the WeMo the cache has for its
UDN. -/
theorem known_delivered (engineSocket : CppString) {start : AdapterSections} (begins : start.Begin)
    (initialized : (start.guarded .initLock).initialized = true)
    (known : ∀ method, .begins method ∈ start.places →
      method.KnownTo (start.guarded .cacheMutex).mUdnToWemoId)
    (schedule : Nat → Nat × EngineAnswers) (fair : Sections.Fair start.places.length schedule) :
    ∃ count,
      let now := (adapterSections engineSocket).machine.trajectory
        (start.threads AdapterMutex.Inside) schedule count
      (∀ place ∈ now.places, ∃ result, place = .inl (.returned result)) ∧
        (now.guarded .cacheMutex).sent.Perm ((start.guarded .cacheMutex).sent ++
          start.places.filterMap (·.actionIn (start.guarded .cacheMutex).mUdnToWemoId)) := by
  obtain ⟨count, ended⟩ := calls_end engineSocket start fair
  refine ⟨count, ended, ?_⟩
  rw [Machine.trajectory_eq_run] at ended ⊢
  refine sent_actions engineSocket begins fun id method here => ?_
  obtain ⟨result, returned⟩ := returned_of_ended here ended
  have initially : (knownOutline (start.guarded .cacheMutex).mUdnToWemoId start.places).Holds
      ([] : List ((Nat × EngineAnswers) × Option EngineCall))
      (start.threads AdapterMutex.Inside) := by
    refine Outline.holds_start start (fun mutex => ?_) fun id place there => ?_
    · cases mutex with
      | initLock => exact initialized
      | cacheMutex => rfl
    · obtain ⟨method, rfl⟩ := begins place (List.mem_of_getElem? there)
      exact ⟨method, there, known method (List.mem_of_getElem? there), Or.inl ⟨Or.inl rfl, rfl⟩⟩
  have holds := @Outline.Valid.run _ _ _ _ _ _ _ _ _ _
    (knownOutline_valid engineSocket start.places) (start.threads AdapterMutex.Inside)
    ((List.range count).map schedule) (fun _ _ => trivial) initially
  obtain ⟨_, same, -, ⟨partway, -⟩ | ⟨-, sent⟩⟩ := holds.outside returned
  · rcases partway with other | other <;> cases other
  · cases here.symm.trans same
    exact sent

end Known

end WemoBridge
