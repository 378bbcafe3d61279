/-
**What the engine sees, and when the calls return.**

The engine wants `we_set_ipc_target` before `we_init`, and `we_init` before everything else.
`engine_protocol`: it is called so in every interleaving of the adapter's statements. The target is
set at most once and first, `we_init` is called again exactly as long as it fails, and all other
calls come after the one that succeeds. The invariant is what a thread's place says of the status
that `init_lock` guards (`AllowedAt`), next to the calls so far (`StatusCalls`).

`fair_calls_return`: under every fair schedule all calls return.
-/

import WemoBridge.AdapterThreads

namespace WemoBridge

open Library
open Library.Sections (Moves Threads)

/-! ### The protocol -/

/-- A call that needs an initialised engine. -/
def EngineCall.IsWork : EngineCall → Prop
  | .setIpcTarget _ _ => False
  | .init _ => False
  | _ => True

/-- What the engine is told first. -/
def targetCalls (engineSocket : CppString) : List EngineCall :=
  (maybeConfigureIpcTarget engineSocket).toList.map fun target => .setIpcTarget target.1 target.2

/-- The target and some failed tries. -/
def triedCalls (engineSocket : CppString) (tries : Nat) : List EngineCall :=
  targetCalls engineSocket ++ List.replicate tries (.init false)

/-- **The order of calls**: the target, failed calls of `we_init`, then one that succeeds, and only
then work; or a part of that from the beginning. -/
def InOrder (engineSocket : CppString) (calls : List EngineCall) : Prop :=
  calls = [] ∨ (∃ tries, calls = triedCalls engineSocket tries) ∨
    ∃ tries work, calls = triedCalls engineSocket tries ++ .init true :: work ∧
      ∀ call ∈ work, call.IsWork

/-- What the status says of the calls so far. -/
def StatusCalls (engineSocket : CppString) (calls : List EngineCall) (status : EngineStatus) :
    Prop :=
  if status.initialized then
    ∃ tries work, calls = triedCalls engineSocket tries ++ .init true :: work ∧
      ∀ call ∈ work, call.IsWork
  else if status.targetConfigured then ∃ tries, calls = triedCalls engineSocket tries
  else calls = []

/-- What the place of a thread says of the status. -/
def AllowedAt (status : EngineStatus) : AdapterPlace ⊕ Sigma AdapterMutex.Inside → Prop
  | .inl place => place.NeedsEngine → status.initialized = true
  | .inr ⟨.cacheMutex, _⟩ => status.initialized = true
  | .inr ⟨.initLock, .check _⟩ => True
  | .inr ⟨.initLock, .configure _⟩ =>
      status.initialized = false ∧ status.targetConfigured = false
  | .inr ⟨.initLock, .weInit _⟩ => status.initialized = false ∧ status.targetConfigured = true

/-- **The invariant**: who owns the mutexes, the calls so far, and the place of every thread. -/
structure EngineOrder (engineSocket : CppString) (calls : List EngineCall) (now : AdapterThreads) :
    Prop where
  sound : now.Sound
  calls : StatusCalls engineSocket calls (now.guarded .initLock)
  allowed : ∀ {id : Nat} {place : AdapterPlace ⊕ Sigma AdapterMutex.Inside},
    now.places[id]? = some place → AllowedAt (now.guarded .initLock) place

section Order

variable {engineSocket : CppString} {calls : List EngineCall} {status : EngineStatus}

theorem StatusCalls.inOrder (said : StatusCalls engineSocket calls status) :
    InOrder engineSocket calls := by
  unfold StatusCalls at said
  split at said
  · exact Or.inr (Or.inr said)
  · split at said
    · exact Or.inr (Or.inl said)
    · exact Or.inl said

/-- Work is done on an initialised engine. -/
theorem StatusCalls.work (said : StatusCalls engineSocket calls status)
    (ready : status.initialized = true) {call : EngineCall} (work : call.IsWork) :
    StatusCalls engineSocket (calls ++ [call]) status := by
  unfold StatusCalls at said ⊢
  rw [if_pos ready] at said ⊢
  obtain ⟨tries, done, rfl, allWork⟩ := said
  refine ⟨tries, done ++ [call], by rw [List.append_assoc, List.cons_append], ?_⟩
  intro other member
  rcases List.mem_append.mp member with before | last
  · exact allWork other before
  · rw [List.mem_singleton.mp last]
    exact work

/-- The target is told first, if there is one. -/
theorem StatusCalls.configure (said : StatusCalls engineSocket calls status)
    (off : status.initialized = false) (unset : status.targetConfigured = false) :
    StatusCalls engineSocket
      (calls ++ ((maybeConfigureIpcTarget engineSocket).map fun target =>
        EngineCall.setIpcTarget target.1 target.2).toList)
      { status with targetConfigured := true } := by
  unfold StatusCalls at said ⊢
  rw [off, unset] at said
  rw [off]
  simp only [Bool.false_eq_true, if_false] at said
  refine ⟨0, ?_⟩
  rw [said, triedCalls, targetCalls, List.replicate_zero, List.append_nil, List.nil_append]
  cases maybeConfigureIpcTarget engineSocket <;> rfl

/-- Another try. -/
theorem StatusCalls.init (said : StatusCalls engineSocket calls status)
    (off : status.initialized = false) (set : status.targetConfigured = true) (answer : Bool) :
    StatusCalls engineSocket (calls ++ [.init answer]) { status with initialized := answer } := by
  unfold StatusCalls at said ⊢
  rw [off, set] at said
  simp only [Bool.false_eq_true, if_false, if_true] at said
  obtain ⟨tries, rfl⟩ := said
  cases answer with
  | true => exact ⟨tries, [], rfl, fun call member => by cases member⟩
  | false =>
    rw [set]
    refine ⟨tries + 1, ?_⟩
    rw [triedCalls, triedCalls, List.append_assoc, List.replicate_succ']

end Order

section Step

variable {engineSocket : CppString} {calls : List EngineCall} {now next : AdapterThreads}
  {id : Nat} {answers : EngineAnswers} {call : Option EngineCall}

/-- A thread that holds `init_lock` holds it alone. -/
theorem EngineOrder.alone (order : EngineOrder engineSocket calls now) {there : EnsurePlace}
    (here : now.places[id]? = some (.inr ⟨.initLock, there⟩)) {other : Nat}
    (different : other ≠ id) {elsewhere : EnsurePlace}
    (found : now.places[other]? = some (.inr ⟨.initLock, elsewhere⟩)) : False := by
  have owner := order.sound.owns here
  rw [order.sound.owns found] at owner
  exact different (Option.some.inj owner)

/-- While a thread initialises the engine, no other one needs it. -/
theorem EngineOrder.others (order : EngineOrder engineSocket calls now) {there : EnsurePlace}
    (here : now.places[id]? = some (.inr ⟨.initLock, there⟩))
    (off : (now.guarded .initLock).initialized = false) {other : Nat} (different : other ≠ id)
    {place : AdapterPlace ⊕ Sigma AdapterMutex.Inside} (found : now.places[other]? = some place)
    (status : EngineStatus) : AllowedAt status place := by
  have was := order.allowed found
  rcases place with outside | ⟨_ | _, inside⟩
  · intro needs
    rw [was needs] at off
    cases off
  · exact (order.alone here different found).elim
  · rw [show (now.guarded .initLock).initialized = true from was] at off
    cases off

/-- The places after one thread has moved. -/
theorem allowed_set {places : List (AdapterPlace ⊕ Sigma AdapterMutex.Inside)}
    {place after : AdapterPlace ⊕ Sigma AdapterMutex.Inside} (here : places[id]? = some place)
    {status : EngineStatus} (moved : AllowedAt status after)
    (others : ∀ {other there}, other ≠ id → places[other]? = some there →
      AllowedAt status there) {other : Nat} {there : AdapterPlace ⊕ Sigma AdapterMutex.Inside}
    (found : (places.set id after)[other]? = some there) : AllowedAt status there := by
  rw [Sections.getElem?_set_place here] at found
  split at found
  · cases found
    exact moved
  · rename_i different
    exact others different found

/-- A statement outside the mutexes is work, or calls nothing. -/
theorem alone_call (place : AdapterPlace) (answers : EngineAnswers) :
    (place.alone answers).2 = none ∧ ((place.alone answers).1.NeedsEngine → place.NeedsEngine) ∨
      place.NeedsEngine ∧ ∃ call, (place.alone answers).2 = some call ∧ call.IsWork := by
  cases place with
  | begins method => exact Or.inl ⟨rfl, fun needs => needs⟩
  | ensured method =>
    rcases method with (_ | asked) | _ | _
    · exact Or.inr ⟨trivial, _, rfl, trivial⟩
    · exact Or.inl ⟨rfl, fun needs => needs⟩
    · exact Or.inr ⟨trivial, _, rfl, trivial⟩
    · exact Or.inr ⟨trivial, _, rfl, trivial⟩
  | missed asked => exact Or.inr ⟨trivial, _, rfl, trivial⟩
  | discovered lister => exact Or.inr ⟨trivial, _, rfl, trivial⟩
  | listed lister list => exact Or.inl ⟨rfl, fun needs => needs⟩
  | returned result => exact Or.inl ⟨rfl, fun needs => needs⟩

/-- A statement under the cache mutex is work, or calls nothing. -/
theorem cache_call (place : CachePlace) (status : CacheStatus) (answers : EngineAnswers) :
    (place.step status answers).2.2 = none ∨
      ∃ call, (place.step status answers).2.2 = some call ∧ call.IsWork := by
  rcases place with asked | list | ⟨_ | _, devices⟩ | ⟨_ | _, asked⟩ | asked | ⟨asked, wemoId⟩
  · exact Or.inl rfl
  · exact Or.inl rfl
  · exact Or.inl rfl
  · exact Or.inl rfl
  · exact Or.inl rfl
  · exact Or.inl rfl
  · exact Or.inl rfl
  · exact Or.inr ⟨_, rfl, trivial⟩

/-- The calls after a statement that may be work. -/
theorem StatusCalls.append {status : EngineStatus}
    (said : StatusCalls engineSocket calls status)
    (kind : call = none ∨ ∃ work, call = some work ∧ work.IsWork)
    (ready : call ≠ none → status.initialized = true) :
    StatusCalls engineSocket (calls ++ call.toList) status := by
  rcases kind with rfl | ⟨work, rfl, isWork⟩
  · rw [Option.toList_none, List.append_nil]
    exact said
  · exact said.work (ready (by simp)) isWork

/-- Where a thread goes that takes a mutex. -/
theorem allowed_takes {place : AdapterPlace} {first : Sigma AdapterMutex.Inside}
    (waits : place.takes = some first) {status : EngineStatus}
    (was : AllowedAt status (.inl place)) : AllowedAt status (.inr first) := by
  cases place with
  | begins method =>
    cases waits
    exact trivial
  | ensured method =>
    rcases method with (_ | asked) | _ | _
    · cases waits
    · cases waits
      exact was trivial
    · cases waits
    · cases waits
  | missed asked => cases waits
  | discovered lister => cases waits
  | listed lister list =>
    cases lister <;> cases waits <;> exact was trivial
  | returned result => cases waits

/-- A statement of `EnsureEngineInitialized` keeps the status and the calls in step, and the thread
where it is allowed. It changes the status only while the engine is not initialised. -/
theorem ensure_step {status : EngineStatus} {place : EnsurePlace}
    (said : StatusCalls engineSocket calls status)
    (was : AllowedAt status (.inr ⟨.initLock, place⟩)) (answers : EngineAnswers) :
    StatusCalls engineSocket (calls ++ (place.step engineSocket status answers).2.2.toList)
        (place.step engineSocket status answers).1 ∧
      AllowedAt (place.step engineSocket status answers).1
        ((place.step engineSocket status answers).2.1.elim (fun there => .inr ⟨.initLock, there⟩)
          .inl) ∧
      ((place.step engineSocket status answers).1 = status ∨ status.initialized = false) := by
  cases place with
  | check method =>
    refine ⟨?_, ?_, Or.inl rfl⟩
    · rw [EnsurePlace.step, Option.toList_none, List.append_nil]
      exact said
    · rw [EnsurePlace.step]
      by_cases ready : status.initialized = true
      · rw [if_pos ready]
        exact fun _ => ready
      · have off := Bool.not_eq_true _ ▸ ready
        rw [if_neg ready]
        by_cases set : status.targetConfigured = true
        · rw [if_pos set]
          exact ⟨off, set⟩
        · rw [if_neg set]
          exact ⟨off, Bool.not_eq_true _ ▸ set⟩
  | configure method => exact ⟨said.configure was.1 was.2, ⟨was.1, rfl⟩, Or.inr was.1⟩
  | weInit method =>
    refine ⟨said.init was.1 was.2 answers.weInit, ?_, Or.inr was.1⟩
    rw [EnsurePlace.step]
    cases answers.weInit with
    | true => exact fun _ => rfl
    | false => exact False.elim

/-- A statement inside a section keeps the engine's order, wherever the thread goes. -/
theorem EngineOrder.within (order : EngineOrder engineSocket calls now) {mutex : AdapterMutex}
    {place : mutex.Inside} (here : now.places[id]? = some (.inr ⟨mutex, place⟩))
    {status : mutex.Guarded} {moved : mutex.Inside ⊕ AdapterPlace}
    (stepped : (adapterSections engineSocket).within mutex (now.guarded mutex) place answers =
      (status, moved, call)) {owner : AdapterMutex → Option Nat}
    (sound : Threads.Sound
      ({ guarded := Function.update now.guarded mutex status, owner := owner
         places := now.places.set id (moved.elim (fun there => .inr ⟨mutex, there⟩) .inl) } :
        AdapterThreads)) :
    EngineOrder engineSocket (calls ++ call.toList)
      { guarded := Function.update now.guarded mutex status, owner := owner
        places := now.places.set id (moved.elim (fun there => .inr ⟨mutex, there⟩) .inl) } := by
  have was := order.allowed here
  cases mutex with
  | initLock =>
    obtain ⟨said, allowed, changes⟩ := ensure_step order.calls was answers
    replace stepped : EnsurePlace.step engineSocket (now.guarded .initLock) answers place =
      (status, moved, call) := stepped
    rw [stepped] at said allowed changes
    refine ⟨sound, ?_, allowed_set here ?_ fun {other there} different found => ?_⟩
    all_goals
      dsimp only
      rw [Function.update_self]
    · exact said
    · exact allowed
    · rcases changes with same | off
      · rw [show status = now.guarded .initLock from same]
        exact order.allowed found
      · exact order.others here off different found status
  | cacheMutex =>
    have ready : (now.guarded .initLock).initialized = true := was
    have kind := cache_call place (now.guarded .cacheMutex) answers
    replace stepped : CachePlace.step (now.guarded .cacheMutex) answers place =
      (status, moved, call) := stepped
    rw [stepped] at kind
    have elsewhere : Function.update now.guarded .cacheMutex status .initLock =
        now.guarded .initLock := Function.update_of_ne (by decide) _ _
    refine ⟨sound, ?_, allowed_set here ?_ fun {other there} different found => ?_⟩
    all_goals
      dsimp only
      rw [elsewhere]
    · exact order.calls.append kind fun _ => ready
    · cases moved with
      | inl there => exact ready
      | inr next => exact fun _ => ready
    · exact order.allowed found

/-- **A statement keeps the engine's order.** -/
theorem EngineOrder.move (order : EngineOrder engineSocket calls now)
    (moves : Moves (adapterSections engineSocket) now id answers next call) :
    EngineOrder engineSocket (calls ++ call.toList) next := by
  have sound := order.sound.moves moves
  cases moves with
  | @takes place first here waits free =>
    refine ⟨sound, ?_, allowed_set here (allowed_takes waits (order.allowed here))
      fun _ found => order.allowed found⟩
    rw [Option.toList_none, List.append_nil]
    exact order.calls
  | @alone place after event here waits stepped =>
    have was := order.allowed here
    obtain ⟨rfl, rfl⟩ : (place.alone answers).1 = after ∧ (place.alone answers).2 = call :=
      Prod.mk.inj stepped
    have kind := alone_call place answers
    refine ⟨sound, order.calls.append ?_ ?_, allowed_set here ?_ fun _ found => order.allowed found⟩
    · exact kind.imp And.left And.right
    · intro calls
      rcases kind with ⟨nothing, -⟩ | ⟨needs, -⟩
      · exact absurd nothing calls
      · exact was needs
    · rcases kind with ⟨-, needs⟩ | ⟨needs, -⟩
      · exact fun after => was (needs after)
      · exact fun _ => was needs
  | stays here stepped => exact order.within here stepped sound
  | leaves here stepped => exact order.within here stepped sound

/-- **`we_set_ipc_target`, then `we_init` until it succeeds, then everything else.** In every
interleaving of the adapter's statements from a fresh process, whatever the threads call and the
engine answers, the engine is called in this order: the target at most once and before everything
else, `we_init` as long as it fails, and discoveries, lists, commands and the registration of the
callback only after it has succeeded, after which neither is called again. -/
theorem engine_protocol (engineSocket : CppString) {start : AdapterSections}
    (begins : start.Begin)
    (fresh : start.guarded .initLock = { targetConfigured := false, initialized := false })
    (steps : List (Nat × EngineAnswers)) :
    InOrder engineSocket (((adapterSections engineSocket).machine.history
      (start.threads AdapterMutex.Inside) steps).filterMap Prod.snd) := by
  have initially : EngineOrder engineSocket [] (start.threads AdapterMutex.Inside) := by
    refine ⟨start.threads_sound, ?_, ?_⟩
    · show StatusCalls engineSocket [] (start.guarded .initLock)
      rw [fresh]
      rfl
    · intro id place here
      obtain ⟨outside, member, rfl⟩ := List.mem_map.mp (List.mem_of_getElem? here)
      obtain ⟨method, rfl⟩ := begins outside member
      exact False.elim
  have step : ∀ (past : List ((Nat × EngineAnswers) × Option EngineCall)) (now : AdapterThreads)
      (input : Nat × EngineAnswers), EngineOrder engineSocket (past.filterMap Prod.snd) now →
      EngineOrder engineSocket
        ((past ++ [(input, ((adapterSections engineSocket).step now input).2)]).filterMap Prod.snd)
        ((adapterSections engineSocket).step now input).1 := by
    rintro past now ⟨id, answers⟩ order
    have calls : (past ++ [((id, answers), ((adapterSections engineSocket).step now
        (id, answers)).2)]).filterMap Prod.snd = past.filterMap Prod.snd ++
          ((adapterSections engineSocket).step now (id, answers)).2.toList := by
      rw [List.filterMap_append]
      cases ((adapterSections engineSocket).step now (id, answers)).2 <;> rfl
    rw [calls]
    rcases Sections.step_cases now id answers with moves | ⟨-, stays⟩
    · exact order.move moves
    · rw [stays, Option.toList_none, List.append_nil]
      exact order
  have kept := @Machine.history_invariant _ _ _ (adapterSections engineSocket).machine
    (fun past now => EngineOrder engineSocket (past.filterMap Prod.snd) now) step steps []
    (start.threads AdapterMutex.Inside) initially
  exact kept.calls.inOrder

end Step

/-- With an engine that is up, the calls of the two threads begin with the target and one
`we_init`. -/
theorem engine_protocol_sample : InOrder (literal "127.0.0.1:49153")
    (((adapterSections (literal "127.0.0.1:49153")).machine.history
      (sampleThreads.threads AdapterMutex.Inside) sampleTurns).filterMap Prod.snd) :=
  engine_protocol (literal "127.0.0.1:49153") sampleThreads_begin rfl sampleTurns

/-! ### The calls return -/

/-- What a thread has before it: how many statements outside the loops, at most, and how many items
in the loop it is in. -/
def adapterRank : AdapterPlace ⊕ Sigma AdapterMutex.Inside → Nat ×ₗ Nat
  | .inl (.begins _) => toLex (14, 0)
  | .inr ⟨.initLock, .check _⟩ => toLex (13, 0)
  | .inr ⟨.initLock, .configure _⟩ => toLex (12, 0)
  | .inr ⟨.initLock, .weInit _⟩ => toLex (11, 0)
  | .inl (.ensured _) => toLex (10, 0)
  | .inr ⟨.cacheMutex, .lookup _⟩ => toLex (9, 0)
  | .inl (.missed _) => toLex (8, 0)
  | .inl (.discovered _) => toLex (7, 0)
  | .inl (.listed _ _) => toLex (6, 0)
  | .inr ⟨.cacheMutex, .clear _⟩ => toLex (5, 0)
  | .inr ⟨.cacheMutex, .rebuild rest _⟩ => toLex (4, rest.length)
  | .inr ⟨.cacheMutex, .merge rest _⟩ => toLex (4, rest.length)
  | .inr ⟨.cacheMutex, .retry _⟩ => toLex (2, 0)
  | .inr ⟨.cacheMutex, .send _ _⟩ => toLex (1, 0)
  | .inl (.returned _) => toLex (0, 0)

/-- The call has returned. -/
def AdapterPlace.Returned (place : AdapterPlace) : Prop := ∃ result, place = .returned result

/-- A statement of `EnsureEngineInitialized` brings its call nearer to its end. -/
theorem ensure_nearer (engineSocket : CppString) (place : EnsurePlace) (status : EngineStatus)
    (answers : EngineAnswers) :
    adapterRank ((place.step engineSocket status answers).2.1.elim
        (fun there => .inr ⟨.initLock, there⟩) .inl) <
      adapterRank (.inr ⟨.initLock, place⟩) := by
  cases place with
  | check method =>
    rw [EnsurePlace.step]
    split
    · exact Prod.Lex.left _ _ (by decide)
    · split <;> exact Prod.Lex.left _ _ (by decide)
  | configure method => exact Prod.Lex.left _ _ (by decide)
  | weInit method =>
    rw [EnsurePlace.step]
    split <;> exact Prod.Lex.left _ _ (by decide)

/-- A statement under the cache mutex brings its call nearer to its end. -/
theorem cache_nearer (place : CachePlace) (status : CacheStatus) (answers : EngineAnswers) :
    adapterRank ((place.step status answers).2.1.elim
        (fun there => .inr ⟨.cacheMutex, there⟩) .inl) <
      adapterRank (.inr ⟨.cacheMutex, place⟩) := by
  rcases place with asked | list | ⟨_ | ⟨info, rest⟩, devices⟩ | ⟨_ | ⟨info, rest⟩, asked⟩ | asked | _
  · rw [CachePlace.step]
    cases status.mUdnToWemoId asked.udn <;> exact Prod.Lex.left _ _ (by decide)
  · exact Prod.Lex.left _ _ (by decide)
  · exact Prod.Lex.left _ _ (by decide)
  · exact Prod.Lex.right _ (Nat.lt_succ_self _)
  · exact Prod.Lex.left _ _ (by decide)
  · exact Prod.Lex.right _ (Nat.lt_succ_self _)
  · rw [CachePlace.step]
    cases status.mUdnToWemoId asked.udn <;> exact Prod.Lex.left _ _ (by decide)
  · exact Prod.Lex.left _ _ (by decide)

/-- **Every statement brings its call nearer to its end.** -/
theorem adapter_approaches (engineSocket : CppString) :
    (adapterSections engineSocket).Approaches AdapterPlace.Returned
      (InvImage (· < ·) adapterRank) where
  founded := InvImage.wf adapterRank wellFounded_lt
  rests := by
    rintro _ ⟨result, rfl⟩
    exact ⟨rfl, fun _ => rfl⟩
  takes := by
    intro place first waits
    replace waits : place.takes = some first := waits
    cases place with
    | begins method =>
      cases waits
      exact Prod.Lex.left _ _ (by decide)
    | ensured method =>
      rcases method with (_ | asked) | _ | _ <;> cases waits
      exact Prod.Lex.left _ _ (by decide)
    | missed asked => cases waits
    | discovered lister => cases waits
    | listed lister list =>
      cases lister <;> cases waits <;> exact Prod.Lex.left _ _ (by decide)
    | returned result => cases waits
  alone := by
    intro place answers unfinished waits
    replace waits : place.takes = none := waits
    show adapterRank (.inl (place.alone answers).1) < adapterRank (.inl place)
    cases place with
    | begins method => cases waits
    | ensured method =>
      rcases method with (_ | asked) | _ | _
      · exact Prod.Lex.left _ _ (by decide)
      · cases waits
      · exact Prod.Lex.left _ _ (by decide)
      · exact Prod.Lex.left _ _ (by decide)
    | missed asked => exact Prod.Lex.left _ _ (by decide)
    | discovered lister =>
      rw [AdapterPlace.alone]
      cases answers.weListDevices <;> exact Prod.Lex.left _ _ (by decide)
    | listed lister list => cases lister <;> cases waits
    | returned result => exact absurd ⟨result, rfl⟩ unfinished
  stays := by
    intro mutex guarded place answers after next call stepped
    cases mutex with
    | initLock =>
      have near := ensure_nearer engineSocket place guarded answers
      rwa [show place.step engineSocket guarded answers = _ from stepped] at near
    | cacheMutex =>
      have near := cache_nearer place guarded answers
      rwa [show place.step guarded answers = _ from stepped] at near
  leaves := by
    intro mutex guarded place answers after next call stepped
    cases mutex with
    | initLock =>
      have near := ensure_nearer engineSocket place guarded answers
      rwa [show place.step engineSocket guarded answers = _ from stepped] at near
    | cacheMutex =>
      have near := cache_nearer place guarded answers
      rwa [show place.step guarded answers = _ from stepped] at near

/-- The calls return. -/
theorem calls_end (engineSocket : CppString) (start : AdapterSections)
    {schedule : Nat → Nat × EngineAnswers} (fair : Sections.Fair start.places.length schedule) :
    ∃ count, ∀ place ∈ ((adapterSections engineSocket).machine.trajectory
        (start.threads AdapterMutex.Inside) schedule count).places,
      ∃ result, place = .inl (.returned result) := by
  rw [← @Sections.Atomic.length_threads _ _ AdapterMutex.Inside] at fair
  obtain ⟨count, ended⟩ := Sections.fair_finishes (adapter_approaches engineSocket)
    start.threads_sound fair
  refine ⟨count, fun place member => ?_⟩
  obtain ⟨_, rfl, result, rfl⟩ := ended place member
  exact ⟨result, rfl⟩

/-- **Every call returns.** However the statements of the threads interleave and whatever the engine
answers: as long as a call has not returned, one that has not returned does not wait for a mutex; and
if no thread is passed over for ever, all calls have returned after some number of statements. So the
two mutexes cannot deadlock, and no loop runs for ever. -/
theorem fair_calls_return (engineSocket : CppString) (start : AdapterSections)
    (schedule : Nat → Nat × EngineAnswers) :
    let trace := (adapterSections engineSocket).machine.trajectory
      (start.threads AdapterMutex.Inside) schedule
    (∀ count, ∀ place ∈ (trace count).places, (∀ result, place ≠ .inl (.returned result)) →
      ∃ id there, (trace count).places[id]? = some there ∧
        (∀ result, there ≠ .inl (.returned result)) ∧
        ¬ Sections.Stuck (adapterSections engineSocket) (trace count) id) ∧
    (Sections.Fair start.places.length schedule →
      ∃ count, ∀ place ∈ (trace count).places, ∃ result, place = .inl (.returned result)) := by
  intro trace
  refine ⟨fun count place member unfinished => ?_, calls_end engineSocket start⟩
  have sound : (trace count).Sound :=
    Machine.trajectory_invariant _ Sections.Threads.Sound (fun _ step sound => sound.step step)
      start.threads_sound schedule count
  obtain ⟨id, here⟩ := List.mem_iff_getElem?.mp member
  have busy : ¬ Sections.AtEnd AdapterPlace.Returned place := by
    rintro ⟨_, rfl, result, rfl⟩
    exact unfinished result rfl
  obtain ⟨other, there, found, ahead, able⟩ :=
    sound.not_deadlocked (adapterSections engineSocket) here busy
  exact ⟨other, there, found, (fun result same => ahead ⟨_, same, result, rfl⟩), able⟩

/-- Two threads that take turns. -/
theorem fair_calls_return_sample : ∃ count, ∀ place ∈
    ((adapterSections []).machine.trajectory (sampleThreads.threads AdapterMutex.Inside)
      (fun moment => (moment % 2, lampListed 7)) count).places,
      ∃ result, place = .inl (.returned result) :=
  (fair_calls_return [] sampleThreads _).2 (Sections.fair_turns 2 _)

end WemoBridge
