/-
**Threads with critical sections.**

A `Sections` program says what one thread does: outside its critical sections it takes a step of
its own or waits for a mutex; inside one it works on what that mutex guards, and the last step of
the section releases it. Sections are not nested. `Sections.machine` takes the steps of any number
of threads in any order, where a thread that waits for a mutex someone owns stays where it is.

* `Reduces.run` — **sections are atomic**: what the threads have done after any steps is what they
  have done when whole sections are executed one at a time, up to the sections that are open; a
  mutex nobody owns guards the same in both.
* `Threads.Sound.step` — a mutex is owned by the one thread inside its section, and by no other.
* `fair_finishes` — if every move of a thread brings it nearer to its end, then under every fair
  schedule all threads finish: there is no deadlock, and no thread moves for ever.
-/

import WemoBridge.Library.Machine

namespace WemoBridge.Library

/-- What a thread does. `takes` is the mutex that a thread outside waits for, with where the thread
is once it has it; `alone` is a step of a thread that waits for none; `within` a step inside a
section, which stays there or releases the mutex. -/
structure Sections (Mutex : Type) (Guarded Inside : Mutex → Type) (Outside Input Event : Type) where
  takes : Outside → Option (Sigma Inside)
  alone : Outside → Input → Outside × Option Event
  within : (mutex : Mutex) → Guarded mutex → Inside mutex → Input →
    Guarded mutex × (Inside mutex ⊕ Outside) × Option Event

namespace Sections

variable {Mutex : Type} {Guarded Inside : Mutex → Type} {Outside Input Event : Type}

/-- What the mutexes guard, who owns them, and where the threads are. -/
structure Threads (Guarded Inside : Mutex → Type) (Outside : Type) where
  guarded : (mutex : Mutex) → Guarded mutex
  owner : Mutex → Option Nat
  places : List (Outside ⊕ Sigma Inside)

/-- The threads between whole sections. -/
structure Atomic (Guarded : Mutex → Type) (Outside : Type) where
  guarded : (mutex : Mutex) → Guarded mutex
  places : List Outside

/-- No thread is in a section yet. -/
def Atomic.threads (Inside : Mutex → Type) (start : Atomic Guarded Outside) :
    Threads Guarded Inside Outside :=
  { guarded := start.guarded, owner := fun _ => none, places := start.places.map Sum.inl }

/-- As many threads as there are places. -/
theorem Atomic.length_threads (start : Atomic Guarded Outside) :
    (start.threads Inside).places.length = start.places.length :=
  List.length_map _

/-- Where the threads are after one of them has moved. -/
theorem getElem?_set_place {id : Nat} {places : List (Outside ⊕ Sigma Inside)}
    {place next : Outside ⊕ Sigma Inside} (here : places[id]? = some place) (other : Nat) :
    (places.set id next)[other]? = if other = id then some next else places[other]? := by
  have below := (List.getElem?_eq_some_iff.mp here).1
  split
  · rename_i same
    rw [same, List.getElem?_set_self below]
  · rename_i different
    rw [List.getElem?_set_ne (Ne.symm different)]

/-- A thread that is inside after another has come outside was there before. -/
theorem inside_of_set_outside {id other : Nat} {places : List (Outside ⊕ Sigma Inside)}
    {place : Outside ⊕ Sigma Inside} {next : Outside} {there : Sigma Inside}
    (here : places[id]? = some place)
    (found : (places.set id (.inl next))[other]? = some (.inr there)) :
    other ≠ id ∧ places[other]? = some (.inr there) := by
  rw [getElem?_set_place here] at found
  split at found
  · cases found
  · exact ⟨‹_›, found⟩

/-- A thread that is outside after another has gone inside was there before. -/
theorem outside_of_set_inside {id other : Nat} {places : List (Outside ⊕ Sigma Inside)}
    {place : Outside ⊕ Sigma Inside} {first : Sigma Inside} {there : Outside}
    (here : places[id]? = some place)
    (found : (places.set id (.inr first))[other]? = some (.inl there)) :
    places[other]? = some (.inl there) := by
  rw [getElem?_set_place here] at found
  split at found
  · cases found
  · exact found

variable [DecidableEq Mutex] (code : Sections Mutex Guarded Inside Outside Input Event)

/-! ### Steps -/

/-- A step of a thread that is outside. -/
def stepOutside (state : Threads Guarded Inside Outside) (id : Nat) (place : Outside)
    (input : Input) : Threads Guarded Inside Outside × Option Event :=
  match code.takes place with
  | some first =>
    if state.owner first.1 = none then
      ({ state with
          owner := Function.update state.owner first.1 (some id)
          places := state.places.set id (.inr first) }, none)
    else (state, none)
  | none =>
    ({ state with places := state.places.set id (.inl (code.alone place input).1) },
      (code.alone place input).2)

/-- A step of a thread that is inside a section. -/
def stepInside (state : Threads Guarded Inside Outside) (id : Nat) (mutex : Mutex)
    (place : Inside mutex) (input : Input) : Threads Guarded Inside Outside × Option Event :=
  let stepped := code.within mutex (state.guarded mutex) place input
  match stepped.2.1 with
  | .inl next =>
    ({ state with
        guarded := Function.update state.guarded mutex stepped.1
        places := state.places.set id (.inr ⟨mutex, next⟩) }, stepped.2.2)
  | .inr next =>
    ({ guarded := Function.update state.guarded mutex stepped.1
       owner := Function.update state.owner mutex none
       places := state.places.set id (.inl next) }, stepped.2.2)

/-- The thread with this number takes a step. -/
def step (state : Threads Guarded Inside Outside) (input : Nat × Input) :
    Threads Guarded Inside Outside × Option Event :=
  match state.places[input.1]? with
  | none => (state, none)
  | some (.inl place) => code.stepOutside state input.1 place input.2
  | some (.inr ⟨mutex, place⟩) => code.stepInside state input.1 mutex place input.2

/-- **The threads in any order of steps.** -/
def machine : Machine (Threads Guarded Inside Outside) (Nat × Input) (Option Event) :=
  { step := code.step }

variable {code} {state : Threads Guarded Inside Outside} {id : Nat} {input : Input}

/-- **A move of a thread**: it takes the mutex it waits for, takes a step outside or inside a
section, or leaves its section. -/
inductive Moves (code : Sections Mutex Guarded Inside Outside Input Event)
    (state : Threads Guarded Inside Outside) (id : Nat) (input : Input) :
    Threads Guarded Inside Outside → Option Event → Prop where
  | takes {place : Outside} {first : Sigma Inside} (here : state.places[id]? = some (.inl place))
      (waits : code.takes place = some first) (free : state.owner first.1 = none) :
      Moves code state id input
        { state with
          owner := Function.update state.owner first.1 (some id)
          places := state.places.set id (.inr first) } none
  | alone {place next : Outside} {event : Option Event}
      (here : state.places[id]? = some (.inl place)) (waits : code.takes place = none)
      (stepped : code.alone place input = (next, event)) :
      Moves code state id input { state with places := state.places.set id (.inl next) } event
  | stays {mutex : Mutex} {place next : Inside mutex} {after : Guarded mutex}
      {event : Option Event} (here : state.places[id]? = some (.inr ⟨mutex, place⟩))
      (stepped : code.within mutex (state.guarded mutex) place input = (after, .inl next, event)) :
      Moves code state id input
        { state with
          guarded := Function.update state.guarded mutex after
          places := state.places.set id (.inr ⟨mutex, next⟩) } event
  | leaves {mutex : Mutex} {place : Inside mutex} {next : Outside} {after : Guarded mutex}
      {event : Option Event} (here : state.places[id]? = some (.inr ⟨mutex, place⟩))
      (stepped : code.within mutex (state.guarded mutex) place input = (after, .inr next, event)) :
      Moves code state id input
        { guarded := Function.update state.guarded mutex after
          owner := Function.update state.owner mutex none
          places := state.places.set id (.inl next) } event

/-- A thread that moves is somewhere. -/
theorem Moves.exists_place {next : Threads Guarded Inside Outside} {event : Option Event}
    (moves : Moves code state id input next event) : ∃ place, state.places[id]? = some place := by
  cases moves with
  | takes here _ _ => exact ⟨_, here⟩
  | alone here _ _ => exact ⟨_, here⟩
  | stays here _ => exact ⟨_, here⟩
  | leaves here _ => exact ⟨_, here⟩

/-- The thread waits for a mutex that is owned, or there is no such thread. -/
def Stuck (code : Sections Mutex Guarded Inside Outside Input Event)
    (state : Threads Guarded Inside Outside) (id : Nat) : Prop :=
  ∀ place, state.places[id]? = some place → ∃ outside first,
    place = .inl outside ∧ code.takes outside = some first ∧ state.owner first.1 ≠ none

/-- **A step is a move, or the thread is stuck** and nothing happens. -/
theorem step_cases (state : Threads Guarded Inside Outside) (id : Nat) (input : Input) :
    Moves code state id input (code.step state (id, input)).1 (code.step state (id, input)).2 ∨
      Stuck code state id ∧ code.step state (id, input) = (state, none) := by
  unfold step
  cases here : state.places[id]? with
  | none =>
    refine Or.inr ⟨fun place other => ?_, rfl⟩
    rw [here] at other
    cases other
  | some place =>
    rcases place with outside | ⟨mutex, inside⟩
    · dsimp only [stepOutside]
      cases waits : code.takes outside with
      | none => exact Or.inl (.alone here waits rfl)
      | some first =>
        dsimp only
        by_cases free : state.owner first.1 = none
        · rw [if_pos free]
          exact Or.inl (.takes here waits free)
        · rw [if_neg free]
          refine Or.inr ⟨fun place other => ?_, rfl⟩
          rw [here] at other
          cases other
          exact ⟨outside, first, rfl, waits, free⟩
    · dsimp only [stepInside]
      rcases stepped : code.within mutex (state.guarded mutex) inside input with
        ⟨after, next | next, event⟩
      · exact Or.inl (.stays here stepped)
      · exact Or.inl (.leaves here stepped)

/-! ### Mutual exclusion -/

/-- **A mutex is owned by the thread inside its section, and by no other.** -/
structure Threads.Sound (state : Threads Guarded Inside Outside) : Prop where
  owns : ∀ {id : Nat} {mutex : Mutex} {place : Inside mutex},
    state.places[id]? = some (.inr ⟨mutex, place⟩) → state.owner mutex = some id
  owned : ∀ {id : Nat} {mutex : Mutex}, state.owner mutex = some id →
    ∃ place, state.places[id]? = some (.inr ⟨mutex, place⟩)

omit [DecidableEq Mutex] in
/-- No thread is in a section. -/
theorem Atomic.threads_sound (start : Atomic Guarded Outside) :
    (start.threads Inside).Sound := by
  constructor
  · intro id mutex place here
    obtain ⟨_, _, other⟩ := List.mem_map.mp (List.mem_of_getElem? here)
    cases other
  · intro id mutex owned
    cases owned

omit [DecidableEq Mutex] in
/-- Two threads are never inside sections of one mutex. -/
theorem Threads.Sound.apart (sound : state.Sound) {other : Nat} {mutex taken : Mutex}
    {place : Inside mutex} {there : Inside taken}
    (here : state.places[id]? = some (.inr ⟨mutex, place⟩))
    (found : state.places[other]? = some (.inr ⟨taken, there⟩)) (different : other ≠ id) :
    taken ≠ mutex := by
  rintro rfl
  have same := (sound.owns found).symm.trans (sound.owns here)
  exact different (Option.some.inj same)

section Steps

variable {next : Threads Guarded Inside Outside} {event : Option Event}

/-- **A move keeps the owners sound.** -/
theorem Threads.Sound.moves (sound : state.Sound) (moves : Moves code state id input next event) :
    next.Sound := by
  cases moves with
  | @takes place first here waits free =>
    constructor
    · intro other mutex inside found
      dsimp only at found ⊢
      rw [getElem?_set_place here] at found
      split at found
      · rename_i same
        cases found
        rw [Function.update_self, same]
      · have owner := sound.owns found
        rwa [Function.update_of_ne]
        rintro rfl
        rw [free] at owner
        cases owner
    · intro other mutex owned
      dsimp only at owned ⊢
      rw [getElem?_set_place here]
      by_cases taken : mutex = first.1
      · subst taken
        rw [Function.update_self] at owned
        cases owned
        exact ⟨first.2, if_pos rfl⟩
      · rw [Function.update_of_ne taken] at owned
        obtain ⟨inside, found⟩ := sound.owned owned
        refine ⟨inside, ?_⟩
        rw [if_neg, found]
        rintro rfl
        rw [here] at found
        cases found
  | @alone place outside event here waits stepped =>
    constructor
    · exact fun found => sound.owns (inside_of_set_outside here found).2
    · intro other mutex owned
      obtain ⟨inside, found⟩ := sound.owned owned
      refine ⟨inside, ?_⟩
      dsimp only
      rw [getElem?_set_place here, if_neg, found]
      rintro rfl
      rw [here] at found
      cases found
  | @stays mutex place inside after event here stepped =>
    constructor
    · intro other taken there found
      dsimp only at found ⊢
      rw [getElem?_set_place here] at found
      split at found
      · rename_i same
        cases found
        rw [same]
        exact sound.owns here
      · exact sound.owns found
    · intro other taken owned
      obtain ⟨there, found⟩ := sound.owned owned
      dsimp only
      rw [getElem?_set_place here]
      split
      · rename_i same
        rw [same, here] at found
        cases found
        exact ⟨inside, rfl⟩
      · exact ⟨there, found⟩
  | @leaves mutex place outside after event here stepped =>
    constructor
    · intro other taken there found
      obtain ⟨different, was⟩ := inside_of_set_outside here found
      dsimp only
      rw [Function.update_of_ne (sound.apart here was different)]
      exact sound.owns was
    · intro other taken owned
      dsimp only at owned ⊢
      by_cases same : taken = mutex
      · rw [same, Function.update_self] at owned
        cases owned
      · rw [Function.update_of_ne same] at owned
        obtain ⟨there, found⟩ := sound.owned owned
        refine ⟨there, ?_⟩
        rw [getElem?_set_place here, if_neg, found]
        rintro rfl
        rw [here] at found
        cases found
        exact same rfl

/-- Every step keeps the threads sound. -/
theorem Threads.Sound.step (sound : state.Sound) (input : Nat × Input) :
    (code.machine.step state input).1.Sound := by
  rcases @step_cases _ _ _ _ _ _ _ code state input.1 input.2 with moves | ⟨-, stays⟩
  · exact sound.moves moves
  · show (code.step state (input.1, input.2)).1.Sound
    rw [stays]
    exact sound

/-- No thread comes or goes. -/
theorem Moves.length_places (moves : Moves code state id input next event) :
    next.places.length = state.places.length := by
  cases moves <;> exact List.length_set

/-- A step keeps the number of threads, and a thread that makes an event is there. -/
theorem length_places_step (state : Threads Guarded Inside Outside) (input : Nat × Input) :
    (code.machine.step state input).1.places.length = state.places.length ∧
      ∀ event, (code.machine.step state input).2 = some event →
        input.1 < state.places.length := by
  obtain ⟨id, input⟩ := input
  rcases @step_cases _ _ _ _ _ _ _ code state id input with moves | ⟨-, stays⟩
  · refine ⟨moves.length_places, fun event _ => ?_⟩
    obtain ⟨place, here⟩ := moves.exists_place
    exact (List.getElem?_eq_some_iff.mp here).1
  · replace stays : code.machine.step state (id, input) = (state, none) := stays
    rw [stays]
    exact ⟨rfl, (fun event made => by cases made)⟩

end Steps

/-! ### Whole sections -/

section Whole

omit [DecidableEq Mutex]

/-- A step that stays inside the section. -/
def Stays (code : Sections Mutex Guarded Inside Outside Input Event) (mutex : Mutex)
    (now next : Guarded mutex × Inside mutex) : Prop :=
  ∃ input event, code.within mutex now.1 now.2 input = (next.1, .inl next.2, event)

/-- Steps that stay inside the section. -/
abbrev Partway (code : Sections Mutex Guarded Inside Outside Input Event) (mutex : Mutex) :
    Guarded mutex × Inside mutex → Guarded mutex × Inside mutex → Prop :=
  Relation.ReflTransGen (Stays code mutex)

/-- **A section to its end**: steps that stay inside and one that leaves. -/
def Completes (code : Sections Mutex Guarded Inside Outside Input Event) (mutex : Mutex)
    (first : Guarded mutex × Inside mutex) (after : Guarded mutex) (next : Outside) : Prop :=
  ∃ last, Partway code mutex first last ∧
    ∃ input event, code.within mutex last.1 last.2 input = (after, .inr next, event)

/-- **The rule for sections.** A property that a section has where it begins, that the steps inside
keep, and that gives the conclusion of the step that leaves, gives it of the section. -/
theorem Completes.rule {mutex : Mutex} {first : Guarded mutex × Inside mutex}
    {after : Guarded mutex} {next : Outside} (completes : Completes code mutex first after next)
    (inv : Guarded mutex × Inside mutex → Prop) (conclusion : Guarded mutex → Outside → Prop)
    (begins : inv first) (stays : ∀ {now later}, inv now → Stays code mutex now later → inv later)
    (leaves : ∀ {now input after next event}, inv now →
      code.within mutex now.1 now.2 input = (after, .inr next, event) → conclusion after next) :
    conclusion after next := by
  obtain ⟨last, partway, input, event, left⟩ := completes
  refine leaves ?_ left
  clear left
  induction partway with
  | refl => exact begins
  | tail _ step ih => exact stays ih step

end Whole

/-- **A step of the threads between whole sections**: a step outside, or a section to its end. -/
inductive AtomicStep (code : Sections Mutex Guarded Inside Outside Input Event)
    (state : Atomic Guarded Outside) : Atomic Guarded Outside → Prop where
  | alone {id : Nat} {input : Input} {place next : Outside} {event : Option Event}
      (here : state.places[id]? = some place) (waits : code.takes place = none)
      (stepped : code.alone place input = (next, event)) :
      AtomicStep code state { state with places := state.places.set id next }
  | section {id : Nat} {place next : Outside} {first : Sigma Inside}
      {after : Guarded first.1} (here : state.places[id]? = some place)
      (waits : code.takes place = some first)
      (completes : Completes code first.1 (state.guarded first.1, first.2) after next) :
      AtomicStep code state
        { guarded := Function.update state.guarded first.1 after
          places := state.places.set id next }

/-- Any number of them. -/
abbrev AtomicRun (code : Sections Mutex Guarded Inside Outside Input Event) :
    Atomic Guarded Outside → Atomic Guarded Outside → Prop :=
  Relation.ReflTransGen (AtomicStep code)

/-- **The threads are where whole sections have brought them**, except those that are inside one:
such a thread has come partway from where it took the mutex. -/
structure Reduces (code : Sections Mutex Guarded Inside Outside Input Event)
    (state : Threads Guarded Inside Outside) (atomic : Atomic Guarded Outside) : Prop where
  sound : state.Sound
  count : atomic.places.length = state.places.length
  free : ∀ {mutex : Mutex}, state.owner mutex = none →
    atomic.guarded mutex = state.guarded mutex
  outside : ∀ {id : Nat} {place : Outside}, state.places[id]? = some (.inl place) →
    atomic.places[id]? = some place
  inside : ∀ {id : Nat} {mutex : Mutex} {place : Inside mutex},
    state.places[id]? = some (.inr ⟨mutex, place⟩) → ∃ before first,
      atomic.places[id]? = some before ∧ code.takes before = some ⟨mutex, first⟩ ∧
        Partway code mutex (atomic.guarded mutex, first) (state.guarded mutex, place)

namespace Reduces

variable {atomic : Atomic Guarded Outside} {next : Threads Guarded Inside Outside}
  {event : Option Event}

/-- **A move is a step between whole sections, or none.** -/
theorem moves (reduces : Reduces code state atomic)
    (moves : Moves code state id input next event) :
    ∃ after, AtomicRun code atomic after ∧ Reduces code next after := by
  have sound := reduces.sound.moves moves
  cases moves with
  | @takes place first here waits free =>
    refine ⟨atomic, .refl, sound, ?_, ?_, ?_, ?_⟩
    · rw [List.length_set, reduces.count]
    · intro mutex unowned
      refine reduces.free ?_
      dsimp only at unowned
      by_cases taken : mutex = first.1
      · rw [taken, Function.update_self] at unowned
        cases unowned
      · rwa [Function.update_of_ne taken] at unowned
    · exact fun found => reduces.outside (outside_of_set_inside here found)
    · intro other mutex inside found
      dsimp only at found ⊢
      rw [getElem?_set_place here] at found
      split at found
      · rename_i same
        cases found
        refine ⟨place, inside, ?_, waits, ?_⟩
        · rw [same]
          exact reduces.outside here
        · rw [reduces.free free]
      · exact reduces.inside found
  | @alone place outside event here waits stepped =>
    have below : id < atomic.places.length :=
      (List.getElem?_eq_some_iff.mp (reduces.outside here)).1
    refine ⟨{ atomic with places := atomic.places.set id outside },
      .single (.alone (reduces.outside here) waits stepped), sound, ?_, ?_, ?_, ?_⟩
    · rw [List.length_set, List.length_set, reduces.count]
    · exact reduces.free
    · intro other there found
      dsimp only at found ⊢
      rw [getElem?_set_place here] at found
      split at found
      · rename_i same
        cases found
        rw [same, List.getElem?_set_self below]
      · rename_i different
        rw [List.getElem?_set_ne (Ne.symm different)]
        exact reduces.outside found
    · intro other mutex inside found
      obtain ⟨different, was⟩ := inside_of_set_outside here found
      dsimp only
      rw [List.getElem?_set_ne (Ne.symm different)]
      exact reduces.inside was
  | @stays mutex place inside after event here stepped =>
    have owner := reduces.sound.owns here
    refine ⟨atomic, .refl, sound, ?_, ?_, ?_, ?_⟩
    · rw [List.length_set, reduces.count]
    · intro other unowned
      dsimp only at unowned ⊢
      rw [Function.update_of_ne]
      · exact reduces.free unowned
      · rintro rfl
        rw [owner] at unowned
        cases unowned
    · exact fun found => reduces.outside (outside_of_set_inside here found)
    · intro other taken there found
      dsimp only at found ⊢
      rw [getElem?_set_place here] at found
      split at found
      · rename_i same
        cases found
        obtain ⟨before, first, was, waits, partway⟩ := reduces.inside here
        refine ⟨before, first, by rw [same, was], waits, ?_⟩
        rw [Function.update_self]
        exact partway.tail ⟨input, event, stepped⟩
      · rename_i different
        rw [Function.update_of_ne (reduces.sound.apart here found different)]
        exact reduces.inside found
  | @leaves mutex place outside after event here stepped =>
    obtain ⟨before, first, was, waits, partway⟩ := reduces.inside here
    have below : id < atomic.places.length := (List.getElem?_eq_some_iff.mp was).1
    refine ⟨{ guarded := Function.update atomic.guarded mutex after
              places := atomic.places.set id outside },
      .single (@AtomicStep.section _ _ _ _ _ _ _ code atomic id before outside ⟨mutex, first⟩ after
        was waits ⟨_, partway, input, event, stepped⟩), sound, ?_, ?_, ?_, ?_⟩
    · rw [List.length_set, List.length_set, reduces.count]
    · intro other unowned
      dsimp only at unowned ⊢
      by_cases same : other = mutex
      · rw [same, Function.update_self, Function.update_self]
      · rw [Function.update_of_ne same] at unowned
        rw [Function.update_of_ne same, Function.update_of_ne same]
        exact reduces.free unowned
    · intro other there found
      dsimp only at found ⊢
      rw [getElem?_set_place here] at found
      split at found
      · rename_i same
        cases found
        rw [same, List.getElem?_set_self below]
      · rename_i different
        rw [List.getElem?_set_ne (Ne.symm different)]
        exact reduces.outside found
    · intro other taken there found
      obtain ⟨different, inside⟩ := inside_of_set_outside here found
      have elsewhere := reduces.sound.apart here inside different
      dsimp only
      rw [List.getElem?_set_ne (Ne.symm different), Function.update_of_ne elsewhere,
        Function.update_of_ne elsewhere]
      exact reduces.inside inside

/-- One step of a thread. -/
theorem step (reduces : Reduces code state atomic) (id : Nat) (input : Input) :
    ∃ after, AtomicRun code atomic after ∧ Reduces code (code.step state (id, input)).1 after := by
  rcases @step_cases _ _ _ _ _ _ _ code state id input with moves | ⟨-, stays⟩
  · exact reduces.moves moves
  · rw [stays]
    exact ⟨atomic, .refl, reduces⟩

omit [DecidableEq Mutex] in
/-- Before any section the threads are where they are. -/
theorem start (start : Atomic Guarded Outside) : Reduces code (start.threads Inside) start := by
  refine ⟨start.threads_sound, ?_, fun _ => rfl, ?_, ?_⟩
  · rw [Atomic.threads, List.length_map]
  · intro id place here
    rw [Atomic.threads, List.getElem?_map] at here
    obtain ⟨same, found, equal⟩ := Option.map_eq_some_iff.mp here
    cases equal
    exact found
  · intro id mutex place here
    rw [Atomic.threads, List.getElem?_map] at here
    obtain ⟨same, found, equal⟩ := Option.map_eq_some_iff.mp here
    cases equal

/-- **Sections are atomic.** After any steps of the threads in any order, there is a run of whole
sections, one at a time, that the state reduces to. -/
theorem run (begins : Atomic Guarded Outside) (steps : List (Nat × Input)) :
    ∃ atomic, AtomicRun code begins atomic ∧
      Reduces code (code.machine.run (begins.threads Inside) steps) atomic := by
  refine code.machine.run_invariant
    (fun state => ∃ atomic, AtomicRun code begins atomic ∧ Reduces code state atomic) ?_ steps
    ⟨begins, .refl, start begins⟩
  rintro state ⟨id, input⟩ ⟨atomic, reached, reduces⟩
  obtain ⟨after, more, kept⟩ := reduces.step id input
  exact ⟨after, reached.trans more, kept⟩

end Reduces

/-! ### Every thread comes to its end -/

/-- **Every move of a thread brings it nearer to its end.** A thread that is finished waits for
nothing and stays where it is. -/
structure Approaches (code : Sections Mutex Guarded Inside Outside Input Event)
    (finished : Outside → Prop)
    (nearer : Outside ⊕ Sigma Inside → Outside ⊕ Sigma Inside → Prop) : Prop where
  founded : WellFounded nearer
  rests : ∀ {place}, finished place → code.takes place = none ∧
    ∀ input, (code.alone place input).1 = place
  takes : ∀ {place first}, code.takes place = some first → nearer (.inr first) (.inl place)
  alone : ∀ {place} input, ¬ finished place → code.takes place = none →
    nearer (.inl (code.alone place input).1) (.inl place)
  stays : ∀ {mutex guarded place input after next event},
    code.within mutex guarded place input = (after, .inl next, event) →
      nearer (.inr ⟨mutex, next⟩) (.inr ⟨mutex, place⟩)
  leaves : ∀ {mutex guarded place input after next event},
    code.within mutex guarded place input = (after, .inr next, event) →
      nearer (.inl next) (.inr ⟨mutex, place⟩)

/-- **No thread is passed over for ever**: each of the threads that are there comes again after
every moment of the schedule. -/
def Fair (threads : Nat) (schedule : Nat → Nat × Input) : Prop :=
  ∀ id < threads, ∀ before, ∃ count ≥ before, (schedule count).1 = id

/-- Taking turns is fair. -/
theorem fair_turns (threads : Nat) (inputs : Nat → Input) :
    Fair threads fun moment => (moment % threads, inputs moment) := by
  intro id below before
  refine ⟨threads * before + id, ?_, ?_⟩
  · exact (Nat.le_mul_of_pos_left before (Nat.zero_lt_of_lt below)).trans (Nat.le_add_right _ _)
  · show (threads * before + id) % threads = id
    rw [Nat.mul_add_mod, Nat.mod_eq_of_lt below]

/-- The thread is outside, at its end. -/
def AtEnd (finished : Outside → Prop) (place : Outside ⊕ Sigma Inside) : Prop :=
  ∃ outside, place = .inl outside ∧ finished outside

section Progress

variable {finished : Outside → Prop}
  {nearer : Outside ⊕ Sigma Inside → Outside ⊕ Sigma Inside → Prop}
  {next : Threads Guarded Inside Outside} {event : Option Event}

omit [DecidableEq Mutex] in
/-- One thread nearer, all threads together nearer. -/
theorem cutExpand_set {places : List (Outside ⊕ Sigma Inside)}
    {place after : Outside ⊕ Sigma Inside} (here : places[id]? = some place)
    (near : nearer after place) :
    Relation.CutExpand nearer (places.set id after : Multiset _) (places : Multiset _) := by
  obtain ⟨below, found⟩ := List.getElem?_eq_some_iff.mp here
  have was : (places : Multiset _) = place ::ₘ (places.eraseIdx id : Multiset _) := by
    rw [Multiset.cons_coe, Multiset.coe_eq_coe, ← found]
    exact (List.getElem_cons_eraseIdx_perm below).symm
  have becomes : (places.set id after : Multiset _) =
      after ::ₘ (places.eraseIdx id : Multiset _) := by
    rw [Multiset.cons_coe, Multiset.coe_eq_coe]
    exact List.set_perm_cons_eraseIdx below after
  rw [was, becomes, ← Multiset.singleton_add, ← Multiset.singleton_add]
  exact Relation.cutExpand_single_add near _

/-- **A move of a thread that is not at its end brings the threads nearer.** -/
theorem Approaches.moves (approaches : Approaches code finished nearer)
    {place : Outside ⊕ Sigma Inside} (here : state.places[id]? = some place)
    (unfinished : ¬ AtEnd finished place) (moves : Moves code state id input next event) :
    Relation.CutExpand nearer (next.places : Multiset _) (state.places : Multiset _) := by
  cases moves with
  | takes found waits free => exact cutExpand_set found (approaches.takes waits)
  | @alone outside after event found waits stepped =>
    rw [here] at found
    cases found
    have near := approaches.alone input (fun done => unfinished ⟨outside, rfl, done⟩) waits
    rw [stepped] at near
    exact cutExpand_set here near
  | stays found stepped => exact cutExpand_set found (approaches.stays stepped)
  | leaves found stepped => exact cutExpand_set found (approaches.leaves stepped)

/-- A thread at its end does not change. -/
theorem Approaches.rest (approaches : Approaches code finished nearer)
    {place : Outside ⊕ Sigma Inside} (here : state.places[id]? = some place)
    (done : AtEnd finished place) (moves : Moves code state id input next event) :
    next = state := by
  obtain ⟨outside, rfl, ended⟩ := done
  obtain ⟨idle, alone⟩ := approaches.rests ended
  cases moves with
  | takes found waits free =>
    rw [here] at found
    cases found
    rw [idle] at waits
    cases waits
  | @alone _ after _ found waits stepped =>
    rw [here] at found
    cases found
    have same : after = outside := by rw [← alone input, stepped]
    obtain ⟨below, equal⟩ := List.getElem?_eq_some_iff.mp here
    rw [same, ← equal, List.set_getElem_self]
  | stays found stepped =>
    rw [here] at found
    cases found
  | leaves found stepped =>
    rw [here] at found
    cases found

/-- **A step brings the threads nearer or changes nothing**, and it changes nothing only if its
thread is stuck, absent or at its end. -/
theorem Approaches.progress (approaches : Approaches code finished nearer)
    (state : Threads Guarded Inside Outside) (id : Nat) (input : Input) :
    Relation.CutExpand nearer ((code.step state (id, input)).1.places : Multiset _)
        (state.places : Multiset _) ∨
      (code.step state (id, input)).1 = state ∧ ∀ place, state.places[id]? = some place →
        ¬ AtEnd finished place → Stuck code state id := by
  rcases @step_cases _ _ _ _ _ _ _ code state id input with moves | ⟨stuck, stays⟩
  · cases here : state.places[id]? with
    | none =>
      obtain ⟨place, there⟩ := moves.exists_place
      rw [here] at there
      cases there
    | some place =>
      by_cases done : AtEnd finished place
      · refine Or.inr ⟨approaches.rest here done moves, fun other same unfinished => ?_⟩
        cases same
        exact absurd done unfinished
      · exact Or.inl (approaches.moves here done moves)
  · rw [stays]
    exact Or.inr ⟨rfl, fun _ _ _ => stuck⟩

omit [DecidableEq Mutex] in
variable (code) in
/-- **No deadlock**: as long as a thread is not at its end, some thread can move. -/
theorem Threads.Sound.not_deadlocked (sound : state.Sound)
    {place : Outside ⊕ Sigma Inside} (here : state.places[id]? = some place)
    (unfinished : ¬ AtEnd finished place) :
    ∃ other there, state.places[other]? = some there ∧ ¬ AtEnd finished there ∧
      ¬ Stuck code state other := by
  by_cases stuck : Stuck code state id
  · obtain ⟨outside, first, rfl, waits, taken⟩ := stuck place here
    obtain ⟨owner, owned⟩ := Option.ne_none_iff_exists'.mp taken
    obtain ⟨inside, found⟩ := sound.owned owned
    refine ⟨owner, _, found, ?_, fun stuck => ?_⟩
    · rintro ⟨_, other, -⟩
      cases other
    · obtain ⟨_, _, other, -⟩ := stuck _ found
      cases other
  · exact ⟨id, place, here, unfinished, stuck⟩

/-- **Under a fair schedule every thread comes to its end**, whatever the inputs. The places of the
threads after some step are as near as they ever get; from then on nothing changes, so the thread
that could move is never scheduled. -/
theorem fair_finishes (approaches : Approaches code finished nearer)
    {start : Threads Guarded Inside Outside} (sound : start.Sound) {schedule : Nat → Nat × Input}
    (fair : Fair start.places.length schedule) :
    ∃ count, ∀ place ∈ (code.machine.trajectory start schedule count).places,
      AtEnd finished place := by
  let trace := code.machine.trajectory start schedule
  have soundAt : ∀ count, (trace count).Sound :=
    code.machine.trajectory_invariant Threads.Sound (fun _ input sound => sound.step input) sound
      schedule
  have countAt : ∀ count, (trace count).places.length = start.places.length :=
    code.machine.trajectory_invariant (fun state => state.places.length = start.places.length)
      (fun state input same => ((length_places_step state input).1).trans same) rfl schedule
  have founded := approaches.founded.cutExpand
  obtain ⟨least, ⟨count, rfl⟩, minimal⟩ := founded.has_min
    (Set.range fun count => ((trace count).places : Multiset _)) ⟨_, 0, rfl⟩
  refine ⟨count, fun place member => ?_⟩
  by_contra unfinished
  obtain ⟨id, here⟩ := List.getElem?_of_mem member
  obtain ⟨other, there, found, busy, able⟩ :=
    (soundAt count).not_deadlocked code here unfinished
  -- Nothing changes from here on: a change would bring the threads nearer than the nearest.
  have still : ∀ later, trace (count + later) = trace count := by
    intro later
    induction later with
    | zero => rfl
    | succ later ih =>
      rcases approaches.progress (trace (count + later)) (schedule (count + later)).1
        (schedule (count + later)).2 with near | ⟨same, -⟩
      · rw [ih] at near
        refine absurd near (minimal _ ⟨count + later + 1, ?_⟩)
        rw [← ih]
        rfl
      · exact same.trans ih
  have isThread : other < start.places.length :=
    countAt count ▸ (List.getElem?_eq_some_iff.mp found).1
  obtain ⟨moment, late, scheduled⟩ := fair other isThread count
  obtain ⟨later, rfl⟩ := Nat.exists_eq_add_of_le late
  rcases approaches.progress (trace (count + later)) (schedule (count + later)).1
    (schedule (count + later)).2 with near | ⟨-, idle⟩
  · rw [still later] at near
    refine minimal _ ⟨count + later + 1, ?_⟩ near
    rw [← still later]
    rfl
  · rw [still later, scheduled] at idle
    exact able (idle there found busy)

end Progress

end Sections

end WemoBridge.Library
