/-
**Proof outlines for threads with critical sections.**

An `Outline` annotates a `Sections` program: what a mutex guards while nobody owns it, what holds of
a thread outside its sections, and what holds of a thread inside one together with what its mutex
guards. What is said of a thread may refer to its number and to the events it has made so far. An
outline is `Valid` if every statement takes its annotation to the next one, checked for one thread
alone.

* `Valid.run` — **a valid outline holds in every interleaving**: no thread can break what is said of
  another, since what a mutex guards is only changed by its owner.
* `events_perm` — the events of a run are those of its threads, in some order.
-/

import WemoBridge.Library.Mutex

namespace WemoBridge.Library.Sections

variable {Mutex : Type} {Guarded Inside : Mutex → Type} {Outside Input Event : Type}

/-- The events one thread has made. -/
def eventsOf (id : Nat) (past : List ((Nat × Input) × Option Event)) : List Event :=
  past.filterMap fun step => if step.1.1 = id then step.2 else none

/-- The events of a thread are events of the run. -/
theorem eventsOf_subset (id : Nat) (past : List ((Nat × Input) × Option Event)) :
    eventsOf id past ⊆ past.filterMap Prod.snd := by
  intro event member
  obtain ⟨step, listed, made⟩ := List.mem_filterMap.mp member
  refine List.mem_filterMap.mpr ⟨step, listed, ?_⟩
  by_cases own : step.1.1 = id
  · rwa [if_pos own] at made
  · rw [if_neg own] at made
    cases made

/-- One more step, of this thread or of another. -/
theorem eventsOf_concat (id other : Nat) (past : List ((Nat × Input) × Option Event))
    (input : Input) (event : Option Event) :
    eventsOf id (past ++ [((other, input), event)]) =
      eventsOf id past ++ (if other = id then event else none).toList := by
  rw [eventsOf, List.filterMap_append]
  refine congrArg _ ?_
  split <;> rename_i thread
  · cases event <;> simp [thread]
  · simp [thread]

/-! ### Outlines -/

/-- **What holds where.** -/
structure Outline (Guarded Inside : Mutex → Type) (Outside Event : Type) where
  free : (mutex : Mutex) → Guarded mutex → Prop
  outside : Nat → List Event → Outside → Prop
  inside : Nat → List Event → (mutex : Mutex) → Guarded mutex → Inside mutex → Prop

/-- **Every statement takes its annotation to the next one**, if its input and the event it makes
are allowed. -/
structure Outline.Valid (outline : Outline Guarded Inside Outside Event)
    (code : Sections Mutex Guarded Inside Outside Input Event)
    (allowed : Input → Option Event → Prop) : Prop where
  takes : ∀ {id own place first guarded}, outline.outside id own place →
    code.takes place = some first → outline.free first.1 guarded →
      outline.inside id own first.1 guarded first.2
  alone : ∀ {id own place input}, outline.outside id own place → code.takes place = none →
    allowed input (code.alone place input).2 →
      outline.outside id (own ++ (code.alone place input).2.toList) (code.alone place input).1
  stays : ∀ {id own mutex guarded place input after next event},
    outline.inside id own mutex guarded place → allowed input event →
      code.within mutex guarded place input = (after, .inl next, event) →
        outline.inside id (own ++ event.toList) mutex after next
  leaves : ∀ {id own mutex guarded place input after next event},
    outline.inside id own mutex guarded place → allowed input event →
      code.within mutex guarded place input = (after, .inr next, event) →
        outline.free mutex after ∧ outline.outside id (own ++ event.toList) next

/-- **The outline holds** after some steps. -/
structure Outline.Holds (outline : Outline Guarded Inside Outside Event)
    (past : List ((Nat × Input) × Option Event)) (state : Threads Guarded Inside Outside) :
    Prop where
  sound : state.Sound
  free : ∀ {mutex}, state.owner mutex = none → outline.free mutex (state.guarded mutex)
  outside : ∀ {id place}, state.places[id]? = some (.inl place) →
    outline.outside id (eventsOf id past) place
  inside : ∀ {id mutex place}, state.places[id]? = some (.inr ⟨mutex, place⟩) →
    outline.inside id (eventsOf id past) mutex (state.guarded mutex) place

variable {outline : Outline Guarded Inside Outside Event}
  {code : Sections Mutex Guarded Inside Outside Input Event} {allowed : Input → Option Event → Prop}

/-- The outline holds at the start if it holds of every thread and every mutex. -/
theorem Outline.holds_start (start : Atomic Guarded Outside)
    (free : ∀ mutex, outline.free mutex (start.guarded mutex))
    (outside : ∀ id place, start.places[id]? = some place → outline.outside id [] place) :
    outline.Holds ([] : List ((Nat × Input) × Option Event)) (start.threads Inside) := by
  refine ⟨start.threads_sound, fun _ => free _, ?_, ?_⟩
  · intro id place here
    rw [Atomic.threads, List.getElem?_map] at here
    obtain ⟨same, found, equal⟩ := Option.map_eq_some_iff.mp here
    cases equal
    exact outside id place found
  · intro id mutex place here
    rw [Atomic.threads, List.getElem?_map] at here
    obtain ⟨same, found, equal⟩ := Option.map_eq_some_iff.mp here
    cases equal

variable [DecidableEq Mutex]

section Moves

variable {past : List ((Nat × Input) × Option Event)} {state next : Threads Guarded Inside Outside}
  {id : Nat} {input : Input} {event : Option Event}

/-- The threads that did not move keep their events. -/
theorem eventsOf_other {other : Nat} (different : other ≠ id) :
    eventsOf other (past ++ [((id, input), event)]) = eventsOf other past := by
  rw [eventsOf_concat, if_neg (Ne.symm different), Option.toList_none, List.append_nil]

/-- The thread that moved has one event more, or none. -/
theorem eventsOf_self :
    eventsOf id (past ++ [((id, input), event)]) = eventsOf id past ++ event.toList := by
  rw [eventsOf_concat, if_pos rfl]

omit [DecidableEq Mutex] in
/-- What is said of the threads outside is kept, if it is of the one that moved. -/
theorem Outline.Holds.outside_others (holds : outline.Holds past state)
    {place after : Outside ⊕ Sigma Inside} (here : state.places[id]? = some place)
    (moved : ∀ outside, after = .inl outside →
      outline.outside id (eventsOf id past ++ event.toList) outside)
    {other : Nat} {there : Outside} (found : (state.places.set id after)[other]? = some (.inl there)) :
    outline.outside other (eventsOf other (past ++ [((id, input), event)])) there := by
  rw [getElem?_set_place here] at found
  split at found
  · rename_i same
    rw [same, eventsOf_self]
    exact moved there (Option.some.inj found)
  · rename_i different
    rw [eventsOf_other different]
    exact holds.outside found

/-- **A move keeps a valid outline.** -/
theorem Outline.Holds.moves (holds : outline.Holds past state) (valid : outline.Valid code allowed)
    (admitted : allowed input event) (moves : Moves code state id input next event) :
    outline.Holds (past ++ [((id, input), event)]) next := by
  have sound := holds.sound.moves moves
  cases moves with
  | @takes place first here waits free =>
    refine ⟨sound, ?_, fun found => holds.outside_others here (by rintro _ ⟨⟩) found, ?_⟩
    · intro mutex unowned
      dsimp only at unowned ⊢
      refine holds.free ?_
      by_cases taken : mutex = first.1
      · rw [taken, Function.update_self] at unowned
        cases unowned
      · rwa [Function.update_of_ne taken] at unowned
    · intro other mutex inside found
      dsimp only at found ⊢
      rw [getElem?_set_place here] at found
      split at found
      · rename_i same
        cases found
        rw [same, eventsOf_self, Option.toList_none, List.append_nil]
        exact valid.takes (holds.outside here) waits (holds.free free)
      · rename_i different
        rw [eventsOf_other different]
        exact holds.inside found
  | @alone place outside event here waits stepped =>
    replace admitted : allowed input (code.alone place input).2 := by rwa [stepped]
    have moved := valid.alone (holds.outside here) waits admitted
    rw [stepped] at moved
    refine ⟨sound, holds.free, fun found => holds.outside_others here ?_ found, ?_⟩
    · rintro _ ⟨⟩
      exact moved
    · intro other mutex inside found
      dsimp only at found ⊢
      rw [getElem?_set_place here] at found
      split at found
      · cases found
      · rename_i different
        rw [eventsOf_other different]
        exact holds.inside found
  | @stays mutex place inside after event here stepped =>
    have owner := holds.sound.owns here
    refine ⟨sound, ?_, fun found => holds.outside_others here (by rintro _ ⟨⟩) found, ?_⟩
    · intro other unowned
      dsimp only at unowned ⊢
      rw [Function.update_of_ne]
      · exact holds.free unowned
      · rintro rfl
        rw [owner] at unowned
        cases unowned
    · intro other taken there found
      dsimp only at found ⊢
      rw [getElem?_set_place here] at found
      split at found
      · rename_i same
        cases found
        rw [same, eventsOf_self, Function.update_self]
        exact valid.stays (holds.inside here) admitted stepped
      · rename_i different
        rw [eventsOf_other different, Function.update_of_ne]
        · exact holds.inside found
        · rintro rfl
          exact different (Option.some.inj ((holds.sound.owns found).symm.trans owner))
  | @leaves mutex place outside after event here stepped =>
    have owner := holds.sound.owns here
    obtain ⟨free, moved⟩ := valid.leaves (holds.inside here) admitted stepped
    refine ⟨sound, ?_, fun found => holds.outside_others here ?_ found, ?_⟩
    · intro other unowned
      dsimp only at unowned ⊢
      by_cases same : other = mutex
      · subst same
        rw [Function.update_self]
        exact free
      · rw [Function.update_of_ne same] at unowned ⊢
        exact holds.free unowned
    · rintro _ ⟨⟩
      exact moved
    · intro other taken there found
      dsimp only at found ⊢
      rw [getElem?_set_place here] at found
      split at found
      · cases found
      · rename_i different
        rw [eventsOf_other different, Function.update_of_ne]
        · exact holds.inside found
        · rintro rfl
          exact different (Option.some.inj ((holds.sound.owns found).symm.trans owner))

omit [DecidableEq Mutex] in
/-- A step of a thread that is stuck changes nothing that is said. -/
theorem Outline.Holds.idle (holds : outline.Holds past state) :
    outline.Holds (past ++ [((id, input), none)]) state := by
  have same : ∀ other, eventsOf other (past ++ [((id, input), (none : Option Event))]) =
      eventsOf other past := by
    intro other
    rw [eventsOf_concat, ite_self, Option.toList_none, List.append_nil]
  refine ⟨holds.sound, holds.free, fun found => ?_, fun found => ?_⟩
  · rw [same]
    exact holds.outside found
  · rw [same]
    exact holds.inside found

end Moves

/-- **A valid outline holds in every interleaving.** -/
theorem Outline.Valid.run (valid : outline.Valid code allowed)
    {start : Threads Guarded Inside Outside} {steps : List (Nat × Input)}
    (admitted : ∀ entry ∈ code.machine.history start steps, allowed entry.1.2 entry.2)
    (holds : outline.Holds ([] : List ((Nat × Input) × Option Event)) start) :
    outline.Holds (code.machine.history start steps) (code.machine.run start steps) := by
  have step : ∀ (past : List ((Nat × Input) × Option Event)) (state : Threads Guarded Inside Outside)
      (input : Nat × Input),
      ((∀ entry ∈ past, allowed entry.1.2 entry.2) → outline.Holds past state) →
      (∀ entry ∈ past ++ [(input, (code.machine.step state input).2)], allowed entry.1.2 entry.2) →
        outline.Holds (past ++ [(input, (code.machine.step state input).2)])
          (code.machine.step state input).1 := by
    rintro past state ⟨id, input⟩ before all
    have now := before fun entry member => all entry (List.mem_append_left _ member)
    have last := all _ (List.mem_append_right past (List.mem_singleton_self _))
    rcases @step_cases _ _ _ _ _ _ _ code state id input with moves | ⟨-, stays⟩
    · exact now.moves valid last moves
    · show outline.Holds (past ++ [((id, input), (code.step state (id, input)).2)])
        (code.step state (id, input)).1
      rw [stays]
      exact now.idle
  exact @Machine.history_invariant _ _ _ code.machine
    (fun past state => (∀ entry ∈ past, allowed entry.1.2 entry.2) → outline.Holds past state) step
    steps [] start (fun _ => holds) admitted

/-! ### The events of a run -/

/-- **A run has the threads it began with**, and only they make events. -/
theorem length_places_run (start : Threads Guarded Inside Outside) (steps : List (Nat × Input)) :
    (code.machine.run start steps).places.length = start.places.length ∧
      ∀ entry ∈ code.machine.history start steps, ∀ event, entry.2 = some event →
        entry.1.1 < start.places.length := by
  refine @Machine.history_invariant _ _ _ code.machine
    (fun past state => state.places.length = start.places.length ∧ ∀ entry ∈ past, ∀ event,
      entry.2 = some event → entry.1.1 < start.places.length) ?_ steps [] start
    ⟨rfl, (fun entry member => by cases member)⟩
  rintro past state input ⟨count, below⟩
  obtain ⟨same, there⟩ := @length_places_step _ _ _ _ _ _ _ code state input
  refine ⟨same.trans count, fun entry member event made => ?_⟩
  rcases List.mem_append.mp member with before | last
  · exact below entry before event made
  · obtain rfl := List.mem_singleton.mp last
    exact count ▸ there event made

/-- One member of a list gives one more element. -/
theorem flatMap_cons_perm {Index : Type} [DecidableEq Index] {indices : List Index} {index : Index}
    (member : index ∈ indices) (once : indices.Nodup) (items : Index → List Event) (item : Event) :
    (indices.flatMap fun other => if index = other then item :: items other else items other).Perm
      (item :: indices.flatMap items) := by
  induction indices with
  | nil => cases member
  | cons head rest ih =>
    obtain ⟨outside, onceRest⟩ := List.nodup_cons.mp once
    rw [List.flatMap_cons, List.flatMap_cons]
    by_cases here : index = head
    · subst here
      have others : (rest.flatMap fun other =>
          if index = other then item :: items other else items other) = rest.flatMap items := by
        refine List.flatMap_congr fun other later => if_neg ?_
        rintro rfl
        exact outside later
      rw [if_pos rfl, others, List.cons_append]
    · rw [if_neg here]
      have later := (List.mem_cons.mp member).resolve_left here
      exact ((ih later onceRest).append_left _).trans List.perm_middle

omit [DecidableEq Mutex] in
/-- **The events of a run are those of its threads**, in some order. -/
theorem events_perm {count : Nat} (past : List ((Nat × Input) × Option Event))
    (below : ∀ entry ∈ past, ∀ event, entry.2 = some event → entry.1.1 < count) :
    (past.filterMap Prod.snd).Perm ((List.range count).flatMap (eventsOf · past)) := by
  induction past with
  | nil =>
    have none_ : ((List.range count).flatMap fun id =>
        eventsOf id ([] : List ((Nat × Input) × Option Event))) = [] :=
      List.flatMap_eq_nil_iff.mpr fun _ _ => rfl
    rw [none_]
    exact List.Perm.nil
  | cons entry rest ih =>
    have belowRest := ih fun later member => below later (List.mem_cons_of_mem _ member)
    obtain ⟨⟨id, input⟩, event⟩ := entry
    cases event with
    | none =>
      have same : ∀ other, eventsOf other (((id, input), (none : Option Event)) :: rest) =
          eventsOf other rest := fun other => List.filterMap_cons_none (ite_self _)
      rw [List.filterMap_cons_none rfl, List.flatMap_congr fun other _ => same other]
      exact belowRest
    | some event =>
      have more : ∀ other, eventsOf other (((id, input), some event) :: rest) =
          if id = other then event :: eventsOf other rest else eventsOf other rest := by
        intro other
        split
        · exact List.filterMap_cons_some (if_pos ‹id = other›)
        · exact List.filterMap_cons_none (if_neg ‹¬ id = other›)
      have member : id ∈ List.range count :=
        List.mem_range.mpr (below _ List.mem_cons_self event rfl)
      rw [List.flatMap_congr fun other _ => more other]
      show (event :: rest.filterMap Prod.snd).Perm _
      exact (belowRest.cons event).trans
        (flatMap_cons_perm member List.nodup_range (eventsOf · rest) event).symm

end WemoBridge.Library.Sections
