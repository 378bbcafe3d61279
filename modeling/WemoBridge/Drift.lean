/-
**Brightness under repeated rounds.**

In a round the controller writes back the CurrentLevel it reads, the bridge dispatches the converted
percent, and once the level window is over the WeMo reports that percent. The two conversions
truncate, 254 → 100 in the write handler and 100 → 254 in the event handler, so one round takes the
level `l` to `echoed l ≤ l` (`Bridge.Tracks.playRound`), and `echoed l = l` only for 2, 127 and 254
(`echoed_eq_iff`). Hence the level stays at the one first written exactly if there is no round or it
is one of these three (`noDrift_iff`).
-/

import WemoBridge.LevelGate

namespace WemoBridge

open Library
open Library.Settle (Entry Register)

variable {D : Type} [ChipSdk D]

/-! ### Rounds -/

/-- A round: when the controller writes, when the WeMo's report arrives, and the on state in it. -/
structure Round where
  writeAt : TimePoint
  eventAt : TimePoint
  state : Int
  deriving DecidableEq, Repr

/-- What the controller reads as CurrentLevel. -/
def readLevel (x : PublishedLight) (now : TimePoint) (bridge : Bridge D) : Option UInt8 :=
  match (bridge.step (now, .read x.endpoint (.levelControl .currentLevel) 1)).2.value with
  | some (.uint8 level) => some level
  | _ => none

/-- The controller's write of a round. -/
def Round.write (x : PublishedLight) (level : UInt8) (round : Round) : TimePoint × Input :=
  (round.writeAt, .write x.endpoint (.levelControl .currentLevel) fun _ => level)

/-- The WeMo's report of a round. -/
def Round.event (x : PublishedLight) (percent : UInt8) (round : Round) : TimePoint × Input :=
  (round.eventAt,
    .event { wemoId := x.wemoId, isOnline := true, state := round.state, level := percent.toNat })

/-- One round, with the level written and the percent dispatched. -/
def playRound (x : PublishedLight) (bridge : Bridge D) (round : Round) :
    Bridge D × List (UInt8 × UInt8) :=
  match readLevel x round.writeAt bridge with
  | none => (bridge, [])
  | some level =>
    let written := bridge.step (round.write x level)
    match written.2.dispatched with
    | [.setLevelPercent _ percent] =>
        ((written.1.step (round.event x percent)).1, [(level, percent)])
    | _ => (written.1, [])

/-- Rounds one after the other. -/
def playRounds (x : PublishedLight) : Bridge D → List Round → Bridge D × List (UInt8 × UInt8)
  | bridge, [] => (bridge, [])
  | bridge, round :: rest =>
      let played := playRound x bridge round
      ((playRounds x played.1 rest).1, played.2 ++ (playRounds x played.1 rest).2)

/-- The times of the rounds: each starts after the one before, its report comes after the level
window of its write, and its write comes more than 2000 ms after every earlier OnOff write. -/
def Timely (x : PublishedLight) (trace : List Step) : TimePoint → List Round → Prop
  | _, [] => True
  | now, round :: rest =>
      now ≤ round.writeAt ∧ round.writeAt + milliseconds 2000 < round.eventAt ∧ round.state ≠ 0 ∧
        (∀ step ∈ trace, ∀ written on, successfulOnOffWrite x step = some (written, on) →
          written + milliseconds 2000 < round.writeAt) ∧
        Timely x trace round.eventAt rest

/-- **No drift**: after the rounds the CurrentLevel read is the level written in the first round, and
every round dispatched the same percent. -/
def NoDrift (x : PublishedLight) (bridge : Bridge D) (rounds : List Round) : Prop :=
  ∀ first ∈ (playRounds x bridge rounds).2.head?,
    (∀ now, readLevel x now (playRounds x bridge rounds).1 = some first.1) ∧
      ∀ played ∈ (playRounds x bridge rounds).2, played.2 = first.2

/-! ### The two conversions -/

/-- What the WeMo's report of a written level comes back as. -/
def echoed (level : UInt8) : UInt8 := matterLevelOf (wemoPercentOf level).toNat

theorem toNat_matterLevelOf {level : Int} (nonneg : 0 ≤ level) (le : level ≤ 100) :
    (matterLevelOf level).toNat = level.toNat * 254 / 100 := by
  have narrowed : (UInt16.ofInt level).toNat = level.toNat := by
    rw [UInt16.ofInt, UInt16.toNat_ofNat']
    omega
  rw [matterLevelOf, narrowed, UInt8.toNat_ofNat']
  omega

theorem toNat_echoed {level : UInt8} (above : 2 ≤ level) :
    (echoed level).toNat = max 1 (level.toNat * 100 / 254) * 254 / 100 := by
  have below := level.toNat_lt
  have percent := toNat_wemoPercentOf above
  rw [echoed, toNat_matterLevelOf (by omega) (by omega), Int.toNat_natCast, percent]

/-- The echo is never brighter, and never too dark for another round. -/
theorem echoed_le {level : UInt8} (above : 2 ≤ level) : echoed level ≤ level ∧ 2 ≤ echoed level := by
  have atLeast : 2 ≤ level.toNat := UInt8.le_iff_toNat_le.mp above
  have same := toNat_echoed above
  rw [UInt8.le_iff_toNat_le, UInt8.le_iff_toNat_le, same]
  constructor
  · omega
  · show 2 ≤ _
    omega

/-- **The levels a round keeps.** -/
theorem echoed_eq_iff {level : UInt8} (above : 2 ≤ level) :
    echoed level = level ↔ level = 2 ∨ level = 127 ∨ level = 254 := by
  have atLeast : 2 ≤ level.toNat := UInt8.le_iff_toNat_le.mp above
  have below := level.toNat_lt
  have values : (level = 2 ∨ level = 127 ∨ level = 254) ↔
      level.toNat = 2 ∨ level.toNat = 127 ∨ level.toNat = 254 := by
    rw [← UInt8.toNat_inj, ← UInt8.toNat_inj, ← UInt8.toNat_inj]
    rfl
  rw [values, ← UInt8.toNat_inj, toNat_echoed above]
  omega

/-! ### One round -/

/-- A LevelControl read of a dimmer is answered by its handler. -/
theorem Bridge.Published.step_levelRead {bridge : Bridge D} (published : bridge.Published)
    {x : PublishedLight} (ofX : bridge.Publishes x) (dimmable : x.isDimmable = true) :
    ∃ light dimmer, bridge.lightAt x.device = some light ∧ light.object.dimmer = some dimmer ∧
      ∀ now attributeId maxReadLength,
        (bridge.step (now, .read x.endpoint (.levelControl attributeId) maxReadLength)).2 =
          handleReadLevelControlAttribute dimmer attributeId maxReadLength := by
  obtain ⟨light, found, backs⟩ := ofX.light
  obtain ⟨dimmer, isDimmer⟩ : ∃ dimmer, light.object.dimmer = some dimmer :=
    Option.isSome_iff_exists.mp (backs.dimmer.trans dimmable)
  have declared : light.declares .levelControl = true := by
    rw [Light.declares, backs.isDimmable, dimmable]
    rfl
  refine ⟨light, dimmer, found, isDimmer, fun now attributeId maxReadLength => ?_⟩
  have aimed : bridge.target (.read x.endpoint (.levelControl attributeId) maxReadLength) =
      some x.device := (published.slot_eq_some_iff ofX x.endpoint).mpr rfl
  rw [published.step_target ofX aimed found backs]
  simp only [Light.step, AttributePath.cluster, declared, if_true, Light.read, isDimmer]

/-- The controller reads the level of the light. -/
theorem Bridge.Published.readLevel_eq {bridge : Bridge D} (published : bridge.Published)
    {x : PublishedLight} (ofX : bridge.Publishes x) (dimmable : x.isDimmable = true)
    (now : TimePoint) : readLevel x now bridge = bridge.levelOf x := by
  obtain ⟨light, dimmer, found, isDimmer, answer⟩ := published.step_levelRead ofX dimmable
  rw [readLevel, answer, Bridge.levelOf, found]
  simp [handleReadLevelControlAttribute, DeviceObject.getLevel, isDimmer]

namespace Bridge

variable {bridge : Bridge D} {x : PublishedLight} {onOff : Bool} {level : UInt8} {now : TimePoint}
  {past : List Step} {round : Round}

/-- **The write of a round.** It dispatches the converted percent and is the level write the light
remembers; no OnOff write is added. -/
theorem Tracks.roundWrite (tracks : bridge.Tracks x onOff level now past)
    (dimmable : x.isDimmable = true) (reachable : bridge.isReachableOf x = some true)
    (le : now ≤ round.writeAt)
    (settled : ∀ written on, lastOnOffWrite x past = some (written, on) →
      written + milliseconds 2000 < round.writeAt) {current : UInt8} (above : 2 ≤ current) :
    let written := bridge.step (round.write x current)
    let later := past ++ [(round.write x current, written.2)]
    written.2.dispatched = [.setLevelPercent x.udn (wemoPercentOf current)] ∧
      written.1.Tracks x onOff level round.writeAt later ∧
      lastLevelWrite x later = some (round.writeAt, current) ∧
      lastOnOffWrite x later = lastOnOffWrite x past := by
  intro written later
  obtain ⟨light, found, sound, onOffTracks, -⟩ := tracks.light
  have isReachable : light.object.isReachable = true := by
    rw [isReachableOf, found] at reachable
    exact Option.some.inj reachable
  have noneSettling : Settle.settling kCommandSettleWindow round.writeAt (onOffHistory x past) =
      none := by
    rw [Settle.settling, lastCommand_onOffHistory]
    cases last : lastOnOffWrite x past with
    | none => rfl
    | some write => exact if_neg (not_le.mpr (settled write.1 write.2 last))
  obtain ⟨dimmer, isDimmer, udn, writeEq⟩ := tracks.published.step_levelWrite tracks.publishes
    dimmable found isReachable round.writeAt fun _ => current
  have isOpen : ¬ ((light.onOff.inspect round.writeAt).pending.isSome = true ∨ current ≤ 1) := by
    rw [(onOffTracks.mono le).inspect_pending, noneSettling]
    rintro (pending | low)
    · cases pending
    · exact absurd (le_trans above low) (by decide)
  rw [Light.writeLevel_eq isReachable, if_neg isOpen, udn] at writeEq
  have sent : written.2.dispatched = [.setLevelPercent x.udn (wemoPercentOf current)] := by
    show (bridge.step (round.write x current)).2.dispatched = _
    rw [Round.write, writeEq]
  have entry : effectiveLevelWrite x (round.write x current, written.2) =
      some (round.writeAt, current) := by
    show (if x.endpoint = x.endpoint ∧ _ then _ else _) = _
    rw [if_pos ⟨rfl, by rw [sent]; simp⟩]
  refine ⟨sent, tracks.step le (round.write x current).2, ?_, ?_⟩
  · simp [later, lastLevelWrite, List.filterMap_append, entry]
  · simp [later, lastOnOffWrite, List.filterMap_append, successfulOnOffWrite, Round.write]

/-- **One round.** It dispatches the converted percent and takes the level to its echo; the light
stays reachable, and no OnOff write is added. -/
theorem Tracks.playRound (tracks : bridge.Tracks x onOff level now past)
    (dimmable : x.isDimmable = true) (reachable : bridge.isReachableOf x = some true)
    (le : now ≤ round.writeAt) (spaced : round.writeAt + milliseconds 2000 < round.eventAt)
    (settled : ∀ written on, lastOnOffWrite x past = some (written, on) →
      written + milliseconds 2000 < round.writeAt) {current : UInt8}
    (shows : bridge.levelOf x = some current) (above : 2 ≤ current) :
    (WemoBridge.playRound x bridge round).2 = [(current, wemoPercentOf current)] ∧
      (WemoBridge.playRound x bridge round).1.levelOf x = some (echoed current) ∧
      (WemoBridge.playRound x bridge round).1.isReachableOf x = some true ∧
      ∃ later, (WemoBridge.playRound x bridge round).1.Tracks x onOff level round.eventAt later ∧
        lastOnOffWrite x later = lastOnOffWrite x past := by
  obtain ⟨sent, written, lastLevel, noOnOff⟩ :=
    tracks.roundWrite dimmable reachable le settled above
  have playedEq : WemoBridge.playRound x bridge round =
      (((bridge.step (round.write x current)).1.step
        (round.event x (wemoPercentOf current))).1, [(current, wemoPercentOf current)]) := by
    rw [WemoBridge.playRound, tracks.published.readLevel_eq tracks.publishes dimmable, shows]
    dsimp only
    rw [sent]
  have le' : round.writeAt ≤ round.eventAt := by
    have positive : (0 : Int) ≤ milliseconds 2000 := by decide
    exact le_trans (Int.le_add_of_nonneg_right positive) spaced.le
  have windowOver : ¬ round.eventAt - milliseconds 2000 ≤ round.writeAt := fun recent =>
    absurd (Int.le_add_of_sub_right_le recent) (not_le.mpr spaced)
  obtain ⟨lightAfter, foundAfter, soundAfter, -, -⟩ := written.light
  rw [playedEq]
  refine ⟨rfl, ?_, ?_, _, written.step le' (round.event x (wemoPercentOf current)).2, ?_⟩
  · -- the level window is over, so the event's level is taken
    have reported := @Tracks.levelOf_event D _ _ x onOff level round.writeAt round.eventAt _ written
      le' { wemoId := x.wemoId, isOnline := true, state := round.state,
            level := (wemoPercentOf current).toNat } rfl rfl dimmable (Int.natCast_nonneg _)
    rw [lastLevel, recentOr, if_neg windowOver] at reported
    exact reported
  · have addressed : (round.event x (wemoPercentOf current)).2.isFor x = true := by
      simp [Round.event, Input.isFor]
    obtain ⟨foundEvent, -⟩ := written.published.lightAt_step round.eventAt _ written.distinct
      written.publishes addressed foundAfter
    rw [isReachableOf]
    refine (congrArg _ foundEvent).trans (congrArg some ?_)
    exact lightAfter.event_isReachable round.eventAt _ soundAfter.dimmer
  · rw [← noOnOff]
    exact lastOnOffWrite_event x _ _ _ _

/-- **All rounds.** Each writes and dispatches what the echo of the round before left. -/
theorem Tracks.playRounds {trace : List Step} (dimmable : x.isDimmable = true)
    (rounds : List Round) : ∀ {bridge : Bridge D} {now : TimePoint} {past : List Step}
      {current : UInt8}, bridge.Tracks x onOff level now past →
      bridge.isReachableOf x = some true → lastOnOffWrite x past = lastOnOffWrite x trace →
      Timely x trace now rounds → bridge.levelOf x = some current → 2 ≤ current →
      (∃ now later, (playRounds x bridge rounds).1.Tracks x onOff level now later) ∧
        (playRounds x bridge rounds).1.levelOf x = some (echoed^[rounds.length] current) ∧
        (playRounds x bridge rounds).2 = (List.range rounds.length).map fun k =>
          (echoed^[k] current, wemoPercentOf (echoed^[k] current)) := by
  induction rounds with
  | nil =>
    intro bridge now past current tracks _ _ _ shows _
    exact ⟨⟨now, past, tracks⟩, shows, rfl⟩
  | cons round rest ih =>
    intro bridge now past current tracks reachable sameWrites timely shows above
    obtain ⟨le, spaced, -, apart, timelyRest⟩ := timely
    have settled : ∀ written on, lastOnOffWrite x past = some (written, on) →
        written + milliseconds 2000 < round.writeAt := by
      intro written on last
      rw [sameWrites] at last
      obtain ⟨step, member, success⟩ := List.mem_filterMap.mp (List.mem_of_getLast? last)
      exact apart step member written on success
    obtain ⟨played, showsEcho, reachableAfter, later, tracksAfter, sameAfter⟩ :=
      tracks.playRound dimmable reachable le spaced settled shows above
    obtain ⟨ends, showsLast, outcomes⟩ := ih tracksAfter reachableAfter
      (sameAfter.trans sameWrites) timelyRest showsEcho (echoed_le above).2
    refine ⟨ends, showsLast, ?_⟩
    rw [WemoBridge.playRounds]
    dsimp only
    rw [played, outcomes, List.length_cons, List.range_succ_eq_map, List.map_cons, List.map_map]
    rfl

end Bridge

/-! ### No drift -/

/-- A level that drifts in the first round never comes back. -/
theorem echoed_iterate_succ_eq_iff {level : UInt8} (above : 2 ≤ level) (n : Nat) :
    echoed^[n + 1] level = level ↔ echoed level = level := by
  constructor
  · intro back
    have descends : ∀ m (start : UInt8), 2 ≤ start →
        echoed^[m] start ≤ start ∧ 2 ≤ echoed^[m] start := by
      intro m
      induction m with
      | zero => exact fun start high => ⟨le_rfl, high⟩
      | succ m ih =>
        intro start high
        obtain ⟨lower, high'⟩ := echoed_le high
        obtain ⟨le, stillHigh⟩ := ih (echoed start) high'
        rw [Function.iterate_succ_apply]
        exact ⟨le_trans le lower, stillHigh⟩
    obtain ⟨lower, high'⟩ := echoed_le above
    rw [Function.iterate_succ_apply] at back
    have bounded := (descends n (echoed level) high').1
    rw [back] at bounded
    exact le_antisymm lower bounded
  · intro fixed
    exact Function.iterate_fixed fixed _

/-- **When brightness does not drift.** After any run of a started bridge, let the controller and the
WeMo of a reachable dimmer play timely rounds, starting from a CurrentLevel of at least 2. The level
stays at the one first written, with the same percent in every round, exactly when there is no round
or that level is 2, 127 or 254. -/
theorem noDrift_iff {bridge : Bridge D} (started : bridge.Started)
    (distinct : bridge.DistinctWemoIds) {x : PublishedLight} (ofX : bridge.Publishes x)
    (dimmable : x.isDimmable = true) {start : TimePoint} {inputs : List (TimePoint × Input)}
    (ordered : Machine.Ordered start inputs)
    (reachable : ((bridgeMachine D).run bridge inputs).isReachableOf x = some true)
    {rounds : List Round}
    (timely : Timely x ((bridgeMachine D).history bridge inputs) (Machine.endTime start inputs)
      rounds) {current : UInt8} (above : 2 ≤ current)
    (reads : readLevel x (Machine.endTime start inputs) ((bridgeMachine D).run bridge inputs) =
      some current) :
    NoDrift x ((bridgeMachine D).run bridge inputs) rounds ↔
      rounds = [] ∨ current = 2 ∨ current = 127 ∨ current = 254 := by
  obtain ⟨onOff, level, tracks⟩ := started.run_tracks distinct ofX ordered
  rw [tracks.published.readLevel_eq tracks.publishes dimmable] at reads
  obtain ⟨⟨now, later, tracksAfter⟩, showsLast, outcomes⟩ :=
    Bridge.Tracks.playRounds dimmable rounds tracks reachable rfl timely reads above
  have readsLast : ∀ now, readLevel x now
      (playRounds x ((bridgeMachine D).run bridge inputs) rounds).1 =
        some (echoed^[rounds.length] current) := fun now => by
    rw [tracksAfter.published.readLevel_eq tracksAfter.publishes dimmable, showsLast]
  rw [NoDrift, outcomes, ← echoed_eq_iff above]
  cases rounds with
  | nil => simp
  | cons round rest =>
    simp only [readsLast, List.length_cons, List.range_succ_eq_map, List.map_cons,
      List.head?_cons, Option.mem_some_iff, forall_eq', Function.iterate_zero, id_eq,
      Option.some.injEq, reduceCtorEq, false_or]
    constructor
    · rintro ⟨back, -⟩
      exact (echoed_iterate_succ_eq_iff above _).mp (back now)
    · intro fixed
      refine ⟨fun _ => (echoed_iterate_succ_eq_iff above _).mpr fixed, ?_⟩
      intro played member
      rcases List.mem_cons.mp member with rfl | member
      · rfl
      · obtain ⟨k, -, rfl⟩ := List.mem_map.mp member
        rw [Function.iterate_fixed fixed]

/-- The dimmer of the sample home starts at 50 %, that is 127, and stays there. -/
theorem noDrift_iff_sample :
    NoDrift sampleDimmer sampleHome
      [{ writeAt := milliseconds 1000, eventAt := milliseconds 4000, state := 1 }] := by
  have timely : Timely sampleDimmer ((bridgeMachine PlainDevice).history sampleHome []) 0
      [{ writeAt := milliseconds 1000, eventAt := milliseconds 4000, state := 1 }] := by
    refine ⟨by decide, by decide, by decide, ?_, trivial⟩
    intro step member
    cases member
  exact (noDrift_iff sampleHome_started.1 sampleHome_started.2 sampleHome_publishes rfl
    (Machine.ordered_nil (0 : TimePoint)) (by decide) timely (by decide) (by decide)).mpr
      (Or.inr (Or.inr (Or.inl rfl)))

/-- Written to 200, that is 78 %, the dimmer comes back at 198 after one round. -/
theorem brightness_drifts :
    let inputs := [((0 : TimePoint), Input.write 3 (.levelControl .currentLevel) fun _ => 200)]
    let bridge := (bridgeMachine PlainDevice).run sampleHome inputs
    let rounds := [{ writeAt := milliseconds 3000, eventAt := milliseconds 6000, state := 1 }]
    Machine.Ordered 0 inputs ∧ bridge.isReachableOf sampleDimmer = some true ∧
      Timely sampleDimmer ((bridgeMachine PlainDevice).history sampleHome inputs) 0 rounds ∧
      readLevel sampleDimmer 0 bridge = some 200 ∧ ¬ NoDrift sampleDimmer bridge rounds := by
  refine ⟨⟨le_rfl, trivial⟩, by decide, ⟨by decide, by decide, by decide, ?_, trivial⟩, by decide,
    ?_⟩
  · intro step member written on success
    obtain rfl := List.mem_singleton.mp member
    cases success
  · intro noDrift
    exact absurd ((noDrift (200, 78) (by decide)).1 0) (by decide)

end WemoBridge
