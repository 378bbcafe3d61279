/-
**The gate of level writes.**

A level write to a reachable dimmer always answers Success. It takes effect exactly when its level is
at least 2 and no OnOff command is settling (`Light.writeLevel_eq`), that is, when no successful
OnOff write to the same light lies in the 2000 ms before it (`level_write_gate`).

A write that takes no effect may still clear an expired OnOff marker. Nobody can tell: a light with
an expired marker cleared answers every later step as the light itself (`Light.step_cleared`), so a
bridge with one light cleared is bisimilar to the bridge (`MaybeCleared.step`).
-/

import WemoBridge.Window

namespace WemoBridge

open Library
open Library.Settle (Entry Register)

variable {D : Type} [ChipSdk D]

/-! ### Clearing an expired marker goes unnoticed -/

/-- A marker cleared early is a marker cleared later. -/
theorem clearExpiredOnOff_clearExpiredOnOff (entry : BridgedWemoLight) {earlier now : TimePoint}
    (le : earlier ≤ now) :
    (entry.clearExpiredOnOff earlier).clearExpiredOnOff now = entry.clearExpiredOnOff now := by
  unfold BridgedWemoLight.clearExpiredOnOff
  by_cases early : entry.commandedOnOff ≥ 0 ∧ earlier > entry.commandedOnOffUntil
  · have late : entry.commandedOnOff ≥ 0 ∧ now > entry.commandedOnOffUntil :=
      ⟨early.1, lt_of_lt_of_le early.2 le⟩
    simp [early, late]
  · rw [if_neg early]

namespace Light

omit [ChipSdk D] in
/-- The light with an OnOff marker that expired before `now` cleared. -/
def cleared (now : TimePoint) (light : Light D) : Light D :=
  { light with entry := light.entry.clearExpiredOnOff now }

section Unnoticed

variable {light : Light D} {earlier now : TimePoint}

theorem cleared_static (light : Light D) : (light.cleared now).SameStatic light :=
  ⟨light.entry.clearExpiredOnOff_wemoId now, light.entry.clearExpiredOnOff_udn now,
    light.entry.clearExpiredOnOff_isDimmable now, light.entry.clearExpiredOnOff_device now, rfl, rfl⟩

/-- A handler that looks at the marker first does the same on both lights. -/
theorem handleEventOnOff_cleared (le : earlier ≤ now) (ctx : WemoEventContext)
    (entry : BridgedWemoLight) (dev : DeviceObject D) :
    handleEventOnOff now ctx (entry.clearExpiredOnOff earlier) dev =
      handleEventOnOff now ctx entry dev := by
  unfold handleEventOnOff
  rw [clearExpiredOnOff_clearExpiredOnOff entry le]

theorem event_cleared (le : earlier ≤ now) (light : Light D) (ctx : WemoEventContext) :
    (light.cleared earlier).event now ctx = light.event now ctx ∨
      (light.cleared earlier).event now ctx =
        ((light.event now ctx).1.cleared earlier, (light.event now ctx).2) := by
  by_cases online : ctx.isOnline = true
  · have same : handleEventOnLight now ctx (light.cleared earlier).entry light.object =
        handleEventOnLight now ctx light.entry light.object := by
      simp only [handleEventOnLight, cleared, online, if_pos, handleEventOnOff_cleared le]
    unfold event
    rw [show (light.cleared earlier).object = light.object from rfl, same]
    cases handleEventOnLight now ctx light.entry light.object with
    | none => exact Or.inr rfl
    | some updated => exact Or.inl rfl
  · refine Or.inr ?_
    simp only [event, handleEventOnLight, cleared, online, Bool.false_eq_true, if_false]

theorem writeOnOff_cleared (light : Light D) (attributeId : OnOffAttribute) (buffer : Buffer) :
    (light.cleared earlier).writeOnOff now attributeId buffer =
        light.writeOnOff now attributeId buffer ∨
      (light.cleared earlier).writeOnOff now attributeId buffer =
        ((light.writeOnOff now attributeId buffer).1.cleared earlier,
          (light.writeOnOff now attributeId buffer).2) := by
  unfold writeOnOff
  rw [show (light.cleared earlier).object = light.object from rfl]
  split
  · -- the write overwrites the marker
    refine Or.inl ?_
    dsimp only [cleared]
    unfold BridgedWemoLight.clearExpiredOnOff
    split <;> rfl
  · exact Or.inr rfl

theorem writeLevel_cleared (le : earlier ≤ now) (light : Light D) (dimmer : Dimmer)
    (attributeId : LevelControlAttribute) (buffer : Buffer) :
    (light.cleared earlier).writeLevel now dimmer attributeId buffer =
        light.writeLevel now dimmer attributeId buffer ∨
      (light.cleared earlier).writeLevel now dimmer attributeId buffer =
        ((light.writeLevel now dimmer attributeId buffer).1.cleared earlier,
          (light.writeLevel now dimmer attributeId buffer).2) := by
  unfold writeLevel
  rw [show (light.cleared earlier).object = light.object from rfl]
  split
  · refine Or.inl ?_
    simp only [cleared, clearExpiredOnOff_clearExpiredOnOff light.entry le]
  · exact Or.inr rfl

theorem write_cleared (le : earlier ≤ now) (light : Light D) (path : AttributePath)
    (buffer : Buffer) :
    (light.cleared earlier).write now path buffer = light.write now path buffer ∨
      (light.cleared earlier).write now path buffer =
        ((light.write now path buffer).1.cleared earlier, (light.write now path buffer).2) := by
  unfold write
  rw [show (light.cleared earlier).object = light.object from rfl]
  split
  · cases path with
    | onOff attributeId => exact writeOnOff_cleared light attributeId buffer
    | levelControl attributeId =>
      cases light.object.dimmer with
      | none => exact Or.inr rfl
      | some dimmer => exact writeLevel_cleared le light dimmer attributeId buffer
    | bridgedDeviceBasicInformation attributeId =>
      refine Or.inr ?_
      dsimp only [writeBridgedDeviceBasic, cleared]
      split
      · rfl
      · split <;> rfl
    | temperatureMeasurement _ => exact Or.inr rfl
    | other _ _ => exact Or.inr rfl
  · exact Or.inr rfl

/-- **A cleared marker goes unnoticed**: the cleared light answers a later step as the light itself,
and ends up as the light itself or as it with the marker cleared. -/
theorem step_cleared (le : earlier ≤ now) (light : Light D) (input : Input) :
    (light.cleared earlier).step now input = light.step now input ∨
      (light.cleared earlier).step now input =
        ((light.step now input).1.cleared earlier, (light.step now input).2) := by
  have declares : ∀ cluster, (light.cleared earlier).declares cluster = light.declares cluster := by
    intro cluster
    simp [Light.declares, cleared]
  cases input with
  | write endpoint path buffer =>
    simp only [step, declares]
    split
    · exact write_cleared le light path buffer
    · exact Or.inr rfl
  | read endpoint path maxReadLength =>
    refine Or.inr ?_
    simp only [step, declares]
    rfl
  | event ctx => exact event_cleared le light ctx

end Unnoticed

end Light

namespace Bridge

/-- **The second bridge is the first**, but for an expired marker that may have been cleared. -/
def MaybeCleared (now : TimePoint) (first second : Bridge D) : Prop :=
  first.Published ∧ (second = first ∨ ∃ x light earlier, earlier ≤ now ∧ first.Publishes x ∧
    first.lightAt x.device = some light ∧ second = first.putLight x.device (light.cleared earlier))

section Bisimulation

variable {first : Bridge D} {x y : PublishedLight} {now time : TimePoint}

omit [ChipSdk D] in
/-- Putting two different lights back commutes. -/
theorem putLight_comm {bridge : Bridge D} {dev other : DevicePtr} (different : dev ≠ other)
    {light another : Light D} (ofLight : light.entry.device = dev)
    (ofAnother : another.entry.device = other) :
    (bridge.putLight other another).putLight dev light =
      (bridge.putLight dev light).putLight other another := by
  unfold putLight
  dsimp only
  rw [Function.update_comm different.symm, modifyFirst_comm different ofLight ofAnother]

/-- **Nobody can tell**: both bridges answer a step alike and stay related. -/
theorem MaybeCleared.step {second : Bridge D} (related : MaybeCleared now first second)
    (le : now ≤ time) (input : Input) :
    (first.step (time, input)).2 = (second.step (time, input)).2 ∧
      MaybeCleared time (first.step (time, input)).1 (second.step (time, input)).1 := by
  obtain ⟨published, rfl | ⟨x, light, earlier, before, ofX, found, rfl⟩⟩ := related
  · exact ⟨rfl, published.step time input, Or.inl rfl⟩
  have before' : earlier ≤ time := le_trans before le
  have static : (light.cleared earlier).SameStatic light := Light.cleared_static light
  have published' := published.putLight found static
  have sameTarget := target_putLight found static input
  rcases published.step_cases time input with ⟨missed, stepEq⟩ |
    ⟨y, lightY, ofY, aimed, foundY, backsY, stepEq⟩
  · rw [stepEq, published'.step_no_target (sameTarget.trans missed)]
    exact ⟨rfl, published, Or.inr ⟨x, light, earlier, before', ofX, found, rfl⟩⟩
  have publishedAfter := published.step time input
  have ofXAfter := (published.step_publishes_iff time input x).mpr ofX
  have ofYCleared := ofY.putLight found static
  have device : (light.cleared earlier).entry.device = x.device :=
    static.device.trans (lightAt_device found)
  rw [stepEq] at publishedAfter ofXAfter ⊢
  by_cases same : y.device = x.device
  · -- the step is for the light that may have been cleared
    obtain rfl : y = x := published.eq_of_device ofY ofX same
    obtain rfl : lightY = light := Option.some.inj (foundY.symm.trans found)
    rw [published'.step_target ofYCleared (sameTarget.trans aimed)
      (lightAt_putLight_self found device) (backsY.of_sameStatic static)]
    have stepStatic := (lightY.step_static time input).device.trans (lightAt_device found)
    rcases Light.step_cleared before' lightY input with unnoticed | stillCleared
    · rw [unnoticed, putLight_putLight _ _ device]
      exact ⟨rfl, publishedAfter, Or.inl rfl⟩
    · rw [stillCleared]
      refine ⟨rfl, publishedAfter, Or.inr ⟨y, (lightY.step time input).1, earlier, before', ofXAfter,
        lightAt_putLight_self found stepStatic, ?_⟩⟩
      rw [putLight_putLight _ _ device, putLight_putLight _ _ stepStatic]
  · -- the step is for another light
    have untouched : (first.putLight x.device (light.cleared earlier)).lightAt y.device =
        some lightY := (lightAt_putLight_other same device).trans foundY
    rw [published'.step_target ofYCleared (sameTarget.trans aimed) untouched backsY]
    have stepStatic := (lightY.step_static time input).device.trans (lightAt_device foundY)
    refine ⟨rfl, publishedAfter, Or.inr ⟨x, light, earlier, before', ofXAfter, ?_, ?_⟩⟩
    · exact (lightAt_putLight_other (fun here => same here.symm) stepStatic).trans found
    · exact putLight_comm same stepStatic device

/-- **A cleared light is not noticed in any run.** -/
theorem outputs_cleared (published : first.Published) (ofX : first.Publishes x) {light : Light D}
    (found : first.lightAt x.device = some light) {inputs : List (TimePoint × Input)}
    (ordered : Machine.Ordered now inputs) :
    (bridgeMachine D).outputs (first.putLight x.device (light.cleared now)) inputs =
      (bridgeMachine D).outputs first inputs := by
  symm
  exact (bridgeMachine D).outputs_eq_of_bisimulation MaybeCleared
    (fun _ _ _ _ input le related => related.step le input) inputs ordered
    ⟨published, Or.inr ⟨x, light, now, le_rfl, ofX, found, rfl⟩⟩

end Bisimulation

end Bridge

/-! ### The gate -/

theorem toNat_wemoPercentOf {level : UInt8} (above : 2 ≤ level) :
    (wemoPercentOf level).toNat = max 1 (level.toNat * 100 / 254) := by
  have below := level.toNat_lt
  have atLeast : 2 ≤ level.toNat := UInt8.le_iff_toNat_le.mp above
  have percent : (UInt8.ofNat (level.toNat * 100 / 254)).toNat = level.toNat * 100 / 254 := by
    rw [UInt8.toNat_ofNat']
    omega
  unfold wemoPercentOf
  dsimp only
  split
  · rename_i bumped
    have zero : level.toNat * 100 / 254 = 0 := by rw [← percent, bumped.2]; rfl
    rw [zero]
    rfl
  · rename_i positive
    have nonzero : level.toNat * 100 / 254 ≠ 0 := by
      intro zero
      refine positive ⟨UInt8.lt_iff_toNat_lt.mpr (by rw [UInt8.toNat_zero]; omega), ?_⟩
      rw [zero]
      rfl
    rw [percent]
    omega

/-- The percent of a level that passes the gate is one the WeMo stays on with. -/
theorem wemoPercentOf_mem {level : UInt8} (above : 2 ≤ level) :
    1 ≤ wemoPercentOf level ∧ wemoPercentOf level ≤ 100 := by
  have below := level.toNat_lt
  have percent := toNat_wemoPercentOf above
  constructor
  · rw [UInt8.le_iff_toNat_le, percent]
    exact le_max_left _ _
  · rw [UInt8.le_iff_toNat_le, percent]
    show _ ≤ 100
    omega

namespace Light

variable {light : Light D} {now : TimePoint}

/-- An inspected OnOff register has a pending command exactly when the marker is set. -/
theorem inspect_pending_isSome :
    (light.onOff.inspect now).pending.isSome ↔
      (light.entry.clearExpiredOnOff now).commandedOnOff ≥ 0 := by
  rw [onOff, ← onOffRegister_clearExpired, onOffRegister]
  by_cases pending : (light.entry.clearExpiredOnOff now).commandedOnOff < 0
  · simp [pending]
  · simp [pending, not_lt.mp pending]

omit [ChipSdk D] in
/-- A marker that survives clearing has not expired. -/
theorem clearExpiredOnOff_live
    (marked : (light.entry.clearExpiredOnOff now).commandedOnOff ≥ 0) :
    now ≤ (light.entry.clearExpiredOnOff now).commandedOnOffUntil := by
  unfold BridgedWemoLight.clearExpiredOnOff at marked ⊢
  split at marked
  · exact absurd marked (by simp)
  · rename_i live
    rw [if_neg live]
    exact not_lt.mp fun expired => live ⟨marked, expired⟩

/-- **The gate, on one light**: dropped while an OnOff command settles or if the level is at most 1,
and otherwise a command. -/
theorem writeLevel_eq (reachable : light.object.isReachable = true) (dimmer : Dimmer)
    (buffer : Buffer) :
    light.writeLevel now dimmer .currentLevel buffer =
      if (light.onOff.inspect now).pending.isSome ∨ buffer 0 ≤ 1 then
        (light.cleared now, { status := .success })
      else
        ({ entry :=
            { light.entry.clearExpiredOnOff now with
              commandedLevel := (buffer 0).toNat
              commandedLevelUntil := now + kCommandSettleWindow }
           object := (light.object.setLevel dimmer (buffer 0)).1 },
          { status := .success
            dispatched := [.setLevelPercent light.entry.udn (wemoPercentOf (buffer 0))]
            reported := (light.object.setLevel dimmer (buffer 0)).2 }) := by
  have pending := @inspect_pending_isSome D _ light now
  have live := @clearExpiredOnOff_live D light now
  unfold writeLevel
  rw [if_pos ⟨rfl, reachable⟩]
  dsimp only
  by_cases marked : (light.entry.clearExpiredOnOff now).commandedOnOff ≥ 0
  · rw [if_pos ⟨marked, live marked⟩, if_pos (Or.inl (pending.mpr marked))]
    rfl
  · have settled : ¬ (light.onOff.inspect now).pending.isSome := mt pending.mp marked
    rw [if_neg fun both => marked both.1]
    by_cases low : buffer 0 ≤ 1
    · rw [if_pos ⟨not_le.mp marked, low⟩, if_pos (Or.inr low)]
      rfl
    · rw [if_neg fun both => low both.2, if_neg (not_or.mpr ⟨settled, low⟩),
        light.entry.clearExpiredOnOff_udn]

end Light

/-! ### The gate in a run -/

/-- A successful OnOff write to the light happened in the 2000 ms before `time`. -/
def RecentlySwitched (x : PublishedLight) (time : TimePoint) (trace : List Step) : Prop :=
  ∃ step ∈ trace, ∃ written on, successfulOnOffWrite x step = some (written, on) ∧
    time - milliseconds 2000 ≤ written ∧ written ≤ time

theorem successfulOnOffWrite_time {x : PublishedLight} {step : Step} {written : TimePoint}
    {on : Bool} (success : successfulOnOffWrite x step = some (written, on)) :
    step.1.1 = written := by
  unfold successfulOnOffWrite at success
  split at success
  · split at success
    · cases success
      rfl
    · cases success
  · cases success

/-- In a list ordered by a key the last element has the largest. -/
theorem le_getLast?_of_pairwise {α : Type} {key : α → TimePoint} {list : List α}
    (ordered : list.Pairwise fun a b => key a ≤ key b) {last : α} (atEnd : list.getLast? = some last)
    {a : α} (member : a ∈ list) : key a ≤ key last := by
  rcases List.eq_nil_or_concat list with rfl | ⟨initial, b, rfl⟩
  · cases member
  · rw [List.concat_eq_append] at *
    obtain rfl : b = last := by simpa using atEnd
    rcases List.mem_append.mp member with early | last
    · exact (List.pairwise_append.mp ordered).2.2 a early b List.mem_cons_self
    · rw [List.mem_singleton.mp last]

/-- An OnOff command is settling exactly if the light was recently switched. -/
theorem settling_isSome_iff {x : PublishedLight} {time : TimePoint} {trace : List Step}
    (ordered : trace.Pairwise fun a b => a.1.1 ≤ b.1.1) (past : ∀ step ∈ trace, step.1.1 ≤ time) :
    (Settle.settling kCommandSettleWindow time (onOffHistory x trace)).isSome ↔
      RecentlySwitched x time trace := by
  have writesOrdered : (trace.filterMap (successfulOnOffWrite x)).Pairwise
      fun a b => a.1 ≤ b.1 := by
    refine List.pairwise_filterMap.mpr (ordered.imp ?_)
    rintro step next le ⟨written, on⟩ first ⟨written', on'⟩ second
    rwa [← successfulOnOffWrite_time first, ← successfulOnOffWrite_time second]
  constructor
  · intro settles
    cases last : lastOnOffWrite x trace with
    | none => simp [Settle.settling, lastCommand_onOffHistory, last] at settles
    | some write =>
      obtain ⟨written, on⟩ := write
      obtain ⟨step, member, success⟩ :=
        List.mem_filterMap.mp (List.mem_of_getLast? last)
      refine ⟨step, member, written, on, success, ?_, ?_⟩
      · simp only [Settle.settling, lastCommand_onOffHistory, last] at settles
        split at settles
        · exact Int.sub_right_le_of_le_add ‹_›
        · cases settles
      · rw [← successfulOnOffWrite_time success]
        exact past step member
  · rintro ⟨step, member, written, on, success, recent, -⟩
    have inWrites : (written, on) ∈ trace.filterMap (successfulOnOffWrite x) :=
      List.mem_filterMap.mpr ⟨step, member, success⟩
    cases last : lastOnOffWrite x trace with
    | none =>
      rw [List.getLast?_eq_none_iff.mp last] at inWrites
      cases inWrites
    | some write =>
      have latest : written ≤ write.1 := @le_getLast?_of_pairwise _ Prod.fst _ writesOrdered _ last
        _ inWrites
      rw [settling_eq_some ((lastCommand_onOffHistory x trace).trans last)
        (le_trans recent latest)]
      rfl

/-- The level write of `level` at `time` takes effect: the light shows it, its window starts, and
one command for the light's UDN is dispatched, with a percent the WeMo stays on with. -/
def TakesEffect (x : PublishedLight) (time : TimePoint) (level : UInt8)
    (result : Bridge D × Reply) : Prop :=
  result.1.levelOf x = some level ∧
    ((result.1.lightAt x.device).map fun light =>
      (light.entry.commandedLevel, light.entry.commandedLevelUntil)) =
        some ((level.toNat : Int), time + kCommandSettleWindow) ∧
    ∃ percent, 1 ≤ percent ∧ percent ≤ 100 ∧
      result.2.dispatched = [.setLevelPercent x.udn percent]

/-- The reachability of a published light. -/
def Bridge.isReachableOf (bridge : Bridge D) (x : PublishedLight) : Option Bool :=
  (bridge.lightAt x.device).map (·.object.isReachable)

/-- A level write to a reachable dimmer is a level write of its light. -/
theorem Bridge.Published.step_levelWrite {bridge : Bridge D} (published : bridge.Published)
    {x : PublishedLight} (ofX : bridge.Publishes x) (dimmable : x.isDimmable = true)
    {light : Light D} (found : bridge.lightAt x.device = some light)
    (reachable : light.object.isReachable = true) (time : TimePoint) (buffer : Buffer) :
    ∃ dimmer, light.object.dimmer = some dimmer ∧ light.entry.udn = x.udn ∧
      bridge.step (time, .write x.endpoint (.levelControl .currentLevel) buffer) =
        (bridge.putLight x.device (light.writeLevel time dimmer .currentLevel buffer).1,
          (light.writeLevel time dimmer .currentLevel buffer).2) := by
  have backs := ofX.backs found
  obtain ⟨dimmer, isDimmer⟩ : ∃ dimmer, light.object.dimmer = some dimmer :=
    Option.isSome_iff_exists.mp (backs.dimmer.trans dimmable)
  refine ⟨dimmer, isDimmer, backs.udn, ?_⟩
  have aimed : bridge.target (.write x.endpoint (.levelControl .currentLevel) buffer) =
      some x.device := by
    rw [Bridge.target, published.dynamicIndex?_eq ofX, Option.bind_some, ofX.slot]
  have declared : light.declares .levelControl = true := by
    rw [Light.declares, backs.isDimmable, dimmable]
    rfl
  rw [published.step_target ofX aimed found backs]
  simp only [Light.step, AttributePath.cluster, declared, if_pos, Light.write, reachable, isDimmer]

/-- **The exact gate of level writes.** After any run of a started bridge, a CurrentLevel write to a
reachable dimmer answers Success. It takes effect exactly when its level is at least 2 and the light
was not switched in the 2000 ms before it. When it takes no effect nothing is dispatched, and every
later run answers as if the write had never been made. -/
theorem level_write_gate {bridge : Bridge D} (started : bridge.Started)
    (distinct : bridge.DistinctWemoIds) {x : PublishedLight} (ofX : bridge.Publishes x)
    (dimmable : x.isDimmable = true) {start : TimePoint} {inputs : List (TimePoint × Input)}
    (ordered : Machine.Ordered start inputs) {time : TimePoint}
    (later : Machine.endTime start inputs ≤ time) (buffer : Buffer)
    (reachable : ((bridgeMachine D).run bridge inputs).isReachableOf x = some true) :
    let trace := (bridgeMachine D).history bridge inputs
    let before := (bridgeMachine D).run bridge inputs
    let result := before.step (time, .write x.endpoint (.levelControl .currentLevel) buffer)
    result.2.status = .success ∧
    (TakesEffect x time (buffer 0) result ↔ 2 ≤ buffer 0 ∧ ¬ RecentlySwitched x time trace) ∧
    (¬ TakesEffect x time (buffer 0) result → result.2.dispatched = [] ∧
      ∀ rest, Machine.Ordered time rest →
        (bridgeMachine D).outputs result.1 rest = (bridgeMachine D).outputs before rest) := by
  intro trace before result
  obtain ⟨onOff, level, tracks⟩ := started.run_tracks distinct ofX ordered
  obtain ⟨light, found, sound, onOffTracks, -⟩ := tracks.light
  have isReachable : light.object.isReachable = true := by
    rw [Bridge.isReachableOf, found] at reachable
    exact Option.some.inj reachable
  have pending := (onOffTracks.mono later).inspect_pending
  have switched := @settling_isSome_iff x time trace
    ((bridgeMachine D).history_pairwise ordered bridge) fun step member =>
      le_trans ((bridgeMachine D).history_le_endTime ordered bridge member) later
  obtain ⟨dimmer, isDimmer, udn, resultEq⟩ := tracks.published.step_levelWrite tracks.publishes
    dimmable found isReachable time buffer
  have isClosed : (Settle.settling kCommandSettleWindow time (onOffHistory x trace)).isSome ∨
      buffer 0 ≤ 1 ↔ RecentlySwitched x time trace ∨ buffer 0 ≤ 1 := or_congr_left switched
  rw [Light.writeLevel_eq isReachable, pending] at resultEq
  have device := Bridge.lightAt_device found
  by_cases closed : RecentlySwitched x time trace ∨ buffer 0 ≤ 1
  · rw [if_pos (isClosed.mpr closed)] at resultEq
    have noEffect : ¬ TakesEffect x time (buffer 0) result := by
      rintro ⟨-, -, percent, -, -, sent⟩
      rw [show result = _ from resultEq] at sent
      cases sent
    refine ⟨by rw [show result = _ from resultEq], iff_of_false noEffect ?_, fun _ => ?_⟩
    · rintro ⟨above, notSwitched⟩
      rcases closed with recent | low
      · exact notSwitched recent
      · exact absurd (le_trans above low) (by decide)
    · rw [show result = _ from resultEq]
      exact ⟨rfl, fun rest orderedRest =>
        Bridge.outputs_cleared tracks.published tracks.publishes found orderedRest⟩
  · rw [if_neg (mt isClosed.mp closed)] at resultEq
    obtain ⟨notSwitched, above⟩ := not_or.mp closed
    have atLeast : 2 ≤ buffer 0 := by
      have above' := not_le.mp above
      rw [UInt8.lt_iff_toNat_lt, UInt8.toNat_one] at above'
      exact UInt8.le_iff_toNat_le.mpr above'
    obtain ⟨percentPos, percentLe⟩ := wemoPercentOf_mem atLeast
    have effect : TakesEffect x time (buffer 0) result := by
      rw [show result = _ from resultEq]
      refine ⟨?_, ?_, _, percentPos, percentLe, by rw [udn]⟩
      · rw [Bridge.levelOf, Bridge.lightAt_putLight_self found]
        · rfl
        · exact (light.entry.clearExpiredOnOff_device time).trans device
      · rw [Bridge.lightAt_putLight_self found]
        · rfl
        · exact (light.entry.clearExpiredOnOff_device time).trans device
    exact ⟨by rw [show result = _ from resultEq], iff_of_true effect ⟨atLeast, notSwitched⟩,
      fun noEffect => absurd effect noEffect⟩

/-- A level write of 200 to the dimmer of the sample home, one second after it was switched on, is
dropped unnoticed. -/
theorem level_write_gate_sample :
    (((bridgeMachine PlainDevice).run sampleHome
        [(0, .write 3 (.onOff .onOff) fun _ => 1)]).step
      (milliseconds 1000, .write 3 (.levelControl .currentLevel) fun _ => 200)).2.status =
        .success :=
  (level_write_gate sampleHome_started.1 sampleHome_started.2 sampleHome_publishes rfl
    (show Machine.Ordered 0 [((0 : TimePoint), Input.write 3 (.onOff .onOff) fun _ => 1)] from
      ⟨le_rfl, trivial⟩) (show (0 : Int) ≤ milliseconds 1000 by decide) (fun _ => 200)
    (by decide)).1

end WemoBridge
