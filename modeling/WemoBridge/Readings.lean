/-
**Discovery and events read the engine alike?**

An engine report reaches a light on two ways: `Discover` and the seed of `ApplicationInit`, which
clamp the level, or `OnWeStateEvent` and the event handler, which narrow it. For a report with a
level the two agree on the reachability and the on/off state; they agree on the CurrentLevel exactly
if the level is at most 100 or its narrowed value happens to be 254 (`event_reads_as_seed_iff`).
-/

import WemoBridge.LevelGate

namespace WemoBridge

open Library

variable {D : Type} [ChipSdk D]

/-- What a controller reads of a light: reachable, on/off and CurrentLevel. -/
def Bridge.readings (bridge : Bridge D) (x : PublishedLight) :
    Option Bool × Option Bool × Option UInt8 :=
  (bridge.isReachableOf x, bridge.onOffOf x, bridge.levelOf x)

/-- The state an engine report gives, listed or in an event. -/
def WeDeviceInfo.report (info : WeDeviceInfo) : WeState :=
  { isOnline := info.isOnline, state := info.state, level := info.level }

/-! ### The two conversions -/

/-- The clamped level of a listed device, seeded. -/
theorem toNat_seedLevel_of_listed {info : WeDeviceInfo} (nonneg : 0 ≤ info.level) :
    ((seedLevel (wemoDeviceOf info).levelPercent).toNat : Int) = min info.level 100 * 254 / 100 := by
  have clamped : (((wemoDeviceOf info).levelPercent).toNat : Int) = min info.level 100 := by
    rw [wemoDeviceOf, if_pos nonneg, UInt8.ofInt, UInt8.toNat_ofNat']
    omega
  have inByte : min info.level 100 * 254 / 100 < 2 ^ 8 := by omega
  rw [seedLevel, UInt8.toNat_ofNat', ← Int.emod_eq_of_lt (by omega) inByte, ← clamped]
  push_cast
  rfl

/-- **When the conversions agree.** -/
theorem matterLevelOf_eq_seedLevel_iff {info : WeDeviceInfo} (nonneg : 0 ≤ info.level) :
    matterLevelOf info.level = seedLevel (wemoDeviceOf info).levelPercent ↔
      info.level ≤ 100 ∨ info.level % 65536 * 254 / 100 % 256 = 254 := by
  rw [← UInt8.toNat_inj, ← Int.natCast_inj, toNat_matterLevelOf_eq,
    toNat_seedLevel_of_listed nonneg]
  by_cases fits : info.level ≤ 100
  · have small : info.level % 65536 = info.level := Int.emod_eq_of_lt nonneg (by omega)
    have inByte : info.level * 254 / 100 < 256 := by omega
    rw [small, min_eq_left fits, Int.emod_eq_of_lt (by omega) inByte]
    exact ⟨fun _ => Or.inl fits, fun _ => rfl⟩
  · rw [min_eq_right (not_le.mp fits).le]
    exact ⟨Or.inr, fun agree => agree.resolve_left fits⟩

/-! ### The two ways -/

/-- What an event leaves of a light without an open window. -/
theorem Bridge.Published.readings_event {bridge : Bridge D} (published : bridge.Published)
    {x : PublishedLight} (ofX : bridge.Publishes x) (dimmable : x.isDimmable = true)
    {now : TimePoint} {ctx : WemoEventContext} (online : ctx.isOnline = true)
    (nonneg : 0 ≤ ctx.level) (aimed : bridge.target (.event ctx) = some x.device)
    {light : Light D} (found : bridge.lightAt x.device = some light)
    (noOnOff : ¬ light.entry.onOffSettling now) (noLevel : ¬ light.entry.levelSettling now) :
    (bridge.step (now, .event ctx)).1.readings x =
      (some true, some (decide (ctx.state ≠ 0)), some (matterLevelOf ctx.level)) := by
  have backs := ofX.backs found
  have rightClass := backs.rightClass
  have after := (published.step_light now (.event ctx) ofX aimed found).1
  have level : (light.event now ctx).1.object.getLevel = some (matterLevelOf ctx.level) := by
    rw [light.event_getLevel now ctx rightClass]
    exact if_pos ⟨⟨online, backs.isDimmable.trans dimmable, nonneg⟩, fun both => noLevel both.1⟩
  unfold readings isReachableOf onOffOf levelOf
  rw [after]
  refine Prod.ext ?_ (Prod.ext ?_ level)
  · exact congrArg some ((light.event_isReachable now ctx rightClass).trans online)
  · exact congrArg some (light.event_isOn now ctx rightClass online noOnOff)

/-- What a start leaves of a listed dimmer. -/
theorem readings_seeded {heap : Allocator} {lastFixed : EndpointId}
    {refuses : Nat → EndpointId → Bool} {discovered : List WemoDevice} {bridge : Bridge D}
    (invalid : ∀ call, refuses call kInvalidEndpointId = true)
    (starts : applicationInit heap lastFixed refuses discovered = some bridge)
    {x : PublishedLight} (ofX : bridge.Publishes x) {info : WeDeviceInfo} (nonneg : 0 ≤ info.level)
    (listed : (accepted (lastFixed + 1) refuses 0 0 (sortDiscovered discovered))[x.index]? =
      some (wemoDeviceOf info)) :
    bridge.readings x = (some (decide (info.isOnline ≠ 0)), some (decide (info.state ≠ 0)),
      some (seedLevel (wemoDeviceOf info).levelPercent)) := by
  obtain ⟨dev, here, -, object, found, seeded⟩ := applicationInit_seeded invalid starts ofX
  obtain rfl : dev = wemoDeviceOf info := Option.some.inj (here.symm.trans listed)
  have dimmable : (wemoDeviceOf info).supportsLevel = true := by
    simp [wemoDeviceOf, nonneg]
  have isOn : decide ((wemoDeviceOf info).onoff ≠ 0) = decide (info.state ≠ 0) := by
    unfold wemoDeviceOf
    by_cases off : info.state = 0 <;> simp [off]
  unfold Bridge.readings Bridge.isReachableOf Bridge.onOffOf Bridge.levelOf
  rw [found]
  refine Prod.ext (congrArg some seeded.isReachable) (Prod.ext ?_ ?_)
  · exact congrArg some (seeded.isOn.trans isOn)
  · show object.getLevel = _
    rw [DeviceObject.getLevel, seeded.dimmer, if_pos dimmable]
    rfl

/-- **When an event reads like a start.** Take a start of the bridge that lists an online device with
a level, and a running bridge whose published dimmer gets an event with the same report while it has
no open window. The event leaves what the start shows exactly if the reported level is at most 100
or its narrowed conversion is 254. -/
theorem event_reads_as_seed_iff {bridge seeded : Bridge D} (started : bridge.Started)
    {x : PublishedLight} (ofX : bridge.Publishes x) (dimmable : x.isDimmable = true)
    (inputs : List (TimePoint × Input)) {now : TimePoint} {info : WeDeviceInfo}
    (aimed : bridge.target (.event (onWeStateEvent x.wemoId info.report)) = some x.device)
    (noWindow : ∀ light, ((bridgeMachine D).run bridge inputs).lightAt x.device = some light →
      ¬ light.entry.onOffSettling now ∧ ¬ light.entry.levelSettling now)
    (online : info.isOnline ≠ 0) (nonneg : 0 ≤ info.level)
    {adapter : Adapter} {weInit : Bool} {list : WeDeviceList} {heap : Allocator}
    {lastFixed : EndpointId} {refuses : Nat → EndpointId → Bool}
    (invalid : ∀ call, refuses call kInvalidEndpointId = true)
    (starts : applicationInit heap lastFixed refuses (adapter.discover weInit (some list)).2 =
      some seeded)
    {y : PublishedLight} (ofY : seeded.Publishes y)
    (listed : (accepted (lastFixed + 1) refuses 0 0
      (sortDiscovered (adapter.discover weInit (some list)).2))[y.index]? =
        some (wemoDeviceOf info)) :
    (((bridgeMachine D).run bridge inputs).step
        (now, .event (onWeStateEvent x.wemoId info.report))).1.readings x = seeded.readings y ↔
      info.level ≤ 100 ∨ info.level % 65536 * 254 / 100 % 256 = 254 := by
  obtain ⟨published, publishes, target⟩ := started.published.run inputs
  obtain ⟨light, found, -⟩ := ((publishes x).mpr ofX).light
  obtain ⟨noOnOff, noLevel⟩ := noWindow light found
  have isOnline : decide (info.isOnline ≠ 0) = true := decide_eq_true online
  rw [published.readings_event ((publishes x).mpr ofX) dimmable isOnline nonneg
    ((congrFun target _).trans aimed) found noOnOff noLevel,
    readings_seeded invalid starts ofY nonneg listed, isOnline,
    ← matterLevelOf_eq_seedLevel_iff nonneg]
  constructor
  · intro same
    exact Option.some.inj (Prod.ext_iff.mp (Prod.ext_iff.mp same).2).2
  · intro same
    rw [← same]
    rfl

/-! ### A report to the dimmer of the sample home -/

/-- The dimmer of the sample home, as the engine lists it with a level. -/
def sampleInfo (level : Int) : WeDeviceInfo :=
  { wemoId := 7, udn := literal "uuid:Dimmer", friendlyName := literal "Kitchen"
    deviceType := kTypeDimmer, isOnline := 1, state := 1, level := level }

/-- The devices discovered when the engine lists the dimmer alone. -/
def sampleListed (level : Int) : List WemoDevice :=
  (Adapter.fresh.discover true (some { count := 1, items := [sampleInfo level] })).2

/-- A start that lists the dimmer alone. -/
def sampleSeeded (level : Int) : Bridge PlainDevice :=
  (applicationInit nextAddress 2 refusesInvalid (sampleListed level)).getD freshProcess

theorem sampleSeeded_starts (level : Int) :
    applicationInit nextAddress 2 refusesInvalid (sampleListed level) =
      some (sampleSeeded level) :=
  applicationInit_refusesInvalid nextAddress 2 (sampleListed level)

/-- No window is open in the sample home. -/
theorem sampleHome_noWindow : ∀ light, sampleHome.lightAt sampleDimmer.device = some light →
    ¬ light.entry.onOffSettling 0 ∧ ¬ light.entry.levelSettling 0 := by
  intro light found
  obtain rfl := Option.some.inj found
  exact ⟨by decide, by decide⟩

/-- A report of 60 % reads alike. -/
theorem event_reads_as_seed_iff_sample :
    (sampleHome.step (0, .event (onWeStateEvent 7 (sampleInfo 60).report))).1.readings
      sampleDimmer = (sampleSeeded 60).readings sampleDimmer := by
  have ofY : (sampleSeeded 60).Publishes sampleDimmer :=
    { index_lt := by decide
      slot := by decide
      registered := by decide
      udn := by decide
      light := ⟨_, rfl, by decide, by decide, by decide, by decide, by decide⟩ }
  exact (event_reads_as_seed_iff sampleHome_started.1 sampleHome_publishes rfl []
    (by decide) sampleHome_noWindow (by decide) (by decide) (fun _ => rfl)
    (sampleSeeded_starts 60) ofY (by decide)).mpr (Or.inl (by decide))

/-- **A report of 101 % reads as dark in an event and as full brightness at a start.** -/
theorem event_level_narrowed :
    sampleHome.Publishes sampleDimmer ∧
      (∀ light, sampleHome.lightAt sampleDimmer.device = some light →
        ¬ light.entry.onOffSettling 0 ∧ ¬ light.entry.levelSettling 0) ∧
      (sampleHome.step (0, .event (onWeStateEvent 7 (sampleInfo 101).report))).1.readings
        sampleDimmer = (some true, some true, some 0) ∧
      applicationInit nextAddress 2 refusesInvalid (sampleListed 101) = some (sampleSeeded 101) ∧
      (accepted 3 refusesInvalid 0 0 (sortDiscovered (sampleListed 101)))[sampleDimmer.index]? =
        some (wemoDeviceOf (sampleInfo 101)) ∧
      (sampleSeeded 101).readings sampleDimmer = (some true, some true, some 254) :=
  ⟨sampleHome_publishes, sampleHome_noWindow, by decide, sampleSeeded_starts 101, by decide,
    by decide⟩

end WemoBridge
