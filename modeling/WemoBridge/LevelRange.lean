/-
**CurrentLevel and the advertised range.**

The LevelControl read handler reports a MinLevel of 1 and a MaxLevel of 254. Three paths set the
CurrentLevel: the seed of `ApplicationInit`, a level write and an event. Only the write is gated;
the seed is 0 for a dimmer listed without a level or with level 0, and an event narrows any level
into a byte. `current_level_in_range_iff`: along a run the CurrentLevel of every dimmer stays in the
advertised range exactly if every published dimmer was listed with a level of at least 1 and no
event meets a dimmer without an open window with a level whose conversion is 0 or 255.
-/

import WemoBridge.Drift
import WemoBridge.Readings

namespace WemoBridge

open Library
open Library.Settle (Entry Register)

variable {D : Type} [ChipSdk D]

/-! ### The range -/

/-- The CurrentLevel the read handler answers is between the MinLevel and the MaxLevel it
answers. -/
def Bridge.InAdvertisedRange (bridge : Bridge D) (x : PublishedLight) : Prop :=
  ∀ now, ∃ level minLevel maxLevel, readLevel x now bridge = some level ∧
    (bridge.step (now, .read x.endpoint (.levelControl .minLevel) 1)).2.value =
      some (.uint8 minLevel) ∧
    (bridge.step (now, .read x.endpoint (.levelControl .maxLevel) 1)).2.value =
      some (.uint8 maxLevel) ∧
    minLevel ≤ level ∧ level ≤ maxLevel

/-- Every published dimmer shows a level of the advertised range. -/
def Bridge.LevelsInRange (bridge : Bridge D) : Prop :=
  ∀ x, bridge.Publishes x → x.isDimmable = true → bridge.InAdvertisedRange x

/-- The levels a controller may write. -/
def Input.LevelWriteInRange : Input → Prop
  | .write _ (.levelControl .currentLevel) buffer => 1 ≤ buffer 0 ∧ buffer 0 ≤ 254
  | _ => True

/-- A level that converts into the advertised range. -/
def LevelFits (level : Int) : Prop :=
  1 ≤ level % 65536 * 254 / 100 % 256 ∧ level % 65536 * 254 / 100 % 256 ≤ 254

omit [ChipSdk D] in
/-- An online event with a level fits, unless the light is no dimmer or its window is open. -/
def Light.EventFits (light : Light D) (now : TimePoint) : Input → Prop
  | .event ctx => ctx.isOnline = true → light.entry.isDimmable = true → 0 ≤ ctx.level →
      ¬ light.entry.levelSettling now → LevelFits ctx.level
  | _ => True

/-- The event of a step fits the light it is for. -/
def Bridge.EventFits (bridge : Bridge D) (step : TimePoint × Input) : Prop :=
  ∀ x light, bridge.Publishes x → bridge.target step.2 = some x.device →
    bridge.lightAt x.device = some light → light.EventFits step.1 step.2

/-- The advertised range, as the handler's answers have it. -/
def InRange (level : UInt8) : Prop := 1 ≤ level ∧ level ≤ 254

theorem inRange_iff (level : UInt8) : InRange level ↔ 1 ≤ level.toNat ∧ level.toNat ≤ 254 := by
  rw [InRange, UInt8.le_iff_toNat_le, UInt8.le_iff_toNat_le]
  rfl

theorem inRange_matterLevelOf (level : Int) : InRange (matterLevelOf level) ↔ LevelFits level := by
  have same := toNat_matterLevelOf_eq level
  rw [inRange_iff, LevelFits]
  omega

/-- The seed of a listed device is in range exactly if its level is at least 1. -/
theorem inRange_seedLevel (info : WeDeviceInfo) :
    InRange (seedLevel (wemoDeviceOf info).levelPercent) ↔ 1 ≤ info.level := by
  rw [inRange_iff]
  by_cases listed : 0 ≤ info.level
  · have same := toNat_seedLevel_of_listed listed
    omega
  · have unknown : (wemoDeviceOf info).levelPercent = 0 := if_neg listed
    have dark : (seedLevel 0).toNat = 0 := rfl
    rw [unknown, dark]
    omega

theorem Bridge.Published.inAdvertisedRange_iff {bridge : Bridge D} (published : bridge.Published)
    {x : PublishedLight} (ofX : bridge.Publishes x) (dimmable : x.isDimmable = true) {light : Light D}
    (found : bridge.lightAt x.device = some light) :
    bridge.InAdvertisedRange x ↔ InRange light.level.value := by
  obtain ⟨same, dimmer, foundSame, isDimmer, answer⟩ := published.step_levelRead ofX dimmable
  obtain rfl : same = light := Option.some.inj (foundSame.symm.trans found)
  have shows : bridge.levelOf x = some same.level.value := by
    rw [levelOf, found]
    simp [Light.level, levelRegister, DeviceObject.getLevel, isDimmer]
  simp [InAdvertisedRange, published.readLevel_eq ofX dimmable, shows, answer,
    handleReadLevelControlAttribute, InRange]

/-! ### One step of a light -/

section Light

variable {light : Light D} (now : TimePoint)

/-- A pending level command is in range. -/
def Light.PendingInRange (light : Light D) : Prop :=
  ∀ commanded, light.level.pending = some commanded → InRange commanded

omit [ChipSdk D] in
/-- An inspected level has a pending command exactly while its window is open. -/
theorem Light.inspect_pending_eq_none (light : Light D) :
    (light.level.inspect now).pending = none ↔ ¬ light.entry.levelSettling now := by
  unfold Light.level
  rw [← levelRegister_clearExpired]
  rcases light.entry.clearExpiredLevel_cases now with ⟨live, same⟩ | ⟨closed, clear⟩
  · simp [same, levelRegister, live, live.1]
  · simp [levelRegister, clear, closed]

/-- **What a step does to the range.** Writes of the range and reads keep a level in range, an event
keeps it exactly if it fits; a pending command stays in range. -/
theorem Light.step_inRange (sound : light.Sound) (pending : light.PendingInRange)
    (inRange : InRange light.level.value) {input : Input} (allowed : input.LevelWriteInRange) :
    (light.step now input).1.PendingInRange ∧
      (InRange (light.step now input).1.level.value ↔ light.EventFits now input) := by
  have commandGood : ∀ value, levelEntry light.entry.isDimmable input
      (light.step now input).2 = some (.command value) → InRange value := by
    intro value command
    unfold levelEntry at command
    split at command
    · split at command
      · cases command
        exact allowed
      · cases command
    · split at command <;> cases command
    · cases command
  obtain ⟨pendingAfter, valueAfter⟩ :=
    (light.step_follows now sound input).2.good_iff pending inRange commandGood
  refine ⟨pendingAfter, valueAfter.trans ?_⟩
  rw [light.inspect_pending_eq_none]
  cases input with
  | event ctx =>
    rw [levelEntry, Light.EventFits]
    constructor
    · intro reported online dimmable nonneg closed
      rw [if_pos ⟨online, dimmable, nonneg⟩] at reported
      exact (inRange_matterLevelOf _).mp (reported _ rfl closed)
    · intro fits value report closed
      split at report
      · rename_i taken
        cases report
        exact (inRange_matterLevelOf _).mpr (fits taken.1 taken.2.1 taken.2.2 closed)
      · cases report
  | read _ _ _ => exact ⟨fun _ => trivial, fun _ _ report => (by cases report)⟩
  | write _ path buffer =>
    refine ⟨fun _ => trivial, fun _ value report => ?_⟩
    unfold levelEntry at report
    split at report
    · split at report <;> cases report
    · rename_i isEvent
      cases isEvent
    · cases report

end Light

/-! ### A run -/

/-- Every published dimmer is sound, with its pending level command in range. -/
structure Bridge.LevelsSound (bridge : Bridge D) : Prop where
  published : bridge.Published
  dimmers : ∀ x light, bridge.Publishes x → x.isDimmable = true →
    bridge.lightAt x.device = some light → light.Sound ∧ light.PendingInRange

section Run

variable {bridge : Bridge D} {x : PublishedLight} {light : Light D}

theorem Bridge.LevelsSound.inRange (sound : bridge.LevelsSound) (inRange : bridge.LevelsInRange)
    (ofX : bridge.Publishes x) (dimmable : x.isDimmable = true)
    (found : bridge.lightAt x.device = some light) : InRange light.level.value :=
  (sound.published.inAdvertisedRange_iff ofX dimmable found).mp (inRange x ofX dimmable)

/-- **One dimmer in one step.** -/
theorem Bridge.LevelsSound.step_dimmer (sound : bridge.LevelsSound)
    (inRange : bridge.LevelsInRange) (now : TimePoint) {input : Input}
    (allowed : input.LevelWriteInRange) (ofX : bridge.Publishes x) (dimmable : x.isDimmable = true)
    (found : bridge.lightAt x.device = some light) :
    ∃ after, (bridge.step (now, input)).1.lightAt x.device = some after ∧ after.Sound ∧
      after.PendingInRange ∧
      (InRange after.level.value ↔
        (bridge.target input = some x.device → light.EventFits now input)) := by
  obtain ⟨lightSound, pending⟩ := sound.dimmers x light ofX dimmable found
  have before := sound.inRange inRange ofX dimmable found
  by_cases aimed : bridge.target input = some x.device
  · obtain ⟨pendingAfter, valueAfter⟩ := light.step_inRange now lightSound pending before allowed
    refine ⟨_, (sound.published.step_light now input ofX aimed found).1,
      lightSound.step now input, pendingAfter, valueAfter.trans ?_⟩
    exact ⟨fun fits _ => fits, fun fits => fits aimed⟩
  · refine ⟨light, (sound.published.lightAt_step_elsewhere now input aimed).trans found,
      lightSound, pending, ?_⟩
    exact ⟨fun _ at_ => absurd at_ aimed, fun _ => before⟩

/-- **One step.** An allowed step keeps the levels in range exactly if its event fits. -/
theorem Bridge.LevelsSound.step (sound : bridge.LevelsSound) (inRange : bridge.LevelsInRange)
    {step : TimePoint × Input} (allowed : step.2.LevelWriteInRange) :
    (bridge.step step).1.LevelsSound ∧
      ((bridge.step step).1.LevelsInRange ↔ bridge.EventFits step) := by
  obtain ⟨now, input⟩ := step
  have publishes := sound.published.step_publishes_iff now input
  have publishedAfter := sound.published.step now input
  refine ⟨⟨publishedAfter, fun x after ofXAfter dimmable foundAfter => ?_⟩, ?_, ?_⟩
  · have ofX := (publishes x).mp ofXAfter
    obtain ⟨light, found, -⟩ := ofX.light
    obtain ⟨same, foundSame, soundAfter, pendingAfter, -⟩ :=
      sound.step_dimmer inRange now allowed ofX dimmable found
    obtain rfl : same = after := Option.some.inj (foundSame.symm.trans foundAfter)
    exact ⟨soundAfter, pendingAfter⟩
  · intro inRangeAfter x light ofX aimed found
    cases dimmable : x.isDimmable with
    | true =>
      obtain ⟨after, foundAfter, -, -, exact⟩ :=
        sound.step_dimmer inRange now allowed ofX dimmable found
      have ofXAfter := (publishes x).mpr ofX
      refine exact.mp ((publishedAfter.inAdvertisedRange_iff ofXAfter dimmable foundAfter).mp ?_)
        aimed
      exact inRangeAfter x ofXAfter dimmable
    | false =>
      -- an event for a light without a level
      cases input with
      | event ctx =>
        intro _ isDimmable
        rw [(ofX.backs found).isDimmable, dimmable] at isDimmable
        cases isDimmable
      | write _ _ _ => trivial
      | read _ _ _ => trivial
  · intro fits x ofXAfter dimmable
    have ofX := (publishes x).mp ofXAfter
    obtain ⟨light, found, -⟩ := ofX.light
    obtain ⟨after, foundAfter, -, -, exact⟩ :=
      sound.step_dimmer inRange now allowed ofX dimmable found
    refine (publishedAfter.inAdvertisedRange_iff ofXAfter dimmable foundAfter).mpr (exact.mpr ?_)
    exact fun aimed => fits x light ofX aimed found

end Run

/-! ### From a start -/

section Start

variable {heap : Allocator} {lastFixed : EndpointId} {refuses : Nat → EndpointId → Bool}
  {adapter : Adapter} {weInit : Bool} {weListDevices : Option WeDeviceList} {start : Bridge D}

/-- A started bridge has no pending level command. -/
theorem Bridge.Started.levelsSound (started : start.Started) : start.LevelsSound := by
  refine ⟨started.published, fun x light ofX _ found => ?_⟩
  obtain ⟨noOnOff, noLevel⟩ := started.idle light.entry
    (List.mem_of_find?_eq_some (Bridge.lightAt_eq_some.mp found).1)
  refine ⟨⟨Or.inl noOnOff, (ofX.backs found).rightClass⟩, fun commanded held => ?_⟩
  have idle : light.level.pending = none := by simp [Light.level, levelRegister, noLevel]
  rw [idle] at held
  cases held

/-- The published dimmers were listed with a level of at least 1. -/
def SeedsFit (lastFixed : EndpointId) (refuses : Nat → EndpointId → Bool)
    (weListDevices : Option WeDeviceList) (discovered : List WemoDevice) : Prop :=
  ∀ list ∈ weListDevices, ∀ info ∈ list.listed,
    wemoDeviceOf info ∈ accepted (lastFixed + 1) refuses 0 0 (sortDiscovered discovered) →
      (wemoDeviceOf info).supportsLevel = true → 1 ≤ info.level

/-- **A start is in range exactly if its seeds fit.** -/
theorem levelsInRange_start_iff (invalid : ∀ call, refuses call kInvalidEndpointId = true)
    (starts : applicationInit heap lastFixed refuses (adapter.discover weInit weListDevices).2 =
      some start) :
    start.LevelsInRange ↔
      SeedsFit lastFixed refuses weListDevices (adapter.discover weInit weListDevices).2 := by
  have started := (applicationInit_started invalid starts).1
  have seeds : ∀ x, start.Publishes x → x.isDimmable = true → ∀ dev,
      (accepted (lastFixed + 1) refuses 0 0
        (sortDiscovered (adapter.discover weInit weListDevices).2))[x.index]? = some dev →
      (start.InAdvertisedRange x ↔ InRange (seedLevel dev.levelPercent)) := by
    intro x ofX dimmable dev here
    obtain ⟨same, hereSame, shape, object, found, seeded⟩ :=
      applicationInit_seeded invalid starts ofX
    obtain rfl : same = dev := Option.some.inj (hereSame.symm.trans here)
    have supportsLevel : same.supportsLevel = true :=
      (congrArg PublishedLight.isDimmable shape).symm.trans dimmable
    rw [started.published.inAdvertisedRange_iff ofX dimmable found]
    simp [Light.level, levelRegister, DeviceObject.getLevel, seeded.dimmer, supportsLevel]
  constructor
  · intro inRange list listEq info listed publishedInfo supportsLevel
    obtain ⟨i, here⟩ := List.mem_iff_getElem?.mp publishedInfo
    obtain ⟨device, ofX⟩ := applicationInit_publishes invalid starts here
    have seed := (seeds _ ofX supportsLevel _ here).mp (inRange _ ofX supportsLevel)
    exact (inRange_seedLevel info).mp seed
  · intro fits x ofX dimmable
    obtain ⟨dev, here, shape, -⟩ := applicationInit_seeded invalid starts ofX
    have publishedDev := List.mem_of_getElem? here
    obtain ⟨list, listEq, discovered⟩ :=
      Adapter.discover_of_mem (mem_discovered_of_accepted publishedDev)
    have member := mem_discovered_of_accepted publishedDev
    rw [discovered] at member
    obtain ⟨info, listed, rfl⟩ := List.mem_map.mp member
    have supportsLevel : (wemoDeviceOf info).supportsLevel = true :=
      (congrArg PublishedLight.isDimmable shape).symm.trans dimmable
    refine (seeds x ofX dimmable _ here).mpr ((inRange_seedLevel info).mpr ?_)
    exact fits list listEq info listed publishedDev supportsLevel

/-- **When CurrentLevel stays in the advertised range.** Along every run of writes of the range,
reads and events from a start, every published dimmer shows a level between the MinLevel and the
MaxLevel the read handler answers exactly if it was listed with a level of at least 1 and every
event that meets a dimmer without an open window has a level that fits. -/
theorem current_level_in_range_iff (invalid : ∀ call, refuses call kInvalidEndpointId = true)
    (starts : applicationInit heap lastFixed refuses (adapter.discover weInit weListDevices).2 =
      some start) {inputs : List (TimePoint × Input)}
    (allowed : ∀ step ∈ inputs, step.2.LevelWriteInRange) :
    (bridgeMachine D).Throughout Bridge.LevelsInRange start inputs ↔
      SeedsFit lastFixed refuses weListDevices (adapter.discover weInit weListDevices).2 ∧
        (bridgeMachine D).Along Bridge.EventFits start inputs := by
  rw [← levelsInRange_start_iff invalid starts]
  exact @Machine.throughout_iff_along _ _ _ (bridgeMachine D) Bridge.LevelsSound
    Bridge.LevelsInRange (fun step => step.2.LevelWriteInRange) Bridge.EventFits
    (fun _ _ sound inRange fits => sound.step inRange fits) inputs start allowed
    (applicationInit_started invalid starts).1.levelsSound

end Start

/-- A dimmer listed at 60 %, written to full brightness and reported at 100 %. -/
theorem current_level_in_range_iff_sample :
    (bridgeMachine PlainDevice).Throughout Bridge.LevelsInRange (sampleSeeded 60)
      [(0, .write 3 (.levelControl .currentLevel) fun _ => 254),
        (milliseconds 5000,
          .event { wemoId := 7, isOnline := true, state := 1, level := 100 })] := by
  refine (current_level_in_range_iff (fun _ => rfl) (sampleSeeded_starts 60) ?_).mpr ⟨?_, ?_⟩
  · intro step member
    fin_cases member
    · exact ⟨by decide, by decide⟩
    · trivial
  · intro list listEq info listed _ _
    obtain rfl := Option.some.inj listEq
    obtain rfl := List.mem_singleton.mp listed
    decide
  · exact ⟨fun _ _ _ _ _ => trivial, fun _ _ _ _ _ _ _ _ _ => ⟨by decide, by decide⟩, trivial⟩

/-- **CurrentLevel 0**: read from a dimmer listed without a level, and from one whose event reports
level 0 or level 101. -/
theorem current_level_below_minLevel :
    readLevel sampleDimmer 0 (sampleSeeded (-1)) = some 0 ∧
      ((sampleSeeded (-1)).step (0, .read 3 (.levelControl .minLevel) 1)).2.value =
        some (.uint8 1) ∧
      (∀ level ∈ [(0 : Int), 101], readLevel sampleDimmer 0 ((sampleSeeded 60).step
        (0, .event { wemoId := 7, isOnline := true, state := 1, level := level })).1 = some 0) ∧
      ¬ (sampleSeeded (-1)).LevelsInRange := by
  have listed : (sampleSeeded (-1)).Publishes sampleDimmer :=
    { index_lt := by decide
      slot := by decide
      registered := by decide
      udn := by decide
      light := ⟨_, rfl, by decide, by decide, by decide, by decide, by decide⟩ }
  refine ⟨by decide, by decide, by decide, fun inRange => ?_⟩
  obtain ⟨level, minLevel, maxLevel, reads, least, -, above, -⟩ :=
    inRange sampleDimmer listed rfl 0
  have dark : readLevel sampleDimmer 0 (sampleSeeded (-1)) = some 0 := by decide
  obtain rfl : 0 = level := Option.some.inj (dark.symm.trans reads)
  obtain rfl : 1 = minLevel := by
    have answered : ((sampleSeeded (-1)).step (0, .read 3 (.levelControl .minLevel) 1)).2.value =
        some (.uint8 1) := by decide
    simpa using answered.symm.trans least
  exact absurd above (by decide)

end WemoBridge
