/-
**One published light on its own.**

A `Light` is the entry of a published light with its device object. `Light.step` is what a step of
the bridge does to the one light it is addressed to, without any table: a step of the bridge is a
step of a `Light`, put back (`handleWriteOnOffAttribute_eq` and its siblings). `Light.step_static`:
no step changes what identifies the light.
-/

import WemoBridge.Bridge

namespace WemoBridge

open Library

variable {D : Type}

/-- The entry of a published light and its device object. -/
structure Light (D : Type) where
  entry : BridgedWemoLight
  object : DeviceObject D

/-- The endpoint type `ApplicationInit` registers a light with. -/
def endpointTypeOf (isDimmable : Bool) : EndpointType :=
  if isDimmable then .bridgedDimmableLightEndpoint else .bridgedLightEndpoint

/-- The level of an event after both narrowing casts. -/
theorem toNat_matterLevelOf_eq (level : Int) :
    ((matterLevelOf level).toNat : Int) = level % 65536 * 254 / 100 % 256 := by
  have narrowed : ((UInt16.ofInt level).toNat : Int) = level % 65536 := by
    rw [UInt16.ofInt, UInt16.toNat_ofNat']
    omega
  rw [matterLevelOf, UInt8.toNat_ofNat', ← narrowed]
  push_cast
  rfl

namespace BridgedWemoLight

variable (now : TimePoint) (entry : BridgedWemoLight)

@[simp] theorem clearExpiredOnOff_wemoId :
    (entry.clearExpiredOnOff now).wemoId = entry.wemoId := by
  unfold clearExpiredOnOff
  split <;> rfl

@[simp] theorem clearExpiredOnOff_udn : (entry.clearExpiredOnOff now).udn = entry.udn := by
  unfold clearExpiredOnOff
  split <;> rfl

@[simp] theorem clearExpiredOnOff_isDimmable :
    (entry.clearExpiredOnOff now).isDimmable = entry.isDimmable := by
  unfold clearExpiredOnOff
  split <;> rfl

@[simp] theorem clearExpiredOnOff_device :
    (entry.clearExpiredOnOff now).device = entry.device := by
  unfold clearExpiredOnOff
  split <;> rfl

@[simp] theorem clearExpiredLevel_wemoId :
    (entry.clearExpiredLevel now).wemoId = entry.wemoId := by
  unfold clearExpiredLevel
  split <;> rfl

@[simp] theorem clearExpiredLevel_udn : (entry.clearExpiredLevel now).udn = entry.udn := by
  unfold clearExpiredLevel
  split <;> rfl

@[simp] theorem clearExpiredLevel_isDimmable :
    (entry.clearExpiredLevel now).isDimmable = entry.isDimmable := by
  unfold clearExpiredLevel
  split <;> rfl

@[simp] theorem clearExpiredLevel_device :
    (entry.clearExpiredLevel now).device = entry.device := by
  unfold clearExpiredLevel
  split <;> rfl

/-- The settle window of an OnOff write is open. -/
def onOffSettling : Prop := 0 ≤ entry.commandedOnOff ∧ now ≤ entry.commandedOnOffUntil

/-- The settle window of a level write is open. -/
def levelSettling : Prop := 0 ≤ entry.commandedLevel ∧ now ≤ entry.commandedLevelUntil

instance : Decidable (entry.onOffSettling now) := inferInstanceAs (Decidable (_ ∧ _))

instance : Decidable (entry.levelSettling now) := inferInstanceAs (Decidable (_ ∧ _))

/-- After the look at the clock a marker is set exactly while its window is open. -/
theorem clearExpiredOnOff_cases :
    entry.onOffSettling now ∧ entry.clearExpiredOnOff now = entry ∨
      ¬ entry.onOffSettling now ∧ (entry.clearExpiredOnOff now).commandedOnOff < 0 := by
  unfold onOffSettling clearExpiredOnOff
  by_cases marked : 0 ≤ entry.commandedOnOff
  · by_cases expired : now > entry.commandedOnOffUntil
    · exact Or.inr ⟨fun live => absurd live.2 (Int.not_le.mpr expired),
        by rw [if_pos ⟨marked, expired⟩]; exact Int.negSucc_lt_zero 0⟩
    · exact Or.inl ⟨⟨marked, Int.not_lt.mp expired⟩, if_neg fun both => expired both.2⟩
  · refine Or.inr ⟨fun live => marked live.1, ?_⟩
    rw [if_neg fun both => marked both.1]
    exact Int.not_le.mp marked

theorem clearExpiredLevel_cases :
    entry.levelSettling now ∧ entry.clearExpiredLevel now = entry ∨
      ¬ entry.levelSettling now ∧ (entry.clearExpiredLevel now).commandedLevel < 0 := by
  unfold levelSettling clearExpiredLevel
  by_cases marked : 0 ≤ entry.commandedLevel
  · by_cases expired : now > entry.commandedLevelUntil
    · exact Or.inr ⟨fun live => absurd live.2 (Int.not_le.mpr expired),
        by rw [if_pos ⟨marked, expired⟩]; exact Int.negSucc_lt_zero 0⟩
    · exact Or.inl ⟨⟨marked, Int.not_lt.mp expired⟩, if_neg fun both => expired both.2⟩
  · refine Or.inr ⟨fun live => marked live.1, ?_⟩
    rw [if_neg fun both => marked both.1]
    exact Int.not_le.mp marked

@[simp] theorem clearExpiredOnOff_commandedLevel :
    (entry.clearExpiredOnOff now).commandedLevel = entry.commandedLevel := by
  unfold clearExpiredOnOff
  split <;> rfl

@[simp] theorem clearExpiredOnOff_commandedLevelUntil :
    (entry.clearExpiredOnOff now).commandedLevelUntil = entry.commandedLevelUntil := by
  unfold clearExpiredOnOff
  split <;> rfl

end BridgedWemoLight

namespace Light

section Steps

variable [ChipSdk D] (now : TimePoint) (light : Light D)

def writeOnOff (attributeId : OnOffAttribute) (buffer : Buffer) : Light D × Reply :=
  if attributeId = .onOff ∧ light.object.isReachable = true then
    let targetOn := decide (buffer 0 ≠ 0)
    let updated := light.object.setOnOff targetOn
    ({ entry :=
        { light.entry with
          commandedOnOff := if targetOn then 1 else 0
          commandedOnOffUntil := now + kCommandSettleWindow }
       object := updated.1 },
      { status := .success
        dispatched := [.setOnOff light.entry.udn targetOn]
        reported := updated.2 })
  else (light, { status := .failure })

def writeLevel (dimmer : Dimmer) (attributeId : LevelControlAttribute) (buffer : Buffer) :
    Light D × Reply :=
  if attributeId = .currentLevel ∧ light.object.isReachable = true then
    let matterLevel := buffer 0
    let light := { light with entry := light.entry.clearExpiredOnOff now }
    if light.entry.commandedOnOff ≥ 0 ∧ now ≤ light.entry.commandedOnOffUntil then
      (light, { status := .success })
    else if light.entry.commandedOnOff < 0 ∧ matterLevel ≤ 1 then (light, { status := .success })
    else
      let updated := light.object.setLevel dimmer matterLevel
      ({ entry :=
          { light.entry with
            commandedLevel := matterLevel.toNat
            commandedLevelUntil := now + kCommandSettleWindow }
         object := updated.1 },
        { status := .success
          dispatched := [.setLevelPercent light.entry.udn (wemoPercentOf matterLevel)]
          reported := updated.2 })
  else (light, { status := .failure })

def writeBridgedDeviceBasic (attributeId : BridgedDeviceBasicAttribute) (buffer : Buffer) :
    Light D × Reply :=
  if attributeId ≠ .nodeLabel then (light, { status := .unsupportedWrite })
  else
    let nameSpan := ChipSdk.fromZclString D buffer
    if nameSpan.length > kNodeLabelSize then (light, { status := .constraintError })
    else
      let updated := light.object.setName (cStr nameSpan)
      ({ light with object := updated.1 },
        { status := .success
          reported := updated.2 ++ handleDeviceStatusChanged updated.1 (ChipSdk.kChangedName D) })

def write (path : AttributePath) (buffer : Buffer) : Light D × Reply :=
  if light.object.isReachable then
    match path with
    | .onOff attributeId => light.writeOnOff now attributeId buffer
    | .levelControl attributeId =>
        match light.object.dimmer with
        | none => (light, .undefinedBehaviour)
        | some dimmer => light.writeLevel now dimmer attributeId buffer
    | .bridgedDeviceBasicInformation attributeId =>
        light.writeBridgedDeviceBasic attributeId buffer
    | .temperatureMeasurement _ => (light, { status := .failure })
    | .other _ _ => (light, { status := .failure })
  else (light, { status := .failure })

def read (path : AttributePath) (maxReadLength : Nat) : Reply :=
  match path with
  | .bridgedDeviceBasicInformation attributeId =>
      handleReadBridgedDeviceBasicAttribute light.object attributeId maxReadLength
  | .onOff attributeId => handleReadOnOffAttribute light.object attributeId maxReadLength
  | .levelControl attributeId =>
      match light.object.dimmer with
      | none => .undefinedBehaviour
      | some dimmer => handleReadLevelControlAttribute dimmer attributeId maxReadLength
  | .temperatureMeasurement _ => .undefinedBehaviour
  | .other _ _ => { status := .failure }

def event (ctx : WemoEventContext) : Light D × Reply :=
  match handleEventOnLight now ctx light.entry light.object with
  | none => (light, .undefinedBehaviour)
  | some (entry, object, reported) => (⟨entry, object⟩, { status := .success, reported := reported })

omit [ChipSdk D] in
/-- The SDK knows the clusters of the endpoint type the light was registered with. -/
def declares (cluster : Cluster) : Bool :=
  cluster ∈ (endpointTypeOf light.entry.isDimmable).clusters

/-- **One step of a light**: what a bridge step addressed to it does. -/
def step : Input → Light D × Reply
  | .write _ path buffer =>
      if light.declares path.cluster then light.write now path buffer
      else (light, { status := .unsupported })
  | .read _ path maxReadLength =>
      (light, if light.declares path.cluster then light.read path maxReadLength
        else { status := .unsupported })
  | .event ctx => light.event now ctx

end Steps

end Light

/-! ### Getting and putting a light -/

namespace Bridge

/-- The light whose device object is at `dev`. -/
def lightAt (bridge : Bridge D) (dev : DevicePtr) : Option (Light D) :=
  (bridge.gBridgedWemoLights.find? (·.device = dev)).bind fun entry =>
    (bridge.objects dev).map fun object => { entry := entry, object := object }

/-- Replace the entry and the object of the light at `dev`. -/
def putLight (bridge : Bridge D) (dev : DevicePtr) (light : Light D) : Bridge D :=
  { bridge with
    gBridgedWemoLights :=
      modifyFirst (·.device = dev) (fun _ => light.entry) bridge.gBridgedWemoLights
    objects := Function.update bridge.objects dev (some light.object) }

variable {bridge : Bridge D} {dev : DevicePtr} {light : Light D}

theorem lightAt_eq_some :
    bridge.lightAt dev = some light ↔
      bridge.gBridgedWemoLights.find? (·.device = dev) = some light.entry ∧
        bridge.objects dev = some light.object := by
  unfold lightAt
  cases light with
  | mk entry object =>
    cases bridge.gBridgedWemoLights.find? (·.device = dev) <;> cases bridge.objects dev <;> simp

theorem lightAt_device (found : bridge.lightAt dev = some light) : light.entry.device = dev :=
  (find?_key_eq_some (lightAt_eq_some.mp found).1).2

/-- Putting a light back as it was changes nothing. -/
theorem putLight_self (found : bridge.lightAt dev = some light) :
    bridge.putLight dev light = bridge := by
  obtain ⟨entry, object⟩ := lightAt_eq_some.mp found
  unfold putLight
  rw [modifyFirst_self entry rfl, Function.update_eq_self_iff.mpr object.symm]

theorem lightAt_putLight_self (found : bridge.lightAt dev = some light) {next : Light D}
    (device : next.entry.device = dev) : (bridge.putLight dev next).lightAt dev = some next := by
  refine lightAt_eq_some.mpr ⟨?_, Function.update_self _ _ _⟩
  exact find?_modifyFirst_self (lightAt_eq_some.mp found).1 (by simpa using device)

theorem lightAt_putLight_other {other : DevicePtr} (different : other ≠ dev) {next : Light D}
    (device : next.entry.device = dev) :
    (bridge.putLight dev next).lightAt other = bridge.lightAt other := by
  have entries : (bridge.putLight dev next).gBridgedWemoLights.find? (·.device = other) =
      bridge.gBridgedWemoLights.find? (·.device = other) := by
    refine find?_modifyFirst_other (fun entry here => ?_) fun entry here => ?_
    · have same : entry.device = dev := by simpa using here
      exact device.trans same.symm
    · have same : entry.device = dev := by simpa using here
      rw [same]
      exact different.symm
  have objects : (bridge.putLight dev next).objects other = bridge.objects other :=
    Function.update_of_ne different _ _
  unfold lightAt
  rw [entries, objects]

/-- Changing the entry and writing the object back is putting the light. -/
theorem changeEntry_eq_putLight (found : bridge.lightAt dev = some light)
    (change : BridgedWemoLight → BridgedWemoLight) :
    bridge.changeEntry dev change = bridge.putLight dev { light with entry := change light.entry } := by
  obtain ⟨entry, object⟩ := lightAt_eq_some.mp found
  have loop : modifyFirst (·.device = dev) change bridge.gBridgedWemoLights =
      modifyFirst (·.device = dev) (fun _ => change light.entry) bridge.gBridgedWemoLights :=
    modifyFirst_congr entry entry rfl
  unfold changeEntry putLight
  rw [loop, Function.update_eq_self_iff.mpr object.symm]

theorem store_eq_putLight (found : bridge.lightAt dev = some light) (object : DeviceObject D) :
    bridge.store dev object = bridge.putLight dev { light with object := object } := by
  unfold store putLight
  rw [modifyFirst_self (lightAt_eq_some.mp found).1 rfl]

/-- Putting twice is putting once. -/
theorem putLight_putLight (first second : Light D) (device : first.entry.device = dev) :
    (bridge.putLight dev first).putLight dev second = bridge.putLight dev second := by
  unfold putLight
  rw [modifyFirst_modifyFirst _ _ fun _ _ => by simpa using device, Function.update_idem]
  rfl

end Bridge

/-! ### The handlers act on one light -/

section Handlers

variable [ChipSdk D] {bridge : Bridge D} {dev : DevicePtr} {light : Light D} {now : TimePoint}

theorem handleWriteOnOffAttribute_eq (found : bridge.lightAt dev = some light)
    (udn : bridge.gWemoDeviceToUdn dev = some light.entry.udn) (attributeId : OnOffAttribute)
    (buffer : Buffer) :
    handleWriteOnOffAttribute now dev light.object attributeId buffer bridge =
      (bridge.putLight dev (light.writeOnOff now attributeId buffer).1,
        (light.writeOnOff now attributeId buffer).2) := by
  unfold handleWriteOnOffAttribute Light.writeOnOff
  by_cases accepted : attributeId = .onOff ∧ light.object.isReachable = true
  · have device := Bridge.lightAt_device found
    have udn' : (bridge.store dev (light.object.setOnOff (decide (buffer 0 ≠ 0))).1).gWemoDeviceToUdn
        dev = some light.entry.udn := udn
    rw [if_pos accepted, if_pos accepted]
    simp only [udn']
    rw [Bridge.store_eq_putLight found,
      Bridge.changeEntry_eq_putLight (Bridge.lightAt_putLight_self found (by exact device)),
      Bridge.putLight_putLight _ _ (by exact device)]
  · rw [if_neg accepted, if_neg accepted, Bridge.putLight_self found]

theorem handleWriteLevelControlAttribute_eq (found : bridge.lightAt dev = some light)
    (udn : bridge.gWemoDeviceToUdn dev = some light.entry.udn) (dimmer : Dimmer)
    (attributeId : LevelControlAttribute) (buffer : Buffer) :
    handleWriteLevelControlAttribute now dev light.object dimmer attributeId buffer bridge =
      (bridge.putLight dev (light.writeLevel now dimmer attributeId buffer).1,
        (light.writeLevel now dimmer attributeId buffer).2) := by
  unfold handleWriteLevelControlAttribute Light.writeLevel
  by_cases accepted : attributeId = .currentLevel ∧ light.object.isReachable = true
  · rw [if_pos accepted, if_pos accepted]
    -- clear the marker first, then decide on the cleared entry
    have device : (light.entry.clearExpiredOnOff now).device = dev :=
      (light.entry.clearExpiredOnOff_device now).trans (Bridge.lightAt_device found)
    have found' : (bridge.putLight dev
        { light with entry := light.entry.clearExpiredOnOff now }).lightAt dev =
          some { light with entry := light.entry.clearExpiredOnOff now } :=
      Bridge.lightAt_putLight_self found device
    have udn' : ∀ changed : DeviceObject D, ((bridge.putLight dev
        { light with entry := light.entry.clearExpiredOnOff now }).store dev
          changed).gWemoDeviceToUdn dev = some (light.entry.clearExpiredOnOff now).udn :=
      fun _ => udn.trans (congrArg some (light.entry.clearExpiredOnOff_udn now).symm)
    rw [Bridge.changeEntry_eq_putLight found]
    generalize light.entry.clearExpiredOnOff now = cleared at device found' udn'
    simp only [(Bridge.lightAt_eq_some.mp found').1, Option.any_some, decide_eq_true_eq, udn']
    split
    · rfl
    · split
      · rfl
      · rw [Bridge.store_eq_putLight found',
          Bridge.changeEntry_eq_putLight (Bridge.lightAt_putLight_self found' (by exact device)),
          Bridge.putLight_putLight _ _ (by exact device),
          Bridge.putLight_putLight _ _ (by exact device)]
  · rw [if_neg accepted, if_neg accepted, Bridge.putLight_self found]

theorem handleWriteBridgedDeviceBasicAttribute_eq (found : bridge.lightAt dev = some light)
    (attributeId : BridgedDeviceBasicAttribute) (buffer : Buffer) :
    handleWriteBridgedDeviceBasicAttribute dev light.object attributeId buffer bridge =
      (bridge.putLight dev (light.writeBridgedDeviceBasic attributeId buffer).1,
        (light.writeBridgedDeviceBasic attributeId buffer).2) := by
  unfold handleWriteBridgedDeviceBasicAttribute Light.writeBridgedDeviceBasic
  by_cases other : attributeId ≠ .nodeLabel
  · rw [if_pos other, if_pos other, Bridge.putLight_self found]
  · rw [if_neg other, if_neg other]
    dsimp only
    split
    · rw [Bridge.putLight_self found]
    · rw [Bridge.store_eq_putLight found]

/-- The event handler acts on the first light with the event's wemo_id. -/
theorem handleWemoEventOnMatterThread_eq {ctx : WemoEventContext} {entry : BridgedWemoLight}
    (first : bridge.gBridgedWemoLights.find? (·.wemoId = ctx.wemoId) = some entry)
    (found : bridge.lightAt entry.device = some light) (same : light.entry = entry) :
    handleWemoEventOnMatterThread now ctx bridge =
      (bridge.putLight entry.device (light.event now ctx).1, (light.event now ctx).2) := by
  obtain ⟨byDevice, object⟩ := Bridge.lightAt_eq_some.mp found
  subst same
  unfold handleWemoEventOnMatterThread Light.event
  rw [first]
  simp only [object]
  cases handleEventOnLight now ctx light.entry light.object with
  | none => rw [Bridge.putLight_self found]
  | some updated =>
    simp only [Bridge.putLight, Bridge.store]
    rw [modifyFirst_congr first byDevice rfl]

end Handlers

/-! ### What a step of a light never changes -/

namespace Light

/-- Equal entries and objects, up to the state a step may change. -/
structure SameStatic (first second : Light D) [ChipSdk D] : Prop where
  wemoId : first.entry.wemoId = second.entry.wemoId
  udn : first.entry.udn = second.entry.udn
  isDimmable : first.entry.isDimmable = second.entry.isDimmable
  device : first.entry.device = second.entry.device
  dimmer : first.object.dimmer.isSome = second.object.dimmer.isSome
  endpoint : first.object.getEndpointId = second.object.getEndpointId

section Static

variable [ChipSdk D] (now : TimePoint) (light : Light D)

theorem SameStatic.refl : SameStatic light light := ⟨rfl, rfl, rfl, rfl, rfl, rfl⟩

theorem SameStatic.symm {first second : Light D} (same : SameStatic first second) :
    SameStatic second first :=
  ⟨same.wemoId.symm, same.udn.symm, same.isDimmable.symm, same.device.symm, same.dimmer.symm,
    same.endpoint.symm⟩

theorem SameStatic.trans {first second third : Light D} (left : SameStatic first second)
    (right : SameStatic second third) : SameStatic first third :=
  ⟨left.wemoId.trans right.wemoId, left.udn.trans right.udn,
    left.isDimmable.trans right.isDimmable, left.device.trans right.device,
    left.dimmer.trans right.dimmer, left.endpoint.trans right.endpoint⟩

theorem writeOnOff_static (attributeId : OnOffAttribute) (buffer : Buffer) :
    SameStatic (light.writeOnOff now attributeId buffer).1 light := by
  unfold writeOnOff
  split
  · exact ⟨rfl, rfl, rfl, rfl, rfl, DeviceObject.setOnOff_getEndpointId _ _⟩
  · exact SameStatic.refl light

theorem writeLevel_static {dimmer : Dimmer} (isDimmer : light.object.dimmer = some dimmer)
    (attributeId : LevelControlAttribute) (buffer : Buffer) :
    SameStatic (light.writeLevel now dimmer attributeId buffer).1 light := by
  unfold writeLevel
  split
  · dsimp only
    split
    · exact ⟨by simp, by simp, by simp, by simp, rfl, rfl⟩
    · split
      · exact ⟨by simp, by simp, by simp, by simp, rfl, rfl⟩
      · exact ⟨by simp, by simp, by simp, by simp, by simp [isDimmer], by simp⟩
  · exact SameStatic.refl light

theorem writeBridgedDeviceBasic_static (attributeId : BridgedDeviceBasicAttribute)
    (buffer : Buffer) : SameStatic (light.writeBridgedDeviceBasic attributeId buffer).1 light := by
  unfold writeBridgedDeviceBasic
  split
  · exact SameStatic.refl light
  · dsimp only
    split
    · exact SameStatic.refl light
    · exact ⟨rfl, rfl, rfl, rfl, rfl, DeviceObject.setName_getEndpointId _ _⟩

theorem write_static (path : AttributePath) (buffer : Buffer) :
    SameStatic (light.write now path buffer).1 light := by
  unfold write
  split
  · cases path with
    | onOff attributeId => exact light.writeOnOff_static now attributeId buffer
    | levelControl attributeId =>
      cases isDimmer : light.object.dimmer with
      | none => simpa [isDimmer] using SameStatic.refl light
      | some dimmer => simpa [isDimmer] using light.writeLevel_static now isDimmer attributeId buffer
    | bridgedDeviceBasicInformation attributeId =>
      exact light.writeBridgedDeviceBasic_static attributeId buffer
    | temperatureMeasurement _ => exact SameStatic.refl light
    | other _ _ => exact SameStatic.refl light
  · exact SameStatic.refl light

theorem handleEventOnOff_static (ctx : WemoEventContext) (entry : BridgedWemoLight)
    (dev : DeviceObject D) :
    SameStatic ⟨(handleEventOnOff now ctx entry dev).1, (handleEventOnOff now ctx entry dev).2.1⟩
      ⟨entry, dev⟩ := by
  unfold handleEventOnOff
  dsimp only
  generalize (if decide (ctx.state ≠ 0) = true then (1 : Int) else 0) = newOnInt
  split <;> exact ⟨by simp, by simp, by simp, by simp, by simp, by simp⟩

theorem handleEventLevel_static (ctx : WemoEventContext) (entry : BridgedWemoLight)
    (dev : DeviceObject D) {dimmer : Dimmer} (isDimmer : dev.dimmer = some dimmer) :
    SameStatic ⟨(handleEventLevel now ctx entry dev dimmer).1,
      (handleEventLevel now ctx entry dev dimmer).2.1⟩ ⟨entry, dev⟩ := by
  unfold handleEventLevel
  dsimp only
  split <;> exact ⟨by simp, by simp, by simp, by simp, by simp [isDimmer], by simp⟩

/-- The object after the reachability update of the event handler. -/
theorem reached_static (ctx : WemoEventContext) (entry : BridgedWemoLight) (dev : DeviceObject D) :
    SameStatic ⟨entry, (if dev.isReachable ≠ ctx.isOnline then dev.setReachable ctx.isOnline
      else (dev, [])).1⟩ ⟨entry, dev⟩ := by
  split
  · exact ⟨rfl, rfl, rfl, rfl, rfl, DeviceObject.setReachable_getEndpointId _ _⟩
  · exact SameStatic.refl _

theorem event_static (ctx : WemoEventContext) : SameStatic (light.event now ctx).1 light := by
  unfold event handleEventOnLight
  dsimp only
  have reached := reached_static ctx light.entry light.object
  generalize (if light.object.isReachable ≠ ctx.isOnline then
    light.object.setReachable ctx.isOnline else (light.object, [])) = atReach at reached ⊢
  have switched := (handleEventOnOff_static now ctx light.entry atReach.1).trans reached
  by_cases online : ctx.isOnline
  · rw [if_pos online]
    split
    · exact SameStatic.refl light
    · rename_i updated found
      split at found
      · cases isDimmer : (handleEventOnOff now ctx light.entry atReach.1).2.1.dimmer with
        | none =>
          rw [isDimmer] at found
          cases found
        | some dimmer =>
          rw [isDimmer] at found
          cases found
          exact (handleEventLevel_static now ctx _ _ isDimmer).trans switched
      · cases found
        exact switched
  · rw [if_neg online]
    exact reached

/-- **No step changes what identifies the light.** -/
theorem step_static (input : Input) : SameStatic (light.step now input).1 light := by
  cases input with
  | write _ path buffer =>
    unfold step
    dsimp only
    split
    · exact light.write_static now path buffer
    · exact SameStatic.refl light
  | read _ _ _ => exact SameStatic.refl light
  | event ctx => exact light.event_static now ctx

end Static

/-! ### What an event does -/

section Events

variable [ChipSdk D] (now : TimePoint) (light : Light D) (ctx : WemoEventContext)

/-- The object after the reachability update of the event handler, with its reports. -/
def reached (dev : DeviceObject D) : DeviceObject D × List Report :=
  if dev.isReachable ≠ ctx.isOnline then dev.setReachable ctx.isOnline else (dev, [])

@[simp] theorem reached_isReachable (dev : DeviceObject D) :
    (reached ctx dev).1.isReachable = ctx.isOnline := by
  unfold reached
  split
  · exact DeviceObject.setReachable_isReachable _ _
  · rename_i same
    exact not_not.mp same

@[simp] theorem reached_isOn (dev : DeviceObject D) : (reached ctx dev).1.isOn = dev.isOn := by
  unfold reached
  split
  · exact DeviceObject.setReachable_isOn _ _
  · rfl

@[simp] theorem reached_dimmer (dev : DeviceObject D) :
    (reached ctx dev).1.dimmer = dev.dimmer := by
  unfold reached
  split <;> rfl

/-- The OnOff part changes the entry by looking at the clock alone. -/
theorem handleEventOnOff_entry (entry : BridgedWemoLight) (dev : DeviceObject D) :
    (handleEventOnOff now ctx entry dev).1 = entry.clearExpiredOnOff now := by
  unfold handleEventOnOff
  dsimp only
  generalize (if decide (ctx.state ≠ 0) = true then (1 : Int) else 0) = newOnInt
  split <;> rfl

@[simp] theorem handleEventOnOff_isDimmable (entry : BridgedWemoLight) (dev : DeviceObject D) :
    (handleEventOnOff now ctx entry dev).1.isDimmable = entry.isDimmable :=
  (handleEventOnOff_static now ctx entry dev).isDimmable

@[simp] theorem handleEventOnOff_dimmer (entry : BridgedWemoLight) (dev : DeviceObject D) :
    (handleEventOnOff now ctx entry dev).2.1.dimmer = dev.dimmer := by
  unfold handleEventOnOff
  dsimp only
  generalize (if decide (ctx.state ≠ 0) = true then (1 : Int) else 0) = newOnInt
  split <;> rfl

theorem handleEventOnOff_isReachable (entry : BridgedWemoLight) (dev : DeviceObject D) :
    (handleEventOnOff now ctx entry dev).2.1.isReachable = dev.isReachable := by
  unfold handleEventOnOff
  dsimp only
  generalize (if decide (ctx.state ≠ 0) = true then (1 : Int) else 0) = newOnInt
  split
  · exact DeviceObject.setOnOff_isReachable _ _
  · rfl

theorem handleEventLevel_isReachable (entry : BridgedWemoLight) (dev : DeviceObject D)
    (dimmer : Dimmer) :
    (handleEventLevel now ctx entry dev dimmer).2.1.isReachable = dev.isReachable := by
  unfold handleEventLevel
  dsimp only
  split <;> rfl

theorem handleEventLevel_isOn (entry : BridgedWemoLight) (dev : DeviceObject D)
    (dimmer : Dimmer) : (handleEventLevel now ctx entry dev dimmer).2.1.isOn = dev.isOn := by
  unfold handleEventLevel
  dsimp only
  split <;> rfl

/-- The OnOff part shows the event's state, unless an open window contradicts it. -/
theorem handleEventOnOff_isOn (entry : BridgedWemoLight) (dev : DeviceObject D) :
    (handleEventOnOff now ctx entry dev).2.1.isOn =
      if entry.onOffSettling now ∧ (if ctx.state ≠ 0 then 1 else 0) ≠ entry.commandedOnOff then
        dev.isOn else decide (ctx.state ≠ 0) := by
  have outcome : ∀ cleared : BridgedWemoLight, ∀ newOnInt : Int, ∀ newOn : Bool,
      (if ¬ (cleared.commandedOnOff ≥ 0 ∧ newOnInt ≠ cleared.commandedOnOff) ∧ dev.isOn ≠ newOn
        then (cleared, dev.setOnOff newOn) else (cleared, dev, [])).2.1.isOn =
      if cleared.commandedOnOff ≥ 0 ∧ newOnInt ≠ cleared.commandedOnOff then dev.isOn
        else newOn := by
    intro cleared newOnInt newOn
    by_cases suppress : cleared.commandedOnOff ≥ 0 ∧ newOnInt ≠ cleared.commandedOnOff
    · rw [if_neg fun both => both.1 suppress, if_pos suppress]
    · rw [if_neg suppress]
      by_cases same : dev.isOn = newOn
      · rw [if_neg fun both => both.2 same]
        exact same
      · rw [if_pos ⟨suppress, same⟩]
        exact DeviceObject.setOnOff_isOn _ _
  unfold handleEventOnOff
  simp only [decide_eq_true_eq]
  rw [outcome]
  rcases entry.clearExpiredOnOff_cases now with ⟨live, same⟩ | ⟨closed, clear⟩
  · rw [same]
    simp only [live, live.1, true_and]
  · rw [if_neg fun both => absurd both.1 (Int.not_le.mpr clear), if_neg fun both => closed both.1]

/-- The level part shows the event's level, unless an open window contradicts it. -/
theorem handleEventLevel_getLevel (entry : BridgedWemoLight) (dev : DeviceObject D)
    {dimmer : Dimmer} (isDimmer : dev.dimmer = some dimmer) :
    (handleEventLevel now ctx entry dev dimmer).2.1.getLevel =
      some (if entry.levelSettling now ∧
          matterLevelOf ctx.level ≠ UInt8.ofInt entry.commandedLevel then dimmer.mLevel
        else matterLevelOf ctx.level) := by
  have outcome : ∀ cleared : BridgedWemoLight, ∀ level : UInt8,
      (if ¬ (cleared.commandedLevel ≥ 0 ∧ level ≠ UInt8.ofInt cleared.commandedLevel) ∧
          dimmer.mLevel ≠ level
        then (cleared, dev.setLevel dimmer level) else (cleared, dev, [])).2.1.getLevel =
      some (if cleared.commandedLevel ≥ 0 ∧ level ≠ UInt8.ofInt cleared.commandedLevel then
        dimmer.mLevel else level) := by
    intro cleared level
    have shows : dev.getLevel = some dimmer.mLevel := by
      rw [DeviceObject.getLevel, isDimmer, Option.map_some]
    by_cases suppress : cleared.commandedLevel ≥ 0 ∧ level ≠ UInt8.ofInt cleared.commandedLevel
    · rw [if_neg fun both => both.1 suppress, if_pos suppress]
      exact shows
    · rw [if_neg suppress]
      by_cases same : dimmer.mLevel = level
      · rw [if_neg fun both => both.2 same, ← same]
        exact shows
      · rw [if_pos ⟨suppress, same⟩]
        rfl
  unfold handleEventLevel
  dsimp only
  rw [outcome]
  rcases entry.clearExpiredLevel_cases now with ⟨live, same⟩ | ⟨closed, clear⟩
  · rw [same]
    simp only [live, live.1, true_and]
  · rw [if_neg fun both => absurd both.1 (Int.not_le.mpr clear), if_neg fun both => closed both.1]

/-- **What an event does** to a light of the right class: offline, only its reachability may change;
online its on/off state may change too, and its level if it is dimmable and the event has one. -/
theorem event_cases (rightClass : light.object.dimmer.isSome = light.entry.isDimmable) :
    (ctx.isOnline = false ∧ light.event now ctx =
      (⟨light.entry, (reached ctx light.object).1⟩,
        { status := .success, reported := (reached ctx light.object).2 })) ∨
    (ctx.isOnline = true ∧
      let switched := handleEventOnOff now ctx light.entry (reached ctx light.object).1
      ((light.entry.isDimmable = false ∨ ctx.level < 0) ∧ light.event now ctx =
        (⟨switched.1, switched.2.1⟩,
          { status := .success
            reported := (reached ctx light.object).2 ++ switched.2.2 })) ∨
      (light.entry.isDimmable = true ∧ 0 ≤ ctx.level ∧
        ∃ dimmer, light.object.dimmer = some dimmer ∧
          let dimmed := handleEventLevel now ctx switched.1 switched.2.1 dimmer
          light.event now ctx = (⟨dimmed.1, dimmed.2.1⟩,
            { status := .success
              reported := (reached ctx light.object).2 ++ switched.2.2 ++ dimmed.2.2 }))) := by
  have handler : handleEventOnLight now ctx light.entry light.object =
      let switched := handleEventOnOff now ctx light.entry (reached ctx light.object).1
      if ctx.isOnline then
        if switched.1.isDimmable ∧ ctx.level ≥ 0 then
          match switched.2.1.dimmer with
          | none => none
          | some dimmer =>
            let dimmed := handleEventLevel now ctx switched.1 switched.2.1 dimmer
            some (dimmed.1, dimmed.2.1, (reached ctx light.object).2 ++ switched.2.2 ++ dimmed.2.2)
        else some (switched.1, switched.2.1, (reached ctx light.object).2 ++ switched.2.2)
      else some (light.entry, (reached ctx light.object).1, (reached ctx light.object).2) := rfl
  unfold event
  rw [handler]
  dsimp only
  cases online : ctx.isOnline with
  | false => exact Or.inl ⟨rfl, rfl⟩
  | true =>
    refine Or.inr ⟨rfl, ?_⟩
    rw [if_pos rfl, handleEventOnOff_isDimmable, handleEventOnOff_dimmer, reached_dimmer]
    by_cases level : light.entry.isDimmable = true ∧ ctx.level ≥ 0
    · obtain ⟨dimmer, isDimmer⟩ := Option.isSome_iff_exists.mp (rightClass.trans level.1)
      rw [if_pos level, isDimmer]
      exact Or.inr ⟨level.1, level.2, dimmer, rfl, rfl⟩
    · rw [if_neg level]
      refine Or.inl ⟨?_, rfl⟩
      rcases Bool.eq_false_or_eq_true light.entry.isDimmable with yes | no
      · exact Or.inr (Int.not_le.mp fun nonneg => level ⟨yes, nonneg⟩)
      · exact Or.inl no

/-- **The level after an event**: the event's level if the light is dimmable, the event is online
and has a level, and no open window contradicts it. -/
theorem event_getLevel (rightClass : light.object.dimmer.isSome = light.entry.isDimmable) :
    (light.event now ctx).1.object.getLevel =
      if (ctx.isOnline = true ∧ light.entry.isDimmable = true ∧ 0 ≤ ctx.level) ∧
          ¬ (light.entry.levelSettling now ∧
            matterLevelOf ctx.level ≠ UInt8.ofInt light.entry.commandedLevel) then
        some (matterLevelOf ctx.level) else light.object.getLevel := by
  have untouched : ∀ dev : DeviceObject D, dev.dimmer = light.object.dimmer →
      dev.getLevel = light.object.getLevel := fun dev same => by
    rw [DeviceObject.getLevel, same, DeviceObject.getLevel]
  rcases light.event_cases now ctx rightClass with ⟨offline, eq⟩ |
    ⟨online, ⟨noLevel, eq⟩ | ⟨dimmable, nonneg, dimmer, isDimmer, eq⟩⟩
  · rw [eq, if_neg fun both => by simp [offline] at both]
    exact untouched _ (reached_dimmer ctx _)
  · rw [eq, if_neg]
    · exact untouched _ ((handleEventOnOff_dimmer _ _ _ _).trans (reached_dimmer ctx _))
    · rintro ⟨⟨-, dimmable, nonneg⟩, -⟩
      rcases noLevel with no | negative
      · rw [dimmable] at no
        cases no
      · exact absurd nonneg (Int.not_le.mpr negative)
  · have isDimmer' : (handleEventOnOff now ctx light.entry
        (reached ctx light.object).1).2.1.dimmer = some dimmer := by
      rw [handleEventOnOff_dimmer, reached_dimmer, isDimmer]
    have shows : light.object.getLevel = some dimmer.mLevel := by
      rw [DeviceObject.getLevel, isDimmer, Option.map_some]
    have settling : (light.entry.clearExpiredOnOff now).levelSettling now ↔
        light.entry.levelSettling now := by
      simp [BridgedWemoLight.levelSettling]
    rw [eq]
    dsimp only
    rw [handleEventLevel_getLevel now ctx _ _ isDimmer', handleEventOnOff_entry,
      BridgedWemoLight.clearExpiredOnOff_commandedLevel, shows]
    simp only [settling, online, dimmable, nonneg, true_and]
    by_cases suppressed : light.entry.levelSettling now ∧
        matterLevelOf ctx.level ≠ UInt8.ofInt light.entry.commandedLevel
    · rw [if_pos suppressed, if_neg fun open' => open' suppressed]
    · rw [if_neg suppressed, if_pos suppressed]

/-- The on/off state after an online event, when no window is open. -/
theorem event_isOn (rightClass : light.object.dimmer.isSome = light.entry.isDimmable)
    (online : ctx.isOnline = true) (closed : ¬ light.entry.onOffSettling now) :
    (light.event now ctx).1.object.isOn = decide (ctx.state ≠ 0) := by
  have switched := handleEventOnOff_isOn now ctx light.entry (reached ctx light.object).1
  rw [if_neg fun both => closed both.1] at switched
  rcases light.event_cases now ctx rightClass with ⟨offline, -⟩ |
    ⟨-, ⟨-, eq⟩ | ⟨-, -, dimmer, -, eq⟩⟩
  · rw [online] at offline
    cases offline
  · rw [eq]
    exact switched
  · rw [eq]
    exact (handleEventLevel_isOn now ctx _ _ dimmer).trans switched

/-- After an event the light is as reachable as the event says. -/
theorem event_isReachable (rightClass : light.object.dimmer.isSome = light.entry.isDimmable) :
    (light.event now ctx).1.object.isReachable = ctx.isOnline := by
  have switched := handleEventOnOff_isReachable now ctx light.entry (reached ctx light.object).1
  rw [reached_isReachable] at switched
  rcases light.event_cases now ctx rightClass with ⟨-, eq⟩ |
    ⟨-, ⟨-, eq⟩ | ⟨-, -, dimmer, -, eq⟩⟩
  · rw [eq]
    exact reached_isReachable ctx _
  · rw [eq]
    exact switched
  · rw [eq]
    exact (handleEventLevel_isReachable now ctx _ _ dimmer).trans switched

end Events

/-! ### What a step dispatches -/

section Dispatched

variable [ChipSdk D] (now : TimePoint) (light : Light D)

theorem writeOnOff_dispatched (attributeId : OnOffAttribute) (buffer : Buffer) :
    (light.writeOnOff now attributeId buffer).2.dispatched =
      if (light.writeOnOff now attributeId buffer).2.status = .success then
        [.setOnOff light.entry.udn (decide (buffer 0 ≠ 0))] else [] := by
  unfold writeOnOff
  split <;> rfl

/-- A level write dispatches at most its own command, and only for a level of at least 2. -/
theorem writeLevel_dispatched (dimmer : Dimmer) (attributeId : LevelControlAttribute)
    (buffer : Buffer) :
    (light.writeLevel now dimmer attributeId buffer).2.dispatched = [] ∨
      attributeId = .currentLevel ∧ 2 ≤ buffer 0 ∧
        (light.writeLevel now dimmer attributeId buffer).2.dispatched =
          [.setLevelPercent light.entry.udn (wemoPercentOf (buffer 0))] := by
  unfold writeLevel
  split
  · rename_i accepted
    dsimp only
    split
    · exact Or.inl rfl
    · rename_i notSettling
      split
      · exact Or.inl rfl
      · rename_i notMinimal
        refine Or.inr ⟨accepted.1, ?_, by rw [light.entry.clearExpiredOnOff_udn now]⟩
        -- the marker is clear: an expired one was cleared, a live one ends the write before
        have clear : (light.entry.clearExpiredOnOff now).commandedOnOff < 0 := by
          by_contra marked
          refine notSettling ⟨Int.not_lt.mp marked, Int.not_lt.mp fun expired => marked ?_⟩
          unfold BridgedWemoLight.clearExpiredOnOff at marked expired ⊢
          split
          · exact Int.negSucc_lt_zero 0
          · rename_i live
            rw [if_neg live] at marked expired
            exact absurd ⟨Int.not_lt.mp marked, expired⟩ live
        have above : 1 < buffer 0 := not_le.mp fun small => notMinimal ⟨clear, small⟩
        rw [UInt8.lt_iff_toNat_lt] at above
        exact UInt8.le_iff_toNat_le.mpr above
  · exact Or.inl rfl

theorem event_dispatched (ctx : WemoEventContext) : (light.event now ctx).2.dispatched = [] := by
  unfold event
  split <;> rfl

/-- An OnOff write dispatches its command exactly when it succeeds. -/
theorem step_onOff_dispatched (endpoint : EndpointId) (buffer : Buffer) :
    (light.step now (.write endpoint (.onOff .onOff) buffer)).2.dispatched =
      if (light.step now (.write endpoint (.onOff .onOff) buffer)).2.status = .success then
        [.setOnOff light.entry.udn (decide (buffer 0 ≠ 0))] else [] := by
  rw [step]
  split
  · unfold write
    split
    · exact light.writeOnOff_dispatched now .onOff buffer
    · rfl
  · rfl

/-- What a write can dispatch. -/
theorem write_dispatched (path : AttributePath) (buffer : Buffer) :
    (light.write now path buffer).2.dispatched = [] ∨
      path = .onOff .onOff ∧ (light.write now path buffer).2.dispatched =
        [.setOnOff light.entry.udn (decide (buffer 0 ≠ 0))] ∨
      path = .levelControl .currentLevel ∧ 2 ≤ buffer 0 ∧
        (light.write now path buffer).2.dispatched =
          [.setLevelPercent light.entry.udn (wemoPercentOf (buffer 0))] := by
  unfold write
  split
  · cases path with
    | onOff attributeId =>
      dsimp only
      unfold writeOnOff
      split
      · rename_i accepted
        exact Or.inr (Or.inl ⟨congrArg _ accepted.1, rfl⟩)
      · exact Or.inl rfl
    | levelControl attributeId =>
      cases light.object.dimmer with
      | none => exact Or.inl rfl
      | some dimmer =>
        rcases light.writeLevel_dispatched now dimmer attributeId buffer with
          none | ⟨rfl, above, sent⟩
        · exact Or.inl none
        · exact Or.inr (Or.inr ⟨rfl, above, sent⟩)
    | bridgedDeviceBasicInformation attributeId =>
      dsimp only
      unfold writeBridgedDeviceBasic
      split
      · exact Or.inl rfl
      · dsimp only
        split <;> exact Or.inl rfl
    | temperatureMeasurement _ => exact Or.inl rfl
    | other _ _ => exact Or.inl rfl
  · exact Or.inl rfl

/-- A read dispatches and reports nothing. -/
theorem read_quiet (path : AttributePath) (maxReadLength : Nat) :
    (light.read path maxReadLength).dispatched = [] ∧
      (light.read path maxReadLength).reported = [] := by
  cases path with
  | onOff attributeId =>
    simp only [read, handleReadOnOffAttribute]
    split_ifs <;> exact ⟨rfl, rfl⟩
  | levelControl attributeId =>
    rw [read]
    cases light.object.dimmer with
    | none => exact ⟨rfl, rfl⟩
    | some dimmer =>
      simp only [handleReadLevelControlAttribute]
      split_ifs <;> exact ⟨rfl, rfl⟩
  | bridgedDeviceBasicInformation attributeId =>
    simp only [read, handleReadBridgedDeviceBasicAttribute]
    split_ifs <;> exact ⟨rfl, rfl⟩
  | temperatureMeasurement _ => exact ⟨rfl, rfl⟩
  | other _ _ => exact ⟨rfl, rfl⟩

/-- **What a step can dispatch**: nothing, the command of an OnOff write, or the command of a level
write with a level of at least 2. -/
theorem step_dispatched (input : Input) :
    (light.step now input).2.dispatched = [] ∨
      (∃ endpoint buffer, input = .write endpoint (.onOff .onOff) buffer ∧
        (light.step now input).2.dispatched =
          [.setOnOff light.entry.udn (decide (buffer 0 ≠ 0))]) ∨
      ∃ endpoint buffer, input = .write endpoint (.levelControl .currentLevel) buffer ∧
        2 ≤ buffer 0 ∧ (light.step now input).2.dispatched =
          [.setLevelPercent light.entry.udn (wemoPercentOf (buffer 0))] := by
  cases input with
  | write endpoint path buffer =>
    rw [step]
    split
    · rcases light.write_dispatched now path buffer with none | ⟨rfl, sent⟩ | ⟨rfl, above, sent⟩
      · exact Or.inl none
      · exact Or.inr (Or.inl ⟨endpoint, buffer, rfl, sent⟩)
      · exact Or.inr (Or.inr ⟨endpoint, buffer, rfl, above, sent⟩)
    · exact Or.inl rfl
  | read endpoint path maxReadLength =>
    rw [step]
    split
    · exact Or.inl (light.read_quiet path maxReadLength).1
    · exact Or.inl rfl
  | event ctx => exact Or.inl (light.event_dispatched now ctx)

/-- Every command a step dispatches is for the light's own UDN. -/
theorem step_udn (input : Input) :
    ∀ command ∈ (light.step now input).2.dispatched, command.udn = light.entry.udn := by
  intro command sent
  rcases light.step_dispatched now input with
    none | ⟨_, _, -, onOff⟩ | ⟨_, _, -, -, level⟩
  · rw [none] at sent
    cases sent
  · rw [onOff] at sent
    rw [List.mem_singleton.mp sent]
    rfl
  · rw [level] at sent
    rw [List.mem_singleton.mp sent]
    rfl

end Dispatched

end Light

end WemoBridge
