/-
**The casts: every downcast is to the class of its object.**

The program casts `Device` pointers to `DeviceOnOff`, `DeviceDimmable`, `DeviceTempSensor` and
`DevicePowerSource` without a check. What it casts to follows from the cluster of an attribute, from
`is_dimmable` of an entry, or from the slot; what the object is was decided when `ApplicationInit`
made it. The `Cast`s of a step and of a turn of the publish loop are listed here, in the order the
handlers perform them, each with the class its object was constructed as.

The lists are tied to the code: as long as its pointers lead to objects, a handler is undefined
behaviour exactly if one of its casts is not sound (`readCallback_defined_iff`,
`writeCallback_defined_iff`, `eventHandler_defined_iff`), and the casts of the publish loop are those
of the turns it takes (`mem_publishLoopCasts_iff`).

The endpoint type registered for a light, the flag of its entry and the class of its object agree in
every published bridge, so all casts of a step are sound (`Published.casts_sound`), and no step of a
run is undefined behaviour (`Published.step_defined`). No step changes the class of an object
(`Published.run_constructedAs`).
-/

import WemoBridge.Init
import WemoBridge.Plan

namespace WemoBridge

open Library

variable {D : Type} [ChipSdk D]

/-! ### Classes and casts -/

/-- `Device` and the classes the program casts it to. -/
inductive DeviceClass where
  | device
  | deviceOnOff
  | deviceDimmable
  | deviceTempSensor
  | devicePowerSource
  deriving DecidableEq, Repr

namespace DeviceClass

/-- The class a class is declared to derive from. -/
def base : DeviceClass → Option DeviceClass
  | .device => none
  | .deviceOnOff => some .device
  | .deviceDimmable => some .deviceOnOff
  | .deviceTempSensor => some .device
  | .devicePowerSource => some .device

/-- The class itself, or one derived from it. -/
def DerivesFrom (derived ancestor : DeviceClass) : Prop :=
  Relation.ReflTransGen (fun first second => first.base = some second) derived ancestor

/-- A class derives from itself and from what its base derives from. -/
theorem derivesFrom_iff_of_base {derived direct ancestor : DeviceClass}
    (base : derived.base = some direct) :
    derived.DerivesFrom ancestor ↔ derived = ancestor ∨ direct.DerivesFrom ancestor := by
  refine Relation.ReflTransGen.cases_head_iff.trans (or_congr Iff.rfl ?_)
  constructor
  · rintro ⟨other, same, derives⟩
    obtain rfl := Option.some.inj (base.symm.trans same)
    exact derives
  · exact fun derives => ⟨direct, base, derives⟩

theorem device_derivesFrom_iff {ancestor : DeviceClass} :
    DeviceClass.device.DerivesFrom ancestor ↔ ancestor = .device := by
  refine Relation.ReflTransGen.cases_head_iff.trans ⟨?_, fun same => Or.inl same.symm⟩
  rintro (same | ⟨other, noBase, -⟩)
  · exact same.symm
  · cases noBase

theorem deviceOnOff_derivesFrom_iff {ancestor : DeviceClass} :
    deviceOnOff.DerivesFrom ancestor ↔ ancestor = .deviceOnOff ∨ ancestor = .device := by
  rw [derivesFrom_iff_of_base (show base _ = some .device from rfl), device_derivesFrom_iff,
    eq_comm]

theorem deviceDimmable_derivesFrom_iff {ancestor : DeviceClass} :
    deviceDimmable.DerivesFrom ancestor ↔
      ancestor = .deviceDimmable ∨ ancestor = .deviceOnOff ∨ ancestor = .device := by
  rw [derivesFrom_iff_of_base (show base _ = some .deviceOnOff from rfl),
    deviceOnOff_derivesFrom_iff, eq_comm]

end DeviceClass

/-- The class an object was constructed as: no setter adds or removes its `DeviceDimmable` part
(`Published.run_constructedAs`). -/
def DeviceObject.constructedAs (dev : DeviceObject D) : DeviceClass :=
  if dev.dimmer.isSome then .deviceDimmable else .deviceOnOff

/-- A `static_cast` of a `Device` pointer, with the class its object was constructed as; `none` if
the pointer leads to no object. -/
structure Cast where
  target : DeviceClass
  constructedAs : Option DeviceClass
  deriving DecidableEq, Repr

/-- The object was constructed as the class it is cast to, or as one derived from it. -/
def Cast.Sound (cast : Cast) : Prop :=
  ∃ made, cast.constructedAs = some made ∧ made.DerivesFrom cast.target

namespace Bridge

/-- `static_cast<target *>(dev)` -/
def castTo (bridge : Bridge D) (target : DeviceClass) (dev : DevicePtr) : Cast :=
  { target := target, constructedAs := (bridge.objects dev).map DeviceObject.constructedAs }

/-! ### The casts of a step -/

/-- The casts of `emberAfExternalAttributeReadCallback`. -/
def readCasts (bridge : Bridge D) (endpoint : EndpointId) (path : AttributePath) : List Cast :=
  let endpointIndex := bridge.emberAfGetDynamicIndexFromEndpoint endpoint
  if endpointIndex < CHIP_DEVICE_CONFIG_DYNAMIC_ENDPOINT_COUNT then
    match bridge.gDevices endpointIndex with
    | none => []
    | some dev =>
      match path with
      | .bridgedDeviceBasicInformation _ => []
      | .onOff _ => [bridge.castTo .deviceOnOff dev]
      | .levelControl _ => [bridge.castTo .deviceDimmable dev]
      | .temperatureMeasurement _ => [bridge.castTo .deviceTempSensor dev]
      | .other _ _ => []
  else []

/-- `PowerSource::Id` -/
def powerSourceId : UInt32 := 0x2F

/-- The cast of `BridgedPowerSourceAttrAccess::Read`, from the slot after the dynamic ones. -/
def powerSourceCasts (bridge : Bridge D) : List Cast :=
  match bridge.gDevices CHIP_DEVICE_CONFIG_DYNAMIC_ENDPOINT_COUNT with
  | none => []
  | some dev => [bridge.castTo .devicePowerSource dev]

/-- The casts of `emberAfExternalAttributeWriteCallback`. -/
def writeCasts (bridge : Bridge D) (endpoint : EndpointId) (path : AttributePath) : List Cast :=
  let endpointIndex := bridge.emberAfGetDynamicIndexFromEndpoint endpoint
  if endpointIndex < CHIP_DEVICE_CONFIG_DYNAMIC_ENDPOINT_COUNT then
    match bridge.gDevices endpointIndex with
    | none => []
    | some dev =>
      if (bridge.objects dev).any DeviceObject.isReachable then
        match path with
        | .onOff _ => [bridge.castTo .deviceOnOff dev]
        | .levelControl _ => [bridge.castTo .deviceDimmable dev]
        | .bridgedDeviceBasicInformation _ => []
        | .temperatureMeasurement _ => []
        | .other _ _ => []
      else []
  else []

/-- The casts of `HandleWemoEventOnMatterThread`. -/
def eventCasts (bridge : Bridge D) (ctx : WemoEventContext) : List Cast :=
  match bridge.gBridgedWemoLights.find? (·.wemoId = ctx.wemoId) with
  | none => []
  | some entry =>
    if ctx.isOnline then
      bridge.castTo .deviceOnOff entry.device ::
        if entry.isDimmable ∧ ctx.level ≥ 0 then [bridge.castTo .deviceDimmable entry.device]
        else []
    else []

/-- **The casts of a step.** A read of the PowerSource cluster, on any endpoint, goes to
`gPowerAttrAccess`; the external callbacks get the clusters the endpoint type declares. -/
def casts (bridge : Bridge D) : TimePoint × Input → List Cast
  | (_, .write endpoint path _) =>
      if bridge.declares endpoint path.cluster then bridge.writeCasts endpoint path else []
  | (_, .read endpoint path _) =>
      (if path.cluster = .other powerSourceId then bridge.powerSourceCasts else []) ++
        if bridge.declares endpoint path.cluster then bridge.readCasts endpoint path else []
  | (_, .event ctx) => bridge.eventCasts ctx

end Bridge

/-! ### The casts of `ApplicationInit` -/

/-- The cast of a turn, after `AddDeviceEndpoint` returned: `stable` is the last entry. -/
def finishCasts (added : Bridge D × Int) : List Cast :=
  if added.2 < 0 then []
  else
    match added.1.gBridgedWemoLights.getLast? with
    | none => []
    | some stable =>
        [added.1.castTo (if stable.isDimmable then .deviceDimmable else .deviceOnOff) stable.device]

/-- The casts of one turn of the publish loop. -/
def publishDeviceCasts (heap : Allocator) (refuses : EndpointId → Bool) (dev : WemoDevice)
    (bridge : Bridge D) : List Cast :=
  match offerDevice heap refuses dev bridge with
  | none => []
  | some added => finishCasts added

/-- The casts of the publish loop. -/
def publishLoopCasts (heap : Allocator) (refuses : Nat → EndpointId → Bool) :
    Nat → List WemoDevice → Bridge D → List Cast
  | _, [], _ => []
  | call, dev :: rest, bridge =>
      if bridge.gBridgedWemoLights.length ≥ CHIP_DEVICE_CONFIG_DYNAMIC_ENDPOINT_COUNT then
        publishLoopCasts heap refuses call rest bridge
      else
        publishDeviceCasts heap (refuses call) dev bridge ++
          match publishDevice heap (refuses call) dev bridge with
          | none => []
          | some next => publishLoopCasts heap refuses (call + 1) rest next

/-- The casts of `ApplicationInit`. -/
def applicationInitCasts (D : Type) [ChipSdk D] (heap : Allocator) (lastFixed : EndpointId)
    (refuses : Nat → EndpointId → Bool) (discovered : List WemoDevice) : List Cast :=
  publishLoopCasts heap refuses 0 (sortDiscovered discovered) (resetBridge lastFixed : Bridge D)

/-! ### Sound casts -/

/-- Only dimmable lights declare LevelControl. -/
theorem levelControl_declared {isDimmable : Bool} {attributeId : LevelControlAttribute}
    (declared : (AttributePath.levelControl attributeId).cluster ∈
      (endpointTypeOf isDimmable).clusters) : isDimmable = true := by
  cases isDimmable with
  | true => rfl
  | false => exact absurd declared (show Cluster.levelControl ∉ _ by decide)

/-- No light declares TemperatureMeasurement. -/
theorem temperatureMeasurement_undeclared {isDimmable : Bool} {attributeId : UInt32} :
    (AttributePath.temperatureMeasurement attributeId).cluster ∉
      (endpointTypeOf isDimmable).clusters := by
  show Cluster.temperatureMeasurement ∉ (endpointTypeOf isDimmable).clusters
  cases isDimmable <;> decide

namespace Bridge

section Sound

variable {bridge : Bridge D} {dev : DevicePtr} {object : DeviceObject D}

omit [ChipSdk D] in
/-- **Which casts of a live object are sound**: to `DeviceOnOff`, as every object is one, and to
`DeviceDimmable` if it has that part. -/
theorem castTo_sound_iff (found : bridge.objects dev = some object) (target : DeviceClass) :
    (bridge.castTo target dev).Sound ↔
      target = .device ∨ target = .deviceOnOff ∨
        target = .deviceDimmable ∧ object.dimmer.isSome = true := by
  have made : (bridge.castTo target dev).Sound ↔ object.constructedAs.DerivesFrom target := by
    rw [Cast.Sound, castTo, found, Option.map_some]
    constructor
    · rintro ⟨made, same, derives⟩
      exact Option.some.inj same ▸ derives
    · exact fun derives => ⟨_, rfl, derives⟩
  rw [made, DeviceObject.constructedAs]
  cases isDimmer : object.dimmer.isSome with
  | true =>
    rw [if_pos rfl, DeviceClass.deviceDimmable_derivesFrom_iff]
    tauto
  | false =>
    rw [if_neg Bool.false_ne_true, DeviceClass.deviceOnOff_derivesFrom_iff]
    simp [or_comm]

omit [ChipSdk D] in
/-- Every light object is a `DeviceOnOff`. -/
theorem castTo_deviceOnOff_sound (found : bridge.objects dev = some object) :
    (bridge.castTo .deviceOnOff dev).Sound :=
  (castTo_sound_iff found _).mpr (Or.inr (Or.inl rfl))

omit [ChipSdk D] in
/-- An object with a `DeviceDimmable` part was constructed as one. -/
theorem castTo_deviceDimmable_sound_iff (found : bridge.objects dev = some object) :
    (bridge.castTo .deviceDimmable dev).Sound ↔ object.dimmer.isSome = true := by
  rw [castTo_sound_iff found]
  simp

omit [ChipSdk D] in
/-- A cast chosen by a flag is sound if the flag agrees with the object. -/
theorem castTo_flag_sound (found : bridge.objects dev = some object) {isDimmable : Bool}
    (agrees : object.dimmer.isSome = isDimmable) :
    (bridge.castTo (if isDimmable then .deviceDimmable else .deviceOnOff) dev).Sound := by
  cases isDimmable with
  | true => exact (castTo_deviceDimmable_sound_iff found).mpr agrees
  | false => exact castTo_deviceOnOff_sound found

end Sound

/-! ### What the handlers make of a cast

In the handlers a cast to `DeviceDimmable` goes to the object's part of that class, and one without
that part is undefined behaviour. So in any state of the tables, as long as its pointer leads to an
object, a handler is defined exactly if the casts listed for it are sound. -/

section Handlers

variable {bridge : Bridge D}

/-- The read callback. -/
theorem readCallback_defined_iff {endpoint : EndpointId} (path : AttributePath)
    (maxReadLength : Nat)
    (live : ∀ dev, bridge.gDevices (bridge.emberAfGetDynamicIndexFromEndpoint endpoint) = some dev →
      bridge.emberAfGetDynamicIndexFromEndpoint endpoint <
        CHIP_DEVICE_CONFIG_DYNAMIC_ENDPOINT_COUNT → ∃ object, bridge.objects dev = some object) :
    (emberAfExternalAttributeReadCallback endpoint path maxReadLength bridge).status ≠
        .undefinedBehaviour ↔
      ∀ cast ∈ bridge.readCasts endpoint path, cast.Sound := by
  unfold emberAfExternalAttributeReadCallback readDevice readCasts
  dsimp only
  split
  · rename_i inTable
    cases slot : bridge.gDevices (bridge.emberAfGetDynamicIndexFromEndpoint endpoint) with
    | none => exact iff_of_true Status.noConfusion (List.forall_mem_nil _)
    | some dev =>
      obtain ⟨object, found⟩ := live dev slot inTable
      dsimp only
      rw [found]
      cases path with
      | bridgedDeviceBasicInformation attributeId =>
        refine iff_of_true ?_ (List.forall_mem_nil _)
        simp only [handleReadBridgedDeviceBasicAttribute]
        split_ifs <;> exact Status.noConfusion
      | onOff attributeId =>
        refine iff_of_true ?_ (List.forall_mem_singleton.mpr (castTo_deviceOnOff_sound found))
        simp only [handleReadOnOffAttribute]
        split_ifs <;> exact Status.noConfusion
      | levelControl attributeId =>
        dsimp only
        rw [List.forall_mem_singleton, castTo_deviceDimmable_sound_iff found]
        cases object.dimmer with
        | none => exact iff_of_false (fun defined => defined rfl) Bool.false_ne_true
        | some dimmer =>
          refine iff_of_true ?_ rfl
          simp only [handleReadLevelControlAttribute]
          split_ifs <;> exact Status.noConfusion
      | temperatureMeasurement attributeId =>
        dsimp only
        rw [List.forall_mem_singleton, castTo_sound_iff found]
        exact iff_of_false (fun defined => defined rfl) (by simp)
      | other clusterId attributeId =>
        exact iff_of_true Status.noConfusion (List.forall_mem_nil _)
  · exact iff_of_true Status.noConfusion (List.forall_mem_nil _)

theorem handleWriteOnOffAttribute_defined (now : TimePoint) (dev : DevicePtr)
    (object : DeviceObject D) (attributeId : OnOffAttribute) (buffer : Buffer) :
    (handleWriteOnOffAttribute now dev object attributeId buffer bridge).2.status ≠
      .undefinedBehaviour := by
  unfold handleWriteOnOffAttribute
  split
  · dsimp only
    split <;> exact Status.noConfusion
  · exact Status.noConfusion

theorem handleWriteLevelControlAttribute_defined (now : TimePoint) (dev : DevicePtr)
    (object : DeviceObject D) (dimmer : Dimmer) (attributeId : LevelControlAttribute)
    (buffer : Buffer) :
    (handleWriteLevelControlAttribute now dev object dimmer attributeId buffer bridge).2.status ≠
      .undefinedBehaviour := by
  unfold handleWriteLevelControlAttribute
  split
  · dsimp only
    split
    · exact Status.noConfusion
    · split
      · exact Status.noConfusion
      · split <;> exact Status.noConfusion
  · exact Status.noConfusion

theorem handleWriteBridgedDeviceBasicAttribute_defined (dev : DevicePtr) (object : DeviceObject D)
    (attributeId : BridgedDeviceBasicAttribute) (buffer : Buffer) :
    (handleWriteBridgedDeviceBasicAttribute dev object attributeId buffer bridge).2.status ≠
      .undefinedBehaviour := by
  unfold handleWriteBridgedDeviceBasicAttribute
  split
  · exact Status.noConfusion
  · dsimp only
    split <;> exact Status.noConfusion

/-- The write callback, which does not check the slot. -/
theorem writeCallback_defined_iff {endpoint : EndpointId} (now : TimePoint) (path : AttributePath)
    (buffer : Buffer)
    (live : bridge.emberAfGetDynamicIndexFromEndpoint endpoint <
      CHIP_DEVICE_CONFIG_DYNAMIC_ENDPOINT_COUNT → ∃ dev object,
        bridge.gDevices (bridge.emberAfGetDynamicIndexFromEndpoint endpoint) = some dev ∧
          bridge.objects dev = some object) :
    (emberAfExternalAttributeWriteCallback now endpoint path buffer bridge).2.status ≠
        .undefinedBehaviour ↔
      ∀ cast ∈ bridge.writeCasts endpoint path, cast.Sound := by
  unfold emberAfExternalAttributeWriteCallback writeDevice writeCasts
  dsimp only
  split
  · rename_i inTable
    obtain ⟨dev, object, slot, found⟩ := live inTable
    rw [slot]
    dsimp only
    rw [found, Option.any_some]
    dsimp only
    cases object.isReachable with
    | false => exact iff_of_true Status.noConfusion (List.forall_mem_nil _)
    | true =>
      rw [if_pos rfl, if_pos rfl]
      cases path with
      | onOff attributeId =>
        exact iff_of_true (handleWriteOnOffAttribute_defined now dev object attributeId buffer)
          (List.forall_mem_singleton.mpr (castTo_deviceOnOff_sound found))
      | levelControl attributeId =>
        dsimp only
        rw [List.forall_mem_singleton, castTo_deviceDimmable_sound_iff found]
        cases object.dimmer with
        | none => exact iff_of_false (fun defined => defined rfl) Bool.false_ne_true
        | some dimmer =>
          exact iff_of_true (handleWriteLevelControlAttribute_defined now dev object dimmer
            attributeId buffer) rfl
      | bridgedDeviceBasicInformation attributeId =>
        exact iff_of_true (handleWriteBridgedDeviceBasicAttribute_defined dev object attributeId
          buffer) (List.forall_mem_nil _)
      | temperatureMeasurement attributeId =>
        exact iff_of_true Status.noConfusion (List.forall_mem_nil _)
      | other clusterId attributeId =>
        exact iff_of_true Status.noConfusion (List.forall_mem_nil _)
  · exact iff_of_true Status.noConfusion (List.forall_mem_nil _)

/-- The event handler needs a dimmer exactly for a level of an online dimmable light. -/
theorem handleEventOnLight_isSome_iff (now : TimePoint) (ctx : WemoEventContext)
    (entry : BridgedWemoLight) (dev : DeviceObject D) :
    (handleEventOnLight now ctx entry dev).isSome = true ↔ (ctx.isOnline = true →
      entry.isDimmable = true ∧ ctx.level ≥ 0 → dev.dimmer.isSome = true) := by
  have sameDimmer := Light.reached_dimmer ctx dev
  unfold handleEventOnLight
  rw [← Light.reached]
  generalize Light.reached ctx dev = reached at sameDimmer ⊢
  dsimp only
  rw [Light.handleEventOnOff_isDimmable, Light.handleEventOnOff_dimmer, sameDimmer]
  cases ctx.isOnline with
  | false => exact iff_of_true rfl (fun online => by cases online)
  | true =>
    rw [if_pos rfl]
    by_cases dims : entry.isDimmable = true ∧ ctx.level ≥ 0
    · rw [if_pos dims]
      cases dev.dimmer with
      | none =>
        exact iff_of_false Bool.false_ne_true fun needs => Bool.false_ne_true (needs rfl dims)
      | some dimmer => exact iff_of_true rfl fun _ _ => rfl
    · rw [if_neg dims]
      exact iff_of_true rfl fun _ level => absurd level dims

/-- The event handler, which goes by the flag of the entry. -/
theorem eventHandler_defined_iff (now : TimePoint) (ctx : WemoEventContext)
    (live : ∀ entry ∈ bridge.gBridgedWemoLights,
      ∃ object, bridge.objects entry.device = some object) :
    (handleWemoEventOnMatterThread now ctx bridge).2.status ≠ .undefinedBehaviour ↔
      ∀ cast ∈ bridge.eventCasts ctx, cast.Sound := by
  unfold handleWemoEventOnMatterThread eventCasts
  cases first : bridge.gBridgedWemoLights.find? (·.wemoId = ctx.wemoId) with
  | none => exact iff_of_true Status.noConfusion (List.forall_mem_nil _)
  | some entry =>
    obtain ⟨object, found⟩ := live entry (List.mem_of_find?_eq_some first)
    have sound : (∀ cast ∈ (if ctx.isOnline then
          bridge.castTo .deviceOnOff entry.device ::
            if entry.isDimmable ∧ ctx.level ≥ 0 then [bridge.castTo .deviceDimmable entry.device]
            else []
        else []), cast.Sound) ↔ (handleEventOnLight now ctx entry object).isSome = true := by
      rw [handleEventOnLight_isSome_iff]
      cases ctx.isOnline with
      | false => exact iff_of_true (List.forall_mem_nil _) (fun online => by cases online)
      | true =>
        rw [if_pos rfl, List.forall_mem_cons]
        by_cases dims : entry.isDimmable = true ∧ ctx.level ≥ 0
        · rw [if_pos dims, List.forall_mem_singleton, castTo_deviceDimmable_sound_iff found]
          exact ⟨fun both _ _ => both.2,
            fun needs => ⟨castTo_deviceOnOff_sound found, needs rfl dims⟩⟩
        · rw [if_neg dims]
          exact iff_of_true ⟨castTo_deviceOnOff_sound found, List.forall_mem_nil _⟩
            fun _ level => absurd level dims
    dsimp only
    rw [sound, found]
    dsimp only
    cases handleEventOnLight now ctx entry object with
    | none => exact iff_of_false (fun defined => defined rfl) Bool.false_ne_true
    | some after => exact iff_of_true Status.noConfusion rfl

end Handlers

/-! ### The casts of a step are sound -/

section Step

variable {bridge : Bridge D} (published : bridge.Published)

include published

/-- A declared cluster is one of a published light, whose object agrees with its endpoint type. -/
theorem Published.declared_light {endpoint : EndpointId} {cluster : Cluster}
    (declared : bridge.declares endpoint cluster = true) :
    ∃ x object, bridge.Publishes x ∧
      bridge.emberAfGetDynamicIndexFromEndpoint endpoint = x.index ∧
      bridge.objects x.device = some object ∧ object.dimmer.isSome = x.isDimmable ∧
      cluster ∈ (endpointTypeOf x.isDimmable).clusters := by
  obtain ⟨index, found, inType⟩ := (Option.any_eq_true _ _).mp declared
  obtain ⟨x, ofX, rfl, -⟩ := published.exists_of_dynamicIndex? found
  obtain ⟨light, atDevice, backs⟩ := ofX.light
  rw [ofX.registered, Option.any_some, decide_eq_true_eq] at inType
  refine ⟨x, light.object, ofX, ?_, (lightAt_eq_some.mp atDevice).2, backs.dimmer, inType⟩
  rw [emberAfGetDynamicIndexFromEndpoint, found, Option.getD_some]

/-- A declared cluster leads the read callback to sound casts. -/
theorem Published.readCasts_sound {endpoint : EndpointId} {path : AttributePath}
    (declared : bridge.declares endpoint path.cluster = true) :
    ∀ cast ∈ bridge.readCasts endpoint path, cast.Sound := by
  obtain ⟨x, object, ofX, index, found, isDimmer, inType⟩ := published.declared_light declared
  intro cast member
  simp only [readCasts, index, if_pos ofX.index_lt, ofX.slot] at member
  cases path with
  | bridgedDeviceBasicInformation attributeId => cases member
  | onOff attributeId =>
    rw [List.mem_singleton.mp member]
    exact castTo_deviceOnOff_sound found
  | levelControl attributeId =>
    rw [List.mem_singleton.mp member]
    exact (castTo_deviceDimmable_sound_iff found).mpr
      (isDimmer.trans (levelControl_declared inType))
  | temperatureMeasurement attributeId => exact absurd inType temperatureMeasurement_undeclared
  | other clusterId attributeId => cases member

/-- So it does with the write callback. -/
theorem Published.writeCasts_sound {endpoint : EndpointId} {path : AttributePath}
    (declared : bridge.declares endpoint path.cluster = true) :
    ∀ cast ∈ bridge.writeCasts endpoint path, cast.Sound := by
  obtain ⟨x, object, ofX, index, found, isDimmer, inType⟩ := published.declared_light declared
  intro cast member
  simp only [writeCasts, index, if_pos ofX.index_lt, ofX.slot] at member
  split at member
  · cases path with
    | bridgedDeviceBasicInformation attributeId => cases member
    | onOff attributeId =>
      rw [List.mem_singleton.mp member]
      exact castTo_deviceOnOff_sound found
    | levelControl attributeId =>
      rw [List.mem_singleton.mp member]
      exact (castTo_deviceDimmable_sound_iff found).mpr
        (isDimmer.trans (levelControl_declared inType))
    | temperatureMeasurement attributeId => cases member
    | other clusterId attributeId => cases member
  · cases member

/-- The flag of an entry agrees with the object it points to. -/
theorem Published.entry_agrees {entry : BridgedWemoLight}
    (member : entry ∈ bridge.gBridgedWemoLights) :
    ∃ object, bridge.objects entry.device = some object ∧
      object.dimmer.isSome = entry.isDimmable := by
  obtain ⟨x, ofX, device⟩ := published.light_of_entry entry member
  obtain ⟨light, found, backs⟩ := ofX.light
  obtain ⟨byDevice, object⟩ := lightAt_eq_some.mp found
  have same : light.entry = entry := by
    rw [device, find?_key_of_mem published.devices_nodup member] at byDevice
    exact (Option.some.inj byDevice).symm
  refine ⟨light.object, device ▸ object, ?_⟩
  rw [backs.dimmer, ← backs.isDimmable, same]

/-- The casts of the event handler go by the flag of the entry. -/
theorem Published.eventCasts_sound (ctx : WemoEventContext) :
    ∀ cast ∈ bridge.eventCasts ctx, cast.Sound := by
  intro cast member
  unfold eventCasts at member
  cases first : bridge.gBridgedWemoLights.find? (·.wemoId = ctx.wemoId) with
  | none =>
    rw [first] at member
    cases member
  | some entry =>
    obtain ⟨object, found, agrees⟩ := published.entry_agrees (List.mem_of_find?_eq_some first)
    simp only [first] at member
    split at member
    · rcases List.mem_cons.mp member with rfl | member
      · exact castTo_deviceOnOff_sound found
      · split at member
        · rename_i dims
          rw [List.mem_singleton.mp member]
          exact (castTo_deviceDimmable_sound_iff found).mpr (agrees.trans dims.1)
        · cases member
    · cases member

/-- **The casts of a step are sound** in every published bridge whose slot after the dynamic ones is
empty. -/
theorem Published.casts_sound
    (noPowerSource : bridge.gDevices CHIP_DEVICE_CONFIG_DYNAMIC_ENDPOINT_COUNT = none)
    (input : TimePoint × Input) : ∀ cast ∈ bridge.casts input, cast.Sound := by
  intro cast member
  obtain ⟨now, input⟩ := input
  cases input with
  | write endpoint path buffer =>
    rw [casts] at member
    split at member
    · rename_i declared
      exact published.writeCasts_sound declared cast member
    · cases member
  | read endpoint path maxReadLength =>
    rcases List.mem_append.mp member with powerSource | callback
    · rw [powerSourceCasts, noPowerSource] at powerSource
      split at powerSource <;> cases powerSource
    · split at callback
      · rename_i declared
        exact published.readCasts_sound declared cast callback
      · cases callback
  | event ctx => exact published.eventCasts_sound ctx cast member

end Step

end Bridge

/-! ### No step is undefined -/

namespace Bridge

variable {bridge : Bridge D}

/-- **No step of a published bridge is undefined**: its handler finds its objects alive, and every
cast it makes is sound. -/
theorem Published.step_defined (published : bridge.Published) (now : TimePoint) (input : Input) :
    (bridge.step (now, input)).2.status ≠ .undefinedBehaviour := by
  cases input with
  | write endpoint path buffer =>
    rw [Bridge.step]
    split
    · rename_i declared
      obtain ⟨x, object, ofX, index, found, -⟩ := published.declared_light declared
      refine (writeCallback_defined_iff now path buffer fun _ => ?_).mpr
        (published.writeCasts_sound declared)
      exact ⟨x.device, object, index ▸ ofX.slot, found⟩
    · exact Status.noConfusion
  | read endpoint path maxReadLength =>
    rw [Bridge.step]
    split
    · rename_i declared
      obtain ⟨x, object, ofX, index, found, -⟩ := published.declared_light declared
      refine (readCallback_defined_iff path maxReadLength fun dev slot _ => ?_).mpr
        (published.readCasts_sound declared)
      rw [index, ofX.slot] at slot
      exact ⟨object, Option.some.inj slot ▸ found⟩
    · exact Status.noConfusion
  | event ctx =>
    refine (eventHandler_defined_iff now ctx fun entry member => ?_).mpr
      (published.eventCasts_sound ctx)
    obtain ⟨object, found, -⟩ := published.entry_agrees member
    exact ⟨object, found⟩

/-- No step changes the device table. -/
theorem Published.step_gDevices (published : bridge.Published) (now : TimePoint) (input : Input) :
    (bridge.step (now, input)).1.gDevices = bridge.gDevices := by
  rcases published.step_cases now input with ⟨-, stepEq⟩ | ⟨x, light, -, -, -, -, stepEq⟩
  · rw [stepEq]
  · rw [stepEq]
    rfl

/-- No step makes or destroys an object, and every object keeps its class. -/
theorem Published.step_constructedAs (published : bridge.Published) (now : TimePoint)
    (input : Input) (dev : DevicePtr) :
    ((bridge.step (now, input)).1.objects dev).map DeviceObject.constructedAs =
      (bridge.objects dev).map DeviceObject.constructedAs := by
  rcases published.step_cases now input with ⟨-, stepEq⟩ | ⟨x, light, -, -, found, -, stepEq⟩
  · rw [stepEq]
  · rw [stepEq]
    show (Function.update bridge.objects x.device (some (light.step now input).1.object) dev).map
      DeviceObject.constructedAs = _
    by_cases here : dev = x.device
    · rw [here, Function.update_self, (lightAt_eq_some.mp found).2, Option.map_some,
        Option.map_some, DeviceObject.constructedAs, (light.step_static now input).dimmer]
      rfl
    · rw [Function.update_of_ne here]

/-- **The class of an object is the one `ApplicationInit` made it as**, after every run. -/
theorem Published.run_constructedAs (published : bridge.Published)
    (inputs : List (TimePoint × Input)) (dev : DevicePtr) :
    (((bridgeMachine D).run bridge inputs).objects dev).map DeviceObject.constructedAs =
      (bridge.objects dev).map DeviceObject.constructedAs := by
  refine (Machine.run_invariant (bridgeMachine D) (fun state : Bridge D => state.Published ∧
    (state.objects dev).map DeviceObject.constructedAs =
      (bridge.objects dev).map DeviceObject.constructedAs) ?_ inputs ⟨published, rfl⟩).2
  rintro state ⟨now, input⟩ ⟨publishedNow, sameClass⟩
  exact ⟨publishedNow.step now input,
    (publishedNow.step_constructedAs now input dev).trans sameClass⟩

/-- **Every cast of a run is sound**, and no step of it is undefined. -/
theorem Published.run_casts_sound (published : bridge.Published)
    (noPowerSource : bridge.gDevices CHIP_DEVICE_CONFIG_DYNAMIC_ENDPOINT_COUNT = none)
    (inputs : List (TimePoint × Input)) :
    (bridgeMachine D).Along (fun state input => (∀ cast ∈ state.casts input, cast.Sound) ∧
      (state.step input).2.status ≠ .undefinedBehaviour) bridge inputs := by
  refine Machine.along_of_invariant (fun state : Bridge D => state.Published ∧
    state.gDevices CHIP_DEVICE_CONFIG_DYNAMIC_ENDPOINT_COUNT = none) ?_ ?_ inputs
    ⟨published, noPowerSource⟩
  · rintro state ⟨now, input⟩ ⟨publishedNow, noneNow⟩
    refine ⟨publishedNow.step now input, ?_⟩
    exact (congrFun (publishedNow.step_gDevices now input) _).trans noneNow
  · rintro state ⟨now, input⟩ ⟨publishedNow, noneNow⟩
    exact ⟨publishedNow.casts_sound noneNow (now, input), publishedNow.step_defined now input⟩

end Bridge

/-! ### The casts of `ApplicationInit` are sound -/

omit [ChipSdk D] in
theorem installChangeCallback_isSome (isDimmable : Bool) (dev : DeviceObject D) :
    (installChangeCallback isDimmable dev).dimmer.isSome = dev.dimmer.isSome := by
  unfold installChangeCallback
  split
  · cases isDimmer : dev.dimmer with
    | none => simp [isDimmer]
    | some dimmer => rfl
  · rfl

section Turn

variable {bridge : Bridge D} {first : EndpointId} {ids : Nat → EndpointId}
  {lights : List (WemoDevice × DevicePtr)} {refuses : EndpointId → Bool} {heap : Allocator}

/-- **The cast of a turn is sound**: the last entry is the device's, and its object was made by its
flag. -/
theorem Bridge.Arranged.publishDeviceCasts_sound (arranged : bridge.Arranged first ids lights)
    (notFull : lights.length < CHIP_DEVICE_CONFIG_DYNAMIC_ENDPOINT_COUNT) (dev : WemoDevice) :
    ∀ cast ∈ publishDeviceCasts heap refuses dev bridge, cast.Sound := by
  have turn := @Bridge.Arranged.turn D _ _ _ _ _ refuses arranged notFull dev _
    (arranged.address_fresh heap)
  unfold publishDeviceCasts offerDevice
  dsimp only
  generalize heap.address (bridge.gBridgedWemoLights.map (·.device)) = device at turn ⊢
  cases found : firstUnheld (heldBelow ids lights.length) first (2 ^ 16)
      bridge.gCurrentEndpointId with
  | none =>
    rw [found] at turn
    rw [turn]
    exact List.forall_mem_nil _
  | some id =>
    rw [found] at turn
    obtain ⟨added, adds, -, result⟩ := turn
    rw [adds]
    show ∀ cast ∈ finishCasts added, cast.Sound
    by_cases refused : refuses id
    · rw [if_pos refused] at result
      rw [finishCasts, result.1, if_pos (by decide)]
      exact List.forall_mem_nil _
    · rw [if_neg refused] at result
      obtain ⟨slot, after⟩ := result
      have nonnegative : ¬ added.2 < 0 := by omega
      have last : added.1.gBridgedWemoLights.getLast? = some (newEntry dev device) := by
        have entries := after.entries
        rw [finishPublish, if_neg nonnegative, List.map_append] at entries
        rw [show added.1.gBridgedWemoLights = _ from entries]
        exact List.getLast?_concat
      obtain ⟨object, stored, seeded⟩ := after.objects lights.length (dev, device) (by simp)
      rw [finishPublish, if_neg nonnegative] at stored
      obtain ⟨made, atDevice, installed⟩ :
          ∃ made, added.1.objects device = some made ∧
            installChangeCallback dev.supportsLevel made = object := by
        simpa [Bridge.changeObject] using stored
      rw [finishCasts, if_neg nonnegative, last]
      refine List.forall_mem_singleton.mpr (Bridge.castTo_flag_sound atDevice ?_)
      rw [← installChangeCallback_isSome dev.supportsLevel, installed, seeded.dimmer]
      show _ = dev.supportsLevel
      cases dev.supportsLevel <;> rfl

/-- A loop that starts full casts nothing. -/
theorem publishLoopCasts_full {refuses : Nat → EndpointId → Bool} {start : Bridge D}
    (full : start.gBridgedWemoLights.length ≥ CHIP_DEVICE_CONFIG_DYNAMIC_ENDPOINT_COUNT)
    (devices : List WemoDevice) (call : Nat) :
    publishLoopCasts heap refuses call devices start = [] := by
  induction devices with
  | nil => rfl
  | cons dev rest ih => rw [publishLoopCasts, if_pos full, ih]

/-- **The casts of the publish loop are those of its turns.** -/
theorem mem_publishLoopCasts_iff {refuses : Nat → EndpointId → Bool} {cast : Cast}
    (devices : List WemoDevice) : ∀ {call : Nat} {start : Bridge D},
      cast ∈ publishLoopCasts heap refuses call devices start ↔
        ∃ turn dev before, OffersAt heap refuses call devices start turn dev before ∧
          cast ∈ publishDeviceCasts heap (refuses (call + turn)) dev before := by
  induction devices with
  | nil =>
    intro call start
    refine iff_of_false (List.not_mem_nil) ?_
    rintro ⟨turn, dev, before, offers, -⟩
    cases offers.listed
  | cons dev rest ih =>
    intro call start
    by_cases full : start.gBridgedWemoLights.length ≥ CHIP_DEVICE_CONFIG_DYNAMIC_ENDPOINT_COUNT
    · rw [publishLoopCasts_full full]
      refine iff_of_false (List.not_mem_nil) ?_
      rintro ⟨turn, dev, before, offers, -⟩
      exact not_offersAt_of_full full offers
    · rw [publishLoopCasts, if_neg full, List.mem_append]
      constructor
      · rintro (here | later)
        · exact ⟨0, dev, start, (offersAt_zero_iff full).mpr ⟨rfl, rfl⟩, here⟩
        · cases turns : publishDevice heap (refuses call) dev start with
          | none =>
            rw [turns] at later
            cases later
          | some next =>
            rw [turns] at later
            obtain ⟨turn, other, before, offers, made⟩ := ih.mp later
            rw [Nat.add_assoc, Nat.add_comm 1] at made
            exact ⟨turn + 1, other, before, (offersAt_succ_iff full).mpr ⟨next, turns, offers⟩,
              made⟩
      · rintro ⟨turn, other, before, offers, made⟩
        cases turn with
        | zero =>
          obtain ⟨rfl, rfl⟩ := (offersAt_zero_iff full).mp offers
          exact Or.inl made
        | succ turn =>
          obtain ⟨next, turns, offersNext⟩ := (offersAt_succ_iff full).mp offers
          refine Or.inr ?_
          rw [turns]
          refine ih.mpr ⟨turn, other, before, offersNext, ?_⟩
          rwa [Nat.add_assoc, Nat.add_comm 1]

/-- **The casts of the publish loop are sound.** -/
theorem publishLoopCasts_sound {refuses : Nat → EndpointId → Bool} {start : Bridge D} {plan : Plan}
    (realizes : start.Realizes first plan) (devices : List WemoDevice) :
    ∀ cast ∈ publishLoopCasts heap refuses 0 devices start, cast.Sound := by
  intro cast member
  obtain ⟨turn, dev, before, offers, made⟩ := (mem_publishLoopCasts_iff devices).mp member
  have refined := @publishLoop_refines D _ first heap refuses (devices.take turn) 0 start plan
    realizes
  rw [offers.reached] at refined
  generalize plan.publishAll first refuses 0 (devices.take turn) = planned at refined
  cases refined with
  | some reached =>
    have notFull := offers.notFull
    rw [reached.length_entries, not_le] at notFull
    obtain ⟨-, lights, lightDevices, arranged⟩ := reached
    rw [← lightDevices, List.length_map] at notFull
    exact arranged.publishDeviceCasts_sound notFull dev cast made

end Turn

/-! ### The program -/

/-- **Every downcast is to the object's class.** For every discovered list and whatever the SDK
refuses, the casts of `ApplicationInit` are sound, and so is every cast of every later run: none of
its handlers, which are undefined behaviour on an object without the class they need, ever is. The
class of an object is the one `ApplicationInit` made it as. -/
theorem every_downcast_sound (heap : Allocator) (lastFixed : EndpointId)
    (refuses : Nat → EndpointId → Bool) (discovered : List WemoDevice) :
    (∀ cast ∈ applicationInitCasts D heap lastFixed refuses discovered, cast.Sound) ∧
      ∀ bridge : Bridge D, applicationInit heap lastFixed refuses discovered = some bridge →
        ∀ inputs : List (TimePoint × Input),
          (bridgeMachine D).Along (fun state input => (∀ cast ∈ state.casts input, cast.Sound) ∧
            (state.step input).2.status ≠ .undefinedBehaviour) bridge inputs ∧
          ∀ dev, (((bridgeMachine D).run bridge inputs).objects dev).map
              DeviceObject.constructedAs =
            (bridge.objects dev).map DeviceObject.constructedAs := by
  refine ⟨publishLoopCasts_sound (resetBridge_realizes lastFixed) _, fun bridge starts inputs => ?_⟩
  obtain ⟨plan, lights, -, -, arranged⟩ := applicationInit_arranged starts
  have published := arranged.started.published
  refine ⟨published.run_casts_sound ?_ inputs, fun dev => published.run_constructedAs inputs dev⟩
  rw [arranged.slots, List.getElem?_eq_none arranged.count_le]
  rfl

/-- The sample home is made with a cast for each of its two lights, and casts its dimmer once more
when its level is read; the read is answered. -/
theorem every_downcast_sound_sample :
    (∀ cast ∈ sampleHome.casts (0, .read 3 (.levelControl .currentLevel) 1), cast.Sound) ∧
      (sampleHome.step (0, .read 3 (.levelControl .currentLevel) 1)).2.status ≠
        .undefinedBehaviour ∧
      sampleHome.casts (0, .read 3 (.levelControl .currentLevel) 1) =
        [{ target := .deviceDimmable, constructedAs := some .deviceDimmable }] ∧
      applicationInitCasts PlainDevice nextAddress 2 refusesInvalid sampleDevices =
        [{ target := .deviceDimmable, constructedAs := some .deviceDimmable },
          { target := .deviceOnOff, constructedAs := some .deviceOnOff }] := by
  obtain ⟨run, -⟩ := (every_downcast_sound nextAddress 2 refusesInvalid sampleDevices).2 sampleHome
    sampleHome_starts [(0, .read 3 (.levelControl .currentLevel) 1)]
  exact ⟨run.1.1, run.1.2, by decide, by decide⟩

end WemoBridge
