/-
**The bridge's tables and its attribute and event handlers.**

`Bridge` is the global state of `main.cpp`: the device table, the published lights, the map from
device to UDN, the device objects on the heap, and the SDK's table of dynamic endpoints. A handler
takes the state to the state and a `Reply`: the status it returns, the value it read, the commands
whose dispatch threads it started and the change reports it scheduled.

A handler runs on the Matter thread at one time `now`; the second clock reading of a write handler,
taken a few instructions after the first, is the same `now`.
-/

import WemoBridge.Device
import WemoBridge.Library.ListSearch
import WemoBridge.Library.Machine

namespace WemoBridge

open Library

/-- The address of a device object. -/
abbrev DevicePtr := Nat

structure BridgedWemoLight where
  wemoId : Int
  udn : CppString
  isDimmable : Bool
  device : DevicePtr
  /-- -1 = no pending command, 0 = OFF, 1 = ON -/
  commandedOnOff : Int := -1
  /-- -1 = no pending command, else the level -/
  commandedLevel : Int := -1
  commandedOnOffUntil : TimePoint := 0
  commandedLevelUntil : TimePoint := 0
  deriving DecidableEq, Repr

namespace BridgedWemoLight

/-- An expired OnOff marker is cleared. -/
def clearExpiredOnOff (now : TimePoint) (entry : BridgedWemoLight) : BridgedWemoLight :=
  if entry.commandedOnOff ≥ 0 ∧ now > entry.commandedOnOffUntil then
    { entry with commandedOnOff := -1 } else entry

/-- An expired level marker is cleared. -/
def clearExpiredLevel (now : TimePoint) (entry : BridgedWemoLight) : BridgedWemoLight :=
  if entry.commandedLevel ≥ 0 ∧ now > entry.commandedLevelUntil then
    { entry with commandedLevel := -1 } else entry

end BridgedWemoLight

/-- A filled slot of the SDK's dynamic endpoint table. -/
structure DynamicEndpoint where
  endpointId : EndpointId
  endpointType : EndpointType
  deriving DecidableEq, Repr

structure Bridge (D : Type) where
  gDevices : Nat → Option DevicePtr
  gCurrentEndpointId : EndpointId
  gFirstDynamicEndpointId : EndpointId
  gBridgedWemoLights : List BridgedWemoLight
  gWemoDeviceToUdn : DevicePtr → Option CppString
  /-- the device objects on the heap -/
  objects : DevicePtr → Option (DeviceObject D)
  /-- the SDK's dynamic endpoint slots -/
  dynamicEndpoints : Nat → Option DynamicEndpoint

/-- A command handed to a detached dispatch thread. -/
inductive Command where
  | setOnOff (udn : CppString) (on : Bool)
  | setLevelPercent (udn : CppString) (percent : UInt8)
  deriving DecidableEq, Repr

/-- The UDN a command is for. -/
def Command.udn : Command → CppString
  | .setOnOff udn _ => udn
  | .setLevelPercent udn _ => udn

/-- What a step of the bridge answers and sets off. -/
structure Reply where
  status : Status
  value : Option AttributeValue := none
  dispatched : List Command := []
  reported : List Report := []
  deriving DecidableEq, Repr

def Reply.undefinedBehaviour : Reply := { status := .undefinedBehaviour }

/-- `WemoEventContext` -/
structure WemoEventContext where
  wemoId : Int
  isOnline : Bool
  state : Int
  /-- 0-100 or -1 -/
  level : Int
  deriving DecidableEq, Repr

variable {D : Type}

namespace Bridge

/-- Write an object back to the heap. -/
def store (bridge : Bridge D) (dev : DevicePtr) (object : DeviceObject D) : Bridge D :=
  { bridge with objects := Function.update bridge.objects dev (some object) }

/-- The loop over `gBridgedWemoLights` that changes the entry of a device. -/
def changeEntry (bridge : Bridge D) (dev : DevicePtr)
    (change : BridgedWemoLight → BridgedWemoLight) : Bridge D :=
  { bridge with
    gBridgedWemoLights := modifyFirst (·.device = dev) change bridge.gBridgedWemoLights }

/-- The slot filled with an endpoint id. -/
def dynamicIndex? (bridge : Bridge D) (endpoint : EndpointId) : Option Nat :=
  (List.range CHIP_DEVICE_CONFIG_DYNAMIC_ENDPOINT_COUNT).find? fun index =>
    (bridge.dynamicEndpoints index).any (·.endpointId = endpoint)

/-- `emberAfGetDynamicIndexFromEndpoint`: the slot, or the invalid index. -/
def emberAfGetDynamicIndexFromEndpoint (bridge : Bridge D) (endpoint : EndpointId) : Nat :=
  (bridge.dynamicIndex? endpoint).getD 0xFFFF

end Bridge

variable [ChipSdk D]

/-! ### Reads -/

/-- `HandleReadBridgedDeviceBasicAttribute` -/
def handleReadBridgedDeviceBasicAttribute (dev : DeviceObject D)
    (attributeId : BridgedDeviceBasicAttribute) (maxReadLength : Nat) : Reply :=
  if attributeId = .reachable ∧ maxReadLength = 1 then
    { status := .success, value := some (.uint8 (if dev.isReachable then 1 else 0)) }
  else if attributeId = .nodeLabel ∧ maxReadLength = 32 then
    { status := .success
      value := some (.bytes (ChipSdk.makeZclCharString D maxReadLength (cStr dev.getName))) }
  else if attributeId = .uniqueId ∧ maxReadLength = 32 then
    { status := .success
      value := some (.bytes
        (ChipSdk.makeZclCharString D maxReadLength (cStr (ChipSdk.getUniqueId dev.base)))) }
  else if attributeId = .configurationVersion ∧ maxReadLength = 4 then
    { status := .success, value := some (.uint32 (ChipSdk.getConfigurationVersion dev.base)) }
  else if attributeId = .clusterRevision ∧ maxReadLength = 2 then
    { status := .success, value := some (.uint16 2) }
  else if attributeId = .featureMap ∧ maxReadLength = 4 then
    { status := .success, value := some (.uint32 0) }
  else { status := .failure }

/-- `HandleReadOnOffAttribute` -/
def handleReadOnOffAttribute (dev : DeviceObject D) (attributeId : OnOffAttribute)
    (maxReadLength : Nat) : Reply :=
  if attributeId = .onOff ∧ maxReadLength = 1 then
    { status := .success, value := some (.uint8 (if dev.isOn then 1 else 0)) }
  else if attributeId = .clusterRevision ∧ maxReadLength = 2 then
    { status := .success, value := some (.uint16 4) }
  else { status := .failure }

/-- `HandleReadLevelControlAttribute`, on the `DeviceDimmable` part of the object. -/
def handleReadLevelControlAttribute (dimmer : Dimmer) (attributeId : LevelControlAttribute)
    (maxReadLength : Nat) : Reply :=
  if attributeId = .currentLevel ∧ maxReadLength = 1 then
    { status := .success, value := some (.uint8 dimmer.mLevel) }
  else if attributeId = .minLevel ∧ maxReadLength = 1 then
    { status := .success, value := some (.uint8 1) }
  else if attributeId = .maxLevel ∧ maxReadLength = 1 then
    { status := .success, value := some (.uint8 254) }
  else if attributeId = .clusterRevision ∧ maxReadLength = 2 then
    { status := .success, value := some (.uint16 6) }
  else if attributeId = .featureMap ∧ maxReadLength = 4 then
    { status := .success, value := some (.uint32 3) }
  else { status := .failure }

/-- The read callback on the object it found. -/
def readDevice (object : DeviceObject D) (path : AttributePath) (maxReadLength : Nat) : Reply :=
  match path with
  | .bridgedDeviceBasicInformation attributeId =>
      handleReadBridgedDeviceBasicAttribute object attributeId maxReadLength
  | .onOff attributeId => handleReadOnOffAttribute object attributeId maxReadLength
  | .levelControl attributeId =>
      -- static_cast<DeviceDimmable *>(dev)
      match object.dimmer with
      | none => .undefinedBehaviour
      | some dimmer => handleReadLevelControlAttribute dimmer attributeId maxReadLength
  | .temperatureMeasurement _ =>
      -- static_cast<DeviceTempSensor *>(dev): no object of the bridge has that class
      .undefinedBehaviour
  | .other _ _ => { status := .failure }

/-- `emberAfExternalAttributeReadCallback` -/
def emberAfExternalAttributeReadCallback (endpoint : EndpointId) (path : AttributePath)
    (maxReadLength : Nat) (bridge : Bridge D) : Reply :=
  let endpointIndex := bridge.emberAfGetDynamicIndexFromEndpoint endpoint
  if endpointIndex < CHIP_DEVICE_CONFIG_DYNAMIC_ENDPOINT_COUNT then
    match bridge.gDevices endpointIndex with
    | none => { status := .failure }
    | some dev =>
      match bridge.objects dev with
      | none => .undefinedBehaviour
      | some object => readDevice object path maxReadLength
  else { status := .failure }

/-! ### Writes -/

/-- `HandleWriteOnOffAttribute` -/
def handleWriteOnOffAttribute (now : TimePoint) (dev : DevicePtr) (object : DeviceObject D)
    (attributeId : OnOffAttribute) (buffer : Buffer) (bridge : Bridge D) : Bridge D × Reply :=
  if attributeId = .onOff ∧ object.isReachable = true then
    let targetOn := decide (buffer 0 ≠ 0)
    let updated := object.setOnOff targetOn
    let bridge := bridge.store dev updated.1
    match bridge.gWemoDeviceToUdn dev with
    | none => (bridge, { status := .success, reported := updated.2 })
    | some udn =>
      (bridge.changeEntry dev fun entry =>
        { entry with
          commandedOnOff := if targetOn then 1 else 0
          commandedOnOffUntil := now + kCommandSettleWindow },
        { status := .success, dispatched := [.setOnOff udn targetOn], reported := updated.2 })
  else (bridge, { status := .failure })

/-- Matter 0-254 to WeMo 0-100, truncating, and at least 1 for a level above 0. -/
def wemoPercentOf (matterLevel : UInt8) : UInt8 :=
  let wemoPercent := UInt8.ofNat (matterLevel.toNat * 100 / 254)
  if matterLevel > 0 ∧ wemoPercent = 0 then 1 else wemoPercent

/-- `HandleWriteLevelControlAttribute`, on an object with a `DeviceDimmable` part. -/
def handleWriteLevelControlAttribute (now : TimePoint) (dev : DevicePtr) (object : DeviceObject D)
    (dimmer : Dimmer) (attributeId : LevelControlAttribute) (buffer : Buffer) (bridge : Bridge D) :
    Bridge D × Reply :=
  if attributeId = .currentLevel ∧ object.isReachable = true then
    let matterLevel := buffer 0
    let bridge := bridge.changeEntry dev (·.clearExpiredOnOff now)
    let matched := bridge.gBridgedWemoLights.find? (·.device = dev)
    if matched.any fun entry => entry.commandedOnOff ≥ 0 ∧ now ≤ entry.commandedOnOffUntil then
      (bridge, { status := .success })
    else if matched.any fun entry => entry.commandedOnOff < 0 ∧ matterLevel ≤ 1 then
      (bridge, { status := .success })
    else
      let updated := object.setLevel dimmer matterLevel
      let bridge := bridge.store dev updated.1
      match bridge.gWemoDeviceToUdn dev with
      | none => (bridge, { status := .success, reported := updated.2 })
      | some udn =>
        (bridge.changeEntry dev fun entry =>
          { entry with
            commandedLevel := matterLevel.toNat
            commandedLevelUntil := now + kCommandSettleWindow },
          { status := .success
            dispatched := [.setLevelPercent udn (wemoPercentOf matterLevel)]
            reported := updated.2 })
  else (bridge, { status := .failure })

/-- `kNodeLabelSize` -/
def kNodeLabelSize : Nat := 32

/-- `HandleWriteBridgedDeviceBasicAttribute` -/
def handleWriteBridgedDeviceBasicAttribute (dev : DevicePtr) (object : DeviceObject D)
    (attributeId : BridgedDeviceBasicAttribute) (buffer : Buffer) (bridge : Bridge D) :
    Bridge D × Reply :=
  if attributeId ≠ .nodeLabel then (bridge, { status := .unsupportedWrite })
  else
    let nameSpan := ChipSdk.fromZclString D buffer
    if nameSpan.length > kNodeLabelSize then (bridge, { status := .constraintError })
    else
      let updated := object.setName (cStr nameSpan)
      (bridge.store dev updated.1,
        { status := .success
          reported := updated.2 ++ handleDeviceStatusChanged updated.1 (ChipSdk.kChangedName D) })

/-- The write callback on the object it found. -/
def writeDevice (now : TimePoint) (dev : DevicePtr) (object : DeviceObject D) (path : AttributePath)
    (buffer : Buffer) (bridge : Bridge D) : Bridge D × Reply :=
  if object.isReachable then
    match path with
    | .onOff attributeId => handleWriteOnOffAttribute now dev object attributeId buffer bridge
    | .levelControl attributeId =>
        -- static_cast<DeviceDimmable *>(dev)
        match object.dimmer with
        | none => (bridge, .undefinedBehaviour)
        | some dimmer =>
            handleWriteLevelControlAttribute now dev object dimmer attributeId buffer bridge
    | .bridgedDeviceBasicInformation attributeId =>
        handleWriteBridgedDeviceBasicAttribute dev object attributeId buffer bridge
    | .temperatureMeasurement _ => (bridge, { status := .failure })
    | .other _ _ => (bridge, { status := .failure })
  else (bridge, { status := .failure })

/-- `emberAfExternalAttributeWriteCallback` -/
def emberAfExternalAttributeWriteCallback (now : TimePoint) (endpoint : EndpointId)
    (path : AttributePath) (buffer : Buffer) (bridge : Bridge D) : Bridge D × Reply :=
  let endpointIndex := bridge.emberAfGetDynamicIndexFromEndpoint endpoint
  if endpointIndex < CHIP_DEVICE_CONFIG_DYNAMIC_ENDPOINT_COUNT then
    match bridge.gDevices endpointIndex with
    | none => (bridge, .undefinedBehaviour) -- dev->IsReachable() through a null pointer
    | some dev =>
      match bridge.objects dev with
      | none => (bridge, .undefinedBehaviour)
      | some object => writeDevice now dev object path buffer bridge
  else (bridge, { status := .failure })

/-! ### Events -/

/-- WeMo 0-100 to Matter 0-254, through the casts to `uint16_t` and `uint8_t`. -/
def matterLevelOf (level : Int) : UInt8 :=
  UInt8.ofNat ((UInt16.ofInt level).toNat * 254 / 100)

/-- The OnOff part of the event handler, for an online event. -/
def handleEventOnOff (now : TimePoint) (ctx : WemoEventContext) (entry : BridgedWemoLight)
    (dev : DeviceObject D) : BridgedWemoLight × DeviceObject D × List Report :=
  let newOn := decide (ctx.state ≠ 0)
  let newOnInt : Int := if newOn then 1 else 0
  let entry := entry.clearExpiredOnOff now
  let suppressOnOff := entry.commandedOnOff ≥ 0 ∧ newOnInt ≠ entry.commandedOnOff
  if ¬ suppressOnOff ∧ dev.isOn ≠ newOn then (entry, dev.setOnOff newOn) else (entry, dev, [])

/-- The level part of the event handler, for an online event of a dimmable light. -/
def handleEventLevel (now : TimePoint) (ctx : WemoEventContext) (entry : BridgedWemoLight)
    (dev : DeviceObject D) (dimmer : Dimmer) : BridgedWemoLight × DeviceObject D × List Report :=
  let matterLevel := matterLevelOf ctx.level
  let entry := entry.clearExpiredLevel now
  let suppressLevel :=
    entry.commandedLevel ≥ 0 ∧ matterLevel ≠ UInt8.ofInt entry.commandedLevel
  if ¬ suppressLevel ∧ dimmer.mLevel ≠ matterLevel then (entry, dev.setLevel dimmer matterLevel)
  else (entry, dev, [])

/-- The body of the event handler's loop, on the entry and the device object found; `none` if it
casts the object to a class it does not have. -/
def handleEventOnLight (now : TimePoint) (ctx : WemoEventContext) (entry : BridgedWemoLight)
    (dev : DeviceObject D) : Option (BridgedWemoLight × DeviceObject D × List Report) :=
  let reached := if dev.isReachable ≠ ctx.isOnline then dev.setReachable ctx.isOnline else (dev, [])
  if ctx.isOnline then
    let switched := handleEventOnOff now ctx entry reached.1
    if switched.1.isDimmable ∧ ctx.level ≥ 0 then
      -- static_cast<DeviceDimmable *>(dev)
      match switched.2.1.dimmer with
      | none => none
      | some dimmer =>
        let dimmed := handleEventLevel now ctx switched.1 switched.2.1 dimmer
        some (dimmed.1, dimmed.2.1, reached.2 ++ switched.2.2 ++ dimmed.2.2)
    else some (switched.1, switched.2.1, reached.2 ++ switched.2.2)
  else some (entry, reached.1, reached.2)

/-- `HandleWemoEventOnMatterThread` -/
def handleWemoEventOnMatterThread (now : TimePoint) (ctx : WemoEventContext) (bridge : Bridge D) :
    Bridge D × Reply :=
  match bridge.gBridgedWemoLights.find? (·.wemoId = ctx.wemoId) with
  | none => (bridge, { status := .success })
  | some entry =>
    match bridge.objects entry.device with
    | none => (bridge, .undefinedBehaviour)
    | some object =>
      match handleEventOnLight now ctx entry object with
      | none => (bridge, .undefinedBehaviour)
      | some (entry', object', reported) =>
        ({ bridge.store entry.device object' with
            gBridgedWemoLights :=
              modifyFirst (·.wemoId = ctx.wemoId) (fun _ => entry') bridge.gBridgedWemoLights },
          { status := .success, reported := reported })

/-! ### The bridge as a machine -/

/-- What happens to the running bridge: an attribute write or read by the SDK, or a WeMo event that
reaches the Matter thread. -/
inductive Input where
  | write (endpoint : EndpointId) (path : AttributePath) (buffer : Buffer)
  | read (endpoint : EndpointId) (path : AttributePath) (maxReadLength : Nat)
  | event (ctx : WemoEventContext)

/-- The SDK calls the attribute callbacks only with clusters of the registered endpoint type. -/
def Bridge.declares (bridge : Bridge D) (endpoint : EndpointId) (cluster : Cluster) : Bool :=
  (bridge.dynamicIndex? endpoint).any fun index =>
    (bridge.dynamicEndpoints index).any (cluster ∈ ·.endpointType.clusters)

/-- One step of the running bridge, on the Matter thread. -/
def Bridge.step (bridge : Bridge D) : TimePoint × Input → Bridge D × Reply
  | (now, .write endpoint path buffer) =>
      if bridge.declares endpoint path.cluster then
        emberAfExternalAttributeWriteCallback now endpoint path buffer bridge
      else (bridge, { status := .unsupported })
  | (_, .read endpoint path maxReadLength) =>
      (bridge, if bridge.declares endpoint path.cluster then
        emberAfExternalAttributeReadCallback endpoint path maxReadLength bridge
      else { status := .unsupported })
  | (now, .event ctx) => handleWemoEventOnMatterThread now ctx bridge

/-- **The running bridge.** -/
def bridgeMachine (D : Type) [ChipSdk D] : Machine (Bridge D) (TimePoint × Input) Reply :=
  { step := Bridge.step }

end WemoBridge
