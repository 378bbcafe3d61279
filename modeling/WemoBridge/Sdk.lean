/-
**The Matter SDK as the bridge uses it.**

`Device`, `DeviceOnOff` and the ZCL string helpers are classes and functions of the SDK, which is
not part of the repository. `ChipSdk` is their interface: the operations the bridge calls and the
behaviour it relies on. What a device object stores besides the attributes read back here stays
abstract.

The paths of attributes, the status codes and the endpoint types are shared by every handler.
-/

import WemoBridge.Basic

namespace WemoBridge

/-! ### Attribute paths -/

inductive OnOffAttribute where
  | onOff
  | clusterRevision
  | other (attributeId : UInt32)
  deriving DecidableEq, Repr

inductive LevelControlAttribute where
  | currentLevel
  | minLevel
  | maxLevel
  | clusterRevision
  | featureMap
  | other (attributeId : UInt32)
  deriving DecidableEq, Repr

inductive BridgedDeviceBasicAttribute where
  | nodeLabel
  | reachable
  | uniqueId
  | configurationVersion
  | clusterRevision
  | featureMap
  | other (attributeId : UInt32)
  deriving DecidableEq, Repr

/-- A cluster and one of its attributes, as the callbacks receive them. -/
inductive AttributePath where
  | onOff (attributeId : OnOffAttribute)
  | levelControl (attributeId : LevelControlAttribute)
  | bridgedDeviceBasicInformation (attributeId : BridgedDeviceBasicAttribute)
  | temperatureMeasurement (attributeId : UInt32)
  | other (clusterId attributeId : UInt32)
  deriving DecidableEq, Repr

inductive Cluster where
  | onOff
  | levelControl
  | descriptor
  | bridgedDeviceBasicInformation
  | temperatureMeasurement
  | other (clusterId : UInt32)
  deriving DecidableEq, Repr

def AttributePath.cluster : AttributePath → Cluster
  | .onOff _ => .onOff
  | .levelControl _ => .levelControl
  | .bridgedDeviceBasicInformation _ => .bridgedDeviceBasicInformation
  | .temperatureMeasurement _ => .temperatureMeasurement
  | .other clusterId _ => .other clusterId

/-- The endpoint types the bridge registers. -/
inductive EndpointType where
  | bridgedLightEndpoint
  | bridgedDimmableLightEndpoint
  deriving DecidableEq, Repr

/-- `bridgedLightClusters` and `bridgedDimmableLightClusters`. -/
def EndpointType.clusters : EndpointType → List Cluster
  | .bridgedLightEndpoint => [.onOff, .descriptor, .bridgedDeviceBasicInformation]
  | .bridgedDimmableLightEndpoint =>
      [.onOff, .levelControl, .descriptor, .bridgedDeviceBasicInformation]

/-! ### Answers -/

/-- `Protocols::InteractionModel::Status`, as far as the handlers answer it. `unsupported` is the
SDK's own answer for a path no callback is called for. `undefinedBehaviour` marks a step in which
the program would use a null or dangling pointer or cast an object to a class it does not have. -/
inductive Status where
  | success
  | failure
  | unsupportedWrite
  | constraintError
  | unsupported
  | undefinedBehaviour
  deriving DecidableEq, Repr

/-- What a read handler leaves in the buffer. -/
inductive AttributeValue where
  | uint8 (value : UInt8)
  | uint16 (value : UInt16)
  | uint32 (value : UInt32)
  | bytes (value : List UInt8)
  deriving DecidableEq, Repr

/-- A change report scheduled for subscribers. -/
structure Report where
  endpoint : EndpointId
  path : AttributePath
  deriving DecidableEq, Repr

/-! ### Device objects -/

/-- The attributes of a device object that are read back. -/
@[ext] structure DeviceAttributes where
  isOn : Bool
  isReachable : Bool
  name : CppString
  endpointId : EndpointId
  deriving DecidableEq, Repr

/-- A call a setter makes when the value changes: the callback stored with
`DeviceOnOff::SetChangeCallback`, or the virtual `HandleDeviceChange`. -/
inductive Notification where
  | onOffCallback (mask : Nat)
  | handleDeviceChange (mask : Nat)
  deriving DecidableEq, Repr

/-- **The SDK's device objects and ZCL strings**, with their documented behaviour. -/
class ChipSdk (D : Type) where
  /-- `DeviceOnOff(szDeviceName, szLocation)` -/
  deviceOnOff : CppString → CppString → D
  attributes : D → DeviceAttributes
  getUniqueId : D → CppString
  getConfigurationVersion : D → UInt32
  setOnOff : Bool → D → D × List Notification
  setReachable : Bool → D → D × List Notification
  setName : CppString → D → D × List Notification
  setEndpointId : EndpointId → D → D
  setParentEndpointId : EndpointId → D → D
  generateUniqueId : D → D
  /-- What `SetName` keeps of a name. -/
  storedName : CppString → CppString
  kChangedReachable : Nat
  kChangedName : Nat
  kChangedLocation : Nat
  kChangedOnOff : Nat
  /-- The masks `DeviceOnOff::HandleDeviceChange` passes on to the stored callback. -/
  deviceOnOffHandleDeviceChange : Nat → List Nat
  /-- `CharSpan::fromZclString` -/
  fromZclString : Buffer → CppString
  /-- `MakeZclCharString` into a span of the given size. -/
  makeZclCharString : Nat → CppString → List UInt8
  attributes_deviceOnOff_name : ∀ name location,
    (attributes (deviceOnOff name location)).name = storedName name
  attributes_setOnOff : ∀ on d, attributes (setOnOff on d).1 = { attributes d with isOn := on }
  attributes_setReachable : ∀ reachable d,
    attributes (setReachable reachable d).1 = { attributes d with isReachable := reachable }
  attributes_setName : ∀ name d,
    attributes (setName name d).1 = { attributes d with name := storedName name }
  attributes_setEndpointId : ∀ endpointId d,
    attributes (setEndpointId endpointId d) = { attributes d with endpointId := endpointId }
  attributes_setParentEndpointId : ∀ endpointId d,
    attributes (setParentEndpointId endpointId d) = attributes d
  attributes_generateUniqueId : ∀ d, attributes (generateUniqueId d) = attributes d
  storedName_short : ∀ name : CppString, name.length ≤ 32 → storedName name = name
  notified_setOnOff : ∀ on d, (setOnOff on d).2 =
    if (attributes d).isOn = on then [] else [.onOffCallback kChangedOnOff]
  notified_setReachable : ∀ reachable d, (setReachable reachable d).2 =
    if (attributes d).isReachable = reachable then []
    else [.handleDeviceChange kChangedReachable]
  notified_setName : ∀ name d, (setName name d).2 =
    if (attributes d).name = storedName name then [] else [.handleDeviceChange kChangedName]
  deviceOnOffHandleDeviceChange_eq : ∀ mask, deviceOnOffHandleDeviceChange mask = [mask]
  changeBits_ne_zero : ∀ bit ∈ [kChangedReachable, kChangedName, kChangedLocation, kChangedOnOff],
    bit ≠ 0
  changeBits_disjoint : [kChangedReachable, kChangedName, kChangedLocation, kChangedOnOff,
    kChangedOnOff <<< 1].Pairwise fun first second => first &&& second = 0
  fromZclString_chars : ∀ buffer : Buffer, buffer 0 ≠ 0xFF →
    fromZclString buffer = (List.range (buffer 0).toNat).map fun index => buffer (index + 1)
  makeZclCharString_fits : ∀ size (s : CppString), s.length + 1 ≤ size → s.length < 255 →
    makeZclCharString size s = UInt8.ofNat s.length :: s
  makeZclCharString_long : ∀ size (s : CppString), size < s.length + 1 →
    makeZclCharString size s = [0]

/-! ### A concrete SDK

The device object that is exactly its documented attributes: the instance the concrete runs of this
development use. -/

/-- A device object with nothing but the documented attributes. -/
structure PlainDevice where
  attributes : DeviceAttributes
  uniqueId : CppString
  configurationVersion : UInt32
  deriving DecidableEq, Repr

instance : ChipSdk PlainDevice where
  deviceOnOff name _ :=
    { attributes := { isOn := false, isReachable := false, name := name.take 32, endpointId := 0 }
      uniqueId := []
      configurationVersion := 1 }
  attributes := PlainDevice.attributes
  getUniqueId := PlainDevice.uniqueId
  getConfigurationVersion := PlainDevice.configurationVersion
  setOnOff on d := ({ d with attributes := { d.attributes with isOn := on } },
    if d.attributes.isOn = on then [] else [.onOffCallback 8])
  setReachable reachable d :=
    ({ d with attributes := { d.attributes with isReachable := reachable } },
      if d.attributes.isReachable = reachable then [] else [.handleDeviceChange 1])
  setName name d := ({ d with attributes := { d.attributes with name := name.take 32 } },
    if d.attributes.name = name.take 32 then [] else [.handleDeviceChange 2])
  setEndpointId endpointId d :=
    { d with attributes := { d.attributes with endpointId := endpointId } }
  setParentEndpointId _ d := d
  generateUniqueId d := { d with uniqueId := [1] }
  storedName name := name.take 32
  kChangedReachable := 1
  kChangedName := 2
  kChangedLocation := 4
  kChangedOnOff := 8
  deviceOnOffHandleDeviceChange mask := [mask]
  fromZclString buffer :=
    if buffer 0 = 0xFF then [] else (List.range (buffer 0).toNat).map fun index => buffer (index + 1)
  makeZclCharString size s := if s.length + 1 ≤ size then UInt8.ofNat s.length :: s else [0]
  attributes_deviceOnOff_name _ _ := rfl
  attributes_setOnOff _ _ := rfl
  attributes_setReachable _ _ := rfl
  attributes_setName _ _ := rfl
  attributes_setEndpointId _ _ := rfl
  attributes_setParentEndpointId _ _ := rfl
  attributes_generateUniqueId _ := rfl
  storedName_short _ short := List.take_of_length_le short
  notified_setOnOff _ _ := rfl
  notified_setReachable _ _ := rfl
  notified_setName _ _ := rfl
  deviceOnOffHandleDeviceChange_eq _ := rfl
  changeBits_ne_zero := by decide
  changeBits_disjoint := by decide
  fromZclString_chars _ valid := if_neg valid
  makeZclCharString_fits _ _ fits _ := if_pos fits
  makeZclCharString_long _ _ long := if_neg (by omega)

end WemoBridge
