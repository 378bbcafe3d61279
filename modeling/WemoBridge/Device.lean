/-
**Device objects of the bridge: `DeviceOnOff`, `DeviceDimmable` and their change callbacks.**

A `DeviceObject` is an object on the heap: the SDK's part of it, the callback stored in its
`DeviceOnOff` part, and, when it was constructed as a `DeviceDimmable`, that class's own part. Every
setter returns the object after the change with the reports its callbacks scheduled: an SDK setter
notifies through the stored `DeviceOnOff` callback or through the virtual `HandleDeviceChange`, and
`notify` follows that call to the reports of `main.cpp`.
-/

import WemoBridge.Sdk

namespace WemoBridge

/-- What may be stored with `DeviceOnOff::SetChangeCallback`: the handler of an on/off light, or the
lambda `DeviceDimmable::SetChangeCallback` installs. -/
inductive OnOffCallback where
  | handleDeviceOnOffStatusChanged
  | dimmableBridge
  deriving DecidableEq, Repr

/-- What may be stored with `DeviceDimmable::SetChangeCallback`. -/
inductive DimmableCallback where
  | handleDeviceDimmableStatusChanged
  deriving DecidableEq, Repr

/-- The part of an object that `DeviceDimmable` adds to `DeviceOnOff`. -/
structure Dimmer where
  mLevel : UInt8
  mChangedCb : Option DimmableCallback
  deriving DecidableEq, Repr

/-- An object of class `DeviceOnOff`, or of class `DeviceDimmable` if it has a `dimmer` part. -/
structure DeviceObject (D : Type) where
  base : D
  onOffChangedCb : Option OnOffCallback
  dimmer : Option Dimmer
  deriving DecidableEq, Repr

variable {D : Type} [ChipSdk D]

/-- `DeviceDimmable::kChanged_Level` -/
def kChangedLevel (D : Type) [ChipSdk D] : Nat := ChipSdk.kChangedOnOff D <<< 1

namespace DeviceObject

/-- `std::make_unique<DeviceOnOff>(szDeviceName, szLocation)` -/
def deviceOnOff (szDeviceName szLocation : CppString) : DeviceObject D :=
  { base := ChipSdk.deviceOnOff szDeviceName szLocation, onOffChangedCb := none, dimmer := none }

/-- `std::make_unique<DeviceDimmable>(szDeviceName, szLocation)` -/
def deviceDimmable (szDeviceName szLocation : CppString) : DeviceObject D :=
  { base := ChipSdk.deviceOnOff szDeviceName szLocation
    onOffChangedCb := none
    dimmer := some { mLevel := 0, mChangedCb := none } }

def isOn (dev : DeviceObject D) : Bool := (ChipSdk.attributes dev.base).isOn

def isReachable (dev : DeviceObject D) : Bool := (ChipSdk.attributes dev.base).isReachable

def getName (dev : DeviceObject D) : CppString := (ChipSdk.attributes dev.base).name

def getEndpointId (dev : DeviceObject D) : EndpointId := (ChipSdk.attributes dev.base).endpointId

/-- `DeviceDimmable::GetLevel`, on an object of that class. -/
def getLevel (dev : DeviceObject D) : Option UInt8 := dev.dimmer.map Dimmer.mLevel

end DeviceObject

/-! ### Reports -/

/-- `ScheduleReportingCallback` -/
def scheduleReportingCallback (dev : DeviceObject D) (path : AttributePath) : List Report :=
  [{ endpoint := dev.getEndpointId, path := path }]

/-- `HandleDeviceStatusChanged` -/
def handleDeviceStatusChanged (dev : DeviceObject D) (itemChangedMask : Nat) : List Report :=
  (if itemChangedMask &&& ChipSdk.kChangedReachable D ≠ 0 then
    scheduleReportingCallback dev (.bridgedDeviceBasicInformation .reachable) else []) ++
  (if itemChangedMask &&& ChipSdk.kChangedName D ≠ 0 then
    scheduleReportingCallback dev (.bridgedDeviceBasicInformation .nodeLabel) else [])

/-- `HandleDeviceOnOffStatusChanged` -/
def handleDeviceOnOffStatusChanged (dev : DeviceObject D) (itemChangedMask : Nat) : List Report :=
  (if itemChangedMask &&& (ChipSdk.kChangedReachable D ||| ChipSdk.kChangedName D |||
      ChipSdk.kChangedLocation D) ≠ 0 then
    handleDeviceStatusChanged dev itemChangedMask else []) ++
  (if itemChangedMask &&& ChipSdk.kChangedOnOff D ≠ 0 then
    scheduleReportingCallback dev (.onOff .onOff) else [])

/-- `HandleDeviceDimmableStatusChanged` -/
def handleDeviceDimmableStatusChanged (dev : DeviceObject D) (itemChangedMask : Nat) :
    List Report :=
  (if itemChangedMask &&& (ChipSdk.kChangedReachable D ||| ChipSdk.kChangedName D) ≠ 0 then
    handleDeviceStatusChanged dev itemChangedMask else []) ++
  (if itemChangedMask &&& ChipSdk.kChangedOnOff D ≠ 0 then
    scheduleReportingCallback dev (.onOff .onOff) else []) ++
  (if itemChangedMask &&& kChangedLevel D ≠ 0 then
    scheduleReportingCallback dev (.levelControl .currentLevel) else [])

namespace DeviceObject

/-- A call of the callback stored in the `DeviceDimmable` part. -/
def dimmableCallback (dev : DeviceObject D) (dimmer : Dimmer) (mask : Nat) : List Report :=
  match dimmer.mChangedCb with
  | none => []
  | some .handleDeviceDimmableStatusChanged => handleDeviceDimmableStatusChanged dev mask

/-- A call of the callback stored in the `DeviceOnOff` part. -/
def onOffCallback (dev : DeviceObject D) (mask : Nat) : List Report :=
  match dev.onOffChangedCb with
  | none => []
  | some .handleDeviceOnOffStatusChanged => handleDeviceOnOffStatusChanged dev mask
  | some .dimmableBridge =>
      match dev.dimmer with
      | none => []
      | some dimmer => dev.dimmableCallback dimmer mask

/-- `HandleDeviceChange`: `DeviceDimmable` overrides it, `DeviceOnOff` has the SDK's. -/
def handleDeviceChange (dev : DeviceObject D) (changeMask : Nat) : List Report :=
  match dev.dimmer with
  | some dimmer => dev.dimmableCallback dimmer changeMask
  | none => (ChipSdk.deviceOnOffHandleDeviceChange D changeMask).flatMap dev.onOffCallback

/-- The reports a setter's notification ends in. -/
def notify (dev : DeviceObject D) : Notification → List Report
  | .onOffCallback mask => dev.onOffCallback mask
  | .handleDeviceChange mask => dev.handleDeviceChange mask

/-! ### Setters -/

/-- Run an SDK setter on the object and deliver what it notifies. -/
def applySetter (setter : D → D × List Notification) (dev : DeviceObject D) :
    DeviceObject D × List Report :=
  ({ dev with base := (setter dev.base).1 }, (setter dev.base).2.flatMap dev.notify)

def setOnOff (on : Bool) : DeviceObject D → DeviceObject D × List Report :=
  applySetter (ChipSdk.setOnOff on)

def setReachable (reachable : Bool) : DeviceObject D → DeviceObject D × List Report :=
  applySetter (ChipSdk.setReachable reachable)

def setName (name : CppString) : DeviceObject D → DeviceObject D × List Report :=
  applySetter (ChipSdk.setName name)

/-- `DeviceDimmable::SetLevel` -/
def setLevel (dev : DeviceObject D) (dimmer : Dimmer) (aLevel : UInt8) :
    DeviceObject D × List Report :=
  ({ dev with dimmer := some { dimmer with mLevel := aLevel } },
    if aLevel ≠ dimmer.mLevel then dev.dimmableCallback dimmer (kChangedLevel D) else [])

/-- `DeviceOnOff::SetChangeCallback(&HandleDeviceOnOffStatusChanged)` -/
def setOnOffChangeCallback (dev : DeviceObject D) : DeviceObject D :=
  { dev with onOffChangedCb := some .handleDeviceOnOffStatusChanged }

/-- `DeviceDimmable::SetChangeCallback(&HandleDeviceDimmableStatusChanged)` -/
def setDimmableChangeCallback (dev : DeviceObject D) (dimmer : Dimmer) : DeviceObject D :=
  { dev with
    dimmer := some { dimmer with mChangedCb := some .handleDeviceDimmableStatusChanged }
    onOffChangedCb := some .dimmableBridge }

/-! ### What the setters change -/

section Frame

variable (dev : DeviceObject D)

@[simp] theorem setOnOff_isOn (on : Bool) : (dev.setOnOff on).1.isOn = on := by
  simp [setOnOff, applySetter, isOn, ChipSdk.attributes_setOnOff]

@[simp] theorem setOnOff_isReachable (on : Bool) :
    (dev.setOnOff on).1.isReachable = dev.isReachable := by
  simp [setOnOff, applySetter, isReachable, ChipSdk.attributes_setOnOff]

@[simp] theorem setOnOff_getEndpointId (on : Bool) :
    (dev.setOnOff on).1.getEndpointId = dev.getEndpointId := by
  simp [setOnOff, applySetter, getEndpointId, ChipSdk.attributes_setOnOff]

@[simp] theorem setOnOff_getName (on : Bool) : (dev.setOnOff on).1.getName = dev.getName := by
  simp [setOnOff, applySetter, getName, ChipSdk.attributes_setOnOff]

@[simp] theorem setOnOff_dimmer (on : Bool) : (dev.setOnOff on).1.dimmer = dev.dimmer := rfl

@[simp] theorem setReachable_isOn (reachable : Bool) :
    (dev.setReachable reachable).1.isOn = dev.isOn := by
  simp [setReachable, applySetter, isOn, ChipSdk.attributes_setReachable]

@[simp] theorem setReachable_isReachable (reachable : Bool) :
    (dev.setReachable reachable).1.isReachable = reachable := by
  simp [setReachable, applySetter, isReachable, ChipSdk.attributes_setReachable]

@[simp] theorem setReachable_getEndpointId (reachable : Bool) :
    (dev.setReachable reachable).1.getEndpointId = dev.getEndpointId := by
  simp [setReachable, applySetter, getEndpointId, ChipSdk.attributes_setReachable]

@[simp] theorem setReachable_getName (reachable : Bool) :
    (dev.setReachable reachable).1.getName = dev.getName := by
  simp [setReachable, applySetter, getName, ChipSdk.attributes_setReachable]

@[simp] theorem setReachable_dimmer (reachable : Bool) :
    (dev.setReachable reachable).1.dimmer = dev.dimmer := rfl

@[simp] theorem setName_isOn (name : CppString) : (dev.setName name).1.isOn = dev.isOn := by
  simp [setName, applySetter, isOn, ChipSdk.attributes_setName]

@[simp] theorem setName_isReachable (name : CppString) :
    (dev.setName name).1.isReachable = dev.isReachable := by
  simp [setName, applySetter, isReachable, ChipSdk.attributes_setName]

@[simp] theorem setName_getEndpointId (name : CppString) :
    (dev.setName name).1.getEndpointId = dev.getEndpointId := by
  simp [setName, applySetter, getEndpointId, ChipSdk.attributes_setName]

@[simp] theorem setName_getName (name : CppString) :
    (dev.setName name).1.getName = ChipSdk.storedName D name := by
  simp [setName, applySetter, getName, ChipSdk.attributes_setName]

@[simp] theorem setName_dimmer (name : CppString) : (dev.setName name).1.dimmer = dev.dimmer := rfl

variable (dimmer : Dimmer) (level : UInt8)

@[simp] theorem setLevel_base : (dev.setLevel dimmer level).1.base = dev.base := rfl

@[simp] theorem setLevel_isOn : (dev.setLevel dimmer level).1.isOn = dev.isOn := rfl

@[simp] theorem setLevel_isReachable :
    (dev.setLevel dimmer level).1.isReachable = dev.isReachable := rfl

@[simp] theorem setLevel_getEndpointId :
    (dev.setLevel dimmer level).1.getEndpointId = dev.getEndpointId := rfl

@[simp] theorem setLevel_getName : (dev.setLevel dimmer level).1.getName = dev.getName := rfl

@[simp] theorem setLevel_dimmer :
    (dev.setLevel dimmer level).1.dimmer = some { dimmer with mLevel := level } := rfl

end Frame

end DeviceObject

end WemoBridge
