/-
**`ApplicationInit`: the publish loop.**

The discovered list is sorted by UDN and then by name, and its devices are published one by one:
each gets a device object and an entry, is offered to the SDK, and is taken back if the SDK refuses
it. What the SDK refuses is an argument for each call of `AddDeviceEndpoint`; the addresses of the
device objects come from an `Allocator`. The tables before a turn are what the loop makes of the
devices listed before (`publishLoop_take_succ`, `OffersAt`).

`Arranged` says what the tables look like after any number of turns of the loop, as functions of the
lights published so far and the endpoint ids of their slots. One turn offers the first id no
published light holds; the device is the next light if the SDK takes that id, and leaves nothing
behind otherwise (`Arranged.turn`).
-/

import WemoBridge.Adapter
import WemoBridge.Endpoint
import WemoBridge.Published
import WemoBridge.Library.SlotTable

namespace WemoBridge

open Library

variable {D : Type}

/-! ### The sorted list -/

/-- The comparison `ApplicationInit` sorts with. -/
def comesBefore (a b : WemoDevice) : Bool :=
  if a.udn ≠ b.udn then a.udn < b.udn else a.friendlyName < b.friendlyName

/-- `std::sort` of the discovered devices. It leaves open in which order devices with the same UDN
and the same name come; this is one of its orders, the one of the discovered list. -/
def sortDiscovered (discovered : List WemoDevice) : List WemoDevice :=
  discovered.insertionSort fun a b => comesBefore b a = false

/-- The comparison is the lexicographic order on the UDN and the friendly name. -/
theorem comesBefore_eq_false_iff (a b : WemoDevice) :
    comesBefore b a = false ↔ toLex (a.udn, a.friendlyName) ≤ toLex (b.udn, b.friendlyName) := by
  rw [← not_lt, Prod.Lex.toLex_lt_toLex]
  unfold comesBefore
  by_cases same : b.udn = a.udn <;> simp [same]

/-- Nothing is lost or added. -/
theorem sortDiscovered_perm (discovered : List WemoDevice) :
    (sortDiscovered discovered).Perm discovered :=
  List.perm_insertionSort _ discovered

/-- **The sorted list is sorted**: no device comes before one that is listed earlier. -/
theorem sortDiscovered_sorted (discovered : List WemoDevice) :
    (sortDiscovered discovered).Pairwise fun a b => comesBefore b a = false := by
  have total : Std.Total fun a b : WemoDevice => comesBefore b a = false :=
    ⟨fun a b => by simpa only [comesBefore_eq_false_iff] using le_total _ _⟩
  have trans : IsTrans WemoDevice fun a b => comesBefore b a = false :=
    ⟨fun a b c => by simpa only [comesBefore_eq_false_iff] using le_trans⟩
  exact List.pairwise_insertionSort _ discovered

/-- A device that does not come before another has no smaller UDN. -/
theorem udn_le_of_comesBefore_eq_false {a b : WemoDevice} (notAfter : comesBefore b a = false) :
    a.udn ≤ b.udn := by
  rw [comesBefore_eq_false_iff, Prod.Lex.toLex_le_toLex] at notAfter
  exact notAfter.elim le_of_lt fun same => same.1.le

/-! ### The publish loop -/

/-- The heap: it returns addresses that no live object has. -/
structure Allocator where
  address : List DevicePtr → DevicePtr
  fresh : ∀ live, address live ∉ live

/-- WeMo 0-100 to Matter 0-254, when a level is seeded. -/
def seedLevel (levelPercent : UInt8) : UInt8 :=
  UInt8.ofNat (levelPercent.toNat * 254 / 100)

/-- The name a device is published with. -/
def publishedName (dev : WemoDevice) : CppString :=
  if dev.friendlyName = [] then literal "WeMo Device" else dev.friendlyName

variable [ChipSdk D]

/-- The device object `ApplicationInit` makes and seeds. -/
def seedObject (dev : WemoDevice) : DeviceObject D :=
  let location := literal "WeMo"
  if dev.supportsLevel then
    let dimmer : DeviceObject D := .deviceDimmable (cStr (publishedName dev)) location
    let dimmer := (dimmer.setOnOff (dev.onoff ≠ 0)).1
    let dimmer :=
      match dimmer.dimmer with
      | none => dimmer
      | some part => (dimmer.setLevel part (seedLevel dev.levelPercent)).1
    (dimmer.setReachable dev.isOnline).1
  else
    let light : DeviceObject D := .deviceOnOff (cStr (publishedName dev)) location
    ((light.setOnOff (dev.onoff ≠ 0)).1.setReachable dev.isOnline).1

/-- The callback `ApplicationInit` installs once the endpoint is added. -/
def installChangeCallback (isDimmable : Bool) (dev : DeviceObject D) : DeviceObject D :=
  if isDimmable then
    match dev.dimmer with
    | none => dev
    | some part => dev.setDimmableChangeCallback part
  else dev.setOnOffChangeCallback

/-- The entry of a device, without a pending command. -/
def newEntry (dev : WemoDevice) (device : DevicePtr) : BridgedWemoLight :=
  { wemoId := dev.wemoId, udn := dev.udn, isDimmable := dev.supportsLevel, device := device }

/-- The object and the entry of a device, before its endpoint is added. -/
def pushDevice (dev : WemoDevice) (device : DevicePtr) (bridge : Bridge D) : Bridge D :=
  { bridge.store device (seedObject dev) with
    gBridgedWemoLights := bridge.gBridgedWemoLights ++ [newEntry dev device] }

/-- The rest of a turn, after `AddDeviceEndpoint` returned. -/
def finishPublish (dev : WemoDevice) (device : DevicePtr) (added : Bridge D × Int) : Bridge D :=
  if added.2 < 0 then
    { added.1 with
      gBridgedWemoLights := added.1.gBridgedWemoLights.dropLast
      objects := Function.update added.1.objects device none }
  else
    { added.1.changeObject device (installChangeCallback dev.supportsLevel) with
      gWemoDeviceToUdn := Function.update added.1.gWemoDeviceToUdn device (some dev.udn) }

/-- A turn up to the return of `AddDeviceEndpoint`; `none` if it never returns. -/
def offerDevice (heap : Allocator) (refuses : EndpointId → Bool) (dev : WemoDevice)
    (bridge : Bridge D) : Option (Bridge D × Int) :=
  let device := heap.address (bridge.gBridgedWemoLights.map (·.device))
  addDeviceEndpoint refuses device (endpointTypeOf dev.supportsLevel) 1
    (pushDevice dev device bridge)

/-- One turn of the publish loop. -/
def publishDevice (heap : Allocator) (refuses : EndpointId → Bool) (dev : WemoDevice)
    (bridge : Bridge D) : Option (Bridge D) :=
  (offerDevice heap refuses dev bridge).map
    (finishPublish dev (heap.address (bridge.gBridgedWemoLights.map (·.device))))

/-- The publish loop, with what the SDK refuses in each call from number `call` on. -/
def publishLoop (heap : Allocator) (refuses : Nat → EndpointId → Bool) :
    Nat → List WemoDevice → Bridge D → Option (Bridge D)
  | _, [], bridge => some bridge
  | call, dev :: rest, bridge =>
      if bridge.gBridgedWemoLights.length ≥ CHIP_DEVICE_CONFIG_DYNAMIC_ENDPOINT_COUNT then
        publishLoop heap refuses call rest bridge
      else
        (publishDevice heap (refuses call) dev bridge).bind
          (publishLoop heap refuses (call + 1) rest)

/-- The process before `ApplicationInit`. -/
def freshProcess : Bridge D :=
  { gDevices := fun _ => none
    gCurrentEndpointId := 0
    gFirstDynamicEndpointId := 0
    gBridgedWemoLights := []
    gWemoDeviceToUdn := fun _ => none
    objects := fun _ => none
    dynamicEndpoints := fun _ => none }

/-- `ApplicationInit` in a fresh process, from the list `Discover` returned; `lastFixed` is the id
of the last fixed endpoint. -/
def applicationInit (heap : Allocator) (lastFixed : EndpointId)
    (refuses : Nat → EndpointId → Bool) (discovered : List WemoDevice) : Option (Bridge D) :=
  publishLoop heap refuses 0 (sortDiscovered discovered)
    { (freshProcess : Bridge D) with
      gFirstDynamicEndpointId := lastFixed + 1
      gCurrentEndpointId := lastFixed + 1 }

/-! ### The loop, turn by turn -/

section Turns

variable {heap : Allocator} {refuses : Nat → EndpointId → Bool}

/-- Once the slots are full the loop skips the rest of the list. -/
theorem publishLoop_full {bridge : Bridge D}
    (full : bridge.gBridgedWemoLights.length ≥ CHIP_DEVICE_CONFIG_DYNAMIC_ENDPOINT_COUNT)
    (devices : List WemoDevice) (call : Nat) :
    publishLoop heap refuses call devices bridge = some bridge := by
  induction devices with
  | nil => rfl
  | cons dev rest ih => rw [publishLoop, if_pos full, ih]

/-- The loop over a list in two parts. No call comes after a skipped turn, so the calls are numbered
by the turns. -/
theorem publishLoop_append (front rest : List WemoDevice) :
    ∀ (call : Nat) (bridge : Bridge D), publishLoop heap refuses call (front ++ rest) bridge =
      (publishLoop heap refuses call front bridge).bind
        (publishLoop heap refuses (call + front.length) rest) := by
  induction front with
  | nil => exact fun _ _ => rfl
  | cons dev front ih =>
    intro call bridge
    by_cases full :
        bridge.gBridgedWemoLights.length ≥ CHIP_DEVICE_CONFIG_DYNAMIC_ENDPOINT_COUNT
    · rw [publishLoop_full full, publishLoop_full full, Option.bind_some, publishLoop_full full]
    · rw [List.cons_append, publishLoop, publishLoop, if_neg full, if_neg full, Option.bind_assoc]
      refine congrArg _ (funext fun next => ?_)
      rw [ih, List.length_cons, Nat.add_assoc, Nat.add_comm 1]

/-- **One turn of the loop**, from what it has made of the devices before. -/
theorem publishLoop_take_succ {devices : List WemoDevice} {turn : Nat} {dev : WemoDevice}
    (listed : devices[turn]? = some dev) (call : Nat) (bridge : Bridge D) :
    publishLoop heap refuses call (devices.take (turn + 1)) bridge =
      (publishLoop heap refuses call (devices.take turn) bridge).bind fun before =>
        if before.gBridgedWemoLights.length ≥ CHIP_DEVICE_CONFIG_DYNAMIC_ENDPOINT_COUNT then
          some before
        else publishDevice heap (refuses (call + turn)) dev before := by
  have turns : (devices.take turn).length = turn :=
    List.length_take_of_le (List.getElem?_eq_some_iff.mp listed).1.le
  rw [List.take_add_one, listed, Option.toList_some, publishLoop_append, turns]
  refine congrArg _ (funext fun before => ?_)
  rw [publishLoop]
  refine if_congr Iff.rfl rfl ?_
  exact Option.bind_fun_some _

/-- In a loop that starts with the tables `start`, the turn with this number offers `dev` to the
SDK: the devices listed before it have left the tables as `before`, with a free slot. -/
structure OffersAt (heap : Allocator) (refuses : Nat → EndpointId → Bool) (call : Nat)
    (devices : List WemoDevice) (start : Bridge D) (turn : Nat) (dev : WemoDevice)
    (before : Bridge D) : Prop where
  listed : devices[turn]? = some dev
  reached : publishLoop heap refuses call (devices.take turn) start = some before
  notFull : ¬ before.gBridgedWemoLights.length ≥ CHIP_DEVICE_CONFIG_DYNAMIC_ENDPOINT_COUNT

variable {call turn : Nat} {dev other : WemoDevice} {rest devices : List WemoDevice}
  {start before : Bridge D}

/-- A loop that starts full offers nothing. -/
theorem not_offersAt_of_full
    (full : start.gBridgedWemoLights.length ≥ CHIP_DEVICE_CONFIG_DYNAMIC_ENDPOINT_COUNT) :
    ¬ OffersAt heap refuses call devices start turn other before := by
  rintro ⟨-, reached, notFull⟩
  rw [publishLoop_full full] at reached
  obtain rfl := Option.some.inj reached
  exact notFull full

/-- The first turn offers the first device. -/
theorem offersAt_zero_iff
    (notFull : ¬ start.gBridgedWemoLights.length ≥ CHIP_DEVICE_CONFIG_DYNAMIC_ENDPOINT_COUNT) :
    OffersAt heap refuses call (dev :: rest) start 0 other before ↔
      dev = other ∧ start = before := by
  constructor
  · exact fun offers => ⟨Option.some.inj offers.listed, Option.some.inj offers.reached⟩
  · rintro ⟨rfl, rfl⟩
    exact ⟨rfl, rfl, notFull⟩

/-- The later turns are those of the rest of the loop. -/
theorem offersAt_succ_iff
    (notFull : ¬ start.gBridgedWemoLights.length ≥ CHIP_DEVICE_CONFIG_DYNAMIC_ENDPOINT_COUNT) :
    OffersAt heap refuses call (dev :: rest) start (turn + 1) other before ↔
      ∃ next, publishDevice heap (refuses call) dev start = some next ∧
        OffersAt heap refuses (call + 1) rest next turn other before := by
  have reached_iff : publishLoop heap refuses call ((dev :: rest).take (turn + 1)) start =
      some before ↔ ∃ next, publishDevice heap (refuses call) dev start = some next ∧
        publishLoop heap refuses (call + 1) (rest.take turn) next = some before := by
    rw [List.take_succ_cons, publishLoop, if_neg notFull, Option.bind_eq_some_iff]
  constructor
  · rintro ⟨listed, reached, free⟩
    obtain ⟨next, turns, reachedNext⟩ := reached_iff.mp reached
    exact ⟨next, turns, listed, reachedNext, free⟩
  · rintro ⟨next, turns, listed, reachedNext, free⟩
    exact ⟨listed, reached_iff.mpr ⟨next, turns, reachedNext⟩, free⟩

end Turns

/-! ### What is laid out -/

/-- An object as `ApplicationInit` leaves it for a device. -/
structure DeviceObject.SeededAs (object : DeviceObject D) (dev : WemoDevice)
    (endpoint : EndpointId) : Prop where
  isOn : object.isOn = decide (dev.onoff ≠ 0)
  isReachable : object.isReachable = dev.isOnline
  name : object.getName = ChipSdk.storedName D (cStr (publishedName dev))
  endpoint : object.getEndpointId = endpoint
  dimmer : object.dimmer =
    if dev.supportsLevel then
      some { mLevel := seedLevel dev.levelPercent
             mChangedCb := some .handleDeviceDimmableStatusChanged }
    else none
  callback : object.onOffChangedCb =
    some (if dev.supportsLevel then .dimmableBridge else .handleDeviceOnOffStatusChanged)

/-- **The tables with the lights published so far**, in the order of their slots: the k-th device is
in slot k, under the k-th of `ids`, with its entry, its object and its UDN. -/
structure Bridge.Arranged (bridge : Bridge D) (first : EndpointId) (ids : Nat → EndpointId)
    (lights : List (WemoDevice × DevicePtr)) : Prop where
  first_eq : bridge.gFirstDynamicEndpointId = first
  count_le : lights.length ≤ CHIP_DEVICE_CONFIG_DYNAMIC_ENDPOINT_COUNT
  ids_inj : ∀ i < lights.length, ∀ j < lights.length, ids i = ids j → i = j
  entries : bridge.gBridgedWemoLights = lights.map fun light => newEntry light.1 light.2
  slots : ∀ i, bridge.gDevices i = lights[i]?.map Prod.snd
  registered : ∀ i, bridge.dynamicEndpoints i = lights[i]?.map fun light =>
    { endpointId := ids i, endpointType := endpointTypeOf light.1.supportsLevel }
  distinct : (lights.map Prod.snd).Nodup
  udns : ∀ light ∈ lights, bridge.gWemoDeviceToUdn light.2 = some light.1.udn
  udn_keys : ∀ dev, bridge.gWemoDeviceToUdn dev ≠ none → dev ∈ lights.map Prod.snd
  objects : ∀ i light, lights[i]? = some light → ∃ object,
    bridge.objects light.2 = some object ∧ object.SeededAs light.1 (ids i)

/-! ### One turn of the loop -/

theorem seedObject_spec (dev : WemoDevice) :
    (seedObject dev : DeviceObject D).isOn = decide (dev.onoff ≠ 0) ∧
      (seedObject dev : DeviceObject D).isReachable = dev.isOnline ∧
      (seedObject dev : DeviceObject D).getName = ChipSdk.storedName D (cStr (publishedName dev)) ∧
      (seedObject dev : DeviceObject D).dimmer =
        if dev.supportsLevel then some { mLevel := seedLevel dev.levelPercent, mChangedCb := none }
        else none := by
  unfold seedObject
  cases dev.supportsLevel with
  | true =>
    simp [DeviceObject.deviceDimmable, DeviceObject.getName, DeviceObject.setOnOff,
      DeviceObject.setReachable, DeviceObject.setLevel, DeviceObject.applySetter, DeviceObject.isOn,
      DeviceObject.isReachable, ChipSdk.attributes_setOnOff, ChipSdk.attributes_setReachable,
      ChipSdk.attributes_deviceOnOff_name]
  | false =>
    simp [DeviceObject.deviceOnOff, DeviceObject.getName, DeviceObject.setOnOff,
      DeviceObject.setReachable, DeviceObject.applySetter, DeviceObject.isOn,
      DeviceObject.isReachable, ChipSdk.attributes_setOnOff, ChipSdk.attributes_setReachable,
      ChipSdk.attributes_deviceOnOff_name]

/-- A seeded object with its endpoint id and its callback is as `ApplicationInit` leaves it. -/
theorem seededAs_install {dev : WemoDevice} {endpoint : EndpointId} {base : D}
    (attributes : ChipSdk.attributes base =
      { ChipSdk.attributes (seedObject dev : DeviceObject D).base with endpointId := endpoint }) :
    (installChangeCallback dev.supportsLevel
      { (seedObject dev : DeviceObject D) with base := base }).SeededAs dev endpoint := by
  obtain ⟨isOn, isReachable, name, dimmer⟩ := @seedObject_spec D _ dev
  have byAttributes : ∀ object : DeviceObject D, object.base = base →
      object.isOn = decide (dev.onoff ≠ 0) ∧ object.isReachable = dev.isOnline ∧
        object.getName = ChipSdk.storedName D (cStr (publishedName dev)) ∧
        object.getEndpointId = endpoint := by
    rintro object rfl
    simp only [DeviceObject.isOn, DeviceObject.isReachable, DeviceObject.getName,
      DeviceObject.getEndpointId, attributes]
    exact ⟨isOn, isReachable, name, trivial⟩
  unfold installChangeCallback
  cases supportsLevel : dev.supportsLevel with
  | true =>
    rw [supportsLevel, if_pos rfl] at dimmer
    simp only [if_pos, dimmer]
    obtain ⟨isOn, isReachable, name, endpoint⟩ := byAttributes
      (DeviceObject.setDimmableChangeCallback { (seedObject dev : DeviceObject D) with base := base }
        { mLevel := seedLevel dev.levelPercent, mChangedCb := none }) rfl
    refine ⟨isOn, isReachable, name, endpoint, ?_, ?_⟩
    · rw [supportsLevel]
      rfl
    · rw [supportsLevel]
      rfl
  | false =>
    rw [supportsLevel, if_neg Bool.false_ne_true] at dimmer
    obtain ⟨isOn, isReachable, name, endpoint⟩ := byAttributes
      (DeviceObject.setOnOffChangeCallback
        { (seedObject dev : DeviceObject D) with base := base }) rfl
    refine ⟨isOn, isReachable, name, endpoint, ?_, ?_⟩
    · rw [supportsLevel]
      exact dimmer
    · rw [supportsLevel]
      rfl

/-- One of the first `count` slots has the id. -/
def heldBelow (ids : Nat → EndpointId) (count : Nat) (id : EndpointId) : Bool :=
  (List.range count).any fun i => ids i = id

namespace Bridge

variable {bridge : Bridge D} {first : EndpointId} {ids : Nat → EndpointId}
  {lights : List (WemoDevice × DevicePtr)}

/-- The first free slot comes after the filled ones. -/
theorem Arranged.find?_slot (arranged : bridge.Arranged first ids lights)
    (notFull : lights.length < CHIP_DEVICE_CONFIG_DYNAMIC_ENDPOINT_COUNT) :
    ((List.range CHIP_DEVICE_CONFIG_DYNAMIC_ENDPOINT_COUNT).find? fun index =>
      (bridge.gDevices index).isNone) = some lights.length := by
  rw [List.find?_range_eq_some]
  refine ⟨by simp [arranged.slots], List.mem_range.mpr notFull, fun i below => ?_⟩
  simp [arranged.slots, List.getElem?_eq_getElem below]

/-- Another slot holds an id exactly when a published light has it. -/
theorem Arranged.holdsElsewhere_eq (arranged : bridge.Arranged first ids lights) :
    bridge.holdsElsewhere lights.length = heldBelow ids lights.length := by
  have count_le := arranged.count_le
  funext id
  rw [Bool.eq_iff_iff]
  simp only [holdsElsewhere, heldBelow, List.any_eq_true, List.mem_range, arranged.registered]
  constructor
  · rintro ⟨i, -, held⟩
    cases atSlot : lights[i]? with
    | none => simp [atSlot] at held
    | some light =>
      have below : i < lights.length := (List.getElem?_eq_some_iff.mp atSlot).1
      exact ⟨i, below, by simpa [atSlot] using (Bool.and_eq_true_iff.mp held).2⟩
  · rintro ⟨i, below, same⟩
    refine ⟨i, by omega, ?_⟩
    simp only [List.getElem?_eq_getElem below, Option.map_some, Option.any_some, same, Bool.and_true]
    simp
    omega

/-- A device the SDK refuses leaves the tables as they were. -/
theorem Arranged.refuse (arranged : bridge.Arranged first ids lights) (current : EndpointId)
    {device : DevicePtr} (deviceFresh : device ∉ lights.map Prod.snd) :
    ({ bridge with
        gCurrentEndpointId := current
        objects := Function.update bridge.objects device none } : Bridge D).Arranged first ids
      lights where
  first_eq := arranged.first_eq
  count_le := arranged.count_le
  ids_inj := arranged.ids_inj
  entries := arranged.entries
  slots := arranged.slots
  registered := arranged.registered
  distinct := arranged.distinct
  udns := arranged.udns
  udn_keys := arranged.udn_keys
  objects i light here := by
    have different : light.2 ≠ device := by
      rintro rfl
      exact deviceFresh (List.mem_map_of_mem (List.mem_of_getElem? here))
    obtain ⟨object, found, seeded⟩ := arranged.objects i light here
    exact ⟨object, (Function.update_of_ne different _ _).trans found, seeded⟩

/-- A device the SDK accepts is the next light. -/
theorem Arranged.add (arranged : bridge.Arranged first ids lights)
    (notFull : lights.length < CHIP_DEVICE_CONFIG_DYNAMIC_ENDPOINT_COUNT) {id : EndpointId}
    (free : heldBelow ids lights.length id = false) {device : DevicePtr}
    (deviceFresh : device ∉ lights.map Prod.snd) {dev : WemoDevice} {object : DeviceObject D}
    (seeded : object.SeededAs dev id) :
    ({ gDevices := Function.update bridge.gDevices lights.length (some device)
       gCurrentEndpointId := id
       gFirstDynamicEndpointId := bridge.gFirstDynamicEndpointId
       gBridgedWemoLights := bridge.gBridgedWemoLights ++ [newEntry dev device]
       gWemoDeviceToUdn := Function.update bridge.gWemoDeviceToUdn device (some dev.udn)
       objects := Function.update bridge.objects device (some object)
       dynamicEndpoints := Function.update bridge.dynamicEndpoints lights.length
        (some { endpointId := id
                endpointType := endpointTypeOf dev.supportsLevel }) } : Bridge D).Arranged first
      (Function.update ids lights.length id) (lights ++ [(dev, device)]) := by
  have elsewhere : ∀ light ∈ lights, light.2 ≠ device := by
    rintro light member rfl
    exact deviceFresh (List.mem_map_of_mem member)
  have sameBelow : ∀ i < lights.length, Function.update ids lights.length id i = ids i :=
    fun i below => Function.update_of_ne below.ne _ _
  have unheld : ∀ i < lights.length, ids i ≠ id := by
    intro i below same
    have held : heldBelow ids lights.length id = true :=
      List.any_eq_true.mpr ⟨i, List.mem_range.mpr below, by simpa using same⟩
    rw [free] at held
    cases held
  refine ⟨arranged.first_eq, ?_, ?_, ?_, ?_, ?_, ?_, ?_, ?_, ?_⟩
  · rw [List.length_append, List.length_singleton]
    exact notFull
  · rw [List.length_append, List.length_singleton]
    exact update_length_inj arranged.ids_inj unheld
  · simp [arranged.entries]
  · exact @update_length_eq _ _ _ _ ids _ (fun light _ => light.2) arranged.slots (dev, device) id
  · exact update_length_eq (fun (light : WemoDevice × DevicePtr) id =>
      { endpointId := id, endpointType := endpointTypeOf light.1.supportsLevel : DynamicEndpoint })
      arranged.registered (dev, device) id
  · rw [List.map_append, List.map_singleton]
    refine List.nodup_append.mpr ⟨arranged.distinct, List.nodup_singleton _, ?_⟩
    rintro ptr member _ last rfl
    obtain rfl : ptr = device := List.mem_singleton.mp last
    exact deviceFresh member
  · intro light member
    rcases List.mem_append.mp member with old | last
    · exact (Function.update_of_ne (elsewhere light old) _ _).trans (arranged.udns light old)
    · obtain rfl : light = (dev, device) := List.mem_singleton.mp last
      exact Function.update_self _ _ _
  · intro ptr bound
    by_cases same : ptr = device
    · simp [same]
    · have boundBefore : bridge.gWemoDeviceToUdn ptr ≠ none := by
        rwa [← Function.update_of_ne same (some dev.udn) bridge.gWemoDeviceToUdn]
      rw [List.map_append]
      exact List.mem_append_left _ (arranged.udn_keys ptr boundBefore)
  · intro i light here
    rcases lt_or_ge i lights.length with below | above
    · rw [List.getElem?_append_left below] at here
      obtain ⟨old, found, seededOld⟩ := arranged.objects i light here
      have different := elsewhere light (List.mem_of_getElem? here)
      rw [sameBelow i below]
      exact ⟨old, (Function.update_of_ne different _ _).trans found, seededOld⟩
    · obtain rfl : i = lights.length := by
        have bound := (List.getElem?_eq_some_iff.mp here).1
        simp at bound
        omega
      obtain rfl : (dev, device) = light := by simpa using here
      rw [Function.update_self]
      exact ⟨object, Function.update_self _ _ _, seeded⟩

/-- The address of the next device object is none of the published ones. -/
theorem Arranged.address_fresh (arranged : bridge.Arranged first ids lights) (heap : Allocator) :
    heap.address (bridge.gBridgedWemoLights.map (·.device)) ∉ lights.map Prod.snd := by
  have devices : bridge.gBridgedWemoLights.map (·.device) = lights.map Prod.snd := by
    rw [arranged.entries, List.map_map]
    rfl
  rw [← devices]
  exact heap.fresh _

end Bridge

section Turn

variable {bridge : Bridge D} {first : EndpointId} {ids : Nat → EndpointId}
  {lights : List (WemoDevice × DevicePtr)} {refuses : EndpointId → Bool}

/-- The call of `AddDeviceEndpoint` in a turn enters the loop with the first free slot claimed. -/
theorem Bridge.Arranged.addDeviceEndpoint_eq (arranged : bridge.Arranged first ids lights)
    (notFull : lights.length < CHIP_DEVICE_CONFIG_DYNAMIC_ENDPOINT_COUNT) (dev : WemoDevice)
    (device : DevicePtr) :
    addDeviceEndpoint refuses device (endpointTypeOf dev.supportsLevel) 1
        (pushDevice dev device bridge) =
      tryEndpointIds refuses device (endpointTypeOf dev.supportsLevel) 1 lights.length (2 ^ 16)
        { pushDevice dev device bridge with
          gDevices := Function.update bridge.gDevices lights.length (some device) } := by
  unfold addDeviceEndpoint
  rw [show (pushDevice dev device bridge).gDevices = bridge.gDevices from rfl,
    arranged.find?_slot notFull]

/-- **One turn of the loop.** The device is offered under the first id no published light holds. If
there is none `AddDeviceEndpoint` does not return. If the SDK refuses that id the call answers -1
and the tables are as before, otherwise it answers the next slot and the device is the next light. -/
theorem Bridge.Arranged.turn (arranged : bridge.Arranged first ids lights)
    (notFull : lights.length < CHIP_DEVICE_CONFIG_DYNAMIC_ENDPOINT_COUNT) (dev : WemoDevice)
    {device : DevicePtr} (deviceFresh : device ∉ lights.map Prod.snd) :
    match firstUnheld (heldBelow ids lights.length) first (2 ^ 16) bridge.gCurrentEndpointId with
    | none => addDeviceEndpoint refuses device (endpointTypeOf dev.supportsLevel) 1
        (pushDevice dev device bridge) = none
    | some id => ∃ added, addDeviceEndpoint refuses device (endpointTypeOf dev.supportsLevel) 1
        (pushDevice dev device bridge) = some added ∧
      (finishPublish dev device added).gCurrentEndpointId = id ∧
      if refuses id then
        added.2 = -1 ∧ (finishPublish dev device added).Arranged first ids lights
      else added.2 = lights.length ∧ (finishPublish dev device added).Arranged first
        (Function.update ids lights.length id) (lights ++ [(dev, device)]) := by
  rw [arranged.addDeviceEndpoint_eq notFull]
  have offered := arranged.holdsElsewhere_eq
  cases found : firstUnheld (heldBelow ids lights.length) first (2 ^ 16)
      bridge.gCurrentEndpointId with
  | none =>
    refine tryEndpointIds_eq_none _ (Function.update_self _ _ _) ?_
    show firstUnheld (bridge.holdsElsewhere lights.length) bridge.gFirstDynamicEndpointId _
      bridge.gCurrentEndpointId = none
    rw [offered, arranged.first_eq, found]
  | some id =>
    have unheld := firstUnheld_not_held _ found
    have start : firstUnheld (bridge.holdsElsewhere lights.length) bridge.gFirstDynamicEndpointId
        (2 ^ 16) bridge.gCurrentEndpointId = some id := by
      rw [offered, arranged.first_eq, found]
    obtain ⟨base, attributes, loop⟩ := @tryEndpointIds_eq D _ refuses device
      (endpointTypeOf dev.supportsLevel) 1 lights.length (2 ^ 16)
      { pushDevice dev device bridge with
        gDevices := Function.update bridge.gDevices lights.length (some device) }
      (seedObject dev) id (Function.update_self _ _ _) start
    refine ⟨_, loop, ?_⟩
    by_cases refused : refuses id
    · rw [if_pos refused, if_pos refused]
      have slotFree : bridge.gDevices lights.length = none := by simp [arranged.slots]
      have shape := arranged.refuse id deviceFresh
      simp only [finishPublish, Int.reduceNeg, Int.reduceLT, if_pos, Bridge.store, pushDevice,
        Function.update_idem, List.dropLast_concat, ← slotFree, Function.update_eq_self] at shape ⊢
      exact ⟨trivial, trivial, shape⟩
    · rw [if_neg refused, if_neg refused]
      have shape := arranged.add notFull unheld deviceFresh (seededAs_install attributes)
      have nonnegative : ¬ (lights.length : Int) < 0 := by omega
      simp only [finishPublish, if_neg nonnegative, Bridge.store, pushDevice, Bridge.changeObject,
        Function.update_self, Option.map_some, Function.update_idem]
      exact ⟨trivial, trivial, shape⟩

end Turn

end WemoBridge
