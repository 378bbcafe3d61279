/-
**The order of discovery is irrelevant.**

Discovered devices with pairwise distinct UDNs have one sorted list, whatever order they came in
(`sortDiscovered_eq_of_perm`). If the SDK answers by the device and the id it is offered, two starts
therefore have one plan, and two bridges that realize one plan differ in the addresses of their
device objects alone (`Realizes.sameUpToAddresses`).
-/

import WemoBridge.Plan
import WemoBridge.Restart

namespace WemoBridge

open Library

variable {D : Type} [ChipSdk D]

/-! ### Bridges up to addresses -/

/-- What a slot publishes, without the address of its device object. -/
structure SlotContents where
  registered : DynamicEndpoint
  udn : CppString
  entry : BridgedWemoLight
  attributes : DeviceAttributes
  onOffChangedCb : Option OnOffCallback
  /-- there exactly on an object of class `DeviceDimmable` -/
  dimmer : Option Dimmer
  deriving DecidableEq, Repr

/-- What a slot publishes, if it is filled. -/
def Bridge.contents (bridge : Bridge D) (index : Nat) : Option SlotContents :=
  (bridge.gDevices index).bind fun dev =>
    (bridge.dynamicEndpoints index).bind fun registered =>
      (bridge.gWemoDeviceToUdn dev).bind fun udn =>
        (bridge.lightAt dev).map fun light =>
          { registered := registered
            udn := udn
            entry := light.entry.withoutAddress
            attributes := ChipSdk.attributes light.object.base
            onOffChangedCb := light.object.onOffChangedCb
            dimmer := light.object.dimmer }

/-- **The same bridge, up to the addresses of its device objects.** -/
structure Bridge.SameUpToAddresses (first second : Bridge D) : Prop where
  filled : ∀ index, (first.gDevices index).isSome = (second.gDevices index).isSome
  contents : first.contents = second.contents
  registered : first.dynamicEndpoints = second.dynamicEndpoints
  entries : first.gBridgedWemoLights.map (·.withoutAddress) =
    second.gBridgedWemoLights.map (·.withoutAddress)
  gCurrentEndpointId : first.gCurrentEndpointId = second.gCurrentEndpointId

/-- The contents of a slot of an arranged bridge. -/
theorem Bridge.Arranged.contents_eq {bridge : Bridge D} {first : EndpointId}
    {ids : Nat → EndpointId} {lights : List (WemoDevice × DevicePtr)}
    (arranged : bridge.Arranged first ids lights) (index : Nat) :
    bridge.contents index = (lights.map Prod.fst)[index]?.map fun dev =>
      { registered :=
          { endpointId := ids index, endpointType := endpointTypeOf dev.supportsLevel }
        udn := dev.udn
        entry := newEntry dev 0
        attributes :=
          { isOn := decide (dev.onoff ≠ 0)
            isReachable := dev.isOnline
            name := ChipSdk.storedName D (cStr (publishedName dev))
            endpointId := ids index }
        onOffChangedCb := some (if dev.supportsLevel then .dimmableBridge
          else .handleDeviceOnOffStatusChanged)
        dimmer := if dev.supportsLevel then
            some { mLevel := seedLevel dev.levelPercent
                   mChangedCb := some .handleDeviceDimmableStatusChanged }
          else none } := by
  rw [List.getElem?_map, contents, arranged.slots, arranged.registered]
  cases here : lights[index]? with
  | none => rfl
  | some light =>
    obtain ⟨object, found, seeded⟩ := arranged.lightAt_slot here
    have attributes : ChipSdk.attributes object.base =
        { isOn := decide (light.1.onoff ≠ 0)
          isReachable := light.1.isOnline
          name := ChipSdk.storedName D (cStr (publishedName light.1))
          endpointId := ids index } :=
      DeviceAttributes.ext seeded.isOn seeded.isReachable seeded.name seeded.endpoint
    simp only [Option.map_some, Option.bind_some, arranged.udns light (List.mem_of_getElem? here),
      found, attributes, seeded.callback, seeded.dimmer]
    rfl

/-- **Two bridges that realize one plan** differ in addresses alone. -/
theorem Bridge.Realizes.sameUpToAddresses {first : EndpointId} {plan : Plan} {one other : Bridge D}
    (realizes : one.Realizes first plan) (realizes' : other.Realizes first plan) :
    one.SameUpToAddresses other := by
  obtain ⟨current, lights, devices, arranged⟩ := realizes
  obtain ⟨current', lights', devices', arranged'⟩ := realizes'
  have sameDevices : lights.map Prod.fst = lights'.map Prod.fst := devices.trans devices'.symm
  have sameAt : ∀ index : Nat, lights[index]?.map Prod.fst = lights'[index]?.map Prod.fst := by
    intro index
    rw [← List.getElem?_map, ← List.getElem?_map, sameDevices]
  refine ⟨fun index => ?_, funext fun index => ?_, funext fun index => ?_, ?_,
    current.trans current'.symm⟩
  · have same := congrArg Option.isSome (sameAt index)
    rw [Option.isSome_map, Option.isSome_map] at same
    rw [arranged.slots, arranged'.slots, Option.isSome_map, Option.isSome_map, same]
  · rw [arranged.contents_eq, arranged'.contents_eq, sameDevices]
  · have byDevice : ∀ slot : Option (WemoDevice × DevicePtr), (slot.map fun light =>
        ({ endpointId := plan.ids index
           endpointType := endpointTypeOf light.1.supportsLevel } : DynamicEndpoint)) =
        (slot.map Prod.fst).map fun dev =>
          { endpointId := plan.ids index, endpointType := endpointTypeOf dev.supportsLevel } := by
      intro slot
      rw [Option.map_map]
      rfl
    rw [arranged.registered, arranged'.registered, byDevice, byDevice, sameAt]
  · rw [arranged.entries_withoutAddress, arranged'.entries_withoutAddress, sameDevices]

/-! ### Two orders of discovery -/

/-- **One sorted list for every order.** -/
theorem sortDiscovered_eq_of_perm {first second : List WemoDevice} (perm : first.Perm second)
    (distinct : (first.map (·.udn)).Nodup) : sortDiscovered first = sortDiscovered second := by
  have distinct' : (second.map (·.udn)).Nodup := (perm.map _).nodup_iff.mp distinct
  refine List.Perm.eq_of_pairwise ?_ (sortDiscovered_pairwise distinct)
    (sortDiscovered_pairwise distinct') ?_
  · intro a b _ _ before after
    exact absurd before after.asymm
  · exact (sortDiscovered_perm first).trans (perm.trans (sortDiscovered_perm second).symm)

/-- The k-th call of `AddDeviceEndpoint` is for the k-th device of the sorted list, and the SDK
answers it by that device and the id it is offered. -/
def AnswersByDevice (sdk : WemoDevice → EndpointId → Bool) (discovered : List WemoDevice)
    (refuses : Nat → EndpointId → Bool) : Prop :=
  ∀ call dev, (sortDiscovered discovered)[call]? = some dev → refuses call = sdk dev

/-- **The order of discovery is irrelevant.** Two starts with the same fixed endpoints, from lists
that are permutations of each other with pairwise distinct UDNs, and an SDK that answers by device
and id: both return or neither does, and the bridges differ in the addresses of their device objects
alone. -/
theorem discovery_order_irrelevant {heap heap' : Allocator} {lastFixed : EndpointId}
    {sdk : WemoDevice → EndpointId → Bool} {refuses refuses' : Nat → EndpointId → Bool}
    {first second : List WemoDevice} (perm : first.Perm second)
    (distinct : (first.map (·.udn)).Nodup) (answers : AnswersByDevice sdk first refuses)
    (answers' : AnswersByDevice sdk second refuses') :
    Option.Rel Bridge.SameUpToAddresses
      (applicationInit heap lastFixed refuses first : Option (Bridge D))
      (applicationInit heap' lastFixed refuses' second) := by
  have refines := @applicationInit_refines D _ heap lastFixed refuses first
  have refines' := @applicationInit_refines D _ heap' lastFixed refuses' second
  have sorted := sortDiscovered_eq_of_perm perm distinct
  have samePlan : (Plan.empty (lastFixed + 1)).publishAll (lastFixed + 1) refuses 0
        (sortDiscovered first) =
      (Plan.empty (lastFixed + 1)).publishAll (lastFixed + 1) refuses' 0
        (sortDiscovered second) := by
    rw [← sorted]
    refine Plan.publishAll_congr _ fun k below => ?_
    obtain ⟨dev, here⟩ : ∃ dev, (sortDiscovered first)[k]? = some dev :=
      ⟨_, List.getElem?_eq_getElem below⟩
    have here' : (sortDiscovered second)[k]? = some dev := sorted ▸ here
    rw [Nat.zero_add, answers k dev here, answers' k dev here']
  rw [samePlan] at refines
  generalize (Plan.empty (lastFixed + 1)).publishAll (lastFixed + 1) refuses' 0
    (sortDiscovered second) = planned at refines refines'
  generalize (applicationInit heap lastFixed refuses first : Option (Bridge D)) = one at refines ⊢
  generalize (applicationInit heap' lastFixed refuses' second : Option (Bridge D)) = other
    at refines' ⊢
  cases refines with
  | none =>
    cases refines'
    exact Option.Rel.none
  | some realizes =>
    cases refines' with
    | some realizes' => exact Option.Rel.some (realizes.sameUpToAddresses realizes')

/-- The sample devices in the other order. -/
theorem discovery_order_irrelevant_sample :
    Option.Rel Bridge.SameUpToAddresses
      (applicationInit nextAddress 2 refusesInvalid sampleDevices : Option (Bridge PlainDevice))
      (applicationInit nextAddress 2 refusesInvalid sampleDevices.reverse) :=
  discovery_order_irrelevant (List.reverse_perm _).symm (by decide)
    (fun _ _ _ => (rfl : _ = fun id => decide (id = kInvalidEndpointId))) fun _ _ _ => rfl

end WemoBridge
