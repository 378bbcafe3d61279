/-
**Adding an endpoint: `AddDeviceEndpoint` and its retry loop.**

The bridge claims the first free slot of its device table and offers the SDK one endpoint id after
the other until the SDK does not answer that another slot holds it. What else the SDK may object to
is an argument, `refuses`. The C++ loop has no bound; here it has as much fuel as there are endpoint
ids, after which it would start over, and `none` is a loop that never ends.

`tryEndpointIds_eq` — the loop ends exactly where `firstUnheld` does: at the first id, counting
upwards from the shared counter and around, that no other slot holds.
-/

import WemoBridge.Bridge

namespace WemoBridge

variable {D : Type}

/-- The answers of `emberAfSetDynamicEndpoint` that its caller tells apart. -/
inductive ChipError where
  | noError
  | endpointExists
  | otherError
  deriving DecidableEq, Repr

/-- The id after `id`: incremented as a `uint16_t`, and not below the first dynamic id. -/
def nextEndpointId (first id : EndpointId) : EndpointId :=
  if id + 1 < first then first else id + 1

/-- The first id that is not held, trying `id`, the id after it, and so on. -/
def firstUnheld (held : EndpointId → Bool) (first : EndpointId) : Nat → EndpointId →
    Option EndpointId
  | 0, _ => none
  | fuel + 1, id =>
      if held id then firstUnheld held first fuel (nextEndpointId first id) else some id

namespace Bridge

/-- Another dynamic slot than `index` holds the endpoint id. -/
def holdsElsewhere (bridge : Bridge D) (index : Nat) (id : EndpointId) : Bool :=
  (List.range CHIP_DEVICE_CONFIG_DYNAMIC_ENDPOINT_COUNT).any fun other =>
    other ≠ index && (bridge.dynamicEndpoints other).any (·.endpointId = id)

/-- `emberAfSetDynamicEndpoint`: an id held by another slot is answered `ENDPOINT_EXISTS`, an id the
SDK refuses is answered with another error, and any other id fills the slot. -/
def emberAfSetDynamicEndpoint (refuses : EndpointId → Bool) (index : Nat) (id : EndpointId)
    (ep : EndpointType) (bridge : Bridge D) : Bridge D × ChipError :=
  if bridge.holdsElsewhere index id then (bridge, .endpointExists)
  else if refuses id then (bridge, .otherError)
  else
    ({ bridge with
        dynamicEndpoints := Function.update bridge.dynamicEndpoints index
          (some { endpointId := id, endpointType := ep }) }, .noError)

/-- Change the object at an address. -/
def changeObject (bridge : Bridge D) (dev : DevicePtr)
    (change : DeviceObject D → DeviceObject D) : Bridge D :=
  { bridge with objects := Function.update bridge.objects dev ((bridge.objects dev).map change) }

end Bridge

variable [ChipSdk D]

namespace DeviceObject

/-- `SetEndpointId` and `SetParentEndpointId` -/
def setEndpointIds (id parentEndpointId : EndpointId) (dev : DeviceObject D) : DeviceObject D :=
  { dev with base := ChipSdk.setParentEndpointId parentEndpointId (ChipSdk.setEndpointId id dev.base) }

/-- `GenerateUniqueId`, if there is none yet. -/
def ensureUniqueId (dev : DeviceObject D) : DeviceObject D :=
  if cStr (ChipSdk.getUniqueId dev.base) = [] then
    { dev with base := ChipSdk.generateUniqueId dev.base } else dev

end DeviceObject

/-- The `while (true)` loop of `AddDeviceEndpoint`. -/
def tryEndpointIds (refuses : EndpointId → Bool) (dev : DevicePtr) (ep : EndpointType)
    (parentEndpointId : EndpointId) (index : Nat) : Nat → Bridge D → Option (Bridge D × Int)
  | 0, _ => none
  | fuel + 1, bridge =>
      let bridge := bridge.changeObject dev
        (DeviceObject.setEndpointIds bridge.gCurrentEndpointId parentEndpointId)
      match bridge.emberAfSetDynamicEndpoint refuses index bridge.gCurrentEndpointId ep with
      | (bridge, .noError) => some (bridge.changeObject dev DeviceObject.ensureUniqueId, index)
      | (bridge, .otherError) =>
          some ({ bridge with gDevices := Function.update bridge.gDevices index none }, -1)
      | (bridge, .endpointExists) =>
          tryEndpointIds refuses dev ep parentEndpointId index fuel
            { bridge with
              gCurrentEndpointId :=
                nextEndpointId bridge.gFirstDynamicEndpointId bridge.gCurrentEndpointId }

/-- `AddDeviceEndpoint`: the slot, or -1; `none` if it never returns. -/
def addDeviceEndpoint (refuses : EndpointId → Bool) (dev : DevicePtr) (ep : EndpointType)
    (parentEndpointId : EndpointId) (bridge : Bridge D) : Option (Bridge D × Int) :=
  match (List.range CHIP_DEVICE_CONFIG_DYNAMIC_ENDPOINT_COUNT).find? fun index =>
      (bridge.gDevices index).isNone with
  | none => some (bridge, -1)
  | some index =>
      tryEndpointIds refuses dev ep parentEndpointId index (2 ^ 16)
        { bridge with gDevices := Function.update bridge.gDevices index (some dev) }

/-! ### What the loop does -/

section Loop

variable {refuses : EndpointId → Bool} {dev : DevicePtr} {ep : EndpointType}
  {parentEndpointId : EndpointId} {index : Nat}

/-- The object with the ids of one try. -/
theorem setEndpointIds_attributes (id : EndpointId) (object : DeviceObject D) :
    ChipSdk.attributes (object.setEndpointIds id parentEndpointId).base =
      { ChipSdk.attributes object.base with endpointId := id } := by
  simp only [DeviceObject.setEndpointIds, ChipSdk.attributes_setParentEndpointId,
    ChipSdk.attributes_setEndpointId]

theorem ensureUniqueId_attributes (object : DeviceObject D) :
    ChipSdk.attributes object.ensureUniqueId.base = ChipSdk.attributes object.base := by
  unfold DeviceObject.ensureUniqueId
  split
  · exact ChipSdk.attributes_generateUniqueId object.base
  · rfl

/-- Nothing but the SDK's part changes. -/
theorem ensureUniqueId_eq (object : DeviceObject D) :
    object.ensureUniqueId = { object with base := object.ensureUniqueId.base } := by
  unfold DeviceObject.ensureUniqueId
  split <;> rfl

omit [ChipSdk D] in
theorem changeObject_eq_store {bridge : Bridge D} {object : DeviceObject D}
    (found : bridge.objects dev = some object) (change : DeviceObject D → DeviceObject D) :
    bridge.changeObject dev change = bridge.store dev (change object) := by
  simp [Bridge.changeObject, Bridge.store, found]

/-- **The loop stops at the first id no other slot holds.** The counter stays there and the object
carries that id; if the SDK refuses the id the slot is given up, otherwise it is filled. -/
theorem tryEndpointIds_eq (fuel : Nat) : ∀ {bridge : Bridge D} {object : DeviceObject D}
    {id : EndpointId}, bridge.objects dev = some object →
      firstUnheld (bridge.holdsElsewhere index) bridge.gFirstDynamicEndpointId fuel
        bridge.gCurrentEndpointId = some id →
      ∃ base, ChipSdk.attributes base = { ChipSdk.attributes object.base with endpointId := id } ∧
        tryEndpointIds refuses dev ep parentEndpointId index fuel bridge =
          some (if refuses id then
            ({ bridge.store dev { object with base := base } with
                gCurrentEndpointId := id
                gDevices := Function.update bridge.gDevices index none }, -1)
          else
            ({ bridge.store dev { object with base := base } with
                gCurrentEndpointId := id
                dynamicEndpoints := Function.update bridge.dynamicEndpoints index
                  (some { endpointId := id, endpointType := ep }) }, (index : Int))) := by
  induction fuel with
  | zero =>
    intro bridge object id _ found
    cases found
  | succ fuel ih =>
    intro bridge object id atDev found
    let offered := object.setEndpointIds bridge.gCurrentEndpointId parentEndpointId
    have tried : ChipSdk.attributes offered.base =
        { ChipSdk.attributes object.base with endpointId := bridge.gCurrentEndpointId } :=
      setEndpointIds_attributes bridge.gCurrentEndpointId object
    have atOffered : (bridge.store dev offered).objects dev = some offered :=
      Function.update_self _ _ _
    have sameSlots : (bridge.store dev offered).holdsElsewhere index bridge.gCurrentEndpointId =
        bridge.holdsElsewhere index bridge.gCurrentEndpointId := rfl
    rw [firstUnheld] at found
    rw [tryEndpointIds, changeObject_eq_store atDev]
    simp only [Bridge.emberAfSetDynamicEndpoint]
    rw [show (bridge.store dev _).gCurrentEndpointId = bridge.gCurrentEndpointId from rfl]
    by_cases held : bridge.holdsElsewhere index bridge.gCurrentEndpointId
    · -- another slot holds the id: the loop goes on with the next one
      rw [if_pos held] at found
      rw [if_pos (sameSlots.trans held)]
      obtain ⟨base, attributes, rest⟩ := @ih
        { bridge.store dev offered with
          gCurrentEndpointId :=
            nextEndpointId bridge.gFirstDynamicEndpointId bridge.gCurrentEndpointId }
        offered id atOffered found
      refine ⟨base, by rw [attributes, tried], rest.trans ?_⟩
      simp only [Bridge.store, Function.update_idem]
      rfl
    · rw [if_neg held] at found
      rw [if_neg (mt sameSlots.symm.trans held)]
      obtain rfl := Option.some.inj found
      by_cases refused : refuses bridge.gCurrentEndpointId
      · exact ⟨offered.base, tried, by rw [if_pos refused, if_pos refused]; rfl⟩
      · refine ⟨offered.ensureUniqueId.base, (ensureUniqueId_attributes _).trans tried, ?_⟩
        rw [if_neg refused, if_neg refused]
        refine congrArg some (congrArg (·, (index : Int)) ?_)
        rw [changeObject_eq_store (by exact atOffered), ensureUniqueId_eq]
        simp only [Bridge.store, Function.update_idem]
        rfl

/-- If every id is held the loop does not end. -/
theorem tryEndpointIds_eq_none (fuel : Nat) : ∀ {bridge : Bridge D} {object : DeviceObject D},
    bridge.objects dev = some object →
      firstUnheld (bridge.holdsElsewhere index) bridge.gFirstDynamicEndpointId fuel
        bridge.gCurrentEndpointId = none →
      tryEndpointIds refuses dev ep parentEndpointId index fuel bridge = none := by
  induction fuel with
  | zero => exact fun _ _ => rfl
  | succ fuel ih =>
    intro bridge object atDev found
    rw [firstUnheld] at found
    split at found
    · rename_i held
      have heldNow : (bridge.changeObject dev (DeviceObject.setEndpointIds
          bridge.gCurrentEndpointId parentEndpointId)).holdsElsewhere index
            bridge.gCurrentEndpointId := held
      rw [tryEndpointIds, changeObject_eq_store atDev] at *
      simp only [Bridge.emberAfSetDynamicEndpoint]
      rw [show (bridge.store dev _).gCurrentEndpointId = bridge.gCurrentEndpointId from rfl,
        if_pos heldNow]
      exact @ih { bridge.store dev _ with
        gCurrentEndpointId :=
          nextEndpointId bridge.gFirstDynamicEndpointId bridge.gCurrentEndpointId } _
        (Function.update_self _ _ _) found
    · cases found

/-- The loop does not touch the entries. -/
theorem tryEndpointIds_entries (fuel : Nat) : ∀ {bridge : Bridge D} {added : Bridge D × Int},
    tryEndpointIds refuses dev ep parentEndpointId index fuel bridge = some added →
      added.1.gBridgedWemoLights = bridge.gBridgedWemoLights := by
  induction fuel with
  | zero =>
    intro bridge added tries
    cases tries
  | succ fuel ih =>
    intro bridge added tries
    rw [tryEndpointIds] at tries
    simp only [Bridge.emberAfSetDynamicEndpoint] at tries
    by_cases held : (bridge.changeObject dev (DeviceObject.setEndpointIds bridge.gCurrentEndpointId
        parentEndpointId)).holdsElsewhere index bridge.gCurrentEndpointId
    · rw [if_pos (by exact held)] at tries
      exact (ih tries).trans rfl
    · rw [if_neg (by exact held)] at tries
      by_cases refused : refuses bridge.gCurrentEndpointId
      · rw [if_pos (by exact refused)] at tries
        rw [← Option.some.inj tries]
        rfl
      · rw [if_neg (by exact refused)] at tries
        rw [← Option.some.inj tries]
        rfl

/-- Nor does `AddDeviceEndpoint`. -/
theorem addDeviceEndpoint_entries {bridge : Bridge D} {added : Bridge D × Int}
    (adds : addDeviceEndpoint refuses dev ep parentEndpointId bridge = some added) :
    added.1.gBridgedWemoLights = bridge.gBridgedWemoLights := by
  unfold addDeviceEndpoint at adds
  split at adds
  · rw [← Option.some.inj adds]
  · have kept := tryEndpointIds_entries _ adds
    exact kept

end Loop

/-- The id the loop stops at is not held. -/
theorem firstUnheld_not_held {held : EndpointId → Bool} {first : EndpointId} (fuel : Nat) :
    ∀ {id found : EndpointId}, firstUnheld held first fuel id = some found →
      held found = false := by
  induction fuel with
  | zero =>
    intro id found stops
    cases stops
  | succ fuel ih =>
    intro id found stops
    rw [firstUnheld] at stops
    split at stops
    · exact ih stops
    · rename_i free
      rw [← Option.some.inj stops]
      exact Bool.eq_false_iff.mpr free

theorem nextEndpointId_ge (first id : EndpointId) : first ≤ nextEndpointId first id := by
  unfold nextEndpointId
  split
  · exact UInt16.le_refl first
  · rename_i notBelow
    exact UInt16.not_lt.mp notBelow

/-- The loop stops at no id below the first dynamic one. -/
theorem firstUnheld_ge {held : EndpointId → Bool} {first : EndpointId} (fuel : Nat) :
    ∀ {id found : EndpointId}, first ≤ id → firstUnheld held first fuel id = some found →
      first ≤ found := by
  induction fuel with
  | zero =>
    intro id found _ stops
    cases stops
  | succ fuel ih =>
    intro id found above stops
    rw [firstUnheld] at stops
    split at stops
    · exact ih (nextEndpointId_ge first id) stops
    · rwa [← Option.some.inj stops]

end WemoBridge
