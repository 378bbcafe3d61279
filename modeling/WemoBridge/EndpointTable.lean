/-
**The device table and the SDK's endpoint table.**

`AddDeviceEndpoint` claims a slot of `gDevices` before the SDK accepts it and takes it back if the
SDK refuses; `RemoveDeviceEndpoint` clears the slot on both sides. `Reaches` is any sequence of such
calls, each adding a device that is not registered or removing any device, with arbitrary errors of
the SDK. After each call the two tables are `Mirrored`: the same slots are filled, a slot's device
carries the endpoint id the SDK has for it, and the live ids are distinct and dynamic.

So a slot the SDK finds for an endpoint id is never empty (`Mirrored.callback_device`): the write
callback, which does not check, and the read callback, which does, serve the device with that id
(`Serves`).
-/

import WemoBridge.Endpoint
import WemoBridge.Published
import WemoBridge.Library.SlotTable

namespace WemoBridge

open Library

variable {D : Type}

/-! ### Removing an endpoint -/

namespace Bridge

/-- `emberAfClearDynamicEndpoint`; the id it returns is only logged. -/
def emberAfClearDynamicEndpoint (index : Nat) (bridge : Bridge D) : Bridge D :=
  { bridge with dynamicEndpoints := Function.update bridge.dynamicEndpoints index none }

end Bridge

/-- `RemoveDeviceEndpoint`: the slot, or -1. -/
def removeDeviceEndpoint (dev : DevicePtr) (bridge : Bridge D) : Bridge D × Int :=
  match (List.range CHIP_DEVICE_CONFIG_DYNAMIC_ENDPOINT_COUNT).find? fun index =>
      bridge.gDevices index = some dev with
  | none => (bridge, -1)
  | some index =>
      ({ bridge.emberAfClearDynamicEndpoint index with
          gDevices := Function.update bridge.gDevices index none }, index)

/-! ### Calls -/

/-- A call of `AddDeviceEndpoint`, with what else the SDK refuses in it, or of
`RemoveDeviceEndpoint`. -/
inductive EndpointCall where
  | add (dev : DevicePtr) (ep : EndpointType) (parentEndpointId : EndpointId)
      (refuses : EndpointId → Bool)
  | remove (dev : DevicePtr)

namespace EndpointCall

/-- A device that is added exists and is not registered. -/
def Allowed (bridge : Bridge D) : EndpointCall → Prop
  | .add dev _ _ _ => bridge.objects dev ≠ none ∧
      ∀ index < CHIP_DEVICE_CONFIG_DYNAMIC_ENDPOINT_COUNT, bridge.gDevices index ≠ some dev
  | .remove _ => True

instance (bridge : Bridge D) (call : EndpointCall) : Decidable (call.Allowed bridge) :=
  match call with
  | .add _ _ _ _ => inferInstanceAs (Decidable (_ ∧ _))
  | .remove _ => inferInstanceAs (Decidable True)

variable [ChipSdk D]

/-- The tables after the call and what it returns; `none` if it does not return. -/
def perform (bridge : Bridge D) : EndpointCall → Option (Bridge D × Int)
  | .add dev ep parentEndpointId refuses => addDeviceEndpoint refuses dev ep parentEndpointId bridge
  | .remove dev => some (removeDeviceEndpoint dev bridge)

end EndpointCall

namespace Bridge

/-- No endpoint has been added. -/
structure NoEndpoints (bridge : Bridge D) : Prop where
  gDevices : ∀ index, bridge.gDevices index = none
  dynamicEndpoints : ∀ index, bridge.dynamicEndpoints index = none
  current : bridge.gCurrentEndpointId = bridge.gFirstDynamicEndpointId

variable [ChipSdk D]

/-- Calls that return lead from one bridge to the other. -/
def Reaches : Bridge D → Bridge D → Prop :=
  Relation.ReflTransGen fun before after =>
    ∃ call result, EndpointCall.Allowed before call ∧ call.perform before = some (after, result)

/-! ### What the calls keep -/

/-- The device carries the endpoint id of the SDK's slot. -/
def CarriesId (bridge : Bridge D) (dev : DevicePtr) (slot : DynamicEndpoint) : Prop :=
  ∃ object, bridge.objects dev = some object ∧ object.getEndpointId = slot.endpointId

/-- **The tables mirror each other**, with distinct dynamic ids. -/
structure Mirrored (bridge : Bridge D) (first : EndpointId) : Prop where
  first_eq : bridge.gFirstDynamicEndpointId = first
  current_ge : first ≤ bridge.gCurrentEndpointId
  mirrors : Mirrors bridge.CarriesId bridge.gDevices bridge.dynamicEndpoints
  distinct : DistinctKeys DynamicEndpoint.endpointId bridge.dynamicEndpoints
  index_lt : ∀ index slot, bridge.dynamicEndpoints index = some slot →
    index < CHIP_DEVICE_CONFIG_DYNAMIC_ENDPOINT_COUNT
  id_ge : ∀ index slot, bridge.dynamicEndpoints index = some slot → first ≤ slot.endpointId

theorem NoEndpoints.mirrored {bridge : Bridge D} (empty : bridge.NoEndpoints) :
    bridge.Mirrored bridge.gFirstDynamicEndpointId := by
  have unfilled : ∀ {index slot}, bridge.dynamicEndpoints index = some slot → False := by
    intro index slot filled
    rw [empty.dynamicEndpoints] at filled
    cases filled
  refine ⟨rfl, empty.current ▸ UInt16.le_refl _, fun index => ?_, ?_, ?_, ?_⟩
  · rw [empty.gDevices, empty.dynamicEndpoints]
    exact Option.Rel.none
  · exact fun _ _ _ _ filled => (unfilled filled).elim
  · exact fun _ _ filled => (unfilled filled).elim
  · exact fun _ _ filled => (unfilled filled).elim

end Bridge

section Add

variable [ChipSdk D] {bridge after : Bridge D} {refuses : EndpointId → Bool} {dev : DevicePtr}
  {ep : EndpointType} {parentEndpointId : EndpointId} {result : Int} {object : DeviceObject D}

/-- **What `AddDeviceEndpoint` does when it returns.** With all slots taken nothing changes.
Otherwise the device carries the first id no other slot holds, and the first free slot is filled on
both sides if the SDK takes that id, and on neither if it refuses. -/
theorem addDeviceEndpoint_cases (atDev : bridge.objects dev = some object)
    (adds : addDeviceEndpoint refuses dev ep parentEndpointId bridge = some (after, result)) :
    (after = bridge ∧ result = -1 ∧
      ∀ index < CHIP_DEVICE_CONFIG_DYNAMIC_ENDPOINT_COUNT, bridge.gDevices index ≠ none) ∨
    ∃ index id base, index < CHIP_DEVICE_CONFIG_DYNAMIC_ENDPOINT_COUNT ∧
      bridge.gDevices index = none ∧
      firstUnheld (bridge.holdsElsewhere index) bridge.gFirstDynamicEndpointId (2 ^ 16)
        bridge.gCurrentEndpointId = some id ∧
      ChipSdk.attributes base = { ChipSdk.attributes object.base with endpointId := id } ∧
      (refuses id = true ∧ result = -1 ∧
          after = { bridge.store dev { object with base := base } with gCurrentEndpointId := id } ∨
        refuses id = false ∧ result = index ∧
          after = { bridge.store dev { object with base := base } with
            gCurrentEndpointId := id
            gDevices := Function.update bridge.gDevices index (some dev)
            dynamicEndpoints := Function.update bridge.dynamicEndpoints index
              (some { endpointId := id, endpointType := ep }) }) := by
  unfold addDeviceEndpoint at adds
  cases free : (List.range CHIP_DEVICE_CONFIG_DYNAMIC_ENDPOINT_COUNT).find? fun index =>
      (bridge.gDevices index).isNone with
  | none =>
    rw [free] at adds
    obtain ⟨rfl, rfl⟩ := Prod.ext_iff.mp (Option.some.inj adds)
    refine Or.inl ⟨rfl, rfl, fun index below empty => ?_⟩
    refine List.find?_eq_none.mp free index (List.mem_range.mpr below) ?_
    rw [empty]
    rfl
  | some index =>
    rw [free] at adds
    have below := List.mem_range.mp (List.mem_of_find?_eq_some free)
    have isFree := List.find?_some free
    have empty : bridge.gDevices index = none := Option.isNone_iff_eq_none.mp isFree
    let claimed : Bridge D :=
      { bridge with gDevices := Function.update bridge.gDevices index (some dev) }
    have entered : tryEndpointIds refuses dev ep parentEndpointId index (2 ^ 16) claimed =
        some (after, result) := adds
    cases found : firstUnheld (bridge.holdsElsewhere index) bridge.gFirstDynamicEndpointId (2 ^ 16)
        bridge.gCurrentEndpointId with
    | none =>
      have never := @tryEndpointIds_eq_none D _ refuses dev ep parentEndpointId index (2 ^ 16)
        claimed object atDev found
      cases never.symm.trans entered
    | some id =>
      obtain ⟨base, attributes, loop⟩ := @tryEndpointIds_eq D _ refuses dev ep parentEndpointId
        index (2 ^ 16) claimed object id atDev found
      refine Or.inr ⟨index, id, base, below, empty, found, attributes, ?_⟩
      have ends := Option.some.inj (loop.symm.trans entered)
      cases refused : refuses id with
      | true =>
        rw [refused, if_pos rfl] at ends
        obtain ⟨rfl, rfl⟩ := Prod.ext_iff.mp ends
        refine Or.inl ⟨rfl, rfl, ?_⟩
        have undone : Function.update claimed.gDevices index none = bridge.gDevices := by
          rw [Function.update_idem, ← empty, Function.update_eq_self]
        rw [undone]
        rfl
      | false =>
        rw [refused, if_neg Bool.false_ne_true] at ends
        obtain ⟨rfl, rfl⟩ := Prod.ext_iff.mp ends
        exact Or.inr ⟨rfl, rfl, rfl⟩

end Add

/-! ### Every call keeps the tables mirrored -/

namespace Bridge

variable [ChipSdk D] {bridge after : Bridge D} {first : EndpointId} {dev : DevicePtr}

/-- An id no other slot holds is held by no filled slot but this one. -/
theorem Mirrored.fresh (mirrored : bridge.Mirrored first) {index : Nat} {id : EndpointId}
    (unheld : bridge.holdsElsewhere index id = false) :
    ∀ other slot, other ≠ index → bridge.dynamicEndpoints other = some slot →
      slot.endpointId ≠ id := by
  intro other slot different filled same
  refine Bool.eq_false_iff.mp unheld (List.any_eq_true.mpr ⟨other, ?_, ?_⟩)
  · exact List.mem_range.mpr (mirrored.index_lt other slot filled)
  · simp [different, filled, same]

/-- Devices are registered in dynamic slots. -/
theorem Mirrored.registered_lt (mirrored : bridge.Mirrored first) {index : Nat}
    (registered : bridge.gDevices index = some dev) :
    index < CHIP_DEVICE_CONFIG_DYNAMIC_ENDPOINT_COUNT := by
  cases filled : bridge.dynamicEndpoints index with
  | none =>
    rw [(mirrored.mirrors.eq_none_iff index).mpr filled] at registered
    cases registered
  | some slot => exact mirrored.index_lt index slot filled

/-- Other devices than a changed one carry their ids as before. -/
theorem Mirrored.imp_store (mirrored : bridge.Mirrored first)
    (unregistered : ∀ index < CHIP_DEVICE_CONFIG_DYNAMIC_ENDPOINT_COUNT,
      bridge.gDevices index ≠ some dev) (object : DeviceObject D) :
    Mirrors (bridge.store dev object).CarriesId bridge.gDevices bridge.dynamicEndpoints := by
  refine mirrored.mirrors.imp fun index other slot registered => ?_
  rintro ⟨old, atOther, carries⟩
  have different : other ≠ dev := by
    rintro rfl
    exact unregistered index (mirrored.registered_lt registered) registered
  exact ⟨old, (Function.update_of_ne different _ _).trans atOther, carries⟩

/-- **Adding an endpoint** keeps the tables mirrored, and leaves them as they were if it answers
-1. -/
theorem Mirrored.add (mirrored : bridge.Mirrored first) {ep : EndpointType}
    {parentEndpointId : EndpointId} {refuses : EndpointId → Bool} {result : Int}
    (exists_ : bridge.objects dev ≠ none)
    (unregistered : ∀ index < CHIP_DEVICE_CONFIG_DYNAMIC_ENDPOINT_COUNT,
      bridge.gDevices index ≠ some dev)
    (adds : addDeviceEndpoint refuses dev ep parentEndpointId bridge = some (after, result)) :
    after.Mirrored first ∧ (result = -1 → after.gDevices = bridge.gDevices ∧
      after.dynamicEndpoints = bridge.dynamicEndpoints) := by
  obtain ⟨object, atDev⟩ := Option.ne_none_iff_exists'.mp exists_
  rcases addDeviceEndpoint_cases atDev adds with ⟨rfl, -, -⟩ |
    ⟨index, id, base, below, empty, found, attributes, ⟨-, -, rfl⟩ | ⟨-, rfl, rfl⟩⟩
  · exact ⟨mirrored, fun _ => ⟨rfl, rfl⟩⟩
  · have above := firstUnheld_ge _ (mirrored.first_eq ▸ mirrored.current_ge) found
    rw [mirrored.first_eq] at above
    exact ⟨⟨mirrored.first_eq, above, mirrored.imp_store unregistered _, mirrored.distinct,
      mirrored.index_lt, mirrored.id_ge⟩, fun _ => ⟨rfl, rfl⟩⟩
  · have above := firstUnheld_ge _ (mirrored.first_eq ▸ mirrored.current_ge) found
    rw [mirrored.first_eq] at above
    have carries : (bridge.store dev { object with base := base }).CarriesId dev
        { endpointId := id, endpointType := ep } :=
      ⟨_, Function.update_self _ _ _, congrArg DeviceAttributes.endpointId attributes⟩
    refine ⟨⟨mirrored.first_eq, above, (mirrored.imp_store unregistered _).set index carries,
      mirrored.distinct.set (mirrored.fresh (firstUnheld_not_held _ found)), ?_, ?_⟩,
      fun failed => absurd failed (by omega)⟩
    · exact forall_filled_update mirrored.index_lt below
    · exact forall_filled_update mirrored.id_ge above

/-- **Removing an endpoint** keeps the tables mirrored, and leaves them as they were if it answers
-1. -/
theorem Mirrored.remove (mirrored : bridge.Mirrored first) (dev : DevicePtr) :
    (removeDeviceEndpoint dev bridge).1.Mirrored first ∧
      ((removeDeviceEndpoint dev bridge).2 = -1 →
        (removeDeviceEndpoint dev bridge).1.gDevices = bridge.gDevices ∧
        (removeDeviceEndpoint dev bridge).1.dynamicEndpoints = bridge.dynamicEndpoints) := by
  unfold removeDeviceEndpoint
  split
  · exact ⟨mirrored, fun _ => ⟨rfl, rfl⟩⟩
  · rename_i index _
    refine ⟨⟨mirrored.first_eq, mirrored.current_ge, mirrored.mirrors.clear index,
      mirrored.distinct.clear index, ?_, ?_⟩, fun failed => absurd failed (by omega)⟩
    · exact fun other slot filled => mirrored.index_lt other slot (eq_some_of_clear filled)
    · exact fun other slot filled => mirrored.id_ge other slot (eq_some_of_clear filled)

/-- A call that is allowed keeps the tables mirrored; one that answers -1 leaves them as they
were. -/
theorem Mirrored.perform (mirrored : bridge.Mirrored first) {call : EndpointCall} {result : Int}
    (allowed : call.Allowed bridge) (performs : call.perform bridge = some (after, result)) :
    after.Mirrored first ∧ (result = -1 → after.gDevices = bridge.gDevices ∧
      after.dynamicEndpoints = bridge.dynamicEndpoints) := by
  cases call with
  | add dev ep parentEndpointId refuses => exact mirrored.add allowed.1 allowed.2 performs
  | remove dev =>
    obtain ⟨rfl, rfl⟩ := Prod.ext_iff.mp (Option.some.inj performs)
    exact mirrored.remove dev

/-- **After any calls** the tables are mirrored. -/
theorem Reaches.mirrored {start : Bridge D} (reached : start.Reaches bridge)
    (mirrored : start.Mirrored first) : bridge.Mirrored first := by
  induction reached with
  | refl => exact mirrored
  | tail _ step ih =>
    obtain ⟨call, result, allowed, performs⟩ := step
    exact (ih.perform allowed performs).1

/-! ### The callbacks -/

/-- **The slot the callbacks use is never empty**: the index the SDK finds for an endpoint id, if it
is one of the table, is that of a device with this id. -/
theorem Mirrored.callback_device (mirrored : bridge.Mirrored first) {endpoint : EndpointId}
    (inTable : bridge.emberAfGetDynamicIndexFromEndpoint endpoint <
      CHIP_DEVICE_CONFIG_DYNAMIC_ENDPOINT_COUNT) :
    ∃ dev object, bridge.gDevices (bridge.emberAfGetDynamicIndexFromEndpoint endpoint) = some dev ∧
      bridge.objects dev = some object ∧ object.getEndpointId = endpoint := by
  unfold emberAfGetDynamicIndexFromEndpoint at inTable ⊢
  cases found : bridge.dynamicIndex? endpoint with
  | none =>
    rw [found] at inTable
    exact absurd inTable (by decide)
  | some index =>
    obtain ⟨-, slot, filled, same⟩ := dynamicIndex?_eq_some found
    obtain ⟨dev, registered, object, atDev, carries⟩ := mirrored.mirrors.exists_item filled
    exact ⟨dev, object, registered, atDev, carries.trans same⟩

/-- **Both callbacks serve a device** for this endpoint id: it is the one in the slot, its object is
alive and carries the id, and what they do is done with that object. -/
structure Serves (bridge : Bridge D) (endpoint : EndpointId) (dev : DevicePtr)
    (object : DeviceObject D) : Prop where
  slot : bridge.gDevices (bridge.emberAfGetDynamicIndexFromEndpoint endpoint) = some dev
  alive : bridge.objects dev = some object
  endpointId : object.getEndpointId = endpoint
  read : ∀ path maxReadLength, emberAfExternalAttributeReadCallback endpoint path maxReadLength
    bridge = readDevice object path maxReadLength
  write : ∀ now path buffer, emberAfExternalAttributeWriteCallback now endpoint path buffer bridge =
    writeDevice now dev object path buffer bridge

/-- Neither callback goes by an empty slot. -/
theorem Mirrored.serves (mirrored : bridge.Mirrored first) {endpoint : EndpointId}
    (inTable : bridge.emberAfGetDynamicIndexFromEndpoint endpoint <
      CHIP_DEVICE_CONFIG_DYNAMIC_ENDPOINT_COUNT) :
    ∃ dev object, bridge.Serves endpoint dev object := by
  obtain ⟨dev, object, slot, alive, endpointId⟩ := mirrored.callback_device inTable
  refine ⟨dev, object, slot, alive, endpointId, fun path maxReadLength => ?_,
    fun now path buffer => ?_⟩
  · simp only [emberAfExternalAttributeReadCallback, if_pos inTable, slot, alive]
  · simp only [emberAfExternalAttributeWriteCallback, if_pos inTable, slot, alive]

end Bridge

section Table

variable [ChipSdk D]

/-- **The device table mirrors the SDK's endpoint table.** After any calls of `AddDeviceEndpoint`
and `RemoveDeviceEndpoint` from the empty table, with arbitrary other errors of the SDK: a slot
holds a device exactly if the SDK's slot is filled, and then under the id its device carries; the
live ids are pairwise distinct, at least the first dynamic id and so none of a fixed endpoint's; a
further call that answers -1 leaves both tables as they were; and for every endpoint id the callbacks
serve a device with that id, or fail if the SDK finds no slot for it: the write callback never goes
by a null pointer. -/
theorem device_table_mirrors_sdk {start bridge : Bridge D} (empty : start.NoEndpoints)
    (reached : start.Reaches bridge) :
    (∀ index, (bridge.gDevices index ≠ none ↔ bridge.dynamicEndpoints index ≠ none) ∧
      ∀ dev slot, bridge.gDevices index = some dev → bridge.dynamicEndpoints index = some slot →
        ∃ object, bridge.objects dev = some object ∧ object.getEndpointId = slot.endpointId) ∧
    (∀ i j first second, bridge.dynamicEndpoints i = some first →
      bridge.dynamicEndpoints j = some second → first.endpointId = second.endpointId → i = j) ∧
    (∀ index slot, bridge.dynamicEndpoints index = some slot →
      start.gFirstDynamicEndpointId ≤ slot.endpointId ∧
        ∀ fixed < start.gFirstDynamicEndpointId, slot.endpointId ≠ fixed) ∧
    (∀ (call : EndpointCall) after, call.Allowed bridge → call.perform bridge = some (after, -1) →
      after.gDevices = bridge.gDevices ∧ after.dynamicEndpoints = bridge.dynamicEndpoints) ∧
    ∀ endpoint, if bridge.emberAfGetDynamicIndexFromEndpoint endpoint <
        CHIP_DEVICE_CONFIG_DYNAMIC_ENDPOINT_COUNT then
        ∃ dev object, bridge.Serves endpoint dev object
      else (∀ path maxReadLength, (emberAfExternalAttributeReadCallback endpoint path maxReadLength
          bridge).status = .failure) ∧
        ∀ now path buffer, emberAfExternalAttributeWriteCallback now endpoint path buffer bridge =
          (bridge, { status := .failure }) := by
  have mirrored := reached.mirrored empty.mirrored
  refine ⟨fun index => ⟨not_congr (mirrored.mirrors.eq_none_iff index), ?_⟩, mirrored.distinct,
    fun index slot filled => ?_, ?_, fun endpoint => ?_⟩
  · exact fun dev slot registered filled => mirrored.mirrors.agree_of_eq_some registered filled
  · have above := mirrored.id_ge index slot filled
    refine ⟨above, fun fixed below same => ?_⟩
    exact UInt16.not_lt.mpr above (same ▸ below)
  · exact fun call after allowed performs => (mirrored.perform allowed performs).2 rfl
  · split
    · rename_i inTable
      exact mirrored.serves inTable
    · rename_i notInTable
      refine ⟨fun path maxReadLength => ?_, fun now path buffer => if_neg notInTable⟩
      rw [emberAfExternalAttributeReadCallback, if_neg notInTable]

end Table

/-! ### A table with three devices -/

/-- The tables after a call; those before it if it does not return. -/
def EndpointCall.after [ChipSdk D] (bridge : Bridge D) (call : EndpointCall) : Bridge D :=
  ((call.perform bridge).map Prod.fst).getD bridge

theorem Bridge.Reaches.call [ChipSdk D] {start bridge : Bridge D} (reached : start.Reaches bridge)
    {call : EndpointCall} (allowed : call.Allowed bridge)
    (returns : (call.perform bridge).isSome = true) : start.Reaches (call.after bridge) := by
  obtain ⟨⟨after, result⟩, performs⟩ := Option.isSome_iff_exists.mp returns
  refine reached.tail ⟨call, result, allowed, ?_⟩
  rw [EndpointCall.after, performs, Option.map_some, Option.getD_some]

/-- Device objects at the addresses 0, 1 and 2, none of them registered, after the fixed endpoint
2. -/
def sampleTable : Bridge PlainDevice :=
  { gDevices := fun _ => none
    gCurrentEndpointId := 3
    gFirstDynamicEndpointId := 3
    gBridgedWemoLights := []
    gWemoDeviceToUdn := fun _ => none
    objects := fun dev =>
      if dev < 3 then some (.deviceOnOff (literal "Light") (literal "Office")) else none
    dynamicEndpoints := fun _ => none }

/-- Add the light at an address, with an SDK that refuses nothing. -/
def sampleAdd (dev : DevicePtr) : EndpointCall := .add dev .bridgedLightEndpoint 1 fun _ => false

/-- Add the lights 0 and 1, remove 0 and add 2. -/
def sampleTableAfter : Bridge PlainDevice :=
  (sampleAdd 2).after ((EndpointCall.remove 0).after ((sampleAdd 1).after
    ((sampleAdd 0).after sampleTable)))

/-- Endpoint 5 is that of light 2, in the slot light 0 had; that it is off is read from there. -/
theorem device_table_mirrors_sdk_sample :
    sampleTableAfter.gDevices 0 = some 2 ∧
      sampleTableAfter.emberAfGetDynamicIndexFromEndpoint 5 = 0 ∧
      (∃ dev object, sampleTableAfter.Serves 5 dev object) ∧
      emberAfExternalAttributeReadCallback 5 (.onOff .onOff) 1 sampleTableAfter =
        { status := .success, value := some (.uint8 0) } := by
  have start : sampleTable.NoEndpoints := ⟨fun _ => rfl, fun _ => rfl, rfl⟩
  have nothing : sampleTable.Reaches sampleTable := Relation.ReflTransGen.refl
  have reached : sampleTable.Reaches sampleTableAfter :=
    (((nothing.call (by decide) (by decide)).call (by decide) (by decide)).call (by decide)
      (by decide)).call (by decide) (by decide)
  have serves := (device_table_mirrors_sdk start reached).2.2.2.2 5
  rw [if_pos (by decide)] at serves
  exact ⟨by decide, by decide, serves, by decide⟩

end WemoBridge
