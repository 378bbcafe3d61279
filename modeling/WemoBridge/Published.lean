/-
**The bridge as a product of its published lights.**

`Published` says that the tables of the bridge and the SDK's endpoint table agree, as
`ApplicationInit` leaves them. In a published bridge every step finds at most one light
(`Bridge.target`), does `Light.step` on it, puts it back and answers with its reply
(`step_target`); a step that finds none changes nothing (`step_no_target`). So the tables stay
consistent (`step_published`), every light stays published under the same endpoint, device, UDN and
wemo_id (`step_publishes`), the light a step is for makes its own step (`lightAt_step`), and every
other light is untouched (`lightAt_step_other`).
-/

import WemoBridge.Light

namespace WemoBridge

open Library

variable {D : Type} [ChipSdk D]

/-- What stays of a published light: its slot, its endpoint, its device object and its WeMo. -/
structure PublishedLight where
  index : Nat
  endpoint : EndpointId
  device : DevicePtr
  wemoId : Int
  udn : CppString
  isDimmable : Bool
  deriving DecidableEq, Repr

/-- A light's entry and object are those of a published light. -/
structure Light.Backs (light : Light D) (x : PublishedLight) : Prop where
  wemoId : light.entry.wemoId = x.wemoId
  udn : light.entry.udn = x.udn
  isDimmable : light.entry.isDimmable = x.isDimmable
  dimmer : light.object.dimmer.isSome = x.isDimmable
  endpoint : light.object.getEndpointId = x.endpoint

theorem Light.Backs.of_sameStatic {first second : Light D} {x : PublishedLight}
    (backs : second.Backs x) (same : first.SameStatic second) : first.Backs x :=
  ⟨same.wemoId.trans backs.wemoId, same.udn.trans backs.udn,
    same.isDimmable.trans backs.isDimmable, same.dimmer.trans backs.dimmer,
    same.endpoint.trans backs.endpoint⟩

/-- A backing light is of the class its entry says. -/
theorem Light.Backs.rightClass {light : Light D} {x : PublishedLight} (backs : light.Backs x) :
    light.object.dimmer.isSome = light.entry.isDimmable :=
  backs.dimmer.trans backs.isDimmable.symm

namespace Bridge

/-- **A light is published**: its slot holds its device, in the bridge's table and in the SDK's,
the device is bound to its UDN, and its entry and object say the same. -/
structure Publishes (bridge : Bridge D) (x : PublishedLight) : Prop where
  index_lt : x.index < CHIP_DEVICE_CONFIG_DYNAMIC_ENDPOINT_COUNT
  slot : bridge.gDevices x.index = some x.device
  registered : bridge.dynamicEndpoints x.index =
    some { endpointId := x.endpoint, endpointType := endpointTypeOf x.isDimmable }
  udn : bridge.gWemoDeviceToUdn x.device = some x.udn
  light : ∃ light, bridge.lightAt x.device = some light ∧ light.Backs x

/-- The light found at the device of a published light is its light. -/
theorem Publishes.backs {bridge : Bridge D} {x : PublishedLight} (ofX : bridge.Publishes x)
    {light : Light D} (found : bridge.lightAt x.device = some light) : light.Backs x := by
  obtain ⟨backing, foundBacking, backs⟩ := ofX.light
  rwa [Option.some.inj (found.symm.trans foundBacking)]

/-- **The tables agree**: entries have pairwise distinct devices, filled SDK slots pairwise distinct
endpoint ids, and both belong to published lights. -/
structure Published (bridge : Bridge D) : Prop where
  devices_nodup : (bridge.gBridgedWemoLights.map (·.device)).Nodup
  endpoints_inj : ∀ i < CHIP_DEVICE_CONFIG_DYNAMIC_ENDPOINT_COUNT,
    ∀ j < CHIP_DEVICE_CONFIG_DYNAMIC_ENDPOINT_COUNT, ∀ first second,
      bridge.dynamicEndpoints i = some first → bridge.dynamicEndpoints j = some second →
        first.endpointId = second.endpointId → i = j
  light_of_entry : ∀ entry ∈ bridge.gBridgedWemoLights,
    ∃ x, bridge.Publishes x ∧ x.device = entry.device
  light_of_slot : ∀ i < CHIP_DEVICE_CONFIG_DYNAMIC_ENDPOINT_COUNT,
    bridge.dynamicEndpoints i ≠ none → ∃ x, bridge.Publishes x ∧ x.index = i
  slots_inj : ∀ x y, bridge.Publishes x → bridge.Publishes y → x.device = y.device →
    x.index = y.index

/-- The published lights have pairwise distinct wemo_ids. -/
def DistinctWemoIds (bridge : Bridge D) : Prop :=
  (bridge.gBridgedWemoLights.map (·.wemoId)).Nodup

/-- The device a step is for: the one in the slot of the endpoint, or the one of the first entry
with the event's wemo_id. -/
def target (bridge : Bridge D) : Input → Option DevicePtr
  | .write endpoint _ _ => (bridge.dynamicIndex? endpoint).bind bridge.gDevices
  | .read endpoint _ _ => (bridge.dynamicIndex? endpoint).bind bridge.gDevices
  | .event ctx =>
      (bridge.gBridgedWemoLights.find? (·.wemoId = ctx.wemoId)).map BridgedWemoLight.device

end Bridge

/-- The step is addressed to a published light: to its endpoint, or to its wemo_id. -/
def Input.isFor (x : PublishedLight) : Input → Bool
  | .write endpoint _ _ => endpoint = x.endpoint
  | .read endpoint _ _ => endpoint = x.endpoint
  | .event ctx => ctx.wemoId = x.wemoId

namespace Bridge

/-! ### Finding the light of a step -/

section Target

variable {bridge : Bridge D} {x y : PublishedLight}

/-- Two published lights in one slot are the same. -/
theorem Publishes.eq_of_index (ofX : bridge.Publishes x) (ofY : bridge.Publishes y)
    (same : x.index = y.index) : x = y := by
  have device : x.device = y.device :=
    Option.some.inj (ofX.slot.symm.trans (same ▸ ofY.slot))
  have registered := Option.some.inj (ofX.registered.symm.trans (same ▸ ofY.registered))
  have udn := Option.some.inj (ofX.udn.symm.trans (device ▸ ofY.udn))
  obtain ⟨light, found, backs⟩ := ofX.light
  obtain ⟨light', found', backs'⟩ := ofY.light
  have lightEq : light = light' := Option.some.inj (found.symm.trans (device ▸ found'))
  subst lightEq
  have wemoId := backs.wemoId.symm.trans backs'.wemoId
  have isDimmable := backs.isDimmable.symm.trans backs'.isDimmable
  have endpoint : x.endpoint = y.endpoint := congrArg DynamicEndpoint.endpointId registered
  cases x
  cases y
  simp_all only

theorem Published.eq_of_device (published : bridge.Published) (ofX : bridge.Publishes x)
    (ofY : bridge.Publishes y) (same : x.device = y.device) : x = y :=
  ofX.eq_of_index ofY (published.slots_inj x y ofX ofY same)

omit [ChipSdk D] in
/-- The slot the SDK finds is filled with the endpoint id. -/
theorem dynamicIndex?_eq_some {endpoint : EndpointId} {index : Nat}
    (found : bridge.dynamicIndex? endpoint = some index) :
    index < CHIP_DEVICE_CONFIG_DYNAMIC_ENDPOINT_COUNT ∧
      ∃ slot, bridge.dynamicEndpoints index = some slot ∧ slot.endpointId = endpoint := by
  refine ⟨List.mem_range.mp (List.mem_of_find?_eq_some found), ?_⟩
  have filled := List.find?_some found
  cases slot : bridge.dynamicEndpoints index with
  | none => simp [slot] at filled
  | some value => exact ⟨value, rfl, by simpa [slot] using filled⟩

/-- The SDK finds the slot of a published light by its endpoint id. -/
theorem Published.dynamicIndex?_eq (published : bridge.Published) (ofX : bridge.Publishes x) :
    bridge.dynamicIndex? x.endpoint = some x.index := by
  cases found : bridge.dynamicIndex? x.endpoint with
  | none =>
    have missing := List.find?_eq_none.mp found x.index (List.mem_range.mpr ofX.index_lt)
    simp [ofX.registered] at missing
  | some index =>
    obtain ⟨index_lt, slot, filled, same⟩ := dynamicIndex?_eq_some found
    rw [published.endpoints_inj index index_lt x.index ofX.index_lt _ _ filled ofX.registered same]

/-- An endpoint the SDK finds is a published light's. -/
theorem Published.exists_of_dynamicIndex? (published : bridge.Published) {endpoint : EndpointId}
    {index : Nat} (found : bridge.dynamicIndex? endpoint = some index) :
    ∃ z, bridge.Publishes z ∧ z.index = index ∧ z.endpoint = endpoint := by
  obtain ⟨index_lt, slot, filled, same⟩ := dynamicIndex?_eq_some found
  obtain ⟨z, ofZ, rfl⟩ := published.light_of_slot index index_lt (by rw [filled]; simp)
  have registered := Option.some.inj (filled.symm.trans ofZ.registered)
  exact ⟨z, ofZ, rfl, by rw [← same, registered]⟩

/-- Two published lights under one endpoint are the same. -/
theorem Published.eq_of_endpoint (published : bridge.Published) (ofX : bridge.Publishes x)
    (ofY : bridge.Publishes y) (same : x.endpoint = y.endpoint) : x = y := by
  refine ofX.eq_of_index ofY (Option.some.inj ?_)
  rw [← published.dynamicIndex?_eq ofX, ← published.dynamicIndex?_eq ofY, same]

/-- The entry of a published light is in the list. -/
theorem Publishes.exists_entry (ofX : bridge.Publishes x) :
    ∃ entry ∈ bridge.gBridgedWemoLights, entry.device = x.device ∧ entry.wemoId = x.wemoId := by
  obtain ⟨light, found, backs⟩ := ofX.light
  obtain ⟨member, device⟩ := find?_key_eq_some (lightAt_eq_some.mp found).1
  exact ⟨light.entry, member, device, backs.wemoId⟩

/-- Two published lights with one wemo_id are the same. -/
theorem Published.eq_of_wemoId (published : bridge.Published) (distinct : bridge.DistinctWemoIds)
    (ofX : bridge.Publishes x) (ofY : bridge.Publishes y) (same : x.wemoId = y.wemoId) : x = y := by
  obtain ⟨entry, member, device, wemoId⟩ := ofX.exists_entry
  obtain ⟨entry', member', device', wemoId'⟩ := ofY.exists_entry
  have entryEq : entry = entry' := List.inj_on_of_nodup_map distinct member member'
    (wemoId.trans (same.trans wemoId'.symm))
  exact published.eq_of_device ofX ofY (device.symm.trans (entryEq ▸ device'))

/-- A step finds the device of a published light, or none. -/
theorem Published.exists_of_target (published : bridge.Published) {input : Input}
    {dev : DevicePtr} (aimed : bridge.target input = some dev) :
    ∃ z, bridge.Publishes z ∧ z.device = dev := by
  have ofEndpoint : ∀ endpoint, (bridge.dynamicIndex? endpoint).bind bridge.gDevices = some dev →
      ∃ z, bridge.Publishes z ∧ z.device = dev := by
    intro endpoint found
    obtain ⟨index, indexEq, slot⟩ := Option.bind_eq_some_iff.mp found
    obtain ⟨z, ofZ, rfl, -⟩ := published.exists_of_dynamicIndex? indexEq
    exact ⟨z, ofZ, Option.some.inj (ofZ.slot.symm.trans slot)⟩
  cases input with
  | write endpoint path buffer => exact ofEndpoint endpoint aimed
  | read endpoint path maxReadLength => exact ofEndpoint endpoint aimed
  | event ctx =>
    obtain ⟨entry, found, rfl⟩ := Option.map_eq_some_iff.mp aimed
    exact published.light_of_entry entry (List.mem_of_find?_eq_some found)

/-- An endpoint leads to the device of a published light exactly if it is the light's. -/
theorem Published.slot_eq_some_iff (published : bridge.Published) (ofX : bridge.Publishes x)
    (endpoint : EndpointId) :
    (bridge.dynamicIndex? endpoint).bind bridge.gDevices = some x.device ↔
      endpoint = x.endpoint := by
  constructor
  · intro found
    obtain ⟨index, indexEq, slot⟩ := Option.bind_eq_some_iff.mp found
    obtain ⟨z, ofZ, rfl, rfl⟩ := published.exists_of_dynamicIndex? indexEq
    have device : z.device = x.device := Option.some.inj (ofZ.slot.symm.trans slot)
    rw [published.eq_of_device ofZ ofX device]
  · rintro rfl
    rw [published.dynamicIndex?_eq ofX]
    exact ofX.slot

/-- **A step is for a light exactly when it is addressed to it.** -/
theorem Published.target_eq_some_iff (published : bridge.Published)
    (distinct : bridge.DistinctWemoIds) (ofX : bridge.Publishes x) (input : Input) :
    bridge.target input = some x.device ↔ input.isFor x = true := by
  have ofEndpoint := published.slot_eq_some_iff ofX
  cases input with
  | write endpoint path buffer => simpa [target, Input.isFor] using ofEndpoint endpoint
  | read endpoint path maxReadLength => simpa [target, Input.isFor] using ofEndpoint endpoint
  | event ctx =>
    obtain ⟨entry, member, device, wemoId⟩ := ofX.exists_entry
    simp only [target, Input.isFor, decide_eq_true_eq]
    constructor
    · intro found
      obtain ⟨first, firstFound, same⟩ := Option.map_eq_some_iff.mp found
      obtain ⟨firstMember, firstId⟩ := find?_key_eq_some firstFound
      have entryEq : first = entry :=
        List.inj_on_of_nodup_map published.devices_nodup firstMember member
          (same.trans device.symm)
      rw [← firstId, entryEq, wemoId]
    · intro same
      rw [same, ← wemoId, find?_key_of_mem distinct member, Option.map_some, device]

end Target

/-! ### The product theorem -/

section Step

variable {bridge : Bridge D} {x : PublishedLight} {now : TimePoint} {input : Input}

/-- The answer of a step that finds no light. -/
def missedReply : Input → Reply
  | .write _ _ _ => { status := .unsupported }
  | .read _ _ _ => { status := .unsupported }
  | .event _ => { status := .success }

/-- A step that finds no light changes nothing, and its answer depends on the input alone. -/
theorem Published.step_no_target (published : bridge.Published)
    (missed : bridge.target input = none) :
    bridge.step (now, input) = (bridge, missedReply input) := by
  have undeclared : ∀ endpoint cluster, (bridge.dynamicIndex? endpoint).bind bridge.gDevices =
      none → bridge.declares endpoint cluster = false := by
    intro endpoint cluster absent
    cases found : bridge.dynamicIndex? endpoint with
    | none => simp [declares, found]
    | some index =>
      obtain ⟨z, ofZ, rfl, -⟩ := published.exists_of_dynamicIndex? found
      rw [found, Option.bind_some, ofZ.slot] at absent
      cases absent
  cases input with
  | write endpoint path buffer => simp [step, undeclared endpoint _ missed, missedReply]
  | read endpoint path maxReadLength => simp [step, undeclared endpoint _ missed, missedReply]
  | event ctx =>
    have absent := Option.map_eq_none_iff.mp missed
    simp [step, handleWemoEventOnMatterThread, absent, missedReply]

/-- The SDK declares for a published light what the light declares. -/
theorem Published.declares_eq (published : bridge.Published) (ofX : bridge.Publishes x)
    {light : Light D} (backs : light.Backs x) (cluster : Cluster) :
    bridge.declares x.endpoint cluster = light.declares cluster := by
  simp [declares, Light.declares, published.dynamicIndex?_eq ofX, ofX.registered, backs.isDimmable]

/-- **The product theorem.** A step for a published light is a step of that light. -/
theorem Published.step_target (published : bridge.Published) (ofX : bridge.Publishes x)
    (aimed : bridge.target input = some x.device) {light : Light D}
    (found : bridge.lightAt x.device = some light) (backs : light.Backs x) :
    bridge.step (now, input) =
      (bridge.putLight x.device (light.step now input).1, (light.step now input).2) := by
  obtain ⟨byDevice, object⟩ := lightAt_eq_some.mp found
  have index := published.dynamicIndex?_eq ofX
  have udn : bridge.gWemoDeviceToUdn x.device = some light.entry.udn := backs.udn ▸ ofX.udn
  have atEndpoint : ∀ endpoint, (bridge.dynamicIndex? endpoint).bind bridge.gDevices =
      some x.device → endpoint = x.endpoint := by
    intro endpoint slot
    obtain ⟨at_, indexEq, device⟩ := Option.bind_eq_some_iff.mp slot
    obtain ⟨z, ofZ, rfl, rfl⟩ := published.exists_of_dynamicIndex? indexEq
    rw [published.eq_of_device ofZ ofX (Option.some.inj (ofZ.slot.symm.trans device))]
  cases input with
  | write endpoint path buffer =>
    obtain rfl := atEndpoint endpoint aimed
    simp only [step, Light.step, published.declares_eq ofX backs]
    split
    · simp only [emberAfExternalAttributeWriteCallback, emberAfGetDynamicIndexFromEndpoint, index,
        Option.getD_some, if_pos ofX.index_lt, ofX.slot, object, writeDevice, Light.write]
      split
      · cases path with
        | onOff attributeId => exact handleWriteOnOffAttribute_eq found udn attributeId buffer
        | levelControl attributeId =>
          cases light.object.dimmer with
          | none => simp only [putLight_self found]
          | some dimmer =>
            exact handleWriteLevelControlAttribute_eq found udn dimmer attributeId buffer
        | bridgedDeviceBasicInformation attributeId =>
          exact handleWriteBridgedDeviceBasicAttribute_eq found attributeId buffer
        | temperatureMeasurement _ => simp only [putLight_self found]
        | other _ _ => simp only [putLight_self found]
      · rw [putLight_self found]
    · rw [putLight_self found]
  | read endpoint path maxReadLength =>
    obtain rfl := atEndpoint endpoint aimed
    simp only [step, Light.step, published.declares_eq ofX backs, putLight_self found]
    split
    · unfold emberAfExternalAttributeReadCallback readDevice Light.read
      cases path with
      | levelControl attributeId =>
        cases dimmer : light.object.dimmer <;>
          simp only [emberAfGetDynamicIndexFromEndpoint, index, Option.getD_some,
            if_pos ofX.index_lt, ofX.slot, object, dimmer]
      | _ =>
        simp only [emberAfGetDynamicIndexFromEndpoint, index, Option.getD_some,
          if_pos ofX.index_lt, ofX.slot, object]
    · rfl
  | event ctx =>
    obtain ⟨entry, first, device⟩ := Option.map_eq_some_iff.mp aimed
    have same : light.entry = entry := by
      have member := List.mem_of_find?_eq_some first
      have byKey := find?_key_of_mem published.devices_nodup member
      rw [device] at byKey
      exact Option.some.inj (byDevice.symm.trans byKey)
    rw [← device] at found ⊢
    exact handleWemoEventOnMatterThread_eq first found same

/-- Every step either finds no light and changes nothing, or is the step of a published light. -/
theorem Published.step_cases (published : bridge.Published) (now : TimePoint) (input : Input) :
    (bridge.target input = none ∧ bridge.step (now, input) = (bridge, missedReply input)) ∨
      ∃ x light, bridge.Publishes x ∧ bridge.target input = some x.device ∧
        bridge.lightAt x.device = some light ∧ light.Backs x ∧
        bridge.step (now, input) =
          (bridge.putLight x.device (light.step now input).1, (light.step now input).2) := by
  cases aimed : bridge.target input with
  | none => exact Or.inl ⟨rfl, published.step_no_target aimed⟩
  | some dev =>
    obtain ⟨x, ofX, rfl⟩ := published.exists_of_target aimed
    obtain ⟨light, found, backs⟩ := ofX.light
    exact Or.inr ⟨x, light, ofX, rfl, found, backs, published.step_target ofX aimed found backs⟩

end Step

/-! ### What a step keeps -/

section Kept

variable {bridge : Bridge D} {dev : DevicePtr} {light next : Light D}

/-- Putting back a light that is statically the same keeps every light published. -/
theorem Publishes.putLight (found : bridge.lightAt dev = some light)
    (same : next.SameStatic light) {y : PublishedLight} (ofY : bridge.Publishes y) :
    (bridge.putLight dev next).Publishes y := by
  have device : next.entry.device = dev := same.device.trans (lightAt_device found)
  refine ⟨ofY.index_lt, ofY.slot, ofY.registered, ofY.udn, ?_⟩
  obtain ⟨old, foundOld, backs⟩ := ofY.light
  by_cases here : y.device = dev
  · have backs := ofY.backs (here ▸ found)
    rw [here]
    exact ⟨next, lightAt_putLight_self found device, backs.of_sameStatic same⟩
  · exact ⟨old, (lightAt_putLight_other here device).trans foundOld, backs⟩

theorem publishes_putLight_iff (found : bridge.lightAt dev = some light)
    (same : next.SameStatic light) (y : PublishedLight) :
    (bridge.putLight dev next).Publishes y ↔ bridge.Publishes y := by
  have device : next.entry.device = dev := same.device.trans (lightAt_device found)
  constructor
  · -- putting the old light back undoes the change
    intro ofY
    have undone := ofY.putLight (lightAt_putLight_self found device) same.symm
    rwa [putLight_putLight _ _ device, putLight_self found] at undone
  · exact fun ofY => ofY.putLight found same

omit [ChipSdk D] in
theorem map_putLight {β : Type} (found : bridge.lightAt dev = some light)
    (observe : BridgedWemoLight → β) (same : observe next.entry = observe light.entry) :
    (bridge.putLight dev next).gBridgedWemoLights.map observe =
      bridge.gBridgedWemoLights.map observe := by
  refine map_modifyFirst fun entry foundEntry => ?_
  rw [(lightAt_eq_some.mp found).1] at foundEntry
  cases foundEntry
  exact same

/-- A step finds the same light after a light was put back statically unchanged. -/
theorem target_putLight
    (found : bridge.lightAt dev = some light) (same : next.SameStatic light) (input : Input) :
    (bridge.putLight dev next).target input = bridge.target input := by
  cases input with
  | write endpoint path buffer => rfl
  | read endpoint path maxReadLength => rfl
  | event ctx =>
    have pairs := map_putLight found (fun entry => (entry.wemoId, entry.device))
      (Prod.ext same.wemoId same.device)
    have viaPairs : ∀ entries : List BridgedWemoLight,
        (entries.find? (·.wemoId = ctx.wemoId)).map BridgedWemoLight.device =
          ((entries.map fun entry => (entry.wemoId, entry.device)).find?
            (·.1 = ctx.wemoId)).map Prod.snd := by
      intro entries
      rw [List.find?_map, Option.map_map]
      rfl
    simp only [target]
    rw [viaPairs, pairs, ← viaPairs]

theorem Published.putLight (published : bridge.Published)
    (found : bridge.lightAt dev = some light) (same : next.SameStatic light) :
    (bridge.putLight dev next).Published where
  devices_nodup := by
    rw [map_putLight found _ same.device]
    exact published.devices_nodup
  endpoints_inj := published.endpoints_inj
  light_of_entry entry member := by
    have devices : entry.device ∈ bridge.gBridgedWemoLights.map (·.device) := by
      rw [← map_putLight found (·.device) same.device]
      exact List.mem_map_of_mem member
    obtain ⟨old, oldMember, device⟩ := List.mem_map.mp devices
    obtain ⟨x, ofX, xDevice⟩ := published.light_of_entry old oldMember
    exact ⟨x, ofX.putLight found same, xDevice.trans device⟩
  light_of_slot i bound filled := by
    obtain ⟨x, ofX, index⟩ := published.light_of_slot i bound filled
    exact ⟨x, ofX.putLight found same, index⟩
  slots_inj x y ofX ofY := published.slots_inj x y
    ((publishes_putLight_iff found same x).mp ofX) ((publishes_putLight_iff found same y).mp ofY)

end Kept

section Run

variable {bridge : Bridge D} (published : bridge.Published) (now : TimePoint) (input : Input)
  {x : PublishedLight}

include published

/-- **A step keeps the tables consistent.** -/
theorem Published.step : (bridge.step (now, input)).1.Published := by
  rcases published.step_cases now input with ⟨-, same⟩ | ⟨x, light, _, _, found, _, stepEq⟩
  · rwa [same]
  · rw [stepEq]
    exact published.putLight found (light.step_static now input)

/-- **A light stays published as it is.** -/
theorem Published.step_publishes_iff (y : PublishedLight) :
    (bridge.step (now, input)).1.Publishes y ↔ bridge.Publishes y := by
  rcases published.step_cases now input with ⟨-, same⟩ | ⟨x, light, _, _, found, _, stepEq⟩
  · rw [same]
  · rw [stepEq]
    exact publishes_putLight_iff found (light.step_static now input) y

theorem Published.step_wemoIds : (bridge.step (now, input)).1.gBridgedWemoLights.map (·.wemoId) =
    bridge.gBridgedWemoLights.map (·.wemoId) := by
  rcases published.step_cases now input with ⟨-, same⟩ | ⟨x, light, _, _, found, _, stepEq⟩
  · rw [same]
  · rw [stepEq]
    exact map_putLight found _ (light.step_static now input).wemoId

theorem Published.step_distinct (distinct : bridge.DistinctWemoIds) :
    (bridge.step (now, input)).1.DistinctWemoIds := by
  unfold DistinctWemoIds
  rw [published.step_wemoIds]
  exact distinct

/-- **The light a step finds makes its own step**, and the answer is its reply. -/
theorem Published.step_light (ofX : bridge.Publishes x)
    (aimed : bridge.target input = some x.device) {light : Light D}
    (found : bridge.lightAt x.device = some light) :
    (bridge.step (now, input)).1.lightAt x.device = some (light.step now input).1 ∧
      (bridge.step (now, input)).2 = (light.step now input).2 := by
  rw [published.step_target ofX aimed found (ofX.backs found)]
  refine ⟨lightAt_putLight_self found ?_, rfl⟩
  exact (light.step_static now input).device.trans (lightAt_device found)

/-- The light a step is addressed to makes its own step. -/
theorem Published.lightAt_step (distinct : bridge.DistinctWemoIds) (ofX : bridge.Publishes x)
    (addressed : input.isFor x = true) {light : Light D}
    (found : bridge.lightAt x.device = some light) :
    (bridge.step (now, input)).1.lightAt x.device = some (light.step now input).1 ∧
      (bridge.step (now, input)).2 = (light.step now input).2 :=
  published.step_light now input ofX
    ((published.target_eq_some_iff distinct ofX input).mpr addressed) found

/-- Every step finds the same light afterwards. -/
theorem Published.target_step : (bridge.step (now, input)).1.target = bridge.target := by
  funext later
  rcases published.step_cases now input with ⟨-, same⟩ | ⟨x, light, _, _, found, _, stepEq⟩
  · rw [same]
  · rw [stepEq]
    exact target_putLight found (light.step_static now input) later

/-- A step that finds another device leaves the light as it is. -/
theorem Published.lightAt_step_elsewhere {dev : DevicePtr}
    (elsewhere : bridge.target input ≠ some dev) :
    (bridge.step (now, input)).1.lightAt dev = bridge.lightAt dev := by
  rcases published.step_cases now input with ⟨-, same⟩ | ⟨y, light, _, aimed, found, _, stepEq⟩
  · rw [same]
  · have different : dev ≠ y.device := by
      rintro rfl
      exact elsewhere aimed
    rw [stepEq]
    refine lightAt_putLight_other different ?_
    exact (light.step_static now input).device.trans (lightAt_device found)

/-- **Every other light is untouched.** -/
theorem Published.lightAt_step_other (distinct : bridge.DistinctWemoIds)
    (ofX : bridge.Publishes x) (notAddressed : input.isFor x = false) :
    (bridge.step (now, input)).1.lightAt x.device = bridge.lightAt x.device := by
  refine published.lightAt_step_elsewhere now input fun aimed => ?_
  rw [(published.target_eq_some_iff distinct ofX input).mp aimed] at notAddressed
  cases notAddressed

end Run

/-! ### What a run keeps -/

section WholeRun

variable {bridge : Bridge D} (published : bridge.Published) (inputs : List (TimePoint × Input))

include published

/-- **Along a run** the tables stay consistent, every light stays published, and every input keeps
its target. -/
theorem Published.run : ((bridgeMachine D).run bridge inputs).Published ∧
    (∀ x, ((bridgeMachine D).run bridge inputs).Publishes x ↔ bridge.Publishes x) ∧
    ((bridgeMachine D).run bridge inputs).target = bridge.target := by
  refine (bridgeMachine D).run_invariant (fun after => after.Published ∧
    (∀ x, after.Publishes x ↔ bridge.Publishes x) ∧ after.target = bridge.target)
    ?_ inputs ⟨published, fun _ => Iff.rfl, rfl⟩
  rintro after ⟨now, input⟩ ⟨publishedAfter, samePublished, sameTarget⟩
  refine ⟨publishedAfter.step now input, fun x => ?_, ?_⟩
  · exact (publishedAfter.step_publishes_iff now input x).trans (samePublished x)
  · exact (publishedAfter.target_step now input).trans sameTarget

end WholeRun

end Bridge

end WemoBridge
