/-
**The plan of the publish loop.**

`Plan` is the publish loop without tables, objects and addresses: which devices are published, in
the order of their slots, under which endpoint ids, and the shared id counter. The loop refines its
plan (`publishLoop_refines`): it ends exactly if the plan does, with the tables arranged as planned.
So what a start publishes is a function of the sorted list and the SDK's answers alone.
-/

import WemoBridge.PublishLoop

namespace WemoBridge

variable {D : Type} [ChipSdk D]

/-! ### The plan -/

/-- What the loop has decided so far. -/
structure Plan where
  devices : List WemoDevice
  /-- the endpoint ids of the slots -/
  ids : Nat → EndpointId
  current : EndpointId

namespace Plan

/-- Nothing published. -/
def empty (first : EndpointId) : Plan := { devices := [], ids := fun _ => 0, current := first }

/-- Offer a device under the first id no published one has; `none` if there is none. -/
def offer (first : EndpointId) (refuses : EndpointId → Bool) (dev : WemoDevice) (plan : Plan) :
    Option Plan :=
  (firstUnheld (heldBelow plan.ids plan.devices.length) first (2 ^ 16) plan.current).map fun id =>
    if refuses id then { plan with current := id }
    else
      { devices := plan.devices ++ [dev]
        ids := Function.update plan.ids plan.devices.length id
        current := id }

/-- Offer the devices one by one, until the slots are full. -/
def publishAll (first : EndpointId) (refuses : Nat → EndpointId → Bool) :
    Nat → List WemoDevice → Plan → Option Plan
  | _, [], plan => some plan
  | call, dev :: rest, plan =>
      if plan.devices.length ≥ CHIP_DEVICE_CONFIG_DYNAMIC_ENDPOINT_COUNT then
        publishAll first refuses call rest plan
      else
        (plan.offer first (refuses call) dev).bind (publishAll first refuses (call + 1) rest)

/-- The plan depends on the answers to its own calls alone. -/
theorem publishAll_congr {first : EndpointId} {refuses refuses' : Nat → EndpointId → Bool}
    (devices : List WemoDevice) : ∀ {call : Nat} {plan : Plan},
      (∀ k < devices.length, refuses (call + k) = refuses' (call + k)) →
        publishAll first refuses call devices plan = publishAll first refuses' call devices plan := by
  induction devices with
  | nil => exact fun _ => rfl
  | cons dev rest ih =>
    intro call plan same
    rw [publishAll, publishAll]
    split
    · exact ih fun k below => same k (Nat.lt_succ_of_lt below)
    · have here : refuses call = refuses' call := same 0 (Nat.succ_pos _)
      rw [here]
      refine congrArg _ (funext fun next => ih fun k below => ?_)
      rw [Nat.add_assoc, Nat.add_comm 1 k]
      exact same (k + 1) (Nat.succ_lt_succ below)

end Plan

/-! ### The refinement -/

/-- An entry without the address of its device object. -/
def BridgedWemoLight.withoutAddress (entry : BridgedWemoLight) : BridgedWemoLight :=
  { entry with device := 0 }

/-- Up to addresses the entries are those of the devices. -/
theorem Bridge.Arranged.entries_withoutAddress {bridge : Bridge D} {first : EndpointId}
    {ids : Nat → EndpointId} {lights : List (WemoDevice × DevicePtr)}
    (arranged : bridge.Arranged first ids lights) :
    bridge.gBridgedWemoLights.map (·.withoutAddress) =
      (lights.map Prod.fst).map (newEntry · 0) := by
  rw [arranged.entries, List.map_map, List.map_map]
  rfl

/-- The tables are arranged as planned. -/
def Bridge.Realizes (bridge : Bridge D) (first : EndpointId) (plan : Plan) : Prop :=
  bridge.gCurrentEndpointId = plan.current ∧
    ∃ lights, lights.map Prod.fst = plan.devices ∧ bridge.Arranged first plan.ids lights

section Refinement

variable {bridge : Bridge D} {first : EndpointId} {plan : Plan}

/-- As many entries as planned. -/
theorem Bridge.Realizes.length_entries (realizes : bridge.Realizes first plan) :
    bridge.gBridgedWemoLights.length = plan.devices.length := by
  obtain ⟨-, lights, devices, arranged⟩ := realizes
  rw [arranged.entries, ← devices, List.length_map, List.length_map]

theorem Bridge.Realizes.count_le (realizes : bridge.Realizes first plan) :
    plan.devices.length ≤ CHIP_DEVICE_CONFIG_DYNAMIC_ENDPOINT_COUNT := by
  obtain ⟨-, lights, devices, arranged⟩ := realizes
  rw [← devices, List.length_map]
  exact arranged.count_le

/-- **A turn up to the return of `AddDeviceEndpoint`** does what the plan does with its device, and
answers -1 exactly if the plan leaves the device out. -/
theorem Bridge.Realizes.offerDevice (realizes : bridge.Realizes first plan)
    (notFull : plan.devices.length < CHIP_DEVICE_CONFIG_DYNAMIC_ENDPOINT_COUNT) (heap : Allocator)
    (refuses : EndpointId → Bool) (dev : WemoDevice) :
    Option.Rel (fun next added => (finishPublish dev
          (heap.address (bridge.gBridgedWemoLights.map (·.device))) added).Realizes first next ∧
        next.devices = if added.2 < 0 then plan.devices else plan.devices ++ [dev])
      (plan.offer first refuses dev) (WemoBridge.offerDevice heap refuses dev bridge) := by
  obtain ⟨current, lights, devices, arranged⟩ := realizes
  have length : lights.length = plan.devices.length := by rw [← devices, List.length_map]
  have turn := @Bridge.Arranged.turn D _ _ _ _ _ refuses arranged (length ▸ notFull) dev _
    (arranged.address_fresh heap)
  rw [Plan.offer, WemoBridge.offerDevice, ← length, ← current]
  cases found : firstUnheld (heldBelow plan.ids lights.length) first (2 ^ 16)
      bridge.gCurrentEndpointId with
  | none =>
    rw [found] at turn
    rw [turn]
    exact Option.Rel.none
  | some id =>
    rw [found] at turn
    obtain ⟨added, adds, after, result⟩ := turn
    rw [adds, Option.map_some]
    refine Option.Rel.some ?_
    by_cases refused : refuses id
    · rw [if_pos refused] at result ⊢
      refine ⟨⟨after, lights, devices, result.2⟩, ?_⟩
      rw [result.1, if_pos (by decide)]
    · rw [if_neg refused] at result ⊢
      refine ⟨⟨after, lights ++ [(dev, _)], by rw [List.map_append, devices]; rfl, result.2⟩, ?_⟩
      rw [result.1, if_neg (by omega)]

/-- **One turn refines one offer.** -/
theorem Bridge.Realizes.publishDevice (realizes : bridge.Realizes first plan)
    (notFull : plan.devices.length < CHIP_DEVICE_CONFIG_DYNAMIC_ENDPOINT_COUNT) (heap : Allocator)
    (refuses : EndpointId → Bool) (dev : WemoDevice) :
    Option.Rel (fun next after => after.Realizes first next) (plan.offer first refuses dev)
      (WemoBridge.publishDevice heap refuses dev bridge) := by
  have turn := realizes.offerDevice notFull heap refuses dev
  unfold WemoBridge.publishDevice
  generalize plan.offer first refuses dev = offered at turn ⊢
  generalize WemoBridge.offerDevice heap refuses dev bridge = added at turn ⊢
  cases turn with
  | none => exact Option.Rel.none
  | some both => exact Option.Rel.some both.1

/-- **The publish loop refines its plan.** -/
theorem publishLoop_refines {heap : Allocator} {refuses : Nat → EndpointId → Bool}
    (devices : List WemoDevice) : ∀ {call : Nat} {bridge : Bridge D} {plan : Plan},
      bridge.Realizes first plan →
        Option.Rel (fun next after => after.Realizes first next)
          (plan.publishAll first refuses call devices)
          (publishLoop heap refuses call devices bridge) := by
  induction devices with
  | nil => exact fun realizes => Option.Rel.some realizes
  | cons dev rest ih =>
    intro call bridge plan realizes
    rw [Plan.publishAll, publishLoop, realizes.length_entries]
    split
    · exact ih realizes
    · rename_i notFull
      have turn := realizes.publishDevice (not_le.mp notFull) heap (refuses call) dev
      generalize plan.offer first (refuses call) dev = offered at turn ⊢
      generalize publishDevice heap (refuses call) dev bridge = after at turn ⊢
      cases turn with
      | none => exact Option.Rel.none
      | some next => exact ih next

end Refinement

/-- The tables before the loop, as `ApplicationInit` resets them. -/
def resetBridge (lastFixed : EndpointId) : Bridge D :=
  { (freshProcess : Bridge D) with
    gFirstDynamicEndpointId := lastFixed + 1
    gCurrentEndpointId := lastFixed + 1 }

theorem resetBridge_realizes (lastFixed : EndpointId) :
    (resetBridge lastFixed : Bridge D).Realizes (lastFixed + 1) (Plan.empty (lastFixed + 1)) := by
  refine ⟨rfl, [], rfl, rfl, Nat.zero_le _, ?_, rfl, fun _ => rfl, fun _ => rfl, List.nodup_nil,
    ?_, ?_, ?_⟩
  · intro i below
    exact absurd below (Nat.not_lt_zero i)
  · intro light member
    cases member
  · intro dev bound
    exact absurd rfl bound
  · intro i light here
    cases here

/-- **A start refines its plan.** -/
theorem applicationInit_refines (heap : Allocator) (lastFixed : EndpointId)
    (refuses : Nat → EndpointId → Bool) (discovered : List WemoDevice) :
    Option.Rel (fun (plan : Plan) (bridge : Bridge D) => bridge.Realizes (lastFixed + 1) plan)
      ((Plan.empty (lastFixed + 1)).publishAll (lastFixed + 1) refuses 0
        (sortDiscovered discovered))
      (applicationInit heap lastFixed refuses discovered) :=
  publishLoop_refines _ (resetBridge_realizes lastFixed)

/-- The tables of a started bridge are arranged. -/
theorem applicationInit_arranged {heap : Allocator} {lastFixed : EndpointId}
    {refuses : Nat → EndpointId → Bool} {discovered : List WemoDevice} {bridge : Bridge D}
    (starts : applicationInit heap lastFixed refuses discovered = some bridge) :
    ∃ plan lights, (Plan.empty (lastFixed + 1)).publishAll (lastFixed + 1) refuses 0
        (sortDiscovered discovered) = some plan ∧ lights.map Prod.fst = plan.devices ∧
      bridge.Arranged (lastFixed + 1) plan.ids lights := by
  have refines := @applicationInit_refines D _ heap lastFixed refuses discovered
  rw [starts] at refines
  cases planned : (Plan.empty (lastFixed + 1)).publishAll (lastFixed + 1) refuses 0
      (sortDiscovered discovered) with
  | none =>
    rw [planned] at refines
    cases refines
  | some plan =>
    rw [planned] at refines
    obtain ⟨-, lights, devices, arranged⟩ := Option.rel_some_some.mp refines
    exact ⟨plan, lights, rfl, devices, arranged⟩

end WemoBridge
