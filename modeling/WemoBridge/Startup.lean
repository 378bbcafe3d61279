/-
**Startup publishes a consistent set.**

The publish loop pushes an entry before it registers the device, pops it if the SDK refuses, and
skips the rest of the list once the slots are full. The tables it passes through (`PassesThrough`)
are those the loop itself makes of a first part of the list, and those within the turn that follows;
`registrations` are its calls of `AddDeviceEndpoint` with what they return, one for each turn before
the slots are full (`RunsByTurns`). Whatever the SDK refuses, no push goes beyond the reserved
capacity, and the tables end up with the devices whose registration succeeded, in the order of the
sorted list (`startup_consistent`).
-/

import WemoBridge.Plan
import WemoBridge.Init

namespace WemoBridge

open Library

variable {D : Type} [ChipSdk D]

/-! ### What the loop passes through -/

/-- `gBridgedWemoLights.reserve(std::min(discovered.size(), endpointCapacity))` -/
def reservedCapacity (discovered : List WemoDevice) : Nat :=
  min discovered.length CHIP_DEVICE_CONFIG_DYNAMIC_ENDPOINT_COUNT

/-- **The tables the publish loop passes through**: before, between and after its turns, and within
a turn with the device pushed and when `AddDeviceEndpoint` returns. -/
inductive PassesThrough (heap : Allocator) (refuses : Nat → EndpointId → Bool)
    (devices : List WemoDevice) (start : Bridge D) : Bridge D → Prop
  | between {turn : Nat} {state : Bridge D}
      (reached : publishLoop heap refuses 0 (devices.take turn) start = some state) :
      PassesThrough heap refuses devices start state
  | pushed {turn : Nat} {dev : WemoDevice} {before : Bridge D}
      (offers : OffersAt heap refuses 0 devices start turn dev before) :
      PassesThrough heap refuses devices start
        (pushDevice dev (heap.address (before.gBridgedWemoLights.map (·.device))) before)
  | returned {turn : Nat} {dev : WemoDevice} {before : Bridge D} {added : Bridge D × Int}
      (offers : OffersAt heap refuses 0 devices start turn dev before)
      (adds : offerDevice heap (refuses turn) dev before = some added) :
      PassesThrough heap refuses devices start added.1

/-- The calls of `AddDeviceEndpoint` in the publish loop, with the slot or the -1 they return. -/
def registrations (heap : Allocator) (refuses : Nat → EndpointId → Bool) :
    Nat → List WemoDevice → Bridge D → List (WemoDevice × Int)
  | _, [], _ => []
  | call, dev :: rest, bridge =>
      if bridge.gBridgedWemoLights.length ≥ CHIP_DEVICE_CONFIG_DYNAMIC_ENDPOINT_COUNT then
        registrations heap refuses call rest bridge
      else
        match offerDevice heap (refuses call) dev bridge with
        | none => []
        | some added =>
            (dev, added.2) :: registrations heap refuses (call + 1) rest
              (finishPublish dev (heap.address (bridge.gBridgedWemoLights.map (·.device))) added)

/-- The devices whose registration succeeded. -/
def succeeded (calls : List (WemoDevice × Int)) : List WemoDevice :=
  (calls.filter fun call => 0 ≤ call.2).map Prod.fst

theorem succeeded_sublist (calls : List (WemoDevice × Int)) :
    (succeeded calls).Sublist (calls.map Prod.fst) :=
  List.filter_sublist.map _

/-- **The publish loop, turn by turn.** With the slots full a turn does nothing, otherwise it offers
its device and finishes with what the offer returned; and the call listed for a turn is the one the
loop makes there, from the tables the turns before have left. -/
structure RunsByTurns (heap : Allocator) (refuses : Nat → EndpointId → Bool)
    (devices : List WemoDevice) (start : Bridge D) : Prop where
  turns : ∀ turn dev, devices[turn]? = some dev →
    publishLoop heap refuses 0 (devices.take (turn + 1)) start =
      (publishLoop heap refuses 0 (devices.take turn) start).bind fun before =>
        if before.gBridgedWemoLights.length ≥ CHIP_DEVICE_CONFIG_DYNAMIC_ENDPOINT_COUNT then
          some before
        else (offerDevice heap (refuses turn) dev before).map
          (finishPublish dev (heap.address (before.gBridgedWemoLights.map (·.device))))
  calls : ∀ turn dev result,
    (registrations heap refuses 0 devices start)[turn]? = some (dev, result) ↔
      ∃ before added, OffersAt heap refuses 0 devices start turn dev before ∧
        offerDevice heap (refuses turn) dev before = some added ∧ added.2 = result

/-! ### The tables -/

/-- **The tables agree**: the slots hold exactly the devices of the entries, one slot and one entry
each, the entries' devices are alive, and they alone are bound to a UDN, their own. -/
structure Bridge.TablesConsistent (bridge : Bridge D) : Prop where
  slots : ∀ i, bridge.gDevices i = bridge.gBridgedWemoLights[i]?.map (·.device)
  owned : ∀ dev, (∃ i, bridge.gDevices i = some dev) ↔
    dev ∈ bridge.gBridgedWemoLights.map (·.device)
  one_slot : ∀ i j dev, bridge.gDevices i = some dev → bridge.gDevices j = some dev → i = j
  one_owner : (bridge.gBridgedWemoLights.map (·.device)).Nodup
  alive : ∀ entry ∈ bridge.gBridgedWemoLights, (bridge.objects entry.device).isSome = true
  udns : ∀ dev udn, bridge.gWemoDeviceToUdn dev = some udn ↔
    ∃ entry ∈ bridge.gBridgedWemoLights, entry.device = dev ∧ entry.udn = udn

theorem Bridge.Arranged.tablesConsistent {bridge : Bridge D} {first : EndpointId}
    {ids : Nat → EndpointId} {lights : List (WemoDevice × DevicePtr)}
    (arranged : bridge.Arranged first ids lights) : bridge.TablesConsistent := by
  have devices : bridge.gBridgedWemoLights.map (·.device) = lights.map Prod.snd := by
    rw [arranged.entries, List.map_map]
    rfl
  have slots : ∀ i, bridge.gDevices i = (lights.map Prod.snd)[i]? := by
    intro i
    rw [arranged.slots, List.getElem?_map]
  refine ⟨?_, ?_, ?_, arranged.devices_nodup, ?_, ?_⟩
  · intro i
    rw [slots, ← devices, List.getElem?_map]
  · intro dev
    rw [devices, List.mem_iff_getElem?]
    exact exists_congr fun i => by rw [slots]
  · intro i j dev atI atJ
    rw [slots] at atI atJ
    exact (List.getElem?_inj (List.getElem?_eq_some_iff.mp atI).1 arranged.distinct).mp
      (atI.trans atJ.symm)
  · intro entry member
    rw [arranged.entries] at member
    obtain ⟨light, listed, rfl⟩ := List.mem_map.mp member
    obtain ⟨i, here⟩ := List.mem_iff_getElem?.mp listed
    obtain ⟨object, stored, -⟩ := arranged.objects i light here
    exact Option.isSome_iff_exists.mpr ⟨object, stored⟩
  · intro dev udn
    constructor
    · intro bound
      obtain ⟨light, listed, rfl⟩ := List.mem_map.mp (arranged.udn_keys dev (by rw [bound]; simp))
      refine ⟨newEntry light.1 light.2, ?_, rfl, ?_⟩
      · rw [arranged.entries]
        exact List.mem_map_of_mem listed
      · exact Option.some.inj ((arranged.udns light listed).symm.trans bound)
    · rintro ⟨entry, member, rfl, rfl⟩
      rw [arranged.entries] at member
      obtain ⟨light, listed, rfl⟩ := List.mem_map.mp member
      exact arranged.udns light listed

/-! ### The loop -/

section Loop

variable {heap : Allocator} {refuses : Nat → EndpointId → Bool} {first : EndpointId}

/-- What one turn can come to: `AddDeviceEndpoint` does not return, or the tables realize the plan
with the device left out or added, as its result says. -/
theorem Bridge.Realizes.turn_cases {bridge : Bridge D} {plan : Plan}
    (realizes : bridge.Realizes first plan)
    (notFull : ¬ plan.devices.length ≥ CHIP_DEVICE_CONFIG_DYNAMIC_ENDPOINT_COUNT)
    (refuses : EndpointId → Bool) (dev : WemoDevice) :
    WemoBridge.offerDevice heap refuses dev bridge = none ∨
    ∃ added next, WemoBridge.offerDevice heap refuses dev bridge = some added ∧
      (finishPublish dev (heap.address (bridge.gBridgedWemoLights.map (·.device))) added).Realizes
        first next ∧
      next.devices = if added.2 < 0 then plan.devices else plan.devices ++ [dev] := by
  have turn := realizes.offerDevice (not_le.mp notFull) heap refuses dev
  generalize plan.offer first refuses dev = offered at turn
  generalize WemoBridge.offerDevice heap refuses dev bridge = result at turn ⊢
  cases turn with
  | none => exact Or.inl rfl
  | some both => exact Or.inr ⟨_, _, rfl, both.1, both.2⟩

/-- A loop that starts full makes no call. -/
theorem registrations_full {bridge : Bridge D}
    (full : bridge.gBridgedWemoLights.length ≥ CHIP_DEVICE_CONFIG_DYNAMIC_ENDPOINT_COUNT)
    (devices : List WemoDevice) (call : Nat) :
    registrations heap refuses call devices bridge = [] := by
  induction devices with
  | nil => rfl
  | cons dev rest ih => rw [registrations, if_pos full, ih]

/-- **The calls listed are those the loop makes.** -/
theorem registrations_getElem?_iff {other : WemoDevice} {result : Int} (devices : List WemoDevice) :
    ∀ {call turn : Nat} {start : Bridge D},
      (registrations heap refuses call devices start)[turn]? = some (other, result) ↔
        ∃ before added, OffersAt heap refuses call devices start turn other before ∧
          offerDevice heap (refuses (call + turn)) other before = some added ∧
          added.2 = result := by
  induction devices with
  | nil =>
    intro call turn start
    refine iff_of_false (by simp [registrations]) ?_
    rintro ⟨before, added, offers, -⟩
    cases offers.listed
  | cons dev rest ih =>
    intro call turn start
    by_cases full : start.gBridgedWemoLights.length ≥ CHIP_DEVICE_CONFIG_DYNAMIC_ENDPOINT_COUNT
    · rw [registrations_full full]
      refine iff_of_false (by simp) ?_
      rintro ⟨before, added, offers, -⟩
      exact not_offersAt_of_full full offers
    · rw [registrations, if_neg full]
      cases turn with
      | zero =>
        simp only [offersAt_zero_iff full]
        cases offer : offerDevice heap (refuses call) dev start with
        | none =>
          refine iff_of_false (by simp) ?_
          rintro ⟨before, added, ⟨rfl, rfl⟩, adds, -⟩
          cases offer.symm.trans adds
        | some added =>
          rw [List.getElem?_cons_zero, Option.some_inj, Prod.mk.injEq]
          constructor
          · rintro ⟨rfl, rfl⟩
            exact ⟨start, added, ⟨rfl, rfl⟩, offer, rfl⟩
          · rintro ⟨before, other, ⟨rfl, rfl⟩, adds, rfl⟩
            exact ⟨rfl, congrArg Prod.snd (Option.some.inj (offer.symm.trans adds))⟩
      | succ turn =>
        simp only [offersAt_succ_iff full, publishDevice]
        cases offer : offerDevice heap (refuses call) dev start with
        | none =>
          refine iff_of_false (by simp) ?_
          rintro ⟨before, added, ⟨next, turns, -⟩, -⟩
          cases turns
        | some added =>
          rw [List.getElem?_cons_succ, ih, Nat.add_assoc, Nat.add_comm 1]
          simp only [Option.map_some, Option.some_inj, exists_eq_left']

/-- The loop over a list runs by its turns. -/
theorem runsByTurns (devices : List WemoDevice) (start : Bridge D) :
    RunsByTurns heap refuses devices start where
  turns turn dev listed := by
    have taken := @publishLoop_take_succ D _ heap refuses _ _ _ listed 0 start
    rwa [Nat.zero_add] at taken
  calls turn dev result := by
    have made := @registrations_getElem?_iff D _ heap refuses dev result devices 0 turn start
    rwa [Nat.zero_add] at made

/-- **What the loop publishes.** The calls go through the list from its start; the devices whose
registration succeeded are added in that order; either every device was offered or the slots are
full. -/
theorem publishLoop_registrations (devices : List WemoDevice) : ∀ {call : Nat} {bridge : Bridge D}
    {plan : Plan} {after : Bridge D}, bridge.Realizes first plan →
      publishLoop heap refuses call devices bridge = some after →
        ∃ next, after.Realizes first next ∧
          next.devices = plan.devices ++ succeeded (registrations heap refuses call devices bridge) ∧
          (registrations heap refuses call devices bridge).map Prod.fst <+: devices ∧
          ((registrations heap refuses call devices bridge).map Prod.fst = devices ∨
            next.devices.length = CHIP_DEVICE_CONFIG_DYNAMIC_ENDPOINT_COUNT) := by
  induction devices with
  | nil =>
    intro call bridge plan after realizes ends
    obtain rfl := Option.some.inj ends
    exact ⟨plan, realizes, (List.append_nil _).symm, List.nil_prefix, Or.inl rfl⟩
  | cons dev rest ih =>
    intro call bridge plan after realizes ends
    have entries := realizes.length_entries
    by_cases full :
        bridge.gBridgedWemoLights.length ≥ CHIP_DEVICE_CONFIG_DYNAMIC_ENDPOINT_COUNT
    · obtain rfl := Option.some.inj ((publishLoop_full full (dev :: rest) call).symm.trans ends)
      rw [registrations_full full]
      refine ⟨plan, realizes, (List.append_nil _).symm, List.nil_prefix, Or.inr ?_⟩
      exact le_antisymm realizes.count_le (entries ▸ full)
    · rw [publishLoop, if_neg full, publishDevice] at ends
      rw [registrations, if_neg full]
      rcases realizes.turn_cases (entries ▸ full) (refuses call) dev with
        never | ⟨added, next, adds, realizesNext, nextDevices⟩
      · rw [never] at ends
        cases ends
      · rw [adds, Option.map_some, Option.bind_some] at ends
        obtain ⟨last, realizesLast, lastDevices, offered, all⟩ := ih realizesNext ends
        rw [adds]
        refine ⟨last, realizesLast, ?_, List.cons_prefix_cons.mpr ⟨rfl, offered⟩, ?_⟩
        · rw [lastDevices, nextDevices, succeeded, succeeded, List.filter_cons]
          by_cases refused : added.2 < 0
          · rw [if_pos refused, if_neg (by simpa using refused)]
          · rw [if_neg refused, if_pos (by simpa using refused), List.append_assoc]
            rfl
        · exact all.imp_left (congrArg (dev :: ·))

/-- The loop adds at most one entry for each device. -/
theorem publishLoop_entries_le {devices : List WemoDevice} {call : Nat} {start after : Bridge D}
    {plan : Plan} (realizes : start.Realizes first plan)
    (ends : publishLoop heap refuses call devices start = some after) :
    after.gBridgedWemoLights.length ≤ plan.devices.length + devices.length ∧
      after.gBridgedWemoLights.length ≤ CHIP_DEVICE_CONFIG_DYNAMIC_ENDPOINT_COUNT := by
  obtain ⟨next, realizesNext, nextDevices, offered, -⟩ := publishLoop_registrations devices realizes
    ends
  rw [realizesNext.length_entries]
  refine ⟨?_, realizesNext.count_le⟩
  rw [nextDevices, List.length_append]
  exact Nat.add_le_add_left ((succeeded_sublist _).trans offered.sublist).length_le _

/-- **No push goes beyond the capacity.** -/
theorem PassesThrough.length_le {devices : List WemoDevice} {start state : Bridge D} {plan : Plan}
    (realizes : start.Realizes first plan)
    (passes : PassesThrough heap refuses devices start state) :
    state.gBridgedWemoLights.length ≤
      min (plan.devices.length + devices.length) CHIP_DEVICE_CONFIG_DYNAMIC_ENDPOINT_COUNT := by
  have pushed : ∀ {turn dev before}, OffersAt heap refuses 0 devices start turn dev before →
      ∀ device, (pushDevice dev device before).gBridgedWemoLights.length ≤
        min (plan.devices.length + devices.length)
          CHIP_DEVICE_CONFIG_DYNAMIC_ENDPOINT_COUNT := by
    intro turn dev before offers device
    obtain ⟨perTurn, -⟩ := publishLoop_entries_le realizes offers.reached
    have below := (List.getElem?_eq_some_iff.mp offers.listed).1
    have notFull := offers.notFull
    rw [List.length_take] at perTurn
    rw [pushDevice, List.length_append, List.length_singleton]
    omega
  cases passes with
  | between reached =>
    obtain ⟨perTurn, capacity⟩ := publishLoop_entries_le realizes reached
    rw [List.length_take] at perTurn
    omega
  | pushed offers => exact pushed offers _
  | returned offers adds =>
    rw [addDeviceEndpoint_entries adds]
    exact pushed offers _

end Loop

/-! ### A start -/

/-- **The devices published are those whose registration succeeded**: the calls go through the
discovered devices, sorted by UDN and then by name, from the first one on, until every device was
offered or the slots are full. -/
structure Bridge.PublishesSucceeded (bridge : Bridge D) (discovered : List WemoDevice)
    (calls : List (WemoDevice × Int)) : Prop where
  sorted_perm : (sortDiscovered discovered).Perm discovered
  sorted : (sortDiscovered discovered).Pairwise fun a b => comesBefore b a = false
  entries : bridge.gBridgedWemoLights.map (·.withoutAddress) = (succeeded calls).map (newEntry · 0)
  udns_in_order : bridge.gBridgedWemoLights.Pairwise (·.udn ≤ ·.udn)
  in_order : calls.map Prod.fst <+: sortDiscovered discovered
  none_twice : (succeeded calls).Sublist (sortDiscovered discovered)
  at_most : (succeeded calls).length ≤ CHIP_DEVICE_CONFIG_DYNAMIC_ENDPOINT_COUNT
  as_many : calls.map Prod.fst = sortDiscovered discovered ∨
    (succeeded calls).length = CHIP_DEVICE_CONFIG_DYNAMIC_ENDPOINT_COUNT

/-- **Startup publishes a consistent set**, whatever was discovered and whatever the SDK refuses.
The loop passes through no tables with more lights than the reserved capacity; its turns and calls
are as `RunsByTurns` says; a start that returns leaves consistent tables with the devices whose
registration succeeded; and it returns, if the SDK refuses the invalid endpoint id. -/
theorem startup_consistent (heap : Allocator) (lastFixed : EndpointId)
    (refuses : Nat → EndpointId → Bool) (discovered : List WemoDevice) :
    (∀ state : Bridge D, PassesThrough heap refuses (sortDiscovered discovered)
        (resetBridge lastFixed) state →
      state.gBridgedWemoLights.length ≤ reservedCapacity discovered) ∧
    RunsByTurns heap refuses (sortDiscovered discovered) (resetBridge lastFixed : Bridge D) ∧
    (∀ bridge : Bridge D, applicationInit heap lastFixed refuses discovered = some bridge →
      PassesThrough heap refuses (sortDiscovered discovered) (resetBridge lastFixed) bridge ∧
      bridge.TablesConsistent ∧
      bridge.PublishesSucceeded discovered (registrations heap refuses 0
        (sortDiscovered discovered) (resetBridge lastFixed : Bridge D))) ∧
    ((∀ call, refuses call kInvalidEndpointId = true) →
      ∃ bridge : Bridge D, applicationInit heap lastFixed refuses discovered = some bridge) := by
  have reset := @resetBridge_realizes D _ lastFixed
  have perm := sortDiscovered_perm discovered
  have sorted := sortDiscovered_sorted discovered
  refine ⟨fun state passes => ?_, runsByTurns _ _, fun bridge starts => ?_, fun invalid => ?_⟩
  · have within := passes.length_le reset
    rw [perm.length_eq] at within
    exact within.trans_eq (congrArg (min · _) (Nat.zero_add _))
  · obtain ⟨plan, realizes, devices, in_order, as_many⟩ := publishLoop_registrations _ reset starts
    have count_le := realizes.count_le
    obtain ⟨-, lights, lightDevices, arranged⟩ := realizes
    rw [show (Plan.empty (lastFixed + 1)).devices = [] from rfl, List.nil_append] at devices
    rw [devices] at lightDevices count_le as_many
    have none_twice := (succeeded_sublist _).trans in_order.sublist
    have entries := arranged.entries_withoutAddress
    rw [lightDevices] at entries
    have whole := starts
    rw [applicationInit, ← @List.take_length _ (sortDiscovered discovered)] at whole
    refine ⟨.between whole, arranged.tablesConsistent, perm, sorted, entries, ?_, in_order,
      none_twice, count_le, as_many⟩
    have udns : bridge.gBridgedWemoLights.map (·.udn) =
        (succeeded (registrations heap refuses 0 (sortDiscovered discovered)
          (resetBridge lastFixed : Bridge D))).map (·.udn) := by
      have mapped := congrArg (List.map BridgedWemoLight.udn) entries
      rwa [List.map_map, List.map_map] at mapped
    refine List.pairwise_map.mp ?_
    rw [udns]
    exact List.pairwise_map.mpr ((sorted.sublist none_twice).imp udn_le_of_comesBefore_eq_false)
  · exact applicationInit_ends lastFixed invalid discovered

/-- The sample home with one more switch, listed last but first by its UDN. -/
def sampleMixed : List WemoDevice :=
  sampleDevices ++ [{ wemoId := 9, udn := literal "uuid:Alcove", friendlyName := literal "Alcove" }]

/-- An SDK that refuses the second call, which is that of the dimmer. -/
def refusesSecond : Nat → EndpointId → Bool := fun call id => call = 1 ∨ id = kInvalidEndpointId

/-- Of three devices, listed in no order, the first and the last by their UDNs are published. -/
theorem startup_consistent_sample :
    ∃ bridge : Bridge PlainDevice,
      applicationInit nextAddress 2 refusesSecond sampleMixed = some bridge ∧
        bridge.TablesConsistent ∧
        sampleMixed.map (·.udn) =
          [literal "uuid:Socket", literal "uuid:Dimmer", literal "uuid:Alcove"] ∧
        bridge.gBridgedWemoLights.map (·.udn) = [literal "uuid:Alcove", literal "uuid:Socket"] := by
  obtain ⟨-, -, consistent, returns⟩ := @startup_consistent PlainDevice _ nextAddress 2
    refusesSecond sampleMixed
  obtain ⟨bridge, starts⟩ := returns fun call => by simp [refusesSecond]
  obtain ⟨-, tables, publishes⟩ := consistent bridge starts
  refine ⟨bridge, starts, tables, by decide, ?_⟩
  have udns := congrArg (List.map BridgedWemoLight.udn) publishes.entries
  rw [List.map_map] at udns
  exact udns.trans (by decide)

end WemoBridge
