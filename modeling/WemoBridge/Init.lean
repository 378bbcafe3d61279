/-
**`ApplicationInit`: the bridge it starts.**

A bridge whose tables are arranged is `Published` and has no pending command
(`Arranged.started`). The SDK refuses the invalid endpoint id, so the ids it is offered are
consecutive: the publish loop ends with the lights of `accepted`, the first 16 devices the SDK does
not refuse, the k-th under the k-th dynamic endpoint id. `Laid` is `Arranged` with these ids; every
turn keeps it (`publishDevice_laid`), hence the whole loop does (`publishLoop_laid`).
-/

import WemoBridge.PublishLoop

namespace WemoBridge

open Library

variable {D : Type} [ChipSdk D]

/-! ### Which devices are published -/

/-- The id of the k-th dynamic endpoint. -/
def dynamicEndpointId (first : EndpointId) (k : Nat) : EndpointId := first + UInt16.ofNat k

/-- The devices that are published when `k` are published already: each call offers the next id. -/
def accepted (first : EndpointId) (refuses : Nat → EndpointId → Bool) :
    Nat → Nat → List WemoDevice → List WemoDevice
  | _, _, [] => []
  | call, k, dev :: rest =>
      if k ≥ CHIP_DEVICE_CONFIG_DYNAMIC_ENDPOINT_COUNT then []
      else if refuses call (dynamicEndpointId first k) then accepted first refuses (call + 1) k rest
      else dev :: accepted first refuses (call + 1) (k + 1) rest

/-! ### What is laid out -/

/-- **The tables with the lights published so far**, under the dynamic ids: they have room, and the
counter is at the last light's id or the one after it. -/
structure Bridge.Laid (bridge : Bridge D) (first : EndpointId)
    (lights : List (WemoDevice × DevicePtr)) : Prop where
  arranged : bridge.Arranged first (dynamicEndpointId first) lights
  room : first.toNat + lights.length ≤ 0xFFFF
  current : ∃ ahead, bridge.gCurrentEndpointId = dynamicEndpointId first ahead ∧
    (ahead = lights.length ∨ ahead + 1 = lights.length)

section Ids

variable {first : EndpointId} {k : Nat}

theorem toNat_dynamicEndpointId (room : first.toNat + k ≤ 0xFFFF) :
    (dynamicEndpointId first k).toNat = first.toNat + k := by
  simp only [dynamicEndpointId, UInt16.toNat_add, UInt16.toNat_ofNat']
  omega

theorem nextEndpointId_dynamicEndpointId (room : first.toNat + (k + 1) ≤ 0xFFFF) :
    nextEndpointId first (dynamicEndpointId first k) = dynamicEndpointId first (k + 1) := by
  have successor : dynamicEndpointId first k + 1 = dynamicEndpointId first (k + 1) := by
    refine UInt16.toNat_inj.mp ?_
    rw [toNat_dynamicEndpointId room, UInt16.toNat_add, toNat_dynamicEndpointId (by omega),
      UInt16.toNat_one]
    omega
  have notBelow : ¬ dynamicEndpointId first (k + 1) < first := by
    rw [UInt16.lt_iff_toNat_lt, toNat_dynamicEndpointId room]
    omega
  rw [nextEndpointId, successor, if_neg notBelow]

theorem dynamicEndpointId_inj {j : Nat} (roomK : first.toNat + k ≤ 0xFFFF)
    (roomJ : first.toNat + j ≤ 0xFFFF) :
    dynamicEndpointId first k = dynamicEndpointId first j ↔ k = j := by
  rw [← UInt16.toNat_inj, toNat_dynamicEndpointId roomK, toNat_dynamicEndpointId roomJ]
  omega

end Ids

/-! ### One turn of the loop -/

namespace Bridge

variable {bridge : Bridge D} {first : EndpointId} {lights : List (WemoDevice × DevicePtr)}

/-- The loop offers the next dynamic id. -/
theorem Laid.firstUnheld_eq (laid : bridge.Laid first lights) {fuel : Nat} (enough : 2 ≤ fuel) :
    firstUnheld (heldBelow (dynamicEndpointId first) lights.length) first fuel
      bridge.gCurrentEndpointId = some (dynamicEndpointId first lights.length) := by
  obtain ⟨rest, rfl⟩ := Nat.exists_eq_add_of_le' enough
  have room := laid.room
  have free : heldBelow (dynamicEndpointId first) lights.length
      (dynamicEndpointId first lights.length) = false := by
    refine Bool.eq_false_iff.mpr fun held => ?_
    obtain ⟨i, member, same⟩ := List.any_eq_true.mp held
    have below := List.mem_range.mp member
    exact below.ne ((dynamicEndpointId_inj (by omega) room).mp (by simpa using same))
  obtain ⟨ahead, current, atEnd | beforeEnd⟩ := laid.current
  · rw [current, atEnd, firstUnheld, free, if_neg Bool.false_ne_true]
  · have held : heldBelow (dynamicEndpointId first) lights.length
        (dynamicEndpointId first ahead) = true :=
      List.any_eq_true.mpr ⟨ahead, List.mem_range.mpr (by omega), by simp⟩
    rw [current, firstUnheld, if_pos held, nextEndpointId_dynamicEndpointId (by omega), beforeEnd,
      firstUnheld, free, if_neg Bool.false_ne_true]

end Bridge

section Turn

variable {bridge : Bridge D} {first : EndpointId} {lights : List (WemoDevice × DevicePtr)}
  {heap : Allocator} {refuses : EndpointId → Bool}

/-- **One turn of the loop.** The device is offered under the next dynamic id; if the SDK refuses
that id the tables are as before, otherwise the device is the next light. -/
theorem publishDevice_laid (laid : bridge.Laid first lights)
    (notFull : lights.length < CHIP_DEVICE_CONFIG_DYNAMIC_ENDPOINT_COUNT)
    (invalid : refuses kInvalidEndpointId = true) (dev : WemoDevice) :
    ∃ after device, publishDevice heap refuses dev bridge = some after ∧
      after.Laid first (if refuses (dynamicEndpointId first lights.length) then lights
        else lights ++ [(dev, device)]) := by
  have turn := @Bridge.Arranged.turn D _ _ _ _ _ refuses laid.arranged notFull dev _
    (laid.arranged.address_fresh heap)
  have room := laid.room
  rw [laid.firstUnheld_eq (by omega)] at turn
  obtain ⟨added, adds, current, result⟩ := turn
  refine ⟨_, heap.address (bridge.gBridgedWemoLights.map (·.device)), by
    rw [publishDevice, offerDevice, adds, Option.map_some], ?_⟩
  by_cases refused : refuses (dynamicEndpointId first lights.length)
  · rw [if_pos refused] at result ⊢
    exact ⟨result.2, room, lights.length, current, Or.inl rfl⟩
  · rw [if_neg refused] at result ⊢
    rw [Function.update_eq_self] at result
    have notLast : first.toNat + lights.length ≠ 0xFFFF := by
      intro last
      refine absurd invalid ?_
      have same : dynamicEndpointId first lights.length = kInvalidEndpointId := by
        refine UInt16.toNat_inj.mp ?_
        rw [toNat_dynamicEndpointId room, last]
        rfl
      rwa [same] at refused
    refine ⟨result.2, ?_, lights.length, current, Or.inr ?_⟩
    · rw [List.length_append, List.length_singleton]
      omega
    · rw [List.length_append, List.length_singleton]

end Turn

/-! ### The whole loop -/

section WholeLoop

variable {first : EndpointId} {heap : Allocator} {refuses : Nat → EndpointId → Bool}

omit [ChipSdk D] in
theorem accepted_full {call k : Nat} (full : k ≥ CHIP_DEVICE_CONFIG_DYNAMIC_ENDPOINT_COUNT)
    (devices : List WemoDevice) : accepted first refuses call k devices = [] := by
  cases devices with
  | nil => rfl
  | cons dev rest => rw [accepted, if_pos full]

/-- The published devices are discovered devices, in their order. -/
theorem accepted_sublist (devices : List WemoDevice) : ∀ call k,
    (accepted first refuses call k devices).Sublist devices := by
  induction devices with
  | nil => exact fun _ _ => List.nil_sublist _
  | cons dev rest ih =>
    intro call k
    rw [accepted]
    split
    · exact List.nil_sublist _
    · split
      · exact (ih _ _).cons _
      · exact (ih _ _).cons_cons _

/-- **The publish loop always ends**, with the accepted devices added. -/
theorem publishLoop_laid (invalid : ∀ call, refuses call kInvalidEndpointId = true)
    (devices : List WemoDevice) : ∀ {call : Nat} {bridge : Bridge D}
      {lights : List (WemoDevice × DevicePtr)}, bridge.Laid first lights →
      ∃ after more, publishLoop heap refuses call devices bridge = some after ∧
        after.Laid first (lights ++ more) ∧
        more.map Prod.fst = accepted first refuses call lights.length devices := by
  induction devices with
  | nil =>
    intro call bridge lights laid
    exact ⟨bridge, [], rfl, by rwa [List.append_nil], rfl⟩
  | cons dev rest ih =>
    intro call bridge lights laid
    have count : bridge.gBridgedWemoLights.length = lights.length := by
      rw [laid.arranged.entries, List.length_map]
    rw [publishLoop, count]
    by_cases full : lights.length ≥ CHIP_DEVICE_CONFIG_DYNAMIC_ENDPOINT_COUNT
    · obtain ⟨after, more, ends, laidAfter, same⟩ := @ih call bridge lights laid
      rw [if_pos full]
      refine ⟨after, more, ends, laidAfter, ?_⟩
      rw [same, accepted_full full, accepted_full full]
    · obtain ⟨next, device, turn, laidNext⟩ :=
        @publishDevice_laid D _ bridge first lights heap (refuses call) laid (not_le.mp full)
          (invalid call) dev
      rw [if_neg full, turn, Option.bind_some, accepted, if_neg full]
      by_cases refused : refuses call (dynamicEndpointId first lights.length)
      · rw [if_pos refused] at laidNext ⊢
        exact @ih (call + 1) next lights laidNext
      · rw [if_neg refused] at laidNext ⊢
        obtain ⟨after, more, ends, laidAfter, same⟩ := @ih (call + 1) next _ laidNext
        refine ⟨after, (dev, device) :: more, ends, by simpa using laidAfter, ?_⟩
        rw [List.map_cons, same, List.length_append, List.length_singleton]

/-- **`ApplicationInit` always ends**, with the accepted devices of the sorted list published. -/
theorem applicationInit_laid (lastFixed : EndpointId)
    (invalid : ∀ call, refuses call kInvalidEndpointId = true) (discovered : List WemoDevice) :
    ∃ (bridge : Bridge D) (lights : List (WemoDevice × DevicePtr)),
      applicationInit heap lastFixed refuses discovered = some bridge ∧
        bridge.Laid (lastFixed + 1) lights ∧
        lights.map Prod.fst =
          accepted (lastFixed + 1) refuses 0 0 (sortDiscovered discovered) := by
  have empty : ({ (freshProcess : Bridge D) with
      gFirstDynamicEndpointId := lastFixed + 1
      gCurrentEndpointId := lastFixed + 1 } : Bridge D).Laid (lastFixed + 1) [] := by
    have room := UInt16.toNat_lt (lastFixed + 1)
    refine ⟨⟨rfl, by simp, by simp, rfl, fun _ => rfl, fun _ => rfl, List.nodup_nil, by simp,
      by simp [freshProcess], by simp⟩, by simpa using Nat.le_of_lt_succ room, 0, ?_, Or.inl rfl⟩
    simp [dynamicEndpointId]
  obtain ⟨bridge, lights, ends, laid, same⟩ :=
    @publishLoop_laid D _ _ heap refuses invalid (sortDiscovered discovered) 0 _ _ empty
  exact ⟨bridge, lights, ends, by simpa using laid, same⟩

theorem applicationInit_ends (lastFixed : EndpointId)
    (invalid : ∀ call, refuses call kInvalidEndpointId = true) (discovered : List WemoDevice) :
    ∃ bridge : Bridge D, applicationInit heap lastFixed refuses discovered = some bridge := by
  obtain ⟨bridge, -, ends, -, -⟩ :=
    @applicationInit_laid D _ heap refuses lastFixed invalid discovered
  exact ⟨bridge, ends⟩

end WholeLoop

/-! ### An arranged bridge is published -/

/-- The light in slot `i`, under the i-th of `ids`. -/
def placedLight (ids : Nat → EndpointId) (i : Nat) (light : WemoDevice × DevicePtr) :
    PublishedLight :=
  { index := i
    endpoint := ids i
    device := light.2
    wemoId := light.1.wemoId
    udn := light.1.udn
    isDimmable := light.1.supportsLevel }

/-- The light in slot `i`, under the i-th dynamic id. -/
def publishedLightOf (first : EndpointId) : Nat → WemoDevice × DevicePtr → PublishedLight :=
  placedLight (dynamicEndpointId first)

/-- The bridge as `ApplicationInit` leaves it: the tables agree and no command is pending. -/
structure Bridge.Started (bridge : Bridge D) : Prop where
  published : bridge.Published
  idle : ∀ entry ∈ bridge.gBridgedWemoLights,
    entry.commandedOnOff = -1 ∧ entry.commandedLevel = -1

namespace Bridge

variable {bridge : Bridge D} {first : EndpointId} {ids : Nat → EndpointId}
  {lights : List (WemoDevice × DevicePtr)}

theorem Arranged.devices_nodup (arranged : bridge.Arranged first ids lights) :
    (bridge.gBridgedWemoLights.map (·.device)).Nodup := by
  rw [arranged.entries, List.map_map]
  exact arranged.distinct

/-- The light in a slot, with its entry and the object it was seeded with. -/
theorem Arranged.lightAt_slot (arranged : bridge.Arranged first ids lights) {i : Nat}
    {light : WemoDevice × DevicePtr} (here : lights[i]? = some light) :
    ∃ object, bridge.lightAt light.2 = some ⟨newEntry light.1 light.2, object⟩ ∧
      object.SeededAs light.1 (ids i) := by
  obtain ⟨object, stored, seeded⟩ := arranged.objects i light here
  have listed : newEntry light.1 light.2 ∈ bridge.gBridgedWemoLights := by
    rw [arranged.entries]
    exact List.mem_map_of_mem (List.mem_of_getElem? here)
  exact ⟨object, lightAt_eq_some.mpr ⟨find?_key_of_mem arranged.devices_nodup listed, stored⟩,
    seeded⟩

/-- The lights an arranged bridge publishes. -/
theorem Arranged.publishes_iff (arranged : bridge.Arranged first ids lights) (x : PublishedLight) :
    bridge.Publishes x ↔ ∃ i light, lights[i]? = some light ∧ x = placedLight ids i light := by
  have count_le := arranged.count_le
  have publishes : ∀ i light, lights[i]? = some light →
      bridge.Publishes (placedLight ids i light) := by
    intro i light here
    have below := (List.getElem?_eq_some_iff.mp here).1
    obtain ⟨object, found, seeded⟩ := arranged.lightAt_slot here
    refine ⟨by simp only [placedLight]; omega, ?_, ?_,
      arranged.udns light (List.mem_of_getElem? here), ?_⟩
    · rw [arranged.slots, placedLight, here]
      rfl
    · simp only [placedLight]
      rw [arranged.registered, here]
      rfl
    · refine ⟨_, found, rfl, rfl, rfl, ?_, seeded.endpoint⟩
      rw [seeded.dimmer, placedLight]
      cases light.1.supportsLevel <;> rfl
  constructor
  · intro ofX
    have slot := ofX.slot
    rw [arranged.slots] at slot
    obtain ⟨light, here, -⟩ := Option.map_eq_some_iff.mp slot
    exact ⟨x.index, light, here, ofX.eq_of_index (publishes _ light here) rfl⟩
  · rintro ⟨i, light, here, rfl⟩
    exact publishes i light here

/-- **An arranged bridge is published, and no command is pending.** -/
theorem Arranged.started (arranged : bridge.Arranged first ids lights) : bridge.Started := by
  refine ⟨⟨arranged.devices_nodup, ?_, ?_, ?_, ?_⟩, ?_⟩
  · intro i _ j _ slot slot' atI atJ same
    rw [arranged.registered] at atI atJ
    obtain ⟨light, here, rfl⟩ := Option.map_eq_some_iff.mp atI
    obtain ⟨light', here', rfl⟩ := Option.map_eq_some_iff.mp atJ
    exact arranged.ids_inj i (List.getElem?_eq_some_iff.mp here).1 j
      (List.getElem?_eq_some_iff.mp here').1 same
  · intro entry member
    rw [arranged.entries] at member
    obtain ⟨light, lightMember, rfl⟩ := List.mem_map.mp member
    obtain ⟨i, here⟩ := List.mem_iff_getElem?.mp lightMember
    exact ⟨_, (arranged.publishes_iff _).mpr ⟨i, light, here, rfl⟩, rfl⟩
  · intro i _ filled
    rw [arranged.registered] at filled
    obtain ⟨light, here⟩ : ∃ light, lights[i]? = some light := by
      cases here : lights[i]? with
      | none => simp [here] at filled
      | some light => exact ⟨light, rfl⟩
    exact ⟨_, (arranged.publishes_iff _).mpr ⟨i, light, here, rfl⟩, rfl⟩
  · intro x y ofX ofY same
    obtain ⟨i, light, here, rfl⟩ := (arranged.publishes_iff x).mp ofX
    obtain ⟨j, light', here', rfl⟩ := (arranged.publishes_iff y).mp ofY
    have atI : (lights.map Prod.snd)[i]? = some light.2 := by rw [List.getElem?_map, here]; rfl
    have atJ : (lights.map Prod.snd)[j]? = some light'.2 := by rw [List.getElem?_map, here']; rfl
    have below := (List.getElem?_eq_some_iff.mp atI).1
    exact (List.getElem?_inj below arranged.distinct).mp
      (atI.trans ((congrArg some same).trans atJ.symm))
  · intro entry member
    rw [arranged.entries] at member
    obtain ⟨light, -, rfl⟩ := List.mem_map.mp member
    exact ⟨rfl, rfl⟩

/-- The lights a laid bridge publishes. -/
theorem Laid.publishes_iff (laid : bridge.Laid first lights) (x : PublishedLight) :
    bridge.Publishes x ↔ ∃ i light, lights[i]? = some light ∧ x = publishedLightOf first i light :=
  laid.arranged.publishes_iff x

/-- Distinct wemo_ids in the discovered list stay distinct among the published lights. -/
theorem Laid.distinctWemoIds (laid : bridge.Laid first lights)
    (distinct : (lights.map (·.1.wemoId)).Nodup) : bridge.DistinctWemoIds := by
  unfold DistinctWemoIds
  rw [laid.arranged.entries, List.map_map]
  exact distinct

end Bridge

section Started

variable {heap : Allocator} {refuses : Nat → EndpointId → Bool} {lastFixed : EndpointId}
  {discovered : List WemoDevice} {bridge : Bridge D}

/-- A published device was discovered. -/
theorem mem_discovered_of_accepted {first : EndpointId} {dev : WemoDevice}
    (member : dev ∈ accepted first refuses 0 0 (sortDiscovered discovered)) : dev ∈ discovered :=
  (sortDiscovered_perm discovered).mem_iff.mp ((accepted_sublist _ 0 0).mem member)

/-- What distinguishes discovered devices distinguishes published ones. -/
theorem nodup_accepted {β : Type} (observe : WemoDevice → β)
    (distinct : (discovered.map observe).Nodup) (first : EndpointId) :
    ((accepted first refuses 0 0 (sortDiscovered discovered)).map observe).Nodup := by
  have sorted : ((sortDiscovered discovered).map observe).Nodup :=
    ((sortDiscovered_perm discovered).map observe).nodup_iff.mpr distinct
  exact sorted.sublist ((accepted_sublist _ 0 0).map observe)

/-- The bridge that starts is laid, with the accepted devices. -/
theorem laid_of_starts (invalid : ∀ call, refuses call kInvalidEndpointId = true)
    (starts : applicationInit heap lastFixed refuses discovered = some bridge) :
    ∃ lights, bridge.Laid (lastFixed + 1) lights ∧ lights.map Prod.fst =
      accepted (lastFixed + 1) refuses 0 0 (sortDiscovered discovered) := by
  obtain ⟨laidBridge, lights, ends, laid, same⟩ :=
    @applicationInit_laid D _ heap refuses lastFixed invalid discovered
  obtain rfl : laidBridge = bridge := Option.some.inj (ends.symm.trans starts)
  exact ⟨lights, laid, same⟩

/-- **The bridge starts published**, with no pending command; with pairwise distinct wemo_ids in the
discovered list the published lights have distinct wemo_ids. -/
theorem applicationInit_started (invalid : ∀ call, refuses call kInvalidEndpointId = true)
    (starts : applicationInit heap lastFixed refuses discovered = some bridge) :
    bridge.Started ∧ ((discovered.map (·.wemoId)).Nodup → bridge.DistinctWemoIds) := by
  obtain ⟨lights, laid, same⟩ := laid_of_starts invalid starts
  refine ⟨laid.arranged.started, fun distinct => laid.distinctWemoIds ?_⟩
  have nodup := @nodup_accepted refuses discovered _ (·.wemoId) distinct (lastFixed + 1)
  rw [← same, List.map_map] at nodup
  exact nodup

/-- **A published light is as `ApplicationInit` left it**: the accepted device in its slot gave it
its entry and its object. -/
theorem applicationInit_seeded (invalid : ∀ call, refuses call kInvalidEndpointId = true)
    (starts : applicationInit heap lastFixed refuses discovered = some bridge)
    {x : PublishedLight} (ofX : bridge.Publishes x) :
    ∃ dev, (accepted (lastFixed + 1) refuses 0 0 (sortDiscovered discovered))[x.index]? =
        some dev ∧
      x = publishedLightOf (lastFixed + 1) x.index (dev, x.device) ∧
      ∃ object, bridge.lightAt x.device = some ⟨newEntry dev x.device, object⟩ ∧
        object.SeededAs dev x.endpoint := by
  obtain ⟨lights, laid, same⟩ := laid_of_starts invalid starts
  obtain ⟨i, ⟨dev, device⟩, here, rfl⟩ := (laid.publishes_iff x).mp ofX
  refine ⟨dev, ?_, rfl, laid.arranged.lightAt_slot here⟩
  rw [← same, List.getElem?_map]
  exact congrArg (Option.map Prod.fst) here

/-- Every accepted device is published. -/
theorem applicationInit_publishes (invalid : ∀ call, refuses call kInvalidEndpointId = true)
    (starts : applicationInit heap lastFixed refuses discovered = some bridge) {i : Nat}
    {dev : WemoDevice}
    (here : (accepted (lastFixed + 1) refuses 0 0 (sortDiscovered discovered))[i]? = some dev) :
    ∃ device, bridge.Publishes (publishedLightOf (lastFixed + 1) i (dev, device)) := by
  obtain ⟨lights, laid, same⟩ := laid_of_starts invalid starts
  rw [← same, List.getElem?_map] at here
  obtain ⟨⟨dev, device⟩, inSlot, rfl⟩ := Option.map_eq_some_iff.mp here
  exact ⟨device, (laid.publishes_iff _).mpr ⟨i, _, inSlot, rfl⟩⟩

/-- A published light is one of a discovered device, and starts with its on/off state. -/
theorem applicationInit_discovered (invalid : ∀ call, refuses call kInvalidEndpointId = true)
    (starts : applicationInit heap lastFixed refuses discovered = some bridge)
    {x : PublishedLight} (ofX : bridge.Publishes x) :
    ∃ dev ∈ discovered, x.udn = dev.udn ∧ x.wemoId = dev.wemoId ∧
      ∀ light, bridge.lightAt x.device = some light →
        light.object.isOn = decide (dev.onoff ≠ 0) := by
  obtain ⟨dev, here, same, object, found, seeded⟩ := applicationInit_seeded invalid starts ofX
  refine ⟨dev, mem_discovered_of_accepted (List.mem_of_getElem? here),
    congrArg PublishedLight.udn same, congrArg PublishedLight.wemoId same, fun light found' => ?_⟩
  obtain rfl := Option.some.inj (found.symm.trans found')
  exact seeded.isOn

end Started

/-! ### A home with two lights

The concrete home the runs of this development start from: a dimmer and a switch, discovered in the
other order. -/

/-- The heap that hands out the address after the highest live one. -/
def nextAddress : Allocator where
  address live := live.foldr max 0 + 1
  fresh live member := by
    have bound : ∀ ptr ∈ live, ptr ≤ live.foldr max 0 := by
      clear member
      induction live with
      | nil => simp
      | cons head rest ih =>
        intro ptr here
        rw [List.foldr_cons]
        rcases List.mem_cons.mp here with rfl | older
        · exact le_max_left _ _
        · exact le_trans (ih ptr older) (le_max_right _ _)
    exact absurd (bound _ member) (by simp)

/-- An SDK that refuses nothing but the invalid endpoint id. -/
def refusesInvalid : Nat → EndpointId → Bool := fun _ id => id = kInvalidEndpointId

def sampleDevices : List WemoDevice :=
  [{ wemoId := 8, udn := literal "uuid:Socket", friendlyName := literal "Hall", isOnline := true,
     onoff := 1 },
   { wemoId := 7, udn := literal "uuid:Dimmer", friendlyName := literal "Kitchen", isOnline := true,
     supportsLevel := true, levelPercent := 50 }]

def sampleHome : Bridge PlainDevice :=
  (applicationInit nextAddress 2 refusesInvalid sampleDevices).getD freshProcess

/-- The dimmer of the sample home. -/
def sampleDimmer : PublishedLight :=
  { index := 0, endpoint := 3, device := 1, wemoId := 7, udn := literal "uuid:Dimmer"
    isDimmable := true }

/-- A start with this SDK ends. -/
theorem applicationInit_refusesInvalid (heap : Allocator) (lastFixed : EndpointId)
    (discovered : List WemoDevice) :
    (applicationInit heap lastFixed refusesInvalid discovered : Option (Bridge D)) =
      some ((applicationInit heap lastFixed refusesInvalid discovered).getD freshProcess) := by
  obtain ⟨bridge, ends⟩ := @applicationInit_ends D _ heap refusesInvalid lastFixed (fun _ => rfl)
    discovered
  rw [ends, Option.getD_some]

theorem sampleHome_starts :
    applicationInit nextAddress 2 refusesInvalid sampleDevices = some sampleHome :=
  applicationInit_refusesInvalid nextAddress 2 sampleDevices

theorem sampleHome_started : sampleHome.Started ∧ sampleHome.DistinctWemoIds := by
  obtain ⟨started, distinct⟩ := applicationInit_started (fun _ => rfl) sampleHome_starts
  exact ⟨started, distinct (by decide)⟩

theorem sampleHome_publishes : sampleHome.Publishes sampleDimmer where
  index_lt := by decide
  slot := by decide
  registered := by decide
  udn := by decide
  light := ⟨_, rfl, by decide, by decide, by decide, by decide, by decide⟩

end WemoBridge
