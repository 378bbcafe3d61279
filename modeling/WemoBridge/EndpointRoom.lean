/-
**Room for one more endpoint.**

With an SDK that refuses `kInvalidEndpointId` and nothing else, `AddDeviceEndpoint` counts the
shared counter up to the first id that no live endpoint has. Every id it passes is one of a live
endpoint, so it tries at most one id more than there are live endpoints
(`Mirrored.firstUnheld_within`).

The counter never goes back, and the wrap to the first dynamic id is behind the invalid id, which
the SDK refuses instead of reporting it as held. So a call with a free slot succeeds exactly if an
id from the counter up to `0xFFFE` is left (`add_succeeds_iff`), and after enough calls none is, with
fifteen slots free (`ids_used_up`).
-/

import WemoBridge.EndpointTable

namespace WemoBridge

open Library

variable {D : Type}

/-! ### The calls -/

/-- The SDK takes every valid id that no other slot holds. -/
def refusesInvalidId (id : EndpointId) : Bool := id = kInvalidEndpointId

/-- A call with such an SDK. -/
def EndpointCall.Regular : EndpointCall → Prop
  | .add _ _ _ refuses => refuses = refusesInvalidId
  | .remove _ => True

section Calls

variable [ChipSdk D]

/-- `AddDeviceEndpoint` with a bound on the tries of its loop; `none` if they are not enough. -/
def addDeviceEndpointWithin (tries : Nat) (refuses : EndpointId → Bool) (dev : DevicePtr)
    (ep : EndpointType) (parentEndpointId : EndpointId) (bridge : Bridge D) :
    Option (Bridge D × Int) :=
  match (List.range CHIP_DEVICE_CONFIG_DYNAMIC_ENDPOINT_COUNT).find? fun index =>
      (bridge.gDevices index).isNone with
  | none => some (bridge, -1)
  | some index =>
      tryEndpointIds refuses dev ep parentEndpointId index tries
        { bridge with gDevices := Function.update bridge.gDevices index (some dev) }

theorem addDeviceEndpointWithin_all (refuses : EndpointId → Bool) (dev : DevicePtr)
    (ep : EndpointType) (parentEndpointId : EndpointId) (bridge : Bridge D) :
    addDeviceEndpointWithin (2 ^ 16) refuses dev ep parentEndpointId bridge =
      addDeviceEndpoint refuses dev ep parentEndpointId bridge := rfl

/-- More tries change nothing once the loop has ended. -/
theorem tryEndpointIds_mono {refuses : EndpointId → Bool} {dev : DevicePtr} {ep : EndpointType}
    {parentEndpointId : EndpointId} {index : Nat} {result : Bridge D × Int} (tries : Nat) :
    ∀ {more : Nat} {bridge : Bridge D}, tries ≤ more →
      tryEndpointIds refuses dev ep parentEndpointId index tries bridge = some result →
      tryEndpointIds refuses dev ep parentEndpointId index more bridge = some result := by
  induction tries with
  | zero =>
    intro more bridge _ ended
    cases ended
  | succ tries ih =>
    intro more bridge enough ended
    obtain ⟨rest, rfl⟩ := Nat.exists_eq_add_of_le' (Nat.le_trans (Nat.le_add_left 1 tries) enough)
    rw [tryEndpointIds] at ended ⊢
    generalize (bridge.changeObject dev _).emberAfSetDynamicEndpoint _ _ _ _ = answer at ended ⊢
    obtain ⟨answered, error⟩ := answer
    cases error with
    | noError => exact ended
    | otherError => exact ended
    | endpointExists => exact ih (by omega) ended

/-- Calls with such an SDK lead from one bridge to the other. -/
def Bridge.ReachesRegularly : Bridge D → Bridge D → Prop :=
  Relation.ReflTransGen fun before after =>
    ∃ call result, EndpointCall.Regular call ∧ call.Allowed before ∧
      call.perform before = some (after, result)

theorem Bridge.ReachesRegularly.reaches {start bridge : Bridge D}
    (reached : start.ReachesRegularly bridge) : start.Reaches bridge :=
  Relation.ReflTransGen.mono
    (fun _ _ ⟨call, result, _, allowed, performs⟩ => ⟨call, result, allowed, performs⟩) _ _ reached

end Calls

/-! ### Live ids -/

namespace Bridge

/-- The endpoint ids of the filled slots. -/
def liveIds (bridge : Bridge D) : List EndpointId :=
  (List.range CHIP_DEVICE_CONFIG_DYNAMIC_ENDPOINT_COUNT).filterMap fun index =>
    (bridge.dynamicEndpoints index).map DynamicEndpoint.endpointId

/-- No more endpoints are live than there are slots. -/
theorem length_liveIds_le (bridge : Bridge D) :
    bridge.liveIds.length ≤ CHIP_DEVICE_CONFIG_DYNAMIC_ENDPOINT_COUNT := by
  have bounded := List.length_filterMap_le (fun index =>
    (bridge.dynamicEndpoints index).map DynamicEndpoint.endpointId)
    (List.range CHIP_DEVICE_CONFIG_DYNAMIC_ENDPOINT_COUNT)
  rwa [List.length_range] at bounded

theorem mem_liveIds {bridge : Bridge D} {id : EndpointId} :
    id ∈ bridge.liveIds ↔ ∃ index < CHIP_DEVICE_CONFIG_DYNAMIC_ENDPOINT_COUNT, ∃ slot,
      bridge.dynamicEndpoints index = some slot ∧ slot.endpointId = id := by
  simp [liveIds, List.mem_filterMap]

/-- From an empty slot, the ids held elsewhere are the live ones. -/
theorem holdsElsewhere_iff {bridge : Bridge D} {index : Nat}
    (empty : bridge.dynamicEndpoints index = none) (id : EndpointId) :
    bridge.holdsElsewhere index id = true ↔ id ∈ bridge.liveIds := by
  rw [mem_liveIds, holdsElsewhere, List.any_eq_true]
  constructor
  · rintro ⟨other, member, held⟩
    obtain ⟨-, atOther⟩ := Bool.and_eq_true_iff.mp held
    obtain ⟨slot, filled, same⟩ := (Option.any_eq_true _ _).mp atOther
    exact ⟨other, List.mem_range.mp member, slot, filled, of_decide_eq_true same⟩
  · rintro ⟨other, below, slot, filled, rfl⟩
    have different : other ≠ index := by
      rintro rfl
      rw [empty] at filled
      cases filled
    exact ⟨other, List.mem_range.mpr below, by simp [different, filled]⟩

end Bridge

/-! ### Counting up to a free id -/

section Counting

variable {held : EndpointId → Bool} {first : EndpointId}

/-- The loop stops at the end of a run of held ids. -/
theorem firstUnheld_eq_of_run {stop : EndpointId} (free : held stop = false) (tries : Nat) :
    ∀ {id : EndpointId}, first ≤ id → id ≤ stop →
      (∀ other, id ≤ other → other < stop → held other = true) →
      stop.toNat - id.toNat < tries → firstUnheld held first tries id = some stop := by
  induction tries with
  | zero => exact fun _ _ _ enough => absurd enough (Nat.not_lt_zero _)
  | succ tries ih =>
    intro id above below taken enough
    rw [firstUnheld]
    by_cases here : id = stop
    · rw [here, free, if_neg Bool.false_ne_true]
    · have belowNat := UInt16.le_iff_toNat_le.mp below
      have aboveNat := UInt16.le_iff_toNat_le.mp above
      have differentNat := mt UInt16.toNat_inj.mp here
      have stopNat := stop.toNat_lt
      have next : (id + 1).toNat = id.toNat + 1 := by
        rw [UInt16.toNat_add]
        show (id.toNat + 1) % 2 ^ 16 = _
        omega
      have before : id < stop := UInt16.lt_iff_toNat_lt.mpr (by omega)
      have noWrap : nextEndpointId first id = id + 1 := by
        unfold nextEndpointId
        rw [if_neg]
        rw [UInt16.lt_iff_toNat_lt]
        omega
      rw [taken id (UInt16.le_refl id) before, if_pos rfl, noWrap]
      refine ih ?_ ?_ ?_ ?_
      · exact UInt16.le_iff_toNat_le.mpr (by omega)
      · exact UInt16.le_iff_toNat_le.mpr (by omega)
      · intro other later earlier
        refine taken other (UInt16.le_iff_toNat_le.mpr ?_) earlier
        have := UInt16.le_iff_toNat_le.mp later
        omega
      · omega

/-- The invalid id is the last of all. -/
theorem le_kInvalidEndpointId (id : EndpointId) : id ≤ kInvalidEndpointId := by
  have := id.toNat_lt
  refine UInt16.le_iff_toNat_le.mpr ?_
  show id.toNat ≤ 65535
  omega

/-- There is a first free id from any id on, if the last id of all is free. -/
theorem exists_firstFree (last : held kInvalidEndpointId = false) (id : EndpointId) :
    ∃ stop, id ≤ stop ∧ held stop = false ∧
      ∀ other, id ≤ other → other < stop → held other = true := by
  have some_free : ∃ n, ∃ other : EndpointId, other.toNat = n ∧ id ≤ other ∧ held other = false := by
    exact ⟨_, kInvalidEndpointId, rfl, le_kInvalidEndpointId id, last⟩
  classical
  obtain ⟨stop, isLeast, above, free⟩ := Nat.find_spec some_free
  refine ⟨stop, above, free, fun other later earlier => ?_⟩
  by_contra notHeld
  refine Nat.find_min some_free ?_ ⟨other, rfl, later, Bool.not_eq_true _ ▸ notHeld⟩
  rw [← isLeast]
  exact UInt16.lt_iff_toNat_lt.mp earlier

/-- A run of held ids is not longer than the list they are in. -/
theorem run_length_le {live : List EndpointId} {id stop : EndpointId}
    (taken : ∀ other, id ≤ other → other < stop → other ∈ live) :
    stop.toNat - id.toNat ≤ live.length := by
  have stopNat := stop.toNat_lt
  let run := (List.range (stop.toNat - id.toNat)).map fun k => UInt16.ofNat (id.toNat + k)
  have toNat : ∀ k < stop.toNat - id.toNat, (UInt16.ofNat (id.toNat + k)).toNat = id.toNat + k := by
    intro k below
    rw [UInt16.toNat_ofNat']
    omega
  have distinct : run.Nodup := by
    refine List.Nodup.map_on (fun k inRun j inRun' same => ?_) List.nodup_range
    have sameNat := congrArg UInt16.toNat same
    rw [toNat k (List.mem_range.mp inRun), toNat j (List.mem_range.mp inRun')] at sameNat
    omega
  have inside : run ⊆ live := by
    intro other member
    obtain ⟨k, inRun, rfl⟩ := List.mem_map.mp member
    have below := List.mem_range.mp inRun
    refine taken _ (UInt16.le_iff_toNat_le.mpr ?_) (UInt16.lt_iff_toNat_lt.mpr ?_)
    · rw [toNat k below]
      omega
    · rw [toNat k below]
      omega
  have bounded := (distinct.subperm inside).length_le
  rwa [List.length_map, List.length_range] at bounded

end Counting

/-! ### Every state reached -/

namespace Bridge

/-- No live endpoint has the invalid id. -/
def NoInvalidId (bridge : Bridge D) : Prop :=
  ∀ index slot, bridge.dynamicEndpoints index = some slot → slot.endpointId ≠ kInvalidEndpointId

section Reached

variable [ChipSdk D] {start bridge after : Bridge D} {first : EndpointId}

theorem NoInvalidId.perform (valid : bridge.NoInvalidId) {call : EndpointCall} {result : Int}
    (regular : call.Regular) (allowed : call.Allowed bridge)
    (performs : call.perform bridge = some (after, result)) : after.NoInvalidId := by
  cases call with
  | add dev ep parentEndpointId refuses =>
    obtain ⟨object, atDev⟩ := Option.ne_none_iff_exists'.mp allowed.1
    rcases addDeviceEndpoint_cases atDev performs with ⟨rfl, -, -⟩ |
      ⟨index, id, base, below, empty, found, attributes, ⟨-, -, rfl⟩ | ⟨accepted, -, rfl⟩⟩
    · exact valid
    · exact valid
    · refine forall_filled_update valid ?_
      rw [regular] at accepted
      exact of_decide_eq_false accepted
  | remove dev =>
    obtain ⟨rfl, rfl⟩ := Prod.ext_iff.mp (Option.some.inj performs)
    show (removeDeviceEndpoint dev bridge).1.NoInvalidId
    unfold removeDeviceEndpoint
    split
    · exact valid
    · exact fun index slot filled => valid index slot (eq_some_of_clear filled)

/-- **After any calls** the tables are mirrored and no live endpoint has the invalid id. -/
theorem ReachesRegularly.invariant (reached : start.ReachesRegularly bridge)
    (empty : start.NoEndpoints) :
    bridge.Mirrored start.gFirstDynamicEndpointId ∧ bridge.NoInvalidId := by
  refine ⟨reached.reaches.mirrored empty.mirrored, ?_⟩
  induction reached with
  | refl =>
    intro index slot filled
    rw [empty.dynamicEndpoints] at filled
    cases filled
  | tail _ step ih =>
    obtain ⟨call, result, regular, allowed, performs⟩ := step
    exact ih.perform regular allowed performs

end Reached

variable {bridge : Bridge D} {first : EndpointId}

theorem NoInvalidId.notMem (valid : bridge.NoInvalidId) : kInvalidEndpointId ∉ bridge.liveIds := by
  intro live
  obtain ⟨index, -, slot, filled, same⟩ := mem_liveIds.mp live
  exact valid index slot filled same

/-- **The loop stops at the first id from the counter on that no live endpoint has**, after at most
one try more than there are live endpoints. -/
theorem Mirrored.firstUnheld_within [ChipSdk D] (mirrored : bridge.Mirrored first)
    (valid : bridge.NoInvalidId) {index : Nat} (empty : bridge.gDevices index = none) :
    ∃ stop, bridge.gCurrentEndpointId ≤ stop ∧ stop ∉ bridge.liveIds ∧
      (∀ other, bridge.gCurrentEndpointId ≤ other → other < stop → other ∈ bridge.liveIds) ∧
      ∀ tries > bridge.liveIds.length, firstUnheld (bridge.holdsElsewhere index)
        bridge.gFirstDynamicEndpointId tries bridge.gCurrentEndpointId = some stop := by
  have held := holdsElsewhere_iff ((mirrored.mirrors.eq_none_iff index).mp empty)
  have unheld : ∀ {id}, bridge.holdsElsewhere index id = false ↔ id ∉ bridge.liveIds :=
    fun {id} => by rw [← Bool.not_eq_true, held id]
  obtain ⟨stop, above, free, run⟩ :=
    exists_firstFree (unheld.mpr valid.notMem) bridge.gCurrentEndpointId
  have live := fun other later earlier => (held other).mp (run other later earlier)
  refine ⟨stop, above, unheld.mp free, live, fun tries enough => ?_⟩
  have bounded := run_length_le live
  have start := mirrored.current_ge
  rw [← mirrored.first_eq] at start
  exact firstUnheld_eq_of_run free tries start above run (by omega)

end Bridge

/-! ### One more endpoint -/

section Room

variable [ChipSdk D] {bridge : Bridge D} {first : EndpointId} {dev : DevicePtr} {ep : EndpointType}
  {parentEndpointId : EndpointId}

/-- **What a further `AddDeviceEndpoint` does**: its loop ends within one try more than there are
live endpoints; with a free slot it stops at the first id left, and succeeds unless that is the
invalid one. -/
theorem Bridge.Mirrored.add_cases (mirrored : bridge.Mirrored first) (valid : bridge.NoInvalidId)
    (exists_ : bridge.objects dev ≠ none) :
    ∃ after result,
      (∀ tries > bridge.liveIds.length, addDeviceEndpointWithin tries refusesInvalidId dev ep
        parentEndpointId bridge = some (after, result)) ∧
      ((∃ index < CHIP_DEVICE_CONFIG_DYNAMIC_ENDPOINT_COUNT, bridge.gDevices index = none) →
        ∃ stop, bridge.gCurrentEndpointId ≤ stop ∧ stop ∉ bridge.liveIds ∧
          (∀ other, bridge.gCurrentEndpointId ≤ other → other < stop → other ∈ bridge.liveIds) ∧
          (0 ≤ result ↔ stop ≠ kInvalidEndpointId)) := by
  obtain ⟨object, atDev⟩ := Option.ne_none_iff_exists'.mp exists_
  unfold addDeviceEndpointWithin
  cases free : (List.range CHIP_DEVICE_CONFIG_DYNAMIC_ENDPOINT_COUNT).find? fun index =>
      (bridge.gDevices index).isNone with
  | none =>
    refine ⟨bridge, -1, fun _ _ => rfl, ?_⟩
    rintro ⟨index, below, empty⟩
    refine absurd ?_ (List.find?_eq_none.mp free index (List.mem_range.mpr below))
    rw [empty]
    rfl
  | some index =>
    have isFree := List.find?_some free
    have empty : bridge.gDevices index = none := Option.isNone_iff_eq_none.mp isFree
    obtain ⟨stop, above, unheld, live, within⟩ := mirrored.firstUnheld_within valid empty
    let claimed : Bridge D :=
      { bridge with gDevices := Function.update bridge.gDevices index (some dev) }
    obtain ⟨base, -, ended⟩ := @tryEndpointIds_eq D _ refusesInvalidId dev ep parentEndpointId index
      (bridge.liveIds.length + 1) claimed object stop atDev (within _ (Nat.lt_succ_self _))
    have all : ∀ tries > bridge.liveIds.length,
        tryEndpointIds refusesInvalidId dev ep parentEndpointId index tries claimed = _ :=
      fun tries enough => tryEndpointIds_mono _ enough ended
    by_cases invalid : stop = kInvalidEndpointId
    · have refused : refusesInvalidId stop = true := decide_eq_true invalid
      rw [if_pos refused] at all
      refine ⟨_, _, all, fun _ => ⟨stop, above, unheld, live, ?_⟩⟩
      exact iff_of_false (by decide) (not_not.mpr invalid)
    · have accepted : ¬ refusesInvalidId stop = true := mt of_decide_eq_true invalid
      rw [if_neg accepted] at all
      refine ⟨_, _, all, fun _ => ⟨stop, above, unheld, live, ?_⟩⟩
      exact iff_of_true (Int.natCast_nonneg index) invalid

omit [ChipSdk D] in
/-- More than enough tries for any table. -/
theorem Bridge.length_liveIds_lt (bridge : Bridge D) : bridge.liveIds.length < 2 ^ 16 :=
  Nat.lt_of_le_of_lt bridge.length_liveIds_le (by decide)

/-- **Adding ends, and succeeds while there is room**: the call returns, its loop ends within one
try more than there are live endpoints, and with a free slot the answer is a slot. -/
def Bridge.AddsInRoom (bridge : Bridge D) (dev : DevicePtr) (ep : EndpointType)
    (parentEndpointId : EndpointId) : Prop :=
  ∃ after result,
    addDeviceEndpoint refusesInvalidId dev ep parentEndpointId bridge = some (after, result) ∧
    (∀ tries > bridge.liveIds.length, addDeviceEndpointWithin tries refusesInvalidId dev ep
      parentEndpointId bridge = some (after, result)) ∧
    ((∃ index < CHIP_DEVICE_CONFIG_DYNAMIC_ENDPOINT_COUNT, bridge.gDevices index = none) →
      0 ≤ result)

omit [ChipSdk D] in
/-- An id from the shared counter up to `0xFFFE` is left. -/
def Bridge.IdLeft (bridge : Bridge D) : Prop :=
  ∃ id, bridge.gCurrentEndpointId ≤ id ∧ id < kInvalidEndpointId ∧ id ∉ bridge.liveIds

/-- With mirrored tables the call ends in time, and succeeds with a free slot exactly if an id is
left. -/
theorem Bridge.Mirrored.addsInRoom_iff (mirrored : bridge.Mirrored first) (valid : bridge.NoInvalidId)
    (exists_ : bridge.objects dev ≠ none) :
    (∃ answer, addDeviceEndpoint refusesInvalidId dev ep parentEndpointId bridge = some answer ∧
      ∀ tries > bridge.liveIds.length, addDeviceEndpointWithin tries refusesInvalidId dev ep
        parentEndpointId bridge = some answer) ∧
    (bridge.AddsInRoom dev ep parentEndpointId ↔
      ((∃ index < CHIP_DEVICE_CONFIG_DYNAMIC_ENDPOINT_COUNT, bridge.gDevices index = none) →
        bridge.IdLeft)) := by
  obtain ⟨after, result, within, room⟩ :=
    @Bridge.Mirrored.add_cases D _ bridge _ dev ep parentEndpointId mirrored valid exists_
  have returns := within _ bridge.length_liveIds_lt
  rw [addDeviceEndpointWithin_all] at returns
  refine ⟨⟨_, returns, within⟩, ?_⟩
  constructor
  · rintro ⟨after', result', returns', -, succeeds⟩ free
    have same := returns.symm.trans returns'
    obtain ⟨-, rfl⟩ := Prod.ext_iff.mp (Option.some.inj same)
    obtain ⟨stop, above, unheld, -, succeeds_iff⟩ := room free
    refine ⟨stop, above, ?_, unheld⟩
    exact UInt16.lt_of_le_of_ne (le_kInvalidEndpointId stop) (succeeds_iff.mp (succeeds free))
  · intro left
    refine ⟨after, result, returns, within, fun free => ?_⟩
    obtain ⟨stop, above, unheld, live, succeeds_iff⟩ := room free
    obtain ⟨id, later, below, notLive⟩ := left free
    refine succeeds_iff.mpr fun invalid => notLive (live id later ?_)
    rw [invalid]
    exact below

/-- **Exactly when one more endpoint can be added.** In every state reached by calls of
`AddDeviceEndpoint` and `RemoveDeviceEndpoint` from the empty table, one more `AddDeviceEndpoint`
ends within one try more than there are live endpoints, and it succeeds whenever a slot is free
exactly if no slot is free or an id from the counter up to `0xFFFE` is left. -/
theorem add_succeeds_iff {start : Bridge D} (empty : start.NoEndpoints)
    (reached : start.ReachesRegularly bridge)
    (allowed : (EndpointCall.add dev ep parentEndpointId refusesInvalidId).Allowed bridge) :
    (∃ answer, addDeviceEndpoint refusesInvalidId dev ep parentEndpointId bridge = some answer ∧
      ∀ tries > bridge.liveIds.length, addDeviceEndpointWithin tries refusesInvalidId dev ep
        parentEndpointId bridge = some answer) ∧
    (bridge.AddsInRoom dev ep parentEndpointId ↔
      ((∃ index < CHIP_DEVICE_CONFIG_DYNAMIC_ENDPOINT_COUNT, bridge.gDevices index = none) →
        bridge.IdLeft)) := by
  obtain ⟨mirrored, valid⟩ := reached.invariant empty
  exact mirrored.addsInRoom_iff valid allowed.1

end Room

/-! ### Ids that are used up -/

theorem Bridge.ReachesRegularly.call [ChipSdk D] {start bridge : Bridge D}
    (reached : start.ReachesRegularly bridge) {call : EndpointCall} (regular : call.Regular)
    (allowed : call.Allowed bridge) (returns : (call.perform bridge).isSome = true) :
    start.ReachesRegularly (call.after bridge) := by
  obtain ⟨⟨after, result⟩, performs⟩ := Option.isSome_iff_exists.mp returns
  refine reached.tail ⟨call, result, regular, allowed, ?_⟩
  rw [EndpointCall.after, performs, Option.map_some, Option.getD_some]

/-- Removing a device that is registered once. -/
theorem removeDeviceEndpoint_eq {bridge : Bridge D} {dev : DevicePtr} {index : Nat}
    (below : index < CHIP_DEVICE_CONFIG_DYNAMIC_ENDPOINT_COUNT)
    (registered : bridge.gDevices index = some dev)
    (once : ∀ other, bridge.gDevices other = some dev → other = index) :
    removeDeviceEndpoint dev bridge =
      ({ bridge.emberAfClearDynamicEndpoint index with
          gDevices := Function.update bridge.gDevices index none }, (index : Int)) := by
  have found : (List.range CHIP_DEVICE_CONFIG_DYNAMIC_ENDPOINT_COUNT).find? (fun other =>
      bridge.gDevices other = some dev) = some index := by
    refine List.find?_range_eq_some.mpr ⟨by simpa using registered, List.mem_range.mpr below, ?_⟩
    intro other earlier
    simpa using fun same => Nat.ne_of_lt earlier (once other same)
  rw [removeDeviceEndpoint, found]

/-- One device is registered, under the id the counter is at. -/
structure OneLive (bridge : Bridge PlainDevice) (dev : DevicePtr) (id : EndpointId) : Prop where
  tables : ∃ index < CHIP_DEVICE_CONFIG_DYNAMIC_ENDPOINT_COUNT,
    bridge.gDevices = Function.update (fun _ => none) index (some dev) ∧
      bridge.dynamicEndpoints = Function.update (fun _ => none) index
        (some { endpointId := id, endpointType := .bridgedLightEndpoint })
  current : bridge.gCurrentEndpointId = id
  objects : ∀ other < 2, bridge.objects other ≠ none

namespace OneLive

variable {bridge : Bridge PlainDevice} {dev other : DevicePtr} {id : EndpointId}

theorem mem_liveIds (one : OneLive bridge dev id) {live : EndpointId} :
    live ∈ bridge.liveIds ↔ live = id := by
  obtain ⟨index, below, -, slots⟩ := one.tables
  rw [Bridge.mem_liveIds, slots]
  constructor
  · rintro ⟨at_, -, slot, filled, rfl⟩
    by_cases same : at_ = index
    · rw [same, Function.update_self] at filled
      cases filled
      rfl
    · rw [Function.update_of_ne same] at filled
      cases filled
  · rintro rfl
    exact ⟨index, below, _, Function.update_self _ _ _, rfl⟩

theorem eq_of_registered (one : OneLive bridge dev id) {index : Nat}
    (registered : bridge.gDevices index = some other) : other = dev := by
  obtain ⟨at_, -, devices, -⟩ := one.tables
  rw [devices] at registered
  by_cases same : index = at_
  · rw [same, Function.update_self] at registered
    exact (Option.some.inj registered).symm
  · rw [Function.update_of_ne same] at registered
    cases registered

theorem exists_free (one : OneLive bridge dev id) :
    ∃ index < CHIP_DEVICE_CONFIG_DYNAMIC_ENDPOINT_COUNT, bridge.gDevices index = none := by
  obtain ⟨index, below, devices, -⟩ := one.tables
  by_cases zero : index = 0
  · exact ⟨1, by decide, by rw [devices, Function.update_of_ne (by omega)]⟩
  · exact ⟨0, by decide, by rw [devices, Function.update_of_ne (Ne.symm zero)]⟩

/-- The other light may be added. -/
theorem allowed (one : OneLive bridge dev id) (light : other < 2) (different : other ≠ dev)
    (ep : EndpointType) (parentEndpointId : EndpointId) (refuses : EndpointId → Bool) :
    (EndpointCall.add other ep parentEndpointId refuses).Allowed bridge :=
  ⟨one.objects other light, fun _ _ registered => different (one.eq_of_registered registered)⟩

end OneLive

/-- `AddDeviceEndpoint` of the light at an address. -/
def addLight (dev : DevicePtr) : EndpointCall := .add dev .bridgedLightEndpoint 1 refusesInvalidId

/-- A table with one item more, and one item less. -/
theorem update_moved {Item : Type} {index other : Nat} (different : other ≠ index)
    (before after : Item) :
    Function.update (Function.update (Function.update (fun _ => none) index (some before)) other
      (some after)) index none = Function.update (fun _ => none) other (some after) := by
  rw [Function.update_comm different, Function.update_idem]
  exact congrArg (Function.update · other (some after)) (Function.update_eq_self index fun _ => none)

/-- A light is added in a free slot, under the next id. -/
structure AddedNext (bridge added : Bridge PlainDevice) (dev : DevicePtr) (id : EndpointId) :
    Prop where
  slot : ∃ index < CHIP_DEVICE_CONFIG_DYNAMIC_ENDPOINT_COUNT, bridge.gDevices index = none ∧
    added.gDevices = Function.update bridge.gDevices index (some dev) ∧
      added.dynamicEndpoints = Function.update bridge.dynamicEndpoints index
        (some { endpointId := id, endpointType := .bridgedLightEndpoint })
  current : added.gCurrentEndpointId = id
  objects : ∀ light < 2, added.objects light ≠ none

namespace OneLive

variable {bridge added : Bridge PlainDevice} {dev other : DevicePtr} {id next : EndpointId}

theorem toNat_next (room : id.toNat + 1 < 65535) : (id + 1).toNat = id.toNat + 1 := by
  rw [UInt16.toNat_add]
  show (id.toNat + 1) % 2 ^ 16 = _
  omega

/-- The counter is at the id of the live light, so the loop stops at the next one. -/
theorem stops (one : OneLive bridge dev id) (mirrored : bridge.Mirrored 3)
    (valid : bridge.NoInvalidId) (room : id.toNat + 1 < 65535) {index : Nat}
    (empty : bridge.gDevices index = none) {stopped : EndpointId}
    (found : firstUnheld (bridge.holdsElsewhere index) bridge.gFirstDynamicEndpointId (2 ^ 16)
      bridge.gCurrentEndpointId = some stopped) : stopped = id + 1 := by
  obtain ⟨stop, above, unheld, live, within⟩ := mirrored.firstUnheld_within valid empty
  rw [within _ bridge.length_liveIds_lt] at found
  rw [← Option.some.inj found]
  rw [one.current, UInt16.le_iff_toNat_le] at above
  have following := toNat_next room
  have passed : stop.toNat ≠ id.toNat :=
    fun same => unheld (one.mem_liveIds.mpr (UInt16.toNat_inj.mp same))
  refine UInt16.toNat_inj.mp ?_
  by_contra later
  have held := one.mem_liveIds.mp (live (id + 1)
    (by rw [one.current, UInt16.le_iff_toNat_le]; omega)
    (by rw [UInt16.lt_iff_toNat_lt]; omega))
  have := congrArg UInt16.toNat held
  omega

/-- **The other light is added under the next id.** -/
theorem add (one : OneLive bridge dev id) (mirrored : bridge.Mirrored 3)
    (valid : bridge.NoInvalidId) (light : other < 2) (different : other ≠ dev)
    (room : id.toNat + 1 < 65535) :
    ∃ added result, (addLight other).perform bridge = some (added, result) ∧
      AddedNext bridge added other (id + 1) := by
  have allowed := one.allowed light different .bridgedLightEndpoint 1 refusesInvalidId
  obtain ⟨⟨⟨added, result⟩, returns, -⟩, -⟩ :=
    @Bridge.Mirrored.addsInRoom_iff PlainDevice _ bridge _ other .bridgedLightEndpoint 1 mirrored
      valid allowed.1
  refine ⟨added, result, returns, ?_⟩
  have accepted : refusesInvalidId (id + 1) = false := by
    refine decide_eq_false fun invalid => ?_
    have same := congrArg UInt16.toNat invalid
    rw [toNat_next room] at same
    exact absurd same (Nat.ne_of_lt room)
  obtain ⟨object, atOther⟩ := Option.ne_none_iff_exists'.mp allowed.1
  rcases addDeviceEndpoint_cases atOther returns with ⟨-, -, full⟩ |
    ⟨index, stopped, base, below, empty, found, -, outcome⟩
  · obtain ⟨free, below, empty⟩ := one.exists_free
    exact absurd empty (full free below)
  · rw [one.stops mirrored valid room empty found, accepted] at outcome
    rcases outcome with ⟨refused, -, -⟩ | ⟨-, -, rfl⟩
    · cases refused
    · refine ⟨⟨index, below, empty, rfl, rfl⟩, rfl, fun light' isLight => ?_⟩
      show Function.update bridge.objects other (some _) light' ≠ none
      by_cases same : light' = other
      · rw [same, Function.update_self]
        exact Option.some_ne_none _
      · rw [Function.update_of_ne same]
        exact one.objects light' isLight

/-- **Removing the light before leaves the one that was added.** -/
theorem remove (one : OneLive bridge dev id) (different : other ≠ dev)
    (adds : AddedNext bridge added other next) :
    OneLive (removeDeviceEndpoint dev added).1 other next := by
  obtain ⟨slot, slotBelow, devices, slots⟩ := one.tables
  obtain ⟨index, below, empty, devicesAfter, slotsAfter⟩ := adds.slot
  have elsewhere : index ≠ slot := by
    rintro rfl
    rw [devices, Function.update_self] at empty
    cases empty
  have registered : added.gDevices slot = some dev := by
    rw [devicesAfter, Function.update_of_ne (Ne.symm elsewhere), devices, Function.update_self]
  have once : ∀ there, added.gDevices there = some dev → there = slot := by
    intro there isThere
    rw [devicesAfter] at isThere
    by_cases same : there = index
    · rw [same, Function.update_self] at isThere
      exact absurd (Option.some.inj isThere) different
    · rw [Function.update_of_ne same, devices] at isThere
      by_contra notSlot
      rw [Function.update_of_ne notSlot] at isThere
      cases isThere
  rw [removeDeviceEndpoint_eq slotBelow registered once]
  refine ⟨⟨index, below, ?_, ?_⟩, adds.current, adds.objects⟩
  · show Function.update added.gDevices slot none = _
    rw [devicesAfter, devices]
    exact update_moved elsewhere dev other
  · show Function.update added.dynamicEndpoints slot none = _
    rw [slotsAfter, slots]
    exact update_moved elsewhere _ _

/-- **Two lights take turns**: adding the other light and removing the one before leaves one light
again, under the next id. -/
theorem turn (one : OneLive bridge dev id) (reached : sampleTable.ReachesRegularly bridge)
    (mirrored : bridge.Mirrored 3) (valid : bridge.NoInvalidId) (light : other < 2)
    (different : other ≠ dev) (room : id.toNat + 1 < 65535) :
    sampleTable.ReachesRegularly ((EndpointCall.remove dev).after ((addLight other).after bridge)) ∧
      OneLive ((EndpointCall.remove dev).after ((addLight other).after bridge)) other (id + 1) := by
  have allowed := one.allowed light different .bridgedLightEndpoint 1 refusesInvalidId
  obtain ⟨added, result, performs, adds⟩ := one.add mirrored valid light different room
  have returns : ((addLight other).perform bridge).isSome = true := by rw [performs]; rfl
  have after : (addLight other).after bridge = added := by
    unfold EndpointCall.after
    rw [performs]
    rfl
  have regular : (addLight other).Regular := rfl
  have reachedAdded := reached.call regular allowed returns
  refine ⟨reachedAdded.call trivial trivial rfl, ?_⟩
  rw [after]
  exact one.remove different adds

end OneLive

/-- Light 0 is added, and then, turn after turn, the one of the lights 0 and 1 that is not
registered is added and the other one removed. -/
def takingTurns : Nat → Bridge PlainDevice
  | 0 => (addLight 0).after sampleTable
  | turns + 1 => (EndpointCall.remove (turns % 2)).after
      ((addLight ((turns + 1) % 2)).after (takingTurns turns))

theorem sampleTable_noEndpoints : sampleTable.NoEndpoints := ⟨fun _ => rfl, fun _ => rfl, rfl⟩

/-- **Every turn takes an id for good.** -/
theorem takingTurns_oneLive (turns : Nat) (room : 3 + turns < 65535) :
    sampleTable.ReachesRegularly (takingTurns turns) ∧
      OneLive (takingTurns turns) (turns % 2) (UInt16.ofNat (3 + turns)) := by
  induction turns with
  | zero =>
    have start : sampleTable.ReachesRegularly sampleTable := Relation.ReflTransGen.refl
    refine ⟨start.call rfl (by decide) (by decide), ⟨0, by decide, rfl, rfl⟩, rfl, by decide⟩
  | succ turns ih =>
    obtain ⟨reached, one⟩ := ih (by omega)
    obtain ⟨mirrored, valid⟩ := reached.invariant sampleTable_noEndpoints
    have current : (UInt16.ofNat (3 + turns)).toNat = 3 + turns := by
      rw [UInt16.toNat_ofNat']
      omega
    have light : (turns + 1) % 2 < 2 := Nat.mod_lt _ (by decide)
    have different : (turns + 1) % 2 ≠ turns % 2 := by omega
    have turned := one.turn reached mirrored valid light different (by omega)
    have next : UInt16.ofNat (3 + turns) + 1 = UInt16.ofNat (3 + (turns + 1)) := by
      refine UInt16.toNat_inj.mp ?_
      rw [UInt16.toNat_add, current, UInt16.toNat_ofNat']
      show (3 + turns + 1) % 2 ^ 16 = _
      rfl
    rw [next] at turned
    exact turned

/-- **The ids are used up.** After 65531 turns light 1 has the last valid id, fifteen slots are
free, and light 0 cannot be added any more. -/
theorem ids_used_up :
    sampleTable.NoEndpoints ∧ sampleTable.ReachesRegularly (takingTurns 65531) ∧
      (addLight 0).Allowed (takingTurns 65531) ∧
      (∃ index < CHIP_DEVICE_CONFIG_DYNAMIC_ENDPOINT_COUNT,
        (takingTurns 65531).gDevices index = none) ∧
      ¬ (takingTurns 65531).AddsInRoom 0 .bridgedLightEndpoint 1 := by
  obtain ⟨reached, one⟩ := takingTurns_oneLive 65531 (by decide)
  have allowed : (addLight 0).Allowed (takingTurns 65531) :=
    one.allowed (by decide) (by decide) _ _ _
  obtain ⟨mirrored, valid⟩ := reached.invariant sampleTable_noEndpoints
  refine ⟨sampleTable_noEndpoints, reached, allowed, one.exists_free, fun adds => ?_⟩
  obtain ⟨id, above, below, unheld⟩ :=
    (mirrored.addsInRoom_iff valid allowed.1).2.mp adds one.exists_free
  refine unheld (one.mem_liveIds.mpr (UInt16.toNat_inj.mp ?_))
  rw [one.current, UInt16.le_iff_toNat_le] at above
  rw [UInt16.lt_iff_toNat_lt] at below
  exact Nat.le_antisymm (Nat.le_of_lt_succ below) above

/-- With light 0 at the first id there is room for light 1. -/
theorem add_succeeds_iff_sample :
    (takingTurns 0).AddsInRoom 1 .bridgedLightEndpoint 1 := by
  obtain ⟨reached, one⟩ := takingTurns_oneLive 0 (by decide)
  have allowed : (addLight 1).Allowed (takingTurns 0) :=
    one.allowed (by decide) (by decide) _ _ _
  refine (add_succeeds_iff sampleTable_noEndpoints reached allowed).2.mpr fun _ => ?_
  exact ⟨4, by decide, by decide, by decide⟩

end WemoBridge
