/-
**Endpoint ids across restarts.**

The endpoint id of a published device is the first dynamic id plus the device's position among the
registered devices, in the order of their UDNs (`published_endpoint`). Nothing of it is stored: a
UDN that two starts publish has the same endpoint id in both exactly when both register the same
number of devices with a smaller UDN (`endpoints_stable_iff`), so a device that joins, leaves or
fails to register moves every later one (`endpoint_moves`).
-/

import WemoBridge.Init

namespace WemoBridge

open Library

variable {D : Type} [ChipSdk D]

/-! ### The order of the registered devices -/

/-- The sorted list is sorted strictly by UDN if the UDNs are pairwise distinct. -/
theorem sortDiscovered_pairwise {discovered : List WemoDevice}
    (distinct : (discovered.map (·.udn)).Nodup) :
    (sortDiscovered discovered).Pairwise fun a b => a.udn < b.udn := by
  have nodup : ((sortDiscovered discovered).map (·.udn)).Nodup :=
    ((sortDiscovered_perm discovered).map _).nodup_iff.mpr distinct
  refine ((sortDiscovered_sorted discovered).and (List.pairwise_map.mp nodup)).imp fun before => ?_
  exact lt_of_le_of_ne (udn_le_of_comesBefore_eq_false before.1) before.2

/-! ### A start -/

/-- What a start meets: the heap, what the SDK refuses, and the devices discovered. -/
structure Start where
  heap : Allocator
  refuses : Nat → EndpointId → Bool
  discovered : List WemoDevice

/-- What is known of a start: the SDK refuses the invalid id, and the UDNs are pairwise distinct. -/
structure Start.Regular (start : Start) : Prop where
  invalid : ∀ call, start.refuses call kInvalidEndpointId = true
  distinct : (start.discovered.map (·.udn)).Nodup

namespace Start

variable {start : Start} {lastFixed : EndpointId} {bridge : Bridge D} {x : PublishedLight}

/-- The bridge after the start. -/
def bridge? (start : Start) (D : Type) [ChipSdk D] (lastFixed : EndpointId) : Option (Bridge D) :=
  applicationInit start.heap lastFixed start.refuses start.discovered

/-- The devices that fit and that the SDK takes, in the order of their slots. -/
def registered (start : Start) (lastFixed : EndpointId) : List WemoDevice :=
  accepted (lastFixed + 1) start.refuses 0 0 (sortDiscovered start.discovered)

/-- The number of registered devices with a smaller UDN. -/
def registeredBefore (start : Start) (lastFixed : EndpointId) (udn : CppString) : Nat :=
  ((start.registered lastFixed).filter fun dev => dev.udn < udn).length

/-- **A published endpoint id is the rank of its UDN.** -/
theorem published_endpoint (regular : start.Regular)
    (starts : start.bridge? D lastFixed = some bridge) (ofX : bridge.Publishes x) :
    x.endpoint = dynamicEndpointId (lastFixed + 1) (start.registeredBefore lastFixed x.udn) ∧
      (lastFixed + 1).toNat + start.registeredBefore lastFixed x.udn ≤ 0xFFFF ∧
      x.udn ∈ (start.registered lastFixed).map (·.udn) := by
  obtain ⟨lights, laid, same⟩ := laid_of_starts regular.invalid starts
  obtain ⟨i, light, here, rfl⟩ := (laid.publishes_iff x).mp ofX
  have listed : (start.registered lastFixed)[i]? = some light.1 := by
    rw [registered, ← same, List.getElem?_map, here]
    rfl
  have sorted : (start.registered lastFixed).Pairwise fun a b => a.udn < b.udn :=
    (sortDiscovered_pairwise regular.distinct).sublist (accepted_sublist _ 0 0)
  have rank : start.registeredBefore lastFixed light.1.udn = i := by
    rw [registeredBefore, ← length_filter_key_lt sorted listed]
    exact congrArg _ (List.filter_congr fun dev _ => decide_eq_decide.mpr Iff.rfl)
  have below := (List.getElem?_eq_some_iff.mp here).1
  have room := laid.room
  rw [show (publishedLightOf (lastFixed + 1) i light).udn = light.1.udn from rfl, rank]
  exact ⟨rfl, by omega, List.mem_map_of_mem (List.mem_of_getElem? listed)⟩

/-- Every start ends. -/
theorem ends (regular : start.Regular) (lastFixed : EndpointId) :
    ∃ bridge, start.bridge? D lastFixed = some bridge :=
  applicationInit_ends lastFixed regular.invalid start.discovered

/-- Every registered UDN is published. -/
theorem exists_published (regular : start.Regular)
    (starts : start.bridge? D lastFixed = some bridge) {udn : CppString}
    (listed : udn ∈ (start.registered lastFixed).map (·.udn)) :
    ∃ x, bridge.Publishes x ∧ x.udn = udn := by
  obtain ⟨lights, laid, same⟩ := laid_of_starts regular.invalid starts
  rw [registered, ← same, List.map_map] at listed
  obtain ⟨light, member, rfl⟩ := List.mem_map.mp listed
  obtain ⟨i, here⟩ := List.mem_iff_getElem?.mp member
  exact ⟨_, (laid.publishes_iff _).mpr ⟨i, light, here, rfl⟩, rfl⟩

end Start

/-! ### Two starts -/

/-- **When endpoint ids survive a restart.** Every UDN published in both of two starts with the same
fixed endpoints has one endpoint id in both exactly when, for every UDN registered in both, both
register the same number of devices with a smaller UDN. -/
theorem endpoints_stable_iff {lastFixed : EndpointId} {first second : Start}
    (regular : first.Regular) (regular' : second.Regular) {before after : Bridge D}
    (starts : first.bridge? D lastFixed = some before)
    (restarts : second.bridge? D lastFixed = some after) :
    (∀ x y, before.Publishes x → after.Publishes y → x.udn = y.udn → x.endpoint = y.endpoint) ↔
      ∀ udn ∈ (first.registered lastFixed).map (·.udn),
        udn ∈ (second.registered lastFixed).map (·.udn) →
          first.registeredBefore lastFixed udn = second.registeredBefore lastFixed udn := by
  constructor
  · intro stable udn listed listed'
    obtain ⟨x, ofX, rfl⟩ := first.exists_published regular starts listed
    obtain ⟨y, ofY, same⟩ := second.exists_published regular' restarts listed'
    obtain ⟨endpoint, room, -⟩ := Start.published_endpoint regular starts ofX
    obtain ⟨endpoint', room', -⟩ := Start.published_endpoint regular' restarts ofY
    rw [same] at endpoint' room'
    have sameEndpoint := stable x y ofX ofY same.symm
    rw [endpoint, endpoint'] at sameEndpoint
    exact (dynamicEndpointId_inj room room').mp sameEndpoint
  · intro sameRank x y ofX ofY same
    obtain ⟨endpoint, -, listed⟩ := Start.published_endpoint regular starts ofX
    obtain ⟨endpoint', -, listed'⟩ := Start.published_endpoint regular' restarts ofY
    rw [endpoint, endpoint', sameRank x.udn listed (same ▸ listed'), same]

/-- A start with the given devices on the sample heap. -/
def sampleStart (discovered : List WemoDevice) : Start :=
  { heap := nextAddress, refuses := refusesInvalid, discovered := discovered }

def sampleSocket : WemoDevice := { udn := literal "uuid:B", friendlyName := literal "Hall" }

/-- A device with a smaller UDN, which joins between two starts. -/
def sampleNewcomer : WemoDevice := { udn := literal "uuid:A", friendlyName := literal "Attic" }

/-- A device with a greater UDN, which joins behind the other one. -/
def sampleLatecomer : WemoDevice := { udn := literal "uuid:C", friendlyName := literal "Cellar" }

/-- A restart with one more device behind the socket keeps the socket's endpoint id. -/
theorem endpoints_stable_iff_sample :
    ∃ before after : Bridge PlainDevice, ∃ x y,
      (sampleStart [sampleSocket]).bridge? PlainDevice 2 = some before ∧
      (sampleStart [sampleLatecomer, sampleSocket]).bridge? PlainDevice 2 = some after ∧
      before.Publishes x ∧ after.Publishes y ∧ x.udn = literal "uuid:B" ∧ y.udn = literal "uuid:B" ∧
      x.endpoint = y.endpoint := by
  have regular : (sampleStart [sampleSocket]).Regular := ⟨fun _ => rfl, by decide⟩
  have regular' : (sampleStart [sampleLatecomer, sampleSocket]).Regular :=
    ⟨fun _ => rfl, by decide⟩
  obtain ⟨before, starts⟩ := @Start.ends PlainDevice _ _ regular 2
  obtain ⟨after, restarts⟩ := @Start.ends PlainDevice _ _ regular' 2
  obtain ⟨x, ofX, udn⟩ := @Start.exists_published PlainDevice _ _ 2 _ regular starts
    (literal "uuid:B") (by decide)
  obtain ⟨y, ofY, udn'⟩ := @Start.exists_published PlainDevice _ _ 2 _ regular' restarts
    (literal "uuid:B") (by decide)
  -- one device is registered in both, and both register none with a smaller UDN
  have stable := (endpoints_stable_iff regular regular' starts restarts).mpr (by decide)
  exact ⟨before, after, x, y, starts, restarts, ofX, ofY, udn, udn', stable x y ofX ofY
    (udn.trans udn'.symm)⟩

/-- **The newcomer moves the other device** to the next endpoint id. -/
theorem endpoint_moves :
    ¬ ∀ (lastFixed : EndpointId) (first second : Start), first.Regular → second.Regular →
      ∀ before after : Bridge PlainDevice, first.bridge? PlainDevice lastFixed = some before →
        second.bridge? PlainDevice lastFixed = some after →
          ∀ x y, before.Publishes x → after.Publishes y → x.udn = y.udn →
            x.endpoint = y.endpoint := by
  intro stable
  have regular : (sampleStart [sampleSocket]).Regular := ⟨fun _ => rfl, by decide⟩
  have regular' : (sampleStart [sampleNewcomer, sampleSocket]).Regular :=
    ⟨fun _ => rfl, by decide⟩
  obtain ⟨before, starts⟩ := @Start.ends PlainDevice _ _ regular 2
  obtain ⟨after, restarts⟩ := @Start.ends PlainDevice _ _ regular' 2
  obtain ⟨x, ofX, udn⟩ := @Start.exists_published PlainDevice _ _ 2 _ regular starts
    (literal "uuid:B") (by decide)
  obtain ⟨y, ofY, udn'⟩ := @Start.exists_published PlainDevice _ _ 2 _ regular' restarts
    (literal "uuid:B") (by decide)
  have sameId := stable 2 _ _ regular regular' before after starts restarts x y ofX ofY
    (udn.trans udn'.symm)
  rw [(Start.published_endpoint regular starts ofX).1,
    (Start.published_endpoint regular' restarts ofY).1, udn, udn'] at sameId
  revert sameId
  decide

end WemoBridge
