/-
**No two UDNs share a target, unless a miss merges over a stale entry.**

The adapter's calls one after the other: `Discover` rebuilds the UDN cache from the list it gets,
`SetOnOff` and `SetLevelPercent` merge the list they fetch on a miss into the cache there is. Lists
have distinct UDNs and distinct wemo_ids, but differ from call to call.

A rebuilt cache has distinct targets. A merge lays the list over the cache
(`cacheItems_eq_overlay`), and a UDN that is not in the list keeps its wemo_id even if the list has
that wemo_id for another UDN. So the targets stay distinct throughout a run exactly if every merged
list covers the UDNs that the cache has for its wemo_ids (`distinct_targets_iff`).
-/

import WemoBridge.Adapter
import WemoBridge.Library.SlotTable

namespace WemoBridge

open Library

/-! ### Calls -/

namespace Adapter

/-- `SetOnOff` or `SetLevelPercent` on its own: three steps take its thread to the end. -/
def call (adapter : Adapter) (command : Command) (answers : EngineAnswers) :
    Adapter × Phase × List Action :=
  let first := adapter.commandStep command answers .lookup
  let second := first.1.commandStep command answers first.2.1
  let third := second.1.commandStep command answers second.2.1
  (third.1, third.2.1, first.2.2 ++ second.2.2 ++ third.2.2)

end Adapter

/-- A call of the adapter, with what the engine answers. -/
inductive AdapterCall where
  | discover (weInit : Bool) (weListDevices : Option WeDeviceList)
  | send (command : Command) (answers : EngineAnswers)

/-- What a call returns: the devices of `Discover`, or the end of a command with the calls of
`we_set_action` it made. -/
inductive AdapterReturn where
  | discovered (devices : List WemoDevice)
  | returned (phase : Phase) (sent : List Action)

/-- One call. -/
def Adapter.perform (adapter : Adapter) : AdapterCall → Adapter × AdapterReturn
  | .discover weInit weListDevices =>
      let discovered := adapter.discover weInit weListDevices
      (discovered.1, .discovered discovered.2)
  | .send command answers =>
      let called := adapter.call command answers
      (called.1, .returned called.2.1 called.2.2)

/-- **The adapter, call after call.** -/
def adapterMachine : Machine Adapter AdapterCall AdapterReturn := { step := Adapter.perform }

/-! ### Lists and targets -/

/-- The listed devices have distinct UDNs and distinct wemo_ids. -/
structure WeDeviceList.Distinct (list : WeDeviceList) : Prop where
  udns : (list.listed.map (cStr ·.udn)).Nodup
  wemoIds : (list.listed.map (·.wemoId)).Nodup

instance (list : WeDeviceList) : Decidable list.Distinct :=
  decidable_of_iff ((list.listed.map (cStr ·.udn)).Nodup ∧ (list.listed.map (·.wemoId)).Nodup)
    ⟨fun both => ⟨both.1, both.2⟩, fun distinct => ⟨distinct.udns, distinct.wemoIds⟩⟩

namespace AdapterCall

/-- The list the engine answers with, if it is asked for one. -/
def weListDevices : AdapterCall → Option WeDeviceList
  | .discover _ weListDevices => weListDevices
  | .send _ answers => answers.weListDevices

def ListsDistinct (call : AdapterCall) : Prop := ∀ list ∈ call.weListDevices, list.Distinct

instance (call : AdapterCall) : Decidable call.ListsDistinct :=
  inferInstanceAs (Decidable (∀ list ∈ call.weListDevices, list.Distinct))

end AdapterCall

/-- No two UDNs have one wemo_id. -/
def Adapter.DistinctTargets (adapter : Adapter) : Prop :=
  ∀ udn udn' wemoId, adapter.mUdnToWemoId udn = some wemoId →
    adapter.mUdnToWemoId udn' = some wemoId → udn = udn'

/-- The list contains every UDN that the cache has for one of its wemo_ids. -/
def WeDeviceList.Covers (list : WeDeviceList) (cache : UdnCache) : Prop :=
  ∀ info ∈ list.listed, cStr info.udn ≠ [] → ∀ udn, cache udn = some info.wemoId →
    udn ∈ list.listed.map (cStr ·.udn)

/-- The list a command merges into the cache: the one it fetches if it runs and misses. -/
def Adapter.merges (adapter : Adapter) (command : Command) (answers : EngineAnswers) :
    Option WeDeviceList :=
  if (adapter.ensureEngineInitialized answers.weInit).initialized = true ∧
      adapter.mUdnToWemoId command.udn = none then answers.weListDevices
  else none

/-- A command merges no list over a stale entry for one of its wemo_ids. -/
def AdapterCall.KeepsApart (adapter : Adapter) : AdapterCall → Prop
  | .discover _ _ => True
  | .send command answers =>
      ∀ list, adapter.merges command answers = some list → list.Covers adapter.mUdnToWemoId

/-! ### The cache as an overlay -/

section Overlay

variable {items : List WeDeviceInfo} {udn : CppString} {wemoId : Int}

/-- A caching loop lays the list over the cache. -/
theorem cacheItems_eq_overlay (cache : UdnCache) (items : List WeDeviceInfo) :
    cacheItems cache items = overlay (cacheItems (fun _ => none) items) cache := by
  funext udn
  rw [overlay, cacheItems_apply, cacheItems_apply]
  split
  · rfl
  · rw [Option.or_none]

/-- What a rebuilt cache has. -/
theorem cacheItems_none_eq_some_iff (distinct : (items.map (cStr ·.udn)).Nodup) :
    cacheItems (fun _ => none) items udn = some wemoId ↔
      udn ≠ [] ∧ ∃ info ∈ items, cStr info.udn = udn ∧ info.wemoId = wemoId := by
  constructor
  · intro cached
    rw [cacheItems_apply] at cached
    split at cached
    · cases cached
    · rename_i nonempty
      rw [Option.or_none] at cached
      obtain ⟨info, found, same⟩ := Option.map_eq_some_iff.mp cached
      refine ⟨nonempty, info, ?_, by simpa using List.find?_some found, same⟩
      exact List.mem_reverse.mp (List.mem_of_find?_eq_some found)
  · rintro ⟨nonempty, info, member, rfl, rfl⟩
    exact cacheItems_of_mem distinct member nonempty

end Overlay

/-! ### What a call does to the cache -/

namespace Adapter

variable {adapter : Adapter} {command : Command} {answers : EngineAnswers}

/-- **A command on its own**: it sends at once if its UDN is cached; otherwise it fetches a list,
merges it into the cache and looks again. -/
theorem call_eq (adapter : Adapter) (command : Command) (answers : EngineAnswers) :
    adapter.call command answers =
      let ready := adapter.ensureEngineInitialized answers.weInit
      if ready.initialized = true then
        match adapter.mUdnToWemoId command.udn with
        | some wemoId => (ready, .returned answers.weSetAction, [command.sendState wemoId])
        | none =>
          match answers.weListDevices with
          | none => (ready, .returned false, [])
          | some list =>
            let merged := { ready with mUdnToWemoId := cacheItems ready.mUdnToWemoId list.listed }
            (merged, merged.lookupAndSend command answers (.returned false))
      else (ready, .returned false, []) := by
  dsimp only
  generalize start : adapter.ensureEngineInitialized answers.weInit = ready
  have sameCache : adapter.mUdnToWemoId = ready.mUdnToWemoId := by rw [← start]; rfl
  rw [sameCache]
  by_cases initialized : ready.initialized = true
  · rw [if_pos initialized]
    have look : adapter.commandStep command answers .lookup =
        (ready, ready.lookupAndSend command answers .fetch) := by
      rw [commandStep, start, if_pos initialized]
    cases cached : ready.mUdnToWemoId command.udn with
    | some wemoId =>
      rw [lookupAndSend, cached] at look
      rw [call, look]
      rfl
    | none =>
      rw [lookupAndSend, cached] at look
      rw [call, look]
      cases fetched : answers.weListDevices with
      | none =>
        have fetch : ready.commandStep command answers .fetch = (ready, .returned false, []) := by
          rw [commandStep, fetched]
        dsimp only
        rw [fetch]
        rfl
      | some list =>
        have fetch : ready.commandStep command answers .fetch = (ready, .merge list, []) := by
          rw [commandStep, fetched]
        dsimp only
        rw [fetch]
        rfl
  · have look : adapter.commandStep command answers .lookup = (ready, .returned false, []) := by
      rw [commandStep, start, if_neg initialized]
    rw [if_neg initialized, call, look]
    rfl

/-- **A command leaves the cache alone or merges one list into it.** -/
theorem call_cases (adapter : Adapter) (command : Command) (answers : EngineAnswers) :
    (adapter.merges command answers = none ∧
      (adapter.call command answers).1.mUdnToWemoId = adapter.mUdnToWemoId) ∨
    ∃ list, adapter.merges command answers = some list ∧
      (adapter.call command answers).1.mUdnToWemoId =
        cacheItems adapter.mUdnToWemoId list.listed := by
  rw [call_eq]
  unfold merges
  by_cases ready : (adapter.ensureEngineInitialized answers.weInit).initialized = true
  · cases adapter.mUdnToWemoId command.udn with
    | some wemoId =>
      refine Or.inl ⟨if_neg fun both => Option.some_ne_none _ both.2, ?_⟩
      simp only [ready, if_true]
      rfl
    | none =>
      rw [if_pos ⟨ready, rfl⟩]
      cases answers.weListDevices with
      | none =>
        refine Or.inl ⟨rfl, ?_⟩
        simp only [ready, if_true]
        rfl
      | some list =>
        refine Or.inr ⟨list, rfl, ?_⟩
        simp only [ready, if_true]
        rfl
  · refine Or.inl ⟨if_neg fun both => ready both.1, ?_⟩
    simp only [if_neg ready]
    rfl

/-- A command sends nothing but its own state. -/
theorem call_sends {action : Action} (member : action ∈ (adapter.call command answers).2.2) :
    ∃ wemoId, action = command.sendState wemoId := by
  rw [call_eq] at member
  dsimp only at member
  split at member
  · split at member
    · exact ⟨_, List.mem_singleton.mp member⟩
    · split at member
      · cases member
      · unfold lookupAndSend at member
        split at member
        · exact ⟨_, List.mem_singleton.mp member⟩
        · cases member
  · cases member

/-- A call leaves the cache alone, rebuilds it, or merges one list into it. -/
theorem perform_cases (adapter : Adapter) (call : AdapterCall) :
    ((adapter.perform call).1.mUdnToWemoId = adapter.mUdnToWemoId ∧ call.KeepsApart adapter) ∨
    (∃ list ∈ call.weListDevices,
      (adapter.perform call).1.mUdnToWemoId = cacheItems (fun _ => none) list.listed ∧
      call.KeepsApart adapter) ∨
    ∃ list ∈ call.weListDevices,
      (adapter.perform call).1.mUdnToWemoId = cacheItems adapter.mUdnToWemoId list.listed ∧
      (call.KeepsApart adapter ↔ list.Covers adapter.mUdnToWemoId) := by
  cases call with
  | discover weInit weListDevices =>
    unfold perform discover
    dsimp only
    split
    · cases weListDevices with
      | none => exact Or.inl ⟨rfl, trivial⟩
      | some list => exact Or.inr (Or.inl ⟨list, rfl, rfl, trivial⟩)
    · exact Or.inl ⟨rfl, trivial⟩
  | send command answers =>
    rcases adapter.call_cases command answers with ⟨nothing, same⟩ | ⟨list, merged, cached⟩
    · refine Or.inl ⟨same, fun list merged => ?_⟩
      rw [nothing] at merged
      cases merged
    · refine Or.inr (Or.inr ⟨list, ?_, cached, fun apart => apart list merged, ?_⟩)
      · unfold merges at merged
        split at merged
        · exact merged
        · cases merged
      · intro covers other merged'
        rw [← Option.some.inj (merged.symm.trans merged')]
        exact covers

/-- The targets are distinct if the cache has distinct values. -/
theorem distinctTargets_iff : adapter.DistinctTargets ↔ DistinctKeys id adapter.mUdnToWemoId := by
  constructor
  · intro distinct udn udn' wemoId wemoId' here there same
    exact distinct udn udn' wemoId here (there.trans (congrArg some same.symm))
  · exact fun distinct udn udn' wemoId here there => distinct udn udn' wemoId wemoId here there rfl

end Adapter

/-! ### Exactly when the targets stay distinct -/

section Exact

variable {list : WeDeviceList}

/-- A rebuilt cache has distinct targets. -/
theorem WeDeviceList.Distinct.rebuilt (distinct : list.Distinct) :
    DistinctKeys id (cacheItems (fun _ => none) list.listed) := by
  intro udn udn' wemoId wemoId' here there same
  obtain ⟨-, info, member, rfl, rfl⟩ := (cacheItems_none_eq_some_iff distinct.udns).mp here
  obtain ⟨-, other, otherMember, rfl, rfl⟩ := (cacheItems_none_eq_some_iff distinct.udns).mp there
  rw [List.inj_on_of_nodup_map distinct.wemoIds member otherMember same]

/-- The list covers a cache exactly if the rebuilt cache covers every older entry for one of its
wemo_ids. -/
theorem WeDeviceList.Distinct.covers_iff (distinct : list.Distinct) {cache : UdnCache}
    (noEmpty : cache [] = none) :
    list.Covers cache ↔ ∀ udn udn' wemoId wemoId',
      cacheItems (fun _ => none) list.listed udn = some wemoId → cache udn' = some wemoId' →
        id wemoId' = id wemoId → cacheItems (fun _ => none) list.listed udn' ≠ none := by
  constructor
  · intro covers udn udn' wemoId wemoId' here there same
    obtain ⟨nonempty, info, member, rfl, rfl⟩ := (cacheItems_none_eq_some_iff distinct.udns).mp here
    obtain ⟨other, listed, rfl⟩ := List.mem_map.mp
      (covers info member nonempty udn' (there.trans (congrArg some same)))
    have nonempty' : cStr other.udn ≠ [] := by
      intro empty
      rw [empty, noEmpty] at there
      cases there
    rw [cacheItems_of_mem distinct.udns listed nonempty']
    exact Option.some_ne_none _
  · intro covered info member nonempty udn cached
    obtain ⟨wemoId, listed⟩ := Option.ne_none_iff_exists'.mp (covered _ udn _ _
      (cacheItems_of_mem distinct.udns member nonempty) cached rfl)
    obtain ⟨-, other, otherMember, rfl, -⟩ := (cacheItems_none_eq_some_iff distinct.udns).mp listed
    exact List.mem_map_of_mem otherMember

/-- **One call keeps the targets distinct exactly if it keeps them apart.** -/
theorem Adapter.perform_distinct_iff {adapter : Adapter} {call : AdapterCall}
    (noEmpty : adapter.mUdnToWemoId [] = none) (distinct : adapter.DistinctTargets)
    (lists : call.ListsDistinct) :
    (adapter.perform call).1.mUdnToWemoId [] = none ∧
      ((adapter.perform call).1.DistinctTargets ↔ call.KeepsApart adapter) := by
  have stays : ∀ cache items, cache [] = none → cacheItems cache items [] = none := by
    intro cache items empty
    rw [cacheItems_apply, if_pos rfl, empty]
  rw [distinctTargets_iff] at distinct ⊢
  rcases adapter.perform_cases call with ⟨same, apart⟩ | ⟨list, asked, rebuilt, apart⟩ |
    ⟨list, asked, merged, apart⟩
  · rw [same]
    exact ⟨noEmpty, iff_of_true distinct apart⟩
  · rw [rebuilt]
    exact ⟨stays _ _ rfl, iff_of_true (lists list asked).rebuilt apart⟩
  · rw [merged, apart, (lists list asked).covers_iff noEmpty, cacheItems_eq_overlay]
    refine ⟨?_, distinctKeys_overlay_iff (lists list asked).rebuilt distinct⟩
    rw [← cacheItems_eq_overlay]
    exact stays _ _ noEmpty

end Exact

/-- **Exactly when no two UDNs share a target.** Whatever lists the engine returns, with distinct
UDNs and distinct wemo_ids in each, the targets are distinct in every state of a run of `Discover`,
`SetOnOff` and `SetLevelPercent` calls exactly if no command merges a list that has, for another
UDN, the wemo_id of a cached UDN it does not contain. -/
theorem distinct_targets_iff (calls : List AdapterCall)
    (lists : ∀ call ∈ calls, call.ListsDistinct) :
    adapterMachine.Throughout Adapter.DistinctTargets Adapter.fresh calls ↔
      adapterMachine.Along (fun adapter call => call.KeepsApart adapter) Adapter.fresh calls := by
  have start : Adapter.fresh.DistinctTargets := by
    intro udn udn' wemoId cached
    cases cached
  have exact := @Machine.throughout_iff_along _ _ _ adapterMachine
    (fun adapter => adapter.mUdnToWemoId [] = none) Adapter.DistinctTargets
    AdapterCall.ListsDistinct (fun adapter call => call.KeepsApart adapter)
    (fun adapter call noEmpty distinct distinctLists =>
      Adapter.perform_distinct_iff noEmpty distinct distinctLists) calls Adapter.fresh lists rfl
  rw [exact]
  exact and_iff_right start

/-! ### A wemo_id that moves -/

/-- An on/off WeMo as the engine lists it. -/
def listedSocket (wemoId : Int) (name : String) : WeDeviceInfo :=
  { wemoId := wemoId, udn := literal name, friendlyName := literal name, deviceType := 1
    isOnline := 1, state := 0, level := -1 }

/-- A list of all its items. -/
def listOf (items : List WeDeviceInfo) : WeDeviceList := { count := items.length, items := items }

/-- `SetOnOff` with an engine that lists the items and succeeds. -/
def sampleSend (name : String) (items : List WeDeviceInfo) : AdapterCall :=
  .send (.setOnOff (literal name) true)
    { weInit := true, weListDevices := some (listOf items), weSetAction := true }

/-- The lamp is discovered as WeMo 1; a command to the heater misses, and by then the engine lists
the heater, alone, as WeMo 1. -/
def movedCalls : List AdapterCall :=
  [.discover true (some (listOf [listedSocket 1 "uuid:Lamp"])),
    sampleSend "uuid:Heater" [listedSocket 1 "uuid:Heater"]]

/-- The heater's wemo_id is the lamp's, too: the next command to the lamp switches the heater. -/
theorem targets_shared :
    (∀ call ∈ movedCalls, call.ListsDistinct) ∧
      ¬ (adapterMachine.run Adapter.fresh movedCalls).DistinctTargets ∧
      ((adapterMachine.run Adapter.fresh movedCalls).perform
        (sampleSend "uuid:Lamp" [listedSocket 1 "uuid:Heater"])).2 =
          .returned (.returned true) [{ wemoId := 1, state := 1, level := -1, isOnline := 1 }] := by
  refine ⟨by decide, fun distinct => ?_, rfl⟩
  have same := distinct (literal "uuid:Lamp") (literal "uuid:Heater") 1 (by decide) (by decide)
  revert same
  decide

/-- The lamp is still listed when the heater joins as WeMo 2. -/
def joinedCalls : List AdapterCall :=
  [.discover true (some (listOf [listedSocket 1 "uuid:Lamp"])),
    sampleSend "uuid:Heater" [listedSocket 1 "uuid:Lamp", listedSocket 2 "uuid:Heater"]]

theorem distinct_targets_iff_sample :
    adapterMachine.Throughout Adapter.DistinctTargets Adapter.fresh joinedCalls := by
  refine (distinct_targets_iff joinedCalls (by decide)).mpr ⟨trivial, ?_, trivial⟩
  intro list merged info member nonempty udn cached
  -- the cache has the lamp alone, and the lamp is in the list
  obtain ⟨-, lamp, isLamp, rfl, -⟩ := (cacheItems_none_eq_some_iff (by decide)).mp cached
  obtain rfl := List.mem_singleton.mp isLamp
  obtain rfl := Option.some.inj merged
  decide

end WemoBridge
