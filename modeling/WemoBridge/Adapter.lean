/-
**The WeMo adapter: the UDN cache and the two commands.**

`wemo_engine` is not part of the repository: its answers (`we_init`, `we_list_devices`) are
arguments, what it is told (`we_set_action`) is the result. The device list is an array of
`WE_DEVICE_LIST_MAX_ITEMS` items with a count; `listed` are the items the loops visit.

`cacheItems_apply` is the meaning of all three copies of the caching loop: a UDN is mapped to the
wemo_id of its last occurrence in the list, and a UDN that does not occur keeps its entry.
-/

import WemoBridge.Bridge

namespace WemoBridge

/-! ### The engine's types -/

/-- `we_device_info`; the strings are the contents of `char` arrays. -/
structure WeDeviceInfo where
  wemoId : Int
  udn : CppString
  friendlyName : CppString
  deviceType : Int
  isOnline : Int
  state : Int
  level : Int
  deriving DecidableEq, Repr

/-- `we_device_list`, with all its `WE_DEVICE_LIST_MAX_ITEMS` items. -/
structure WeDeviceList where
  count : Int
  items : List WeDeviceInfo
  deriving DecidableEq, Repr

/-- The items below `std::clamp(list.count, 0, WE_DEVICE_LIST_MAX_ITEMS)`. -/
def WeDeviceList.listed (list : WeDeviceList) : List WeDeviceInfo :=
  list.items.take (min (max list.count 0) list.items.length).toNat

/-- `we_state` of an event: what the engine reports of a WeMo. -/
structure WeState where
  isOnline : Int
  state : Int
  level : Int
  deriving DecidableEq, Repr

/-- A call of `we_set_action`, with the `we_state` it passes. -/
structure Action where
  wemoId : Int
  state : Int
  level : Int
  isOnline : Int
  deriving DecidableEq, Repr

/-! ### The adapter's types -/

structure WemoDevice where
  wemoId : Int := 0
  udn : CppString
  friendlyName : CppString
  supportsLevel : Bool := false
  isOnline : Bool := false
  onoff : UInt8 := 0
  /-- 0..100 -/
  levelPercent : UInt8 := 0
  deriving DecidableEq, Repr

/-- `mUdnToWemoId` -/
abbrev UdnCache := CppString → Option Int

/-- The adapter object with the static `initialized` of `EnsureEngineInitialized`. -/
structure Adapter where
  initialized : Bool
  mUdnToWemoId : UdnCache

/-- The adapter before its first call. -/
def Adapter.fresh : Adapter := { initialized := false, mUdnToWemoId := fun _ => none }

/-- `WEMO_DIMMER` -/
def kTypeDimmer : Int := 4

/-! ### The cache -/

/-- One item of a caching loop. -/
def cacheItem (cache : UdnCache) (info : WeDeviceInfo) : UdnCache :=
  if cStr info.udn ≠ [] then Function.update cache (cStr info.udn) (some info.wemoId) else cache

/-- A caching loop. -/
def cacheItems (cache : UdnCache) (items : List WeDeviceInfo) : UdnCache :=
  items.foldl cacheItem cache

/-- **Last occurrence wins**, and a UDN that does not occur keeps its entry. -/
theorem cacheItems_apply (cache : UdnCache) (items : List WeDeviceInfo) (udn : CppString) :
    cacheItems cache items udn =
      if udn = [] then cache udn
      else ((items.reverse.find? (cStr ·.udn = udn)).map WeDeviceInfo.wemoId).or (cache udn) := by
  induction items using List.reverseRecOn with
  | nil => simp [cacheItems]
  | append_singleton rest info ih =>
    have last : cacheItems cache (rest ++ [info]) = cacheItem (cacheItems cache rest) info := by
      simp [cacheItems]
    rw [last, cacheItem, List.reverse_append]
    by_cases here : cStr info.udn = udn
    · by_cases empty : udn = []
      · subst empty
        simpa [here] using ih
      · simp [here, empty]
    · have elsewhere : (if cStr info.udn ≠ [] then
          Function.update (cacheItems cache rest) (cStr info.udn) (some info.wemoId)
          else cacheItems cache rest) udn = cacheItems cache rest udn := by
        split
        · exact Function.update_of_ne (fun same => here same.symm) _ _
        · rfl
      rw [elsewhere, ih]
      simp [here]

/-- In a list with pairwise distinct UDNs a non-empty UDN is mapped to its own item. -/
theorem cacheItems_of_mem {cache : UdnCache} {items : List WeDeviceInfo}
    (distinct : (items.map (cStr ·.udn)).Nodup) {info : WeDeviceInfo} (member : info ∈ items)
    (nonempty : cStr info.udn ≠ []) :
    cacheItems cache items (cStr info.udn) = some info.wemoId := by
  have found : items.reverse.find? (cStr ·.udn = cStr info.udn) = some info :=
    Library.find?_key_of_mem
      (by rw [List.map_reverse]; exact List.nodup_reverse.mpr distinct) (by simpa using member)
  rw [cacheItems_apply, if_neg nonempty, found]
  rfl

/-! ### Discover -/

/-- The device the loop of `Discover` makes of an item. -/
def wemoDeviceOf (info : WeDeviceInfo) : WemoDevice :=
  { wemoId := info.wemoId
    udn := cStr info.udn
    friendlyName := cStr info.friendlyName
    isOnline := info.isOnline ≠ 0
    onoff := if info.state ≠ 0 then 1 else 0
    supportsLevel := info.deviceType = kTypeDimmer ∨ info.level ≥ 0
    levelPercent := if info.level ≥ 0 then UInt8.ofInt (min (max info.level 0) 100) else 0 }

/-- `OnWeStateEvent`, with the callback that `ApplicationInit` registers: the event handed to the
Matter thread. -/
def onWeStateEvent (wemoId : Int) (data : WeState) : WemoEventContext :=
  { wemoId := wemoId, isOnline := data.isOnline ≠ 0, state := data.state, level := data.level }

namespace Adapter

/-- `EnsureEngineInitialized`, where `weInit` is what `we_init` answers if it is called. -/
def ensureEngineInitialized (weInit : Bool) (adapter : Adapter) : Adapter :=
  { adapter with initialized := adapter.initialized || weInit }

/-- `Discover`; `weListDevices` is `none` if `we_list_devices` does not answer `WE_STATUS_OK`. -/
def discover (weInit : Bool) (weListDevices : Option WeDeviceList) (adapter : Adapter) :
    Adapter × List WemoDevice :=
  let adapter := adapter.ensureEngineInitialized weInit
  if adapter.initialized then
    match weListDevices with
    | none => (adapter, [])
    | some list =>
      ({ adapter with mUdnToWemoId := cacheItems (fun _ => none) list.listed },
        list.listed.map wemoDeviceOf)
  else (adapter, [])

/-- What a `Discover` can do: return nothing, or cache the list and return its devices. -/
theorem discover_cases (weInit : Bool) (weListDevices : Option WeDeviceList) (adapter : Adapter) :
    (adapter.discover weInit weListDevices).2 = [] ∨
      ∃ list, weListDevices = some list ∧ adapter.discover weInit weListDevices =
        ({ initialized := true, mUdnToWemoId := cacheItems (fun _ => none) list.listed },
          list.listed.map wemoDeviceOf) := by
  unfold discover
  by_cases ready : (adapter.ensureEngineInitialized weInit).initialized = true
  · rw [if_pos ready]
    cases weListDevices with
    | none => exact Or.inl rfl
    | some list => exact Or.inr ⟨list, rfl, by rw [← ready]⟩
  · rw [if_neg ready]
    exact Or.inl rfl

/-- A `Discover` that returns a device has cached the list. -/
theorem discover_of_mem {weInit : Bool} {weListDevices : Option WeDeviceList} {adapter : Adapter}
    {dev : WemoDevice} (member : dev ∈ (adapter.discover weInit weListDevices).2) :
    ∃ list, weListDevices = some list ∧ adapter.discover weInit weListDevices =
      ({ initialized := true, mUdnToWemoId := cacheItems (fun _ => none) list.listed },
        list.listed.map wemoDeviceOf) := by
  rcases adapter.discover_cases weInit weListDevices with empty | cached
  · rw [empty] at member
    cases member
  · exact cached

/-- **Discover caches what it returns**: with pairwise distinct UDNs every device it returns with a
non-empty UDN is in the cache under its own wemo_id. -/
theorem discover_cached {weInit : Bool} {weListDevices : Option WeDeviceList} {adapter : Adapter}
    (distinct : ((adapter.discover weInit weListDevices).2.map (·.udn)).Nodup) {dev : WemoDevice}
    (member : dev ∈ (adapter.discover weInit weListDevices).2) (nonempty : dev.udn ≠ []) :
    (adapter.discover weInit weListDevices).1.mUdnToWemoId dev.udn = some dev.wemoId := by
  obtain ⟨list, -, discovered⟩ := discover_of_mem member
  rw [discovered] at distinct member ⊢
  obtain ⟨info, infoMember, rfl⟩ := List.mem_map.mp member
  rw [List.map_map] at distinct
  exact cacheItems_of_mem distinct infoMember nonempty

/-- Every non-empty UDN discovered is in the cache. -/
theorem discover_isSome {weInit : Bool} {weListDevices : Option WeDeviceList}
    {adapter : Adapter} {dev : WemoDevice}
    (member : dev ∈ (adapter.discover weInit weListDevices).2) (nonempty : dev.udn ≠ []) :
    ((adapter.discover weInit weListDevices).1.mUdnToWemoId dev.udn).isSome = true := by
  obtain ⟨list, -, discovered⟩ := discover_of_mem member
  rw [discovered] at member ⊢
  obtain ⟨info, infoMember, rfl⟩ := List.mem_map.mp member
  replace nonempty : cStr info.udn ≠ [] := nonempty
  show (cacheItems _ list.listed (cStr info.udn)).isSome = true
  have listed : (list.listed.reverse.find? (cStr ·.udn = cStr info.udn)).isSome = true :=
    List.find?_isSome.mpr ⟨info, by simpa using infoMember, by simp⟩
  rw [cacheItems_apply, if_neg nonempty, Option.isSome_or, Option.isSome_map, listed, Bool.true_or]

end Adapter

/-! ### The commands -/

/-- `SendState`, called by `SetOnOff` with `-1` as the level and by `SetLevelPercent` with the
clamped percent and the on/off state it stands for. -/
def Command.sendState (wemoId : Int) : Command → Action
  | .setOnOff _ on =>
      { wemoId := wemoId, state := if on then 1 else 0, level := -1, isOnline := 1 }
  | .setLevelPercent _ percent =>
      let clamped := min (max (percent.toNat : Int) 0) 100
      { wemoId := wemoId, state := if clamped > 0 then 1 else 0, level := clamped, isOnline := 1 }

@[simp] theorem Command.sendState_wemoId (wemoId : Int) (command : Command) :
    (command.sendState wemoId).wemoId = wemoId := by
  cases command <;> rfl

/-- What a command thread waits for: the first look into the cache, the list it fetches outside the
mutex, the merge of that list and the second look; or it has returned. -/
inductive Phase where
  | lookup
  | fetch
  | merge (list : WeDeviceList)
  | returned (sent : Bool)
  deriving DecidableEq, Repr

/-- What the engine answers to one step of a command thread. -/
structure EngineAnswers where
  weInit : Bool
  weListDevices : Option WeDeviceList
  /-- the result of `we_set_action` -/
  weSetAction : Bool
  deriving DecidableEq, Repr

/-- The part under the mutex: look the UDN up and send. -/
def Adapter.lookupAndSend (adapter : Adapter) (command : Command) (answers : EngineAnswers)
    (missed : Phase) : Phase × List Action :=
  match adapter.mUdnToWemoId command.udn with
  | some wemoId => (.returned answers.weSetAction, [command.sendState wemoId])
  | none => (missed, [])

/-- **One atomic step of `SetOnOff` or `SetLevelPercent`**: everything under one hold of the cache
mutex, or the fetch outside it. -/
def Adapter.commandStep (adapter : Adapter) (command : Command) (answers : EngineAnswers) :
    Phase → Adapter × Phase × List Action
  | .lookup =>
      let adapter := adapter.ensureEngineInitialized answers.weInit
      if adapter.initialized then
        (adapter, adapter.lookupAndSend command answers .fetch)
      else (adapter, .returned false, [])
  | .fetch =>
      match answers.weListDevices with
      | none => (adapter, .returned false, [])
      | some list => (adapter, .merge list, [])
  | .merge list =>
      let adapter :=
        { adapter with mUdnToWemoId := cacheItems adapter.mUdnToWemoId list.listed }
      (adapter, adapter.lookupAndSend command answers (.returned false))
  | .returned sent => (adapter, .returned sent, [])

end WemoBridge
