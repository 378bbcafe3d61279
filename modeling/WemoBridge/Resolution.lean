/-
**Which WeMo a command reaches.**

The reference is a history of device lists, most recent first: a successful `Discover` starts it
anew with its list, a command whose UDN no list of it has puts the list it fetches on top. A UDN
stands for the wemo_id of its last occurrence in the first list that has it (`targetOf`).

The UDN cache is this history looked up from the top: `Resolves` holds after every call
(`perform_resolves`), whatever the lists, with UDNs repeated or empty and any count. So what a
command sends, returns and leaves behind is what the reference says (`target_resolution`), for
`SetOnOff` and `SetLevelPercent` alike.
-/

import WemoBridge.Targets

namespace WemoBridge

open Library

/-! ### One list -/

namespace WeDeviceList

/-- The UDN occurs in the list, below the clamped count. -/
def Lists (list : WeDeviceList) (udn : CppString) : Prop :=
  ∃ info ∈ list.listed, cStr info.udn = udn

instance (list : WeDeviceList) (udn : CppString) : Decidable (list.Lists udn) :=
  inferInstanceAs (Decidable (∃ info ∈ list.listed, cStr info.udn = udn))

/-- The wemo_id of the last occurrence of the UDN. -/
def wemoIdOf (list : WeDeviceList) (udn : CppString) : Option Int :=
  (list.listed.reverse.find? (cStr ·.udn = udn)).map WeDeviceInfo.wemoId

variable {list : WeDeviceList} {udn : CppString}

theorem wemoIdOf_isSome_iff : (list.wemoIdOf udn).isSome = true ↔ list.Lists udn := by
  rw [wemoIdOf, Option.isSome_map, List.find?_isSome]
  simp [Lists]

theorem wemoIdOf_eq_none_iff : list.wemoIdOf udn = none ↔ ¬ list.Lists udn := by
  rw [← wemoIdOf_isSome_iff, Bool.not_eq_true, Option.isSome_eq_false_iff, Option.isNone_iff_eq_none]

end WeDeviceList

/-- A caching loop puts the list on top of the cache. -/
theorem cacheItems_listed (cache : UdnCache) (list : WeDeviceList) {udn : CppString}
    (nonempty : udn ≠ []) :
    cacheItems cache list.listed udn = (list.wemoIdOf udn).or (cache udn) := by
  rw [cacheItems_apply, if_neg nonempty, WeDeviceList.wemoIdOf]

/-- No caching loop caches the empty UDN. -/
theorem cacheItems_nil (cache : UdnCache) (items : List WeDeviceInfo) :
    cacheItems cache items [] = cache [] := by
  rw [cacheItems_apply, if_pos rfl]

/-! ### The reference -/

section Reference

/-- What a UDN stands for: the wemo_id of its last occurrence in the most recently applied list that
has it. -/
def targetOf (applied : List WeDeviceList) (udn : CppString) : Option Int :=
  if udn = [] then none else (applied.find? (·.Lists udn)).bind (·.wemoIdOf udn)

/-- The list a command fetches and applies: none if a list applied before has its UDN. -/
def fetchedList (applied : List WeDeviceList) (command : Command) (answers : EngineAnswers) :
    Option WeDeviceList :=
  if command.udn ≠ [] ∧ ∃ list ∈ applied, list.Lists command.udn then none
  else answers.weListDevices

/-- The lists applied after one more call, most recent first. -/
def applyCall (applied : List WeDeviceList) : AdapterCall → List WeDeviceList
  | .discover _ none => applied
  | .discover _ (some list) => [list]
  | .send command answers => (fetchedList applied command answers).toList ++ applied

/-- **The lists applied since and including the last successful `Discover`**, or since the start,
most recent first. -/
def appliedLists (calls : List AdapterCall) : List WeDeviceList := calls.foldl applyCall []

variable {applied : List WeDeviceList} {list : WeDeviceList} {udn : CppString}

theorem targetOf_nil (udn : CppString) : targetOf [] udn = none := by
  unfold targetOf
  split <;> rfl

theorem targetOf_empty (applied : List WeDeviceList) : targetOf applied [] = none := if_pos rfl

/-- A list on top answers first. -/
theorem targetOf_cons (nonempty : udn ≠ []) (list : WeDeviceList) (applied : List WeDeviceList) :
    targetOf (list :: applied) udn = (list.wemoIdOf udn).or (targetOf applied udn) := by
  unfold targetOf
  rw [if_neg nonempty, if_neg nonempty, List.find?_cons]
  by_cases here : list.Lists udn
  · obtain ⟨wemoId, found⟩ := Option.isSome_iff_exists.mp
      (WeDeviceList.wemoIdOf_isSome_iff.mpr here)
    rw [decide_eq_true here, found]
    exact found
  · rw [decide_eq_false here, WeDeviceList.wemoIdOf_eq_none_iff.mpr here, Option.none_or]

/-- A UDN stands for a WeMo exactly if it is a UDN and some list applied has it. -/
theorem targetOf_isSome_iff :
    (targetOf applied udn).isSome = true ↔ udn ≠ [] ∧ ∃ list ∈ applied, list.Lists udn := by
  by_cases empty : udn = []
  · rw [empty, targetOf_empty]
    simp
  · induction applied with
    | nil => simp [targetOf_nil]
    | cons list rest ih =>
      rw [targetOf_cons empty, Option.isSome_or, Bool.or_eq_true, ih,
        WeDeviceList.wemoIdOf_isSome_iff]
      simp [empty]

end Reference

/-! ### The cache is the reference -/

/-- `we_init` as the call would find it. -/
def AdapterCall.weInit : AdapterCall → Bool
  | .discover weInit _ => weInit
  | .send _ answers => answers.weInit

/-- The engine is initialised when the call goes on after `EnsureEngineInitialized`. -/
def AdapterCall.EngineReady (adapter : Adapter) (call : AdapterCall) : Prop :=
  (adapter.ensureEngineInitialized call.weInit).initialized = true

instance (adapter : Adapter) (call : AdapterCall) : Decidable (call.EngineReady adapter) :=
  inferInstanceAs (Decidable (_ = _))

/-- The cache maps a UDN to what it stands for in the lists applied. -/
def Adapter.Resolves (adapter : Adapter) (applied : List WeDeviceList) : Prop :=
  ∀ udn, adapter.mUdnToWemoId udn = targetOf applied udn

section Refines

variable {adapter : Adapter} {applied : List WeDeviceList}

/-- A command misses in the cache exactly if no list applied has its UDN. -/
theorem Adapter.Resolves.hit_iff (resolves : adapter.Resolves applied) (udn : CppString) :
    adapter.mUdnToWemoId udn ≠ none ↔ udn ≠ [] ∧ ∃ list ∈ applied, list.Lists udn := by
  rw [resolves udn, ← Option.isSome_iff_ne_none, targetOf_isSome_iff]

/-- The list a command merges is the one the reference applies. -/
theorem Adapter.Resolves.merges_eq (resolves : adapter.Resolves applied) {command : Command}
    {answers : EngineAnswers} (ready : (AdapterCall.send command answers).EngineReady adapter) :
    adapter.merges command answers = fetchedList applied command answers := by
  have missed := not_congr (resolves.hit_iff command.udn)
  rw [not_ne_iff] at missed
  unfold Adapter.merges fetchedList
  by_cases hit : command.udn ≠ [] ∧ ∃ list ∈ applied, list.Lists command.udn
  · rw [if_pos hit, if_neg fun both => missed.mp both.2 hit]
  · rw [if_neg hit, if_pos ⟨ready, missed.mpr hit⟩]

/-- A merged list is on top. -/
theorem Adapter.Resolves.merge (resolves : adapter.Resolves applied) (list : WeDeviceList)
    (udn : CppString) :
    cacheItems adapter.mUdnToWemoId list.listed udn = targetOf (list :: applied) udn := by
  by_cases empty : udn = []
  · rw [empty, cacheItems_nil, resolves, targetOf_empty, targetOf_empty]
  · rw [cacheItems_listed _ _ empty, targetOf_cons empty, resolves]

/-- **Every call keeps the cache what the lists applied say.** -/
theorem Adapter.Resolves.perform (resolves : adapter.Resolves applied) {call : AdapterCall}
    (ready : call.EngineReady adapter) :
    (adapter.perform call).1.Resolves (applyCall applied call) := by
  cases call with
  | discover weInit weListDevices =>
    have runs : (adapter.ensureEngineInitialized weInit).initialized = true := ready
    unfold Adapter.perform Adapter.discover
    dsimp only
    rw [if_pos runs]
    cases weListDevices with
    | none => exact resolves
    | some list =>
      have empty : Adapter.Resolves { adapter with mUdnToWemoId := fun _ => none } [] :=
        fun udn => (targetOf_nil udn).symm
      exact fun udn => empty.merge list udn
  | send command answers =>
    have merged := resolves.merges_eq ready
    rcases adapter.call_cases command answers with ⟨nothing, same⟩ | ⟨list, fetched, cached⟩
    · rw [nothing] at merged
      rw [applyCall, ← merged]
      exact fun udn => (congrFun same udn).trans (resolves udn)
    · rw [fetched] at merged
      rw [applyCall, ← merged]
      exact fun udn => (congrFun cached udn).trans (resolves.merge list udn)

/-- **After any calls** the cache is what the lists applied say. -/
theorem run_resolves (calls : List AdapterCall) : ∀ {adapter : Adapter}
    {applied : List WeDeviceList}, adapter.Resolves applied →
      adapterMachine.Along (fun adapter call => call.EngineReady adapter) adapter calls →
      (adapterMachine.run adapter calls).Resolves (calls.foldl applyCall applied) := by
  induction calls with
  | nil => exact fun resolves _ => resolves
  | cons call rest ih =>
    intro adapter applied resolves ready
    exact ih (resolves.perform ready.1) ready.2

end Refines

/-! ### What a command does -/

section Commands

variable {adapter : Adapter} {applied : List WeDeviceList} {command : Command}
  {answers : EngineAnswers}

/-- **A command sends to what its UDN stands for** once its own list is applied, and returns whether
it sent and the engine accepted. -/
theorem Adapter.Resolves.call_eq (resolves : adapter.Resolves applied)
    (ready : (AdapterCall.send command answers).EngineReady adapter) :
    (adapter.call command answers).2 =
      (.returned ((targetOf (applyCall applied (.send command answers)) command.udn).isSome &&
          answers.weSetAction),
        (targetOf (applyCall applied (.send command answers)) command.udn).toList.map
          command.sendState) := by
  have runs : (adapter.ensureEngineInitialized answers.weInit).initialized = true := ready
  have fetches := resolves.merges_eq ready
  have before := resolves command.udn
  rw [applyCall, ← fetches, Adapter.merges, Adapter.call_eq]
  dsimp only
  rw [if_pos runs]
  cases cached : adapter.mUdnToWemoId command.udn with
  | some wemoId =>
    rw [cached] at before
    simp only [reduceCtorEq, and_false, if_false, Option.toList_none, List.nil_append, ← before]
    simp
  | none =>
    rw [cached] at before
    rw [if_pos ⟨runs, rfl⟩]
    cases answers.weListDevices with
    | none => simp [← before]
    | some list =>
      have after := resolves.merge list command.udn
      rw [Option.toList_some, List.singleton_append, ← after]
      dsimp only
      rw [Adapter.lookupAndSend]
      dsimp only [Adapter.ensureEngineInitialized]
      cases cacheItems adapter.mUdnToWemoId list.listed command.udn with
      | none => rfl
      | some wemoId => simp

/-- Commands with one UDN have one target and leave one adapter behind. -/
theorem Adapter.call_sameTarget (adapter : Adapter) {command command' : Command}
    (sameUdn : command.udn = command'.udn) (answers : EngineAnswers) (accepts : Bool) :
    (adapter.call command answers).1 =
        (adapter.call command' { answers with weSetAction := accepts }).1 ∧
      (adapter.call command answers).2.2.map Action.wemoId =
        (adapter.call command' { answers with weSetAction := accepts }).2.2.map Action.wemoId := by
  rw [Adapter.call_eq, Adapter.call_eq, ← sameUdn]
  dsimp only
  split
  · cases adapter.mUdnToWemoId command.udn with
    | some wemoId => simp
    | none =>
      cases answers.weListDevices with
      | none => exact ⟨rfl, rfl⟩
      | some list =>
        dsimp only
        rw [Adapter.lookupAndSend, Adapter.lookupAndSend, ← sameUdn]
        refine ⟨rfl, ?_⟩
        split <;> simp
  · exact ⟨rfl, rfl⟩

/-- **A command meets its reference**: what it sends, returns and leaves in the cache, when these
lists were applied before it. -/
structure Command.MeetsReference (command : Command) (answers : EngineAnswers) (adapter : Adapter)
    (applied : List WeDeviceList) : Prop where
  atMostOne : (adapter.call command answers).2.2.length ≤ 1
  sends_iff : (adapter.call command answers).2.2 ≠ [] ↔ command.udn ≠ [] ∧
    ((∃ list ∈ applied, list.Lists command.udn) ∨
      ∃ list, answers.weListDevices = some list ∧ list.Lists command.udn)
  wemoId : ∀ action ∈ (adapter.call command answers).2.2, ∃ list,
    (applyCall applied (.send command answers)).find? (·.Lists command.udn) = some list ∧
      list.wemoIdOf command.udn = some action.wemoId
  returns : (adapter.call command answers).2.1 =
    .returned (!(adapter.call command answers).2.2.isEmpty && answers.weSetAction)
  hit : adapter.mUdnToWemoId command.udn ≠ none →
    (adapter.call command answers).1.mUdnToWemoId = adapter.mUdnToWemoId
  failed : answers.weListDevices = none →
    (adapter.call command answers).1.mUdnToWemoId = adapter.mUdnToWemoId

/-- The UDN is in a list applied before, or in the one the command fetches. -/
theorem exists_applyCall_iff (nonempty : command.udn ≠ []) :
    (∃ list ∈ applyCall applied (.send command answers), list.Lists command.udn) ↔
      (∃ list ∈ applied, list.Lists command.udn) ∨
        ∃ list, answers.weListDevices = some list ∧ list.Lists command.udn := by
  rw [applyCall, fetchedList]
  by_cases hit : ∃ list ∈ applied, list.Lists command.udn
  · rw [if_pos ⟨nonempty, hit⟩, Option.toList_none, List.nil_append]
    exact iff_of_true hit (Or.inl hit)
  · rw [if_neg fun both => hit both.2]
    cases answers.weListDevices with
    | none => simp
    | some list => simp [or_comm]

/-- **Every command meets its reference.** -/
theorem Adapter.Resolves.meetsReference (resolves : adapter.Resolves applied)
    (ready : (AdapterCall.send command answers).EngineReady adapter) :
    command.MeetsReference answers adapter applied := by
  have called := resolves.call_eq ready
  have sent := congrArg Prod.snd called
  refine ⟨?_, ?_, ?_, ?_, ?_, ?_⟩
  · rw [sent, List.length_map]
    cases targetOf _ command.udn with
    | none => exact Nat.zero_le 1
    | some wemoId => exact Nat.le_refl 1
  · have stands := @targetOf_isSome_iff (applyCall applied (.send command answers)) command.udn
    rw [sent, ← and_congr_right fun nonempty => exists_applyCall_iff nonempty, ← stands]
    cases targetOf _ command.udn with
    | none => simp
    | some wemoId => simp
  · intro action member
    rw [sent] at member
    obtain ⟨wemoId, stands, rfl⟩ := List.mem_map.mp member
    rw [Option.mem_toList, targetOf] at stands
    split at stands
    · cases stands
    · obtain ⟨list, first, last⟩ := Option.bind_eq_some_iff.mp stands
      exact ⟨list, first, by rw [last, Command.sendState_wemoId]⟩
  · rw [called]
    cases targetOf _ command.udn with
    | none => rfl
    | some wemoId => rfl
  · intro hit
    rcases adapter.call_cases command answers with ⟨-, same⟩ | ⟨list, merged, -⟩
    · exact same
    · rw [Adapter.merges, if_neg fun both => hit both.2] at merged
      cases merged
  · intro failed
    rcases adapter.call_cases command answers with ⟨-, same⟩ | ⟨list, merged, -⟩
    · exact same
    · rw [Adapter.merges, failed, ite_self] at merged
      cases merged

end Commands

/-- A failed listing leaves `Discover` without devices and the cache as it was. -/
theorem Adapter.discover_failed (adapter : Adapter) (weInit : Bool) :
    (adapter.discover weInit none).1.mUdnToWemoId = adapter.mUdnToWemoId ∧
      (adapter.discover weInit none).2 = [] := by
  unfold discover
  dsimp only
  split <;> exact ⟨rfl, rfl⟩

/-- **Target resolution meets its reference, and both commands share it.** After any calls with an
initialised engine, from an empty cache and with any lists: a further command sends at most one
`we_set_action`, sends one exactly if its UDN is not empty and is in a list applied since the last
successful `Discover` or in the list it fetches, sends it to the last occurrence of the UDN in the
most recently applied list that has it, returns true exactly if it sent and the engine accepted, and
keeps the cache on a hit and on a failed listing; a failed listing of `Discover` keeps it too; and
`SetOnOff` and `SetLevelPercent` with one UDN have one target and leave one cache. -/
theorem target_resolution {start : Adapter} (empty : ∀ udn, start.mUdnToWemoId udn = none)
    (calls : List AdapterCall)
    (ready : adapterMachine.Along (fun adapter call => call.EngineReady adapter) start calls) :
    (∀ command answers,
      (AdapterCall.send command answers).EngineReady (adapterMachine.run start calls) →
        command.MeetsReference answers (adapterMachine.run start calls) (appliedLists calls)) ∧
    (∀ weInit, ((adapterMachine.run start calls).discover weInit none).1.mUdnToWemoId =
      (adapterMachine.run start calls).mUdnToWemoId) ∧
    ∀ udn on percent answers accepts,
      let switched := (adapterMachine.run start calls).call (.setOnOff udn on) answers
      let dimmed := (adapterMachine.run start calls).call (.setLevelPercent udn percent)
        { answers with weSetAction := accepts }
      switched.2.2.map Action.wemoId = dimmed.2.2.map Action.wemoId ∧
        switched.1.mUdnToWemoId = dimmed.1.mUdnToWemoId := by
  have resolves : (adapterMachine.run start calls).Resolves (appliedLists calls) :=
    run_resolves calls (fun udn => (empty udn).trans (targetOf_nil udn).symm) ready
  refine ⟨fun command answers readyNow => resolves.meetsReference readyNow,
    fun weInit => ((adapterMachine.run start calls).discover_failed weInit).1, ?_⟩
  intro udn on percent answers accepts
  have sameUdn : (Command.setOnOff udn on).udn = (Command.setLevelPercent udn percent).udn := rfl
  obtain ⟨same, target⟩ :=
    (adapterMachine.run start calls).call_sameTarget sameUdn answers accepts
  exact ⟨target, congrArg Adapter.mUdnToWemoId same⟩

/-! ### A UDN listed twice -/

/-- A list with the lamp under two wemo_ids and an item without a UDN, then a miss for the heater
that merges another list. -/
def duplicateCalls : List AdapterCall :=
  [.discover true (some (listOf [listedSocket 1 "uuid:Lamp", listedSocket 2 "",
      listedSocket 3 "uuid:Lamp"])),
    sampleSend "uuid:Heater" [listedSocket 4 "uuid:Heater"]]

/-- A command to the lamp goes to its last occurrence in the older list. -/
theorem target_resolution_sample :
    (Command.setOnOff (literal "uuid:Lamp") false).MeetsReference
        { weInit := true, weListDevices := none, weSetAction := true }
        (adapterMachine.run Adapter.fresh duplicateCalls) (appliedLists duplicateCalls) ∧
      targetOf (appliedLists duplicateCalls) (literal "uuid:Lamp") = some 3 := by
  refine ⟨(target_resolution (fun _ => rfl) duplicateCalls ⟨?_, ?_, trivial⟩).1 _ _ ?_, ?_⟩
  all_goals decide

end WemoBridge
