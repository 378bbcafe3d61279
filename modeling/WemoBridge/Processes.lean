/-
**The processes of the command line.**

`main` as a whole: what it prints, what it tells the engine and, for `list`, its calls of
`GetOrAssign`, one for each device. Any number of processes share one database; their SQL statements
interleave in any order, any of them may fail, and a process may be killed anywhere.

* `CliResult.Fits`: what a process comes to by its arguments and its engine alone;
* `safe_processes`: processes are safe to run together wherever calls of the registry are, and every
  endpoint they list is one that a call returned;
* `processes_fit`: a process that ends fits, whatever fails, and ends by no exception;
* `listings_agree`: if no `COMMIT` fails, the lines of all listings together give one UDN one
  endpoint, and two UDNs two.
-/

import WemoBridge.CommandLine
import WemoBridge.RegistryNumbers
import WemoBridge.Resolution

namespace WemoBridge

open Library
open Library.Transaction
open EndpointRegistry (Sql Outcome Tables Udn Request schema getOrAssign mayFail anyMayFail)

/-! ### The program -/

/-- What `main` prints, one statement of the source each. -/
inductive Printed where
  | usage (bin : CppString)
  | discoveredDevices (count : Nat)
  | device (device : WemoDevice) (endpointId : Option EndpointId)
  | invalidLevelPercent (level : CppString)
  | ok (cmd udn : CppString) (percent : Option Int)
  | failed (cmd udn : CppString) (percent : Option Int)
  deriving DecidableEq, Repr

/-- A process that has returned from `main`. -/
structure CliResult where
  exitCode : Int
  printed : List Printed
  /-- the calls of `we_set_action` -/
  actions : List Action
  deriving DecidableEq, Repr

/-- The loop of `list`; there is no result if a `GetOrAssign` throws. -/
def listDevices : List WemoDevice → Sql (Option (List Printed)) :=
  Program.collect fun device => do
    match ← getOrAssign device.udn with
    | .returned endpointId => return some (.device device endpointId)
    | .threw => return none

/-- `PrintUsage`, and the end of `main`. -/
def printUsage (bin : CppString) : CliResult :=
  { exitCode := 1, printed := [.usage bin], actions := [] }

/-- The end of a command, after its call of the adapter. -/
def commandResult (cmd udn : CppString) (percent : Option Int)
    (called : Adapter × Phase × List Action) : CliResult :=
  if called.2.1 = .returned true then
    { exitCode := 0, printed := [.ok cmd udn percent], actions := called.2.2 }
  else { exitCode := 1, printed := [.failed cmd udn percent], actions := called.2.2 }

/-- `main` with what it prints and its calls of the registry; no result if an exception ends it. -/
def mainWithRegistry (argv : List CppString) (answers : EngineAnswers) : Sql (Option CliResult) :=
  if argv.length ≤ 1 ∨ argv[1]? = some (literal "list") then do
    let devices := (Adapter.fresh.discover answers.weInit answers.weListDevices).2
    match ← listDevices devices with
    | none => return none
    | some lines =>
      return some
        { exitCode := 0, printed := .discoveredDevices devices.length :: lines, actions := [] }
  else
    match argv with
    | [bin, cmd, udn] =>
      if cmd = literal "set-on" ∨ cmd = literal "set-off" then
        return some (commandResult cmd udn none
          (Adapter.fresh.call (.setOnOff udn (cmd = literal "set-on")) answers))
      else return some (printUsage bin)
    | [bin, cmd, udn, level] =>
      if cmd = literal "set-level" then
        match parsePercent level with
        | none =>
          return some { exitCode := 1, printed := [.invalidLevelPercent level], actions := [] }
        | some percent =>
          return some (commandResult cmd udn (some percent)
            (Adapter.fresh.call (.setLevelPercent udn (UInt8.ofInt percent)) answers))
      else return some (printUsage bin)
    | _ => return some (printUsage (argv.headD []))

/-- A process: its arguments, and what the engine answers it. -/
structure Invocation where
  argv : List CppString
  answers : EngineAnswers

/-- What a process does with the database. -/
def Invocation.code (invocation : Invocation) : Sql (Option CliResult) :=
  mainWithRegistry invocation.argv invocation.answers

/-- The processes running on one database, some statements of which may fail. -/
abbrev processes (mayFail : Op schema → Bool) :
    Machine (System schema Invocation (Option CliResult)) (SystemInput Invocation) Unit :=
  systemMachine Invocation.code mayFail

/-- No process has run yet. -/
abbrev noProcess : System schema Invocation (Option CliResult) := System.initial Tables.empty

/-- A process has come to its end: it has returned from `main`, or an exception has ended it. -/
def HasEnded (system : System schema Invocation (Option CliResult)) (process : Nat)
    (invocation : Invocation) (result : Option CliResult) : Prop :=
  ∃ session, system.sessions[process]? = some session ∧ session.request = invocation ∧
    session.program = some (.pure result)

/-! ### What a process comes to -/

namespace Invocation

/-- The process lists. -/
def Lists (invocation : Invocation) : Prop :=
  invocation.argv.length ≤ 1 ∨ invocation.argv[1]? = some (literal "list")

instance (invocation : Invocation) : Decidable invocation.Lists :=
  inferInstanceAs (Decidable (_ ∨ _))

/-- The devices of the engine's list, if the engine is up and gives one. -/
def devices (invocation : Invocation) : List WemoDevice :=
  match invocation.answers.weInit, invocation.answers.weListDevices with
  | true, some list => list.listed.map wemoDeviceOf
  | _, _ => []

/-- The WeMo a UDN stands for in the engine's list, if the engine is up and gives one. -/
def wemoIdFor (invocation : Invocation) (udn : CppString) : Option Int :=
  match invocation.answers.weInit, invocation.answers.weListDevices with
  | true, some list => targetOf [list] udn
  | _, _ => none

/-- The command of the process reaches a WeMo, and the engine takes it. -/
def Reaches (invocation : Invocation) : Prop :=
  ∃ command, commandOf invocation.argv = some command ∧
    (invocation.wemoIdFor command.udn).isSome = true ∧ invocation.answers.weSetAction = true

/-- What the process tells the engine. -/
def actions (invocation : Invocation) : List Action :=
  (commandOf invocation.argv).toList.flatMap fun command =>
    (invocation.wemoIdFor command.udn).toList.map fun wemoId => command.sendState wemoId

end Invocation

/-- The device of a line of `list`, with the endpoint printed. -/
def Printed.listed? : Printed → Option (WemoDevice × Option EndpointId)
  | .device listed endpointId => some (listed, endpointId)
  | _ => none

/-- The devices listed, with the endpoints printed. -/
def CliResult.listing (finished : CliResult) : List (WemoDevice × Option EndpointId) :=
  finished.printed.filterMap Printed.listed?

/-- **What a process comes to**: `list` prints the number of the engine's devices and a line for
each, in their order, and succeeds; a command succeeds exactly if its UDN stands for a WeMo that the
engine takes it for, and is given to the engine once if its UDN stands for a WeMo at all; everything
else fails, and nothing else is given to the engine. -/
structure CliResult.Fits (finished : CliResult) (invocation : Invocation) : Prop where
  exits : finished.exitCode = 0 ∨ finished.exitCode = 1
  succeeds : finished.exitCode = 0 ↔ invocation.Lists ∨ invocation.Reaches
  actions : finished.actions = invocation.actions
  devices : finished.listing.map Prod.fst = if invocation.Lists then invocation.devices else []
  lines : invocation.Lists → finished.printed =
    .discoveredDevices invocation.devices.length ::
      finished.listing.map fun line => .device line.1 line.2
  message : ¬ invocation.Lists → finished.printed.length = 1

/-! ### The engine's part -/

section Engine

variable (invocation : Invocation)

theorem Invocation.discover_eq :
    (Adapter.fresh.discover invocation.answers.weInit invocation.answers.weListDevices).2 =
      invocation.devices := by
  unfold Invocation.devices Adapter.discover Adapter.ensureEngineInitialized
  cases invocation.answers.weInit with
  | false => rfl
  | true => cases invocation.answers.weListDevices <;> rfl

/-- A command of a new process always fetches a list, and looks its UDN up in that list only. -/
theorem Invocation.call_eq (command : Command) :
    (Adapter.fresh.call command invocation.answers).2 =
      match invocation.wemoIdFor command.udn with
      | some wemoId => (.returned invocation.answers.weSetAction, [command.sendState wemoId])
      | none => (.returned false, []) := by
  have empty : Adapter.fresh.Resolves [] := fun udn => (targetOf_nil udn).symm
  rw [Adapter.call_eq]
  unfold Invocation.wemoIdFor Adapter.ensureEngineInitialized
  cases invocation.answers.weInit with
  | false => rfl
  | true =>
    cases invocation.answers.weListDevices with
    | none => rfl
    | some list =>
      have looked : cacheItems (fun _ => none) list.listed command.udn =
          targetOf [list] command.udn := empty.merge list command.udn
      cases found : targetOf [list] command.udn <;>
        simp [Adapter.fresh, Adapter.lookupAndSend, looked, found]

variable {invocation}

/-- `list` is no command. -/
theorem Invocation.Lists.commandOf_eq (lists : invocation.Lists) :
    commandOf invocation.argv = none := by
  have noSwitch : ¬ (literal "list" = literal "set-on" ∨ literal "list" = literal "set-off") := by
    decide
  have noLevel : ¬ literal "list" = literal "set-level" := by decide
  obtain ⟨argv, answers⟩ := invocation
  rcases argv with _ | ⟨bin, _ | ⟨cmd, rest⟩⟩
  · rfl
  · rfl
  · rcases lists with short | named
    · exact absurd short (by simp)
    · obtain rfl : cmd = literal "list" := Option.some.inj named
      rcases rest with _ | ⟨udn, _ | ⟨level, _ | ⟨more, rest⟩⟩⟩
      · rfl
      · rw [commandOf, if_neg noSwitch]
      · rw [commandOf, if_neg noLevel]
      · rfl

/-- **What `main` comes to in a new process.** -/
theorem main_fresh (invocation : Invocation) :
    let ended := (main invocation.argv invocation.answers Adapter.fresh).2
    (ended.1 = 0 ∨ ended.1 = 1) ∧ (ended.1 = 0 ↔ invocation.Lists ∨ invocation.Reaches) ∧
      ended.2 = invocation.actions := by
  unfold main Invocation.actions Invocation.Reaches
  by_cases lists : invocation.Lists
  · rw [if_pos (show _ ∨ _ from lists), lists.commandOf_eq]
    exact ⟨Or.inl rfl, by simp [lists], rfl⟩
  · rw [if_neg (show ¬ (_ ∨ _) from lists)]
    cases given : commandOf invocation.argv with
    | none => simp [lists]
    | some command =>
      dsimp only
      rw [invocation.call_eq command]
      cases found : invocation.wemoIdFor command.udn with
      | none => simp [lists, found]
      | some wemoId => cases taken : invocation.answers.weSetAction <;> simp [lists, found]

end Engine

/-! ### The registry's part -/

section Registry

variable {inv : Tables → Prop} {grows : Tables → Tables → Prop} {mayFail : Op schema → Bool}
  {post : Request → Outcome → Tables → Prop}

/-- A line shows what a call for the UDN of its device returned. -/
def Shows (post : Request → Outcome → Tables → Prop) (device : WemoDevice)
    (endpointId : Option EndpointId) (tables : Tables) : Prop :=
  ∃ udn : Udn, udn.1 = device.udn ∧ post (.getOrAssign udn) (.returned endpointId) tables

/-- A process ends as it should, with what the calls returned, unless a call throws. -/
def Ends (post : Request → Outcome → Tables → Prop) (invocation : Invocation)
    (result : Option CliResult) (tables : Tables) : Prop :=
  result.elim (∃ request before, post request .threw before) fun finished =>
    finished.Fits invocation ∧ ∀ line ∈ finished.listing, Shows post line.1 line.2 tables

theorem Shows.later (safe : Safe Request.code mayFail inv grows post) {device : WemoDevice}
    {endpointId : Option EndpointId} {before after : Tables}
    (shows : Shows post device endpointId before) (extends_ : grows before after) :
    Shows post device endpointId after := by
  obtain ⟨udn, same, returned⟩ := shows
  exact ⟨udn, same, safe.stable _ _ _ _ extends_ returned⟩

/-- **The loop of `list`**: a line for every device, with what its call returned. -/
theorem wp_listDevices (safe : Safe Request.code mayFail inv grows post)
    {devices : List WemoDevice} (nulFree : ∀ device ∈ devices, NulFree device.udn)
    {committed : Tables} (keeps : inv committed) :
    Program.wp (shared inv grows mayFail)
      (fun lines after => lines.elim
        (after.own = none ∧ ∃ request before, post request .threw before)
        fun lines => lines.length = devices.length ∧ after.own = none ∧ inv after.committed ∧
          ∀ entry ∈ devices.zip lines, ∃ endpointId, entry.2 = .device entry.1 endpointId ∧
            Shows post entry.1 endpointId after.committed)
      (listDevices devices) { committed := committed, own := none } := by
  refine Program.wp_collect
    (fun done (view : View schema) => view.own = none ∧ inv view.committed ∧ ∀ entry ∈ done,
      ∃ endpointId, entry.2 = Printed.device entry.1 endpointId ∧
        Shows post entry.1 endpointId view.committed)
    (fun view => view.own = none ∧ ∃ request before, post request .threw before)
    devices ?_ [] _ ⟨rfl, keeps, fun _ member => by cases member⟩
  rintro done device ⟨before, own⟩ member ⟨idle, keeps, shown⟩
  obtain rfl : own = none := idle
  let udn : Udn := ⟨device.udn, nulFree device member⟩
  have call := wp_later safe.refl safe.trans _ _ keeps (safe.safe (.getOrAssign udn) before keeps)
  refine (Program.wp_bind _ _ _).mpr (Program.wp_mono ?_ _ _ call)
  rintro outcome after ⟨⟨released, returned⟩, keepsAfter, extends_⟩
  cases outcome with
  | threw => exact ⟨released, _, _, returned⟩
  | returned endpointId =>
    refine ⟨released, keepsAfter, fun entry entryMember => ?_⟩
    rcases List.mem_append.mp entryMember with earlier | last
    · obtain ⟨id, line, shows⟩ := shown entry earlier
      exact ⟨id, line, shows.later safe extends_⟩
    · obtain rfl := List.mem_singleton.mp last
      exact ⟨endpointId, rfl, udn, rfl, returned⟩

/-- Lines that belong to the devices list them in their order, each device with its line. -/
theorem listed_of_zip {devices : List WemoDevice} : ∀ {lines : List Printed},
    lines.length = devices.length →
    (∀ entry ∈ devices.zip lines, ∃ endpointId, entry.2 = Printed.device entry.1 endpointId) →
      (lines.filterMap Printed.listed?).map Prod.fst = devices ∧
        lines = (lines.filterMap Printed.listed?).map (fun line => .device line.1 line.2) ∧
        ∀ line ∈ lines.filterMap Printed.listed?,
          (line.1, Printed.device line.1 line.2) ∈ devices.zip lines := by
  induction devices with
  | nil =>
    intro lines sameLength _
    obtain rfl := List.length_eq_zero_iff.mp sameLength
    exact ⟨rfl, rfl, fun line member => by cases member⟩
  | cons device devices ih =>
    intro lines sameLength belong
    obtain ⟨line, rest, rfl⟩ := List.exists_cons_of_length_eq_add_one sameLength
    obtain ⟨endpointId, rfl⟩ : ∃ endpointId, line = .device device endpointId :=
      belong (device, line) List.mem_cons_self
    obtain ⟨first, second, third⟩ := ih (Nat.succ.inj sameLength)
      fun entry member => belong entry (List.mem_cons_of_mem _ member)
    refine ⟨congrArg (device :: ·) first, congrArg (_ :: ·) second, fun line member => ?_⟩
    rcases List.mem_cons.mp
      (show line ∈ (device, endpointId) :: rest.filterMap _ from member) with rfl | later
    · exact List.mem_cons_self
    · exact List.mem_cons_of_mem _ (third line later)

/-- The end of a command agrees with `main`, and prints one message. -/
theorem commandResult_fits (cmd udn : CppString) (percent : Option Int)
    (called : Adapter × Phase × List Action) :
    let finished := commandResult cmd udn percent called
    (finished.exitCode, finished.actions) =
        (if called.2.1 = .returned true then 0 else 1, called.2.2) ∧
      finished.listing = [] ∧ finished.printed.length = 1 := by
  unfold commandResult
  split <;> exact ⟨rfl, rfl, rfl⟩

/-- **A process that does not list** leaves the database alone and does what `main` does. -/
theorem code_of_not_lists {invocation : Invocation} (notLists : ¬ invocation.Lists) :
    ∃ finished, invocation.code = pure (some finished) ∧
      (finished.exitCode, finished.actions) =
        (main invocation.argv invocation.answers Adapter.fresh).2 ∧
      finished.listing = [] ∧ finished.printed.length = 1 := by
  obtain ⟨argv, answers⟩ := invocation
  unfold Invocation.code mainWithRegistry main
  rw [if_neg (show ¬ (_ ∨ _) from notLists), if_neg (show ¬ (_ ∨ _) from notLists)]
  have usage : ∀ bin, ∃ finished, (pure (some (printUsage bin)) : Sql (Option CliResult)) =
      pure (some finished) ∧
        (finished.exitCode, finished.actions) = ((1, []) : Int × List Action) ∧
        finished.listing = [] ∧ finished.printed.length = 1 :=
    fun bin => ⟨printUsage bin, rfl, rfl, rfl, rfl⟩
  rcases argv with _ | ⟨bin, _ | ⟨cmd, _ | ⟨udn, _ | ⟨level, _ | ⟨more, rest⟩⟩⟩⟩⟩
  · exact usage _
  · exact usage _
  · exact usage _
  · rw [commandOf]
    dsimp only
    by_cases switch : cmd = literal "set-on" ∨ cmd = literal "set-off"
    · rw [if_pos switch, if_pos switch]
      exact ⟨_, rfl, commandResult_fits _ _ _ _⟩
    · rw [if_neg switch, if_neg switch]
      exact usage _
  · rw [commandOf]
    dsimp only
    by_cases dim : cmd = literal "set-level"
    · rw [if_pos dim, if_pos dim]
      cases parsePercent level with
      | none => exact ⟨_, rfl, rfl, rfl, rfl⟩
      | some percent => exact ⟨_, rfl, commandResult_fits _ _ _ _⟩
    · rw [if_neg dim, if_neg dim]
      exact usage _
  · exact usage _

theorem nulFree_cStr (s : CppString) : NulFree (cStr s) :=
  fun member => by simpa using List.mem_takeWhile_imp member

/-- The UDNs of discovered devices are C strings. -/
theorem Invocation.nulFree_devices (invocation : Invocation) :
    ∀ device ∈ invocation.devices, NulFree device.udn := by
  intro device member
  unfold Invocation.devices at member
  split at member
  · obtain ⟨info, -, rfl⟩ := List.mem_map.mp member
    exact nulFree_cStr info.udn
  · cases member

/-- **`main` of a process ends as it should**, with what its calls returned. -/
theorem wp_mainWithRegistry (safe : Safe Request.code mayFail inv grows post)
    (invocation : Invocation) {committed : Tables} (keeps : inv committed) :
    Program.wp (shared inv grows mayFail) (final (Ends post invocation)) invocation.code
      { committed := committed, own := none } := by
  have engine := main_fresh invocation
  by_cases lists : invocation.Lists
  · unfold Invocation.code mainWithRegistry
    rw [if_pos (show _ ∨ _ from lists)]
    dsimp only
    rw [invocation.discover_eq]
    have loop := wp_listDevices safe invocation.nulFree_devices keeps
    refine (Program.wp_bind _ _ _).mpr (Program.wp_mono ?_ _ _ loop)
    intro result after ended
    cases result with
    | none => exact ended
    | some lines =>
      obtain ⟨sameLength, released, -, shown⟩ := ended
      have belong := fun entry member => (shown entry member).imp fun _ both => both.1
      obtain ⟨devices, listed, paired⟩ := listed_of_zip sameLength belong
      refine ⟨released, ⟨Or.inl rfl, by simp [lists], ?_, ?_, ?_, ?_⟩, fun line member => ?_⟩
      · show [] = invocation.actions
        rw [Invocation.actions, lists.commandOf_eq]
        rfl
      · rw [if_pos lists]
        exact devices
      · exact fun _ => congrArg (_ :: ·) listed
      · exact fun notLists => absurd lists notLists
      · obtain ⟨endpointId, same, shows⟩ := shown _ (paired line member)
        obtain rfl := (Printed.device.inj same).2
        exact shows
  · obtain ⟨finished, ends, same, noLines, oneMessage⟩ := code_of_not_lists lists
    rw [ends]
    obtain ⟨exitCode, actions⟩ := Prod.mk.inj same
    refine ⟨rfl, ⟨?_, ?_, ?_, ?_, fun lists' => absurd lists' lists, fun _ => oneMessage⟩,
      fun line member => ?_⟩
    · rw [exitCode]
      exact engine.1
    · rw [exitCode]
      exact engine.2.1
    · rw [actions]
      exact engine.2.2
    · rw [noLines, if_neg lists]
      rfl
    · rw [noLines] at member
      cases member

/-- **Processes are safe to run together** wherever the calls of the registry are. -/
theorem safe_processes (safe : Safe Request.code mayFail inv grows post) :
    Safe Invocation.code mayFail inv grows (Ends post) where
  refl := safe.refl
  trans := safe.trans
  stable invocation result before after extends_ ends := by
    cases result with
    | none => exact ends
    | some finished =>
      exact ⟨ends.1, fun line member => (ends.2 line member).later safe extends_⟩
  safe invocation _ keeps := wp_mainWithRegistry safe invocation keeps

end Registry

/-! ### Every run -/

/-- A process that has ended, in a run on an initially empty database, any statement failing. -/
theorem HasEnded.ends {inputs : List (SystemInput Invocation)} {process : Nat}
    {invocation : Invocation} {result : Option CliResult}
    (ended : HasEnded ((processes anyMayFail).run noProcess inputs) process invocation result) :
    Ends (fun _ => EndpointRegistry.NumbersOnly) invocation result
      ((processes anyMayFail).run noProcess inputs).committed := by
  obtain ⟨session, found, rfl, ended⟩ := ended
  have safe := safe_processes EndpointRegistry.dense_calls
  have good := (System.good_run safe (System.good_initial Tables.dense_empty) inputs).1
  exact good.returned safe found ended

/-- **Every process that ends fits.** In every run of any number of processes on an initially empty
database, with their SQL statements interleaved in any order, any of them failing, `COMMIT`
included, and processes killed anywhere, a process that ends does so by returning from `main`, and
what it has printed, told the engine and exits with is what its arguments and its engine ask for.
The endpoints it lists are numbers of committed rows or the next number. -/
theorem processes_fit (inputs : List (SystemInput Invocation)) {process : Nat}
    {invocation : Invocation} {result : Option CliResult} :
    let now := (processes anyMayFail).run noProcess inputs
    HasEnded now process invocation result → ∃ finished, result = some finished ∧
      finished.Fits invocation ∧ ∀ line ∈ finished.listing, ∀ id, line.2 = some id →
        now.committed.HasNumbered id := by
  intro now ended
  have ends := ended.ends
  cases result with
  | none =>
    obtain ⟨_, _, threw⟩ := ends
    exact absurd rfl threw.1
  | some finished =>
    refine ⟨finished, rfl, ends.1, fun line member id shown => ?_⟩
    obtain ⟨_, -, numbers⟩ := ends.2 line member
    exact numbers.2 id (congrArg Outcome.returned shown)

/-- `list`, with an engine that lists the items. -/
def listProcess (items : List WeDeviceInfo) : Invocation where
  argv := [literal "wemo-bridge-app", literal "list"]
  answers := { weInit := true, weListDevices := some (listOf items), weSetAction := true }

/-- The lamp and the heater are listed, and after that the heater alone. -/
def twoListings : List (SystemInput Invocation) :=
  [.start (listProcess [listedSocket 1 "uuid:Lamp", listedSocket 2 "uuid:Heater"]),
      .start (listProcess [listedSocket 5 "uuid:Heater"])] ++
    List.replicate 26 (.operate 0 false) ++ List.replicate 7 (.operate 1 false)

/-- What is listed: every item with its endpoint. -/
def listedAs (lines : List (WeDeviceInfo × EndpointId)) : CliResult where
  exitCode := 0
  printed := .discoveredDevices lines.length ::
    lines.map fun line => .device (wemoDeviceOf line.1) (some line.2)
  actions := []

/-- The first listing numbers the lamp and the heater. -/
theorem processes_fit_sample :
    (listedAs [(listedSocket 1 "uuid:Lamp", 2), (listedSocket 2 "uuid:Heater", 3)]).Fits
      (listProcess [listedSocket 1 "uuid:Lamp", listedSocket 2 "uuid:Heater"]) := by
  obtain ⟨finished, same, fits, -⟩ := @processes_fit twoListings 0 _
    (some (listedAs [(listedSocket 1 "uuid:Lamp", 2), (listedSocket 2 "uuid:Heater", 3)]))
    ⟨_, rfl, rfl, rfl⟩
  exact Option.some.inj same ▸ fits

/-- **All listings agree.** In every run of any number of processes on an initially empty database,
with their SQL statements interleaved in any order, any of them but `COMMIT` failing and processes
killed anywhere: two lines of any listings that show endpoints show the same one exactly if they
show the same UDN. -/
theorem listings_agree (inputs : List (SystemInput Invocation)) {process process' : Nat}
    {invocation invocation' : Invocation} {finished finished' : CliResult} :
    let now := (processes mayFail).run noProcess inputs
    HasEnded now process invocation (some finished) →
    HasEnded now process' invocation' (some finished') →
      ∀ line ∈ finished.listing, ∀ line' ∈ finished'.listing, ∀ id id',
        line.2 = some id → line'.2 = some id' → (line.1.udn = line'.1.udn ↔ id = id') := by
  rintro now ⟨session, found, rfl, ended⟩ ⟨session', found', rfl, ended'⟩
  intro line member line' member' id id' shown shown'
  have safe := safe_processes EndpointRegistry.safe_calls
  have good := (System.good_run safe (System.good_initial Tables.good_empty) inputs).1
  obtain ⟨udn, same, answers⟩ := (good.returned safe found ended).2 line member
  obtain ⟨udn', same', answers'⟩ := (good.returned safe found' ended').2 line' member'
  have maps := answers id (congrArg Outcome.returned shown)
  have maps' := answers' id' (congrArg Outcome.returned shown')
  rw [← same, ← same']
  constructor
  · intro sameUdn
    rw [show udn = udn' from Subtype.ext sameUdn] at maps
    exact good.committed.id_unique maps maps'
  · rintro rfl
    exact good.committed.udn_unique maps maps'

/-- The second listing shows the heater as the first one does, and not as the lamp. -/
theorem listings_agree_sample :
    ∀ line ∈ (listedAs
        [(listedSocket 1 "uuid:Lamp", 2), (listedSocket 2 "uuid:Heater", 3)]).listing,
      ∀ line' ∈ (listedAs [(listedSocket 5 "uuid:Heater", 3)]).listing, ∀ id id',
        line.2 = some id → line'.2 = some id' → (line.1.udn = line'.1.udn ↔ id = id') :=
  @listings_agree twoListings 0 1 _ _ _ _ ⟨_, rfl, rfl, rfl⟩ ⟨_, rfl, rfl, rfl⟩

end WemoBridge
