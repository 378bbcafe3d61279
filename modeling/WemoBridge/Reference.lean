/-
**What the bridge is for: a list of reference lights.**

A `ReferenceLight` is a published light as a Matter controller knows it: an identity, a reachability,
a label, and an OnOff and a level with the last write to each. It has no table, no slot, no object on
a heap, no callback and no marker to clear. `ReferenceLight.step` says what it answers:

* a read gives the value of the attribute, if the size asked for is the attribute's;
* a write to a reachable light takes effect, reports what it changes and starts a command to the
  WeMo, but a level write is swallowed while an OnOff write settles or when its level is at most 1;
* an event sets the reachability and, online, whatever of OnOff and level no write settles.

A home is a list of such lights, each step for the first light that takes it. The bridge
`ApplicationInit` starts answers every ordered run as the home that the plan of its publish loop
describes (`bridge_refines_reference`). Left open are the two attributes that are the SDK's own,
the unique id and the configuration version.
-/

import WemoBridge.LevelGate
import WemoBridge.Reports

namespace WemoBridge

open Library
open Library.Settle (Entry Register Remembered)

variable {D : Type} [ChipSdk D]

/-! ### The reference light -/

/-- **A light as a controller knows it.** -/
structure ReferenceLight where
  endpoint : EndpointId
  wemoId : Int
  udn : CppString
  isDimmable : Bool
  isReachable : Bool
  nodeLabel : CppString
  onOff : Remembered Bool TimePoint
  level : Remembered UInt8 TimePoint
  deriving DecidableEq, Repr

namespace ReferenceLight

/-- The input is for this light. -/
def isFor (light : ReferenceLight) : Input → Bool
  | .write endpoint _ _ => endpoint = light.endpoint
  | .read endpoint _ _ => endpoint = light.endpoint
  | .event ctx => ctx.wemoId = light.wemoId

def declares (light : ReferenceLight) (cluster : Cluster) : Bool :=
  cluster ∈ (endpointTypeOf light.isDimmable).clusters

/-- The size of an attribute in bytes, and its value. -/
def attributeOf (D : Type) [ChipSdk D] (light : ReferenceLight) :
    AttributePath → Option (Nat × AttributeValue)
  | .onOff .onOff => some (1, .uint8 (if light.onOff.value then 1 else 0))
  | .onOff .clusterRevision => some (2, .uint16 4)
  | .levelControl .currentLevel => some (1, .uint8 light.level.value)
  | .levelControl .minLevel => some (1, .uint8 1)
  | .levelControl .maxLevel => some (1, .uint8 254)
  | .levelControl .clusterRevision => some (2, .uint16 6)
  | .levelControl .featureMap => some (4, .uint32 3)
  | .bridgedDeviceBasicInformation .reachable =>
      some (1, .uint8 (if light.isReachable then 1 else 0))
  | .bridgedDeviceBasicInformation .nodeLabel =>
      some (kNodeLabelSize,
        .bytes (ChipSdk.makeZclCharString D kNodeLabelSize (cStr light.nodeLabel)))
  | .bridgedDeviceBasicInformation .clusterRevision => some (2, .uint16 2)
  | .bridgedDeviceBasicInformation .featureMap => some (4, .uint32 0)
  | _ => none

def read (D : Type) [ChipSdk D] (light : ReferenceLight) (path : AttributePath)
    (maxReadLength : Nat) : Reply :=
  match light.attributeOf D path with
  | none => { status := .failure }
  | some (size, value) =>
      if maxReadLength = size then { status := .success, value := some value }
      else { status := .failure }

/-- What a reported attribute shows. -/
def shown (light : ReferenceLight) : ReportedAttribute → AttributeContent
  | .onOff => .flag light.onOff.value
  | .currentLevel => .level (if light.isDimmable then some light.level.value else none)
  | .reachable => .flag light.isReachable
  | .nodeLabel => .label light.nodeLabel

def report (light : ReferenceLight) (attr : ReportedAttribute) : Report :=
  { endpoint := light.endpoint, path := attr.path }

/-- The reports of what differs. -/
def changes (before after : ReferenceLight) : List Report :=
  ([.reachable, .onOff, .currentLevel, .nodeLabel] : List ReportedAttribute).flatMap fun attr =>
    if before.shown attr = after.shown attr then [] else [before.report attr]

/-- A change that takes effect, with the commands it starts. -/
def become (before after : ReferenceLight) (commands : List Command) : ReferenceLight × Reply :=
  (after, { status := .success, dispatched := commands, reported := before.changes after })

def write (D : Type) [ChipSdk D] (now : TimePoint) (light : ReferenceLight) (buffer : Buffer) :
    AttributePath → ReferenceLight × Reply
  | .onOff .onOff =>
      light.become { light with onOff := light.onOff.command now (decide (buffer 0 ≠ 0)) }
        [.setOnOff light.udn (decide (buffer 0 ≠ 0))]
  | .levelControl .currentLevel =>
      if (light.onOff.settling kCommandSettleWindow now).isSome ∨ buffer 0 ≤ 1 then
        (light, { status := .success })
      else
        light.become { light with level := light.level.command now (buffer 0) }
          [.setLevelPercent light.udn (wemoPercentOf (buffer 0))]
  | .bridgedDeviceBasicInformation .nodeLabel =>
      if (ChipSdk.fromZclString D buffer).length > kNodeLabelSize then
        (light, { status := .constraintError })
      else
        let renamed := { light with nodeLabel := cStr (ChipSdk.fromZclString D buffer) }
        (renamed,
          { status := .success
            reported := light.changes renamed ++ [light.report .nodeLabel] })
  | .bridgedDeviceBasicInformation _ => (light, { status := .unsupportedWrite })
  | _ => (light, { status := .failure })

def event (now : TimePoint) (light : ReferenceLight) (ctx : WemoEventContext) :
    ReferenceLight × Reply :=
  light.become
    { light with
      isReachable := ctx.isOnline
      onOff :=
        if ctx.isOnline then
          light.onOff.report kCommandSettleWindow now (decide (ctx.state ≠ 0))
        else light.onOff
      level :=
        if ctx.isOnline ∧ light.isDimmable ∧ ctx.level ≥ 0 then
          light.level.report kCommandSettleWindow now (matterLevelOf ctx.level)
        else light.level } []

/-- **What a light answers.** -/
def step (D : Type) [ChipSdk D] (now : TimePoint) (light : ReferenceLight) :
    Input → ReferenceLight × Reply
  | .write _ path buffer =>
      if light.declares path.cluster then
        if light.isReachable then light.write D now buffer path
        else (light, { status := .failure })
      else (light, { status := .unsupported })
  | .read _ path maxReadLength =>
      (light, if light.declares path.cluster then light.read D path maxReadLength
        else { status := .unsupported })
  | .event ctx => light.event now ctx

/-- The light of a discovered device. -/
def seed (D : Type) [ChipSdk D] (endpoint : EndpointId) (dev : WemoDevice) : ReferenceLight :=
  { endpoint := endpoint
    wemoId := dev.wemoId
    udn := dev.udn
    isDimmable := dev.supportsLevel
    isReachable := dev.isOnline
    nodeLabel := ChipSdk.storedName D (cStr (publishedName dev))
    onOff := { value := decide (dev.onoff ≠ 0), commanded := none }
    level := { value := if dev.supportsLevel then seedLevel dev.levelPercent else 0
               commanded := none } }

end ReferenceLight

/-- **The home of reference lights.** -/
def referenceMachine (D : Type) [ChipSdk D] :
    Machine (List ReferenceLight) (TimePoint × Input) Reply :=
  { step := Machine.firstTaker (fun light timed => light.isFor timed.2)
      (fun light timed => light.step D timed.1 timed.2) (fun timed =>
        Bridge.missedReply timed.2) }

/-- The home a plan describes: its devices in the order of their slots, under its ids. -/
def Plan.home (D : Type) [ChipSdk D] (plan : Plan) : List ReferenceLight :=
  plan.devices.mapIdx fun k dev => ReferenceLight.seed D (plan.ids k) dev

/-- Everything but the reads of what is the SDK's own. -/
def Input.isSpecified : Input → Bool
  | .read _ (.bridgedDeviceBasicInformation .uniqueId) _ => false
  | .read _ (.bridgedDeviceBasicInformation .configurationVersion) _ => false
  | _ => true

/-- Only a dimmer has a level, and no light a temperature. -/
theorem ReferenceLight.declares_levelControl (light : ReferenceLight) :
    light.declares .levelControl = light.isDimmable ∧
      light.declares .temperatureMeasurement = false := by
  unfold declares
  cases light.isDimmable <;> decide

/-! ### A light and its reference -/

/-- **A light shows its reference light**: the same identity and values, registers that refine the
eager ones, and the callbacks of `ApplicationInit`. -/
structure Light.Shows (now : TimePoint) (light : Light D) (reference : ReferenceLight) : Prop where
  sound : light.Sound
  wired : light.object.Wired
  endpoint : light.object.getEndpointId = reference.endpoint
  wemoId : light.entry.wemoId = reference.wemoId
  udn : light.entry.udn = reference.udn
  isDimmable : light.entry.isDimmable = reference.isDimmable
  isReachable : light.object.isReachable = reference.isReachable
  nodeLabel : light.object.getName = reference.nodeLabel
  onOff : Register.Refines kCommandSettleWindow now light.onOff reference.onOff
  level : Register.Refines kCommandSettleWindow now light.level reference.level

namespace Light.Shows

variable {now time : TimePoint} {light after : Light D} {reference : ReferenceLight}

theorem mono (shows : light.Shows now reference) (le : now ≤ time) :
    light.Shows time reference :=
  { shows with onOff := shows.onOff.mono le, level := shows.level.mono le }

theorem isOn (shows : light.Shows now reference) : light.object.isOn = reference.onOff.value :=
  shows.onOff.1

theorem getLevel (shows : light.Shows now reference) : light.object.getLevel =
    if reference.isDimmable then some reference.level.value else none := by
  have rightClass := shows.sound.dimmer
  have value : light.object.getLevel.getD 0 = reference.level.value := shows.level.1
  rw [shows.isDimmable] at rightClass
  rw [DeviceObject.getLevel] at value ⊢
  cases isDimmer : light.object.dimmer with
  | none =>
    rw [isDimmer] at rightClass
    simp [← rightClass]
  | some dimmer =>
    rw [isDimmer, Option.map_some, Option.getD_some] at value
    rw [isDimmer] at rightClass
    simp [← rightClass, ← value]

/-- Every reported attribute shows the same. -/
theorem content (shows : light.Shows now reference) (attr : ReportedAttribute) :
    attr.content light.object = reference.shown attr := by
  cases attr with
  | onOff => exact congrArg _ shows.isOn
  | currentLevel => exact congrArg _ shows.getLevel
  | reachable => exact congrArg _ shows.isReachable
  | nodeLabel => exact congrArg _ shows.nodeLabel

/-- What differs between two lights differs between their references. -/
theorem changeReports_eq {next : ReferenceLight} (shows : light.Shows now reference)
    (showsNext : after.Shows time next) :
    changeReports light.object after.object = reference.changes next := by
  have part : ∀ {unchanged : Prop} [Decidable unchanged] (attr : ReportedAttribute),
      (unchanged ↔ attr.content light.object = attr.content after.object) →
        reportUnless unchanged light.object attr.path =
          if reference.shown attr = next.shown attr then [] else [reference.report attr] := by
    intro unchanged _ attr same
    rw [shows.content, showsNext.content] at same
    unfold reportUnless scheduleReportingCallback ReferenceLight.report
    rw [shows.endpoint]
    by_cases holds : unchanged
    · rw [if_pos holds, if_pos (same.mp holds)]
    · rw [if_neg holds, if_neg (mt same.mpr holds)]
  have flags : ∀ {first second : Bool}, first = second ↔
      AttributeContent.flag first = AttributeContent.flag second := by simp
  simp only [changeReports, ReferenceLight.changes, List.flatMap_cons, List.flatMap_nil,
    List.append_nil, List.append_assoc]
  refine congrArg₂ _ (part .reachable flags) (congrArg₂ _ (part .onOff flags)
    (congrArg₂ _ (part .currentLevel ?_) (part .nodeLabel ?_)))
  · simp [ReportedAttribute.content]
  · simp [ReportedAttribute.content]

/-- A read of anything but what is the SDK's own. -/
theorem read_eq (shows : light.Shows now reference) {endpoint : EndpointId} {path : AttributePath}
    {maxReadLength : Nat} (specified : (Input.read endpoint path maxReadLength).isSpecified = true)
    (declared : reference.declares path.cluster = true) :
    light.read path maxReadLength = reference.read D path maxReadLength := by
  cases path with
  | onOff attributeId =>
    cases attributeId <;> simp [Light.read, handleReadOnOffAttribute, ReferenceLight.read,
      ReferenceLight.attributeOf, shows.isOn]
  | levelControl attributeId =>
    have dimmable : reference.isDimmable = true :=
      reference.declares_levelControl.1.symm.trans declared
    have level := shows.getLevel
    rw [dimmable, if_pos rfl, DeviceObject.getLevel] at level
    obtain ⟨dimmer, isDimmer, value⟩ := Option.map_eq_some_iff.mp level
    cases attributeId <;> simp [Light.read, isDimmer, handleReadLevelControlAttribute,
      ReferenceLight.read, ReferenceLight.attributeOf, value]
  | bridgedDeviceBasicInformation attributeId =>
    cases attributeId with
    | uniqueId => cases specified
    | configurationVersion => cases specified
    | nodeLabel =>
      by_cases size : maxReadLength = 32 <;> simp [Light.read,
        handleReadBridgedDeviceBasicAttribute, ReferenceLight.read, ReferenceLight.attributeOf,
        shows.nodeLabel, kNodeLabelSize, size]
    | _ => simp [Light.read, handleReadBridgedDeviceBasicAttribute, ReferenceLight.read,
        ReferenceLight.attributeOf, shows.isReachable]
  | temperatureMeasurement attributeId =>
    cases reference.declares_levelControl.2.symm.trans declared
  | other clusterId attributeId => rfl

/-! ### A step of a light is a step of its reference -/

/-- **The state after a step**: the registers follow their entries, the rest is looked up. -/
theorem next (shows : light.Shows now reference) (input : Input) {next : ReferenceLight}
    (identity : next.endpoint = reference.endpoint ∧ next.wemoId = reference.wemoId ∧
      next.udn = reference.udn ∧ next.isDimmable = reference.isDimmable)
    (isReachable : (light.step now input).1.object.isReachable = next.isReachable)
    (nodeLabel : (light.step now input).1.object.getName = next.nodeLabel)
    (onOff : next.onOff = reference.onOff.follow kCommandSettleWindow now
      (onOffEntry input (light.step now input).2))
    (level : next.level = reference.level.follow kCommandSettleWindow now
      (levelEntry reference.isDimmable input (light.step now input).2)) :
    (light.step now input).1.Shows now next := by
  obtain ⟨endpoint, wemoId, udn, isDimmable⟩ := identity
  have static := light.step_static now input
  have wiring := (Light.step_reporting now shows.wired shows.sound.dimmer input).wiring
  obtain ⟨onOffFollows, levelFollows⟩ := Light.step_follows now shows.sound input
  rw [shows.isDimmable] at levelFollows
  exact
    { sound := shows.sound.step now input
      wired := shows.wired.of_sameWiring wiring
      endpoint := (static.endpoint.trans shows.endpoint).trans endpoint.symm
      wemoId := (static.wemoId.trans shows.wemoId).trans wemoId.symm
      udn := (static.udn.trans shows.udn).trans udn.symm
      isDimmable := (static.isDimmable.trans shows.isDimmable).trans isDimmable.symm
      isReachable := isReachable
      nodeLabel := nodeLabel
      onOff := onOff ▸ shows.onOff.follow onOffFollows
      level := level ▸ shows.level.follow levelFollows }

/-- **The reports of a step** are those of the reference's changes. -/
theorem reported (shows : light.Shows now reference) {input : Input} {next : ReferenceLight}
    (showsNext : (light.step now input).1.Shows now next) :
    (light.step now input).2.reported = reference.changes next ++
      labelReports light.object input (light.step now input).2 := by
  rw [← shows.changeReports_eq showsNext]
  exact (Light.step_reporting now shows.wired shows.sound.dimmer input).reported

/-- The light answers as its reference and shows it afterwards. -/
structure Answers (now : TimePoint) (light : Light D) (reference : ReferenceLight)
    (input : Input) : Prop where
  reply : (light.step now input).2 = (reference.step D now input).2
  shows : (light.step now input).1.Shows now (reference.step D now input).1

/-- A step in which neither does anything. -/
theorem still (shows : light.Shows now reference) {input : Input} (reply : Reply)
    (stepEq : light.step now input = (light, reply))
    (referenceEq : reference.step D now input = (reference, reply)) :
    Answers now light reference input :=
  ⟨by rw [stepEq, referenceEq], by rw [stepEq, referenceEq]; exact shows⟩

/-- A step that takes effect. -/
theorem become (shows : light.Shows now reference) {input : Input} (next : ReferenceLight)
    {commands : List Command} {reports : List Report}
    (stepEq : (light.step now input).2 =
      { status := .success, dispatched := commands, reported := reports })
    (referenceEq : reference.step D now input = reference.become next commands)
    (noLabel : labelReports light.object input (light.step now input).2 = [])
    (showsNext : (light.step now input).1.Shows now next) :
    Answers now light reference input := by
  have reported := shows.reported showsNext
  rw [noLabel, List.append_nil, stepEq] at reported
  refine ⟨?_, ?_⟩
  · rw [stepEq, referenceEq, ReferenceLight.become, show reports = reference.changes next from reported]
  · rw [referenceEq]
    exact showsNext

theorem declares_eq (shows : light.Shows now reference) (cluster : Cluster) :
    light.declares cluster = reference.declares cluster := by
  rw [Light.declares, shows.isDimmable]
  rfl

/-- A write that reaches its handler. -/
theorem step_write (shows : light.Shows now reference) {path : AttributePath}
    (declared : reference.declares path.cluster = true) (reachable : reference.isReachable = true)
    (endpoint : EndpointId) (buffer : Buffer) :
    light.object.isReachable = true ∧
      light.step now (.write endpoint path buffer) = light.write now path buffer ∧
      reference.step D now (.write endpoint path buffer) = reference.write D now buffer path := by
  refine ⟨shows.isReachable.trans reachable, ?_, ?_⟩
  · rw [Light.step, shows.declares_eq, if_pos declared]
  · rw [ReferenceLight.step, if_pos declared, if_pos reachable]

/-- An OnOff write. -/
theorem writeOnOff (shows : light.Shows now reference)
    (declared : reference.declares .onOff = true) (reachable : reference.isReachable = true)
    (endpoint : EndpointId) (buffer : Buffer) :
    Answers now light reference (.write endpoint (.onOff .onOff) buffer) := by
  obtain ⟨isReachable, stepEq, referenceEq⟩ :=
    @step_write _ _ _ _ _ shows (.onOff .onOff) declared reachable endpoint buffer
  rw [Light.write, if_pos isReachable, Light.writeOnOff, if_pos ⟨rfl, isReachable⟩] at stepEq
  refine shows.become { reference with
    onOff := reference.onOff.command now (decide (buffer 0 ≠ 0)) } (congrArg Prod.snd stepEq) ?_ ?_ ?_
  · rw [referenceEq, shows.udn]
    rfl
  · exact Light.Reporting.labelReports_nil (Or.inl (by simp))
  · refine shows.next _ ⟨rfl, rfl, rfl, rfl⟩ ?_ ?_ ?_ ?_
    · rw [stepEq]
      exact (DeviceObject.setOnOff_isReachable _ _).trans shows.isReachable
    · rw [stepEq]
      exact (DeviceObject.setOnOff_getName _ _).trans shows.nodeLabel
    · rw [stepEq]
      rfl
    · rw [stepEq]
      rfl

/-- A level write: swallowed at the gate, or a command. -/
theorem writeLevel (shows : light.Shows now reference)
    (declared : reference.declares .levelControl = true) (reachable : reference.isReachable = true)
    (endpoint : EndpointId) (buffer : Buffer) :
    Answers now light reference (.write endpoint (.levelControl .currentLevel) buffer) := by
  obtain ⟨isReachable, stepEq, referenceEq⟩ :=
    @step_write _ _ _ _ _ shows (.levelControl .currentLevel) declared reachable endpoint buffer
  have level := shows.getLevel
  rw [reference.declares_levelControl.1.symm.trans declared, if_pos rfl, DeviceObject.getLevel]
    at level
  obtain ⟨dimmer, isDimmer, -⟩ := Option.map_eq_some_iff.mp level
  rw [Light.write, if_pos isReachable, isDimmer] at stepEq
  dsimp only at stepEq
  rw [Light.writeLevel_eq isReachable, shows.onOff.inspect_pending] at stepEq
  rw [ReferenceLight.write] at referenceEq
  by_cases closed : (reference.onOff.settling kCommandSettleWindow now).isSome ∨ buffer 0 ≤ 1
  · rw [if_pos closed] at stepEq referenceEq
    refine ⟨by rw [stepEq, referenceEq], ?_⟩
    rw [referenceEq]
    refine shows.next _ ⟨rfl, rfl, rfl, rfl⟩ ?_ ?_ ?_ ?_
    · rw [stepEq]
      exact shows.isReachable
    · rw [stepEq]
      exact shows.nodeLabel
    · rw [stepEq]
      rfl
    · rw [stepEq]
      rfl
  · rw [if_neg closed] at stepEq referenceEq
    refine shows.become { reference with
      level := reference.level.command now (buffer 0) } (congrArg Prod.snd stepEq) ?_ ?_ ?_
    · rw [referenceEq, shows.udn]
    · exact Light.Reporting.labelReports_nil (Or.inl (by simp))
    · refine shows.next _ ⟨rfl, rfl, rfl, rfl⟩ ?_ ?_ ?_ ?_
      · rw [stepEq]
        exact shows.isReachable
      · rw [stepEq]
        exact shows.nodeLabel
      · rw [stepEq]
        rfl
      · rw [stepEq]
        rfl

/-- What the bridge stores of an accepted label is the label. -/
theorem storedName_label (text : CppString) (short : text.length ≤ kNodeLabelSize) :
    ChipSdk.storedName D (cStr text) = cStr text :=
  ChipSdk.storedName_short _ (le_trans (List.takeWhile_sublist _).length_le short)

/-- A label write: refused if it is too long, and reported once more than it changes. -/
theorem writeLabel (shows : light.Shows now reference)
    (declared : reference.declares .bridgedDeviceBasicInformation = true)
    (reachable : reference.isReachable = true) (endpoint : EndpointId) (buffer : Buffer) :
    Answers now light reference
      (.write endpoint (.bridgedDeviceBasicInformation .nodeLabel) buffer) := by
  obtain ⟨isReachable, stepEq, referenceEq⟩ := @step_write _ _ _ _ _ shows
    (.bridgedDeviceBasicInformation .nodeLabel) declared reachable endpoint buffer
  rw [Light.write, if_pos isReachable, Light.writeBridgedDeviceBasic,
    if_neg (not_not_intro rfl)] at stepEq
  dsimp only at stepEq
  rw [ReferenceLight.write] at referenceEq
  by_cases long : (ChipSdk.fromZclString D buffer).length > kNodeLabelSize
  · rw [if_pos long] at stepEq referenceEq
    exact shows.still _ stepEq referenceEq
  · rw [if_neg long] at stepEq referenceEq
    have showsNext : (light.step now (.write endpoint (.bridgedDeviceBasicInformation .nodeLabel)
        buffer)).1.Shows now
          { reference with nodeLabel := cStr (ChipSdk.fromZclString D buffer) } := by
      refine shows.next _ ⟨rfl, rfl, rfl, rfl⟩ ?_ ?_ ?_ ?_
      · rw [stepEq]
        exact (DeviceObject.setName_isReachable _ _).trans shows.isReachable
      · rw [stepEq]
        exact (DeviceObject.setName_getName _ _).trans (storedName_label _ (not_lt.mp long))
      · rw [stepEq]
        rfl
      · rw [stepEq]
        rfl
    have reported := shows.reported showsNext
    refine ⟨?_, by rw [referenceEq]; exact showsNext⟩
    rw [stepEq] at reported ⊢
    rw [referenceEq]
    dsimp only at reported
    rw [reported]
    simp [labelReports, scheduleReportingCallback, ReferenceLight.report, shows.endpoint,
      ReportedAttribute.path]

/-- Any other write is refused. -/
theorem writeOther (shows : light.Shows now reference) {path : AttributePath}
    (declared : reference.declares path.cluster = true) (reachable : reference.isReachable = true)
    (other : path ≠ .onOff .onOff ∧ path ≠ .levelControl .currentLevel ∧
      path ≠ .bridgedDeviceBasicInformation .nodeLabel) (endpoint : EndpointId) (buffer : Buffer) :
    Answers now light reference (.write endpoint path buffer) := by
  obtain ⟨isReachable, stepEq, referenceEq⟩ := shows.step_write declared reachable endpoint buffer
  obtain ⟨notOnOff, notLevel, notLabel⟩ := other
  unfold Light.write at stepEq
  rw [if_pos isReachable] at stepEq
  cases path with
  | onOff attributeId =>
    have different : ¬ (attributeId = .onOff ∧ light.object.isReachable = true) := fun both =>
      notOnOff (congrArg _ both.1)
    dsimp only at stepEq
    rw [Light.writeOnOff, if_neg different] at stepEq
    refine shows.still _ stepEq (referenceEq.trans ?_)
    cases attributeId with
    | onOff => exact absurd rfl notOnOff
    | _ => rfl
  | levelControl attributeId =>
    have level := shows.getLevel
    rw [reference.declares_levelControl.1.symm.trans declared, if_pos rfl, DeviceObject.getLevel]
      at level
    obtain ⟨dimmer, isDimmer, -⟩ := Option.map_eq_some_iff.mp level
    have different : ¬ (attributeId = .currentLevel ∧ light.object.isReachable = true) := fun both =>
      notLevel (congrArg _ both.1)
    rw [isDimmer] at stepEq
    dsimp only at stepEq
    rw [Light.writeLevel, if_neg different] at stepEq
    refine shows.still _ stepEq (referenceEq.trans ?_)
    cases attributeId with
    | currentLevel => exact absurd rfl notLevel
    | _ => rfl
  | bridgedDeviceBasicInformation attributeId =>
    have different : attributeId ≠ .nodeLabel := fun same => notLabel (congrArg _ same)
    dsimp only at stepEq
    rw [Light.writeBridgedDeviceBasic, if_pos different] at stepEq
    refine shows.still _ stepEq (referenceEq.trans ?_)
    cases attributeId with
    | nodeLabel => exact absurd rfl notLabel
    | _ => rfl
  | temperatureMeasurement attributeId => exact shows.still _ stepEq referenceEq
  | other clusterId attributeId => exact shows.still _ stepEq referenceEq

/-- What an event leaves alone, and the form of its answer. -/
theorem event_frame (light : Light D) (now : TimePoint) (ctx : WemoEventContext)
    (rightClass : light.object.dimmer.isSome = light.entry.isDimmable) :
    (light.event now ctx).1.object.getName = light.object.getName ∧
      ∃ reports, (light.event now ctx).2 = { status := .success, reported := reports } := by
  have reachedName : (reached ctx light.object).1.getName = light.object.getName := by
    unfold reached
    split
    · exact DeviceObject.setReachable_getName _ _
    · rfl
  have switchedName : (handleEventOnOff now ctx light.entry
      (reached ctx light.object).1).2.1.getName = light.object.getName := by
    rcases Light.handleEventOnOff_object now ctx light.entry (reached ctx light.object).1 with
      same | ⟨on, switched⟩
    · rw [same]
      exact reachedName
    · rw [switched]
      exact (DeviceObject.setOnOff_getName _ _).trans reachedName
  have dimmedName : ∀ (entry : BridgedWemoLight) (dev : DeviceObject D) (dimmer : Dimmer),
      (handleEventLevel now ctx entry dev dimmer).2.1.getName = dev.getName := by
    intro entry dev dimmer
    unfold handleEventLevel
    dsimp only
    split <;> rfl
  rcases light.event_cases now ctx rightClass with ⟨-, eq⟩ | ⟨-, ⟨-, eq⟩ | ⟨-, -, dimmer, -, eq⟩⟩
  · exact ⟨by rw [eq]; exact reachedName, _, by rw [eq]⟩
  · exact ⟨by rw [eq]; exact switchedName, _, by rw [eq]⟩
  · exact ⟨by rw [eq]; exact (dimmedName _ _ _).trans switchedName, _, by rw [eq]⟩

/-- An event. -/
theorem event (shows : light.Shows now reference) (ctx : WemoEventContext) :
    Answers now light reference (.event ctx) := by
  obtain ⟨name, reports, replied⟩ := event_frame light now ctx shows.sound.dimmer
  refine shows.become _ replied rfl rfl (shows.next _ ⟨rfl, rfl, rfl, rfl⟩
    (light.event_isReachable now ctx shows.sound.dimmer) (name.trans shows.nodeLabel) ?_ ?_)
  · show (if ctx.isOnline = true then _ else _) = Remembered.follow _ _ _ (if _ then _ else none)
    split <;> rfl
  · show (if _ then _ else _) = Remembered.follow _ _ _ (if _ then _ else none)
    split <;> rfl

/-- **A light answers every specified input as its reference light, and shows it afterwards.** -/
theorem answers (shows : light.Shows now reference) {input : Input}
    (specified : input.isSpecified = true) : Answers now light reference input := by
  cases input with
  | write endpoint path buffer =>
    by_cases declared : reference.declares path.cluster = true
    · by_cases reachable : reference.isReachable = true
      · by_cases onOff : path = .onOff .onOff
        · subst onOff
          exact shows.writeOnOff declared reachable endpoint buffer
        · by_cases level : path = .levelControl .currentLevel
          · subst level
            exact shows.writeLevel declared reachable endpoint buffer
          · by_cases label : path = .bridgedDeviceBasicInformation .nodeLabel
            · subst label
              exact shows.writeLabel declared reachable endpoint buffer
            · exact shows.writeOther declared reachable ⟨onOff, level, label⟩ endpoint buffer
      · refine shows.still { status := .failure } ?_ ?_
        · rw [Light.step, shows.declares_eq, if_pos declared]
          unfold Light.write
          rw [shows.isReachable, if_neg reachable]
        · rw [ReferenceLight.step, if_pos declared, if_neg reachable]
    · refine shows.still { status := .unsupported } ?_ ?_
      · rw [Light.step, shows.declares_eq, if_neg declared]
      · rw [ReferenceLight.step, if_neg declared]
  | read endpoint path maxReadLength =>
    refine shows.still _ rfl ?_
    rw [ReferenceLight.step, shows.declares_eq]
    by_cases declared : reference.declares path.cluster = true
    · rw [if_pos declared, if_pos declared, shows.read_eq specified declared]
    · rw [if_neg declared, if_neg declared]
  | event ctx => exact shows.event ctx

end Light.Shows

/-- A light as `ApplicationInit` leaves it shows the light of its device. -/
theorem Light.shows_seed (now : TimePoint) {object : DeviceObject D} {dev : WemoDevice}
    {endpoint : EndpointId} (seeded : object.SeededAs dev endpoint) (device : DevicePtr) :
    Light.Shows now ⟨newEntry dev device, object⟩ (ReferenceLight.seed D endpoint dev) where
  sound := by
    refine ⟨Or.inl rfl, ?_⟩
    show object.dimmer.isSome = dev.supportsLevel
    rw [seeded.dimmer]
    cases dev.supportsLevel <;> rfl
  wired := seeded.wired
  endpoint := seeded.endpoint
  wemoId := rfl
  udn := rfl
  isDimmable := rfl
  isReachable := seeded.isReachable
  nodeLabel := seeded.name
  onOff := by
    have start : Register.Refines kCommandSettleWindow now
        (onOffRegister (newEntry dev device) object) _ := Register.refines_start rfl
    rwa [show (onOffRegister (newEntry dev device) object).value = decide (dev.onoff ≠ 0) from
      seeded.isOn] at start
  level := by
    have start : Register.Refines kCommandSettleWindow now
        (levelRegister (newEntry dev device) object) _ := Register.refines_start rfl
    have value : (levelRegister (newEntry dev device) object).value =
        if dev.supportsLevel then seedLevel dev.levelPercent else 0 := by
      show (object.dimmer.map Dimmer.mLevel).getD 0 = _
      rw [seeded.dimmer]
      cases dev.supportsLevel <;> rfl
    rwa [value] at start

/-! ### The bridge and its home -/

namespace Bridge

/-- **The bridge shows a home**: its published lights in the order of its entries, each with the
reference light it shows. -/
structure ShowsHome (now : TimePoint) (bridge : Bridge D)
    (pairs : List (PublishedLight × ReferenceLight)) : Prop where
  published : bridge.Published
  entries : bridge.gBridgedWemoLights.map (fun entry => (entry.wemoId, entry.device)) =
    pairs.map fun pair => (pair.1.wemoId, pair.1.device)
  lights : ∀ pair ∈ pairs, bridge.Publishes pair.1 ∧
    ∃ light, bridge.lightAt pair.1.device = some light ∧ light.Shows now pair.2

namespace ShowsHome

variable {now time : TimePoint} {bridge : Bridge D}
  {pairs : List (PublishedLight × ReferenceLight)}

/-- Every published light is in the home. -/
theorem mem (shows : bridge.ShowsHome now pairs) {x : PublishedLight} (ofX : bridge.Publishes x) :
    ∃ pair ∈ pairs, pair.1 = x := by
  obtain ⟨light, found, -⟩ := ofX.light
  have entry := List.mem_of_find?_eq_some (lightAt_eq_some.mp found).1
  have listed : (light.entry.wemoId, light.entry.device) ∈
      pairs.map fun pair => (pair.1.wemoId, pair.1.device) := by
    rw [← shows.entries]
    exact List.mem_map_of_mem entry
  obtain ⟨pair, member, same⟩ := List.mem_map.mp listed
  refine ⟨pair, member, shows.published.eq_of_device (shows.lights pair member).1 ofX ?_⟩
  exact (congrArg Prod.snd same).trans (lightAt_device found)

/-- A reference light takes the inputs of its published light. -/
theorem isFor_eq (shows : bridge.ShowsHome now pairs) {pair : PublishedLight × ReferenceLight}
    (member : pair ∈ pairs) (input : Input) : pair.2.isFor input = input.isFor pair.1 := by
  obtain ⟨ofX, light, found, showsLight⟩ := shows.lights pair member
  have backs := ofX.backs found
  have endpoint : pair.2.endpoint = pair.1.endpoint := showsLight.endpoint.symm.trans backs.endpoint
  have wemoId : pair.2.wemoId = pair.1.wemoId := showsLight.wemoId.symm.trans backs.wemoId
  cases input with
  | write address path buffer => rw [ReferenceLight.isFor, endpoint, Input.isFor]
  | read address path maxReadLength => rw [ReferenceLight.isFor, endpoint, Input.isFor]
  | event ctx => rw [ReferenceLight.isFor, wemoId, Input.isFor]

/-- **The light a step finds is the first in the home that takes its input.** -/
theorem target_eq (shows : bridge.ShowsHome now pairs) (input : Input) :
    bridge.target input = (pairs.find? (·.2.isFor input)).map (·.1.device) := by
  rw [List.find?_congr fun pair member => shows.isFor_eq member input]
  have atEndpoint : ∀ endpoint : EndpointId,
      (bridge.dynamicIndex? endpoint).bind bridge.gDevices =
        (pairs.find? fun pair => endpoint = pair.1.endpoint).map (·.1.device) := by
    intro endpoint
    cases found : pairs.find? fun pair => endpoint = pair.1.endpoint with
    | none =>
      cases index : bridge.dynamicIndex? endpoint with
      | none => rfl
      | some k =>
        obtain ⟨x, ofX, -, same⟩ := shows.published.exists_of_dynamicIndex? index
        obtain ⟨pair, member, rfl⟩ := shows.mem ofX
        exact absurd same.symm (by simpa using List.find?_eq_none.mp found pair member)
    | some pair =>
      obtain rfl : endpoint = pair.1.endpoint := by simpa using List.find?_some found
      have ofX := (shows.lights pair (List.mem_of_find?_eq_some found)).1
      rw [shows.published.dynamicIndex?_eq ofX, Option.bind_some, ofX.slot]
      rfl
  cases input with
  | write endpoint path buffer => exact atEndpoint endpoint
  | read endpoint path maxReadLength => exact atEndpoint endpoint
  | event ctx =>
    have byKey : ∀ {α : Type} (key : α → Int × DevicePtr) (list : List α),
        (list.find? fun a => ctx.wemoId = (key a).1).map (fun a => (key a).2) =
          ((list.map key).find? (ctx.wemoId = ·.1)).map Prod.snd := by
      intro α key list
      rw [List.find?_map, Option.map_map]
      rfl
    have entries := byKey (fun entry : BridgedWemoLight => (entry.wemoId, entry.device))
      bridge.gBridgedWemoLights
    rw [shows.entries, ← byKey] at entries
    refine Eq.trans ?_ entries
    rw [target]
    simp only [eq_comm]

theorem mono (shows : bridge.ShowsHome now pairs) (le : now ≤ time) :
    bridge.ShowsHome time pairs := by
  refine ⟨shows.published, shows.entries, fun pair member => ?_⟩
  obtain ⟨ofX, light, found, showsLight⟩ := shows.lights pair member
  exact ⟨ofX, light, found, showsLight.mono le⟩

/-- The light that makes the step is replaced, every other stays as it is. -/
theorem replace {earlier later : List (PublishedLight × ReferenceLight)} {x : PublishedLight}
    {reference next : ReferenceLight} {input : Input}
    (shows : bridge.ShowsHome now (earlier ++ (x, reference) :: later))
    (aimed : bridge.target input = some x.device)
    (showsNext : ∀ light, bridge.lightAt x.device = some light →
      (light.step now input).1.Shows now next) :
    (bridge.step (now, input)).1.ShowsHome now (earlier ++ (x, next) :: later) := by
  have published := shows.published
  have keys : (earlier ++ (x, next) :: later).map (fun pair => (pair.1.wemoId, pair.1.device)) =
      (earlier ++ (x, reference) :: later).map fun pair => (pair.1.wemoId, pair.1.device) := by
    rw [List.map_append, List.map_append, List.map_cons, List.map_cons]
  have nodup : ((earlier ++ (x, reference) :: later).map fun pair => pair.1.device).Nodup := by
    have devices := published.devices_nodup
    have sameDevices := congrArg (List.map Prod.snd) shows.entries
    rw [List.map_map, List.map_map] at sameDevices
    exact sameDevices ▸ devices
  rw [List.map_append, List.map_cons, List.nodup_middle, List.nodup_cons] at nodup
  have others : ∀ pair ∈ earlier ++ later, pair.1.device ≠ x.device := by
    intro pair member same
    rw [← List.map_append] at nodup
    exact nodup.1 (List.mem_map.mpr ⟨pair, member, same⟩)
  obtain ⟨ofX, light, found, -⟩ := shows.lights (x, reference) (by simp)
  have stepped := (published.step_light now input ofX aimed found).1
  refine ⟨published.step now input, ?_, fun pair member => ?_⟩
  · rw [keys, ← shows.entries, published.step_target ofX aimed found (ofX.backs found)]
    have static := light.step_static now input
    exact map_putLight found _ (Prod.ext static.wemoId static.device)
  · have itself : pair = (x, next) ∨ pair ∈ earlier ++ later := by
      simpa [or_left_comm] using member
    rcases itself with rfl | other
    · exact ⟨(published.step_publishes_iff now input _).mpr ofX, _, stepped, showsNext light found⟩
    · have listed : pair ∈ earlier ++ (x, reference) :: later := by
        rcases List.mem_append.mp other with early | late
        · exact List.mem_append_left _ early
        · exact List.mem_append_right _ (List.mem_cons_of_mem _ late)
      obtain ⟨ofY, light', found', showsLight⟩ := shows.lights pair listed
      refine ⟨(published.step_publishes_iff now input _).mpr ofY, light', ?_, showsLight⟩
      have elsewhere : bridge.target input ≠ some pair.1.device := by
        rw [aimed]
        exact fun same => others pair other (Option.some.inj same).symm
      exact (published.lightAt_step_elsewhere now input elsewhere).trans found'

/-- **A step of the bridge is a step of its home.** -/
theorem step (shows : bridge.ShowsHome now pairs) {input : Input}
    (specified : input.isSpecified = true) :
    (bridge.step (now, input)).2 =
        ((referenceMachine D).step (pairs.map Prod.snd) (now, input)).2 ∧
      ∃ next, (bridge.step (now, input)).1.ShowsHome now next ∧
        ((referenceMachine D).step (pairs.map Prod.snd) (now, input)).1 = next.map Prod.snd := by
  have target := shows.target_eq input
  cases found : pairs.find? (·.2.isFor input) with
  | none =>
    rw [found, Option.map_none] at target
    have untaken : ∀ light ∈ pairs.map Prod.snd, light.isFor input = false := by
      intro light member
      obtain ⟨pair, listed, rfl⟩ := List.mem_map.mp member
      simpa using List.find?_eq_none.mp found pair listed
    have home : (referenceMachine D).step (pairs.map Prod.snd) (now, input) =
        (pairs.map Prod.snd, missedReply input) := Machine.firstTaker_of_none untaken
    rw [shows.published.step_no_target target, home]
    exact ⟨rfl, pairs, shows, rfl⟩
  | some pair =>
    obtain ⟨x, reference⟩ := pair
    rw [found, Option.map_some] at target
    obtain ⟨taken, earlier, later, rfl, untaken⟩ := List.find?_eq_some_iff_append.mp found
    obtain ⟨ofX, light, foundLight, showsLight⟩ := shows.lights (x, reference) (by simp)
    have answers := showsLight.answers specified
    have home : (referenceMachine D).step ((earlier ++ (x, reference) :: later).map Prod.snd)
        (now, input) = (earlier.map Prod.snd ++ (reference.step D now input).1 :: later.map Prod.snd,
          (reference.step D now input).2) := by
      rw [List.map_append, List.map_cons]
      refine Machine.firstTaker_append (fun other member => ?_) taken
      obtain ⟨pair, listed, rfl⟩ := List.mem_map.mp member
      simpa using untaken pair listed
    rw [home, (shows.published.step_light now input ofX target foundLight).2, answers.reply]
    refine ⟨rfl, earlier ++ (x, (reference.step D now input).1) :: later,
      shows.replace target fun other foundOther => ?_, ?_⟩
    · obtain rfl := Option.some.inj (foundLight.symm.trans foundOther)
      exact answers.shows
    · rw [List.map_append, List.map_cons]

end ShowsHome

/-- **An arranged bridge shows the home of its devices.** -/
theorem Arranged.showsHome {bridge : Bridge D} {first : EndpointId} {ids : Nat → EndpointId}
    {lights : List (WemoDevice × DevicePtr)} (arranged : bridge.Arranged first ids lights)
    (now : TimePoint) :
    bridge.ShowsHome now (lights.mapIdx fun k light =>
      (placedLight ids k light, ReferenceLight.seed D (ids k) light.1)) := by
  refine ⟨arranged.started.published, ?_, fun pair member => ?_⟩
  · rw [arranged.entries, List.map_map]
    refine List.ext_getElem? fun k => ?_
    rw [List.getElem?_map, List.getElem?_map, List.getElem?_mapIdx, Option.map_map]
    rfl
  · obtain ⟨k, here⟩ := List.mem_iff_getElem?.mp member
    rw [List.getElem?_mapIdx] at here
    obtain ⟨light, inSlot, rfl⟩ := Option.map_eq_some_iff.mp here
    obtain ⟨object, found, seeded⟩ := arranged.lightAt_slot inSlot
    exact ⟨(arranged.publishes_iff _).mpr ⟨k, light, inSlot, rfl⟩, _, found,
      Light.shows_seed now seeded light.2⟩

end Bridge

/-! ### One light of a run -/

/-- **One published light of the bridge shows a reference light.** -/
structure Bridge.ShowsLight (x : PublishedLight) (now : TimePoint) (bridge : Bridge D)
    (reference : ReferenceLight) : Prop where
  published : bridge.Published
  distinct : bridge.DistinctWemoIds
  publishes : bridge.Publishes x
  light : ∃ light, bridge.lightAt x.device = some light ∧ light.Shows now reference

namespace Bridge.ShowsLight

variable {x : PublishedLight} {now time : TimePoint} {bridge : Bridge D}
  {reference : ReferenceLight}

theorem mono (shows : bridge.ShowsLight x now reference) (le : now ≤ time) :
    bridge.ShowsLight x time reference := by
  obtain ⟨light, found, showsLight⟩ := shows.light
  exact ⟨shows.published, shows.distinct, shows.publishes, light, found, showsLight.mono le⟩

/-- An input for the light is a step of its reference. -/
theorem step (shows : bridge.ShowsLight x now reference) {input : Input}
    (specified : input.isSpecified = true) (addressed : input.isFor x = true) :
    (bridge.step (now, input)).1.ShowsLight x now (reference.step D now input).1 := by
  obtain ⟨light, found, showsLight⟩ := shows.light
  refine ⟨shows.published.step now input, shows.published.step_distinct now input shows.distinct,
    (shows.published.step_publishes_iff now input x).mpr shows.publishes, _,
    (shows.published.lightAt_step now input shows.distinct shows.publishes addressed found).1, ?_⟩
  exact (showsLight.answers specified).shows

/-- Any other input leaves it as it is. -/
theorem step_other (shows : bridge.ShowsLight x now reference) {input : Input}
    (elsewhere : input.isFor x = false) :
    (bridge.step (now, input)).1.ShowsLight x now reference := by
  obtain ⟨light, found, showsLight⟩ := shows.light
  refine ⟨shows.published.step now input, shows.published.step_distinct now input shows.distinct,
    (shows.published.step_publishes_iff now input x).mpr shows.publishes, light, ?_, showsLight⟩
  rw [shows.published.lightAt_step_other now input shows.distinct shows.publishes elsewhere]
  exact found

theorem isDimmable (shows : bridge.ShowsLight x now reference) :
    reference.isDimmable = x.isDimmable := by
  obtain ⟨light, found, showsLight⟩ := shows.light
  exact showsLight.isDimmable.symm.trans (shows.publishes.backs found).isDimmable

/-- What the attributes of the light show. -/
theorem shown (shows : bridge.ShowsLight x now reference) :
    bridge.isReachableOf x = some reference.isReachable ∧
      bridge.onOffOf x = some reference.onOff.value ∧
      bridge.levelOf x = if x.isDimmable then some reference.level.value else none := by
  obtain ⟨light, found, showsLight⟩ := shows.light
  rw [isReachableOf, onOffOf, levelOf, found, ← shows.isDimmable]
  refine ⟨congrArg some showsLight.isReachable, congrArg some showsLight.isOn, ?_⟩
  exact showsLight.getLevel

end Bridge.ShowsLight

/-- Every light a start publishes shows a light with no command. -/
theorem applicationInit_showsLight {heap : Allocator} {lastFixed : EndpointId}
    {refuses : Nat → EndpointId → Bool} {discovered : List WemoDevice} {start : Bridge D}
    (starts : applicationInit heap lastFixed refuses discovered = some start)
    (distinct : start.DistinctWemoIds) {x : PublishedLight} (ofX : start.Publishes x)
    (now : TimePoint) : ∃ dev endpoint,
      start.ShowsLight x now (ReferenceLight.seed D endpoint dev) := by
  obtain ⟨plan, lights, -, -, arranged⟩ := applicationInit_arranged starts
  obtain ⟨k, light, inSlot, rfl⟩ := (arranged.publishes_iff x).mp ofX
  obtain ⟨object, found, seeded⟩ := arranged.lightAt_slot inSlot
  exact ⟨light.1, plan.ids k, arranged.started.published, distinct, ofX, _, found,
    Light.shows_seed now seeded light.2⟩

/-! ### The refinement -/

/-- **The bridge refines its reference home.** If `ApplicationInit` starts a bridge, the plan of its
publish loop describes a home of reference lights, and in every ordered run, of any inputs to any
lights, the answers to the specified inputs are those of the home. -/
theorem bridge_refines_reference {heap : Allocator} {lastFixed : EndpointId}
    {refuses : Nat → EndpointId → Bool} {discovered : List WemoDevice} {start : Bridge D}
    (starts : applicationInit heap lastFixed refuses discovered = some start) :
    ∃ plan, (Plan.empty (lastFixed + 1)).publishAll (lastFixed + 1) refuses 0
        (sortDiscovered discovered) = some plan ∧
      ∀ (now : TimePoint) (inputs : List (TimePoint × Input)), Machine.Ordered now inputs →
        (((bridgeMachine D).history start inputs).filter fun step =>
            step.1.2.isSpecified).map Prod.snd =
          (referenceMachine D).outputs (plan.home D)
            (inputs.filter fun timed => timed.2.isSpecified) := by
  obtain ⟨plan, lights, planned, devices, arranged⟩ := applicationInit_arranged starts
  refine ⟨plan, planned, fun now inputs ordered => ?_⟩
  refine Machine.outputs_filter_of_simulation (bridgeMachine D) (referenceMachine D)
    Input.isSpecified (fun time bridge home => ∃ pairs, bridge.ShowsHome time pairs ∧
      home = pairs.map Prod.snd) ?_ ?_ inputs ordered ⟨_, arranged.showsHome now, ?_⟩
  · rintro earlier time bridge home input le ⟨pairs, shows, rfl⟩ specified
    exact (shows.mono le).step specified
  · rintro earlier time bridge home input le ⟨pairs, shows, rfl⟩ unspecified
    cases input with
    | read endpoint path maxReadLength => exact ⟨pairs, shows.mono le, rfl⟩
    | write endpoint path buffer => cases unspecified
    | event ctx => cases unspecified
  · rw [Plan.home, ← devices]
    refine List.ext_getElem? fun k => ?_
    rw [List.getElem?_map, List.getElem?_mapIdx, List.getElem?_mapIdx, List.getElem?_map,
      Option.map_map, Option.map_map]
    rfl

/-- A controller switches the sample home's dimmer on, sets its level at once, which the gate swallows,
and reads it back. -/
def controlled : List (TimePoint × Input) :=
  [(0, .write 3 (.onOff .onOff) fun _ => 1),
    (milliseconds 100, .write 3 (.levelControl .currentLevel) fun _ => 200),
    (milliseconds 200, .read 3 (.levelControl .currentLevel) 1)]

/-- The bridge answers as the home the plan describes, here written out. -/
theorem bridge_refines_reference_sample :
    ((bridgeMachine PlainDevice).history sampleHome controlled).map Prod.snd =
      (referenceMachine PlainDevice).outputs
        [{ endpoint := 3, wemoId := 7, udn := literal "uuid:Dimmer", isDimmable := true
           isReachable := true, nodeLabel := literal "Kitchen"
           onOff := { value := false, commanded := none }
           level := { value := 127, commanded := none } },
          { endpoint := 4, wemoId := 8, udn := literal "uuid:Socket", isDimmable := false
            isReachable := true, nodeLabel := literal "Hall"
            onOff := { value := true, commanded := none }
            level := { value := 0, commanded := none } }] controlled := by
  obtain ⟨plan, planned, alike⟩ := bridge_refines_reference sampleHome_starts
  have ordered : Machine.Ordered (0 : TimePoint) controlled := by
    refine ⟨le_rfl, ?_, ?_, trivial⟩ <;> decide
  refine (alike 0 controlled ordered).trans ?_
  obtain rfl := Option.some.inj planned.symm
  rfl

end WemoBridge
