/-
**The settle windows of a light.**

The OnOff and the level of a light are registers with a settle window (`Settle.Register`): the
marker and its deadline in the entry, the value in the device object. Every step of a light moves
both registers as the entry it adds to their history says, or only clears an expired marker
(`onOff_follows`, `level_follows`). So in every run of the bridge both registers of every published
light track their history (`run_tracks`), and the value after an event is a function of the last
write and the event alone:

* `event_settles` — after an online event the OnOff is the last successful write's if that is at most
  2000 ms old, and the event's otherwise; likewise the level. An offline event changes neither, and no
  event at all flips a value inside its window.
-/

import WemoBridge.Init
import WemoBridge.Library.Settle

namespace WemoBridge

open Library
open Library.Settle (Entry Register)

variable {D : Type} [ChipSdk D]

/-! ### The registers -/

/-- The OnOff marker is one of its three values. -/
def BridgedWemoLight.Marked (entry : BridgedWemoLight) : Prop :=
  entry.commandedOnOff = -1 ∨ entry.commandedOnOff = 0 ∨ entry.commandedOnOff = 1

/-- The OnOff of a light: its marker, its deadline and the device's value. -/
def onOffRegister (entry : BridgedWemoLight) (object : DeviceObject D) : Register Bool TimePoint :=
  { value := object.isOn
    pending := if entry.commandedOnOff < 0 then none else some (decide (entry.commandedOnOff ≠ 0))
    deadline := entry.commandedOnOffUntil }

omit [ChipSdk D] in
/-- The level of a light; of an object without a level, 0. -/
def levelRegister (entry : BridgedWemoLight) (object : DeviceObject D) :
    Register UInt8 TimePoint :=
  { value := object.getLevel.getD 0
    pending :=
      if entry.commandedLevel < 0 then none else some (UInt8.ofInt entry.commandedLevel)
    deadline := entry.commandedLevelUntil }

namespace Light

def onOff (light : Light D) : Register Bool TimePoint := onOffRegister light.entry light.object

def level (light : Light D) : Register UInt8 TimePoint := levelRegister light.entry light.object

/-- The OnOff marker is one of its three values, and the level is there exactly on a dimmer. -/
structure Sound (light : Light D) : Prop where
  marker : light.entry.Marked
  dimmer : light.object.dimmer.isSome = light.entry.isDimmable

end Light

/-- What a step adds to the OnOff history of the light it is for. -/
def onOffEntry (input : Input) (reply : Reply) : Option (Entry Bool) :=
  match input with
  | .write _ (.onOff .onOff) buffer =>
      if reply.status = .success then some (.command (decide (buffer 0 ≠ 0))) else none
  | .event ctx => if ctx.isOnline then some (.report (decide (ctx.state ≠ 0))) else none
  | _ => none

/-- What a step adds to the level history of the light it is for: a level write takes effect when it
dispatches a command. -/
def levelEntry (isDimmable : Bool) (input : Input) (reply : Reply) : Option (Entry UInt8) :=
  match input with
  | .write _ (.levelControl .currentLevel) buffer =>
      if reply.dispatched ≠ [] then some (.command (buffer 0)) else none
  | .event ctx =>
      if ctx.isOnline ∧ isDimmable ∧ ctx.level ≥ 0 then some (.report (matterLevelOf ctx.level))
      else none
  | _ => none

section Registers

variable (now : TimePoint) (entry : BridgedWemoLight) (object : DeviceObject D)

/-- Clearing an expired OnOff marker is looking at the register. -/
theorem onOffRegister_clearExpired :
    onOffRegister (entry.clearExpiredOnOff now) object =
      (onOffRegister entry object).inspect now := by
  unfold BridgedWemoLight.clearExpiredOnOff Register.inspect onOffRegister
  by_cases pending : entry.commandedOnOff ≥ 0
  · by_cases expired : now > entry.commandedOnOffUntil
    · simp [pending, expired]
    · simp [expired]
  · simp [pending, not_le.mp pending]

omit [ChipSdk D] in
theorem levelRegister_clearExpired :
    levelRegister (entry.clearExpiredLevel now) object =
      (levelRegister entry object).inspect now := by
  unfold BridgedWemoLight.clearExpiredLevel Register.inspect levelRegister
  by_cases pending : entry.commandedLevel ≥ 0
  · by_cases expired : now > entry.commandedLevelUntil
    · simp [pending, expired]
    · simp [expired]
  · simp [pending, not_le.mp pending]

omit [ChipSdk D] in
@[simp] theorem levelRegister_clearExpiredOnOff :
    levelRegister (entry.clearExpiredOnOff now) object = levelRegister entry object := by
  unfold BridgedWemoLight.clearExpiredOnOff
  split <;> rfl

@[simp] theorem onOffRegister_clearExpiredLevel :
    onOffRegister (entry.clearExpiredLevel now) object = onOffRegister entry object := by
  unfold BridgedWemoLight.clearExpiredLevel
  split <;> rfl

omit [ChipSdk D] in
theorem clearExpiredOnOff_marked (marked : entry.Marked) :
    (entry.clearExpiredOnOff now).Marked := by
  unfold BridgedWemoLight.clearExpiredOnOff
  split
  · exact Or.inl rfl
  · exact marked

omit [ChipSdk D] in
theorem clearExpiredLevel_marked (marked : entry.Marked) :
    (entry.clearExpiredLevel now).Marked := by
  unfold BridgedWemoLight.clearExpiredLevel
  split <;> exact marked

/-- The OnOff part of the event handler is a report. -/
theorem handleEventOnOff_register (ctx : WemoEventContext) (marked : entry.Marked) :
    onOffRegister (handleEventOnOff now ctx entry object).1
        (handleEventOnOff now ctx entry object).2.1 =
      (onOffRegister entry object).report now (decide (ctx.state ≠ 0)) := by
  have looked := onOffRegister_clearExpired now entry object
  have cleared := clearExpiredOnOff_marked now entry marked
  unfold handleEventOnOff Register.report
  rw [← looked]
  generalize decide (ctx.state ≠ 0) = newOn
  generalize entry.clearExpiredOnOff now = entry' at cleared
  refine Register.ext ?_ ?_ ?_
  · -- the value: the event's, unless the marker contradicts it
    rcases cleared with none_ | off | on
    · cases newOn <;> cases was : object.isOn <;> simp [onOffRegister, none_, was]
    · cases newOn <;> cases was : object.isOn <;> simp [onOffRegister, off, was]
    · cases newOn <;> cases was : object.isOn <;> simp [onOffRegister, on, was]
  · dsimp only
    generalize (if newOn = true then (1 : Int) else 0) = newOnInt
    split <;> rfl
  · dsimp only
    generalize (if newOn = true then (1 : Int) else 0) = newOnInt
    split <;> rfl

/-- The OnOff part of the event handler leaves the level alone. -/
theorem handleEventOnOff_level (ctx : WemoEventContext) :
    levelRegister (handleEventOnOff now ctx entry object).1
        (handleEventOnOff now ctx entry object).2.1 = levelRegister entry object := by
  unfold handleEventOnOff
  dsimp only
  generalize (if decide (ctx.state ≠ 0) = true then (1 : Int) else 0) = newOnInt
  split <;> exact levelRegister_clearExpiredOnOff now entry object

/-- The level part of the event handler is a report. -/
theorem handleEventLevel_register (ctx : WemoEventContext) {dimmer : Dimmer}
    (isDimmer : object.dimmer = some dimmer) :
    levelRegister (handleEventLevel now ctx entry object dimmer).1
        (handleEventLevel now ctx entry object dimmer).2.1 =
      (levelRegister entry object).report now (matterLevelOf ctx.level) := by
  have looked := levelRegister_clearExpired now entry object
  unfold handleEventLevel Register.report
  rw [← looked]
  generalize matterLevelOf ctx.level = matterLevel
  generalize entry.clearExpiredLevel now = entry'
  have value : object.getLevel.getD 0 = dimmer.mLevel := by simp [DeviceObject.getLevel, isDimmer]
  refine Register.ext ?_ ?_ ?_
  · by_cases pending : entry'.commandedLevel < 0
    · by_cases same : dimmer.mLevel = matterLevel
      · simp [levelRegister, pending, same, value, not_le.mpr pending]
      · simp [levelRegister, pending, same, not_le.mpr pending, DeviceObject.getLevel]
    · have held : 0 ≤ entry'.commandedLevel := not_lt.mp pending
      by_cases commanded : matterLevel = UInt8.ofInt entry'.commandedLevel
      · by_cases same : dimmer.mLevel = matterLevel
        · simp [levelRegister, pending, same, value, ← commanded]
        · simp [levelRegister, pending, same, ← commanded, DeviceObject.getLevel]
      · simp [levelRegister, pending, held, commanded]
  · dsimp only
    split <;> rfl
  · dsimp only
    split <;> rfl

/-- The level part of the event handler leaves the OnOff alone. -/
theorem handleEventLevel_onOff (ctx : WemoEventContext) (dimmer : Dimmer) :
    onOffRegister (handleEventLevel now ctx entry object dimmer).1
        (handleEventLevel now ctx entry object dimmer).2.1 = onOffRegister entry object := by
  unfold handleEventLevel
  dsimp only
  split <;> exact onOffRegister_clearExpiredLevel now entry _

end Registers

/-! ### A step moves both registers as its entries say -/

namespace Light

section Follow

variable (now : TimePoint) (light : Light D)

/-- An OnOff write is a command. -/
theorem writeOnOff_follows (attributeId : OnOffAttribute) (buffer : Buffer) (endpoint : EndpointId) :
    Register.Follows kCommandSettleWindow now
      (onOffEntry (.write endpoint (.onOff attributeId) buffer)
        (light.writeOnOff now attributeId buffer).2)
      light.onOff (light.writeOnOff now attributeId buffer).1.onOff := by
  unfold writeOnOff
  by_cases accepted : attributeId = .onOff ∧ light.object.isReachable = true
  · rw [if_pos accepted]
    obtain ⟨rfl, -⟩ := accepted
    show _ = Register.command kCommandSettleWindow now (decide (buffer 0 ≠ 0)) light.onOff
    by_cases targetOn : buffer 0 = 0 <;> simp [onOff, onOffRegister, Register.command, targetOn]
  · rw [if_neg accepted]
    cases attributeId <;> exact Or.inl rfl

theorem writeOnOff_level (attributeId : OnOffAttribute) (buffer : Buffer) :
    (light.writeOnOff now attributeId buffer).1.level = light.level := by
  unfold writeOnOff
  split <;> rfl

/-- A level write leaves the OnOff, but may clear its expired marker. -/
theorem writeLevel_onOff (dimmer : Dimmer) (attributeId : LevelControlAttribute)
    (buffer : Buffer) :
    (light.writeLevel now dimmer attributeId buffer).1.onOff = light.onOff ∨
      (light.writeLevel now dimmer attributeId buffer).1.onOff = light.onOff.inspect now := by
  have looked := onOffRegister_clearExpired now light.entry light.object
  unfold writeLevel
  split
  · refine Or.inr ?_
    dsimp only
    split
    · exact looked
    · split
      · exact looked
      · exact looked
  · exact Or.inl rfl

/-- A level write that dispatches is a command; another leaves the level alone. -/
theorem writeLevel_follows (dimmer : Dimmer) (attributeId : LevelControlAttribute)
    (buffer : Buffer) (endpoint : EndpointId) (isDimmable : Bool) :
    Register.Follows kCommandSettleWindow now
      (levelEntry isDimmable (.write endpoint (.levelControl attributeId) buffer)
        (light.writeLevel now dimmer attributeId buffer).2)
      light.level (light.writeLevel now dimmer attributeId buffer).1.level := by
  have same := levelRegister_clearExpiredOnOff now light.entry light.object
  unfold writeLevel
  by_cases accepted : attributeId = .currentLevel ∧ light.object.isReachable = true
  · rw [if_pos accepted]
    obtain ⟨rfl, -⟩ := accepted
    dsimp only
    split
    · exact Or.inl same
    · split
      · exact Or.inl same
      · show _ = Register.command kCommandSettleWindow now (buffer 0) light.level
        have pending : ¬ ((buffer 0).toNat : Int) < 0 := by omega
        simp [level, levelRegister, Register.command, DeviceObject.getLevel]
  · rw [if_neg accepted]
    cases attributeId <;> exact Or.inl rfl

theorem writeBridgedDeviceBasic_registers (attributeId : BridgedDeviceBasicAttribute)
    (buffer : Buffer) :
    (light.writeBridgedDeviceBasic attributeId buffer).1.onOff = light.onOff ∧
      (light.writeBridgedDeviceBasic attributeId buffer).1.level = light.level := by
  unfold writeBridgedDeviceBasic
  split
  · exact ⟨rfl, rfl⟩
  · dsimp only
    split
    · exact ⟨rfl, rfl⟩
    · exact ⟨by simp [onOff, onOffRegister], rfl⟩

variable {light}

/-- What an event does to both registers. -/
theorem event_registers (sound : light.Sound) (ctx : WemoEventContext) :
    (light.event now ctx).1.onOff =
        (if ctx.isOnline then light.onOff.report now (decide (ctx.state ≠ 0)) else light.onOff) ∧
      (light.event now ctx).1.level =
        if ctx.isOnline ∧ light.entry.isDimmable ∧ ctx.level ≥ 0 then
          light.level.report now (matterLevelOf ctx.level) else light.level := by
  have atReach : ∀ reach : DeviceObject D × List Report,
      reach = (if light.object.isReachable ≠ ctx.isOnline then
        light.object.setReachable ctx.isOnline else (light.object, [])) →
      onOffRegister light.entry reach.1 = light.onOff ∧
        levelRegister light.entry reach.1 = light.level ∧
        reach.1.dimmer = light.object.dimmer := by
    rintro reach rfl
    split
    · exact ⟨by simp [onOff, onOffRegister], rfl, rfl⟩
    · exact ⟨rfl, rfl, rfl⟩
  unfold event handleEventOnLight
  dsimp only
  generalize reachEq : (if light.object.isReachable ≠ ctx.isOnline then
    light.object.setReachable ctx.isOnline else (light.object, [])) = reach
  obtain ⟨sameOnOff, sameLevel, sameDimmer⟩ := atReach reach reachEq.symm
  by_cases online : ctx.isOnline = true
  · have switched := handleEventOnOff_register now light.entry reach.1 ctx sound.marker
    have kept := handleEventOnOff_level now light.entry reach.1 ctx
    have static := handleEventOnOff_static now ctx light.entry reach.1
    rw [sameOnOff] at switched
    rw [sameLevel] at kept
    generalize handleEventOnOff now ctx light.entry reach.1 = after at switched kept static
    have isDimmable : after.1.isDimmable = light.entry.isDimmable := static.isDimmable
    simp only [online, if_pos, isDimmable, true_and]
    by_cases levels : light.entry.isDimmable = true ∧ ctx.level ≥ 0
    · obtain ⟨dimmer, isDimmer⟩ : ∃ dimmer, after.2.1.dimmer = some dimmer := by
        refine Option.isSome_iff_exists.mp ?_
        rw [show after.2.1.dimmer.isSome = reach.1.dimmer.isSome from static.dimmer, sameDimmer,
          sound.dimmer]
        exact levels.1
      simp only [if_pos levels, isDimmer]
      refine ⟨(handleEventLevel_onOff now after.1 after.2.1 ctx dimmer).trans switched, ?_⟩
      exact (handleEventLevel_register now after.1 after.2.1 ctx isDimmer).trans (by rw [kept])
    · simp only [if_neg levels]
      exact ⟨switched, kept⟩
  · simp only [online, Bool.false_eq_true, false_and]
    exact ⟨sameOnOff, sameLevel⟩

omit [ChipSdk D] in
theorem onOffEntry_failed {reply : Reply} (failed : reply.status ≠ .success)
    (endpoint : EndpointId) (path : AttributePath) (buffer : Buffer) :
    onOffEntry (.write endpoint path buffer) reply = none := by
  unfold onOffEntry
  split
  · exact if_neg failed
  · rename_i same
    cases same
  · rfl

omit [ChipSdk D] in
theorem levelEntry_silent {reply : Reply} (silent : reply.dispatched = []) (isDimmable : Bool)
    (endpoint : EndpointId) (path : AttributePath) (buffer : Buffer) :
    levelEntry isDimmable (.write endpoint path buffer) reply = none := by
  unfold levelEntry
  split
  · exact if_neg (not_not.mpr silent)
  · rename_i same
    cases same
  · rfl

/-- What a write does to both registers. -/
theorem write_follows (isDimmable : Bool) (endpoint : EndpointId) (path : AttributePath)
    (buffer : Buffer) :
    Register.Follows kCommandSettleWindow now
        (onOffEntry (.write endpoint path buffer) (light.write now path buffer).2)
        light.onOff (light.write now path buffer).1.onOff ∧
      Register.Follows kCommandSettleWindow now
        (levelEntry isDimmable (.write endpoint path buffer) (light.write now path buffer).2)
        light.level (light.write now path buffer).1.level := by
  have refused : ∀ reply : Reply, reply.status ≠ .success → reply.dispatched = [] →
      Register.Follows kCommandSettleWindow now (onOffEntry (.write endpoint path buffer) reply)
          light.onOff light.onOff ∧
        Register.Follows kCommandSettleWindow now
          (levelEntry isDimmable (.write endpoint path buffer) reply) light.level light.level := by
    intro reply failed silent
    rw [onOffEntry_failed failed, levelEntry_silent silent]
    exact ⟨Or.inl rfl, Or.inl rfl⟩
  unfold write
  split
  · cases path with
    | onOff attributeId =>
      exact ⟨light.writeOnOff_follows now attributeId buffer endpoint,
        Or.inl (light.writeOnOff_level now attributeId buffer)⟩
    | levelControl attributeId =>
      cases light.object.dimmer with
      | none => exact refused _ (by simp [Reply.undefinedBehaviour]) rfl
      | some dimmer =>
        exact ⟨light.writeLevel_onOff now dimmer attributeId buffer,
          light.writeLevel_follows now dimmer attributeId buffer endpoint isDimmable⟩
    | bridgedDeviceBasicInformation attributeId =>
      obtain ⟨sameOnOff, sameLevel⟩ := light.writeBridgedDeviceBasic_registers attributeId buffer
      exact ⟨Or.inl sameOnOff, Or.inl sameLevel⟩
    | temperatureMeasurement _ => exact refused _ (by simp) rfl
    | other _ _ => exact refused _ (by simp) rfl
  · exact refused _ (by simp) rfl

/-- An offline event changes nothing but the reachability. -/
theorem event_offline (light : Light D) {ctx : WemoEventContext} (offline : ctx.isOnline = false) :
    (light.step now (.event ctx)).1.object.isOn = light.object.isOn ∧
      (light.step now (.event ctx)).1.object.getLevel = light.object.getLevel := by
  simp only [step, event, handleEventOnLight, offline, Bool.false_eq_true, if_false]
  split
  · exact ⟨by simp, rfl⟩
  · exact ⟨rfl, rfl⟩

/-- **A step moves both registers as its entries say.** -/
theorem step_follows (sound : light.Sound) (input : Input) :
    Register.Follows kCommandSettleWindow now (onOffEntry input (light.step now input).2)
        light.onOff (light.step now input).1.onOff ∧
      Register.Follows kCommandSettleWindow now
        (levelEntry light.entry.isDimmable input (light.step now input).2)
        light.level (light.step now input).1.level := by
  cases input with
  | write endpoint path buffer =>
    rw [step]
    split
    · exact write_follows now light.entry.isDimmable endpoint path buffer
    · rw [onOffEntry_failed (by simp), levelEntry_silent rfl]
      exact ⟨Or.inl rfl, Or.inl rfl⟩
  | read endpoint path maxReadLength => exact ⟨Or.inl rfl, Or.inl rfl⟩
  | event ctx =>
    obtain ⟨onOffMoved, levelMoved⟩ := event_registers now sound ctx
    rw [step, onOffMoved, levelMoved, onOffEntry, levelEntry]
    constructor
    · split
      · rfl
      · exact Or.inl rfl
    · split
      · rfl
      · exact Or.inl rfl

theorem event_marked (marked : light.entry.Marked) (ctx : WemoEventContext) :
    (light.event now ctx).1.entry.Marked := by
  have switched : ∀ dev : DeviceObject D,
      (handleEventOnOff now ctx light.entry dev).1.Marked := by
    intro dev
    have cleared := clearExpiredOnOff_marked now light.entry marked
    unfold handleEventOnOff
    dsimp only
    generalize (if decide (ctx.state ≠ 0) = true then (1 : Int) else 0) = newOnInt
    split <;> exact cleared
  have dimmed : ∀ entry : BridgedWemoLight, entry.Marked → ∀ (dev : DeviceObject D) dimmer,
      (handleEventLevel now ctx entry dev dimmer).1.Marked := by
    intro entry before dev dimmer
    have cleared := clearExpiredLevel_marked now entry before
    unfold handleEventLevel
    dsimp only
    split <;> exact cleared
  unfold event handleEventOnLight
  dsimp only
  generalize (if light.object.isReachable ≠ ctx.isOnline then
    light.object.setReachable ctx.isOnline else (light.object, [])) = reach
  split
  · exact marked
  · rename_i updated found
    split at found
    · split at found
      · split at found
        · cases found
        · cases found
          exact dimmed _ (switched reach.1) _ _
      · cases found
        exact switched reach.1
    · cases found
      exact marked

theorem write_marked (marked : light.entry.Marked) (path : AttributePath) (buffer : Buffer) :
    (light.write now path buffer).1.entry.Marked := by
  have cleared := clearExpiredOnOff_marked now light.entry marked
  unfold write
  split
  · cases path with
    | onOff attributeId =>
      dsimp only
      unfold writeOnOff
      split
      · by_cases targetOn : buffer 0 = 0
        · exact Or.inr (Or.inl (by simp [targetOn]))
        · exact Or.inr (Or.inr (by simp [targetOn]))
      · exact marked
    | levelControl attributeId =>
      cases light.object.dimmer with
      | none => exact marked
      | some dimmer =>
        dsimp only
        unfold writeLevel
        split
        · dsimp only
          split
          · exact cleared
          · split <;> exact cleared
        · exact marked
    | bridgedDeviceBasicInformation attributeId =>
      dsimp only
      unfold writeBridgedDeviceBasic
      split
      · exact marked
      · dsimp only
        split <;> exact marked
    | temperatureMeasurement _ => exact marked
    | other _ _ => exact marked
  · exact marked

/-- **A step keeps a light sound.** -/
theorem Sound.step (sound : light.Sound) (input : Input) : (light.step now input).1.Sound := by
  have static := light.step_static now input
  refine ⟨?_, by rw [static.dimmer, static.isDimmable, sound.dimmer]⟩
  cases input with
  | write endpoint path buffer =>
    rw [Light.step]
    split
    · exact write_marked now sound.marker path buffer
    · exact sound.marker
  | read endpoint path maxReadLength => exact sound.marker
  | event ctx => exact event_marked now sound.marker ctx

end Follow

end Light

/-! ### The histories of a published light -/

/-- One step of a run: when, what, and the answer. -/
abbrev Step := (TimePoint × Input) × Reply

/-- What a step adds to the OnOff history of the light. -/
def onOffEntryAt (x : PublishedLight) (step : Step) : Option (TimePoint × Entry Bool) :=
  if step.1.2.isFor x then (onOffEntry step.1.2 step.2).map (step.1.1, ·) else none

/-- What a step adds to the level history of the light. -/
def levelEntryAt (x : PublishedLight) (step : Step) : Option (TimePoint × Entry UInt8) :=
  if step.1.2.isFor x then (levelEntry x.isDimmable step.1.2 step.2).map (step.1.1, ·) else none

/-- The OnOff history of a light in a run. -/
def onOffHistory (x : PublishedLight) (trace : List Step) : List (TimePoint × Entry Bool) :=
  trace.filterMap (onOffEntryAt x)

/-- The level history of a light in a run. -/
def levelHistory (x : PublishedLight) (trace : List Step) : List (TimePoint × Entry UInt8) :=
  trace.filterMap (levelEntryAt x)

/-- A successful OnOff write to the light, with its time and its value. -/
def successfulOnOffWrite (x : PublishedLight) : Step → Option (TimePoint × Bool)
  | ((time, .write endpoint (.onOff .onOff) buffer), reply) =>
      if endpoint = x.endpoint ∧ reply.status = .success then some (time, decide (buffer 0 ≠ 0))
      else none
  | _ => none

/-- The last successful OnOff write to the light. -/
def lastOnOffWrite (x : PublishedLight) (trace : List Step) : Option (TimePoint × Bool) :=
  (trace.filterMap (successfulOnOffWrite x)).getLast?

/-- A level write to the light that took effect, that is, one that dispatched a command. -/
def effectiveLevelWrite (x : PublishedLight) : Step → Option (TimePoint × UInt8)
  | ((time, .write endpoint (.levelControl .currentLevel) buffer), reply) =>
      if endpoint = x.endpoint ∧ reply.dispatched ≠ [] then some (time, buffer 0) else none
  | _ => none

/-- The last level write to the light that took effect. -/
def lastLevelWrite (x : PublishedLight) (trace : List Step) : Option (TimePoint × UInt8) :=
  (trace.filterMap (effectiveLevelWrite x)).getLast?

section History

variable (x : PublishedLight) (trace : List Step) (step : Step)

omit [ChipSdk D]

theorem onOffHistory_concat :
    onOffHistory x (trace ++ [step]) = onOffHistory x trace ++ (onOffEntryAt x step).toList := by
  unfold onOffHistory
  rw [List.filterMap_append]
  cases entry : onOffEntryAt x step <;> simp [entry]

theorem levelHistory_concat :
    levelHistory x (trace ++ [step]) = levelHistory x trace ++ (levelEntryAt x step).toList := by
  unfold levelHistory
  rw [List.filterMap_append]
  cases entry : levelEntryAt x step <;> simp [entry]

theorem lastCommand_onOffHistory :
    Settle.lastCommand (onOffHistory x trace) = lastOnOffWrite x trace := by
  have perStep : ∀ step, (onOffEntryAt x step).bind Settle.commandOf =
      successfulOnOffWrite x step := by
    rintro ⟨⟨time, input⟩, reply⟩
    cases input with
    | write endpoint path buffer =>
      cases path with
      | onOff attributeId =>
        cases attributeId with
        | onOff =>
          by_cases here : endpoint = x.endpoint <;> by_cases ok : reply.status = .success <;>
            simp [onOffEntryAt, onOffEntry, successfulOnOffWrite, Input.isFor, here, ok,
              Settle.commandOf]
        | _ => simp [onOffEntryAt, onOffEntry, successfulOnOffWrite]
      | _ => simp [onOffEntryAt, onOffEntry, successfulOnOffWrite]
    | read endpoint path maxReadLength =>
      simp [onOffEntryAt, onOffEntry, successfulOnOffWrite]
    | event ctx =>
      unfold onOffEntryAt onOffEntry
      dsimp only
      split
      · split <;> rfl
      · rfl
  unfold Settle.lastCommand onOffHistory lastOnOffWrite
  rw [List.filterMap_filterMap]
  exact congrArg _ (List.filterMap_congr fun step _ => perStep step)

theorem lastCommand_levelHistory :
    Settle.lastCommand (levelHistory x trace) = lastLevelWrite x trace := by
  have perStep : ∀ step, (levelEntryAt x step).bind Settle.commandOf =
      effectiveLevelWrite x step := by
    rintro ⟨⟨time, input⟩, reply⟩
    cases input with
    | write endpoint path buffer =>
      cases path with
      | levelControl attributeId =>
        cases attributeId with
        | currentLevel =>
          by_cases here : endpoint = x.endpoint <;> by_cases sent : reply.dispatched = [] <;>
            simp [levelEntryAt, levelEntry, effectiveLevelWrite, Input.isFor, here, sent,
              Settle.commandOf]
        | _ => simp [levelEntryAt, levelEntry, effectiveLevelWrite]
      | _ => simp [levelEntryAt, levelEntry, effectiveLevelWrite]
    | read endpoint path maxReadLength => simp [levelEntryAt, levelEntry, effectiveLevelWrite]
    | event ctx =>
      unfold levelEntryAt levelEntry
      dsimp only
      split
      · split <;> rfl
      · rfl
  unfold Settle.lastCommand levelHistory lastLevelWrite
  rw [List.filterMap_filterMap]
  exact congrArg _ (List.filterMap_congr fun step _ => perStep step)

end History

/-! ### Every run tracks its histories -/

/-- **A published light tracks its histories** at the end of a run. -/
structure Bridge.Tracks (x : PublishedLight) (onOff : Bool) (level : UInt8) (now : TimePoint)
    (past : List Step) (bridge : Bridge D) : Prop where
  published : bridge.Published
  distinct : bridge.DistinctWemoIds
  publishes : bridge.Publishes x
  light : ∃ light, bridge.lightAt x.device = some light ∧ light.Sound ∧
    Register.Tracks kCommandSettleWindow onOff now (onOffHistory x past) light.onOff ∧
    Register.Tracks kCommandSettleWindow level now (levelHistory x past) light.level

namespace Bridge

variable {bridge : Bridge D} {x : PublishedLight} {onOff : Bool} {level : UInt8}
  {now time : TimePoint} {past : List Step}

theorem Tracks.step (tracks : bridge.Tracks x onOff level now past) (le : now ≤ time)
    (input : Input) :
    Tracks x onOff level time (past ++ [((time, input), (bridge.step (time, input)).2)])
      (bridge.step (time, input)).1 := by
  obtain ⟨light, found, sound, onOffTracks, levelTracks⟩ := tracks.light
  refine ⟨tracks.published.step time input, tracks.published.step_distinct time input tracks.distinct,
    (tracks.published.step_publishes_iff time input x).mpr tracks.publishes, ?_⟩
  rw [onOffHistory_concat, levelHistory_concat, onOffEntryAt, levelEntryAt]
  by_cases addressed : input.isFor x = true
  · obtain ⟨foundAfter, replied⟩ :=
      tracks.published.lightAt_step time input tracks.distinct tracks.publishes addressed found
    obtain ⟨onOffFollows, levelFollows⟩ := Light.step_follows time sound input
    have isDimmable := (tracks.publishes.backs found).isDimmable
    rw [← replied, isDimmable] at levelFollows
    rw [← replied] at onOffFollows
    rw [if_pos addressed, if_pos addressed]
    exact ⟨_, foundAfter, sound.step time input, (onOffTracks.mono le).follow onOffFollows,
      (levelTracks.mono le).follow levelFollows⟩
  · have untouched := tracks.published.lightAt_step_other time input tracks.distinct
      tracks.publishes (by simpa using addressed)
    rw [if_neg addressed, if_neg addressed, Option.toList_none, List.append_nil, Option.toList_none,
      List.append_nil]
    exact ⟨light, untouched.trans found, sound, onOffTracks.mono le, levelTracks.mono le⟩

theorem Tracks.mono (tracks : bridge.Tracks x onOff level now past) (le : now ≤ time) :
    bridge.Tracks x onOff level time past := by
  obtain ⟨light, found, sound, onOffTracks, levelTracks⟩ := tracks.light
  exact ⟨tracks.published, tracks.distinct, tracks.publishes, light, found, sound,
    onOffTracks.mono le, levelTracks.mono le⟩

/-- **Every run tracks the histories of every published light.** -/
theorem Started.run_tracks (started : bridge.Started) (distinct : bridge.DistinctWemoIds)
    (ofX : bridge.Publishes x) {start : TimePoint} {inputs : List (TimePoint × Input)}
    (ordered : Machine.Ordered start inputs) :
    ∃ onOff level, Tracks x onOff level (Machine.endTime start inputs)
      ((bridgeMachine D).history bridge inputs) ((bridgeMachine D).run bridge inputs) := by
  obtain ⟨light, found, backs⟩ := ofX.light
  have member := List.mem_of_find?_eq_some (lightAt_eq_some.mp found).1
  obtain ⟨noOnOff, noLevel⟩ := started.idle light.entry member
  refine ⟨light.onOff.value, light.level.value, ?_⟩
  refine @Machine.timed_history_invariant _ _ _ _ _ (bridgeMachine D)
    (Tracks x light.onOff.value light.level.value)
    (fun now time past state input le tracks => tracks.step le input) inputs start [] bridge
    ordered ?_
  refine ⟨started.published, distinct, ofX, light, found, ⟨Or.inl noOnOff, ?_⟩, ?_, ?_⟩
  · rw [backs.dimmer, backs.isDimmable]
  · exact Register.tracks_nil (by simp [Light.onOff, onOffRegister, noOnOff])
  · exact Register.tracks_nil (by simp [Light.level, levelRegister, noLevel])

/-! ### The settle law -/

/-- The OnOff of a published light. -/
def onOffOf (bridge : Bridge D) (x : PublishedLight) : Option Bool :=
  (bridge.lightAt x.device).map (·.object.isOn)

omit [ChipSdk D] in
/-- The CurrentLevel of a published light, if it is a dimmer. -/
def levelOf (bridge : Bridge D) (x : PublishedLight) : Option UInt8 :=
  (bridge.lightAt x.device).bind (·.object.getLevel)

end Bridge

/-- The value written last if it was written at or after `since`, and another value otherwise. -/
def recentOr {α : Type} (since : TimePoint) (written : Option (TimePoint × α)) (otherwise : α) : α :=
  match written with
  | some (time, value) => if since ≤ time then value else otherwise
  | none => otherwise

theorem settling_eq_some {α : Type} {time : TimePoint} {history : List (TimePoint × Entry α)}
    {written : TimePoint} {value : α} (last : Settle.lastCommand history = some (written, value))
    (recent : time - milliseconds 2000 ≤ written) :
    Settle.settling kCommandSettleWindow time history = some value := by
  have within : time ≤ written + kCommandSettleWindow := Int.le_add_of_sub_right_le recent
  simp only [Settle.settling, last, if_pos within]

theorem settling_getD {α : Type} (time : TimePoint) (history : List (TimePoint × Entry α))
    (value : α) : (Settle.settling kCommandSettleWindow time history).getD value =
      recentOr (time - milliseconds 2000) (Settle.lastCommand history) value := by
  unfold Settle.settling recentOr
  cases Settle.lastCommand history with
  | none => rfl
  | some command =>
    have same : time ≤ command.1 + kCommandSettleWindow ↔
        time - milliseconds 2000 ≤ command.1 :=
      ⟨Int.sub_right_le_of_le_add, Int.le_add_of_sub_right_le⟩
    simp only [same]
    split <;> rfl

namespace Bridge

variable {bridge : Bridge D} {x : PublishedLight} {onOff : Bool} {level : UInt8}
  {now time : TimePoint} {past : List Step}

theorem Tracks.onOffOf_eq (tracks : bridge.Tracks x onOff level now past) :
    bridge.onOffOf x = some (Settle.heard kCommandSettleWindow onOff (onOffHistory x past)) := by
  obtain ⟨light, found, -, onOffTracks, -⟩ := tracks.light
  rw [onOffOf, found, ← onOffTracks.value_eq]
  rfl

theorem Tracks.levelOf_eq (tracks : bridge.Tracks x onOff level now past)
    (dimmable : x.isDimmable = true) :
    bridge.levelOf x = some (Settle.heard kCommandSettleWindow level (levelHistory x past)) := by
  obtain ⟨light, found, sound, -, levelTracks⟩ := tracks.light
  obtain ⟨dimmer, isDimmer⟩ : ∃ dimmer, light.object.dimmer = some dimmer :=
    Option.isSome_iff_exists.mp ((tracks.publishes.backs found).dimmer.trans dimmable)
  rw [levelOf, found, ← levelTracks.value_eq]
  simp [Light.level, levelRegister, DeviceObject.getLevel, isDimmer]

/-- Within its window a written OnOff is what the light shows. -/
theorem Tracks.onOffOf_recent (tracks : bridge.Tracks x onOff level now past)
    {written : TimePoint} {on : Bool} (last : lastOnOffWrite x past = some (written, on))
    (recent : now - milliseconds 2000 ≤ written) : bridge.onOffOf x = some on := by
  obtain ⟨light, found, -, onOffTracks, -⟩ := tracks.light
  rw [← lastCommand_onOffHistory] at last
  rw [onOffOf, found, ← onOffTracks.value_settling (settling_eq_some last recent)]
  rfl

/-- Within its window a written level is what the light shows. -/
theorem Tracks.levelOf_recent (tracks : bridge.Tracks x onOff level now past)
    (dimmable : x.isDimmable = true) {written : TimePoint} {value : UInt8}
    (last : lastLevelWrite x past = some (written, value))
    (recent : now - milliseconds 2000 ≤ written) : bridge.levelOf x = some value := by
  rw [tracks.levelOf_eq dimmable]
  obtain ⟨light, found, -, -, levelTracks⟩ := tracks.light
  rw [← lastCommand_levelHistory] at last
  rw [← levelTracks.value_eq, levelTracks.value_settling (settling_eq_some last recent)]

/-- An offline event changes neither value. -/
theorem Tracks.offline (tracks : bridge.Tracks x onOff level now past) {ctx : WemoEventContext}
    (offline : ctx.isOnline = false) :
    (bridge.step (time, .event ctx)).1.onOffOf x = bridge.onOffOf x ∧
      (bridge.step (time, .event ctx)).1.levelOf x = bridge.levelOf x := by
  obtain ⟨light, found, sound, -, -⟩ := tracks.light
  by_cases addressed : (Input.event ctx).isFor x = true
  · obtain ⟨foundAfter, -⟩ := tracks.published.lightAt_step time (.event ctx) tracks.distinct
      tracks.publishes addressed found
    rw [onOffOf, levelOf, onOffOf, levelOf, foundAfter, found]
    obtain ⟨sameOn, sameLevel⟩ := Light.event_offline time light offline
    exact ⟨congrArg some sameOn, sameLevel⟩
  · have untouched := tracks.published.lightAt_step_other time (.event ctx) tracks.distinct
      tracks.publishes (by simpa using addressed)
    rw [onOffOf, levelOf, untouched]
    exact ⟨rfl, rfl⟩

/-- After an event the windows are as before: an event is no write. -/
theorem lastOnOffWrite_event (x : PublishedLight) (past : List Step) (time : TimePoint)
    (ctx : WemoEventContext) (reply : Reply) :
    lastOnOffWrite x (past ++ [((time, .event ctx), reply)]) = lastOnOffWrite x past := by
  simp [lastOnOffWrite, List.filterMap_append, successfulOnOffWrite]

theorem lastLevelWrite_event (x : PublishedLight) (past : List Step) (time : TimePoint)
    (ctx : WemoEventContext) (reply : Reply) :
    lastLevelWrite x (past ++ [((time, .event ctx), reply)]) = lastLevelWrite x past := by
  simp [lastLevelWrite, List.filterMap_append, effectiveLevelWrite]

/-- What an online event leaves the OnOff of its light at. -/
theorem Tracks.onOffOf_event (tracks : bridge.Tracks x onOff level now past) (le : now ≤ time)
    {ctx : WemoEventContext} (forX : ctx.wemoId = x.wemoId) (online : ctx.isOnline = true) :
    (bridge.step (time, .event ctx)).1.onOffOf x =
      some (recentOr (time - milliseconds 2000) (lastOnOffWrite x past)
        (decide (ctx.state ≠ 0))) := by
  have after := tracks.step le (.event ctx)
  have entry : onOffEntryAt x ((time, .event ctx), (bridge.step (time, .event ctx)).2) =
      some (time, .report (decide (ctx.state ≠ 0))) := by
    simp [onOffEntryAt, onOffEntry, Input.isFor, forX, online]
  rw [after.onOffOf_eq, onOffHistory_concat, entry, Option.toList_some, Settle.heard_concat_report,
    settling_getD, lastCommand_onOffHistory]

/-- What an online event with a level leaves the level of its dimmer at. -/
theorem Tracks.levelOf_event (tracks : bridge.Tracks x onOff level now past) (le : now ≤ time)
    {ctx : WemoEventContext} (forX : ctx.wemoId = x.wemoId) (online : ctx.isOnline = true)
    (dimmable : x.isDimmable = true) (known : 0 ≤ ctx.level) :
    (bridge.step (time, .event ctx)).1.levelOf x =
      some (recentOr (time - milliseconds 2000) (lastLevelWrite x past)
        (matterLevelOf ctx.level)) := by
  have after := tracks.step le (.event ctx)
  have entry : levelEntryAt x ((time, .event ctx), (bridge.step (time, .event ctx)).2) =
      some (time, .report (matterLevelOf ctx.level)) := by
    simp [levelEntryAt, levelEntry, Input.isFor, forX, online, dimmable, known]
  rw [after.levelOf_eq dimmable, levelHistory_concat, entry, Option.toList_some,
    Settle.heard_concat_report, settling_getD, lastCommand_levelHistory]

end Bridge

/-- **The settle law.** After any run of a started bridge, an event handled at `time`:

* online and for the light `x`, it leaves the OnOff at the last successfully written value if that
  write is at most 2000 ms old and at the event's value otherwise; if `x` is a dimmer and the event
  carries a level, it leaves the CurrentLevel at the last level write that took effect if that is at
  most 2000 ms old and at the event's level otherwise;
* offline, it changes neither value of any light;
* whatever it says and whichever light it is for, it does not flip a value inside its window. -/
theorem event_settles {bridge : Bridge D} (started : bridge.Started)
    (distinct : bridge.DistinctWemoIds) {x : PublishedLight} (ofX : bridge.Publishes x)
    {start : TimePoint} {inputs : List (TimePoint × Input)}
    (ordered : Machine.Ordered start inputs) {time : TimePoint}
    (later : Machine.endTime start inputs ≤ time) (ctx : WemoEventContext) :
    let trace := (bridgeMachine D).history bridge inputs
    let before := (bridgeMachine D).run bridge inputs
    let after := (before.step (time, .event ctx)).1
    (ctx.wemoId = x.wemoId → ctx.isOnline = true →
      after.onOffOf x = some (recentOr (time - milliseconds 2000) (lastOnOffWrite x trace)
        (decide (ctx.state ≠ 0))) ∧
      (x.isDimmable = true → 0 ≤ ctx.level →
        after.levelOf x = some (recentOr (time - milliseconds 2000) (lastLevelWrite x trace)
          (matterLevelOf ctx.level)))) ∧
    (ctx.isOnline = false →
      after.onOffOf x = before.onOffOf x ∧ after.levelOf x = before.levelOf x) ∧
    (∀ written on, lastOnOffWrite x trace = some (written, on) →
      time - milliseconds 2000 ≤ written →
        before.onOffOf x = some on ∧ after.onOffOf x = some on) ∧
    (x.isDimmable = true → ∀ written level, lastLevelWrite x trace = some (written, level) →
      time - milliseconds 2000 ≤ written →
        before.levelOf x = some level ∧ after.levelOf x = some level) := by
  intro trace before after
  obtain ⟨onOff, level, tracks⟩ := started.run_tracks distinct ofX ordered
  have tracksAfter := tracks.step later (.event ctx)
  refine ⟨fun forX online => ⟨tracks.onOffOf_event later forX online, fun dimmable known =>
    tracks.levelOf_event later forX online dimmable known⟩, fun offline => tracks.offline offline,
    ?_, ?_⟩
  · intro written on last recent
    have earlier : Machine.endTime start inputs - milliseconds 2000 ≤ written :=
      le_trans (Int.sub_le_sub_right later _) recent
    refine ⟨tracks.onOffOf_recent last earlier, tracksAfter.onOffOf_recent ?_ recent⟩
    rw [Bridge.lastOnOffWrite_event]
    exact last
  · intro dimmable written value last recent
    have earlier : Machine.endTime start inputs - milliseconds 2000 ≤ written :=
      le_trans (Int.sub_le_sub_right later _) recent
    refine ⟨tracks.levelOf_recent dimmable last earlier,
      tracksAfter.levelOf_recent dimmable ?_ recent⟩
    rw [Bridge.lastLevelWrite_event]
    exact last

/-- The dimmer of the sample home is switched on; one second later an OFF event is suppressed. -/
theorem event_settles_sample :
    (((bridgeMachine PlainDevice).run sampleHome
        [(0, .write 3 (.onOff .onOff) fun _ => 1)]).step
      (milliseconds 1000, .event { wemoId := 7, isOnline := true, state := 0, level := 30 })).1.onOffOf
        sampleDimmer = some true :=
  ((event_settles sampleHome_started.1 sampleHome_started.2 sampleHome_publishes
    (show Machine.Ordered 0 [((0 : TimePoint), Input.write 3 (.onOff .onOff) fun _ => 1)] from
      ⟨le_rfl, trivial⟩) (show (0 : Int) ≤ milliseconds 1000 by decide)
    { wemoId := 7, isOnline := true, state := 0, level := 30 }).1 rfl rfl).1.trans (by decide)

end WemoBridge
