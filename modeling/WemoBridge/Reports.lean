/-
**Change reports.**

`ApplicationInit` installs a callback in every published object (`Wired`): in both callback slots of
a dimmer, in the one of an on/off light. From there on every setter reports its own attribute, and
nothing else, exactly if it changes it; so a step of a light reports the attributes it changes, plus
the NodeLabel on an accepted label write (`Light.step_reported`). A subscriber that re-reads what is
reported therefore agrees with the bridge (`subscribers_never_miss_a_change`).
-/

import WemoBridge.Library.Subscription
import WemoBridge.Init
import WemoBridge.Plan

namespace WemoBridge

open Library

variable {D : Type} [ChipSdk D]

/-! ### Callbacks and masks -/

/-- The callbacks of an object as `ApplicationInit` installs them. -/
structure DeviceObject.Wired (dev : DeviceObject D) : Prop where
  onOff : dev.onOffChangedCb =
    some (if dev.dimmer.isSome then .dimmableBridge else .handleDeviceOnOffStatusChanged)
  dimmable : ∀ dimmer, dev.dimmer = some dimmer →
    dimmer.mChangedCb = some .handleDeviceDimmableStatusChanged

/-- The change bits are pairwise disjoint. -/
theorem changeBits_and (D : Type) [ChipSdk D] :
    (ChipSdk.kChangedReachable D &&& ChipSdk.kChangedName D = 0 ∧
      ChipSdk.kChangedReachable D &&& ChipSdk.kChangedLocation D = 0 ∧
      ChipSdk.kChangedReachable D &&& ChipSdk.kChangedOnOff D = 0 ∧
      ChipSdk.kChangedReachable D &&& kChangedLevel D = 0) ∧
    (ChipSdk.kChangedName D &&& ChipSdk.kChangedLocation D = 0 ∧
      ChipSdk.kChangedName D &&& ChipSdk.kChangedOnOff D = 0 ∧
      ChipSdk.kChangedName D &&& kChangedLevel D = 0) ∧
    (ChipSdk.kChangedLocation D &&& ChipSdk.kChangedOnOff D = 0 ∧
      ChipSdk.kChangedLocation D &&& kChangedLevel D = 0) ∧
    ChipSdk.kChangedOnOff D &&& kChangedLevel D = 0 := by
  simpa [List.pairwise_cons, kChangedLevel] using @ChipSdk.changeBits_disjoint D _

theorem changeBits_ne_zero (D : Type) [ChipSdk D] :
    ChipSdk.kChangedReachable D ≠ 0 ∧ ChipSdk.kChangedName D ≠ 0 ∧ ChipSdk.kChangedOnOff D ≠ 0 ∧
      kChangedLevel D ≠ 0 := by
  have nonzero := @ChipSdk.changeBits_ne_zero D _
  refine ⟨nonzero _ (by simp), nonzero _ (by simp), nonzero _ (by simp), ?_⟩
  rw [kChangedLevel, Nat.shiftLeft_eq]
  exact Nat.mul_ne_zero (nonzero _ (by simp)) (by decide)

/-! ### What a notification reports -/

section Notify

variable {dev : DeviceObject D}

theorem handleDeviceStatusChanged_reachable :
    handleDeviceStatusChanged dev (ChipSdk.kChangedReachable D) =
      scheduleReportingCallback dev (.bridgedDeviceBasicInformation .reachable) := by
  obtain ⟨⟨reachName, -⟩, -⟩ := changeBits_and D
  obtain ⟨reach, -⟩ := changeBits_ne_zero D
  simp [handleDeviceStatusChanged, reach, reachName]

theorem handleDeviceStatusChanged_name :
    handleDeviceStatusChanged dev (ChipSdk.kChangedName D) =
      scheduleReportingCallback dev (.bridgedDeviceBasicInformation .nodeLabel) := by
  obtain ⟨⟨reachName, -⟩, -⟩ := changeBits_and D
  obtain ⟨-, name, -⟩ := changeBits_ne_zero D
  rw [Nat.and_comm] at reachName
  simp [handleDeviceStatusChanged, name, reachName]

/-- Both handlers report a change of the reachability, of the name and of the OnOff alike. -/
theorem handlers_reachable :
    handleDeviceOnOffStatusChanged dev (ChipSdk.kChangedReachable D) =
        scheduleReportingCallback dev (.bridgedDeviceBasicInformation .reachable) ∧
      handleDeviceDimmableStatusChanged dev (ChipSdk.kChangedReachable D) =
        scheduleReportingCallback dev (.bridgedDeviceBasicInformation .reachable) := by
  obtain ⟨⟨reachName, reachLocation, reachOnOff, reachLevel⟩, -⟩ := changeBits_and D
  obtain ⟨reach, -⟩ := changeBits_ne_zero D
  simp [handleDeviceOnOffStatusChanged, handleDeviceDimmableStatusChanged, Nat.and_or_distrib_left,
    reach, reachName, reachLocation, reachOnOff, reachLevel, handleDeviceStatusChanged_reachable]

theorem handlers_name :
    handleDeviceOnOffStatusChanged dev (ChipSdk.kChangedName D) =
        scheduleReportingCallback dev (.bridgedDeviceBasicInformation .nodeLabel) ∧
      handleDeviceDimmableStatusChanged dev (ChipSdk.kChangedName D) =
        scheduleReportingCallback dev (.bridgedDeviceBasicInformation .nodeLabel) := by
  obtain ⟨⟨reachName, -⟩, ⟨nameLocation, nameOnOff, nameLevel⟩, -⟩ := changeBits_and D
  obtain ⟨-, name, -⟩ := changeBits_ne_zero D
  rw [Nat.and_comm] at reachName
  simp [handleDeviceOnOffStatusChanged, handleDeviceDimmableStatusChanged, Nat.and_or_distrib_left,
    name, reachName, nameLocation, nameOnOff, nameLevel, handleDeviceStatusChanged_name]

theorem handlers_onOff :
    handleDeviceOnOffStatusChanged dev (ChipSdk.kChangedOnOff D) =
        scheduleReportingCallback dev (.onOff .onOff) ∧
      handleDeviceDimmableStatusChanged dev (ChipSdk.kChangedOnOff D) =
        scheduleReportingCallback dev (.onOff .onOff) := by
  obtain ⟨⟨-, -, reachOnOff, -⟩, ⟨-, nameOnOff, -⟩, ⟨locationOnOff, -⟩, onOffLevel⟩ :=
    changeBits_and D
  obtain ⟨-, -, onOff, -⟩ := changeBits_ne_zero D
  rw [Nat.and_comm] at reachOnOff nameOnOff locationOnOff
  simp [handleDeviceOnOffStatusChanged, handleDeviceDimmableStatusChanged, Nat.and_or_distrib_left,
    onOff, reachOnOff, nameOnOff, locationOnOff, onOffLevel]

theorem handler_level :
    handleDeviceDimmableStatusChanged dev (kChangedLevel D) =
      scheduleReportingCallback dev (.levelControl .currentLevel) := by
  obtain ⟨⟨-, -, -, reachLevel⟩, ⟨-, -, nameLevel⟩, -, onOffLevel⟩ := changeBits_and D
  obtain ⟨-, -, -, level⟩ := changeBits_ne_zero D
  rw [Nat.and_comm] at reachLevel nameLevel onOffLevel
  simp [handleDeviceDimmableStatusChanged, Nat.and_or_distrib_left, level, reachLevel, nameLevel,
    onOffLevel]

/-- **A wired object delivers every notification**: what both handlers report for a mask is what the
object reports, whatever its class and whichever way the setter notifies. -/
theorem DeviceObject.Wired.delivers (wired : dev.Wired) {mask : Nat} {reports : List Report}
    (alike : handleDeviceOnOffStatusChanged dev mask = reports ∧
      handleDeviceDimmableStatusChanged dev mask = reports) :
    dev.onOffCallback mask = reports ∧ dev.handleDeviceChange mask = reports := by
  have callback := wired.onOff
  unfold handleDeviceChange onOffCallback
  cases isDimmer : dev.dimmer with
  | none =>
    rw [isDimmer] at callback
    simp [callback, ChipSdk.deviceOnOffHandleDeviceChange_eq, alike.1]
  | some dimmer =>
    rw [isDimmer] at callback
    simp [callback, dimmableCallback, wired.dimmable dimmer isDimmer, alike.2]

end Notify

/-! ### What a setter reports -/

/-- Report an attribute unless it is unchanged. -/
def reportUnless (unchanged : Prop) [Decidable unchanged] (dev : DeviceObject D)
    (path : AttributePath) : List Report :=
  if unchanged then [] else scheduleReportingCallback dev path

section Setters

variable {dev : DeviceObject D}

theorem DeviceObject.Wired.setOnOff_reports (wired : dev.Wired) (on : Bool) :
    (dev.setOnOff on).2 = reportUnless (dev.isOn = on) dev (.onOff .onOff) := by
  rw [DeviceObject.setOnOff, DeviceObject.applySetter, ChipSdk.notified_setOnOff, reportUnless]
  by_cases same : dev.isOn = on
  · rw [if_pos same, if_pos (by exact same)]
    rfl
  · rw [if_neg same, if_neg (by exact same), List.flatMap_singleton, DeviceObject.notify]
    exact (wired.delivers handlers_onOff).1

theorem DeviceObject.Wired.setReachable_reports (wired : dev.Wired) (reachable : Bool) :
    (dev.setReachable reachable).2 = reportUnless (dev.isReachable = reachable) dev
      (.bridgedDeviceBasicInformation .reachable) := by
  rw [DeviceObject.setReachable, DeviceObject.applySetter, ChipSdk.notified_setReachable,
    reportUnless]
  by_cases same : dev.isReachable = reachable
  · rw [if_pos same, if_pos (by exact same)]
    rfl
  · rw [if_neg same, if_neg (by exact same), List.flatMap_singleton, DeviceObject.notify]
    exact (wired.delivers handlers_reachable).2

theorem DeviceObject.Wired.setName_reports (wired : dev.Wired) (name : CppString) :
    (dev.setName name).2 = reportUnless (dev.getName = ChipSdk.storedName D name) dev
      (.bridgedDeviceBasicInformation .nodeLabel) := by
  rw [DeviceObject.setName, DeviceObject.applySetter, ChipSdk.notified_setName, reportUnless]
  by_cases same : dev.getName = ChipSdk.storedName D name
  · rw [if_pos same, if_pos (by exact same)]
    rfl
  · rw [if_neg same, if_neg (by exact same), List.flatMap_singleton, DeviceObject.notify]
    exact (wired.delivers handlers_name).2

theorem DeviceObject.Wired.setLevel_reports (wired : dev.Wired) {dimmer : Dimmer}
    (isDimmer : dev.dimmer = some dimmer) (level : UInt8) :
    (dev.setLevel dimmer level).2 = reportUnless (dimmer.mLevel = level) dev
      (.levelControl .currentLevel) := by
  rw [DeviceObject.setLevel, reportUnless]
  by_cases same : dimmer.mLevel = level
  · rw [if_pos same, if_neg (not_not_intro same.symm)]
  · rw [if_neg same, if_pos (Ne.symm same), DeviceObject.dimmableCallback,
      wired.dimmable dimmer isDimmer]
    exact handler_level

end Setters

/-! ### What a step reports -/

/-- Objects of one wiring: same endpoint, same callbacks. -/
structure DeviceObject.SameWiring (after before : DeviceObject D) : Prop where
  endpoint : after.getEndpointId = before.getEndpointId
  onOff : after.onOffChangedCb = before.onOffChangedCb
  dimmable : after.dimmer.map Dimmer.mChangedCb = before.dimmer.map Dimmer.mChangedCb

/-- The reports of all attributes that differ. -/
def changeReports (before after : DeviceObject D) : List Report :=
  reportUnless (before.isReachable = after.isReachable) before
      (.bridgedDeviceBasicInformation .reachable) ++
    reportUnless (before.isOn = after.isOn) before (.onOff .onOff) ++
    reportUnless (before.getLevel = after.getLevel) before (.levelControl .currentLevel) ++
    reportUnless (before.getName = after.getName) before (.bridgedDeviceBasicInformation .nodeLabel)

namespace DeviceObject

variable {dev after before : DeviceObject D}

theorem SameWiring.refl (dev : DeviceObject D) : dev.SameWiring dev := ⟨rfl, rfl, rfl⟩

theorem SameWiring.trans {first second third : DeviceObject D} (left : first.SameWiring second)
    (right : second.SameWiring third) : first.SameWiring third :=
  ⟨left.endpoint.trans right.endpoint, left.onOff.trans right.onOff,
    left.dimmable.trans right.dimmable⟩

theorem Wired.of_sameWiring (wired : before.Wired) (same : after.SameWiring before) :
    after.Wired := by
  have sameClass : after.dimmer.isSome = before.dimmer.isSome := by
    rw [← @Option.isSome_map _ _ Dimmer.mChangedCb, same.dimmable, Option.isSome_map]
  refine ⟨by rw [same.onOff, wired.onOff, sameClass], fun dimmer isDimmer => ?_⟩
  have callback := same.dimmable
  rw [isDimmer, Option.map_some] at callback
  obtain ⟨old, wasDimmer, sameCallback⟩ := Option.map_eq_some_iff.mp callback.symm
  exact sameCallback.symm.trans (wired.dimmable old wasDimmer)

theorem setOnOff_wiring (on : Bool) : (dev.setOnOff on).1.SameWiring dev :=
  ⟨setOnOff_getEndpointId dev on, rfl, rfl⟩

theorem setReachable_wiring (reachable : Bool) : (dev.setReachable reachable).1.SameWiring dev :=
  ⟨setReachable_getEndpointId dev reachable, rfl, rfl⟩

theorem setName_wiring (name : CppString) : (dev.setName name).1.SameWiring dev :=
  ⟨setName_getEndpointId dev name, rfl, rfl⟩

theorem setLevel_wiring {dimmer : Dimmer} (isDimmer : dev.dimmer = some dimmer) (level : UInt8) :
    (dev.setLevel dimmer level).1.SameWiring dev :=
  ⟨rfl, rfl, by rw [setLevel_dimmer, isDimmer]; rfl⟩

end DeviceObject

section Change

variable {dev : DeviceObject D}

theorem reportUnless_congr {first second : Prop} [Decidable first] [Decidable second]
    (same : first ↔ second) (path : AttributePath) :
    reportUnless first dev path = reportUnless second dev path := by
  unfold reportUnless
  by_cases holds : second
  · rw [if_pos (same.mpr holds), if_pos holds]
  · rw [if_neg (mt same.mp holds), if_neg holds]

@[simp] theorem reportUnless_true {unchanged : Prop} [Decidable unchanged] (same : unchanged)
    (path : AttributePath) : reportUnless unchanged dev path = [] := if_pos same

theorem changeReports_self (dev : DeviceObject D) : changeReports dev dev = [] := by
  simp [changeReports]

theorem changeReports_setOnOff (on : Bool) : changeReports dev (dev.setOnOff on).1 =
    reportUnless (dev.isOn = on) dev (.onOff .onOff) := by
  simp [changeReports, DeviceObject.getLevel]

theorem changeReports_setName (name : CppString) : changeReports dev (dev.setName name).1 =
    reportUnless (dev.getName = ChipSdk.storedName D name) dev
      (.bridgedDeviceBasicInformation .nodeLabel) := by
  simp [changeReports, DeviceObject.getLevel]

theorem changeReports_setLevel {dimmer : Dimmer} (isDimmer : dev.dimmer = some dimmer)
    (level : UInt8) : changeReports dev (dev.setLevel dimmer level).1 =
      reportUnless (dimmer.mLevel = level) dev (.levelControl .currentLevel) := by
  have levels : dev.getLevel = (dev.setLevel dimmer level).1.getLevel ↔ dimmer.mLevel = level := by
    simp [DeviceObject.getLevel, isDimmer]
  rw [changeReports, reportUnless_congr levels]
  simp

end Change

/-- The NodeLabel report of an accepted label write, on top of the one its setter makes. -/
def labelReports (dev : DeviceObject D) : Input → Reply → List Report
  | .write _ (.bridgedDeviceBasicInformation .nodeLabel) _, reply =>
      if reply.status = .success then
        scheduleReportingCallback dev (.bridgedDeviceBasicInformation .nodeLabel) else []
  | _, _ => []

namespace Light

section Step

variable {light : Light D} (now : TimePoint)

/-- A step keeps the wiring and reports what it changes, and `extra`. -/
structure Reporting (light : Light D) (result : Light D × Reply) (extra : List Report) : Prop where
  wiring : result.1.object.SameWiring light.object
  reported : result.2.reported = changeReports light.object result.1.object ++ extra

/-- A step that keeps the object and reports nothing. -/
theorem Reporting.silent {result : Light D × Reply} (object : result.1.object = light.object)
    (quiet : result.2.reported = []) : light.Reporting result [] :=
  ⟨by rw [object]; exact .refl _, by rw [object, changeReports_self, quiet, List.append_nil]⟩

theorem writeOnOff_reporting (wired : light.object.Wired) (attributeId : OnOffAttribute)
    (buffer : Buffer) : light.Reporting (light.writeOnOff now attributeId buffer) [] := by
  unfold writeOnOff
  split
  · refine ⟨DeviceObject.setOnOff_wiring _, ?_⟩
    rw [changeReports_setOnOff, List.append_nil]
    exact wired.setOnOff_reports _
  · exact .silent rfl rfl

theorem writeLevel_reporting (wired : light.object.Wired) {dimmer : Dimmer}
    (isDimmer : light.object.dimmer = some dimmer) (attributeId : LevelControlAttribute)
    (buffer : Buffer) : light.Reporting (light.writeLevel now dimmer attributeId buffer) [] := by
  unfold writeLevel
  split
  · dsimp only
    split
    · exact .silent rfl rfl
    · split
      · exact .silent rfl rfl
      · refine ⟨DeviceObject.setLevel_wiring isDimmer _, ?_⟩
        rw [changeReports_setLevel isDimmer, List.append_nil]
        exact wired.setLevel_reports isDimmer _
  · exact .silent rfl rfl

theorem writeBridgedDeviceBasic_reporting (wired : light.object.Wired) (endpoint : EndpointId)
    (attributeId : BridgedDeviceBasicAttribute) (buffer : Buffer) :
    light.Reporting (light.writeBridgedDeviceBasic attributeId buffer)
      (labelReports light.object (.write endpoint (.bridgedDeviceBasicInformation attributeId) buffer)
        (light.writeBridgedDeviceBasic attributeId buffer).2) := by
  unfold writeBridgedDeviceBasic
  by_cases other : attributeId ≠ .nodeLabel
  · rw [if_pos other]
    have noLabel : labelReports light.object
        (.write endpoint (.bridgedDeviceBasicInformation attributeId) buffer)
        { status := .unsupportedWrite } = [] := by
      unfold labelReports
      split <;> rfl
    rw [noLabel]
    exact .silent rfl rfl
  · obtain rfl := not_not.mp other
    rw [if_neg other]
    dsimp only
    split
    · exact .silent rfl rfl
    · have again : ∀ name, handleDeviceStatusChanged (light.object.setName name).1
          (ChipSdk.kChangedName D) = scheduleReportingCallback light.object
            (.bridgedDeviceBasicInformation .nodeLabel) := by
        intro name
        rw [handleDeviceStatusChanged_name, scheduleReportingCallback,
          DeviceObject.setName_getEndpointId, scheduleReportingCallback]
      refine ⟨DeviceObject.setName_wiring _, ?_⟩
      rw [changeReports_setName]
      exact congrArg₂ (· ++ ·) (wired.setName_reports _) (again _)

/-- A refused write, or one of an attribute no handler changes. -/
theorem Reporting.labelReports_nil {endpoint : EndpointId} {path : AttributePath} {buffer : Buffer}
    {reply : Reply} (other : path ≠ .bridgedDeviceBasicInformation .nodeLabel ∨
      reply.status ≠ .success) :
    labelReports light.object (.write endpoint path buffer) reply = [] := by
  unfold labelReports
  split
  · rename_i same
    cases same
    exact if_neg (other.resolve_left fun different => different rfl)
  · rfl

theorem write_reporting (wired : light.object.Wired) (endpoint : EndpointId)
    (path : AttributePath) (buffer : Buffer) :
    light.Reporting (light.write now path buffer)
      (labelReports light.object (.write endpoint path buffer)
        (light.write now path buffer).2) := by
  unfold write
  split
  · cases path with
    | onOff attributeId =>
      rw [Reporting.labelReports_nil (Or.inl (by simp))]
      exact writeOnOff_reporting now wired attributeId buffer
    | levelControl attributeId =>
      rw [Reporting.labelReports_nil (Or.inl (by simp))]
      cases isDimmer : light.object.dimmer with
      | none => exact .silent rfl rfl
      | some dimmer => exact writeLevel_reporting now wired isDimmer attributeId buffer
    | bridgedDeviceBasicInformation attributeId =>
      exact writeBridgedDeviceBasic_reporting wired endpoint attributeId buffer
    | temperatureMeasurement _ =>
      rw [Reporting.labelReports_nil (Or.inl (by simp))]
      exact .silent rfl rfl
    | other _ _ =>
      rw [Reporting.labelReports_nil (Or.inl (by simp))]
      exact .silent rfl rfl
  · rw [Reporting.labelReports_nil (Or.inr (by simp))]
    exact .silent rfl rfl

end Step

/-! ### What an event reports -/

section Event

variable (now : TimePoint) (ctx : WemoEventContext) {dev : DeviceObject D}

theorem reportUnless_endpoint {unchanged : Prop} [Decidable unchanged] {other : DeviceObject D}
    (same : other.getEndpointId = dev.getEndpointId) (path : AttributePath) :
    reportUnless unchanged other path = reportUnless unchanged dev path := by
  rw [reportUnless, reportUnless, scheduleReportingCallback, same, scheduleReportingCallback]

theorem reached_reports (wired : dev.Wired) :
    (reached ctx dev).1.SameWiring dev ∧ (reached ctx dev).1.getName = dev.getName ∧
      (reached ctx dev).2 = reportUnless (dev.isReachable = ctx.isOnline) dev
        (.bridgedDeviceBasicInformation .reachable) := by
  unfold reached
  split
  · exact ⟨DeviceObject.setReachable_wiring _, DeviceObject.setReachable_getName _ _,
      wired.setReachable_reports _⟩
  · rename_i same
    exact ⟨.refl _, rfl, (reportUnless_true (not_not.mp same) _).symm⟩

/-- The OnOff part sets the OnOff or leaves the object alone. -/
theorem handleEventOnOff_object (entry : BridgedWemoLight) (dev : DeviceObject D) :
    (handleEventOnOff now ctx entry dev).2 = (dev, []) ∨
      ∃ on, (handleEventOnOff now ctx entry dev).2 = dev.setOnOff on := by
  unfold handleEventOnOff
  dsimp only
  generalize (if decide (ctx.state ≠ 0) = true then (1 : Int) else 0) = newOnInt
  split
  · exact Or.inr ⟨_, rfl⟩
  · exact Or.inl rfl

theorem handleEventOnOff_reports (wired : dev.Wired) (entry : BridgedWemoLight) :
    (handleEventOnOff now ctx entry dev).2.1.SameWiring dev ∧
      (handleEventOnOff now ctx entry dev).2.1.getName = dev.getName ∧
      (handleEventOnOff now ctx entry dev).2.2 =
        reportUnless (dev.isOn = (handleEventOnOff now ctx entry dev).2.1.isOn) dev
          (.onOff .onOff) := by
  rcases handleEventOnOff_object now ctx entry dev with same | ⟨on, switched⟩
  · rw [same]
    exact ⟨.refl _, rfl, (reportUnless_true rfl _).symm⟩
  · rw [switched, wired.setOnOff_reports]
    refine ⟨DeviceObject.setOnOff_wiring _, DeviceObject.setOnOff_getName _ _, ?_⟩
    exact reportUnless_congr (by rw [DeviceObject.setOnOff_isOn]) _

theorem handleEventLevel_reports (wired : dev.Wired) (entry : BridgedWemoLight) {dimmer : Dimmer}
    (isDimmer : dev.dimmer = some dimmer) :
    (handleEventLevel now ctx entry dev dimmer).2.1.SameWiring dev ∧
      (handleEventLevel now ctx entry dev dimmer).2.1.getName = dev.getName ∧
      (handleEventLevel now ctx entry dev dimmer).2.2 =
        reportUnless (dev.getLevel = (handleEventLevel now ctx entry dev dimmer).2.1.getLevel) dev
          (.levelControl .currentLevel) := by
  unfold handleEventLevel
  dsimp only
  split
  · refine ⟨DeviceObject.setLevel_wiring isDimmer _, rfl, ?_⟩
    rw [wired.setLevel_reports isDimmer]
    exact reportUnless_congr (by simp [DeviceObject.getLevel, isDimmer]) _
  · exact ⟨.refl _, rfl, (reportUnless_true rfl _).symm⟩

/-- A step that leaves the name alone, with its reports attribute by attribute. -/
theorem Reporting.of_parts {light after : Light D} {reply : Reply} {reach onOff level : List Report}
    (wiring : after.object.SameWiring light.object)
    (name : after.object.getName = light.object.getName)
    (reports : reply.reported = reach ++ onOff ++ level)
    (reachPart : reach = reportUnless (light.object.isReachable = after.object.isReachable)
      light.object (.bridgedDeviceBasicInformation .reachable))
    (onOffPart : onOff = reportUnless (light.object.isOn = after.object.isOn) light.object
      (.onOff .onOff))
    (levelPart : level = reportUnless (light.object.getLevel = after.object.getLevel) light.object
      (.levelControl .currentLevel)) : light.Reporting (after, reply) [] := by
  refine ⟨wiring, ?_⟩
  rw [reports, reachPart, onOffPart, levelPart, changeReports, reportUnless_true name.symm,
    List.append_nil, List.append_nil]

/-- **An event reports what it changes.** -/
theorem event_reporting {light : Light D} (wired : light.object.Wired)
    (rightClass : light.object.dimmer.isSome = light.entry.isDimmable) :
    light.Reporting (light.event now ctx) [] := by
  obtain ⟨reachedWiring, reachedName, reachedReports⟩ := reached_reports ctx wired
  have reachedWired := wired.of_sameWiring reachedWiring
  obtain ⟨onOffWiring, onOffName, onOffReports⟩ :=
    handleEventOnOff_reports now ctx reachedWired light.entry
  rw [reportUnless_endpoint reachedWiring.endpoint, reached_isOn] at onOffReports
  have reachPart : ∀ after : DeviceObject D, after.isReachable = ctx.isOnline →
      (reached ctx light.object).2 = reportUnless (light.object.isReachable = after.isReachable)
        light.object (.bridgedDeviceBasicInformation .reachable) := by
    intro after reach
    rw [reachedReports]
    exact reportUnless_congr (by rw [reach]) _
  have onOffReach := (handleEventOnOff_isReachable now ctx light.entry
    (reached ctx light.object).1).trans (reached_isReachable ctx light.object)
  have levelPart : ∀ after : DeviceObject D, after.dimmer = light.object.dimmer →
      [] = reportUnless (light.object.getLevel = after.getLevel) light.object
        (.levelControl .currentLevel) := by
    intro after same
    refine (reportUnless_true ?_ _).symm
    rw [DeviceObject.getLevel, DeviceObject.getLevel, same]
  have onOffDimmer := (handleEventOnOff_dimmer now ctx light.entry
    (reached ctx light.object).1).trans (reached_dimmer ctx light.object)
  rcases light.event_cases now ctx rightClass with ⟨-, eq⟩ |
    ⟨-, ⟨-, eq⟩ | ⟨-, -, dimmer, isDimmer, eq⟩⟩
  · rw [eq]
    exact .of_parts reachedWiring reachedName (by simp) (reachPart _ (reached_isReachable ctx _))
      (reportUnless_true (reached_isOn ctx _).symm _).symm (levelPart _ (reached_dimmer ctx _))
  · rw [eq]
    exact .of_parts (onOffWiring.trans reachedWiring) (onOffName.trans reachedName) (by simp)
      (reachPart _ onOffReach) onOffReports (levelPart _ onOffDimmer)
  · obtain ⟨levelWiring, levelName, levelReports⟩ := handleEventLevel_reports now ctx
      (reachedWired.of_sameWiring onOffWiring) (light.entry.clearExpiredOnOff now)
      (onOffDimmer.trans isDimmer)
    have sameLevel : (handleEventOnOff now ctx light.entry
        (reached ctx light.object).1).2.1.getLevel = light.object.getLevel := by
      rw [DeviceObject.getLevel, onOffDimmer, DeviceObject.getLevel]
    rw [reportUnless_endpoint (onOffWiring.trans reachedWiring).endpoint, sameLevel] at levelReports
    dsimp only at eq
    rw [handleEventOnOff_entry] at eq
    rw [eq]
    refine .of_parts (levelWiring.trans (onOffWiring.trans reachedWiring))
      (levelName.trans (onOffName.trans reachedName)) rfl ?_ ?_ levelReports
    · exact reachPart _ ((handleEventLevel_isReachable now ctx _ _ dimmer).trans onOffReach)
    · rw [handleEventLevel_isOn]
      exact onOffReports

end Event

/-- **What a step reports**: the attributes it changes, and once more the NodeLabel on an accepted
label write. -/
theorem step_reporting {light : Light D} (now : TimePoint) (wired : light.object.Wired)
    (rightClass : light.object.dimmer.isSome = light.entry.isDimmable) (input : Input) :
    light.Reporting (light.step now input)
      (labelReports light.object input (light.step now input).2) := by
  cases input with
  | write endpoint path buffer =>
    rw [step]
    split
    · exact write_reporting now wired endpoint path buffer
    · rw [Reporting.labelReports_nil (Or.inr (by simp))]
      exact .silent rfl rfl
  | read endpoint path maxReadLength =>
    refine .silent rfl ?_
    rw [step]
    split
    · exact (light.read_quiet path maxReadLength).2
    · rfl
  | event ctx => exact event_reporting now ctx wired rightClass

end Light

/-! ### The reported attributes of a published light -/

/-- The attributes that are reported. -/
inductive ReportedAttribute where
  | onOff
  | currentLevel
  | reachable
  | nodeLabel
  deriving DecidableEq, Repr

/-- What an attribute shows: the label whole, before it is encoded. -/
inductive AttributeContent where
  | flag (value : Bool)
  | level (value : Option UInt8)
  | label (value : CppString)
  deriving DecidableEq, Repr

namespace ReportedAttribute

def path : ReportedAttribute → AttributePath
  | .onOff => .onOff .onOff
  | .currentLevel => .levelControl .currentLevel
  | .reachable => .bridgedDeviceBasicInformation .reachable
  | .nodeLabel => .bridgedDeviceBasicInformation .nodeLabel

def content (dev : DeviceObject D) : ReportedAttribute → AttributeContent
  | .onOff => .flag dev.isOn
  | .currentLevel => .level dev.getLevel
  | .reachable => .flag dev.isReachable
  | .nodeLabel => .label dev.getName

theorem path_injective : Function.Injective path := by
  intro first second same
  cases first <;> cases second <;> first | rfl | cases same

end ReportedAttribute

/-- The declared size of the reported attributes. -/
def AttributePath.declaredSize : AttributePath → Nat
  | .onOff .onOff => 1
  | .levelControl .currentLevel => 1
  | .bridgedDeviceBasicInformation .reachable => 1
  | .bridgedDeviceBasicInformation .nodeLabel => kNodeLabelSize
  | _ => 0

/-- What a subscriber reads on a report. -/
def Bridge.readReported (bridge : Bridge D) (report : Report) : Reply :=
  (bridge.step (0, .read report.endpoint report.path report.path.declaredSize)).2

/-- The report of an attribute of a published light. -/
def PublishedLight.report (x : PublishedLight) (attr : ReportedAttribute) : Report :=
  { endpoint := x.endpoint, path := attr.path }

/-- What an attribute of a published light shows. -/
def Bridge.contentOf (bridge : Bridge D) (x : PublishedLight) (attr : ReportedAttribute) :
    Option AttributeContent :=
  (bridge.lightAt x.device).map fun light => attr.content light.object

theorem mem_reportUnless {unchanged : Prop} [Decidable unchanged] {dev : DeviceObject D}
    {path : AttributePath} {report : Report} :
    report ∈ reportUnless unchanged dev path ↔
      ¬ unchanged ∧ report = { endpoint := dev.getEndpointId, path := path } := by
  unfold reportUnless scheduleReportingCallback
  by_cases same : unchanged
  · simp [same]
  · simp [same]

/-- **The reports of a change** are those of the attributes that differ. -/
theorem mem_changeReports {before after : DeviceObject D} {report : Report} :
    report ∈ changeReports before after ↔ ∃ attr : ReportedAttribute,
      attr.content before ≠ attr.content after ∧
        report = { endpoint := before.getEndpointId, path := attr.path } := by
  simp only [changeReports, List.mem_append, mem_reportUnless]
  constructor
  · rintro (((⟨changed, rfl⟩ | ⟨changed, rfl⟩) | ⟨changed, rfl⟩) | ⟨changed, rfl⟩)
    · exact ⟨.reachable, fun same => changed (AttributeContent.flag.inj same), rfl⟩
    · exact ⟨.onOff, fun same => changed (AttributeContent.flag.inj same), rfl⟩
    · exact ⟨.currentLevel, fun same => changed (AttributeContent.level.inj same), rfl⟩
    · exact ⟨.nodeLabel, fun same => changed (AttributeContent.label.inj same), rfl⟩
  · rintro ⟨attr, changed, rfl⟩
    cases attr with
    | reachable => exact Or.inl (Or.inl (Or.inl ⟨fun same => changed (congrArg _ same), rfl⟩))
    | onOff => exact Or.inl (Or.inl (Or.inr ⟨fun same => changed (congrArg _ same), rfl⟩))
    | currentLevel => exact Or.inl (Or.inr ⟨fun same => changed (congrArg _ same), rfl⟩)
    | nodeLabel => exact Or.inr ⟨fun same => changed (congrArg _ same), rfl⟩

/-- An extra report is one of the NodeLabel, of an accepted label write. -/
theorem mem_labelReports {dev : DeviceObject D} {input : Input} {reply : Reply} {report : Report}
    (member : report ∈ labelReports dev input reply) :
    report = { endpoint := dev.getEndpointId, path := ReportedAttribute.nodeLabel.path } := by
  unfold labelReports at member
  split at member
  · split at member
    · exact List.mem_singleton.mp member
    · cases member
  · cases member

/-- What is read is what the attribute shows. -/
theorem Light.read_congr {first second : Light D} (now : TimePoint)
    (sameClass : first.entry.isDimmable = second.entry.isDimmable) {attr : ReportedAttribute}
    (same : attr.content first.object = attr.content second.object) (endpoint : EndpointId)
    (maxReadLength : Nat) :
    (first.step now (.read endpoint attr.path maxReadLength)).2 =
      (second.step now (.read endpoint attr.path maxReadLength)).2 := by
  have declares : ∀ cluster, first.declares cluster = second.declares cluster := fun cluster => by
    rw [Light.declares, sameClass, Light.declares]
  have read : first.read attr.path maxReadLength = second.read attr.path maxReadLength := by
    cases attr with
    | onOff =>
      have value : first.object.isOn = second.object.isOn := AttributeContent.flag.inj same
      simp only [ReportedAttribute.path, Light.read, handleReadOnOffAttribute, value, reduceCtorEq,
        false_and, if_false]
    | currentLevel =>
      have value : first.object.getLevel = second.object.getLevel := AttributeContent.level.inj same
      simp only [DeviceObject.getLevel] at value
      simp only [ReportedAttribute.path, Light.read]
      cases atFirst : first.object.dimmer with
      | none =>
        rw [atFirst, Option.map_none, eq_comm, Option.map_eq_none_iff] at value
        rw [value]
      | some dimmer =>
        rw [atFirst, Option.map_some, eq_comm, Option.map_eq_some_iff] at value
        obtain ⟨other, atSecond, level⟩ := value
        rw [atSecond]
        simp only [handleReadLevelControlAttribute, level]
    | reachable =>
      have value : first.object.isReachable = second.object.isReachable :=
        AttributeContent.flag.inj same
      simp only [ReportedAttribute.path, Light.read, handleReadBridgedDeviceBasicAttribute, value,
        reduceCtorEq, false_and, if_false]
    | nodeLabel =>
      have value : first.object.getName = second.object.getName := AttributeContent.label.inj same
      simp only [ReportedAttribute.path, Light.read, handleReadBridgedDeviceBasicAttribute, value,
        reduceCtorEq, false_and, if_false]
  rw [Light.step, Light.step, declares, read]

/-! ### A step of the bridge -/

/-- Every published light is wired. -/
structure Bridge.Wired (bridge : Bridge D) : Prop where
  published : bridge.Published
  objects : ∀ x light, bridge.Publishes x → bridge.lightAt x.device = some light →
    light.object.Wired

/-- **A step reports its changes**: every attribute of a published light that changes is reported;
apart from NodeLabels no unchanged one is; and nothing else is. -/
structure Bridge.ReportsChanges (bridge : Bridge D) (x : PublishedLight)
    (result : Bridge D × Reply) : Prop where
  changed : ∀ attr, result.1.contentOf x attr ≠ bridge.contentOf x attr →
    x.report attr ∈ result.2.reported
  unchanged : ∀ attr, attr ≠ .nodeLabel → x.report attr ∈ result.2.reported →
    result.1.contentOf x attr ≠ bridge.contentOf x attr
  only : ∀ report ∈ result.2.reported, ∃ y attr, bridge.Publishes y ∧ report = y.report attr

namespace Bridge

variable {bridge : Bridge D} {x : PublishedLight} (now : TimePoint) (input : Input)

/-- The light of a step, wired and of its class. -/
theorem Wired.step_reporting (wired : bridge.Wired) (ofX : bridge.Publishes x) {light : Light D}
    (found : bridge.lightAt x.device = some light) :
    light.Reporting (light.step now input)
      (labelReports light.object input (light.step now input).2) :=
  Light.step_reporting now (wired.objects x light ofX found) (ofX.backs found).rightClass input

/-- **Every step keeps the wiring.** -/
theorem Wired.step (wired : bridge.Wired) : (bridge.step (now, input)).1.Wired := by
  refine ⟨wired.published.step now input, fun x after ofXAfter foundAfter => ?_⟩
  have ofX := (wired.published.step_publishes_iff now input x).mp ofXAfter
  obtain ⟨light, found, -⟩ := ofX.light
  by_cases aimed : bridge.target input = some x.device
  · have stepped := (wired.published.step_light now input ofX aimed found).1
    obtain rfl : (light.step now input).1 = after := Option.some.inj (stepped.symm.trans foundAfter)
    exact (wired.objects x light ofX found).of_sameWiring
      (wired.step_reporting now input ofX found).wiring
  · rw [wired.published.lightAt_step_elsewhere now input aimed] at foundAfter
    exact wired.objects x after ofX foundAfter

/-- **What a step of the bridge reports.** -/
theorem Wired.step_reports (wired : bridge.Wired) (ofX : bridge.Publishes x) :
    bridge.ReportsChanges x (bridge.step (now, input)) := by
  have published := wired.published
  rcases published.step_cases now input with
    ⟨-, same⟩ | ⟨y, light, ofY, aimed, found, backs, stepEq⟩
  · have quiet : (missedReply input).reported = [] := by cases input <;> rfl
    rw [same]
    refine ⟨fun attr changed => absurd rfl changed, fun attr _ member => ?_,
      fun report member => ?_⟩
    · rw [quiet] at member
      cases member
    · rw [quiet] at member
      cases member
  · obtain ⟨foundAfter, reply⟩ := published.step_light now input ofY aimed found
    have reporting := wired.step_reporting now input ofY found
    have ofReport : ∀ report ∈ (light.step now input).2.reported, ∃ attr : ReportedAttribute,
        report = y.report attr ∧ (attr ≠ .nodeLabel →
          attr.content light.object ≠ attr.content (light.step now input).1.object) := by
      intro report member
      rw [reporting.reported, List.mem_append] at member
      rcases member with changed | label
      · obtain ⟨attr, different, rfl⟩ := mem_changeReports.mp changed
        exact ⟨attr, by rw [backs.endpoint]; rfl, fun _ => different⟩
      · refine ⟨.nodeLabel, ?_, fun other => absurd rfl other⟩
        rw [mem_labelReports label, backs.endpoint]
        rfl
    refine ⟨fun attr changed => ?_, fun attr other member => ?_, fun report member => ?_⟩
    · rw [reply]
      by_cases here : y = x
      · subst here
        rw [contentOf, contentOf, foundAfter, found] at changed
        rw [reporting.reported]
        refine List.mem_append_left _ (mem_changeReports.mpr ⟨attr, fun unchanged => ?_, ?_⟩)
        · exact changed (congrArg some unchanged.symm)
        · rw [backs.endpoint]
          rfl
      · refine absurd ?_ changed
        have elsewhere : bridge.target input ≠ some x.device := fun at_ =>
          here (published.eq_of_device ofY ofX (Option.some.inj (aimed.symm.trans at_)))
        rw [contentOf, published.lightAt_step_elsewhere now input elsewhere, contentOf]
    · rw [reply] at member
      obtain ⟨_, sameReport, different⟩ := ofReport _ member
      have endpoint : x.endpoint = y.endpoint := congrArg Report.endpoint sameReport
      obtain rfl := published.eq_of_endpoint ofX ofY endpoint
      obtain rfl := ReportedAttribute.path_injective (congrArg Report.path sameReport)
      rw [contentOf, contentOf, foundAfter, found]
      exact fun same => different other (Option.some.inj same).symm
    · rw [reply] at member
      obtain ⟨attr, sameReport, -⟩ := ofReport report member
      exact ⟨y, attr, ofY, sameReport⟩

/-- A step that changes what a subscriber reads reports it. -/
theorem Wired.step_read (wired : bridge.Wired) (ofX : bridge.Publishes x) (attr : ReportedAttribute)
    (changed : (bridge.step (now, input)).1.readReported (x.report attr) ≠
      bridge.readReported (x.report attr)) :
    x.report attr ∈ (bridge.step (now, input)).2.reported := by
  refine (wired.step_reports now input ofX).changed attr fun same => changed ?_
  obtain ⟨light, found, backs⟩ := ofX.light
  have publishedAfter := wired.published.step now input
  have ofXAfter := (wired.published.step_publishes_iff now input x).mpr ofX
  obtain ⟨after, foundAfter, backsAfter⟩ := ofXAfter.light
  rw [contentOf, contentOf, foundAfter, found] at same
  have aimed := (wired.published.slot_eq_some_iff ofX x.endpoint).mpr rfl
  have aimedAfter := (publishedAfter.slot_eq_some_iff ofXAfter x.endpoint).mpr rfl
  show ((bridge.step (now, input)).1.step (0, .read x.endpoint attr.path _)).2 =
    (bridge.step (0, .read x.endpoint attr.path _)).2
  rw [(publishedAfter.step_light 0 (.read x.endpoint attr.path _) ofXAfter aimedAfter foundAfter).2,
    (wired.published.step_light 0 (.read x.endpoint attr.path _) ofX aimed found).2]
  exact Light.read_congr 0 (backsAfter.isDimmable.trans backs.isDimmable.symm)
    (Option.some.inj same) _ _

end Bridge

/-! ### From a start -/

section Start

variable {heap : Allocator} {lastFixed : EndpointId} {refuses : Nat → EndpointId → Bool}
  {discovered : List WemoDevice} {start : Bridge D}

theorem DeviceObject.SeededAs.wired {object : DeviceObject D} {dev : WemoDevice}
    {endpoint : EndpointId} (seeded : object.SeededAs dev endpoint) : object.Wired := by
  have isDimmer := seeded.dimmer
  have callback := seeded.callback
  cases supportsLevel : dev.supportsLevel with
  | true =>
    rw [supportsLevel, if_pos rfl] at isDimmer
    refine ⟨by simp [callback, isDimmer, supportsLevel], fun dimmer same => ?_⟩
    rw [isDimmer] at same
    cases same
    rfl
  | false =>
    rw [supportsLevel, if_neg Bool.false_ne_true] at isDimmer
    refine ⟨by simp [callback, isDimmer, supportsLevel], fun dimmer same => ?_⟩
    rw [isDimmer] at same
    cases same

/-- **A start wires every light it publishes.** -/
theorem applicationInit_wired
    (starts : applicationInit heap lastFixed refuses discovered = some start) : start.Wired := by
  obtain ⟨plan, lights, -, -, arranged⟩ := applicationInit_arranged starts
  refine ⟨arranged.started.published, fun x light ofX found => ?_⟩
  obtain ⟨i, placed, here, rfl⟩ := (arranged.publishes_iff x).mp ofX
  obtain ⟨object, foundSeeded, seeded⟩ := arranged.lightAt_slot here
  obtain rfl := Option.some.inj (foundSeeded.symm.trans found)
  exact seeded.wired

/-- **Subscribers never miss a change.** After any run from a start, every step reports its changes,
and only those, apart from NodeLabels. So a subscriber that starts with the current values and reads
again on every report it is delivered has the current value of every attribute of a published light
no report waits for. -/
theorem subscribers_never_miss_a_change
    (starts : applicationInit heap lastFixed refuses discovered = some start) {x : PublishedLight}
    (ofX : start.Publishes x) :
    (∀ (inputs : List (TimePoint × Input)) (now : TimePoint) (input : Input),
      ((bridgeMachine D).run start inputs).ReportsChanges x
        (((bridgeMachine D).run start inputs).step (now, input))) ∧
    ∀ (events : List ((TimePoint × Input) ⊕ Report)) (attr : ReportedAttribute),
      let after := ((bridgeMachine D).subscribe Bridge.readReported Reply.reported).run
        { state := start, view := start.readReported, pending := [] } events
      x.report attr ∉ after.pending →
        after.view (x.report attr) = after.state.readReported (x.report attr) := by
  have wired := applicationInit_wired starts
  constructor
  · intro inputs now input
    have wiredAfter : ((bridgeMachine D).run start inputs).Wired :=
      (bridgeMachine D).run_invariant Bridge.Wired (fun bridge timed wired =>
        wired.step timed.1 timed.2) inputs wired
    refine wiredAfter.step_reports now input ?_
    exact ((wired.published.run inputs).2.1 x).mpr ofX
  · intro events attr after notPending
    refine @Machine.agrees_or_pending _ _ _ _ _ _ (bridgeMachine D) Bridge.readReported
      Reply.reported (fun bridge => bridge.Wired ∧ bridge.Publishes x)
      (fun report => ∃ attr, report = x.report attr) ?_ ?_ events
      { state := start, view := start.readReported, pending := [] } ⟨wired, ofX⟩
      (fun _ _ _ => rfl) _ ⟨attr, rfl⟩ notPending
    · rintro bridge ⟨now, input⟩ ⟨wiredNow, ofXNow⟩
      exact ⟨wiredNow.step now input,
        (wiredNow.published.step_publishes_iff now input x).mpr ofXNow⟩
    · rintro bridge ⟨now, input⟩ _ ⟨wiredNow, ofXNow⟩ ⟨attr, rfl⟩ changed
      exact wiredNow.step_read now input ofXNow attr changed

end Start

/-- A level write to the dimmer of the sample home is reported. -/
theorem subscribers_never_miss_a_change_sample :
    sampleDimmer.report .currentLevel ∈
      (sampleHome.step (0, .write 3 (.levelControl .currentLevel) fun _ => 200)).2.reported :=
  ((subscribers_never_miss_a_change sampleHome_starts sampleHome_publishes).1 [] 0 _).changed
    .currentLevel (by decide)

end WemoBridge
