/-
**The round trip of a NodeLabel.**

`HandleWriteBridgedDeviceBasicAttribute` accepts labels of up to `kNodeLabelSize` characters. The
read handler encodes the label into a buffer of `kNodeLabelSize` bytes, of which the length takes
one, and ignores that the encoder has no room. `node_label_kept_iff`: an accepted label is read back
exactly if it has at most 31 characters; a label of 32 is read back as the empty one.
-/

import WemoBridge.Init

namespace WemoBridge

open Library

variable {D : Type} [ChipSdk D]

/-- A write of the NodeLabel of a light. -/
def writeNodeLabel (x : PublishedLight) (buffer : Buffer) : Input :=
  .write x.endpoint (.bridgedDeviceBasicInformation .nodeLabel) buffer

/-- A read of the NodeLabel of a light, with the declared size of the attribute. -/
def readNodeLabel (x : PublishedLight) : Input :=
  .read x.endpoint (.bridgedDeviceBasicInformation .nodeLabel) kNodeLabelSize

/-- A label as the encoder writes it, if there is room. -/
def zclString (label : CppString) : List UInt8 := UInt8.ofNat label.length :: label

/-- After an accepted write the NodeLabel read is the label written. -/
def Bridge.KeepsLabel (bridge : Bridge D) (x : PublishedLight) (now later : TimePoint)
    (buffer : Buffer) : Prop :=
  ((bridge.step (now, writeNodeLabel x buffer)).1.step (later, readNodeLabel x)).2 =
    { status := .success, value := some (.bytes (zclString (ChipSdk.fromZclString D buffer))) }

section Light

variable {light : Light D} {x : PublishedLight} (now : TimePoint) (buffer : Buffer)

omit [ChipSdk D] in
/-- Every light declares its basic information. -/
theorem Light.declares_basic (light : Light D) :
    light.declares .bridgedDeviceBasicInformation = true := by
  unfold Light.declares endpointTypeOf
  cases light.entry.isDimmable <;> rfl

/-- What a write of the NodeLabel does: the light gets the name, if it is reachable and the label is
not too long. -/
theorem Light.step_writeNodeLabel (light : Light D) (x : PublishedLight) :
    ((light.step now (writeNodeLabel x buffer)).2.status = .success ↔
      light.object.isReachable = true ∧
        (ChipSdk.fromZclString D buffer).length ≤ kNodeLabelSize) ∧
    ((light.step now (writeNodeLabel x buffer)).2.status = .success →
      (light.step now (writeNodeLabel x buffer)).1.object =
        (light.object.setName (cStr (ChipSdk.fromZclString D buffer))).1) := by
  have step : light.step now (writeNodeLabel x buffer) =
      if light.object.isReachable then light.writeBridgedDeviceBasic .nodeLabel buffer
      else (light, { status := .failure }) := by
    simp only [writeNodeLabel, Light.step, AttributePath.cluster, light.declares_basic, if_true,
      Light.write]
  rw [step]
  by_cases reachable : light.object.isReachable = true
  · rw [if_pos reachable]
    unfold Light.writeBridgedDeviceBasic
    rw [if_neg (not_not_intro rfl)]
    by_cases long : (ChipSdk.fromZclString D buffer).length > kNodeLabelSize
    · simp [if_pos long]
      exact fun _ => long
    · simp [if_neg long, reachable]
      exact Nat.le_of_not_lt long
  · rw [if_neg reachable]
    simp [reachable]

/-- What a read of the NodeLabel answers. -/
theorem Light.step_readNodeLabel (light : Light D) (x : PublishedLight) :
    (light.step now (readNodeLabel x)).2 =
      { status := .success
        value := some (.bytes
          (ChipSdk.makeZclCharString D kNodeLabelSize (cStr light.object.getName))) } := by
  simp only [readNodeLabel, Light.step, AttributePath.cluster, light.declares_basic, if_true,
    Light.read, handleReadBridgedDeviceBasicAttribute, reduceCtorEq, false_and, if_false]
  rfl

end Light

/-- The encoder has room for a label of at most 31 characters. -/
theorem makeZclCharString_eq_zclString_iff (label : CppString) :
    ChipSdk.makeZclCharString D kNodeLabelSize label = zclString label ↔ label.length ≤ 31 := by
  constructor
  · intro same
    by_contra long
    rw [ChipSdk.makeZclCharString_long kNodeLabelSize label (by unfold kNodeLabelSize; omega)]
      at same
    have empty : label = [] := (List.cons.inj same).2.symm
    simp [empty] at long
  · intro fits
    exact ChipSdk.makeZclCharString_fits kNodeLabelSize label (by unfold kNodeLabelSize; omega)
      (by omega)

/-- **When a NodeLabel is kept.** A label without NUL that a published light accepts is read back
exactly if it has at most 31 characters. -/
theorem node_label_kept_iff {bridge : Bridge D} {x : PublishedLight} {now later : TimePoint}
    {buffer : Buffer} (published : bridge.Published) (ofX : bridge.Publishes x)
    (nulFree : NulFree (ChipSdk.fromZclString D buffer))
    (accepted : (bridge.step (now, writeNodeLabel x buffer)).2.status = .success) :
    bridge.KeepsLabel x now later buffer ↔ (ChipSdk.fromZclString D buffer).length ≤ 31 := by
  obtain ⟨light, found, -⟩ := ofX.light
  have aimed := (published.slot_eq_some_iff ofX x.endpoint).mpr rfl
  obtain ⟨foundAfter, reply⟩ := published.step_light now (writeNodeLabel x buffer) ofX aimed found
  have publishedAfter := published.step now (writeNodeLabel x buffer)
  have ofXAfter := (published.step_publishes_iff now (writeNodeLabel x buffer) x).mpr ofX
  have aimedAfter := (publishedAfter.slot_eq_some_iff ofXAfter x.endpoint).mpr rfl
  rw [reply] at accepted
  obtain ⟨acceptance, renamed⟩ := light.step_writeNodeLabel now buffer x
  have short := (acceptance.mp accepted).2
  have name : ((light.step now (writeNodeLabel x buffer)).1.object).getName =
      ChipSdk.fromZclString D buffer := by
    rw [renamed accepted, DeviceObject.setName_getName, cStr_of_nulFree nulFree]
    exact ChipSdk.storedName_short _ short
  unfold Bridge.KeepsLabel
  rw [(publishedAfter.step_light later (readNodeLabel x) ofXAfter aimedAfter foundAfter).2,
    Light.step_readNodeLabel, name, cStr_of_nulFree nulFree,
    ← @makeZclCharString_eq_zclString_iff D]
  constructor
  · intro same
    simpa using same
  · intro same
    rw [same]

/-- A label of the given length in a ZCL string. -/
def repeatedLabel (length : UInt8) : Buffer := fun index => if index = 0 then length else 97

/-- A label of 31 characters is kept. -/
theorem node_label_kept_iff_sample :
    sampleHome.KeepsLabel sampleDimmer 0 1 (repeatedLabel 31) :=
  (node_label_kept_iff sampleHome_started.1.published sampleHome_publishes (by decide)
    (by decide)).mpr (by decide)

/-- **A label of 32 characters is accepted and read back as the empty label.** -/
theorem node_label_lost :
    let written := sampleHome.step (0, writeNodeLabel sampleDimmer (repeatedLabel 32))
    NulFree (ChipSdk.fromZclString PlainDevice (repeatedLabel 32)) ∧
      written.2.status = .success ∧
      (written.1.step (1, readNodeLabel sampleDimmer)).2 =
        { status := .success, value := some (.bytes [0]) } ∧
      ¬ sampleHome.KeepsLabel sampleDimmer 0 1 (repeatedLabel 32) := by
  refine ⟨by decide, by decide, by decide, ?_⟩
  unfold Bridge.KeepsLabel
  decide

end WemoBridge
