/-
**What `list` prints can be read back.**

The texts `main` prints, as the source puts them together, and the two streams they go to. On a line
of `list` every value but the name ends at a space, and the name at the end of the line. So a UDN
without spaces and names without newlines are all it takes: the output of `list` gives the number of
devices and, for each device, everything on its line (`listing_readable`).
-/

import WemoBridge.Processes
import WemoBridge.Library.Readable

namespace WemoBridge

open Library
open Library.Transaction
open EndpointRegistry (anyMayFail)

/-! ### The texts -/

/-- `<<` of an `int`. -/
def printInt : Int → CppString
  | .ofNat n => Decimal.ofNat n
  | .negSucc n => literal "-" ++ Decimal.ofNat (n + 1)

/-- `endpoint_id` on a line of `list`. -/
def printEndpoint : Option EndpointId → CppString
  | some endpointId => Decimal.ofNat endpointId.toNat
  | none => literal "n/a"

/-- A condition on a line of `list`. -/
def printFlag (flag : Bool) : CppString := if flag then literal "1" else literal "0"

/-- The percent in a message, if there is one. -/
def printPercent : Option Int → CppString
  | some percent => literal " percent=" ++ printInt percent
  | none => []

/-- The text of what is printed. -/
def Printed.text : Printed → CppString
  | .usage bin =>
      literal "Usage:\n" ++ literal "  " ++ bin ++ literal " list\n" ++
        literal "  " ++ bin ++ literal " set-on <udn>\n" ++
        literal "  " ++ bin ++ literal " set-off <udn>\n" ++
        literal "  " ++ bin ++ literal " set-level <udn> <0-100>\n"
  | .discoveredDevices count =>
      literal "discovered_devices=" ++ Decimal.ofNat count ++ literal "\n"
  | .device listed endpointId =>
      literal "udn=" ++ listed.udn ++ literal " wemo_id=" ++ printInt listed.wemoId ++
        literal " endpoint=" ++ printEndpoint endpointId ++
        literal " online=" ++ printFlag listed.isOnline ++
        literal " onoff=" ++ Decimal.ofNat listed.onoff.toNat ++
        literal " level=" ++ Decimal.ofNat listed.levelPercent.toNat ++
        literal " supports_level=" ++ printFlag listed.supportsLevel ++
        literal " name=\"" ++ listed.friendlyName ++ literal "\"" ++ literal "\n"
  | .invalidLevelPercent level => literal "invalid level percent: " ++ level ++ literal "\n"
  | .ok cmd udn percent =>
      literal "ok: " ++ cmd ++ literal " udn=" ++ udn ++ printPercent percent ++ literal "\n"
  | .failed cmd udn percent =>
      literal "failed: " ++ cmd ++ literal " udn=" ++ udn ++ printPercent percent ++ literal "\n"

/-- What goes to `std::cerr`; the rest goes to `std::cout`. -/
def Printed.toStderr : Printed → Bool
  | .invalidLevelPercent _ => true
  | .failed _ _ _ => true
  | _ => false

/-- What a process has written to `std::cout`. -/
def CliResult.stdout (finished : CliResult) : CppString :=
  (finished.printed.filter fun printed => !printed.toStderr).flatMap Printed.text

/-! ### The values on a line -/

theorem ofNat_injective : Function.Injective Decimal.ofNat := fun n m same => by
  rw [← Decimal.value_ofNat n, same, Decimal.value_ofNat]

/-- A byte that is not a digit is in no numeral. -/
theorem not_mem_ofNat {byte : UInt8} (other : Decimal.isDigit byte = false) (n : Nat) :
    byte ∉ Decimal.ofNat n := fun member => by
  rw [Decimal.isDigit_of_mem_ofNat member] at other
  cases other

theorem printInt_injective : Function.Injective printInt := by
  have signed : ∀ n m, Decimal.ofNat n ≠ literal "-" ++ Decimal.ofNat m := fun n m same =>
    @not_mem_ofNat 45 rfl n (same ▸ List.mem_cons_self)
  rintro (n | n) (m | m) same
  · rw [ofNat_injective same]
  · exact absurd same (signed n _)
  · exact absurd same.symm (signed m _)
  · rw [Nat.succ.inj (ofNat_injective (List.append_cancel_left same))]

theorem printEndpoint_injective : Function.Injective printEndpoint := by
  have numeral : ∀ n, Decimal.ofNat n ≠ literal "n/a" := fun n same =>
    @not_mem_ofNat 110 rfl n (same ▸ List.mem_cons_self)
  rintro (_ | first) (_ | second) same
  · rfl
  · exact absurd same.symm (numeral _)
  · exact absurd same (numeral _)
  · rw [UInt16.toNat_inj.mp (ofNat_injective same)]

theorem printFlag_injective : Function.Injective printFlag := by
  rintro (_ | _) (_ | _) same
  · rfl
  · exact absurd same (by decide)
  · exact absurd same (by decide)
  · rfl

/-- The space after a value. -/
abbrev space : UInt8 := 32

/-- The end of a line. -/
abbrev newline : UInt8 := 10

theorem space_not_mem_printInt (n : Int) : space ∉ printInt n := by
  cases n with
  | ofNat n => exact not_mem_ofNat rfl n
  | negSucc n =>
    intro member
    rcases List.mem_cons.mp member with sign | digits
    · exact absurd sign (by decide)
    · exact not_mem_ofNat rfl _ digits

theorem space_not_mem_printEndpoint (endpointId : Option EndpointId) :
    space ∉ printEndpoint endpointId := by
  cases endpointId with
  | none => decide
  | some endpointId => exact not_mem_ofNat rfl _

theorem space_not_mem_printFlag (flag : Bool) : space ∉ printFlag flag := by
  cases flag <;> decide

/-! ### A line -/

/-- A UDN without spaces, and a name on one line. -/
def Legible (device : WemoDevice) : Prop := space ∉ device.udn ∧ newline ∉ device.friendlyName

instance (device : WemoDevice) : Decidable (Legible device) := inferInstanceAs (Decidable (_ ∧ _))

/-- The text of a line. -/
def lineText (line : WemoDevice × Option EndpointId) : CppString :=
  (Printed.device line.1 line.2).text

/-- A line is its fields one after the other. -/
theorem lineText_eq (line : WemoDevice × Option EndpointId) : lineText line =
    field (literal "udn=") line.1.udn space ++
      (field (literal "wemo_id=") (printInt line.1.wemoId) space ++
      (field (literal "endpoint=") (printEndpoint line.2) space ++
      (field (literal "online=") (printFlag line.1.isOnline) space ++
      (field (literal "onoff=") (Decimal.ofNat line.1.onoff.toNat) space ++
      (field (literal "level=") (Decimal.ofNat line.1.levelPercent.toNat) space ++
      (field (literal "supports_level=") (printFlag line.1.supportsLevel) space ++
      field (literal "name=\"") (line.1.friendlyName ++ literal "\"") newline)))))) := by
  have wemoId : literal " wemo_id=" = [space] ++ literal "wemo_id=" := rfl
  have endpoint : literal " endpoint=" = [space] ++ literal "endpoint=" := rfl
  have online : literal " online=" = [space] ++ literal "online=" := rfl
  have onoff : literal " onoff=" = [space] ++ literal "onoff=" := rfl
  have level : literal " level=" = [space] ++ literal "level=" := rfl
  have supportsLevel : literal " supports_level=" = [space] ++ literal "supports_level=" := rfl
  have name : literal " name=\"" = [space] ++ literal "name=\"" := rfl
  have ended : literal "\n" = [newline] := rfl
  -- `delta`, as the equation lemma of this long branch is slow to make
  delta lineText Printed.text field
  simp only [wemoId, endpoint, online, onoff, level, supportsLevel, name, ended, List.append_assoc]

/-- **A line tells its device and its endpoint.** -/
theorem lineText_tells :
    Tells (fun line : WemoDevice × Option EndpointId => Legible line.1) lineText id := by
  have quoted : ∀ line : WemoDevice × Option EndpointId, Legible line.1 →
      newline ∉ line.1.friendlyName ++ literal "\"" := by
    intro line legible member
    rcases List.mem_append.mp member with name | quote
    · exact legible.2 name
    · exact absurd quote (by decide)
  rw [funext lineText_eq]
  refine Tells.through
    ((Tells.field _ space fun _ legible => legible.1).andThen
    ((Tells.field _ space fun _ _ => space_not_mem_printInt _).andThen
    ((Tells.field _ space fun _ _ => space_not_mem_printEndpoint _).andThen
    ((Tells.field _ space fun _ _ => space_not_mem_printFlag _).andThen
    ((Tells.field _ space fun _ _ => not_mem_ofNat rfl _).andThen
    ((Tells.field _ space fun _ _ => not_mem_ofNat rfl _).andThen
    ((Tells.field _ space fun _ _ => space_not_mem_printFlag _).andThen
    (Tells.field _ newline quoted))))))))
    ?_
  rintro ⟨⟨wemoId, udn, name, dims, online, onoff, level⟩, endpointId⟩
    ⟨⟨wemoId', udn', name', dims', online', onoff', level'⟩, endpointId'⟩ - - same
  simp only [Prod.mk.injEq] at same
  obtain ⟨rfl, sameId, sameEndpoint, sameOnline, sameOnoff, sameLevel, sameDims, sameName⟩ := same
  obtain rfl := printInt_injective sameId
  obtain rfl := printEndpoint_injective sameEndpoint
  obtain rfl := printFlag_injective sameOnline
  obtain rfl := UInt8.toNat_inj.mp (ofNat_injective sameOnoff)
  obtain rfl := UInt8.toNat_inj.mp (ofNat_injective sameLevel)
  obtain rfl := printFlag_injective sameDims
  obtain rfl := List.append_cancel_right sameName
  rfl

theorem lineText_ne_nil (line : WemoDevice × Option EndpointId) : lineText line ≠ [] := by
  rw [lineText_eq]
  exact List.cons_ne_nil _ _

/-! ### The output -/

/-- The output of `list`: the number of devices, and their lines. -/
theorem stdout_of_lists {finished : CliResult} {invocation : Invocation}
    (fits : finished.Fits invocation) (lists : invocation.Lists) :
    finished.stdout =
      field (literal "discovered_devices=") (Decimal.ofNat invocation.devices.length) newline ++
        finished.listing.flatMap lineText := by
  unfold CliResult.stdout
  rw [fits.lines lists, List.filter_eq_self.mpr, List.flatMap_cons, List.flatMap_map]
  · rfl
  · intro printed member
    rcases List.mem_cons.mp member with rfl | line
    · rfl
    · obtain ⟨listed, -, rfl⟩ := List.mem_map.mp line
      rfl

/-- **What `list` prints can be read back.** Any two processes that list, in any runs on databases
that were empty once, with any statement failing: if the UDNs they list have no space and the names
are on one line, and they write the same to `std::cout`, then they have printed the same: the same
number of devices and, in the same order, the same fields and endpoints. -/
theorem listing_readable (inputs inputs' : List (SystemInput Invocation)) {process process' : Nat}
    {invocation invocation' : Invocation} {finished finished' : CliResult} :
    HasEnded ((processes anyMayFail).run noProcess inputs) process invocation (some finished) →
    HasEnded ((processes anyMayFail).run noProcess inputs') process' invocation'
      (some finished') →
    invocation.Lists → invocation'.Lists →
    (∀ device ∈ invocation.devices, Legible device) →
    (∀ device ∈ invocation'.devices, Legible device) →
    finished.stdout = finished'.stdout → finished.printed = finished'.printed := by
  intro ended ended' lists lists' legible legible' same
  have fits : finished.Fits invocation := ended.ends.1
  have fits' : finished'.Fits invocation' := ended'.ends.1
  rw [stdout_of_lists fits lists, stdout_of_lists fits' lists'] at same
  have count : Tells (fun _ => True)
      (fun count => field (literal "discovered_devices=") (Decimal.ofNat count) newline) id :=
    (Tells.field _ newline fun _ _ => not_mem_ofNat rfl _).through
      fun _ _ _ _ sameText => ofNat_injective sameText
  obtain ⟨sameCount, sameLines⟩ := count _ _ trivial trivial _ _ same
  have listed : ∀ line ∈ finished.listing, Legible line.1 := fun line member => by
    have discovered := List.mem_map_of_mem (f := Prod.fst) member
    rw [fits.devices, if_pos lists] at discovered
    exact legible _ discovered
  have listed' : ∀ line ∈ finished'.listing, Legible line.1 := fun line member => by
    have discovered := List.mem_map_of_mem (f := Prod.fst) member
    rw [fits'.devices, if_pos lists'] at discovered
    exact legible' _ discovered
  have sameListing := lineText_tells.flatMap_injective lineText_ne_nil _ _ listed listed' sameLines
  rw [fits.lines lists, fits'.lines lists', sameListing]
  exact congrArg (Printed.discoveredDevices · :: _) sameCount

/-- The lamp is listed twice. -/
theorem listing_readable_sample :
    (listedAs [(listedSocket 1 "uuid:Lamp", 2)]).printed =
      (listedAs [(listedSocket 1 "uuid:Lamp", 2)]).printed :=
  @listing_readable
    (.start (listProcess [listedSocket 1 "uuid:Lamp"]) :: List.replicate 13 (.operate 0 false))
    ([.start (listProcess [listedSocket 1 "uuid:Lamp"]),
        .start (listProcess [listedSocket 1 "uuid:Lamp"])] ++
      List.replicate 13 (.operate 0 false) ++ List.replicate 7 (.operate 1 false))
    0 1 _ _ _ _ ⟨_, rfl, rfl, rfl⟩ ⟨_, rfl, rfl, rfl⟩ (by decide) (by decide) (by decide)
    (by decide) rfl

end WemoBridge
