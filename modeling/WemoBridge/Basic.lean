/-
**Machine types of the bridge.**

C++ strings are their bytes, compared as `std::string` compares them; time points of
`std::chrono::steady_clock` are nanoseconds; C `int`s are integers, fixed-width fields are `UInt8`
and `UInt16` with the narrowing casts of the source.
-/

import Mathlib

namespace WemoBridge

/-- Bytes in their numeric order, the order `std::char_traits<char>::compare` uses. -/
instance linearOrderUInt8 : LinearOrder UInt8 where
  le_refl := UInt8.le_refl
  le_trans _ _ _ := UInt8.le_trans
  le_antisymm _ _ := UInt8.le_antisymm
  le_total := UInt8.le_total
  lt_iff_le_not_ge a b := by grind
  toDecidableLE := inferInstance

@[simp] theorem ofInt_toNat (byte : UInt8) : UInt8.ofInt byte.toNat = byte := by
  have below := byte.toNat_lt
  refine UInt8.toNat_inj.mp ?_
  rw [UInt8.ofInt, UInt8.toNat_ofNat']
  omega

/-- `std::string`: its bytes. -/
abbrev CppString := List UInt8

/-- A string literal in ASCII. -/
def literal (text : String) : CppString := text.toList.map fun char => UInt8.ofNat char.toNat

/-- What a C function sees of `s.c_str()`: the bytes before the first NUL. -/
def cStr (s : CppString) : CppString := s.takeWhile (· ≠ 0)

/-- A string without embedded NUL bytes. -/
def NulFree (s : CppString) : Prop := 0 ∉ s

instance (s : CppString) : Decidable (NulFree s) := inferInstanceAs (Decidable (0 ∉ s))

theorem cStr_of_nulFree {s : CppString} (free : NulFree s) : cStr s = s := by
  refine List.takeWhile_eq_self_iff.mpr fun byte member => ?_
  have nonzero : byte ≠ 0 := fun zero => free (zero ▸ member)
  simpa using nonzero

/-- `std::chrono::steady_clock::time_point`, in nanoseconds. -/
abbrev TimePoint := Int

/-- `std::chrono::milliseconds`. -/
def milliseconds (count : Int) : Int := count * 1000000

/-- `kCommandSettleWindow`. -/
def kCommandSettleWindow : Int := milliseconds 2000

/-- `chip::EndpointId`. -/
abbrev EndpointId := UInt16

/-- `chip::kInvalidEndpointId`. -/
def kInvalidEndpointId : EndpointId := 0xFFFF

/-- `CHIP_DEVICE_CONFIG_DYNAMIC_ENDPOINT_COUNT`, the number of dynamic endpoint slots. -/
def CHIP_DEVICE_CONFIG_DYNAMIC_ENDPOINT_COUNT : Nat := 16

/-- The bytes behind a `uint8_t *`. -/
abbrev Buffer := Nat → UInt8

end WemoBridge
