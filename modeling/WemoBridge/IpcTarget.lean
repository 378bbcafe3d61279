/-
**The address of the engine.**

`MaybeConfigureIpcTarget` splits `engine_socket` at its last colon and passes the two parts to
`we_set_ipc_target` as host and port. It makes the call exactly if something stands before that colon
and `atoi` reads a positive number after it (`ipc_target_exact`). So a host and a port that are
written down with a colon between them are what the engine is told, even if the host has colons of
its own; a path without a colon tells it nothing.
-/

import WemoBridge.Adapter
import WemoBridge.Library.Decimal

namespace WemoBridge

open Library
open Library.Decimal (readInteger_ofNat ofNat_ne_nil isDigit_of_mem_ofNat strtol longMin longMax)

/-! ### The C++ library -/

/-- `std::string::rfind` of one byte; `none` is `npos`. -/
def rfind (byte : UInt8) (s : CppString) : Option Nat :=
  (s.reverse.findIdx? (· = byte)).map (s.length - 1 - ·)

/-- `std::atoi`: `strtol`, narrowed to a 32-bit `int`. -/
def atoi (s : CppString) : Int := (strtol (cStr s)).1.bmod (2 ^ 32)

/-- `rfind` finds the last occurrence. -/
theorem rfind_append {byte : UInt8} {before after : CppString} (absent : byte ∉ after) :
    rfind byte (before ++ byte :: after) = some before.length := by
  have missed : after.reverse.findIdx? (· = byte) = none :=
    List.findIdx?_eq_none_iff.mpr fun other member => by
      have different : other ≠ byte := fun same => absent (same ▸ List.mem_reverse.mp member)
      simpa using different
  rw [rfind, List.reverse_append, List.reverse_cons, List.append_assoc, List.findIdx?_append, missed]
  simp [List.findIdx?_cons]

/-- Nothing is found where the byte does not occur. -/
theorem rfind_of_not_mem {byte : UInt8} {s : CppString} (absent : byte ∉ s) :
    rfind byte s = none := by
  have missed : s.reverse.findIdx? (· = byte) = none :=
    List.findIdx?_eq_none_iff.mpr fun other member => by
      have different : other ≠ byte := fun same => absent (same ▸ List.mem_reverse.mp member)
      simpa using different
  rw [rfind, missed]
  rfl

/-- A string splits at the last occurrence of a byte. -/
theorem exists_last_split {byte : UInt8} {s : CppString} (member : byte ∈ s) :
    ∃ before after, s = before ++ byte :: after ∧ byte ∉ after := by
  obtain ⟨after, before, reversed, absent⟩ :=
    List.eq_append_cons_of_mem (List.mem_reverse.mpr member)
  refine ⟨before.reverse, after.reverse, ?_, by simpa using absent⟩
  rw [← List.reverse_reverse s, reversed]
  simp

/-! ### The target -/

/-- `':'` -/
def colon : UInt8 := 58

/-- `MaybeConfigureIpcTarget`: the host and the port that `we_set_ipc_target` is called with, if it
is called. -/
def maybeConfigureIpcTarget (engineSocket : CppString) : Option (CppString × Int) :=
  match rfind colon engineSocket with
  | none => none
  | some pos =>
    if pos = 0 ∨ pos + 1 ≥ engineSocket.length then none
    else
      let host := engineSocket.take pos
      let portStr := engineSocket.drop (pos + 1)
      let port := atoi portStr
      if port > 0 then some (cStr host, port) else none

section Target

variable {engineSocket host portStr : CppString} {port : Int}

/-- `atoi` of nothing. -/
theorem atoi_nil : atoi [] = 0 := rfl

/-- Without a colon the engine is told nothing. -/
theorem maybeConfigureIpcTarget_of_not_mem (absent : colon ∉ engineSocket) :
    maybeConfigureIpcTarget engineSocket = none := by
  rw [maybeConfigureIpcTarget, rfind_of_not_mem absent]

/-- What the engine is told of the two sides of the last colon. -/
theorem maybeConfigureIpcTarget_append (absent : colon ∉ portStr) :
    maybeConfigureIpcTarget (host ++ colon :: portStr) =
      if host ≠ [] ∧ 0 < atoi portStr then some (cStr host, atoi portStr) else none := by
  have right : (host ++ colon :: portStr).drop (host.length + 1) = portStr := by
    rw [List.drop_append, List.drop_eq_nil_of_le (Nat.le_succ _), Nat.add_sub_cancel_left]
    rfl
  rw [maybeConfigureIpcTarget, rfind_append absent]
  dsimp only
  rw [List.take_left, right]
  by_cases noHost : host = []
  · rw [if_pos (Or.inl (by rw [noHost]; rfl)), if_neg fun both => both.1 noHost]
  · by_cases noPort : portStr = []
    · have atEnd : host.length + 1 ≥ (host ++ colon :: portStr).length := by
        rw [noPort, List.length_append, List.length_singleton]
      rw [if_pos (Or.inr atEnd), noPort, atoi_nil, if_neg fun both => lt_irrefl _ both.2]
    · have below : ¬ (host.length = 0 ∨ host.length + 1 ≥ (host ++ colon :: portStr).length) := by
        have positive := List.length_pos_iff.mpr noPort
        rw [List.length_append, List.length_cons, List.length_eq_zero_iff]
        rintro (empty | short)
        · exact noHost empty
        · omega
      rw [if_neg below]
      simp only [gt_iff_lt, ne_eq, noHost, not_false_eq_true, true_and]

/-- A written port is read. -/
theorem atoi_ofNat {n : Nat} (small : n < 2 ^ 31) : atoi (Decimal.ofNat n) = n := by
  have nulFree : NulFree (Decimal.ofNat n) := fun nul =>
    absurd (isDigit_of_mem_ofNat nul) (by decide)
  rw [atoi, cStr_of_nulFree nulFree, strtol, readInteger_ofNat]
  have inLong : max longMin (min (n : Int) longMax) = n := by
    unfold longMin longMax
    omega
  show (max longMin (min (n : Int) longMax)).bmod (2 ^ 32) = n
  rw [inLong]
  exact Int.bmod_eq_of_le (by omega) (by omega)

/-- **What the engine is told, exactly.** `we_set_ipc_target` is called with a host and a port
exactly if the string has a last colon with something before it and a positive number, by `atoi`,
after it; they are what stands there. And a host without NULs and a port in the range of `int` that
are written with a colon between them are told as they are, even if the host has colons of its
own. -/
theorem ipc_target_exact :
    (∀ engineSocket host port, maybeConfigureIpcTarget engineSocket = some (host, port) ↔
      ∃ address portStr, engineSocket = address ++ colon :: portStr ∧ colon ∉ portStr ∧
        address ≠ [] ∧ cStr address = host ∧ atoi portStr = port ∧ 0 < port) ∧
    ∀ host (port : Nat), host ≠ [] → NulFree host → 0 < port → port < 2 ^ 31 →
      maybeConfigureIpcTarget (host ++ colon :: Decimal.ofNat port) = some (host, (port : Int)) := by
  constructor
  · intro engineSocket host port
    by_cases member : colon ∈ engineSocket
    · obtain ⟨address, portStr, rfl, absent⟩ := exists_last_split member
      rw [maybeConfigureIpcTarget_append absent]
      constructor
      · intro told
        split at told
        · rename_i both
          rw [Option.some.injEq, Prod.mk.injEq] at told
          obtain ⟨sameHost, samePort⟩ := told
          exact ⟨address, portStr, rfl, absent, both.1, sameHost, samePort, samePort ▸ both.2⟩
        · cases told
      · rintro ⟨other, number, same, alsoAbsent, nonempty, rfl, rfl, positive⟩
        have lengths : other.length = address.length := by
          have found : rfind colon (other ++ colon :: number) = some other.length :=
            rfind_append alsoAbsent
          rw [← same, rfind_append absent] at found
          exact (Option.some.inj found).symm
        obtain ⟨rfl, rest⟩ := List.append_inj same lengths.symm
        obtain rfl := (List.cons.inj rest).2
        rw [if_pos ⟨nonempty, positive⟩]
    · rw [maybeConfigureIpcTarget_of_not_mem member]
      constructor
      · intro told
        cases told
      · rintro ⟨address, portStr, rfl, -⟩
        exact absurd (List.mem_append_right _ List.mem_cons_self) member
  · intro host port nonempty nulFree positive small
    have absent : colon ∉ Decimal.ofNat port := fun inside =>
      absurd (isDigit_of_mem_ofNat inside) (by decide)
    rw [maybeConfigureIpcTarget_append absent, atoi_ofNat small, cStr_of_nulFree nulFree,
      if_pos ⟨nonempty, by exact_mod_cast positive⟩]

end Target

/-- A host with colons of its own. -/
theorem ipc_target_exact_sample :
    maybeConfigureIpcTarget (literal "::1" ++ colon :: Decimal.ofNat 49153) =
      some (literal "::1", 49153) :=
  ipc_target_exact.2 (literal "::1") 49153 (by decide) (by decide) (by decide) (by decide)

end WemoBridge
