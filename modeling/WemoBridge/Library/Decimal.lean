/-
**Decimal numerals.**

`ofNat` writes a number in ASCII digits; `readInteger` reads an integer from the front of a byte
string as the C library does for base 10: white space, an optional sign, the longest run of digits,
and what is left. It succeeds exactly where an integer is `Written` (`readInteger_eq_some_iff`), so
reading gives back what was written (`readInteger_ofNat`).

`strtol` saturates what is read, and leaves the whole string where nothing is.
-/

import Mathlib

namespace WemoBridge.Library.Decimal

/-- `isspace` of the C locale. -/
def isSpace (byte : UInt8) : Bool := byte = 32 ∨ 9 ≤ byte ∧ byte ≤ 13

/-- `isdigit` -/
def isDigit (byte : UInt8) : Bool := 48 ≤ byte ∧ byte ≤ 57

/-- The digit of a number below ten. -/
def digit (n : Nat) : UInt8 := UInt8.ofNat (48 + n)

/-- The number a run of digits stands for, after `read` was read before it. -/
def value (read : Nat) (digits : List UInt8) : Nat :=
  digits.foldl (fun acc byte => 10 * acc + (byte.toNat - 48)) read

/-- The decimal numeral of a number. -/
def ofNat (n : Nat) : List UInt8 :=
  if n = 0 then [digit 0] else (Nat.digits 10 n).reverse.map digit

/-- Read an optional sign: whether it was a minus, and the rest. -/
def readSign : List UInt8 → Bool × List UInt8
  | 45 :: rest => (true, rest)
  | 43 :: rest => (false, rest)
  | text => (false, text)

/-- Read an integer: its value and the rest, or nothing if no digit follows the sign. -/
def readInteger (text : List UInt8) : Option (Int × List UInt8) :=
  let signed := readSign (text.dropWhile isSpace)
  let digits := signed.2.takeWhile isDigit
  if digits = [] then none
  else
    some (if signed.1 then -(value 0 digits : Int) else value 0 digits,
      signed.2.dropWhile isDigit)

section Digits

variable {n : Nat}

theorem toNat_digit (below : n < 10) : (digit n).toNat = 48 + n := by
  rw [digit, UInt8.toNat_ofNat']
  omega

theorem isDigit_digit (below : n < 10) : isDigit (digit n) = true := by
  have toNat := toNat_digit below
  unfold isDigit
  rw [decide_eq_true_eq, UInt8.le_iff_toNat_le, UInt8.le_iff_toNat_le, toNat]
  show 48 ≤ 48 + n ∧ 48 + n ≤ 57
  omega

theorem value_digits {digits : List Nat} (below : ∀ d ∈ digits, d < 10) :
    value 0 (digits.reverse.map digit) = Nat.ofDigits 10 digits := by
  induction digits with
  | nil => rfl
  | cons d rest ih =>
    have head : d < 10 := below d List.mem_cons_self
    have tail := ih fun d' member => below d' (List.mem_cons_of_mem _ member)
    unfold value at tail ⊢
    rw [List.reverse_cons, List.map_append, List.foldl_append, tail, Nat.ofDigits_cons]
    show 10 * Nat.ofDigits 10 rest + ((digit d).toNat - 48) = _
    rw [toNat_digit head, Nat.add_sub_cancel_left, Nat.add_comm]

/-- A numeral is a run of digits. -/
theorem isDigit_of_mem_ofNat {byte : UInt8} (member : byte ∈ ofNat n) : isDigit byte = true := by
  unfold ofNat at member
  split at member
  · rw [List.mem_singleton.mp member]
    decide
  · obtain ⟨d, inDigits, rfl⟩ := List.mem_map.mp member
    exact isDigit_digit (Nat.digits_lt_base (by decide) (List.mem_reverse.mp inDigits))

theorem ofNat_ne_nil (n : Nat) : ofNat n ≠ [] := by
  unfold ofNat
  split
  · simp
  · rename_i nonzero
    simp [Nat.digits_eq_nil_iff_eq_zero, nonzero]

theorem value_ofNat (n : Nat) : value 0 (ofNat n) = n := by
  unfold ofNat
  split
  · rename_i zero
    rw [zero]
    rfl
  · rw [value_digits fun d member => Nat.digits_lt_base (by decide) member]
    exact Nat.ofDigits_digits 10 n

end Digits

/-! ### The grammar -/

/-- A sign, or none. -/
inductive Sign where
  | absent
  | plus
  | minus
  deriving DecidableEq, Repr

namespace Sign

def text : Sign → List UInt8
  | .absent => []
  | .plus => [43]
  | .minus => [45]

/-- The integer of a magnitude under the sign. -/
def apply (magnitude : Nat) : Sign → Int
  | .absent => magnitude
  | .plus => magnitude
  | .minus => -magnitude

end Sign

/-- **An integer as it may be written**: white space, an optional sign, and a run of digits. -/
structure Written where
  spaces : List UInt8
  sign : Sign
  digits : List UInt8
  allSpaces : ∀ byte ∈ spaces, isSpace byte = true
  allDigits : ∀ byte ∈ digits, isDigit byte = true
  nonempty : digits ≠ []

namespace Written

def text (written : Written) : List UInt8 :=
  written.spaces ++ (written.sign.text ++ written.digits)

/-- The integer that is written. -/
def number (written : Written) : Int := written.sign.apply (value 0 written.digits)

end Written

section Runs

variable {Item : Type} {p : Item → Bool} {run rest : List Item}

/-- A run ends where the rest begins with something else. -/
theorem takeWhile_run (inside : ∀ item ∈ run, p item = true)
    (boundary : ∀ item ∈ rest.head?, p item = false) :
    (run ++ rest).takeWhile p = run ∧ (run ++ rest).dropWhile p = rest := by
  rw [List.takeWhile_append_of_pos inside, List.dropWhile_append_of_pos inside]
  cases rest with
  | nil => simp
  | cons item rest =>
    have stops : ¬ p item = true := Bool.eq_false_iff.mp (boundary item rfl)
    rw [List.takeWhile_cons_of_neg stops, List.dropWhile_cons_of_neg stops, List.append_nil]
    exact ⟨rfl, rfl⟩

/-- What is left of a run begins with something else. -/
theorem head?_dropWhile (p : Item → Bool) (items : List Item) :
    ∀ item ∈ (items.dropWhile p).head?, p item = false := by
  intro item here
  have stops := List.head?_dropWhile_not p items
  rw [Option.mem_def.mp here] at stops
  simpa using stops

end Runs

/-- A digit is neither white space nor a sign. -/
theorem isDigit_bounds {byte : UInt8} (digit : isDigit byte = true) :
    isSpace byte = false ∧ byte ≠ 43 ∧ byte ≠ 45 := by
  have bounds : 48 ≤ byte.toNat ∧ byte.toNat ≤ 57 := by
    unfold isDigit at digit
    rw [decide_eq_true_eq, UInt8.le_iff_toNat_le, UInt8.le_iff_toNat_le] at digit
    exact digit
  refine ⟨?_, ?_, ?_⟩
  · unfold isSpace
    rw [decide_eq_false_iff_not, UInt8.le_iff_toNat_le, UInt8.le_iff_toNat_le]
    rintro (rfl | ⟨-, small⟩)
    · exact absurd bounds.1 (by decide)
    · exact absurd (le_trans bounds.1 small) (by decide)
  · rintro rfl
    exact absurd bounds.1 (by decide)
  · rintro rfl
    exact absurd bounds.1 (by decide)

/-- What `readSign` reads is a sign. -/
theorem readSign_eq (text : List UInt8) :
    ∃ sign : Sign, text = sign.text ++ (readSign text).2 ∧
      ((readSign text).1 = true ↔ sign = .minus) := by
  unfold readSign
  split
  · exact ⟨.minus, rfl, by simp⟩
  · exact ⟨.plus, rfl, by simp⟩
  · exact ⟨.absent, rfl, by simp⟩

/-- A sign is read before a digit. -/
theorem readSign_text (sign : Sign) {text : List UInt8} (starts : ∃ byte ∈ text.head?,
    isDigit byte = true) : readSign (sign.text ++ text) = (decide (sign = .minus), text) := by
  obtain ⟨byte, here, digit⟩ := starts
  obtain ⟨-, notPlus, notMinus⟩ := isDigit_bounds digit
  cases text with
  | nil => cases here
  | cons first rest =>
    cases here
    cases sign with
    | plus => rfl
    | minus => rfl
    | absent =>
      show readSign (byte :: rest) = (false, byte :: rest)
      unfold readSign
      split
      · rename_i same
        rw [List.cons.injEq] at same
        exact absurd same.1 notMinus
      · rename_i same
        rw [List.cons.injEq] at same
        exact absurd same.1 notPlus
      · rfl

/-- The digits of a written integer begin with one. -/
theorem Written.head?_digits (written : Written) (rest : List UInt8) :
    ∃ byte ∈ (written.digits ++ rest).head?, isDigit byte = true := by
  obtain ⟨byte, digits, same⟩ := List.exists_cons_of_ne_nil written.nonempty
  exact ⟨byte, by simp [same], written.allDigits byte (same ▸ List.mem_cons_self)⟩

/-- After the white space of a written integer comes something else. -/
theorem Written.head?_signed (written : Written) (rest : List UInt8) :
    ∀ byte ∈ (written.sign.text ++ (written.digits ++ rest)).head?, isSpace byte = false := by
  intro byte here
  cases sign : written.sign with
  | absent =>
    obtain ⟨first, isFirst, digit⟩ := written.head?_digits rest
    rw [sign] at here
    obtain rfl := Option.mem_unique here isFirst
    exact (isDigit_bounds digit).1
  | plus =>
    rw [sign] at here
    cases here
    decide
  | minus =>
    rw [sign] at here
    cases here
    decide

/-- **A written integer is read**, up to the first byte that is not a digit. -/
theorem readInteger_complete (written : Written) {rest : List UInt8}
    (boundary : ∀ byte ∈ rest.head?, isDigit byte = false) :
    readInteger (written.text ++ rest) = some (written.number, rest) := by
  have afterSpaces := (takeWhile_run written.allSpaces (written.head?_signed rest)).2
  obtain ⟨run, left⟩ := takeWhile_run written.allDigits boundary
  unfold readInteger
  rw [Written.text, List.append_assoc, List.append_assoc, afterSpaces,
    readSign_text written.sign (written.head?_digits rest)]
  dsimp only
  rw [run, left, if_neg written.nonempty, Written.number]
  cases written.sign <;> rfl

/-- **What is read was written.** -/
theorem readInteger_sound {text rest : List UInt8} {n : Int}
    (reads : readInteger text = some (n, rest)) :
    (∃ written : Written, text = written.text ++ rest ∧ written.number = n) ∧
      ∀ byte ∈ rest.head?, isDigit byte = false := by
  obtain ⟨sign, signed, isMinus⟩ := readSign_eq (text.dropWhile isSpace)
  unfold readInteger at reads
  dsimp only at reads
  generalize readSign (text.dropWhile isSpace) = read at reads signed isMinus
  split at reads
  · cases reads
  · rename_i nonempty
    rw [Option.some.injEq, Prod.mk.injEq] at reads
    obtain ⟨rfl, rfl⟩ := reads
    let written : Written :=
      { spaces := text.takeWhile isSpace, sign := sign, digits := read.2.takeWhile isDigit
        allSpaces := fun _ => List.mem_takeWhile_imp
        allDigits := fun _ => List.mem_takeWhile_imp, nonempty := nonempty }
    refine ⟨⟨written, ?_, ?_⟩, head?_dropWhile isDigit _⟩
    · calc text = text.takeWhile isSpace ++ text.dropWhile isSpace :=
            List.takeWhile_append_dropWhile.symm
        _ = text.takeWhile isSpace ++ (sign.text ++ read.2) := by rw [signed]
        _ = text.takeWhile isSpace ++
              (sign.text ++ (read.2.takeWhile isDigit ++ read.2.dropWhile isDigit)) := by
            rw [List.takeWhile_append_dropWhile (p := isDigit)]
        _ = written.text ++ read.2.dropWhile isDigit := by
            simp only [written, Written.text, List.append_assoc]
    · show sign.apply (value 0 (read.2.takeWhile isDigit)) = _
      cases sign with
      | minus => rw [if_pos (isMinus.mpr rfl), Sign.apply]
      | plus => rw [if_neg fun minus => Sign.noConfusion (isMinus.mp minus), Sign.apply]
      | absent => rw [if_neg fun minus => Sign.noConfusion (isMinus.mp minus), Sign.apply]

/-- **An integer is read exactly if one is written**: reading stops at the first byte that is not a
digit. -/
theorem readInteger_eq_some_iff {text rest : List UInt8} {n : Int} :
    readInteger text = some (n, rest) ↔
      (∃ written : Written, text = written.text ++ rest ∧ written.number = n) ∧
        ∀ byte ∈ rest.head?, isDigit byte = false := by
  constructor
  · exact readInteger_sound
  · rintro ⟨⟨written, rfl, rfl⟩, boundary⟩
    exact readInteger_complete written boundary

/-- A written integer is read to its end. -/
theorem readInteger_text (written : Written) :
    readInteger written.text = some (written.number, []) :=
  readInteger_eq_some_iff.mpr ⟨⟨written, (List.append_nil _).symm, rfl⟩, by simp⟩

/-- **Reading gives back what was written.** -/
theorem readInteger_ofNat (n : Nat) : readInteger (ofNat n) = some ((n : Int), []) := by
  let numeral : Written :=
    { spaces := [], sign := .absent, digits := ofNat n, allSpaces := fun _ member => by cases member
      allDigits := fun byte => isDigit_of_mem_ofNat, nonempty := ofNat_ne_nil n }
  have number : numeral.number = n := congrArg Int.ofNat (value_ofNat n)
  rw [← number]
  exact readInteger_text numeral

/-! ### `strtol` -/

/-- `LONG_MAX`, for a `long` of 64 bits. -/
def longMax : Int := 2 ^ 63 - 1

/-- `LONG_MIN` -/
def longMin : Int := -2 ^ 63

/-- `strtol` in base 10: the value, and the string from the end pointer on. -/
def strtol (text : List UInt8) : Int × List UInt8 :=
  match readInteger text with
  | none => (0, text)
  | some (n, rest) => (max longMin (min n longMax), rest)

/-- `strtol` reads a written integer to its end. -/
theorem strtol_written (written : Written) :
    strtol written.text = (max longMin (min written.number longMax), []) := by
  rw [strtol, readInteger_text]

/-- **Nothing is left exactly of a written integer and of the empty string.** -/
theorem strtol_eq_nil_iff {text : List UInt8} :
    (strtol text).2 = [] ↔ text = [] ∨ ∃ written : Written, written.text = text := by
  constructor
  · intro ended
    unfold strtol at ended
    split at ended
    · exact Or.inl ended
    · rename_i n rest reads
      obtain ⟨⟨written, whole, -⟩, -⟩ := readInteger_sound reads
      rw [show rest = [] from ended, List.append_nil] at whole
      exact Or.inr ⟨written, whole.symm⟩
  · rintro (rfl | ⟨written, rfl⟩)
    · rfl
    · rw [strtol_written]

/-- No integer is written in the empty string. -/
theorem Written.text_ne_nil (written : Written) : written.text ≠ [] := by
  intro empty
  obtain ⟨-, signed⟩ := List.append_eq_nil_iff.mp empty
  exact written.nonempty (List.append_eq_nil_iff.mp signed).2

end WemoBridge.Library.Decimal
