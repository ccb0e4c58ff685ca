import Mathlib.Data.Nat.Digits.Defs
import Mathlib.Data.Nat.Digits.Lemmas
import Mathlib.Tactic.Common
import Mathlib.Tactic.IntervalCases

/-! # Decimal text

Byte strings, the decimal numerals `printf` writes and the scanner behind
`strtol` and its relatives, which reads them back.
-/

namespace Pidnl.Foundation

abbrev Bytes := List UInt8

def ascii (text : String) : Bytes := text.toList.map Char.toUInt8

namespace Decimal

def digitByte (digit : Nat) : UInt8 := UInt8.ofNat (48 + digit)

/-- `%u`, `%zu`. -/
def unsigned (value : Nat) : Bytes :=
  if value = 0 then [48] else (Nat.digits 10 value).reverse.map digitByte

/-- `%d`, `%ld`. -/
def signed (value : Int) : Bytes :=
  if value < 0 then 45 :: unsigned value.natAbs else unsigned value.natAbs

def isDigit (byte : UInt8) : Bool := 48 ≤ byte ∧ byte ≤ 57

/-- `isspace` in the C locale. -/
def isSpace (byte : UInt8) : Bool := byte = 32 ∨ (9 ≤ byte ∧ byte ≤ 13)

def digitValue (byte : UInt8) : Nat := byte.toNat - 48

def digitsValue (digits : Bytes) : Nat :=
  digits.foldl (fun value byte => 10 * value + digitValue byte) 0

/-- What `strtol` and its relatives report. -/
structure Scan where
  value : Int
  /-- What `endptr` points to. -/
  rest : Bytes
  noDigits : Bool
  outOfRange : Bool
deriving DecidableEq, Repr

/-- Split an optional sign off. -/
def splitSign : Bytes → Bool × Bytes
  | 45 :: rest => (true, rest)
  | 43 :: rest => (false, rest)
  | rest => (false, rest)

/-- `strtol` in base 10 for a type with the given range, at whose ends the value
saturates. -/
def scan (lowest highest : Int) (text : Bytes) : Scan :=
  let (negative, body) := splitSign (text.dropWhile isSpace)
  let digits := body.takeWhile isDigit
  if digits = [] then
    { value := 0, rest := text, noDigits := true, outOfRange := false }
  else
    let magnitude : Int := digitsValue digits
    let value := if negative then -magnitude else magnitude
    { value := max lowest (min highest value)
      rest := body.dropWhile isDigit
      noDigits := false
      outOfRange := value < lowest ∨ highest < value }

/-- `strtol` and `g_ascii_strtoll` with 64-bit results. -/
def strtol (text : Bytes) : Scan := scan (-2 ^ 63) (2 ^ 63 - 1) text

theorem signed_natCast (value : Nat) : signed value = unsigned value := by
  rw [signed, if_neg (by omega), Int.natAbs_natCast]

/-! ## Numerals are read back -/

theorem isDigit_digitByte {digit : Nat} (small : digit < 10) :
    isDigit (digitByte digit) = true := by
  interval_cases digit <;> decide

theorem digitValue_digitByte {digit : Nat} (small : digit < 10) :
    digitValue (digitByte digit) = digit := by
  interval_cases digit <;> decide

theorem digits_lt {digit value : Nat} (member : digit ∈ Nat.digits 10 value) :
    digit < 10 :=
  Nat.digits_lt_base (by decide) member

theorem isDigit_of_mem_unsigned {value : Nat} {byte : UInt8}
    (member : byte ∈ unsigned value) : isDigit byte = true := by
  rw [unsigned] at member
  split at member
  · rw [List.mem_singleton] at member
    subst byte
    decide
  · rcases List.mem_map.mp member with ⟨digit, digitMember, rfl⟩
    exact isDigit_digitByte (digits_lt (List.mem_reverse.mp digitMember))

theorem unsigned_ne_nil (value : Nat) : unsigned value ≠ [] := by
  rw [unsigned]
  split
  · simp
  · rename_i nonzero
    simp [Nat.digits_ne_nil_iff_ne_zero.mpr nonzero]

theorem length_unsigned_le {value digits : Nat} (positive : 0 < digits)
    (small : value < 10 ^ digits) : (unsigned value).length ≤ digits := by
  rw [unsigned]
  split
  · exact positive
  · rw [List.length_map, List.length_reverse]
    exact (Nat.digits_length_le_iff (by decide) value).mpr small

theorem length_signed_le {value : Int} {digits : Nat} (positive : 0 < digits)
    (small : value.natAbs < 10 ^ digits) : (signed value).length ≤ digits + 1 := by
  have magnitude := length_unsigned_le positive small
  rw [signed]
  split
  · exact Nat.succ_le_succ magnitude
  · exact Nat.le_succ_of_le magnitude

theorem digitsValue_unsigned (value : Nat) :
    digitsValue (unsigned value) = value := by
  rw [unsigned]
  split
  · rename_i zero
    subst value
    decide
  · have digitwise : ∀ digits : List Nat, (∀ digit ∈ digits, digit < 10) →
        digitsValue (digits.reverse.map digitByte) = Nat.ofDigits 10 digits := by
      intro digits small
      induction digits with
      | nil => rfl
      | cons digit digits induction =>
          have rest := induction fun item member => small item (by simp [member])
          simp only [digitsValue, List.reverse_cons, List.map_append,
            List.foldl_append, List.map_cons, List.map_nil, List.foldl_cons,
            List.foldl_nil] at rest ⊢
          rw [rest, digitValue_digitByte (small digit (by simp)), Nat.ofDigits_cons]
          exact Nat.add_comm _ _
    rw [digitwise _ fun _ => digits_lt, Nat.ofDigits_digits]

theorem unsigned_injective : Function.Injective unsigned := by
  intro left right equal
  have values := congrArg digitsValue equal
  rwa [digitsValue_unsigned, digitsValue_unsigned] at values

theorem takeWhile_unsigned_append (value : Nat) {rest : Bytes}
    (ends : ∀ byte, rest.head? = some byte → isDigit byte = false) :
    (unsigned value ++ rest).takeWhile isDigit = unsigned value := by
  rw [List.takeWhile_append_of_pos fun _ => isDigit_of_mem_unsigned]
  cases rest with
  | nil => simp
  | cons byte rest => simp [ends byte rfl]

theorem dropWhile_unsigned_append (value : Nat) {rest : Bytes}
    (ends : ∀ byte, rest.head? = some byte → isDigit byte = false) :
    (unsigned value ++ rest).dropWhile isDigit = rest := by
  rw [List.dropWhile_append_of_pos fun _ => isDigit_of_mem_unsigned]
  cases rest with
  | nil => simp
  | cons byte rest => simp [ends byte rfl]

theorem not_space_of_isDigit {byte : UInt8} (digit : isDigit byte = true) :
    isSpace byte = false := by
  simp only [isDigit, isSpace, decide_eq_true_eq, decide_eq_false_iff_not,
    UInt8.le_iff_toNat_le] at digit ⊢
  intro space
  rcases space with rfl | space
  · exact absurd digit.1 (by decide)
  · have low := digit.1
    have high := space.2
    simp at low high
    omega

theorem splitSign_of_isDigit {byte : UInt8} {rest : Bytes}
    (digit : isDigit byte = true) : splitSign (byte :: rest) = (false, byte :: rest) := by
  simp only [splitSign]
  split
  · rename_i equal
    cases equal
    exact absurd digit (by decide)
  · rename_i equal
    cases equal
    exact absurd digit (by decide)
  · rfl

/-- A numeral scans to its value, cut off at the ends of the range, and what follows
it. -/
theorem scan_unsigned_append (lowest highest : Int) (value : Nat) {rest : Bytes}
    (ends : ∀ byte, rest.head? = some byte → isDigit byte = false) :
    scan lowest highest (unsigned value ++ rest) =
      { value := max lowest (min highest value)
        rest := rest
        noDigits := false
        outOfRange := (value : Int) < lowest ∨ highest < value } := by
  have trimmed : splitSign ((unsigned value ++ rest).dropWhile isSpace) =
      (false, unsigned value ++ rest) := by
    cases digits : unsigned value with
    | nil => exact absurd digits (unsigned_ne_nil value)
    | cons byte bytes =>
        have digit : isDigit byte = true :=
          isDigit_of_mem_unsigned (by rw [digits]; exact .head _)
        rw [List.cons_append, List.dropWhile_cons_of_neg (by
          simp [not_space_of_isDigit digit]), splitSign_of_isDigit digit]
  simp only [scan, trimmed, takeWhile_unsigned_append value ends,
    dropWhile_unsigned_append value ends, unsigned_ne_nil, if_false,
    digitsValue_unsigned]
  simp

theorem scan_signed_append {lowest highest value : Int} {rest : Bytes}
    (ends : ∀ byte, rest.head? = some byte → isDigit byte = false)
    (low : lowest ≤ value) (high : value ≤ highest) :
    scan lowest highest (signed value ++ rest) =
      { value := value, rest := rest, noDigits := false, outOfRange := false } := by
  rw [signed]
  split
  · rename_i negative
    have minus : isSpace 45 = false := by decide
    simp only [scan, List.cons_append, List.dropWhile_cons, minus,
      Bool.false_eq_true, if_false, splitSign, if_true,
      takeWhile_unsigned_append value.natAbs ends,
      dropWhile_unsigned_append value.natAbs ends, unsigned_ne_nil,
      digitsValue_unsigned]
    have magnitude : -(value.natAbs : Int) = value := by omega
    rw [magnitude, min_eq_right high, max_eq_right low]
    simp [not_lt.mpr low, not_lt.mpr high]
  · have magnitude : (value.natAbs : Int) = value := by omega
    rw [scan_unsigned_append _ _ _ ends, magnitude, min_eq_right high,
      max_eq_right low]
    simp [not_lt.mpr low, not_lt.mpr high]

theorem scan_space_cons {lowest highest : Int} {byte : UInt8} {text : Bytes}
    (space : isSpace byte = true) (digits : (scan lowest highest text).noDigits = false) :
    scan lowest highest (byte :: text) = scan lowest highest text := by
  simp only [scan, List.dropWhile_cons_of_pos space] at digits ⊢
  split
  · rename_i noDigits
    simp [noDigits] at digits
  · rfl

theorem signed_injective : Function.Injective signed := by
  have minus : ∀ value : Nat, ∀ rest : Bytes, unsigned value ≠ 45 :: rest := by
    intro value rest equal
    have digit : isDigit 45 = true :=
      isDigit_of_mem_unsigned (by rw [equal]; exact .head _)
    exact absurd digit (by decide)
  intro left right equal
  simp only [signed] at equal
  split at equal <;> split at equal
  · have magnitudes := unsigned_injective (List.cons.inj equal).2
    omega
  · exact absurd equal.symm (minus _ _)
  · exact absurd equal (minus _ _)
  · have magnitudes := unsigned_injective equal
    omega

end Decimal

end Pidnl.Foundation
