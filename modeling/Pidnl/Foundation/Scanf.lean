import Pidnl.Foundation.Decimal

/-! # Conversions of `sscanf`

What each conversion takes off a text, and how numerals that `printf` has written are
read back. A number that does not fit is cut to the width it is stored in.
-/

namespace Pidnl.Foundation.Scanf

/-- `%d`, and the text after it. -/
def int (text : Bytes) : Option (Int32 × Bytes) :=
  let scanned := Decimal.strtol text
  if scanned.noDigits then none
  else some (.ofInt scanned.value, scanned.rest)

/-- `%u`, which reads a `long` and stores its low word. -/
def unsigned (text : Bytes) : Option (UInt32 × Bytes) :=
  let scanned := Decimal.scan (-(2 ^ 64 - 1)) (2 ^ 64 - 1) text
  if scanned.noDigits then none
  else
    some (if scanned.outOfRange then .ofNat (2 ^ 64 - 1) else .ofInt scanned.value,
      scanned.rest)

def space (text : Bytes) : Bytes := text.dropWhile Decimal.isSpace

/-- `%[^\n]` with a width. -/
def untilLineFeed (width : Nat) (text : Bytes) : Option (Bytes × Bytes) :=
  let taken := (text.take width).takeWhile (· ≠ 10)
  if taken = [] then none else some (taken, text.drop taken.length)

def EndsNumeral (rest : Bytes) : Prop :=
  ∀ byte, rest.head? = some byte → Decimal.isDigit byte = false

theorem endsNumeral_nil : EndsNumeral [] := nofun

theorem endsNumeral_cons {byte : UInt8} (notDigit : Decimal.isDigit byte = false)
    (rest : Bytes) : EndsNumeral (byte :: rest) := by
  intro other head
  cases head
  exact notDigit

theorem int_signed {rest : Bytes} (ends : EndsNumeral rest) (value : Int32) :
    int (Decimal.signed value.toInt ++ rest) = some (value, rest) := by
  have above := value.le_toInt
  have below := value.toInt_lt
  rw [int, Decimal.strtol, Decimal.scan_signed_append ends (by omega) (by omega)]
  simp only [Bool.false_eq_true, if_false, Int32.ofInt_toInt]

theorem unsigned_unsigned {rest : Bytes} (ends : EndsNumeral rest) (value : UInt32) :
    unsigned (Decimal.unsigned value.toNat ++ rest) = some (value, rest) := by
  have small := value.toNat_lt
  have clamped : max (-(2 ^ 64 - 1)) (min (2 ^ 64 - 1) (value.toNat : Int)) =
      (value.toNat : Int) := by omega
  have inRange : ¬ ((value.toNat : Int) < -(2 ^ 64 - 1) ∨
      2 ^ 64 - 1 < (value.toNat : Int)) := by omega
  have word : UInt32.ofInt value.toNat = value := by
    have cut : ((value.toNat : Int) % 2 ^ 32).toNat = value.toNat := by omega
    rw [UInt32.ofInt, cut, UInt32.ofNat_toNat]
  rw [unsigned, Decimal.scan_unsigned_append _ _ _ ends]
  simp only [Bool.false_eq_true, if_false, inRange, decide_false, clamped, word]

/-! ## White space -/

theorem space_cons_of_isSpace {byte : UInt8} (isSpace : Decimal.isSpace byte = true)
    (text : Bytes) : space (byte :: text) = space text :=
  List.dropWhile_cons_of_pos isSpace

theorem space_of_head {text : Bytes}
    (notSpace : ∀ byte, text.head? = some byte → Decimal.isSpace byte = false) :
    space text = text := by
  cases text with
  | nil => rfl
  | cons byte text => exact List.dropWhile_cons_of_neg (by simp [notSpace byte rfl])

theorem space_digits {digits rest : Bytes} (nonempty : digits ≠ [])
    (areDigits : ∀ byte ∈ digits, Decimal.isDigit byte = true) :
    space (digits ++ rest) = digits ++ rest := by
  apply space_of_head
  intro byte head
  rw [List.head?_append_of_ne_nil _ nonempty] at head
  exact Decimal.not_space_of_isDigit (areDigits byte (List.mem_of_mem_head? head))

theorem space_unsigned (value : Nat) (rest : Bytes) :
    space (Decimal.unsigned value ++ rest) = Decimal.unsigned value ++ rest :=
  space_digits (Decimal.unsigned_ne_nil value) fun _ => Decimal.isDigit_of_mem_unsigned

theorem space_signed (value : Int) (rest : Bytes) :
    space (Decimal.signed value ++ rest) = Decimal.signed value ++ rest := by
  rw [Decimal.signed]
  split
  · apply space_of_head
    intro byte head
    cases head
    rfl
  · exact space_unsigned _ _

/-! ## A line's last field -/

theorem untilLineFeed_eq {width : Nat} {text : Bytes} (noLineFeed : 10 ∉ text)
    (fits : text.length ≤ width) :
    untilLineFeed width text = if text = [] then none else some (text, []) := by
  have taken : (text.take width).takeWhile (· ≠ 10) = text := by
    rw [List.take_of_length_le fits, ← List.append_nil text,
      List.takeWhile_append_of_pos]
    · rfl
    · intro byte member
      have different : byte ≠ 10 := fun same => noLineFeed (same ▸ member)
      simp [different]
  simp only [untilLineFeed, taken, List.drop_length]

end Pidnl.Foundation.Scanf
