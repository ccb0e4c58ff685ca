import Pidnl.Foundation.Decimal

/-! # UTF-8 text

Byte strings that encode characters. They may be cut at every ASCII byte.
-/

namespace Pidnl.Foundation

/-- The bytes are the UTF-8 encoding of some characters. -/
def ValidUtf8 (bytes : Bytes) : Prop :=
  ∃ characters : List Char, characters.flatMap String.utf8EncodeChar = bytes

theorem validUtf8_iff_isValidUTF8 {bytes : Bytes} :
    ValidUtf8 bytes ↔ bytes.toByteArray.IsValidUTF8 := by
  constructor
  · intro valid
    rcases valid with ⟨characters, rfl⟩
    exact ⟨characters, rfl⟩
  · intro valid
    rcases valid with ⟨characters, equal⟩
    have lists := congrArg (fun array => array.data.toList) equal
    rw [List.utf8Encode, List.toList_data_toByteArray,
      List.toList_data_toByteArray] at lists
    exact ⟨characters, lists.symm⟩

instance (bytes : Bytes) : Decidable (ValidUtf8 bytes) :=
  decidable_of_iff _ validUtf8_iff_isValidUTF8.symm

theorem utf8EncodeChar_eq_singleton_of_mem {character : Char} {byte : UInt8}
    (member : byte ∈ String.utf8EncodeChar character) (isAscii : byte < 128) :
    String.utf8EncodeChar character = [byte] := by
  have continues : ∀ value : Nat, 128 ≤ value → value < 256 →
      byte ≠ UInt8.ofNat value := by
    intro value high small equal
    rw [equal, UInt8.lt_iff_toNat_lt, UInt8.toNat_ofNat_of_lt' small] at isAscii
    exact absurd high (Nat.not_le.mpr isAscii)
  simp only [String.utf8EncodeChar] at member ⊢
  split at member
  · rename_i one
    rw [if_pos one, List.mem_singleton.mp member]
  · simp only [apply_ite (byte ∈ ·), List.mem_cons, List.not_mem_nil, or_false]
      at member
    exfalso
    split at member
    · rcases member with first | second
      · exact continues _ (by omega) (by omega) first
      · exact continues _ (by omega) (by omega) second
    · split at member
      · rcases member with first | second | third
        · exact continues _ (by omega) (by omega) first
        · exact continues _ (by omega) (by omega) second
        · exact continues _ (by omega) (by omega) third
      · rcases member with first | second | third | fourth
        · exact continues _ (by omega) (by omega) first
        · exact continues _ (by omega) (by omega) second
        · exact continues _ (by omega) (by omega) third
        · exact continues _ (by omega) (by omega) fourth

namespace ValidUtf8

theorem nil : ValidUtf8 [] := ⟨[], rfl⟩

theorem append {left right : Bytes} (leftValid : ValidUtf8 left)
    (rightValid : ValidUtf8 right) : ValidUtf8 (left ++ right) := by
  rcases leftValid with ⟨leftCharacters, rfl⟩
  rcases rightValid with ⟨rightCharacters, rfl⟩
  exact ⟨leftCharacters ++ rightCharacters, List.flatMap_append⟩

theorem singleton {byte : UInt8} (isAscii : byte < 128) : ValidUtf8 [byte] := by
  have small : byte.toNat < 128 := isAscii
  have value : (Char.ofNat byte.toNat).val.toNat = byte.toNat := by
    rw [Char.ofNat, dif_pos (.inl (by omega))]
    rfl
  refine ⟨[Char.ofNat byte.toNat], ?_⟩
  rw [List.flatMap_singleton, String.utf8EncodeChar, value, if_pos (by omega),
    UInt8.ofNat_toNat]

theorem of_ascii {bytes : Bytes} (isAscii : ∀ byte ∈ bytes, byte < 128) :
    ValidUtf8 bytes := by
  induction bytes with
  | nil => exact nil
  | cons byte bytes induction =>
      have first := singleton (isAscii byte (by simp))
      exact first.append (induction fun item member => isAscii item (by simp [member]))

theorem cut {left right : Bytes} {byte : UInt8} (isAscii : byte < 128)
    (valid : ValidUtf8 (left ++ byte :: right)) :
    ValidUtf8 left ∧ ValidUtf8 right := by
  rcases valid with ⟨characters, equal⟩
  induction characters generalizing left with
  | nil => simp at equal
  | cons character characters induction =>
      rw [List.flatMap_cons, List.append_eq_append_iff] at equal
      have first : ValidUtf8 (String.utf8EncodeChar character) :=
        ⟨[character], List.flatMap_singleton _ _⟩
      rcases equal with ⟨between, rfl, later⟩ | ⟨between, split, later⟩
      · rcases induction later with ⟨betweenValid, rightValid⟩
        exact ⟨first.append betweenValid, rightValid⟩
      · cases between with
        | nil =>
            have atOnce : characters.flatMap String.utf8EncodeChar =
                [] ++ byte :: right := later.symm
            rw [List.append_nil] at split
            rw [← split]
            exact ⟨first, (induction atOnce).2⟩
        | cons head between =>
            rcases List.cons.inj later with ⟨rfl, rfl⟩
            have alone := utf8EncodeChar_eq_singleton_of_mem
              (by rw [split]; simp) isAscii
            have lengths := congrArg List.length (split.symm.trans alone)
            simp only [List.length_append, List.length_cons, List.length_nil] at lengths
            have noLeft : left = [] := List.eq_nil_of_length_eq_zero (by omega)
            have noBetween : between = [] := List.eq_nil_of_length_eq_zero (by omega)
            rw [noLeft, noBetween]
            exact ⟨nil, characters, rfl⟩

end ValidUtf8

theorem validUtf8_append_cons_iff {left right : Bytes} {byte : UInt8}
    (isAscii : byte < 128) :
    ValidUtf8 (left ++ byte :: right) ↔ ValidUtf8 left ∧ ValidUtf8 right := by
  constructor
  · exact ValidUtf8.cut isAscii
  · intro both
    exact both.1.append ((ValidUtf8.singleton isAscii).append both.2)

/-! ## Printable text -/

def Printable (text : Bytes) : Prop := ∀ byte ∈ text, 32 ≤ byte ∧ byte < 128

instance (text : Bytes) : Decidable (Printable text) := List.decidableBAll _ text

namespace Printable

theorem append {left right : Bytes} (leftPrintable : Printable left)
    (rightPrintable : Printable right) : Printable (left ++ right) := by
  intro byte member
  cases List.mem_append.mp member with
  | inl member => exact leftPrintable byte member
  | inr member => exact rightPrintable byte member

theorem singleton {byte : UInt8} (printable : 32 ≤ byte ∧ byte < 128) :
    Printable [byte] := by
  intro other member
  rw [List.mem_singleton.mp member]
  exact printable

theorem unsigned (value : Nat) : Printable (Decimal.unsigned value) := by
  intro byte member
  have digit := Decimal.isDigit_of_mem_unsigned member
  rw [Decimal.isDigit, decide_eq_true_eq] at digit
  constructor
  · exact UInt8.le_trans (by decide) digit.1
  · exact UInt8.lt_of_le_of_lt digit.2 (by decide)

theorem signed (value : Int) : Printable (Decimal.signed value) := by
  rw [Decimal.signed]
  split
  · exact append (singleton (by decide)) (unsigned _)
  · exact unsigned _

theorem validUtf8 {text : Bytes} (printable : Printable text) : ValidUtf8 text :=
  ValidUtf8.of_ascii fun byte member => (printable byte member).2

end Printable

end Pidnl.Foundation
