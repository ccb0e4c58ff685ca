import Pidnl.Foundation.Decimal
import Mathlib.Data.List.TakeWhile

/-! # Texts that are numerals

White space, a sign and digits to the end: the texts that `strtol` and its relatives
convert as a whole, and what `strtoul` makes of a minus sign.
-/

namespace Pidnl.Foundation.Decimal

/-- `strtoul` with a result of 64 bits. A minus sign negates modulo the word. -/
def strtoul (text : Bytes) : Scan :=
  let (negative, body) := splitSign (text.dropWhile isSpace)
  let digits := body.takeWhile isDigit
  if digits = [] then
    { value := 0, rest := text, noDigits := true, outOfRange := false }
  else
    let magnitude := digitsValue digits
    let rest := body.dropWhile isDigit
    if 2 ^ 64 ≤ magnitude then
      { value := 2 ^ 64 - 1, rest := rest, noDigits := false, outOfRange := true }
    else
      let value : Nat := if negative then (2 ^ 64 - magnitude) % 2 ^ 64 else magnitude
      { value := value
        rest := rest
        noDigits := false
        outOfRange := false }

/-- Where there is no minus sign, there may be a plus sign. -/
def IsSign (negative : Bool) (sign : Bytes) : Prop :=
  if negative then sign = [45] else sign = [] ∨ sign = [43]

structure AllDigits (digits : Bytes) : Prop where
  nonempty : digits ≠ []
  digits : ∀ byte ∈ digits, isDigit byte = true

/-- White space, a sign and digits that denote the magnitude. -/
def IsNumeral (negative : Bool) (magnitude : Nat) (text : Bytes) : Prop :=
  ∃ spaces sign digits, text = spaces ++ (sign ++ digits) ∧
    (∀ byte ∈ spaces, isSpace byte = true) ∧ IsSign negative sign ∧
    AllDigits digits ∧ digitsValue digits = magnitude

namespace AllDigits

variable {digits : Bytes}

theorem takeWhile (all : AllDigits digits) : digits.takeWhile isDigit = digits :=
  List.takeWhile_eq_self_iff.mpr all.digits

theorem dropWhile (all : AllDigits digits) : digits.dropWhile isDigit = [] :=
  List.dropWhile_eq_nil_iff.mpr all.digits

theorem splitSign_append (all : AllDigits digits) {negative : Bool} {sign : Bytes}
    (isSign : IsSign negative sign) :
    splitSign (sign ++ digits) = (negative, digits) := by
  cases negative with
  | true =>
      have minus : sign = [45] := isSign
      rw [minus]
      rfl
  | false =>
      have plus : sign = [] ∨ sign = [43] := isSign
      rcases plus with none | plus
      · cases digits with
        | nil => exact absurd rfl all.nonempty
        | cons byte digits =>
            rw [none, List.nil_append]
            exact splitSign_of_isDigit (all.digits byte (.head _))
      · rw [plus]
        rfl

theorem dropWhile_isSpace (all : AllDigits digits) {negative : Bool}
    {spaces sign : Bytes} (isSpaces : ∀ byte ∈ spaces, isSpace byte = true)
    (isSign : IsSign negative sign) :
    (spaces ++ (sign ++ digits)).dropWhile isSpace = sign ++ digits := by
  rw [List.dropWhile_append_of_pos isSpaces]
  have starts : ∀ byte rest, isSpace byte = false →
      (byte :: rest).dropWhile isSpace = byte :: rest := by
    intro byte rest notSpace
    exact List.dropWhile_cons_of_neg (by simp [notSpace])
  cases negative with
  | true =>
      have minus : sign = [45] := isSign
      rw [minus]
      exact starts 45 _ rfl
  | false =>
      have plus : sign = [] ∨ sign = [43] := isSign
      rcases plus with none | plus
      · cases digits with
        | nil => exact absurd rfl all.nonempty
        | cons byte digits =>
            rw [none]
            exact starts byte _ (not_space_of_isDigit (all.digits byte (.head _)))
      · rw [plus]
        exact starts 43 _ rfl

end AllDigits

theorem isSign_of_splitSign {text body : Bytes} {negative : Bool}
    (split : splitSign text = (negative, body)) :
    ∃ sign, IsSign negative sign ∧ text = sign ++ body := by
  unfold splitSign at split
  split at split
  · cases split
    exact ⟨[45], rfl, rfl⟩
  · cases split
    exact ⟨[43], .inr rfl, rfl⟩
  · cases split
    exact ⟨[], .inl rfl, rfl⟩

theorem isNumeral_iff {negative : Bool} {magnitude : Nat} {text : Bytes} :
    IsNumeral negative magnitude text ↔
      ∃ digits, splitSign (text.dropWhile isSpace) = (negative, digits) ∧
        AllDigits digits ∧ digitsValue digits = magnitude := by
  constructor
  · intro isNumeral
    rcases isNumeral with ⟨spaces, sign, digits, rfl, isSpaces, isSign, all, value⟩
    refine ⟨digits, ?_, all, value⟩
    rw [all.dropWhile_isSpace isSpaces isSign, all.splitSign_append isSign]
  · intro taken
    rcases taken with ⟨digits, split, all, value⟩
    rcases isSign_of_splitSign split with ⟨sign, isSign, body⟩
    refine ⟨text.takeWhile isSpace, sign, digits, ?_, ?_, isSign, all, value⟩
    · rw [← body, List.takeWhile_append_dropWhile]
    · exact fun byte => List.mem_takeWhile_imp

theorem IsNumeral.unique {negative other : Bool} {magnitude value : Nat} {text : Bytes}
    (first : IsNumeral negative magnitude text) (second : IsNumeral other value text) :
    negative = other ∧ magnitude = value := by
  rcases isNumeral_iff.mp first with ⟨digits, split, _, rfl⟩
  rcases isNumeral_iff.mp second with ⟨others, splitOther, _, rfl⟩
  rw [split] at splitOther
  cases splitOther
  exact ⟨rfl, rfl⟩

theorem not_isNumeral_nil (negative : Bool) (magnitude : Nat) :
    ¬ IsNumeral negative magnitude [] := by
  intro isNumeral
  rcases isNumeral_iff.mp isNumeral with ⟨digits, split, all, _⟩
  cases split
  exact all.nonempty rfl

theorem isNumeral_of_dropWhile {negative : Bool} {text body : Bytes}
    (split : splitSign (text.dropWhile isSpace) = (negative, body))
    (nonempty : body.takeWhile isDigit ≠ []) (ended : body.dropWhile isDigit = []) :
    IsNumeral negative (digitsValue body) text := by
  refine isNumeral_iff.mpr ⟨body, split, ⟨?_, List.dropWhile_eq_nil_iff.mp ended⟩, rfl⟩
  intro empty
  rw [empty] at nonempty
  exact nonempty rfl

/-! ## What the scanners make of numerals -/

section Scanners

variable {negative : Bool} {magnitude : Nat} {text : Bytes}

theorem scan_of_isNumeral (lowest highest : Int)
    (isNumeral : IsNumeral negative magnitude text) :
    let value : Int := if negative then -magnitude else magnitude
    scan lowest highest text =
      { value := max lowest (min highest value)
        rest := []
        noDigits := false
        outOfRange := value < lowest ∨ highest < value } := by
  rcases isNumeral_iff.mp isNumeral with ⟨digits, split, all, rfl⟩
  simp only [scan, split, all.takeWhile, all.dropWhile, all.nonempty, if_false]

theorem isNumeral_of_scan {lowest highest : Int}
    (digits : (scan lowest highest text).noDigits = false)
    (ended : (scan lowest highest text).rest = []) :
    ∃ negative magnitude, IsNumeral negative magnitude text := by
  unfold scan at digits ended
  split at digits
  rename_i negative body split
  simp only [split] at ended
  by_cases none : body.takeWhile isDigit = []
  · simp [none] at digits
  · simp only [none, if_false] at ended
    exact ⟨negative, _, isNumeral_of_dropWhile split none ended⟩

theorem scan_value_of_noDigits {lowest highest : Int}
    (noDigits : (scan lowest highest text).noDigits = true) :
    (scan lowest highest text).value = 0 := by
  unfold scan at noDigits ⊢
  split at noDigits
  rename_i negative body split
  simp only
  by_cases none : body.takeWhile isDigit = []
  · rw [if_pos none]
  · simp [none] at noDigits

def wrapped (negative : Bool) (magnitude : Nat) : Nat :=
  if negative then (2 ^ 64 - magnitude) % 2 ^ 64 else magnitude

theorem strtoul_of_isNumeral (isNumeral : IsNumeral negative magnitude text) :
    strtoul text =
      if 2 ^ 64 ≤ magnitude then
        { value := 2 ^ 64 - 1, rest := [], noDigits := false, outOfRange := true }
      else
        { value := wrapped negative magnitude
          rest := []
          noDigits := false
          outOfRange := false } := by
  rcases isNumeral_iff.mp isNumeral with ⟨digits, split, all, rfl⟩
  simp only [strtoul, split, all.takeWhile, all.dropWhile, all.nonempty, if_false,
    wrapped]

theorem strtoul_rest_ne_nil (nonempty : text ≠ [])
    (noNumeral : ∀ negative magnitude, ¬ IsNumeral negative magnitude text) :
    (strtoul text).rest ≠ [] := by
  intro ended
  unfold strtoul at ended
  split at ended
  rename_i negative body split
  by_cases none : body.takeWhile isDigit = []
  · simp only [none, if_true] at ended
    exact nonempty ended
  · simp only [none, if_false] at ended
    have rest : body.dropWhile isDigit = [] := by
      split at ended <;> exact ended
    exact noNumeral negative _ (isNumeral_of_dropWhile split none rest)

end Scanners

end Pidnl.Foundation.Decimal
