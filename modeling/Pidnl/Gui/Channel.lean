import Pidnl.Foundation.Utf8

/-! # Lines on a channel

What `backend.c` uses of GLib: `g_ascii_strtoll`, and `g_io_channel_read_line` on a
blocking channel in UTF-8 whose line terminators are detected.
-/

namespace Pidnl.Gui

open Pidnl.Foundation

/-- What `g_io_channel_read_line` does when these are the bytes in the pipe, and no
more are written before the next request. -/
inductive ReadLine
  | normal (line rest : Bytes)
  /-- Any status but `G_IO_STATUS_NORMAL`. -/
  | failed (rest : Bytes)
  /-- It waits for a byte that is not written. -/
  | waits
deriving DecidableEq, Repr

structure Glib where
  asciiStrtoll : Bytes → Decimal.Scan
  ioChannelReadLine : Bytes → ReadLine

structure Unbroken (text : Bytes) : Prop where
  noNul : 0 ∉ text
  noLineFeed : 10 ∉ text
  noCarriageReturn : 13 ∉ text
  noParagraphSeparator : ¬ [0xE2, 0x80, 0xA9] <:+: text

structure Glib.Documented (glib : Glib) : Prop where
  strtoll : glib.asciiStrtoll = Decimal.strtol
  line : ∀ text rest, Unbroken text → ValidUtf8 text →
    glib.ioChannelReadLine (text ++ 10 :: rest) = .normal (text ++ [10]) rest
  valid : ∀ bytes line rest, glib.ioChannelReadLine bytes = .normal line rest →
    ValidUtf8 line
  waits : glib.ioChannelReadLine [] = .waits

/-- Text that a channel returns whole. -/
structure IsLine (line : Bytes) : Prop where
  ended : ∃ text, line = text ++ [10] ∧ Unbroken text
  valid : ValidUtf8 line

/-! ## Text without line terminators -/

namespace Unbroken

theorem printable_append {ascii text : Bytes} (printable : Printable ascii)
    (unbroken : Unbroken text) : Unbroken (ascii ++ text) := by
  induction ascii with
  | nil => exact unbroken
  | cons byte ascii induction =>
      have rest := induction fun item member => printable item (by simp [member])
      have bounds := printable byte (by simp)
      have differs : ∀ terminator : UInt8, terminator < 32 → terminator ≠ byte := by
        rintro terminator low rfl
        exact absurd bounds.1 (UInt8.not_le.mpr low)
      constructor
      · exact List.not_mem_cons_of_ne_of_not_mem (differs 0 (by decide)) rest.noNul
      · exact List.not_mem_cons_of_ne_of_not_mem (differs 10 (by decide))
          rest.noLineFeed
      · exact List.not_mem_cons_of_ne_of_not_mem (differs 13 (by decide))
          rest.noCarriageReturn
      · intro found
        rcases List.infix_cons_iff.mp found with starts | later
        · have same := (List.cons_prefix_cons.mp starts).1
          rw [← same] at bounds
          exact absurd bounds.2 (by decide)
        · exact rest.noParagraphSeparator later

theorem nil : Unbroken [] where
  noNul := nofun
  noLineFeed := nofun
  noCarriageReturn := nofun
  noParagraphSeparator := by decide

theorem of_printable {ascii : Bytes} (printable : Printable ascii) : Unbroken ascii := by
  have appended := printable_append printable nil
  rwa [List.append_nil] at appended

end Unbroken

namespace IsLine

theorem of_text {text : Bytes} (unbroken : Unbroken text) (valid : ValidUtf8 text) :
    IsLine (text ++ [10]) where
  ended := ⟨text, rfl, unbroken⟩
  valid := valid.append (ValidUtf8.singleton (by decide))

theorem of_printable {text : Bytes} (printable : Printable text) :
    IsLine (text ++ [10]) :=
  of_text (Unbroken.of_printable printable) printable.validUtf8

theorem readLine {glib : Glib} (documented : glib.Documented) {line : Bytes}
    (isLine : IsLine line) (rest : Bytes) :
    glib.ioChannelReadLine (line ++ rest) = .normal line rest := by
  rcases isLine.ended with ⟨text, rfl, unbroken⟩
  have valid := ((validUtf8_append_cons_iff (by decide)).mp isLine.valid).1
  rw [List.append_assoc, List.singleton_append]
  exact documented.line text rest unbroken valid

end IsLine

/-! ## A channel -/

def terminatorLength : Bytes → Nat
  | 13 :: 10 :: _ => 2
  | 13 :: _ => 1
  | 10 :: _ => 1
  | 0 :: _ => 1
  | 0xE2 :: 0x80 :: 0xA9 :: _ => 3
  | _ => 0

def splitLine : Bytes → Option (Bytes × Bytes)
  | [] => none
  | byte :: rest =>
      let length := terminatorLength (byte :: rest)
      if length = 0 then
        (splitLine rest).map fun (line, rest) => (byte :: line, rest)
      else some ((byte :: rest).splitAt length)

/-- A channel that looks for a line first and checks its encoding afterwards. -/
def detecting : Glib where
  asciiStrtoll := Decimal.strtol
  ioChannelReadLine := fun bytes =>
    match splitLine bytes with
    | none => .waits
    | some (line, rest) => if ValidUtf8 line then .normal line rest else .failed bytes

theorem Unbroken.tail {byte : UInt8} {text : Bytes}
    (unbroken : Unbroken (byte :: text)) : Unbroken text where
  noNul := fun member => unbroken.noNul (.tail _ member)
  noLineFeed := fun member => unbroken.noLineFeed (.tail _ member)
  noCarriageReturn := fun member => unbroken.noCarriageReturn (.tail _ member)
  noParagraphSeparator := fun found =>
    unbroken.noParagraphSeparator (List.infix_cons_iff.mpr (.inr found))

theorem terminatorLength_of_unbroken {byte : UInt8} {text rest : Bytes}
    (unbroken : Unbroken (byte :: text)) :
    terminatorLength (byte :: text ++ 10 :: rest) = 0 := by
  have differs : ∀ terminator : UInt8, terminator ∉ byte :: text →
      byte ≠ terminator := by
    rintro terminator absent rfl
    exact absent (.head _)
  have noSeparator := unbroken.noParagraphSeparator
  rw [List.cons_append, terminatorLength.eq_def]
  split <;> rename_i equal
  · exact absurd (List.cons.inj equal).1 (differs 13 unbroken.noCarriageReturn)
  · exact absurd (List.cons.inj equal).1 (differs 13 unbroken.noCarriageReturn)
  · exact absurd (List.cons.inj equal).1 (differs 10 unbroken.noLineFeed)
  · exact absurd (List.cons.inj equal).1 (differs 0 unbroken.noNul)
  · -- the line feed cannot be the second or the third byte of the separator
    rcases List.cons.inj equal with ⟨rfl, later⟩
    rcases text with _ | ⟨second, _ | ⟨third, text⟩⟩
    · simp at later
    · simp at later
    · simp only [List.cons_append, List.cons.injEq] at later
      rcases later with ⟨rfl, rfl, _⟩
      exact absurd ⟨[], text, rfl⟩ noSeparator
  · rfl

theorem splitLine_of_unbroken {text : Bytes} (unbroken : Unbroken text) (rest : Bytes) :
    splitLine (text ++ 10 :: rest) = some (text ++ [10], rest) := by
  induction text with
  | nil => simp [splitLine, terminatorLength]
  | cons byte text induction =>
      rw [List.cons_append, splitLine, ← List.cons_append,
        terminatorLength_of_unbroken unbroken]
      simp only [if_true, induction unbroken.tail]
      rfl

theorem documented_detecting : detecting.Documented where
  strtoll := rfl
  line := by
    intro text rest unbroken valid
    have lineValid : ValidUtf8 (text ++ [10]) :=
      valid.append (ValidUtf8.singleton (by decide))
    simp only [detecting, splitLine_of_unbroken unbroken, if_pos lineValid]
  valid := by
    intro bytes line rest read
    simp only [detecting] at read
    split at read
    · contradiction
    · split at read
      · rename_i valid
        cases read
        exact valid
      · contradiction
  waits := rfl

end Pidnl.Gui
