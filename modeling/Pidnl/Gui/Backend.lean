import Pidnl.Gui.Helper

/-! # The client

`backend_list`, `backend_set_limit` and `backend_clean` of `backend.c`: the command
each writes, and what it makes of the bytes that come back.
-/

namespace Pidnl.Gui

open Pidnl.Foundation

def G_MAXINT : Int := 2 ^ 31 - 1

/-- The three calls, for a backend that has been started. -/
inductive Call
  | list
  | setLimit (pid : Int32) (uploadKbps downloadKbps : UInt32)
  | clean
deriving DecidableEq, Repr

def Call.command : Call → Line
  | .list => numberLine BACKEND_CMD_LIST
  | .setLimit pid uploadKbps downloadKbps =>
      Decimal.signed BACKEND_CMD_LIMIT ++ [32] ++ Decimal.signed pid.toInt ++ [32] ++
        Decimal.unsigned uploadKbps.toNat ++ [32] ++
        Decimal.unsigned downloadKbps.toNat ++ [10]
  | .clean => numberLine BACKEND_CMD_CLEAN

inductive Result
  /-- The text that `backend_list` returns, or NULL. -/
  | text (response : Option Bytes)
  | flag (ok : Bool)
deriving DecidableEq, Repr

/-- The lines a call has read, what it has left, and what it returns unless it waits
for bytes that are not written. -/
structure Reading where
  lines : List Line
  unread : Bytes
  result : Option Result
deriving DecidableEq, Repr

def cString (bytes : Bytes) : Bytes := bytes.takeWhile (· ≠ 0)

variable (glib : Glib)

def parseProtocolInt (text : Bytes) : Int :=
  let scanned := glib.asciiStrtoll text
  if scanned.noDigits ∨ scanned.value < 0 ∨ G_MAXINT < scanned.value then -1
  else scanned.value

/-- The loop of `backend_list` over so many lines, after what has been read. -/
def appendLines (response : Bytes) : Nat → Bytes → Reading
  | 0, replies => { lines := [], unread := replies, result := some (.text response) }
  | count + 1, replies =>
      match glib.ioChannelReadLine replies with
      | .waits => { lines := [], unread := replies, result := none }
      | .failed rest => { lines := [], unread := rest, result := some (.text response) }
      | .normal line rest =>
          let more := appendLines (response ++ cString line) count rest
          { more with lines := line :: more.lines }

/-- How often the loop of `backend_list` runs. The product is a `gint`. -/
def linesWanted (count : Int) : Nat := (Int.bmod (count * 2) (2 ^ 32)).toNat

def backendList (replies : Bytes) : Reading :=
  match glib.ioChannelReadLine replies with
  | .waits => { lines := [], unread := replies, result := none }
  | .failed rest => { lines := [], unread := rest, result := some (.text none) }
  | .normal line rest =>
      let response := cString line
      let count := parseProtocolInt glib response
      if count ≤ 0 then
        { lines := [line], unread := rest, result := some (.text response) }
      else
        let more := appendLines glib response (linesWanted count) rest
        { more with lines := line :: more.lines }

/-- `backend_set_limit` and `backend_clean` after their command. -/
def readCode (replies : Bytes) : Reading :=
  match glib.ioChannelReadLine replies with
  | .waits => { lines := [], unread := replies, result := none }
  | .failed rest => { lines := [], unread := rest, result := some (.flag false) }
  | .normal line rest =>
      { lines := [line]
        unread := rest
        result := some (.flag (parseProtocolInt glib (cString line) =
          BACKEND_RESPONSE_OK)) }

def Call.readReply : Call → Bytes → Reading
  | .list, replies => backendList glib replies
  | .setLimit _ _ _, replies => readCode glib replies
  | .clean, replies => readCode glib replies

variable {glib}

/-! ## Lines that are read whole -/

theorem cString_of_isLine {line : Line} (isLine : IsLine line) : cString line = line := by
  rcases isLine.ended with ⟨text, rfl, unbroken⟩
  rw [cString, ← List.append_nil (text ++ [10]), List.takeWhile_append_of_pos]
  · simp
  · intro byte member
    have nonzero : byte ≠ 0 := by
      rintro rfl
      rcases List.mem_append.mp member with inText | last
      · exact unbroken.noNul inText
      · exact absurd last (by decide)
    simp [nonzero]

theorem appendLines_flatten (documented : glib.Documented) {lines : List Line}
    (areLines : ∀ line ∈ lines, IsLine line) (response rest : Bytes) :
    appendLines glib response lines.length (lines.flatten ++ rest) =
      { lines := lines
        unread := rest
        result := some (.text (some (response ++ lines.flatten))) } := by
  induction lines generalizing response with
  | nil => simp [appendLines]
  | cons line lines induction =>
      have isLine := areLines line (.head _)
      rw [List.length_cons, appendLines, List.flatten_cons, List.append_assoc,
        isLine.readLine documented]
      simp only [cString_of_isLine isLine,
        induction (fun item member => areLines item (.tail _ member)),
        List.append_assoc]

theorem parseProtocolInt_unsigned (documented : glib.Documented) (value : Nat) :
    parseProtocolInt glib (Decimal.unsigned value ++ [10]) =
      if (value : Int) ≤ G_MAXINT then (value : Int) else -1 := by
  have ends : ∀ byte, [(10 : UInt8)].head? = some byte →
      Decimal.isDigit byte = false := by
    rintro byte ⟨⟩
    decide
  rw [parseProtocolInt, documented.strtoll, Decimal.strtol,
    Decimal.scan_unsigned_append _ _ _ ends]
  have limit : G_MAXINT = 2 ^ 31 - 1 := rfl
  simp only [Bool.false_eq_true, false_or]
  by_cases small : (value : Int) ≤ G_MAXINT
  · rw [if_pos small, if_neg (by omega)]
    omega
  · rw [if_neg small, if_pos (by omega)]

end Pidnl.Gui
