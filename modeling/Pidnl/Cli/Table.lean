import Pidnl.Cli.OneChange
import Pidnl.Discovery.Listable
import Pidnl.Gui.ListReply

/-! # The table of `pidnl list`

A long name pushes the columns after it to the right. Names have at most 31 bytes, which
is too few for one column to come to stand where another belongs.
-/

namespace Pidnl.Cli

open Pidnl.Foundation Pidnl.Ratelimit
open Pidnl.Discovery (Listable Sanitised)
open Pidnl.Gui (ProcessInfo)

abbrev Row := ProcessInfo × RateLimitsRead

/-- What a row tells about a process. Blanks at the end of a short name do not show. -/
structure Shown where
  pid : Int32
  name : Bytes
  hasTcp : Bool
  hasUdp : Bool
  uploadKbps : UInt32
  downloadKbps : UInt32
  executable : Bytes
deriving DecidableEq

def shown (row : Row) : Shown where
  pid := row.1.pid
  name := padRight 20 row.1.processName
  hasTcp := row.1.hasTcp ≠ 0
  hasUdp := row.1.hasUdp ≠ 0
  uploadKbps := row.2.uploadKbps
  downloadKbps := row.2.downloadKbps
  executable := if row.1.exePath = [] then ascii "(unknown)" else row.1.exePath

/-! ## Columns -/

section Columns

variable {left right leftRest rightRest : Bytes}

theorem length_padRight (width : Nat) (text : Bytes) :
    (padRight width text).length = max width text.length := by
  rw [padRight, List.length_append, List.length_replicate]
  omega

theorem padRight_append (width : Nat) (text rest : Bytes) :
    padRight width text ++ 32 :: rest =
      text ++ 32 :: (List.replicate (width - text.length) 32 ++ rest) := by
  rw [padRight, List.append_assoc]
  congr 1
  induction width - text.length with
  | zero => rfl
  | succ blanks induction => simp [List.replicate_succ, induction]

theorem append_separator_inj {separator : UInt8} (noLeft : separator ∉ left)
    (noRight : separator ∉ right)
    (same : left ++ separator :: leftRest = right ++ separator :: rightRest) :
    left = right ∧ leftRest = rightRest := by
  have split := congrArg (List.splitOn separator) same
  rw [List.splitOn_append_cons_self_of_not_mem noLeft,
    List.splitOn_append_cons_self_of_not_mem noRight] at split
  have texts := (List.cons.inj split).1
  subst texts
  exact ⟨rfl, (List.cons.inj (List.append_cancel_left same)).2⟩

theorem column_inj {width : Nat} (noLeft : 32 ∉ left) (noRight : 32 ∉ right)
    (same : padRight width left ++ 32 :: leftRest = padRight width right ++ 32 :: rightRest) :
    left = right ∧ leftRest = rightRest := by
  rw [padRight_append, padRight_append] at same
  rcases append_separator_inj noLeft noRight same with ⟨rfl, rest⟩
  exact ⟨rfl, List.append_cancel_left rest⟩

end Columns

theorem notMem_signed {value : Int} (nonnegative : 0 ≤ value) : 32 ∉ Decimal.signed value := by
  intro member
  rw [Decimal.signed, if_neg (by omega)] at member
  exact absurd (Decimal.isDigit_of_mem_unsigned member) (by decide)

theorem notMem_formatLimit (kbps : UInt32) : 32 ∉ formatLimit kbps := by
  intro member
  rw [formatLimit] at member
  split at member
  · exact absurd member (by decide)
  · exact absurd (Decimal.isDigit_of_mem_unsigned member) (by decide)

theorem formatLimit_injective : Function.Injective formatLimit := by
  intro left right same
  have dash : ∀ value, Decimal.unsigned value ≠ ascii "-" := by
    intro value isDash
    have member : 45 ∈ Decimal.unsigned value := isDash ▸ .head _
    exact absurd (Decimal.isDigit_of_mem_unsigned member) (by decide)
  rw [formatLimit, formatLimit] at same
  split at same <;> split at same
  · rename_i isLeft isRight
    rw [isLeft, isRight]
  · exact absurd same.symm (dash _)
  · exact absurd same (dash _)
  · exact UInt32.toNat_inj.mp (Decimal.unsigned_injective same)

theorem formatLimit_cons (kbps : UInt32) :
    ∃ byte rest, formatLimit kbps = byte :: rest ∧ byte ≠ 78 ∧ byte ≠ 89 := by
  rw [formatLimit]
  split
  · exact ⟨45, [], rfl, by decide, by decide⟩
  · cases digits : Decimal.unsigned kbps.toNat with
    | nil => exact absurd digits (Decimal.unsigned_ne_nil _)
    | cons byte rest =>
        have member : byte ∈ Decimal.unsigned kbps.toNat := digits ▸ .head _
        have digit := Decimal.isDigit_of_mem_unsigned member
        refine ⟨byte, rest, rfl, ?_, ?_⟩
        · rintro rfl
          exact absurd digit (by decide)
        · rintro rfl
          exact absurd digit (by decide)

/-! ## The column of names -/

def flagColumns (tcp udp : Int32) : Bytes :=
  padRight 10 (yesNo tcp) ++ 32 :: (padRight 10 (yesNo udp) ++ [32])

theorem length_flagColumns (tcp udp : Int32) : (flagColumns tcp udp).length = 22 := by
  rw [flagColumns, yesNo, yesNo]
  split <;> split <;> rfl

/-- Of the bytes after its first one, only the one where the second column starts is a
`Y` or an `N`. -/
theorem flagColumns_getElem (tcp udp : Int32) :
    ∀ index < 22, (flagColumns tcp udp)[index]? = some 89 ∨
      (flagColumns tcp udp)[index]? = some 78 → index = 0 ∨ index = 11 := by
  rw [flagColumns, yesNo, yesNo]
  split <;> split <;> decide

theorem flagColumns_start (tcp udp : Int32) :
    ((flagColumns tcp udp)[0]? = some 89 ∨ (flagColumns tcp udp)[0]? = some 78) ∧
      ((flagColumns tcp udp)[11]? = some 89 ∨ (flagColumns tcp udp)[11]? = some 78) := by
  rw [flagColumns, yesNo, yesNo]
  split <;> split <;> decide

/-- A name that is longer by at most eleven bytes would put its flags where the other
row has a blank, or a limit. -/
theorem not_shifted {shift leftLimit rightLimit : Bytes} {tcp udp otherTcp otherUdp : Int32}
    {byte : UInt8} (isLimit : byte ≠ 78 ∧ byte ≠ 89) (short : shift.length ≤ 10)
    (same : flagColumns tcp udp ++ byte :: leftLimit =
      shift ++ 32 :: (flagColumns otherTcp otherUdp ++ rightLimit)) : False := by
  have at_shift : ∀ index < 22, (flagColumns tcp udp ++ byte :: leftLimit)[
      shift.length + 1 + index]? = (flagColumns otherTcp otherUdp)[index]? := by
    intro index small
    rw [same, List.getElem?_append_right (by omega),
      show shift.length + 1 + index - shift.length = index + 1 by omega,
      List.getElem?_cons_succ, List.getElem?_append_left]
    rw [length_flagColumns]
    exact small
  have first := flagColumns_start otherTcp otherUdp
  have length := length_flagColumns tcp udp
  have tcpByte := at_shift 0 (by decide)
  rw [List.getElem?_append_left (by omega)] at tcpByte
  have second := flagColumns_getElem tcp udp (shift.length + 1 + 0) (by omega) (by
    rw [tcpByte]
    exact first.1)
  have isTen : shift.length = 10 := by omega
  have udpByte := at_shift 11 (by decide)
  rw [isTen, List.getElem?_append_right (by omega), length] at udpByte
  have isByte : some byte = (flagColumns otherTcp otherUdp)[11]? := udpByte
  rw [← isByte] at first
  rcases first.2 with yes | no
  · exact isLimit.2 (Option.some.inj yes)
  · exact isLimit.1 (Option.some.inj no)

/-- Whatever the names are, they take up the same column. -/
theorem names_inj {name other leftLimit rightLimit : Bytes}
    {tcp udp otherTcp otherUdp : Int32} {byte otherByte : UInt8}
    (fits : name.length ≤ 31) (otherFits : other.length ≤ 31)
    (isLimit : byte ≠ 78 ∧ byte ≠ 89) (otherIsLimit : otherByte ≠ 78 ∧ otherByte ≠ 89)
    (same : padRight 20 name ++ 32 :: (flagColumns tcp udp ++ byte :: leftLimit) =
      padRight 20 other ++ 32 :: (flagColumns otherTcp otherUdp ++ otherByte :: rightLimit)) :
    padRight 20 name = padRight 20 other ∧
      flagColumns tcp udp ++ byte :: leftLimit =
        flagColumns otherTcp otherUdp ++ otherByte :: rightLimit := by
  have length := length_padRight 20 name
  have otherLength := length_padRight 20 other
  rcases List.append_eq_append_iff.mp same with ⟨more, longer, rest⟩ | ⟨more, longer, rest⟩
  · cases more with
    | nil =>
        rw [List.append_nil] at longer
        exact ⟨longer.symm, (List.cons.inj rest).2⟩
    | cons blank shift =>
        have shifted := congrArg List.length longer
        rw [List.length_append, List.length_cons] at shifted
        exact (not_shifted isLimit (by omega) (List.cons.inj rest).2).elim
  · cases more with
    | nil =>
        rw [List.append_nil] at longer
        exact ⟨longer, (List.cons.inj rest).2.symm⟩
    | cons blank shift =>
        have shifted := congrArg List.length longer
        rw [List.length_append, List.length_cons] at shifted
        exact (not_shifted otherIsLimit (by omega) (List.cons.inj rest).2).elim

theorem flagColumns_inj {tcp udp otherTcp otherUdp : Int32}
    (same : flagColumns tcp udp = flagColumns otherTcp otherUdp) :
    (tcp = 0 ↔ otherTcp = 0) ∧ (udp = 0 ↔ otherUdp = 0) := by
  rw [flagColumns, flagColumns, yesNo, yesNo, yesNo, yesNo] at same
  by_cases isTcp : tcp = 0 <;> by_cases isUdp : udp = 0 <;>
    by_cases isOtherTcp : otherTcp = 0 <;> by_cases isOtherUdp : otherUdp = 0 <;>
    simp only [isTcp, isUdp, isOtherTcp, isOtherUdp, if_true, if_false] at same ⊢ <;>
    revert same <;> decide

/-! ## Rows -/

theorem tableRow_eq (row : Row) :
    tableRow row.1 row.2 =
      padRight 8 (Decimal.signed row.1.pid.toInt) ++ 32 ::
        (padRight 20 row.1.processName ++ 32 :: (flagColumns row.1.hasTcp row.1.hasUdp ++
          (padRight 12 (formatLimit row.2.uploadKbps) ++ 32 ::
            (padRight 12 (formatLimit row.2.downloadKbps) ++ 32 ::
              ((shown row).executable ++ [10]))))) := by
  simp only [tableRow, tableLine, flagColumns, shown, List.append_assoc, List.cons_append,
    List.nil_append]

theorem notMem_executable {row : Row} (listable : Listable row.1) :
    10 ∉ (shown row).executable := by
  have executable : (shown row).executable =
      if row.1.exePath = [] then ascii "(unknown)" else row.1.exePath := rfl
  rw [executable]
  split
  · decide
  · exact listable.path.notMem (.inl (by decide))

theorem padRight_formatLimit_cons (kbps : UInt32) (rest : Bytes) :
    ∃ byte later, padRight 12 (formatLimit kbps) ++ rest = byte :: later ∧
      byte ≠ 78 ∧ byte ≠ 89 := by
  rcases formatLimit_cons kbps with ⟨byte, digits, starts, isLimit⟩
  rw [padRight, starts]
  exact ⟨byte, _, rfl, isLimit⟩

theorem tableRow_append_inj {left right : Row} {leftRest rightRest : Bytes}
    (listable : Listable left.1) (otherListable : Listable right.1)
    (same : tableRow left.1 left.2 ++ leftRest = tableRow right.1 right.2 ++ rightRest) :
    shown left = shown right ∧ leftRest = rightRest := by
  have positive := Int32.lt_iff_toInt_lt.mp listable.positive
  have otherPositive := Int32.lt_iff_toInt_lt.mp otherListable.positive
  rw [tableRow_eq, tableRow_eq] at same
  simp only [List.append_assoc, List.cons_append] at same
  rcases column_inj (notMem_signed (Int.le_of_lt positive))
    (notMem_signed (Int.le_of_lt otherPositive)) same with ⟨pids, same⟩
  rcases padRight_formatLimit_cons left.2.uploadKbps _ with ⟨byte, later, limits, isLimit⟩
  rcases padRight_formatLimit_cons right.2.uploadKbps _ with
    ⟨otherByte, otherLater, otherLimits, otherIsLimit⟩
  have names := names_inj (Nat.le_trans listable.nameLength (by decide))
    (Nat.le_trans otherListable.nameLength (by decide)) isLimit otherIsLimit
    (limits ▸ otherLimits ▸ same)
  rw [← limits, ← otherLimits] at names
  rcases names with ⟨names, same⟩
  have lengths : (flagColumns left.1.hasTcp left.1.hasUdp).length =
      (flagColumns right.1.hasTcp right.1.hasUdp).length := by
    rw [length_flagColumns, length_flagColumns]
  rcases List.append_inj same lengths with ⟨flags, same⟩
  rcases column_inj (notMem_formatLimit _) (notMem_formatLimit _) same with ⟨uploads, same⟩
  rcases column_inj (notMem_formatLimit _) (notMem_formatLimit _) same with ⟨downloads, same⟩
  rcases append_separator_inj (notMem_executable listable)
    (notMem_executable otherListable) same with ⟨executables, rests⟩
  rcases flagColumns_inj flags with ⟨tcp, udp⟩
  refine ⟨?_, rests⟩
  have samePids : left.1.pid = right.1.pid := Int32.toInt_inj.mp (Decimal.signed_injective pids)
  have sameUploads := formatLimit_injective uploads
  have sameDownloads := formatLimit_injective downloads
  simp only [shown] at executables ⊢
  simp only [samePids, names, sameUploads, sameDownloads, executables, ne_eq, tcp, udp]

/-! ## The table -/

def table (rows : List Row) : Bytes :=
  tableHeader ++ (tableRule ++ rows.flatMap fun row => tableRow row.1 row.2)

/-- Whatever processes call themselves, a table tells their pids, protocols, limits and
executables, and their names up to the blanks at the end of short ones. -/
theorem table_inj {rows others : List Row} (listable : ∀ row ∈ rows, Listable row.1)
    (otherListable : ∀ row ∈ others, Listable row.1) (same : table rows = table others) :
    rows.map shown = others.map shown := by
  have printed := List.append_cancel_left (List.append_cancel_left same)
  clear same
  have nonempty : ∀ (row : Row) (rest : Bytes), tableRow row.1 row.2 ++ rest ≠ [] := by
    intro row rest empty
    have lengths := congrArg List.length empty
    simp [tableRow, tableLine] at lengths
  induction rows generalizing others with
  | nil =>
      cases others with
      | nil => rfl
      | cons other others => exact absurd printed.symm (nonempty other _)
  | cons row rows induction =>
      cases others with
      | nil => exact absurd printed (nonempty row _)
      | cons other others =>
          rcases tableRow_append_inj (listable row (.head _)) (otherListable other (.head _))
            printed with ⟨sameRow, rest⟩
          rw [List.map_cons, List.map_cons, sameRow,
            induction (fun row member => listable row (.tail _ member))
              (fun row member => otherListable row (.tail _ member)) rest]

def called (name : Bytes) : ProcessInfo where
  pid := 12
  processName := name
  exePath := []
  numConnections := 1
  hasTcp := 1
  hasUdp := 0

/-- A blank at the end of a name does not show. -/
theorem table_inj_blank :
    [(called (ascii "nc"), RateLimitsRead.absent)].map shown =
      [(called (ascii "nc "), RateLimitsRead.absent)].map shown := by
  have listable : ∀ name, Sanitised name → name.length ≤ 31 → Listable (called name) := by
    intro name sanitised fits
    exact ⟨(by decide : (0 : Int32) < 12), sanitised, fits, Discovery.Sanitised.nil,
      Nat.zero_le _, .inr rfl, .inl rfl⟩
  apply table_inj
  · intro row member
    rw [List.mem_singleton.mp member]
    exact listable _ (by decide) (by decide)
  · intro row member
    rw [List.mem_singleton.mp member]
    exact listable _ (by decide) (by decide)
  · rfl

/-! ## What is printed -/

def textOf : Exchange CliCall → Bytes
  | ⟨.printf text, _⟩ => text
  | _ => []

def printed (exchanges : List (Exchange CliCall)) : Bytes := exchanges.flatMap textOf

def foundBy : Exchange CliCall → Option (List ProcessInfo)
  | ⟨.library .getNetworkProcesses, .ok processes⟩ => some processes
  | _ => none

def Replied (exchanges : List (Exchange CliCall)) (rows : List Row) : Prop :=
  ∀ row ∈ rows, ⟨.library (.getRateLimitsFromCgroup row.1.pid), row.2⟩ ∈ exchanges

section Course

variable {exchanges : List (Exchange CliCall)}

theorem printed_append (first second : List (Exchange CliCall)) :
    printed (first ++ second) = printed first ++ printed second :=
  List.flatMap_append

theorem course_readLimits {processes : List ProcessInfo} {rows : List Row}
    (course : (readLimits processes).Course exchanges rows) :
    rows.map Prod.fst = processes ∧ Replied exchanges rows ∧ printed exchanges = [] := by
  induction processes generalizing exchanges rows with
  | nil =>
      rcases Program.course_pure_iff.mp course with ⟨rfl, rfl⟩
      exact ⟨rfl, nofun, rfl⟩
  | cons process processes induction =>
      simp only [readLimits, Program.course_bind_iff, Program.course_request_iff,
        Program.course_pure_iff] at course
      rcases course with ⟨_, _, limits, rfl, rfl, first, _, later, rfl, reads, rfl, rfl⟩
      rcases induction reads with ⟨same, replied, nothing⟩
      refine ⟨congrArg (List.cons process) same, ?_, ?_⟩
      · intro row member
        cases member with
        | head => exact .head _
        | tail _ member =>
            have replies := replied row member
            simp [replies]
      · rw [printed_append, printed_append, nothing]
        rfl

theorem course_printRows {rows : List Row} {final : Unit}
    (course : (printRows rows).Course exchanges final) :
    printed exchanges = rows.flatMap fun row => tableRow row.1 row.2 := by
  induction rows generalizing exchanges with
  | nil =>
      rcases Program.course_pure_iff.mp course with ⟨rfl, _⟩
      rfl
  | cons row rows induction =>
      simp only [printRows, Program.course_bind_iff, Program.course_request_iff] at course
      rcases course with ⟨_, later, _, rfl, rfl, rest⟩
      rw [printed_append, induction rest]
      simp [printed, textOf]

theorem course_cmdList (course : cmdList.Course exchanges none) :
    ∃ processes rows, ⟨.library .getNetworkProcesses, .ok processes⟩ ∈ exchanges ∧
      rows.map Prod.fst = processes ∧ Replied exchanges rows ∧
      printed exchanges = table rows := by
  rw [cmdList, Program.course_bind_iff] at course
  rcases course with ⟨_, later, found, rfl, asked, course⟩
  rw [Program.course_request_iff] at asked
  subst asked
  cases found with
  | error failure =>
      rcases course_exitFailure course with ⟨_, impossible⟩
      contradiction
  | ok processes =>
      simp only [Program.course_bind_iff, Program.course_request_iff] at course
      rcases course with ⟨_, _, upload, rfl, rfl, _, _, download, rfl, rfl, course⟩
      split at course
      · rcases course_exitFailure course with ⟨_, impossible⟩
        contradiction
      · simp only [Program.course_bind_iff] at course
        rcases course with ⟨reading, _, rows, rfl, reads, printing, _, _, rfl, prints, ended⟩
        rcases Program.course_pure_iff.mp ended with ⟨rfl, _⟩
        rcases course_readLimits reads with ⟨same, replied, nothing⟩
        refine ⟨processes, rows, .head _, same, ?_, ?_⟩
        · intro row member
          have replies := replied row member
          simp [replies]
        · simp only [printProcessList, Program.course_bind_iff,
            Program.course_request_iff] at prints
          rcases prints with ⟨_, _, _, rfl, rfl, _, _, _, rfl, rfl, rowsPrinted⟩
          simp only [printed_append, nothing, course_printRows rowsPrinted, table]
          simp [printed, textOf]

theorem printed_startup {err : RatelimitCode}
    (course : (ratelimitInit.embed CliCall.startup).Course exchanges err) :
    printed exchanges = [] := by
  rw [printed, List.flatMap_eq_nil_iff]
  have makes : (ratelimitInit.embed CliCall.startup).Makes
      fun _ call => ∀ reply, textOf ⟨call, reply⟩ = [] := by
    refine ⟨fun _ => rfl, fun initialised => ?_⟩
    cases initialised with
    | false => trivial
    | true =>
        refine ⟨fun _ => rfl, fun mount => ?_⟩
        cases mount <;> trivial
  intro exchange member
  exact makes.of_course course exchange member exchange.reply

theorem failure_of_cmdList {ending : Ending}
    (course : cmdList.Course exchanges (some ending)) : ending = .exited EXIT_FAILURE := by
  rw [cmdList, Program.course_bind_iff] at course
  rcases course with ⟨_, later, found, _, _, course⟩
  cases found with
  | error failure => exact Option.some.inj (course_exitFailure course).2
  | ok processes =>
      simp only [Program.course_bind_iff] at course
      rcases course with ⟨_, _, upload, _, _, _, _, download, _, _, course⟩
      split at course
      · exact Option.some.inj (course_exitFailure course).2
      · simp only [Program.course_bind_iff, Program.course_pure_iff] at course
        rcases course with ⟨_, _, _, _, _, _, _, _, _, _, _, impossible⟩
        contradiction

end Course

/-! ## Lines -/

section Lines

variable {left right : Bytes}

theorem Sanitised.append (first : Sanitised left) (second : Sanitised right) :
    Sanitised (left ++ right) := by
  intro byte member
  cases List.mem_append.mp member with
  | inl inLeft => exact first byte inLeft
  | inr inRight => exact second byte inRight

theorem sanitised_padRight (width : Nat) (sanitised : Sanitised left) :
    Sanitised (padRight width left) := by
  apply Sanitised.append sanitised
  intro byte member
  rw [(List.mem_replicate.mp member).2]
  decide

theorem sanitised_unsigned (value : Nat) : Sanitised (Decimal.unsigned value) := by
  intro byte member
  have digit := of_decide_eq_true (Decimal.isDigit_of_mem_unsigned member)
  constructor
  · exact UInt8.le_trans (by decide) digit.1
  · rintro rfl
    exact absurd digit.2 (by decide)

theorem sanitised_formatLimit (kbps : UInt32) : Sanitised (formatLimit kbps) := by
  rw [formatLimit]
  split
  · decide
  · exact sanitised_unsigned _

theorem sanitised_yesNo (flag : Int32) : Sanitised (yesNo flag) := by
  rw [yesNo]
  split <;> decide

theorem tableLine_eq {pid name tcp udp upload download executable : Bytes}
    (columns : ∀ column ∈ [pid, name, tcp, udp, upload, download, executable],
      Sanitised column) :
    ∃ line, tableLine pid name tcp udp upload download executable = line ++ [10] ∧
      Sanitised line := by
  have blank : Sanitised [32] := by decide
  have next : ∀ {line column : Bytes} (width : Nat), Sanitised line → Sanitised column →
      Sanitised (line ++ 32 :: padRight width column) := by
    intro line column width first second
    exact Sanitised.append first (Sanitised.append blank (sanitised_padRight width second))
  simp only [List.forall_mem_cons] at columns
  rcases columns with ⟨isPid, isName, isTcp, isUdp, isUpload, isDownload, isExecutable, _⟩
  refine ⟨_, rfl, ?_⟩
  apply Sanitised.append _ (Sanitised.append blank isExecutable)
  exact next 12 (next 12 (next 10 (next 10 (next 20 (sanitised_padRight 8 isPid) isName)
    isTcp) isUdp) isUpload) isDownload

theorem tableRow_line {row : Row} (listable : Listable row.1) :
    ∃ line, tableRow row.1 row.2 = line ++ [10] ∧ Sanitised line := by
  have positive := Int32.lt_iff_toInt_lt.mp listable.positive
  have notNegative : ¬ row.1.pid.toInt < 0 := Int.not_lt.mpr (Int.le_of_lt positive)
  apply tableLine_eq
  simp only [List.forall_mem_cons]
  refine ⟨?_, listable.name, sanitised_yesNo _, sanitised_yesNo _, sanitised_formatLimit _,
    sanitised_formatLimit _, ?_, nofun⟩
  · rw [Decimal.signed, if_neg notNegative]
    exact sanitised_unsigned _
  · split
    · decide
    · exact listable.path

theorem table_lines {rows : List Row} (listable : ∀ row ∈ rows, Listable row.1) :
    ∃ lines : List Bytes, table rows = (lines.map fun line => line ++ [10]).flatten ∧
      lines.length = rows.length + 2 ∧ ∀ line ∈ lines, Sanitised line := by
  have below : ∃ lines : List Bytes, (rows.flatMap fun row => tableRow row.1 row.2) =
      (lines.map fun line => line ++ [10]).flatten ∧ lines.length = rows.length ∧
        ∀ line ∈ lines, Sanitised line := by
    induction rows with
    | nil => exact ⟨[], rfl, rfl, nofun⟩
    | cons row rows induction =>
        rcases tableRow_line (listable row (.head _)) with ⟨line, isLine, sanitised⟩
        rcases induction fun other member => listable other (.tail _ member) with
          ⟨lines, isLines, length, allSanitised⟩
        refine ⟨line :: lines, ?_, congrArg Nat.succ length,
          List.forall_mem_cons.mpr ⟨sanitised, allSanitised⟩⟩
        rw [List.flatMap_cons, isLine, isLines]
        rfl
  rcases below with ⟨lines, isLines, length, sanitised⟩
  have header : ∃ line, tableHeader = line ++ [10] ∧ Sanitised line :=
    tableLine_eq (by decide)
  have rule : ∃ line, tableRule = line ++ [10] ∧ Sanitised line := tableLine_eq (by decide)
  rcases header with ⟨headerLine, isHeader, headerSanitised⟩
  rcases rule with ⟨ruleLine, isRule, ruleSanitised⟩
  refine ⟨headerLine :: ruleLine :: lines, ?_, congrArg (· + 2) length,
    List.forall_mem_cons.mpr ⟨headerSanitised,
      List.forall_mem_cons.mpr ⟨ruleSanitised, sanitised⟩⟩⟩
  rw [table, isHeader, isRule, isLines]
  rfl

end Lines

/-- What a run of `pidnl list` that succeeds prints: the processes that were found with
the limits replied for them, a line each, without control characters. -/
theorem list_prints {argv args : List Bytes} {input : Bytes}
    {exchanges : List (Exchange CliCall)} (isList : IsCommand argv (ascii "list") args)
    (discovered : ∀ processes ∈ exchanges.filterMap foundBy,
      ∃ machine, Discovery.getNetworkProcesses machine = .ok processes)
    (course : (main argv input).Course exchanges (.exited EXIT_SUCCESS)) :
    ∃ (rows : List Row) (lines : List Bytes),
      rows.map Prod.fst ∈ exchanges.filterMap foundBy ∧ Replied exchanges rows ∧
      printed exchanges = table rows ∧
      table rows = (lines.map fun line => line ++ [10]).flatten ∧
      lines.length = rows.length + 2 ∧ ∀ line ∈ lines, Sanitised line := by
  have known : findCommand (ascii "list") = some _ := rfl
  rcases course_command isList known course with
    failed | ⟨startup, later, handled, rfl, starts, handles, ended⟩
  · cases failed
  cases handled with
  | some ending =>
      rw [failure_of_cmdList handles] at ended
      cases ended
  | none =>
      rcases course_cmdList handles with ⟨processes, rows, found, same, replied, prints⟩
      have isFound : processes ∈ (startup ++ ⟨.geteuid, 0⟩ :: later).filterMap foundBy :=
        List.mem_filterMap.mpr ⟨_, List.mem_append_right _ (.tail _ found), rfl⟩
      rcases discovered processes isFound with ⟨machine, returns⟩
      have listable : ∀ row ∈ rows, Listable row.1 := by
        intro row member
        apply Discovery.listable_getNetworkProcesses returns
        rw [← same]
        exact List.mem_map_of_mem member
      rcases table_lines listable with ⟨lines, isLines, length, sanitised⟩
      refine ⟨rows, lines, ?_, ?_, ?_, isLines, length, sanitised⟩
      · rw [same]
        exact isFound
      · intro row member
        exact List.mem_append_right _ (.tail _ (replied row member))
      · rw [printed_append, printed_startup starts, ← prints]
        rfl

/-- A machine on which only `nc` has a connection. -/
def withNc : Discovery.Machine where
  opensSocket := true
  bindsSocket := true
  allocates := fun _ => true
  proc := some {
    entries := [.process {
      pid := 12
      positive := by decide
      descriptors := [{ number := 3, link := .socket 7 }]
      comm := some (ascii "nc\n")
      exe := none }]
    distinct := by decide }
  dump := fun family protocol =>
    { sent := true
      messages :=
        if family = .inet ∧ protocol = .tcp then [.sockDiag { uid := 1000, inode := 7 }, .done]
        else [.done]
      closed := false }

theorem list_prints_nc :
    ∃ rows lines : List Bytes,
      printed ((main [ascii "pidnl", ascii "list"] []).exchanges (obliging 0) ()) =
        (lines.map fun line => line ++ [10]).flatten ∧
      lines.length = rows.length + 2 ∧ ∀ line ∈ lines, Sanitised line := by
  have course := Program.course_of_run (obliging 0) (main [ascii "pidnl", ascii "list"] []) ()
  have isList : IsCommand [ascii "pidnl", ascii "list"] (ascii "list") [] :=
    (findArgument_iff_isCommand (by decide)).mp (by decide)
  have finds : ((main [ascii "pidnl", ascii "list"] []).exchanges (obliging 0) ()).filterMap
      foundBy = [[called (ascii "nc")]] := rfl
  have returns : Discovery.getNetworkProcesses withNc = .ok [called (ascii "nc")] := by decide
  rcases list_prints isList (by
    intro processes member
    rw [finds] at member
    exact ⟨withNc, List.mem_singleton.mp member ▸ returns⟩) course with
    ⟨rows, lines, _, _, prints, isLines, length, sanitised⟩
  exact ⟨rows.map fun row => tableRow row.1 row.2, lines, prints.trans isLines,
    by rw [List.length_map, length], sanitised⟩

end Pidnl.Cli
