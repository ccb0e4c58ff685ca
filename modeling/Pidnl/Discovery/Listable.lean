import Pidnl.Discovery.Functions

/-! # What a list can hold

Names and paths come from the processes themselves. What `get_network_processes`
returns has them without control characters and within their buffers.
-/

namespace Pidnl.Discovery

open Pidnl.Foundation
open Pidnl.Gui (ProcessInfo)

def Sanitised (text : Bytes) : Prop := ∀ byte ∈ text, 32 ≤ byte ∧ byte ≠ 127

instance (text : Bytes) : Decidable (Sanitised text) := List.decidableBAll _ text

/-- What `add_process_list` makes of a process. -/
structure Listable (process : ProcessInfo) : Prop where
  positive : 0 < process.pid
  name : Sanitised process.processName
  nameLength : process.processName.length ≤ TS_COMM_LEN - 1
  path : Sanitised process.exePath
  pathLength : process.exePath.length ≤ PATH_MAX - 1
  tcp : process.hasTcp = 0 ∨ process.hasTcp = 1
  udp : process.hasUdp = 0 ∨ process.hasUdp = 1

theorem sanitised_sanitise (text : Bytes) : Sanitised (sanitise text) := by
  intro byte member
  rcases List.mem_map.mp member with ⟨source, _, same⟩
  by_cases control : source < 0x20 ∨ source = 0x7f
  · rw [if_pos control] at same
    subst same
    decide
  · rw [if_neg control] at same
    subst same
    rw [not_or] at control
    exact ⟨UInt8.not_lt.mp control.1, control.2⟩

namespace Sanitised

variable {text : Bytes}

theorem nil : Sanitised [] := nofun

theorem notMem (sanitised : Sanitised text) {byte : UInt8}
    (control : byte < 32 ∨ byte = 127) : byte ∉ text := by
  intro member
  have printable := sanitised byte member
  rcases control with low | same
  · exact absurd printable.1 (UInt8.not_le.mpr low)
  · exact printable.2 same

end Sanitised

/-! ## Buffers -/

theorem length_fgets_le {room : Nat} {contents line rest : Bytes}
    (read : Pidnl.Gui.fgets room contents = some (line, rest)) : line.length ≤ room := by
  induction room generalizing contents line with
  | zero =>
      cases read
      exact Nat.le_refl 0
  | succ room induction =>
      cases contents with
      | nil => contradiction
      | cons byte contents =>
          rw [Pidnl.Gui.fgets] at read
          split at read
          · cases read
            exact Nat.succ_le_succ (Nat.zero_le room)
          · rcases Option.map_eq_some_iff.mp read with ⟨⟨shorter, later⟩, found, equal⟩
            cases equal
            exact Nat.succ_le_succ (induction found)

theorem length_lt_of_fgets_eq_none {room : Nat} {contents : Bytes}
    (waits : Pidnl.Gui.fgets room contents = none) : contents.length < room := by
  induction room generalizing contents with
  | zero => contradiction
  | succ room induction =>
      cases contents with
      | nil => exact Nat.succ_pos room
      | cons byte contents =>
          rw [Pidnl.Gui.fgets] at waits
          split at waits
          · contradiction
          · exact Nat.succ_lt_succ (induction (Option.map_eq_none_iff.mp waits))

theorem length_fgetsFile_le (room : Nat) (contents : Bytes) :
    (fgetsFile room contents).length ≤ room := by
  rw [fgetsFile]
  split
  · rename_i line rest read
    exact length_fgets_le read
  · rename_i waits
    exact Nat.le_of_lt (length_lt_of_fgets_eq_none waits)

theorem length_bufferString_le (bytes : Bytes) :
    (bufferString bytes).length ≤ bytes.length :=
  (List.takeWhile_sublist _).length_le

theorem length_stripLineFeed_le (text : Bytes) :
    (stripLineFeed text).length ≤ text.length := by
  rw [stripLineFeed]
  split
  · exact (List.dropLast_sublist text).length_le
  · exact Nat.le_refl _

theorem sanitised_readProcessName (comm : Option Bytes) :
    Sanitised (readProcessName comm) := by
  cases comm with
  | none => exact Sanitised.nil
  | some contents => exact sanitised_sanitise _

theorem length_readProcessName_le (comm : Option Bytes) :
    (readProcessName comm).length ≤ TS_COMM_LEN - 1 := by
  cases comm with
  | none => exact Nat.zero_le _
  | some contents =>
      rw [readProcessName, sanitise, List.length_map]
      have line := length_fgetsFile_le (TS_COMM_LEN - 1) contents
      have string := length_bufferString_le (fgetsFile (TS_COMM_LEN - 1) contents)
      have stripped := length_stripLineFeed_le
        (bufferString (fgetsFile (TS_COMM_LEN - 1) contents))
      omega

theorem sanitised_readExePath (exe : Option Bytes) : Sanitised (readExePath exe) := by
  cases exe with
  | none => exact Sanitised.nil
  | some target => exact sanitised_sanitise _

theorem length_readExePath_le (exe : Option Bytes) :
    (readExePath exe).length ≤ PATH_MAX - 1 := by
  cases exe with
  | none => exact Nat.zero_le _
  | some target =>
      rw [readExePath, sanitise, List.length_map]
      exact (length_bufferString_le _).trans (List.length_take_le _ _)

/-! ## Every list that is returned -/

theorem listable_newProcess (machine : Machine) {pid : Int32} (positive : 0 < pid)
    (isTcp : Bool) : Listable (newProcess machine pid isTcp) where
  positive := positive
  name := sanitised_readProcessName _
  nameLength := length_readProcessName_le _
  path := sanitised_readExePath _
  pathLength := length_readExePath_le _
  tcp := by
    cases isTcp with
    | true => exact .inr rfl
    | false => exact .inl rfl
  udp := by
    cases isTcp with
    | true => exact .inl rfl
    | false => exact .inr rfl

theorem listable_countConnection {pid : Int32} {isTcp : Bool}
    {processes counted : List ProcessInfo}
    (listable : ∀ process ∈ processes, Listable process)
    (found : countConnection pid isTcp processes = some counted) :
    ∀ process ∈ counted, Listable process := by
  induction processes generalizing counted with
  | nil => contradiction
  | cons process processes induction =>
      have first := listable process (.head _)
      have rest : ∀ other ∈ processes, Listable other := fun other member =>
        listable other (.tail _ member)
      rw [countConnection] at found
      split at found
      · cases found
        intro other member
        rcases List.mem_cons.mp member with same | member
        · subst same
          cases isTcp with
          | true => exact { first with tcp := .inr rfl }
          | false => exact { first with udp := .inr rfl }
        · exact rest other member
      · rcases Option.map_eq_some_iff.mp found with ⟨later, foundLater, equal⟩
        subst equal
        intro other member
        rcases List.mem_cons.mp member with same | member
        · exact same ▸ first
        · exact induction rest foundLater other member

theorem listable_addProcessList {machine : Machine} {list added : ProcessList}
    {pid : Int32} {isTcp : Bool} (positive : 0 < pid)
    (listable : ∀ process ∈ list.processes, Listable process)
    (adds : addProcessList machine list pid isTcp = some added) :
    ∀ process ∈ added.processes, Listable process := by
  rw [addProcessList] at adds
  split at adds
  · rename_i counted found
    cases adds
    exact listable_countConnection listable found
  · dsimp only at adds
    generalize (if list.processes.length ≥ list.capacity then list.capacity * 2
      else list.capacity) = capacity at adds
    split at adds
    · contradiction
    · cases adds
      intro process member
      rcases List.mem_append.mp member with old | new
      · exact listable process old
      · rw [List.mem_singleton.mp new]
        exact listable_newProcess machine positive isTcp

theorem listable_readMessages {machine : Machine} {protocol : Protocol} {closed : Bool}
    {messages : List NetlinkMessage} {list final : ProcessList}
    (listable : ∀ process ∈ list.processes, Listable process)
    (reads : readMessages machine protocol closed messages list = some final) :
    ∀ process ∈ final.processes, Listable process := by
  induction messages generalizing list with
  | nil =>
      rw [readMessages] at reads
      split at reads
      · cases reads
        exact listable
      · contradiction
  | cons message messages induction =>
      cases message with
      | done =>
          cases reads
          exact listable
      | error => contradiction
      | other => exact induction listable reads
      | sockDiag diag =>
          rw [readMessages] at reads
          split at reads
          · dsimp only at reads
            split at reads
            · rename_i positive
              split at reads
              · contradiction
              · rename_i added adds
                exact induction (listable_addProcessList positive listable adds) reads
            · exact induction listable reads
          · exact induction listable reads

theorem listable_querySockets {machine : Machine} {family : Family} {protocol : Protocol}
    {list final : ProcessList}
    (listable : ∀ process ∈ list.processes, Listable process)
    (queries : querySockets machine family protocol list = some final) :
    ∀ process ∈ final.processes, Listable process := by
  rw [querySockets] at queries
  split at queries
  · exact listable_readMessages listable queries
  · contradiction

/-- Whatever the processes call themselves, their names can be listed. -/
theorem listable_getNetworkProcesses {machine : Machine} {processes : List ProcessInfo}
    (returns : getNetworkProcesses machine = .ok processes) :
    ∀ process ∈ processes, Listable process := by
  rw [getNetworkProcesses] at returns
  split at returns
  · contradiction
  split at returns
  · contradiction
  split at returns
  · contradiction
  rename_i created creates
  split at returns
  · contradiction
  rename_i final queries
  cases returns
  have empty : ∀ process ∈ created.processes, Listable process := by
    rw [createProcessList] at creates
    split at creates
    · cases creates
      nofun
    · contradiction
  simp only [queryAll, Option.bind_eq_bind, Option.bind_eq_some_iff] at queries
  rcases queries with ⟨tcp, readsTcp, tcp6, readsTcp6, udp, readsUdp, readsUdp6⟩
  have afterTcp := listable_querySockets empty readsTcp
  have afterTcp6 := listable_querySockets afterTcp readsTcp6
  have afterUdp := listable_querySockets afterTcp6 readsUdp
  exact listable_querySockets afterUdp readsUdp6

end Pidnl.Discovery
