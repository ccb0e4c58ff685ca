import Pidnl.Discovery.Functions

/-! # Which processes are listed

The search for an inode ends at the first process that holds it, in the order of
`/proc`. Of the processes that share a socket, this one alone is listed for it.
-/

namespace Pidnl.Discovery

open Pidnl.Foundation
open Pidnl.Gui (ProcessInfo)

def Process.Holds (process : Process) (inode : UInt32) : Prop :=
  ∃ descriptor ∈ process.descriptors, descriptor.link = .socket inode

instance (process : Process) (inode : UInt32) : Decidable (process.Holds inode) :=
  inferInstanceAs (Decidable (∃ descriptor ∈ _, _))

namespace Snapshot

def IsFirstHolder (snapshot : Snapshot) (process : Process) (inode : UInt32) : Prop :=
  process.Holds inode ∧ ∃ earlier later,
    snapshot.processes = earlier ++ process :: later ∧
      ∀ other ∈ earlier, ¬ other.Holds inode

end Snapshot

def reportedSockets : List NetlinkMessage → List InetDiagMsg
  | [] => []
  | .done :: _ => []
  | .error :: _ => []
  | .other :: messages => reportedSockets messages
  | .sockDiag diag :: messages => diag :: reportedSockets messages

def completes (closed : Bool) : List NetlinkMessage → Bool
  | [] => closed
  | .done :: _ => true
  | .error :: _ => false
  | .other :: messages => completes closed messages
  | .sockDiag _ :: messages => completes closed messages

namespace Machine

/-- The sockets that the kernel reports for TCP and UDP over IPv4 and IPv6. -/
def reported (machine : Machine) : List InetDiagMsg :=
  reportedSockets (machine.dump .inet .tcp).messages ++
    (reportedSockets (machine.dump .inet6 .tcp).messages ++
      (reportedSockets (machine.dump .inet .udp).messages ++
        reportedSockets (machine.dump .inet6 .udp).messages))

structure NoErrors (machine : Machine) (snapshot : Snapshot) : Prop where
  opensSocket : machine.opensSocket
  bindsSocket : machine.bindsSocket
  allocates : ∀ room, machine.allocates room
  proc : machine.proc = some snapshot
  sent : ∀ family protocol, (machine.dump family protocol).sent
  completes : ∀ family protocol, completes (machine.dump family protocol).closed
    (machine.dump family protocol).messages

end Machine

/-- A process is listed if and only if it holds a reported socket of root or of an
ordinary user. -/
def ListsHolders (machine : Machine) (snapshot : Snapshot)
    (processes : List ProcessInfo) : Prop :=
  ∀ pid, pid ∈ processes.map ProcessInfo.pid ↔
    ∃ process ∈ snapshot.processes, process.pid = pid ∧
      ∃ diag ∈ machine.reported, diag.IsListed ∧ process.Holds diag.inode

def EveryHolderFirst (machine : Machine) (snapshot : Snapshot) : Prop :=
  ∀ process ∈ snapshot.processes,
    (∃ diag ∈ machine.reported, diag.IsListed ∧ process.Holds diag.inode) →
      ∃ diag ∈ machine.reported, diag.IsListed ∧
        snapshot.IsFirstHolder process diag.inode

/-! ## Links to sockets -/

theorem drop_socketPrefix (rest : Bytes) :
    (ascii "socket:[" ++ rest).drop (ascii "socket:[").length = rest :=
  List.drop_left

theorem endsNumeral_bracket : Scanf.EndsNumeral (ascii "]") :=
  Scanf.endsNumeral_cons (by decide) []

theorem scanSocketLink_socket (inode : UInt32) :
    scanSocketLink (ascii "socket:[" ++ Decimal.unsigned inode.toNat ++ ascii "]") =
      some inode := by
  have starts : (ascii "socket:[").isPrefixOf
      (ascii "socket:[" ++ (Decimal.unsigned inode.toNat ++ ascii "]")) = true :=
    List.isPrefixOf_iff_prefix.mpr (List.prefix_append _ _)
  rw [List.append_assoc, scanSocketLink, if_pos starts, drop_socketPrefix,
    Scanf.unsigned_unsigned endsNumeral_bracket]
  rfl

theorem scanSocketLink_of_not_prefix {link : Bytes}
    (notSocket : ¬ ascii "socket:[" <+: link) : scanSocketLink link = none := by
  rw [scanSocketLink, if_neg (mt List.isPrefixOf_iff_prefix.mp notSocket)]

theorem length_socketText (inode : UInt32) :
    (ascii "socket:[" ++ Decimal.unsigned inode.toNat ++ ascii "]").length ≤
      SOCKET_LINK_MAX - 1 := by
  have digits : (Decimal.unsigned inode.toNat).length ≤ 10 :=
    Decimal.length_unsigned_le (by decide) (by have := inode.toNat_lt; omega)
  have start : (ascii "socket:[").length = 8 := by decide
  have last : (ascii "]").length = 1 := by decide
  have room : SOCKET_LINK_MAX - 1 = 63 := rfl
  rw [List.length_append, List.length_append]
  omega

theorem head?_unsigned_ne_dot (value : Nat) :
    (Decimal.unsigned value).head? ≠ some 46 := by
  intro dot
  have digit := Decimal.isDigit_of_mem_unsigned (List.mem_of_mem_head? dot)
  exact absurd digit (by decide)

theorem linksTo_descriptor (inode : UInt32) (descriptor : Descriptor) :
    linksTo inode { name := Decimal.unsigned descriptor.number
                    link := descriptor.link.text? } =
      decide (descriptor.link = .socket inode) := by
  rw [linksTo, if_neg (head?_unsigned_ne_dot _)]
  cases descriptor.link with
  | unreadable => simp [FdLink.text?]
  | socket held =>
      have nonempty : ascii "socket:[" ++ Decimal.unsigned held.toNat ++ ascii "]" ≠ [] :=
        List.append_ne_nil_of_right_ne_nil _ (by decide)
      simp only [FdLink.text?, List.take_of_length_le (length_socketText held), nonempty,
        if_false, scanSocketLink_socket, Option.some.injEq, FdLink.socket.injEq]
  | other text notSocket =>
      have cut : ¬ ascii "socket:[" <+: text.take (SOCKET_LINK_MAX - 1) := fun starts =>
        notSocket (starts.trans (List.take_prefix _ _))
      simp only [FdLink.text?, scanSocketLink_of_not_prefix cut]
      simp

theorem any_linksTo_iff {process : Process} {inode : UInt32} :
    process.fdDir.any (linksTo inode) = true ↔ process.Holds inode := by
  have dot : linksTo inode { name := ascii ".", link := none } = false := rfl
  have dots : linksTo inode { name := ascii "..", link := none } = false := rfl
  simp only [Process.fdDir, List.any_cons, dot, dots, Bool.false_or, List.any_map,
    List.any_eq_true, Function.comp_apply, linksTo_descriptor, decide_eq_true_eq,
    Process.Holds]

/-! ## The search for an inode -/

theorem strtol_pid (process : Process) :
    Decimal.strtol (Decimal.signed process.pid.toInt) =
      { value := process.pid.toInt, rest := [], noDigits := false,
        outOfRange := false } := by
  have above := process.pid.le_toInt
  have below := process.pid.toInt_lt
  have ends : ∀ byte, ([] : Bytes).head? = some byte → Decimal.isDigit byte = false :=
    nofun
  have scanned : Decimal.strtol (Decimal.signed process.pid.toInt ++ []) = _ :=
    Decimal.scan_signed_append ends (by omega) (by omega)
  rw [List.append_nil] at scanned
  exact scanned

theorem head?_pid_ne_dot (process : Process) :
    (Decimal.signed process.pid.toInt).head? ≠ some 46 := by
  have positive : ¬ process.pid.toInt < 0 := by
    have := Int32.lt_iff_toInt_lt.mp process.positive
    have zero : (0 : Int32).toInt = 0 := rfl
    omega
  rw [Decimal.signed, if_neg positive]
  exact head?_unsigned_ne_dot _

theorem process?_of_mem {snapshot : Snapshot} {process : Process}
    (member : process ∈ snapshot.processes) :
    snapshot.process? process.pid.toInt = some process := by
  have distinct := snapshot.distinct
  change (snapshot.processes.map Process.pid).Nodup at distinct
  rw [Snapshot.process?]
  revert member distinct
  generalize snapshot.processes = processes
  intro member distinct
  induction processes with
  | nil => cases member
  | cons head tail induction =>
      rw [List.map_cons, List.nodup_cons] at distinct
      rw [List.find?_cons]
      cases member with
      | head => simp
      | tail _ member =>
          have different : head.pid.toInt ≠ process.pid.toInt := by
            intro same
            rw [Int32.toInt_inj.mp same] at distinct
            exact distinct.1 (List.mem_map_of_mem member)
          simp only [different, decide_false]
          exact induction member distinct.2

theorem findPid_eq {snapshot : Snapshot} {inode : UInt32} {entries : List ProcEntry}
    (known : ∀ process ∈ entries.filterMap ProcEntry.process?,
      process ∈ snapshot.processes) :
    findPid snapshot inode entries =
      match (entries.filterMap ProcEntry.process?).find? fun process =>
        process.Holds inode with
      | some process => process.pid
      | none => -1 := by
  induction entries with
  | nil => rfl
  | cons entry entries induction =>
      cases entry with
      | other name notPid =>
          have rest := induction known
          rw [findPid]
          simp only [ProcEntry.name, notPid, if_true, ite_self]
          exact rest
      | process process =>
          have member := known process (List.mem_cons_self ..)
          have rest := induction fun other found => known other (.tail _ found)
          have skipped : (ProcEntry.process process :: entries).filterMap
              ProcEntry.process? =
                process :: entries.filterMap ProcEntry.process? := rfl
          rw [skipped, findPid]
          simp only [ProcEntry.name, head?_pid_ne_dot, if_false, strtol_pid,
            Bool.false_eq_true, process?_of_mem member, any_linksTo_iff,
            Int32.ofInt_toInt, List.find?_cons]
          by_cases holds : process.Holds inode
          · simp only [holds, if_true, decide_true]
          · simp only [holds, if_false, decide_false]
            exact rest

theorem isFirstHolder_iff {snapshot : Snapshot} {process : Process} {inode : UInt32} :
    snapshot.IsFirstHolder process inode ↔
      (snapshot.processes.find? fun process => process.Holds inode) = some process := by
  rw [List.find?_eq_some_iff_append]
  simp only [decide_eq_true_eq, Bool.not_eq_true', decide_eq_false_iff_not,
    Snapshot.IsFirstHolder]

theorem findPidByInode_eq_iff {machine : Machine} {snapshot : Snapshot} {inode : UInt32}
    (proc : machine.proc = some snapshot) {pid : Int32} (positive : 0 < pid) :
    findPidByInode machine inode = pid ↔
      ∃ process ∈ snapshot.processes, process.pid = pid ∧
        snapshot.IsFirstHolder process inode := by
  have found : findPid snapshot inode snapshot.entries = _ :=
    findPid_eq fun _ member => member
  simp only [findPidByInode, proc, found, isFirstHolder_iff]
  change (match snapshot.processes.find? _ with
    | some process => process.pid
    | none => -1) = pid ↔ _
  cases search : snapshot.processes.find? fun process => decide (process.Holds inode) with
  | none =>
      constructor
      · intro same
        subst same
        exact absurd positive (by decide)
      · intro holder
        rcases holder with ⟨process, _, _, same⟩
        contradiction
  | some process =>
      have member := List.mem_of_find?_eq_some search
      constructor
      · intro same
        exact ⟨process, member, same, rfl⟩
      · intro holder
        rcases holder with ⟨other, _, samePid, same⟩
        cases same
        exact samePid

/-! ## The list -/

theorem countConnection_eq_none_iff {pid : Int32} {isTcp : Bool}
    {processes : List ProcessInfo} :
    countConnection pid isTcp processes = none ↔
      pid ∉ processes.map ProcessInfo.pid := by
  induction processes with
  | nil => simp [countConnection]
  | cons process processes induction =>
      rw [countConnection, List.map_cons, List.mem_cons]
      by_cases same : process.pid = pid
      · simp [same]
      · rw [if_neg same, Option.map_eq_none_iff, induction]
        have different : pid ≠ process.pid := fun equal => same equal.symm
        simp [different]

theorem pids_countConnection {pid : Int32} {isTcp : Bool}
    {processes counted : List ProcessInfo}
    (found : countConnection pid isTcp processes = some counted) :
    counted.map ProcessInfo.pid = processes.map ProcessInfo.pid := by
  induction processes generalizing counted with
  | nil => contradiction
  | cons process processes induction =>
      rw [countConnection] at found
      split at found
      · cases found
        cases isTcp <;> rfl
      · rcases Option.map_eq_some_iff.mp found with ⟨rest, foundRest, equal⟩
        subst equal
        rw [List.map_cons, List.map_cons, induction foundRest]

theorem mem_addProcessList {machine : Machine}
    (allocates : ∀ room, machine.allocates room) (list : ProcessList) (pid : Int32)
    (isTcp : Bool) :
    ∃ added, addProcessList machine list pid isTcp = some added ∧
      ∀ other, other ∈ added.processes.map ProcessInfo.pid ↔
        other ∈ list.processes.map ProcessInfo.pid ∨ other = pid := by
  cases counting : countConnection pid isTcp list.processes with
  | some counted =>
      have known : pid ∈ list.processes.map ProcessInfo.pid := by
        by_contra unknown
        rw [countConnection_eq_none_iff.mpr unknown] at counting
        contradiction
      refine ⟨{ list with processes := counted }, by simp only [addProcessList, counting],
        ?_⟩
      intro other
      rw [pids_countConnection counting]
      constructor
      · exact .inl
      · intro either
        rcases either with listed | same
        · exact listed
        · exact same ▸ known
  | none =>
      simp only [addProcessList, counting, allocates, not_true, and_false, if_false]
      refine ⟨_, rfl, ?_⟩
      intro other
      simp [newProcess]

theorem mem_readMessages {machine : Machine} {closed : Bool} {protocol : Protocol}
    (allocates : ∀ room, machine.allocates room) {messages : List NetlinkMessage}
    (whole : completes closed messages) (list : ProcessList) :
    ∃ final, readMessages machine protocol closed messages list = some final ∧
      ∀ pid, pid ∈ final.processes.map ProcessInfo.pid ↔
        pid ∈ list.processes.map ProcessInfo.pid ∨
          0 < pid ∧ ∃ diag ∈ reportedSockets messages, diag.IsListed ∧
            findPidByInode machine diag.inode = pid := by
  induction messages generalizing list with
  | nil =>
      rw [completes] at whole
      refine ⟨list, by rw [readMessages, if_pos whole], ?_⟩
      simp [reportedSockets]
  | cons message messages induction =>
      cases message with
      | done =>
          refine ⟨list, rfl, ?_⟩
          simp [reportedSockets]
      | error => contradiction
      | other => exact induction whole list
      | sockDiag diag =>
          simp only [reportedSockets, List.mem_cons, exists_eq_or_imp]
          by_cases listed : diag.IsListed ∧ 0 < findPidByInode machine diag.inode
          · rcases mem_addProcessList allocates list (findPidByInode machine diag.inode)
              (decide (protocol = .tcp)) with ⟨added, adds, pids⟩
            rcases induction whole added with ⟨final, reads, finalPids⟩
            refine ⟨final, ?_, ?_⟩
            · simp only [readMessages, listed.1, listed.2, if_true, adds]
              exact reads
            · intro pid
              rw [finalPids, pids, or_assoc]
              apply or_congr_right
              have first : pid = findPidByInode machine diag.inode ↔
                  0 < pid ∧ diag.IsListed ∧ findPidByInode machine diag.inode = pid := by
                constructor
                · intro same
                  exact ⟨same ▸ listed.2, listed.1, same.symm⟩
                · intro found
                  exact found.2.2.symm
              rw [first, ← and_or_left]
          · rcases induction whole list with ⟨final, reads, finalPids⟩
            refine ⟨final, ?_, ?_⟩
            · rw [readMessages]
              split
              · rename_i isListed
                rw [if_neg fun positive => listed ⟨isListed, positive⟩]
                exact reads
              · exact reads
            · intro pid
              rw [finalPids]
              apply or_congr_right
              apply and_congr_right
              intro positive
              constructor
              · exact .inr
              · intro either
                rcases either with ⟨isListed, same⟩ | later
                · exact absurd ⟨isListed, same ▸ positive⟩ listed
                · exact later

section NoErrors

variable {machine : Machine} {snapshot : Snapshot}

theorem mem_querySockets (noErrors : machine.NoErrors snapshot) (family : Family)
    (protocol : Protocol) (list : ProcessList) :
    ∃ final, querySockets machine family protocol list = some final ∧
      ∀ pid, pid ∈ final.processes.map ProcessInfo.pid ↔
        pid ∈ list.processes.map ProcessInfo.pid ∨
          0 < pid ∧ ∃ diag ∈ reportedSockets (machine.dump family protocol).messages,
            diag.IsListed ∧ findPidByInode machine diag.inode = pid := by
  rw [querySockets, if_pos (noErrors.sent family protocol)]
  exact mem_readMessages noErrors.allocates (noErrors.completes family protocol) list

/-- The list has the pid that each reported socket leads to, and no others. -/
theorem mem_getNetworkProcesses (noErrors : machine.NoErrors snapshot) :
    ∃ processes, getNetworkProcesses machine = .ok processes ∧
      ∀ pid, pid ∈ processes.map ProcessInfo.pid ↔
        ∃ process ∈ snapshot.processes, process.pid = pid ∧
          ∃ diag ∈ machine.reported, diag.IsListed ∧
            snapshot.IsFirstHolder process diag.inode := by
  let created : ProcessList := { processes := [], capacity := 64 }
  have creates : createProcessList machine = some created :=
    if_pos ⟨noErrors.allocates 0, noErrors.allocates 64⟩
  rcases mem_querySockets noErrors .inet .tcp created with ⟨tcp, readsTcp, pidsTcp⟩
  rcases mem_querySockets noErrors .inet6 .tcp tcp with ⟨tcp6, readsTcp6, pidsTcp6⟩
  rcases mem_querySockets noErrors .inet .udp tcp6 with ⟨udp, readsUdp, pidsUdp⟩
  rcases mem_querySockets noErrors .inet6 .udp udp with ⟨udp6, readsUdp6, pidsUdp6⟩
  have queries : queryAll machine created = some udp6 := by
    simp only [queryAll, readsTcp, readsTcp6, readsUdp, readsUdp6, Option.bind_eq_bind,
      Option.bind_some]
  refine ⟨udp6.processes, ?_, ?_⟩
  · simp only [getNetworkProcesses, noErrors.opensSocket, noErrors.bindsSocket, creates,
      queries, not_true, if_false]
  · intro pid
    have empty : pid ∉ created.processes.map ProcessInfo.pid := nofun
    have merged : pid ∈ udp6.processes.map ProcessInfo.pid ↔
        0 < pid ∧ ∃ diag ∈ machine.reported, diag.IsListed ∧
          findPidByInode machine diag.inode = pid := by
      rw [pidsUdp6, pidsUdp, pidsTcp6, pidsTcp, or_assoc, or_assoc, or_assoc]
      simp only [empty, false_or, Machine.reported, List.mem_append, or_and_right,
        exists_or, and_or_left]
    rw [merged]
    constructor
    · intro found
      rcases found with ⟨positive, diag, reported, isListed, leads⟩
      rcases (findPidByInode_eq_iff noErrors.proc positive).mp leads with
        ⟨process, member, samePid, first⟩
      exact ⟨process, member, samePid, diag, reported, isListed, first⟩
    · intro listed
      rcases listed with ⟨process, member, samePid, diag, reported, isListed, first⟩
      have positive : 0 < pid := samePid ▸ process.positive
      have leads := (findPidByInode_eq_iff noErrors.proc positive).mpr
        ⟨process, member, samePid, first⟩
      exact ⟨positive, diag, reported, isListed, leads⟩

/-- Whoever is listed holds a reported socket of root or of an ordinary user. All who
do are listed if and only if each of them comes first in `/proc` among the holders of
one. -/
theorem listsHolders_iff (noErrors : machine.NoErrors snapshot) :
    ∃ processes, getNetworkProcesses machine = .ok processes ∧
      (ListsHolders machine snapshot processes ↔ EveryHolderFirst machine snapshot) := by
  rcases mem_getNetworkProcesses noErrors with ⟨processes, returns, pids⟩
  refine ⟨processes, returns, ?_⟩
  have unique : ∀ left ∈ snapshot.processes, ∀ right ∈ snapshot.processes,
      left.pid = right.pid → left = right := by
    intro left leftMember right rightMember same
    have found := process?_of_mem leftMember
    rw [same, process?_of_mem rightMember] at found
    exact (Option.some.inj found).symm
  constructor
  · intro lists process member holds
    rcases (pids process.pid).mp ((lists process.pid).mpr ⟨process, member, rfl, holds⟩)
      with ⟨other, otherMember, samePid, first⟩
    rw [unique other otherMember process member samePid] at first
    exact first
  · intro everyFirst pid
    rw [pids]
    constructor
    · intro listed
      rcases listed with ⟨process, member, samePid, diag, reported, isListed, first⟩
      exact ⟨process, member, samePid, diag, reported, isListed, first.1⟩
    · intro holder
      rcases holder with ⟨process, member, samePid, holds⟩
      exact ⟨process, member, samePid, everyFirst process member holds⟩

end NoErrors

/-! ## A shared socket -/

/-- A process with the socket of inode 5, which it may have from another process. -/
def holder (pid : Int32) (positive : 0 < pid) : Process where
  pid := pid
  positive := positive
  descriptors := [{ number := 3, link := .socket 5 }]
  comm := some (ascii "nginx\n")
  exe := some (ascii "/usr/sbin/nginx")

def oneSocket (snapshot : Snapshot) : Machine where
  opensSocket := true
  bindsSocket := true
  allocates := fun _ => true
  proc := some snapshot
  dump := fun family protocol =>
    { sent := true
      messages :=
        if family = .inet ∧ protocol = .tcp then
          [.sockDiag { uid := 1000, inode := 5 }, .done]
        else [.done]
      closed := false }

theorem noErrors_oneSocket (snapshot : Snapshot) :
    (oneSocket snapshot).NoErrors snapshot where
  opensSocket := rfl
  bindsSocket := rfl
  allocates := fun _ => rfl
  proc := rfl
  sent := fun _ _ => rfl
  completes := by
    intro family protocol
    cases family <;> cases protocol <;> rfl

def oneHolder : Snapshot where
  entries := [.other (ascii ".") (by decide), .process (holder 7 (by decide))]
  distinct := by decide

theorem listsHolders_iff_oneHolder :
    ∃ processes, getNetworkProcesses (oneSocket oneHolder) = .ok processes ∧
      ListsHolders (oneSocket oneHolder) oneHolder processes := by
  rcases listsHolders_iff (noErrors_oneSocket oneHolder) with ⟨processes, returns, lists⟩
  refine ⟨processes, returns, lists.mpr ?_⟩
  intro process member _
  rw [List.mem_singleton.mp member]
  exact ⟨{ uid := 1000, inode := 5 }, by decide, by decide, by decide, [], [], rfl, nofun⟩

def twoHolders : Snapshot where
  entries := [.process (holder 7 (by decide)), .process (holder 8 (by decide))]
  distinct := by decide

theorem not_listsHolders :
    ∃ processes, getNetworkProcesses (oneSocket twoHolders) = .ok processes ∧
      ¬ ListsHolders (oneSocket twoHolders) twoHolders processes := by
  have returns : (getNetworkProcesses (oneSocket twoHolders)).map
      (fun processes => processes.map ProcessInfo.pid) = .ok [7] := by decide +kernel
  cases listing : getNetworkProcesses (oneSocket twoHolders) with
  | error failure =>
      rw [listing] at returns
      contradiction
  | ok processes =>
      rw [listing] at returns
      have pids : processes.map ProcessInfo.pid = [7] := Except.ok.inj returns
      refine ⟨processes, rfl, ?_⟩
      intro lists
      have listed := (lists 8).mpr ⟨holder 8 (by decide), by decide, rfl,
        { uid := 1000, inode := 5 }, by decide, by decide, by decide⟩
      rw [pids] at listed
      exact absurd listed (by decide)

end Pidnl.Discovery
