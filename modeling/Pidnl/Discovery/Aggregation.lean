import Pidnl.Discovery.Receiving
import Pidnl.Discovery.Listing

/-! # Sockets counted by process

What the list says about its processes, counted from the connections of all four
queries. Where the datagrams begin and end makes no difference to it.
-/

namespace Pidnl.Discovery

open Pidnl.Foundation
open Pidnl.Gui (ProcessInfo)

/-- A socket with its process, and whether TCP sockets were asked for. -/
structure Connection where
  pid : Int32
  isTcp : Bool
deriving DecidableEq, Repr

def connection? (lookup : UInt32 → Int32) (protocol : Protocol) :
    NetlinkMessage → Option Connection
  | .sockDiag diag =>
      if diag.IsListed ∧ 0 < lookup diag.inode then
        some { pid := lookup diag.inode, isTcp := protocol = .tcp }
      else none
  | _ => none

/-- What comes before the last message of a dump. -/
def AreEntries (messages : List NetlinkMessage) : Prop :=
  ∀ message ∈ messages, message ≠ .done ∧ message ≠ .error

/-- The connections of the four queries, in the order they are made. -/
def connections (lookup : UInt32 → Int32)
    (entries : Family → Protocol → List NetlinkMessage) : List Connection :=
  (entries .inet .tcp).filterMap (connection? lookup .tcp) ++
    (entries .inet6 .tcp).filterMap (connection? lookup .tcp) ++
    (entries .inet .udp).filterMap (connection? lookup .udp) ++
    (entries .inet6 .udp).filterMap (connection? lookup .udp)

def countOf (connections : List Connection) (pid : Int32) : Nat :=
  connections.countP fun connection => connection.pid = pid

/-- Every process once, in the order that they were first seen in, with what the
connections tell of it. -/
structure Aggregates (connections : List Connection) (processes : List ProcessInfo) :
    Prop where
  pids : processes.map ProcessInfo.pid = (connections.map Connection.pid).eraseDups
  once : (processes.map ProcessInfo.pid).Nodup
  tcp : ∀ process ∈ processes, process.hasTcp =
    if { pid := process.pid, isTcp := true } ∈ connections then 1 else 0
  udp : ∀ process ∈ processes, process.hasUdp =
    if { pid := process.pid, isTcp := false } ∈ connections then 1 else 0

def CountsWhere (admitted : Nat → Prop) (connections : List Connection)
    (processes : List ProcessInfo) : Prop :=
  ∀ process ∈ processes, admitted (countOf connections process.pid) →
    process.numConnections.toInt = countOf connections process.pid

/-! ## The list that is built up -/

section Tally

variable (machine : Machine)

def tallied (connections : List Connection) (pid : Int32) : ProcessInfo :=
  { newProcess machine pid true with
    numConnections := .ofNat (countOf connections pid)
    hasTcp := if { pid := pid, isTcp := true } ∈ connections then 1 else 0
    hasUdp := if { pid := pid, isTcp := false } ∈ connections then 1 else 0 }

def tally (connections : List Connection) : List ProcessInfo :=
  (connections.map Connection.pid).eraseDups.map (tallied machine connections)

theorem nodup_eraseDups (pids : List Int32) : pids.eraseDups.Nodup := by
  induction hlength : pids.length using Nat.strong_induction_on generalizing pids with
  | _ length induction =>
      cases pids with
      | nil => simp
      | cons pid pids =>
          rw [List.eraseDups_cons, List.nodup_cons]
          constructor
          · simp [List.mem_eraseDups]
          · apply induction _ _ _ rfl
            have shorter := List.length_filter_le (fun other => !other == pid) pids
            rw [← hlength, List.length_cons]
            omega

def counted (process : ProcessInfo) (isTcp : Bool) : ProcessInfo :=
  let counted := { process with numConnections := process.numConnections + 1 }
  if isTcp then { counted with hasTcp := 1 } else { counted with hasUdp := 1 }

theorem countConnection_map {pids : List Int32} (nodup : pids.Nodup)
    {entry : Int32 → ProcessInfo} (keyed : ∀ pid, (entry pid).pid = pid) {pid : Int32}
    (member : pid ∈ pids) (isTcp : Bool) :
    countConnection pid isTcp (pids.map entry) =
      some (pids.map fun other =>
        if other = pid then counted (entry other) isTcp else entry other) := by
  induction pids with
  | nil => cases member
  | cons head tail induction =>
      rcases List.nodup_cons.mp nodup with ⟨headNotMem, tailNodup⟩
      rw [List.map_cons, countConnection, List.map_cons]
      by_cases same : head = pid
      · subst same
        have unchanged : tail.map (fun other =>
            if other = head then counted (entry other) isTcp else entry other) =
              tail.map entry := by
          apply List.map_congr_left
          intro other member
          rw [if_neg]
          intro equal
          exact headNotMem (equal ▸ member)
        rw [if_pos (keyed head), if_pos rfl, unchanged]
        rfl
      · have different : (entry head).pid ≠ pid := by rwa [keyed]
        rw [if_neg different, if_neg same]
        have later : pid ∈ tail := by
          cases member with
          | head => contradiction
          | tail _ later => exact later
        rw [induction tailNodup later]
        rfl

theorem countOf_snoc (connections : List Connection) (connection : Connection)
    (pid : Int32) :
    countOf (connections ++ [connection]) pid =
      countOf connections pid + if connection.pid = pid then 1 else 0 := by
  simp [countOf, List.countP_append, List.countP_cons]

theorem tallied_snoc_of_ne {connections : List Connection} {connection : Connection}
    {pid : Int32} (different : pid ≠ connection.pid) :
    tallied machine (connections ++ [connection]) pid = tallied machine connections pid := by
  have other : ∀ isTcp, { pid := pid, isTcp := isTcp } ∈ connections ++ [connection] ↔
      { pid := pid, isTcp := isTcp } ∈ connections := by
    intro isTcp
    rw [List.mem_append, List.mem_singleton, or_iff_left]
    intro same
    exact different (congrArg Connection.pid same)
  rw [tallied, tallied, countOf_snoc, if_neg (Ne.symm different), Nat.add_zero]
  simp only [other]

theorem tallied_snoc_self (connections : List Connection) (connection : Connection) :
    tallied machine (connections ++ [connection]) connection.pid =
      counted (tallied machine connections connection.pid) connection.isTcp := by
  rcases connection with ⟨pid, isTcp⟩
  rw [tallied, countOf_snoc, if_pos rfl]
  cases isTcp <;> simp [counted, tallied]

theorem tallied_snoc_first {connections : List Connection} {connection : Connection}
    (unseen : connection.pid ∉ connections.map Connection.pid) :
    tallied machine (connections ++ [connection]) connection.pid =
      newProcess machine connection.pid connection.isTcp := by
  rcases connection with ⟨pid, isTcp⟩
  have absent : ∀ isTcp, { pid := pid, isTcp := isTcp } ∉ connections := by
    intro isTcp member
    exact unseen (List.mem_map.mpr ⟨_, member, rfl⟩)
  have none : countOf connections pid = 0 := by
    rw [countOf, List.countP_eq_zero]
    intro other member same
    rw [decide_eq_true_eq] at same
    exact unseen (List.mem_map.mpr ⟨other, member, same⟩)
  rw [tallied, countOf_snoc, if_pos rfl, none]
  cases isTcp <;> simp [newProcess, absent]

theorem eraseDups_snoc (pids : List Int32) (pid : Int32) :
    (pids ++ [pid]).eraseDups =
      if pid ∈ pids then pids.eraseDups else pids.eraseDups ++ [pid] := by
  rw [List.eraseDups_append]
  by_cases member : pid ∈ pids
  · simp [List.removeAll, member]
  · have alone : [pid].eraseDups = [pid] := by rw [List.eraseDups_cons]; rfl
    simp [List.removeAll, member, alone]

variable {machine}

theorem addProcessList_tally (allocates : ∀ room, machine.allocates room)
    {list : ProcessList} {connections : List Connection}
    (tallies : list.processes = tally machine connections) (connection : Connection) :
    ∃ added, addProcessList machine list connection.pid connection.isTcp = some added ∧
      added.processes = tally machine (connections ++ [connection]) := by
  have keyed : ∀ pid, (tallied machine connections pid).pid = pid := fun _ => rfl
  have nodup := nodup_eraseDups (connections.map Connection.pid)
  have pids : (connections ++ [connection]).map Connection.pid =
      connections.map Connection.pid ++ [connection.pid] := by
    rw [List.map_append, List.map_singleton]
  by_cases seen : connection.pid ∈ connections.map Connection.pid
  · have listed := List.mem_eraseDups.mpr seen
    have counting := countConnection_map nodup keyed listed connection.isTcp
    rw [addProcessList, tallies, tally, counting]
    refine ⟨_, rfl, ?_⟩
    rw [tally, pids, eraseDups_snoc, if_pos seen]
    apply List.map_congr_left
    intro other member
    split
    · rename_i same
      rw [same, tallied_snoc_self]
    · rename_i different
      rw [tallied_snoc_of_ne machine different]
  · have unlisted : connection.pid ∉ list.processes.map ProcessInfo.pid := by
      rw [tallies, tally, List.map_map]
      simp only [Function.comp_def, keyed, List.map_id', List.mem_eraseDups]
      exact seen
    rw [addProcessList, countConnection_eq_none_iff.mpr unlisted]
    simp only [allocates, not_true, and_false, if_false]
    refine ⟨_, rfl, ?_⟩
    rw [tally, pids, eraseDups_snoc, if_neg seen, List.map_append, List.map_singleton,
      tallied_snoc_first machine seen, tallies, tally]
    apply congrArg (· ++ _)
    apply List.map_congr_left
    intro other member
    rw [tallied_snoc_of_ne]
    intro same
    exact seen (same ▸ List.mem_eraseDups.mp member)

theorem takeMessages_tally (allocates : ∀ room, machine.allocates room)
    (lookup : UInt32 → Int32) (protocol : Protocol) {entries : List NetlinkMessage}
    (areEntries : AreEntries entries) {list : ProcessList} {connections : List Connection}
    (tallies : list.processes = tally machine connections) :
    ∃ taken, takeMessages machine lookup protocol (entries ++ [.done]) list =
        (taken, .done) ∧
      taken.processes = tally machine
        (connections ++ entries.filterMap (connection? lookup protocol)) := by
  induction entries generalizing list connections with
  | nil => exact ⟨list, rfl, by rw [List.filterMap_nil, List.append_nil, tallies]⟩
  | cons message messages induction =>
      have rest : AreEntries messages := fun later member => areEntries later (.tail _ member)
      cases message with
      | done => exact absurd rfl (areEntries _ (.head _)).1
      | error => exact absurd rfl (areEntries _ (.head _)).2
      | other => exact induction rest tallies
      | sockDiag diag =>
          rw [List.cons_append, takeMessages, takeMessage]
          by_cases counts : diag.IsListed ∧ 0 < lookup diag.inode
          · rcases addProcessList_tally allocates tallies
              { pid := lookup diag.inode, isTcp := protocol = .tcp } with ⟨added, adds, tallied⟩
            rcases induction rest tallied with ⟨taken, takes, processes⟩
            refine ⟨taken, ?_, ?_⟩
            · simp only [counts.1, counts.2, if_true, adds]
              exact takes
            · rw [processes, List.append_assoc, List.filterMap_cons, connection?,
                if_pos counts]
              rfl
          · rcases induction rest tallies with ⟨taken, takes, processes⟩
            refine ⟨taken, ?_, ?_⟩
            · rw [not_and] at counts
              by_cases listed : diag.IsListed
              · simp only [listed, counts listed, if_true, if_false]
                exact takes
              · simp only [listed, if_false]
                exact takes
            · rw [processes, List.filterMap_cons, connection?, if_neg counts]

theorem aggregates_tally (connections : List Connection) :
    Aggregates connections (tally machine connections) := by
  have pids : (tally machine connections).map ProcessInfo.pid =
      (connections.map Connection.pid).eraseDups := by
    rw [tally, List.map_map]
    exact List.map_id _
  constructor
  · exact pids
  · rw [pids]
    exact nodup_eraseDups _
  · intro process member
    rcases List.mem_map.mp member with ⟨pid, _, rfl⟩
    rfl
  · intro process member
    rcases List.mem_map.mp member with ⟨pid, _, rfl⟩
    rfl

/-- A number of connections is right as long as it is an `int`. -/
theorem countsWhere_tally (connections : List Connection) :
    CountsWhere (· ≤ 2 ^ 31 - 1) connections (tally machine connections) := by
  intro process member small
  rcases List.mem_map.mp member with ⟨pid, _, rfl⟩
  exact Int32.toInt_ofNat_of_lt (Nat.lt_of_le_of_lt small (by decide))

theorem perm_tally {connections reordered : List Connection}
    (perm : reordered.Perm connections) :
    (tally machine reordered).Perm (tally machine connections) := by
  have same : tallied machine reordered = tallied machine connections := by
    funext pid
    simp only [tallied, countOf, perm.countP_eq, perm.mem_iff]
  rw [tally, tally, same]
  apply List.Perm.map
  apply (List.perm_ext_iff_of_nodup (nodup_eraseDups _) (nodup_eraseDups _)).mpr
  intro pid
  rw [List.mem_eraseDups, List.mem_eraseDups]
  exact (perm.map Connection.pid).mem_iff

end Tally

/-! ## The four queries -/

structure Machine.Works (machine : Machine) : Prop where
  opensSocket : machine.opensSocket
  bindsSocket : machine.bindsSocket
  allocates : ∀ room, machine.allocates room
  sent : ∀ family protocol, (machine.dump family protocol).sent

def Wire.Receives (wire : Wire) (entries : Family → Protocol → List NetlinkMessage) :
    Prop :=
  ∀ family protocol, AreEntries (entries family protocol) ∧
    ∃ datagrams, wire.receptions family protocol = datagrams.map .received ∧
      Packs wire.order datagrams (entries family protocol ++ [.done])

variable {wire : Wire} {entries : Family → Protocol → List NetlinkMessage}

theorem querySockets_tally (works : wire.machine.Works) (receives : wire.Receives entries)
    (family : Family) (protocol : Protocol) {list : ProcessList}
    {connections : List Connection} (tallies : list.processes = tally wire.machine connections) :
    ∃ taken, wire.querySockets family protocol list = .finished taken ∧
      taken.processes = tally wire.machine
        (connections ++
          (entries family protocol).filterMap (connection? wire.lookup protocol)) := by
  rcases receives family protocol with ⟨areEntries, datagrams, received, packs⟩
  rcases takeMessages_tally works.allocates wire.lookup protocol areEntries tallies with
    ⟨taken, takes, processes⟩
  refine ⟨taken, ?_, processes⟩
  rw [Wire.querySockets, if_pos (works.sent family protocol), received,
    receive_packs protocol wire packs, takes]

theorem getNetworkProcesses_tally (works : wire.machine.Works)
    (receives : wire.Receives entries) :
    wire.getNetworkProcesses =
      some (.ok (tally wire.machine (connections wire.lookup entries))) := by
  let created : ProcessList := { processes := [], capacity := 64 }
  have creates : createProcessList wire.machine = some created :=
    if_pos ⟨works.allocates 0, works.allocates 64⟩
  have empty : created.processes = tally wire.machine [] := rfl
  rcases querySockets_tally works receives .inet .tcp empty with ⟨tcp, takesTcp, tcpTally⟩
  rcases querySockets_tally works receives .inet6 .tcp tcpTally with
    ⟨tcp6, takesTcp6, tcp6Tally⟩
  rcases querySockets_tally works receives .inet .udp tcp6Tally with
    ⟨udp, takesUdp, udpTally⟩
  rcases querySockets_tally works receives .inet6 .udp udpTally with
    ⟨udp6, takesUdp6, udp6Tally⟩
  have queries : wire.queryAll created = .finished udp6 := by
    simp only [Wire.queryAll, takesTcp, takesTcp6, takesUdp, takesUdp6, Query.andThen]
  simp only [Wire.getNetworkProcesses, works.opensSocket, works.bindsSocket, creates,
    queries, not_true, if_false, udp6Tally, List.nil_append, connections]

/-- The list depends on the connections alone, and their order makes no difference but
to its own. -/
theorem getNetworkProcesses_aggregates (works : wire.machine.Works)
    (receives : wire.Receives entries) :
    ∃ processes, wire.getNetworkProcesses = some (.ok processes) ∧
      Aggregates (connections wire.lookup entries) processes ∧
      CountsWhere (· ≤ 2 ^ 31 - 1) (connections wire.lookup entries) processes ∧
      ∀ {other : Wire} {reordered : Family → Protocol → List NetlinkMessage},
        other.machine = wire.machine → other.lookup = wire.lookup →
        other.Receives reordered →
        (∀ family protocol, (reordered family protocol).Perm (entries family protocol)) →
          ∃ others, other.getNetworkProcesses = some (.ok others) ∧
            others.Perm processes := by
  refine ⟨_, getNetworkProcesses_tally works receives, aggregates_tally _,
    countsWhere_tally _, ?_⟩
  intro other reordered sameMachine sameLookup alsoReceives perm
  refine ⟨_, getNetworkProcesses_tally (sameMachine ▸ works) alsoReceives, ?_⟩
  rw [sameMachine, sameLookup]
  apply perm_tally
  have each := fun family protocol => (perm family protocol).filterMap
    (connection? wire.lookup protocol)
  exact (((each .inet .tcp).append (each .inet6 .tcp)).append (each .inet .udp)).append
    (each .inet6 .udp)

/-! ## Many sockets of one process -/

def socketDatagram : Datagram where
  bytes := [88, 0, 0, 0, 20, 0] ++ List.replicate 78 0 ++ [1, 0, 0, 0]
  fits := by decide
  beyond := fun _ => 0

def crowdEntries (count : Nat) : Family → Protocol → List NetlinkMessage
  | .inet, .tcp => List.replicate count (.sockDiag { uid := 0, inode := 1 })
  | _, _ => []

def crowdDatagrams (count : Nat) : Family → Protocol → List Datagram
  | .inet, .tcp => List.replicate count socketDatagram ++ [doneDatagram]
  | _, _ => [doneDatagram]

def crowd (count : Nat) : Wire where
  machine := .quiet
  order := .little
  lookup := fun _ => 7
  receptions := fun family protocol =>
    (crowdDatagrams count family protocol).map .received

theorem works_quiet : Machine.quiet.Works where
  opensSocket := rfl
  bindsSocket := rfl
  allocates := fun _ => rfl
  sent := fun _ _ => rfl

theorem packs_socketDatagrams (count : Nat) :
    Packs .little (List.replicate count socketDatagram ++ [doneDatagram])
      (List.replicate count (.sockDiag { uid := 0, inode := 1 }) ++ [.done]) := by
  have encodes : Encodes .little socketDatagram.bytes
      (.sockDiag { uid := 0, inode := 1 }) :=
    { whole := by decide, len := by decide, shows := by decide }
  induction count with
  | zero => exact packs_doneDatagram
  | succ count induction =>
      have packs : Packs .little
          (socketDatagram :: (List.replicate count socketDatagram ++ [doneDatagram]))
          ([.sockDiag { uid := 0, inode := 1 }] ++
            (List.replicate count (.sockDiag { uid := 0, inode := 1 }) ++ [.done])) :=
        .cons (by decide) (.last encodes) induction
      exact packs

theorem receives_crowd (count : Nat) : (crowd count).Receives (crowdEntries count) := by
  have empty : AreEntries [] := nofun
  intro family protocol
  refine ⟨?_, crowdDatagrams count family protocol, rfl, ?_⟩
  · cases family <;> cases protocol
    · intro message member
      rw [List.eq_of_mem_replicate member]
      exact ⟨nofun, nofun⟩
    · exact empty
    · exact empty
    · exact empty
  · cases family <;> cases protocol
    · exact packs_socketDatagrams count
    · exact packs_doneDatagram
    · exact packs_doneDatagram
    · exact packs_doneDatagram

theorem getNetworkProcesses_aggregates_crowd :
    ∃ processes, (crowd 2).getNetworkProcesses = some (.ok processes) ∧
      Aggregates (connections (crowd 2).lookup (crowdEntries 2)) processes := by
  rcases getNetworkProcesses_aggregates works_quiet (receives_crowd 2) with
    ⟨processes, returns, aggregates, _⟩
  exact ⟨processes, returns, aggregates⟩

theorem connections_crowd (count : Nat) :
    connections (crowd count).lookup (crowdEntries count) =
      List.replicate count { pid := 7, isTcp := true } := by
  have counted : connection? (crowd count).lookup .tcp (.sockDiag { uid := 0, inode := 1 }) =
      some { pid := 7, isTcp := true } := rfl
  have others : ∀ family protocol, (family, protocol) ≠ (.inet, .tcp) →
      crowdEntries count family protocol = [] := by
    intro family protocol other
    cases family <;> cases protocol <;> first | contradiction | rfl
  rw [connections, others .inet6 .tcp nofun, others .inet .udp nofun,
    others .inet6 .udp nofun, crowdEntries, List.filterMap_replicate_of_some counted]
  simp

theorem not_countsWhere_of_many {count : Nat} (many : 2 ^ 31 ≤ count) :
    ¬ CountsWhere (fun _ => True) (connections (crowd count).lookup (crowdEntries count))
      (tally .quiet (connections (crowd count).lookup (crowdEntries count))) := by
  rw [connections_crowd]
  intro counts
  have member : tallied .quiet (List.replicate count { pid := 7, isTcp := true }) 7 ∈
      tally .quiet (List.replicate count { pid := 7, isTcp := true }) := by
    apply List.mem_map_of_mem
    rw [List.mem_eraseDups, List.map_replicate]
    exact List.mem_replicate.mpr ⟨by omega, rfl⟩
  have all : countOf (List.replicate count { pid := 7, isTcp := true }) 7 = count := by
    simp [countOf, List.countP_replicate]
  have right := counts _ member trivial
  have below := (tallied .quiet (List.replicate count { pid := 7, isTcp := true })
    7).numConnections.toInt_lt
  change _ = ((countOf (List.replicate count { pid := 7, isTcp := true }) 7 : Nat) : Int)
    at right
  rw [all] at right
  omega

/-- More sockets than an `int` counts. -/
theorem not_countsWhere_crowd :
    ∃ processes, (crowd (2 ^ 31)).getNetworkProcesses = some (.ok processes) ∧
      ¬ CountsWhere (fun _ => True)
        (connections (crowd (2 ^ 31)).lookup (crowdEntries (2 ^ 31))) processes :=
  ⟨_, getNetworkProcesses_tally works_quiet (receives_crowd (2 ^ 31)),
    not_countsWhere_of_many (Nat.le_refl _)⟩

end Pidnl.Discovery
