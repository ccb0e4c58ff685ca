import Pidnl.Foundation.Scanf
import Pidnl.Gui.Helper

/-! # `discovery.c`

The processes with network sockets: what the kernel reports of its sockets, joined
with what `/proc` shows of the descriptors that processes hold.
-/

namespace Pidnl.Discovery

open Pidnl.Foundation
open Pidnl.Gui (DiscoveryFailure ProcessInfo)

def TS_COMM_LEN : Nat := 32
def PATH_MAX : Nat := 4096
def SOCKET_LINK_MAX : Nat := 64
def UID_MIN_DEFAULT : UInt32 := 1000

/-! ## `/proc` -/

/-- What `readlink` finds at a descriptor. Paths start with a slash, and the other
links without a path with another word than sockets. -/
inductive FdLink
  | socket (inode : UInt32)
  | other (text : Bytes) (notSocket : ¬ ascii "socket:[" <+: text)
  | unreadable
deriving DecidableEq

def FdLink.text? : FdLink → Option Bytes
  | .socket inode => some (ascii "socket:[" ++ Decimal.unsigned inode.toNat ++ ascii "]")
  | .other text _ => some text
  | .unreadable => none

structure Descriptor where
  number : Nat
  link : FdLink
deriving DecidableEq

/-- What `readdir` finds in the directory of a process's descriptors. -/
structure FdEntry where
  name : Bytes
  link : Option Bytes
deriving DecidableEq

structure Process where
  pid : Int32
  positive : 0 < pid
  descriptors : List Descriptor
  /-- What there is to read in `comm`. -/
  comm : Option Bytes
  /-- What `exe` links to. -/
  exe : Option Bytes
deriving DecidableEq

def Process.fdDir (process : Process) : List FdEntry :=
  { name := ascii ".", link := none } :: { name := ascii "..", link := none } ::
    process.descriptors.map fun descriptor =>
      { name := Decimal.unsigned descriptor.number, link := descriptor.link.text? }

/-- What `readdir` finds in `/proc`. -/
inductive ProcEntry
  | process (process : Process)
  | other (name : Bytes) (notPid : (Decimal.strtol name).noDigits = true)
deriving DecidableEq

namespace ProcEntry

def name : ProcEntry → Bytes
  | .process found => Decimal.signed found.pid.toInt
  | .other name _ => name

def process? : ProcEntry → Option Process
  | .process found => some found
  | .other _ _ => none

end ProcEntry

/-- `/proc` in the order of `readdir`. -/
structure Snapshot where
  entries : List ProcEntry
  distinct : ((entries.filterMap ProcEntry.process?).map Process.pid).Nodup

namespace Snapshot

def processes (snapshot : Snapshot) : List Process :=
  snapshot.entries.filterMap ProcEntry.process?

def process? (snapshot : Snapshot) (pid : Int) : Option Process :=
  snapshot.processes.find? fun process => process.pid.toInt = pid

end Snapshot

/-! ## What the kernel reports -/

structure InetDiagMsg where
  uid : UInt32
  inode : UInt32
deriving DecidableEq, Repr

inductive NetlinkMessage
  | sockDiag (diag : InetDiagMsg)
  | done
  | error
  | other
deriving DecidableEq, Repr

inductive Family
  | inet
  | inet6
deriving DecidableEq, Repr

inductive Protocol
  | tcp
  | udp
deriving DecidableEq, Repr

/-- The answer to one query: the messages of all datagrams in their order, and
whether `recvmsg` returns zero after them or fails. -/
structure Dump where
  sent : Bool
  messages : List NetlinkMessage
  closed : Bool
deriving DecidableEq, Repr

/-- What `get_network_processes` meets. -/
structure Machine where
  opensSocket : Bool
  bindsSocket : Bool
  /-- Whether there is memory for a list with room for so many processes. -/
  allocates : Nat → Bool
  /-- `/proc`, if it can be opened. -/
  proc : Option Snapshot
  dump : Family → Protocol → Dump

/-! ## `find_pid_by_inode` -/

/-- `sscanf` with `socket:[%u]`, when the number is converted. -/
def scanSocketLink (link : Bytes) : Option UInt32 :=
  if (ascii "socket:[").isPrefixOf link then
    (Scanf.unsigned (link.drop (ascii "socket:[").length)).map Prod.fst
  else none

/-- One turn of the loop over the descriptors of a process. -/
def linksTo (inode : UInt32) (entry : FdEntry) : Bool :=
  if entry.name.head? = some 46 then false
  else
    match entry.link with
    | none => false
    | some target =>
        let link := target.take (SOCKET_LINK_MAX - 1)
        if link = [] then false
        else scanSocketLink link = some inode

/-- The loop over `/proc`; -1 if no process holds the inode. -/
def findPid (snapshot : Snapshot) (inode : UInt32) : List ProcEntry → Int32
  | [] => -1
  | entry :: entries =>
      if entry.name.head? = some 46 then findPid snapshot inode entries
      else
        let scanned := Decimal.strtol entry.name
        if scanned.noDigits then findPid snapshot inode entries
        else
          match snapshot.process? scanned.value with
          | none => findPid snapshot inode entries
          | some process =>
              if process.fdDir.any (linksTo inode) then .ofInt scanned.value
              else findPid snapshot inode entries

def findPidByInode (machine : Machine) (inode : UInt32) : Int32 :=
  match machine.proc with
  | none => -1
  | some snapshot => findPid snapshot inode snapshot.entries

/-! ## `add_process_list` -/

/-- Control characters are replaced by question marks. -/
def sanitise (text : Bytes) : Bytes :=
  text.map fun byte => if byte < 0x20 ∨ byte = 0x7f then 63 else byte

/-- The string in a buffer that bytes have been read into. -/
def bufferString (bytes : Bytes) : Bytes := bytes.takeWhile (· ≠ 0)

def stripLineFeed (text : Bytes) : Bytes :=
  if text.getLast? = some 10 then text.dropLast else text

/-- `fgets` on a file, at whose end it returns what there is. -/
def fgetsFile (room : Nat) (contents : Bytes) : Bytes :=
  match Pidnl.Gui.fgets room contents with
  | some (line, _) => line
  | none => contents

def readProcessName (comm : Option Bytes) : Bytes :=
  match comm with
  | none => []
  | some contents =>
      sanitise (stripLineFeed (bufferString (fgetsFile (TS_COMM_LEN - 1) contents)))

def readExePath (exe : Option Bytes) : Bytes :=
  match exe with
  | none => []
  | some target => sanitise (bufferString (target.take (PATH_MAX - 1)))

structure ProcessList where
  processes : List ProcessInfo
  capacity : Nat

/-- `create_process_list`: the structure itself, and room for 64 processes. -/
def createProcessList (machine : Machine) : Option ProcessList :=
  if machine.allocates 0 ∧ machine.allocates 64 then
    some { processes := [], capacity := 64 }
  else none

/-- The loop of `add_process_list`, if it finds the process. -/
def countConnection (pid : Int32) (isTcp : Bool) :
    List ProcessInfo → Option (List ProcessInfo)
  | [] => none
  | process :: processes =>
      if process.pid = pid then
        let counted := { process with numConnections := process.numConnections + 1 }
        some ((if isTcp then { counted with hasTcp := 1 }
          else { counted with hasUdp := 1 }) :: processes)
      else (countConnection pid isTcp processes).map fun rest => process :: rest

def newProcess (machine : Machine) (pid : Int32) (isTcp : Bool) : ProcessInfo :=
  let process := machine.proc.bind fun snapshot => snapshot.process? pid.toInt
  { pid := pid
    processName := readProcessName (process.bind Process.comm)
    exePath := readExePath (process.bind Process.exe)
    numConnections := 1
    hasTcp := if isTcp then 1 else 0
    hasUdp := if isTcp then 0 else 1 }

/-- Nothing if there is no memory. -/
def addProcessList (machine : Machine) (list : ProcessList) (pid : Int32)
    (isTcp : Bool) : Option ProcessList :=
  match countConnection pid isTcp list.processes with
  | some processes => some { list with processes := processes }
  | none =>
      let capacity :=
        if list.processes.length ≥ list.capacity then list.capacity * 2
        else list.capacity
      if list.processes.length ≥ list.capacity ∧ ¬ machine.allocates capacity then none
      else
        some { processes := list.processes ++ [newProcess machine pid isTcp]
               capacity := capacity }

/-! ## `get_network_processes` -/

/-- Processes of the system, but for root's, are passed over. -/
def InetDiagMsg.IsListed (diag : InetDiagMsg) : Prop :=
  diag.uid = 0 ∨ UID_MIN_DEFAULT ≤ diag.uid

instance (diag : InetDiagMsg) : Decidable diag.IsListed :=
  inferInstanceAs (Decidable (_ ∨ _))

/-- The loops over datagrams and messages of `query_sockets`. -/
def readMessages (machine : Machine) (protocol : Protocol) (closed : Bool) :
    List NetlinkMessage → ProcessList → Option ProcessList
  | [], list => if closed then some list else none
  | .done :: _, list => some list
  | .error :: _, _ => none
  | .other :: messages, list => readMessages machine protocol closed messages list
  | .sockDiag diag :: messages, list =>
      if diag.IsListed then
        let pid := findPidByInode machine diag.inode
        if 0 < pid then
          match addProcessList machine list pid (protocol = .tcp) with
          | none => none
          | some list => readMessages machine protocol closed messages list
        else readMessages machine protocol closed messages list
      else readMessages machine protocol closed messages list

def querySockets (machine : Machine) (family : Family) (protocol : Protocol)
    (list : ProcessList) : Option ProcessList :=
  let dump := machine.dump family protocol
  if dump.sent then readMessages machine protocol dump.closed dump.messages list
  else none

def queryAll (machine : Machine) (list : ProcessList) : Option ProcessList := do
  let list ← querySockets machine .inet .tcp list
  let list ← querySockets machine .inet6 .tcp list
  let list ← querySockets machine .inet .udp list
  querySockets machine .inet6 .udp list

def getNetworkProcesses (machine : Machine) :
    Except DiscoveryFailure (List ProcessInfo) :=
  if ¬ machine.opensSocket then .error .socket
  else if ¬ machine.bindsSocket then .error .bind
  else
    match createProcessList machine with
    | none => .error .alloc
    | some list =>
        match queryAll machine list with
        | none => .error .recvmsg
        | some list => .ok list.processes

end Pidnl.Discovery
