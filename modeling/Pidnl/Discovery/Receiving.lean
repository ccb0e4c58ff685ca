import Pidnl.Discovery.Listing
import Pidnl.Discovery.Netlink

/-! # Dumps as they are received

`query_sockets` with what `recvmsg` gives it, datagram by datagram. However messages are
packed into datagrams, they are handled one after the other.
-/

namespace Pidnl.Discovery

open Pidnl.Foundation
open Pidnl.Gui (DiscoveryFailure ProcessInfo)

inductive Reception
  | interrupted
  | failed
  | received (datagram : Datagram)

inductive Query
  | waits
  | failed
  | finished (list : ProcessList)

def Query.andThen (query : Query) (next : ProcessList → Query) : Query :=
  match query with
  | .waits => .waits
  | .failed => .failed
  | .finished list => next list

/-- A machine with what its sockets receive, and where inodes lead to. -/
structure Wire where
  machine : Machine
  order : ByteOrder
  lookup : UInt32 → Int32
  receptions : Family → Protocol → List Reception

namespace Wire

variable (wire : Wire)

/-- The outer loop of `query_sockets`. -/
def receive (protocol : Protocol) : List Reception → ProcessList → Query
  | [], _ => .waits
  | .interrupted :: receptions, list => receive protocol receptions list
  | .failed :: _, _ => .failed
  | .received datagram :: receptions, list =>
      if datagram.bytes = [] then .finished list
      else
        let walked := walk wire.machine wire.lookup wire.order protocol (.start datagram)
          list
        match walked.ended with
        | .received => receive protocol receptions walked.list
        | .done => .finished walked.list
        | .failed => .failed

def querySockets (family : Family) (protocol : Protocol) (list : ProcessList) : Query :=
  if (wire.machine.dump family protocol).sent then
    wire.receive protocol (wire.receptions family protocol) list
  else .failed

def queryAll (list : ProcessList) : Query :=
  (((wire.querySockets .inet .tcp list).andThen (wire.querySockets .inet6 .tcp)).andThen
    (wire.querySockets .inet .udp)).andThen (wire.querySockets .inet6 .udp)

/-- Nothing while a query waits. -/
def getNetworkProcesses : Option (Except DiscoveryFailure (List ProcessInfo)) :=
  if ¬ wire.machine.opensSocket then some (.error .socket)
  else if ¬ wire.machine.bindsSocket then some (.error .bind)
  else
    match createProcessList wire.machine with
    | none => some (.error .alloc)
    | some list =>
        match wire.queryAll list with
        | .waits => none
        | .failed => some (.error .recvmsg)
        | .finished list => some (.ok list.processes)

end Wire

/-! ## Messages one after the other -/

section Messages

variable (machine : Machine) (lookup : UInt32 → Int32) (protocol : Protocol)

/-- What is done about a message, and whether it ends the query. -/
def takeMessage (message : NetlinkMessage) (list : ProcessList) :
    ProcessList × Option WalkEnd :=
  match message with
  | .done => (list, some .done)
  | .error => (list, some .failed)
  | .other => (list, none)
  | .sockDiag diag =>
      if diag.IsListed then
        let pid := lookup diag.inode
        if 0 < pid then
          match addProcessList machine list pid (protocol = .tcp) with
          | none => (list, some .failed)
          | some list => (list, none)
        else (list, none)
      else (list, none)

def takeMessages : List NetlinkMessage → ProcessList → ProcessList × WalkEnd
  | [], list => (list, .received)
  | message :: messages, list =>
      let taken := takeMessage machine lookup protocol message list
      match taken.2 with
      | some ended => (taken.1, ended)
      | none => takeMessages messages taken.1

theorem takeMessage_ne_received (message : NetlinkMessage) (list : ProcessList) :
    (takeMessage machine lookup protocol message list).2 ≠ some .received := by
  cases message with
  | done => nofun
  | error => nofun
  | other => nofun
  | sockDiag diag =>
      rw [takeMessage]
      dsimp only
      split
      · split
        · split <;> nofun
        · nofun
      · nofun

theorem takeMessages_append (first second : List NetlinkMessage) (list : ProcessList) :
    takeMessages machine lookup protocol (first ++ second) list =
      match takeMessages machine lookup protocol first list with
      | (taken, .received) => takeMessages machine lookup protocol second taken
      | ended => ended := by
  induction first generalizing list with
  | nil => rfl
  | cons message messages induction =>
      rw [List.cons_append, takeMessages, takeMessages]
      have goesOn := takeMessage_ne_received machine lookup protocol message list
      cases ended : (takeMessage machine lookup protocol message list).2 with
      | none => exact induction _
      | some ending =>
          rw [ended] at goesOn
          cases ending with
          | received => contradiction
          | done => rfl
          | failed => rfl

/-- With the search of `find_pid_by_inode`, this is how a dump is read. -/
theorem readMessages_eq_takeMessages (closed : Bool) (messages : List NetlinkMessage)
    (list : ProcessList) :
    readMessages machine protocol closed messages list =
      match takeMessages machine (findPidByInode machine) protocol messages list with
      | (taken, .received) => if closed then some taken else none
      | (taken, .done) => some taken
      | (_, .failed) => none := by
  induction messages generalizing list with
  | nil => rfl
  | cons message messages induction =>
      cases message with
      | done => rfl
      | error => rfl
      | other => exact induction list
      | sockDiag diag =>
          rw [readMessages, takeMessages, takeMessage]
          dsimp only
          split
          · split
            · cases addProcessList machine list (findPidByInode machine diag.inode)
                (protocol = .tcp) with
              | none => rfl
              | some added => exact induction added
            · exact induction list
          · exact induction list

end Messages

/-! ## Messages in memory -/

namespace Memory

variable (order : ByteOrder)

def ofBytes (bytes : Bytes) : Memory := fun offset => bytes.getD offset 0

def Shows (memory : Memory) (header : Nat) : NetlinkMessage → Prop
  | .done => memory.nlmsgType order header = NLMSG_DONE
  | .error => memory.nlmsgType order header = NLMSG_ERROR
  | .other =>
      memory.nlmsgType order header ≠ NLMSG_DONE ∧
        memory.nlmsgType order header ≠ NLMSG_ERROR ∧
          memory.nlmsgType order header ≠ SOCK_DIAG_BY_FAMILY
  | .sockDiag diag =>
      memory.nlmsgType order header = SOCK_DIAG_BY_FAMILY ∧ memory.diag order header = diag

instance (memory : Memory) (header : Nat) (message : NetlinkMessage) :
    Decidable (memory.Shows order header message) := by
  cases message <;> unfold Shows <;> infer_instance

end Memory

def NetlinkMessage.size : NetlinkMessage → Nat
  | .sockDiag _ => Field.idiagInode.stop
  | _ => NLMSG_HDRLEN

/-- A well-formed message, without the padding after it. -/
structure Encodes (order : ByteOrder) (bytes : Bytes) (message : NetlinkMessage) :
    Prop where
  whole : message.size ≤ bytes.length
  len : ((Memory.ofBytes bytes).nlmsgLen order 0).toNat = bytes.length
  shows : (Memory.ofBytes bytes).Shows order 0 message

/-- Messages in a row, padded to multiples of four bytes. The last one need not be. -/
inductive Packed (order : ByteOrder) : Bytes → List NetlinkMessage → Prop
  | nil : Packed order [] []
  | last {bytes : Bytes} {message : NetlinkMessage} (encodes : Encodes order bytes message) :
      Packed order bytes [message]
  | cons {bytes padding rest : Bytes} {message : NetlinkMessage}
      {messages : List NetlinkMessage} (encodes : Encodes order bytes message)
      (aligned : bytes.length + padding.length = (bytes.length + 3) / 4 * 4)
      (packed : Packed order rest messages) :
      Packed order (bytes ++ (padding ++ rest)) (message :: messages)

theorem header_le_size (message : NetlinkMessage) : NLMSG_HDRLEN ≤ message.size := by
  cases message with
  | sockDiag diag => exact (by decide : NLMSG_HDRLEN ≤ Field.idiagInode.stop)
  | done => exact Nat.le_refl _
  | error => exact Nat.le_refl _
  | other => exact Nat.le_refl _

section Walk

variable (machine : Machine) (lookup : UInt32 → Int32) (order : ByteOrder)
  (protocol : Protocol) {datagram : Datagram}

theorem handleMessage_of_shows {header : Nat} {message : NetlinkMessage}
    (shows : datagram.memory.Shows order header message) (list : ProcessList) :
    handleMessage machine lookup order protocol datagram header list =
      takeMessage machine lookup protocol message list := by
  cases message with
  | done =>
      have type : datagram.memory.nlmsgType order header = NLMSG_DONE := shows
      rw [handleMessage, if_pos type, takeMessage]
  | error =>
      have type : datagram.memory.nlmsgType order header = NLMSG_ERROR := shows
      have notDone : datagram.memory.nlmsgType order header ≠ NLMSG_DONE := by
        rw [type]
        decide
      rw [handleMessage, if_neg notDone, if_pos type, takeMessage]
  | other =>
      rcases shows with ⟨notDone, notError, notDiag⟩
      rw [handleMessage, if_neg notDone, if_neg notError, if_neg notDiag, takeMessage]
  | sockDiag diag =>
      rcases shows with ⟨type, rfl⟩
      have notDone : datagram.memory.nlmsgType order header ≠ NLMSG_DONE := by
        rw [type]
        decide
      have notError : datagram.memory.nlmsgType order header ≠ NLMSG_ERROR := by
        rw [type]
        decide
      exact (if_neg notDone).trans ((if_neg notError).trans (if_pos type))

def Walk.outcome (walk : Walk) : ProcessList × WalkEnd := (walk.list, walk.ended)

theorem walk_outcome_of_isOk {cursor : Cursor datagram} (ok : cursor.IsOk order)
    (list : ProcessList) :
    (walk machine lookup order protocol cursor list).outcome =
      let handled := handleMessage machine lookup order protocol datagram cursor.header list
      match handled.2 with
      | some ended => (handled.1, ended)
      | none => (walk machine lookup order protocol (cursor.next order) handled.1).outcome := by
  rw [walk, dif_pos ok]
  dsimp only
  cases (handleMessage machine lookup order protocol datagram cursor.header list).2 with
  | none => rfl
  | some ended => rfl

theorem walk_outcome_of_not_isOk {cursor : Cursor datagram} (stops : ¬ cursor.IsOk order)
    (list : ProcessList) :
    (walk machine lookup order protocol cursor list).outcome = (list, .received) := by
  rw [walk, dif_neg stops]
  rfl

end Walk

/-! ## Messages in a datagram -/

def Cursor.At {datagram : Datagram} (cursor : Cursor datagram) (bytes : Bytes) : Prop :=
  ∃ before, datagram.bytes = before ++ bytes ∧ before.length = cursor.header

section At

variable {datagram : Datagram} {cursor : Cursor datagram} {order : ByteOrder}

theorem Cursor.At.remaining_eq {bytes : Bytes} (placed : cursor.At bytes) :
    cursor.remaining = bytes.length := by
  rcases placed with ⟨before, split, length⟩
  have together := cursor.together
  rw [split, List.length_append] at together
  omega

theorem Cursor.At.memory_eq {bytes rest : Bytes} (placed : cursor.At (bytes ++ rest))
    {offset : Nat} (within : offset < bytes.length) :
    datagram.memory (cursor.header + offset) = Memory.ofBytes bytes offset := by
  rcases placed with ⟨before, split, length⟩
  rw [Datagram.memory, Memory.ofBytes, split, ← length, List.getD_eq_getElem?_getD,
    List.getD_eq_getElem?_getD, List.getElem?_append_right (Nat.le_add_right _ _),
    Nat.add_sub_cancel_left, List.getElem?_append_left within,
    List.getElem?_eq_getElem within, Option.getD_some, Option.getD_some]

theorem Cursor.At.word32_eq {bytes rest : Bytes} (placed : cursor.At (bytes ++ rest))
    {offset : Nat} (within : offset + 4 ≤ bytes.length) :
    datagram.memory.word32 order (cursor.header + offset) =
      (Memory.ofBytes bytes).word32 order offset := by
  simp only [Memory.word32, Nat.add_assoc]
  rw [placed.memory_eq (by omega), placed.memory_eq (by omega), placed.memory_eq (by omega),
    placed.memory_eq (by omega)]

theorem Cursor.At.nlmsgLen_eq {bytes rest : Bytes} {message : NetlinkMessage}
    (placed : cursor.At (bytes ++ rest)) (encodes : Encodes order bytes message) :
    (datagram.memory.nlmsgLen order cursor.header).toNat = bytes.length := by
  have header := (header_le_size message).trans encodes.whole
  have size : NLMSG_HDRLEN = 16 := rfl
  have same : datagram.memory.nlmsgLen order cursor.header =
      (Memory.ofBytes bytes).nlmsgLen order 0 :=
    placed.word32_eq (by omega : 0 + 4 ≤ bytes.length)
  rw [same, encodes.len]

theorem Cursor.At.shows {bytes rest : Bytes} {message : NetlinkMessage}
    (placed : cursor.At (bytes ++ rest)) (encodes : Encodes order bytes message) :
    datagram.memory.Shows order cursor.header message := by
  have header := (header_le_size message).trans encodes.whole
  have size : NLMSG_HDRLEN = 16 := rfl
  have type : datagram.memory.nlmsgType order cursor.header =
      (Memory.ofBytes bytes).nlmsgType order 0 := by
    rw [Memory.nlmsgType, Memory.nlmsgType, placed.memory_eq (by omega),
      placed.memory_eq (by omega), Nat.zero_add, Nat.zero_add]
  have shows := encodes.shows
  cases message with
  | done => exact type.trans shows
  | error => exact type.trans shows
  | other =>
      rw [Memory.Shows, type]
      exact shows
  | sockDiag diag =>
      have whole : Field.idiagInode.stop ≤ bytes.length := encodes.whole
      have stop : Field.idiagInode.stop = 88 := rfl
      have uid : Field.idiagUid.first = 80 := rfl
      have inode : Field.idiagInode.first = 84 := rfl
      refine ⟨type.trans shows.1, ?_⟩
      rw [← shows.2, Memory.diag, Memory.diag, placed.word32_eq (by omega),
        placed.word32_eq (by omega), Nat.zero_add, Nat.zero_add]

theorem Cursor.At.isOk {bytes rest : Bytes} {message : NetlinkMessage}
    (placed : cursor.At (bytes ++ rest)) (encodes : Encodes order bytes message) :
    cursor.IsOk order := by
  have header := (header_le_size message).trans encodes.whole
  have remaining := placed.remaining_eq
  have len := placed.nlmsgLen_eq encodes
  rw [List.length_append] at remaining
  rw [Cursor.IsOk, len]
  omega

theorem Cursor.At.header_next {bytes rest : Bytes} {message : NetlinkMessage}
    (placed : cursor.At (bytes ++ rest)) (encodes : Encodes order bytes message) :
    (cursor.next order).header = cursor.header + (bytes.length + 3) / 4 * 4 := by
  have len := placed.nlmsgLen_eq encodes
  have fits := datagram.fits
  have together := cursor.together
  have remaining := placed.remaining_eq
  rw [List.length_append] at remaining
  have aligned : (nlmsgAlign (datagram.memory.nlmsgLen order cursor.header)).toNat = _ :=
    toNat_nlmsgAlign (by omega)
  rw [len] at aligned
  exact congrArg (cursor.header + ·) aligned

end At

variable (machine : Machine) (lookup : UInt32 → Int32) (protocol : Protocol)

theorem walk_outcome_packed {order : ByteOrder} {datagram : Datagram}
    {cursor : Cursor datagram} {bytes : Bytes} {messages : List NetlinkMessage}
    (packed : Packed order bytes messages) (placed : cursor.At bytes)
    (list : ProcessList) :
    (walk machine lookup order protocol cursor list).outcome =
      takeMessages machine lookup protocol messages list := by
  have stops : ∀ {cursor : Cursor datagram}, cursor.remaining ≤ 0 →
      ¬ cursor.IsOk order := by
    intro cursor spent ok
    have room := ok.1
    have size : NLMSG_HDRLEN = 16 := rfl
    omega
  induction packed generalizing cursor list with
  | nil =>
      apply walk_outcome_of_not_isOk
      exact stops (le_of_eq placed.remaining_eq)
  | @last bytes message encodes =>
      have alone : cursor.At (bytes ++ []) := by rwa [List.append_nil]
      rw [walk_outcome_of_isOk machine lookup order protocol (alone.isOk encodes),
        handleMessage_of_shows machine lookup order protocol (alone.shows encodes),
        takeMessages]
      have spent : (cursor.next order).remaining ≤ 0 := by
        have next := alone.header_next encodes
        have remaining := placed.remaining_eq
        have together := cursor.together
        have togetherNext := (cursor.next order).together
        omega
      simp only [walk_outcome_of_not_isOk machine lookup order protocol (stops spent)]
      rfl
  | @cons bytes padding rest message messages encodes aligned packed induction =>
      rw [walk_outcome_of_isOk machine lookup order protocol (placed.isOk encodes),
        handleMessage_of_shows machine lookup order protocol (placed.shows encodes),
        takeMessages]
      have placedNext : (cursor.next order).At rest := by
        have next := placed.header_next encodes
        rcases placed with ⟨before, split, length⟩
        refine ⟨before ++ (bytes ++ padding), ?_, ?_⟩
        · simp only [split, List.append_assoc]
        · simp only [List.length_append]
          omega
      simp only [induction placedNext]

inductive Packs (order : ByteOrder) : List Datagram → List NetlinkMessage → Prop
  | nil : Packs order [] []
  | cons {datagram : Datagram} {datagrams : List Datagram}
      {first rest : List NetlinkMessage} (nonempty : datagram.bytes ≠ [])
      (packed : Packed order datagram.bytes first) (packs : Packs order datagrams rest) :
      Packs order (datagram :: datagrams) (first ++ rest)

/-- However the messages are packed into datagrams, they are handled in their order. -/
theorem receive_packs (wire : Wire) {datagrams : List Datagram}
    {messages : List NetlinkMessage} (packs : Packs wire.order datagrams messages)
    (list : ProcessList) :
    wire.receive protocol (datagrams.map .received) list =
      match takeMessages wire.machine wire.lookup protocol messages list with
      | (_, .received) => .waits
      | (taken, .done) => .finished taken
      | (_, .failed) => .failed := by
  induction packs generalizing list with
  | nil => rfl
  | @cons datagram datagrams first rest nonempty packed packs induction =>
      have placed : (Cursor.start datagram).At datagram.bytes := ⟨[], rfl, rfl⟩
      have walked := walk_outcome_packed wire.machine wire.lookup protocol packed placed list
      rw [takeMessages_append, List.map_cons, Wire.receive, if_neg nonempty, ← walked]
      dsimp only [Walk.outcome]
      cases (walk wire.machine wire.lookup wire.order protocol (.start datagram) list).ended with
      | received => exact induction _
      | done => rfl
      | failed => rfl

theorem takeMessages_ne_received {messages : List NetlinkMessage} (done : .done ∈ messages)
    (list : ProcessList) :
    (takeMessages machine lookup protocol messages list).2 ≠ .received := by
  induction messages generalizing list with
  | nil => cases done
  | cons message messages induction =>
      rw [takeMessages]
      have goesOn := takeMessage_ne_received machine lookup protocol message list
      cases ended : (takeMessage machine lookup protocol message list).2 with
      | some ending =>
          rw [ended] at goesOn
          exact fun same => goesOn (congrArg some same)
      | none =>
          cases done with
          | head => contradiction
          | tail _ later => exact induction later _

/-! ## The dumps of a machine -/

/-- The wire receives what the machine's dumps are, and searches `/proc` for inodes. -/
structure Wire.Delivers (wire : Wire) (datagrams : Family → Protocol → List Datagram) :
    Prop where
  lookup : wire.lookup = findPidByInode wire.machine
  received : ∀ family protocol,
    wire.receptions family protocol = (datagrams family protocol).map .received
  packs : ∀ family protocol, Packs wire.order (datagrams family protocol)
    (wire.machine.dump family protocol).messages
  done : ∀ family protocol, .done ∈ (wire.machine.dump family protocol).messages

namespace Wire.Delivers

variable {wire : Wire} {datagrams : Family → Protocol → List Datagram}
  (delivers : wire.Delivers datagrams)

include delivers

theorem querySockets_eq (family : Family) (protocol : Protocol) (list : ProcessList) :
    wire.querySockets family protocol list =
      match Discovery.querySockets wire.machine family protocol list with
      | none => .failed
      | some taken => .finished taken := by
  rw [Wire.querySockets, Discovery.querySockets]
  split
  · rw [delivers.received, receive_packs protocol wire (delivers.packs family protocol),
      readMessages_eq_takeMessages, delivers.lookup]
    have ends := takeMessages_ne_received wire.machine (findPidByInode wire.machine) protocol
      (delivers.done family protocol) list
    generalize takeMessages wire.machine (findPidByInode wire.machine) protocol
      (wire.machine.dump family protocol).messages list = outcome at ends ⊢
    rcases outcome with ⟨taken, ending⟩
    cases ending with
    | received => contradiction
    | done => rfl
    | failed => rfl
  · rfl

/-- `get_network_processes` depends on the messages alone. -/
theorem getNetworkProcesses_eq :
    wire.getNetworkProcesses = some (Discovery.getNetworkProcesses wire.machine) := by
  rw [Wire.getNetworkProcesses, Discovery.getNetworkProcesses]
  split
  · rfl
  · split
    · rfl
    · cases createProcessList wire.machine with
      | none => rfl
      | some list =>
          simp only [Wire.queryAll, Discovery.queryAll, delivers.querySockets_eq]
          cases Discovery.querySockets wire.machine .inet .tcp list with
          | none => rfl
          | some list =>
              simp only [Query.andThen, delivers.querySockets_eq, Option.bind_eq_bind,
                Option.bind_some]
              cases Discovery.querySockets wire.machine .inet6 .tcp list with
              | none => rfl
              | some list =>
                  simp only [Option.bind_some]
                  cases Discovery.querySockets wire.machine .inet .udp list with
                  | none => rfl
                  | some list =>
                      simp only [Option.bind_some]
                      cases Discovery.querySockets wire.machine .inet6 .udp list <;> rfl

end Wire.Delivers

def doneDatagram : Datagram where
  bytes := [16, 0, 0, 0, 3, 0] ++ List.replicate 10 0
  fits := by decide
  beyond := fun _ => 0

theorem encodes_doneDatagram : Encodes .little doneDatagram.bytes .done where
  whole := by decide
  len := by decide
  shows := by decide

theorem packs_doneDatagram : Packs .little [doneDatagram] [.done] :=
  .cons (by decide) (.last encodes_doneDatagram) .nil

def socketMessage : Bytes :=
  [88, 0, 0, 0, 20, 0] ++ List.replicate 74 0 ++ [232, 3, 0, 0, 5, 0, 0, 0]

/-- A socket and the end of the dump in one datagram. -/
def wholeDump : Datagram where
  bytes := socketMessage ++ ([] ++ doneDatagram.bytes)
  fits := by decide
  beyond := fun _ => 0

theorem packs_wholeDump :
    Packs .little [wholeDump] [.sockDiag { uid := 1000, inode := 5 }, .done] := by
  have encodes : Encodes .little socketMessage (.sockDiag { uid := 1000, inode := 5 }) :=
    { whole := by decide, len := by decide, shows := by decide }
  have aligned : socketMessage.length + ([] : Bytes).length =
    (socketMessage.length + 3) / 4 * 4 := by decide
  have packed : Packed .little wholeDump.bytes [.sockDiag { uid := 1000, inode := 5 }, .done] :=
    .cons encodes aligned (.last encodes_doneDatagram)
  have nonempty : wholeDump.bytes ≠ [] := by decide
  exact .cons nonempty packed .nil

def oneHolderDatagrams : Family → Protocol → List Datagram
  | .inet, .tcp => [wholeDump]
  | _, _ => [doneDatagram]

def oneHolderWire : Wire where
  machine := oneSocket oneHolder
  order := .little
  lookup := findPidByInode (oneSocket oneHolder)
  receptions := fun family protocol => (oneHolderDatagrams family protocol).map .received

theorem delivers_oneHolderWire : oneHolderWire.Delivers oneHolderDatagrams where
  lookup := rfl
  received := fun _ _ => rfl
  packs := by
    intro family protocol
    cases family <;> cases protocol
    · exact packs_wholeDump
    · exact packs_doneDatagram
    · exact packs_doneDatagram
    · exact packs_doneDatagram
  done := by
    intro family protocol
    cases family <;> cases protocol <;> decide

theorem getNetworkProcesses_eq_oneHolder :
    oneHolderWire.getNetworkProcesses =
      some (Discovery.getNetworkProcesses (oneSocket oneHolder)) :=
  delivers_oneHolderWire.getNetworkProcesses_eq

end Pidnl.Discovery
