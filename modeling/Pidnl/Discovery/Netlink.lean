import Pidnl.Discovery.Functions

/-! # The datagrams of a dump

The walk of `query_sockets` over what `recvmsg` has received, with every place that it
reads from. Lengths come from the data, and nothing but `NLMSG_OK` checks them.
-/

namespace Pidnl.Discovery

open Pidnl.Foundation

def NLMSG_ERROR : UInt16 := 2
def NLMSG_DONE : UInt16 := 3
def SOCK_DIAG_BY_FAMILY : UInt16 := 20

/-- `sizeof(struct nlmsghdr)`, which is aligned. -/
def NLMSG_HDRLEN : Nat := 16

/-- A part of a message, by its distance from the header and its size. -/
structure Field where
  first : Nat
  size : Nat
deriving DecidableEq, Repr

namespace Field

def stop (field : Field) : Nat := field.first + field.size

def nlmsghdr : Field where
  first := 0
  size := NLMSG_HDRLEN

/-- `idiag_uid` and `idiag_inode`, where `NLMSG_DATA` is read as `inet_diag_msg`. -/
def idiagUid : Field where
  first := NLMSG_HDRLEN + 64
  size := 4

def idiagInode : Field where
  first := NLMSG_HDRLEN + 68
  size := 4

end Field

/-- How the machine makes a number of the bytes that it has in memory. -/
structure ByteOrder where
  word16 : UInt8 → UInt8 → UInt16
  word32 : UInt8 → UInt8 → UInt8 → UInt8 → UInt32

/-- The bytes at and after the start of the buffer. -/
abbrev Memory := Nat → UInt8

namespace Memory

variable (order : ByteOrder) (memory : Memory)

def word32 (offset : Nat) : UInt32 :=
  order.word32 (memory offset) (memory (offset + 1)) (memory (offset + 2))
    (memory (offset + 3))

def nlmsgLen (header : Nat) : UInt32 := memory.word32 order header

def nlmsgType (header : Nat) : UInt16 :=
  order.word16 (memory (header + 4)) (memory (header + 5))

def diag (header : Nat) : InetDiagMsg where
  uid := memory.word32 order (header + Field.idiagUid.first)
  inode := memory.word32 order (header + Field.idiagInode.first)

/-- The parts of a message that the loop reads. -/
def fieldsRead (header : Nat) : List Field :=
  if memory.nlmsgType order header = SOCK_DIAG_BY_FAMILY then
    if (memory.diag order header).IsListed then [.nlmsghdr, .idiagUid, .idiagInode]
    else [.nlmsghdr, .idiagUid]
  else [.nlmsghdr]

end Memory

/-- What `recvmsg` has put into the buffer. -/
structure Datagram where
  bytes : Bytes
  /-- The buffer has the size of a page, which is an `int`. -/
  fits : bytes.length < 2 ^ 31
  /-- What memory has at the places that nothing has been received for. -/
  beyond : Memory

def Datagram.memory (datagram : Datagram) : Memory := fun offset =>
  datagram.bytes.getD offset (datagram.beyond offset)

/-! ## The walk -/

def nlmsgAlign (len : UInt32) : UInt32 := (len + 3) &&& ~~~3

/-- `h` and `ret` in the inner loop. -/
structure Cursor (datagram : Datagram) where
  header : Nat
  remaining : Int
  together : header + remaining = datagram.bytes.length

namespace Cursor

variable {datagram : Datagram}

def start (datagram : Datagram) : Cursor datagram where
  header := 0
  remaining := datagram.bytes.length
  together := by simp

/-- `NLMSG_OK` -/
def IsOk (order : ByteOrder) (cursor : Cursor datagram) : Prop :=
  (NLMSG_HDRLEN : Int) ≤ cursor.remaining ∧
    NLMSG_HDRLEN ≤ (datagram.memory.nlmsgLen order cursor.header).toNat ∧
    ((datagram.memory.nlmsgLen order cursor.header).toNat : Int) ≤ cursor.remaining

instance (order : ByteOrder) (cursor : Cursor datagram) :
    Decidable (cursor.IsOk order) :=
  inferInstanceAs (Decidable (_ ∧ _))

/-- `NLMSG_NEXT` -/
def next (order : ByteOrder) (cursor : Cursor datagram) : Cursor datagram where
  header := cursor.header + (nlmsgAlign (datagram.memory.nlmsgLen order cursor.header)).toNat
  remaining :=
    cursor.remaining - (nlmsgAlign (datagram.memory.nlmsgLen order cursor.header)).toNat
  together := by
    have together := cursor.together
    omega

end Cursor

theorem and_not_three (value : BitVec 32) : value &&& ~~~3#32 = (value >>> 2) <<< 2 := by
  have lowBits : ∀ index : Fin 32, (3#32)[index] = decide (index.val < 2) := by decide
  ext index bound
  have mask := lowBits ⟨index, bound⟩
  simp only [Fin.getElem_fin] at mask
  rw [BitVec.getElem_and, BitVec.getElem_not, BitVec.getElem_shiftLeft, mask]
  by_cases low : index < 2
  · simp [low]
  · have raised : 2 + (index - 2) = index := by omega
    simp [low, raised, BitVec.getLsbD_eq_getElem bound]

theorem toNat_nlmsgAlign {len : UInt32} (small : len.toNat < 2 ^ 31) :
    (nlmsgAlign len).toNat = (len.toNat + 3) / 4 * 4 := by
  have sum : (len + 3).toNat = len.toNat + 3 := by
    have wrapped : (len + 3).toNat = (len.toNat + 3) % 2 ^ 32 := UInt32.toNat_add ..
    omega
  have cleared : (nlmsgAlign len).toNat = ((len + 3).toBitVec &&& ~~~3#32).toNat := rfl
  rw [cleared, and_not_three, BitVec.toNat_shiftLeft, BitVec.toNat_ushiftRight,
    UInt32.toNat_toBitVec, sum, Nat.shiftLeft_eq, Nat.shiftRight_eq_div_pow]
  omega

namespace Cursor.IsOk

variable {datagram : Datagram} {order : ByteOrder} {cursor : Cursor datagram}

theorem len_le (ok : cursor.IsOk order) :
    cursor.header + (datagram.memory.nlmsgLen order cursor.header).toNat ≤
      datagram.bytes.length := by
  have together := cursor.together
  have within := ok.2.2
  omega

/-- A message takes up room, so the walk comes nearer to its end. -/
theorem remaining_next (ok : cursor.IsOk order) :
    (cursor.next order).remaining + NLMSG_HDRLEN ≤ cursor.remaining := by
  have within := ok.len_le
  have fits := datagram.fits
  have room := ok.2.1
  have header : NLMSG_HDRLEN = 16 := rfl
  have aligned : (nlmsgAlign (datagram.memory.nlmsgLen order cursor.header)).toNat = _ :=
    toNat_nlmsgAlign (by omega)
  simp only [next]
  omega

end Cursor.IsOk

/-- Where the walk leaves the inner loop. -/
inductive WalkEnd
  /-- `NLMSG_OK` fails, and `recvmsg` is called again. -/
  | received
  | done
  | failed
deriving DecidableEq, Repr

structure FieldRead where
  message : Nat
  nlmsgLen : UInt32
  field : Field
deriving DecidableEq, Repr

structure Walk where
  /-- The headers whose `nlmsg_len` is looked at. -/
  looked : List Nat
  /-- What is read of the messages that `NLMSG_OK` lets pass. -/
  reads : List FieldRead
  list : ProcessList
  ended : WalkEnd

section Walk

variable (machine : Machine) (lookup : UInt32 → Int32) (order : ByteOrder)
  (protocol : Protocol) (datagram : Datagram)

/-- The body of the inner loop, and how it leaves the loop. -/
def handleMessage (header : Nat) (list : ProcessList) : ProcessList × Option WalkEnd :=
  let type := datagram.memory.nlmsgType order header
  if type = NLMSG_DONE then (list, some .done)
  else if type = NLMSG_ERROR then (list, some .failed)
  else if type = SOCK_DIAG_BY_FAMILY then
    let diag := datagram.memory.diag order header
    if diag.IsListed then
      let pid := lookup diag.inode
      if 0 < pid then
        match addProcessList machine list pid (protocol = .tcp) with
        | none => (list, some .failed)
        | some list => (list, none)
      else (list, none)
    else (list, none)
  else (list, none)

variable {datagram}

/-- The inner loop of `query_sockets`. -/
def walk (cursor : Cursor datagram) (list : ProcessList) : Walk :=
  if _ok : cursor.IsOk order then
    let reads := (datagram.memory.fieldsRead order cursor.header).map fun field =>
      { message := cursor.header
        nlmsgLen := datagram.memory.nlmsgLen order cursor.header
        field := field }
    let handled := handleMessage machine lookup order protocol datagram cursor.header list
    match handled.2 with
    | some ended =>
        { looked := [cursor.header], reads := reads, list := handled.1, ended := ended }
    | none =>
        let more := walk (cursor.next order) handled.1
        { more with
          looked := cursor.header :: more.looked
          reads := reads ++ more.reads }
  else
    { looked := if (NLMSG_HDRLEN : Int) ≤ cursor.remaining then [cursor.header] else []
      reads := []
      list := list
      ended := .received }
termination_by cursor.remaining.toNat
decreasing_by
  have shorter := _ok.remaining_next
  have room := _ok.1
  have header : NLMSG_HDRLEN = 16 := rfl
  omega

end Walk

/-! ## Staying inside -/

/-- The part that is read has been received, and belongs to the message. -/
def FieldRead.Inside (received : Nat) (read : FieldRead) : Prop :=
  read.message + read.field.stop ≤ received ∧ read.field.stop ≤ read.nlmsgLen.toNat

instance (received : Nat) (read : FieldRead) : Decidable (read.Inside received) :=
  inferInstanceAs (Decidable (_ ∧ _))

/-- The walk ends after as many headers as there is room for, and reads nothing outside
of what has been received. -/
structure Walk.StaysInside (received : Nat) (walk : Walk) : Prop where
  ends : walk.looked.length * NLMSG_HDRLEN ≤ received
  looked : ∀ header ∈ walk.looked, header + NLMSG_HDRLEN ≤ received
  reads : ∀ read ∈ walk.reads, read.Inside received

namespace Datagram

variable (order : ByteOrder) {datagram : Datagram}

/-- The messages that headers lead to, up to the first that ends the dump. -/
def messagesFrom (cursor : Cursor datagram) : List Nat :=
  if _ok : cursor.IsOk order then
    let type := datagram.memory.nlmsgType order cursor.header
    if type = NLMSG_DONE ∨ type = NLMSG_ERROR then [cursor.header]
    else cursor.header :: messagesFrom (cursor.next order)
  else []
termination_by cursor.remaining.toNat
decreasing_by
  have shorter := _ok.remaining_next
  have room := _ok.1
  have header : NLMSG_HDRLEN = 16 := rfl
  omega

variable (datagram)

def messages : List Nat := messagesFrom order (Cursor.start datagram)

/-- A message about a socket has the fields that are read of it. -/
def LongEnough (header : Nat) : Prop :=
  datagram.memory.nlmsgType order header = SOCK_DIAG_BY_FAMILY →
    Field.idiagUid.stop ≤ (datagram.memory.nlmsgLen order header).toNat ∧
      ((datagram.memory.diag order header).IsListed →
        Field.idiagInode.stop ≤ (datagram.memory.nlmsgLen order header).toNat)

variable {datagram} {order}

theorem mem_messagesFrom_self {cursor : Cursor datagram} (ok : cursor.IsOk order) :
    cursor.header ∈ messagesFrom order cursor := by
  rw [messagesFrom, dif_pos ok]
  dsimp only
  split
  · exact .head _
  · exact .head _

theorem nlmsghdr_mem_fieldsRead (order : ByteOrder) {header : Nat} :
    Field.nlmsghdr ∈ datagram.memory.fieldsRead order header := by
  rw [Memory.fieldsRead]
  split
  · split <;> exact .head _
  · exact .head _

theorem longEnough_iff {header : Nat}
    (room : NLMSG_HDRLEN ≤ (datagram.memory.nlmsgLen order header).toNat) :
    datagram.LongEnough order header ↔
      ∀ field ∈ datagram.memory.fieldsRead order header,
        field.stop ≤ (datagram.memory.nlmsgLen order header).toNat := by
  have whole : Field.nlmsghdr.stop ≤ (datagram.memory.nlmsgLen order header).toNat := room
  rw [LongEnough, Memory.fieldsRead]
  split
  · split <;> simp [*]
  · simp [*]

end Datagram

section Walk

open Datagram

variable (machine : Machine) (lookup : UInt32 → Int32) (order : ByteOrder)
  (protocol : Protocol) {datagram : Datagram}

theorem walk_looked (cursor : Cursor datagram) (list : ProcessList) :
    (walk machine lookup order protocol cursor list).looked.length * NLMSG_HDRLEN ≤
        cursor.remaining.toNat ∧
      ∀ header ∈ (walk machine lookup order protocol cursor list).looked,
        header + NLMSG_HDRLEN ≤ datagram.bytes.length := by
  have size : NLMSG_HDRLEN = 16 := rfl
  fun_induction walk machine lookup order protocol cursor list with
  | case1 cursor list ok reads handled ended leaves =>
      have together := cursor.together
      have room := ok.1
      constructor
      · simp only [List.length_singleton]
        omega
      · intro header member
        rw [List.mem_singleton.mp member]
        omega
  | case2 cursor list ok reads handled goesOn more induction =>
      have together := cursor.together
      have room := ok.1
      have shorter := ok.remaining_next
      rcases induction with ⟨count, inside⟩
      change more.looked.length * NLMSG_HDRLEN ≤ _ at count
      constructor
      · simp only [List.length_cons, Nat.succ_mul]
        omega
      · intro header member
        rcases List.mem_cons.mp member with rfl | member
        · omega
        · exact inside header member
  | case3 cursor list stops =>
      have together := cursor.together
      constructor
      · split
        · simp only [List.length_singleton]
          omega
        · simp
      · intro header member
        split at member
        · rw [List.mem_singleton.mp member]
          omega
        · cases member

theorem not_last_of_goesOn {header : Nat} {list : ProcessList}
    (goesOn : (handleMessage machine lookup order protocol datagram header list).2 = none) :
    ¬ (datagram.memory.nlmsgType order header = NLMSG_DONE ∨
      datagram.memory.nlmsgType order header = NLMSG_ERROR) := by
  intro last
  rcases last with done | error
  · rw [handleMessage, if_pos done] at goesOn
    contradiction
  · have notDone : datagram.memory.nlmsgType order header ≠ NLMSG_DONE := by
      rw [error]
      decide
    rw [handleMessage, if_neg notDone, if_pos error] at goesOn
    contradiction

theorem mem_walk_reads {cursor : Cursor datagram} {list : ProcessList} {read : FieldRead}
    (member : read ∈ (walk machine lookup order protocol cursor list).reads) :
    read.message ∈ datagram.messagesFrom order cursor ∧
      read.field ∈ datagram.memory.fieldsRead order read.message ∧
      read.nlmsgLen = datagram.memory.nlmsgLen order read.message ∧
      NLMSG_HDRLEN ≤ read.nlmsgLen.toNat ∧
      read.message + read.nlmsgLen.toNat ≤ datagram.bytes.length := by
  fun_induction walk machine lookup order protocol cursor list with
  | case1 cursor list ok reads handled ended leaves =>
      rcases List.mem_map.mp member with ⟨field, isRead, rfl⟩
      exact ⟨mem_messagesFrom_self ok, isRead, rfl, ok.2.1, ok.len_le⟩
  | case2 cursor list ok reads handled goesOn more induction =>
      rcases List.mem_append.mp member with member | member
      · rcases List.mem_map.mp member with ⟨field, isRead, rfl⟩
        exact ⟨mem_messagesFrom_self ok, isRead, rfl, ok.2.1, ok.len_le⟩
      · rcases induction member with ⟨listed, rest⟩
        refine ⟨?_, rest⟩
        rw [Datagram.messagesFrom, dif_pos ok,
          if_neg (not_last_of_goesOn machine lookup order protocol goesOn)]
        exact .tail _ listed
  | case3 cursor list stops => cases member

theorem mem_walk_reads_self {cursor : Cursor datagram} {list : ProcessList}
    (ok : cursor.IsOk order) {field : Field}
    (isRead : field ∈ datagram.memory.fieldsRead order cursor.header) :
    { message := cursor.header, nlmsgLen := datagram.memory.nlmsgLen order cursor.header,
      field := field } ∈ (walk machine lookup order protocol cursor list).reads := by
  rw [walk, dif_pos ok]
  dsimp only
  split
  · exact List.mem_map.mpr ⟨field, isRead, rfl⟩
  · exact List.mem_append_left _ (List.mem_map.mpr ⟨field, isRead, rfl⟩)

theorem mem_walk_reads_of_unresolved {cursor : Cursor datagram} {list : ProcessList}
    {header : Nat} (message : header ∈ datagram.messagesFrom order cursor) {field : Field}
    (isRead : field ∈ datagram.memory.fieldsRead order header) :
    { message := header, nlmsgLen := datagram.memory.nlmsgLen order header,
      field := field } ∈ (walk machine (fun _ => -1) order protocol cursor list).reads := by
  have goesOn : ∀ header, ¬ (datagram.memory.nlmsgType order header = NLMSG_DONE ∨
      datagram.memory.nlmsgType order header = NLMSG_ERROR) →
        handleMessage machine (fun _ => -1) order protocol datagram header list =
          (list, none) := by
    intro header last
    rw [not_or] at last
    have none : ¬ (0 : Int32) < -1 := by decide
    simp only [handleMessage, if_neg last.1, if_neg last.2, if_neg none, ite_self]
  fun_induction messagesFrom order cursor with
  | case1 cursor ok type last =>
      rw [List.mem_singleton.mp message] at isRead ⊢
      exact mem_walk_reads_self machine _ order protocol ok isRead
  | case2 cursor ok type last induction =>
      rcases List.mem_cons.mp message with rfl | later
      · exact mem_walk_reads_self machine _ order protocol ok isRead
      · rw [walk, dif_pos ok]
        simp only [goesOn cursor.header last]
        exact List.mem_append_right _ (induction later)
  | case3 cursor stops => cases message

end Walk

def Machine.quiet : Machine where
  opensSocket := true
  bindsSocket := true
  allocates := fun _ => true
  proc := none
  dump := fun _ _ => { sent := true, messages := [.done], closed := false }

def ProcessList.empty : ProcessList where
  processes := []
  capacity := 64

/-- A walk stays inside of what has been received, whatever the inodes lead to, if and
only if all messages about sockets have the parts that are read of them. -/
theorem walk_staysInside_iff (order : ByteOrder) (datagram : Datagram) :
    (∀ machine lookup protocol list,
      (walk machine lookup order protocol (.start datagram) list).StaysInside
        datagram.bytes.length) ↔
      ∀ header ∈ datagram.messages order, datagram.LongEnough order header := by
  constructor
  · intro inside header message
    have isRead : ∀ {field}, field ∈ datagram.memory.fieldsRead order header →
        { message := header, nlmsgLen := datagram.memory.nlmsgLen order header,
          field := field } ∈
        (walk .quiet (fun _ => -1) order .tcp (.start datagram) .empty).reads :=
      mem_walk_reads_of_unresolved _ order _ message
    have room : NLMSG_HDRLEN ≤ (datagram.memory.nlmsgLen order header).toNat :=
      (mem_walk_reads _ _ order _ (isRead (Datagram.nlmsghdr_mem_fieldsRead order))).2.2.2.1
    apply (Datagram.longEnough_iff room).mpr
    intro field member
    exact ((inside _ _ _ _).reads _ (isRead member)).2
  · intro longEnough machine lookup protocol list
    rcases walk_looked machine lookup order protocol (.start datagram) list with
      ⟨count, looked⟩
    constructor
    · exact count
    · exact looked
    · intro read member
      rcases mem_walk_reads machine lookup order protocol member with
        ⟨message, isRead, sameLen, room, received⟩
      have long := longEnough read.message message
      rw [sameLen] at room received
      have stops := (Datagram.longEnough_iff room).mp long read.field isRead
      constructor
      · omega
      · rw [sameLen]
        exact stops

def ByteOrder.little : ByteOrder where
  word16 := fun first second => .ofNat (first.toNat + 256 * second.toNat)
  word32 := fun first second third fourth =>
    .ofNat (first.toNat + 256 * (second.toNat + 256 * (third.toNat + 256 * fourth.toNat)))

def bareHeader : Datagram where
  bytes := [16, 0, 0, 0, 20, 0, 0, 0, 0, 0, 0, 0, 0, 0, 0, 0]
  fits := by decide
  beyond := fun _ => 0

/-- The user of the socket is read from behind the header. -/
theorem not_staysInside_bareHeader :
    ¬ (walk .quiet (fun _ => -1) .little .tcp (.start bareHeader) .empty).StaysInside
      bareHeader.bytes.length := by
  intro inside
  have ok : (Cursor.start bareHeader).IsOk .little := by decide
  have isRead : Field.idiagUid ∈ bareHeader.memory.fieldsRead .little 0 := by decide
  have read := inside.reads _ (mem_walk_reads_self _ _ _ _ ok isRead)
  exact absurd read.1 (by decide)

end Pidnl.Discovery
