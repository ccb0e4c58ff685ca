import Pidnl.Discovery.Listable
import Pidnl.Gui.InStep

/-! # The rows of the process list

`populate_store_from_raw` of `processes.c` on what `handle_list_cmd` prints. A row is
two lines, and the name of its process is what remains of the first one after six
numbers and white space.
-/

namespace Pidnl.Gui

open Pidnl.Foundation Pidnl.Discovery

/-- `PIDNLProcess`, but for its icon. -/
structure Row where
  name : Bytes
  pid : Int32
  connections : Int32
  protocols : Bytes
  exePath : Bytes
  uploadKbps : UInt32
  downloadKbps : UInt32
deriving DecidableEq, Repr

def protocolsText (hasTcp hasUdp : Int32) : Bytes :=
  if hasTcp ≠ 0 ∧ hasUdp ≠ 0 then ascii "TCP/UDP"
  else if hasTcp ≠ 0 then ascii "TCP"
  else if hasUdp ≠ 0 then ascii "UDP"
  else ascii "-"

def Row.of (library : Library) (process : ProcessInfo) : Row :=
  let limits := library.getRateLimitsFromCgroup process.pid
  { name := process.processName
    pid := process.pid
    connections := process.numConnections
    protocols := protocolsText process.hasTcp process.hasUdp
    exePath := process.exePath
    uploadKbps := limits.uploadKbps
    downloadKbps := limits.downloadKbps }

/-- The row that `append_process_to_store` is called for, if `sscanf` converts all of
`%d %d %d %d %u %u %255[^\n]`. -/
def scanRow (line exePath : Bytes) : Option Row := do
  let (pid, rest) ← Scanf.int line
  let (connections, rest) ← Scanf.int (Scanf.space rest)
  let (hasTcp, rest) ← Scanf.int (Scanf.space rest)
  let (hasUdp, rest) ← Scanf.int (Scanf.space rest)
  let (upload, rest) ← Scanf.unsigned (Scanf.space rest)
  let (download, rest) ← Scanf.unsigned (Scanf.space rest)
  let (name, _) ← Scanf.untilLineFeed 255 (Scanf.space rest)
  return { name := name
           pid := pid
           connections := connections
           protocols := protocolsText hasTcp hasUdp
           exePath := exePath
           uploadKbps := upload
           downloadKbps := download }

/-- `lines[idx]`. An index that has wrapped round is out of bounds. -/
def lineAt? (lines : List Bytes) (idx : Int32) : Option Bytes :=
  if idx < 0 then none else lines[idx.toNatClampNeg]?

/-- The loop of `populate_store_from_raw` with so many turns to go. -/
def appendRows (lines : List Bytes) : Nat → Int32 → List Row
  | 0, _ => []
  | remaining + 1, idx =>
      match lineAt? lines idx, lineAt? lines (idx + 1) with
      | some line, some exePath =>
          (scanRow line exePath).toList ++ appendRows lines remaining (idx + 2)
      | _, _ => []

section Populate

variable (asciiStrtoll : Bytes → Decimal.Scan) (strsplit : Bytes → List Bytes)

/-- The rows in the store when `populate_store_from_raw` returns. -/
def populateStoreFromRaw (data : Bytes) : List Row :=
  let lines := strsplit data
  match lines.head? with
  | none => []
  | some first =>
      if first = [] then []
      else
        let scanned := asciiStrtoll first
        if scanned.noDigits ∨ scanned.rest ≠ [] ∨ scanned.value ≤ 0 ∨
            2 ^ 31 - 1 < scanned.value then []
        else appendRows lines scanned.value.toNat 1

end Populate

/-- What is documented of `g_strsplit` with a line feed and no limit. -/
def SplitsLines (strsplit : Bytes → List Bytes) : Prop :=
  ∀ data, strsplit data = if data = [] then [] else data.splitOn 10

/-! ## One row -/

/-- The name as the last conversion stores it, if it stores one. -/
def scanName (name : Bytes) : Option Bytes :=
  (Scanf.untilLineFeed 255 (Scanf.space name)).map Prod.fst

theorem endsNumeral_space (rest : Bytes) : Scanf.EndsNumeral (32 :: rest) :=
  Scanf.endsNumeral_cons (by decide) rest

theorem space_space (text : Bytes) : Scanf.space (32 :: text) = Scanf.space text :=
  Scanf.space_cons_of_isSpace (by decide) text

theorem processNumbers_append (process : ProcessInfo)
    (limits : Ratelimit.RateLimitsRead) (name : Bytes) :
    processNumbers process limits ++ name =
      Decimal.signed process.pid.toInt ++ 32 ::
        (Decimal.signed process.numConnections.toInt ++ 32 ::
          (Decimal.signed process.hasTcp.toInt ++ 32 ::
            (Decimal.signed process.hasUdp.toInt ++ 32 ::
              (Decimal.unsigned limits.uploadKbps.toNat ++ 32 ::
                (Decimal.unsigned limits.downloadKbps.toNat ++ 32 :: name))))) := by
  simp only [processNumbers, List.append_assoc, List.cons_append, List.nil_append]

theorem scanRow_processNumbers (library : Library) (process : ProcessInfo) :
    scanRow (processNumbers process (library.getRateLimitsFromCgroup process.pid) ++
        process.processName) process.exePath =
      (scanName process.processName).map fun name =>
        { Row.of library process with name := name } := by
  rw [processNumbers_append, scanRow, Scanf.int_signed (endsNumeral_space _)]
  simp only [Option.bind_eq_bind, Option.bind_some, space_space, Scanf.space_signed,
    Scanf.space_unsigned, Scanf.int_signed (endsNumeral_space _),
    Scanf.unsigned_unsigned (endsNumeral_space _), scanName]
  cases Scanf.untilLineFeed 255 (Scanf.space process.processName) with
  | none => rfl
  | some read => rfl

def IsScanned (name : Bytes) : Prop := name ≠ [] ∧ name.head? ≠ some 32

instance (name : Bytes) : Decidable (IsScanned name) :=
  inferInstanceAs (Decidable (_ ∧ _))

theorem eq_space_of_sanitised {name : Bytes} (sanitised : Sanitised name) {byte : UInt8}
    (member : byte ∈ name) (isSpace : Decimal.isSpace byte = true) : byte = 32 := by
  rw [Decimal.isSpace, decide_eq_true_eq] at isSpace
  rcases isSpace with same | control
  · exact same
  · have low : byte < 32 := UInt8.lt_of_le_of_lt control.2 (by decide)
    exact absurd (sanitised byte member).1 (UInt8.not_le.mpr low)

theorem scanName_eq_some_iff {name : Bytes} (sanitised : Sanitised name)
    (short : name.length ≤ TS_COMM_LEN - 1) :
    scanName name = some name ↔ IsScanned name := by
  have trimmed : Scanf.space name <:+ name := List.dropWhile_suffix _
  have noLineFeed : 10 ∉ Scanf.space name := fun member =>
    sanitised.notMem (.inl (by decide)) (trimmed.subset member)
  have fits : (Scanf.space name).length ≤ 255 := by
    have shorter := trimmed.length_le
    have room : TS_COMM_LEN - 1 = 31 := rfl
    omega
  rw [scanName, Scanf.untilLineFeed_eq noLineFeed fits]
  constructor
  · intro stored
    by_cases empty : Scanf.space name = []
    · rw [if_pos empty] at stored
      contradiction
    · rw [if_neg empty] at stored
      have same : Scanf.space name = name := Option.some.inj stored
      refine ⟨fun nothing => empty (same.trans nothing), ?_⟩
      intro head
      cases name with
      | nil => contradiction
      | cons byte name =>
          cases head
          rw [space_space] at same
          have shorter := (List.dropWhile_suffix Decimal.isSpace (l := name)).length_le
          have lengths := congrArg List.length same
          rw [Scanf.space, List.length_cons] at lengths
          omega
  · intro isScanned
    have same : Scanf.space name = name := by
      apply Scanf.space_of_head
      intro byte head
      by_contra space
      have isSpace := eq_space_of_sanitised sanitised (List.mem_of_mem_head? head)
        (Bool.not_eq_false _ ▸ space)
      exact isScanned.2 (isSpace ▸ head)
    rw [same, if_neg isScanned.1]
    rfl

/-! ## The lines of a list -/

def processTexts (library : Library) (process : ProcessInfo) : List Bytes :=
  [processNumbers process (library.getRateLimitsFromCgroup process.pid) ++
      process.processName, process.exePath]

theorem splitOn_flatten {texts : List Bytes} (unbroken : ∀ text ∈ texts, 10 ∉ text) :
    (texts.map fun text => text ++ [10]).flatten.splitOn 10 = texts ++ [[]] := by
  induction texts with
  | nil => rfl
  | cons text texts induction =>
      have rest := induction fun other member => unbroken other (.tail _ member)
      rw [List.map_cons, List.flatten_cons, List.append_assoc, List.singleton_append,
        List.splitOn_append_cons_self_of_not_mem (unbroken text (.head _)), rest]
      rfl

theorem listLines_eq (library : Library) (processes : List ProcessInfo) :
    listLines library processes =
      (Decimal.unsigned processes.length :: processes.flatMap (processTexts library)).map
        fun text => text ++ [10] := by
  rw [listLines, List.map_cons, List.map_flatMap]
  rfl

theorem notMem_of_printable {text : Bytes} (printable : Printable text) {byte : UInt8}
    (control : byte < 32) : byte ∉ text :=
  fun member => absurd (printable byte member).1 (UInt8.not_le.mpr control)

theorem notMem_processTexts (library : Library) {process : ProcessInfo}
    (listable : Listable process) {byte : UInt8} (control : byte < 32) :
    ∀ text ∈ processTexts library process, byte ∉ text := by
  intro text member
  rcases List.mem_cons.mp member with same | member
  · rw [same, List.mem_append, not_or]
    exact ⟨notMem_of_printable (printable_processNumbers _ _) control,
      listable.name.notMem (.inl control)⟩
  · rw [List.mem_singleton.mp member]
    exact listable.path.notMem (.inl control)

theorem notMem_flatMap_processTexts (library : Library) {processes : List ProcessInfo}
    (listable : ∀ process ∈ processes, Listable process) {byte : UInt8}
    (control : byte < 32) :
    ∀ text ∈ processes.flatMap (processTexts library), byte ∉ text := by
  intro text member
  rcases List.mem_flatMap.mp member with ⟨process, listed, isText⟩
  exact notMem_processTexts library (listable process listed) control text isText

theorem strsplit_listLines {strsplit : Bytes → List Bytes} (splits : SplitsLines strsplit)
    (library : Library) {processes : List ProcessInfo}
    (listable : ∀ process ∈ processes, Listable process) :
    strsplit (listLines library processes).flatten =
      Decimal.unsigned processes.length ::
        (processes.flatMap (processTexts library) ++ [[]]) := by
  have unbroken : ∀ text ∈ Decimal.unsigned processes.length ::
      processes.flatMap (processTexts library), 10 ∉ text := by
    intro text member
    rcases List.mem_cons.mp member with same | member
    · exact same ▸ notMem_of_printable (.unsigned _) (by decide)
    · exact notMem_flatMap_processTexts library listable (by decide) text member
  have nonempty : (listLines library processes).flatten ≠ [] := by
    rw [listLines, List.flatten_cons]
    exact List.append_ne_nil_of_left_ne_nil (List.append_ne_nil_of_right_ne_nil _
      (List.cons_ne_nil _ _)) _
  rw [splits, if_neg nonempty, listLines_eq, splitOn_flatten unbroken]
  rfl

/-! ## The loop over the lines -/

def readRow (library : Library) (process : ProcessInfo) : Option Row :=
  scanRow (processNumbers process (library.getRateLimitsFromCgroup process.pid) ++
    process.processName) process.exePath

theorem lineAt?_ofNat (lines : List Bytes) {idx : Nat} (small : idx < 2 ^ 31) :
    lineAt? lines (.ofNat idx) = lines[idx]? := by
  have value : (Int32.ofNat idx).toInt = idx := Int32.toInt_ofNat_of_lt small
  have nonnegative : ¬ Int32.ofNat idx < 0 := by
    rw [Int32.lt_iff_toInt_lt, value, Int32.toInt_zero]
    omega
  rw [lineAt?, if_neg nonnegative, Int32.toNatClampNeg, value, Int.toNat_natCast]

/-- Every process gets its turn while the index does not wrap round. -/
theorem appendRows_eq (library : Library) {lines : List Bytes}
    {processes : List ProcessInfo} {idx : Nat}
    (here : lines.drop idx = processes.flatMap (processTexts library) ++ [[]])
    (small : idx + 2 * processes.length < 2 ^ 31) :
    appendRows lines processes.length (.ofNat idx) =
      processes.filterMap (readRow library) := by
  induction processes generalizing idx with
  | nil => rfl
  | cons process processes induction =>
      rw [List.length_cons] at small
      have later : lines.drop (idx + 2) =
          processes.flatMap (processTexts library) ++ [[]] := by
        rw [← List.drop_drop, here]
        rfl
      have line : lines[idx]? = some (processNumbers process
          (library.getRateLimitsFromCgroup process.pid) ++ process.processName) := by
        rw [← List.head?_drop, here]
        rfl
      have exePath : lines[idx + 1]? = some process.exePath := by
        rw [← List.head?_drop, ← List.drop_drop, here]
        rfl
      have one : (Int32.ofNat idx + 1) = .ofNat (idx + 1) := (Int32.ofNat_add idx 1).symm
      have two : (Int32.ofNat idx + 2) = .ofNat (idx + 2) := (Int32.ofNat_add idx 2).symm
      rw [List.length_cons, appendRows, one, two, lineAt?_ofNat lines (by omega),
        lineAt?_ofNat lines (by omega), line, exePath, List.filterMap_cons]
      simp only [induction later (by omega), readRow]
      cases scanRow (processNumbers process (library.getRateLimitsFromCgroup process.pid) ++
        process.processName) process.exePath with
      | none => rfl
      | some row => rfl

theorem lineAt?_of_neg {lines : List Bytes} {idx : Int32} (negative : idx.toInt < 0) :
    lineAt? lines idx = none := by
  rw [lineAt?, if_pos (Int32.lt_iff_toInt_lt.mpr negative)]

theorem appendRows_of_neg {lines : List Bytes} {remaining : Nat} {idx : Int32}
    (negative : idx.toInt < 0) : appendRows lines remaining idx = [] := by
  cases remaining with
  | zero => rfl
  | succ remaining => rw [appendRows, lineAt?_of_neg negative]

/-- An index that is out of range is negative. -/
theorem toInt_add_of_small {idx offset : Int32} (nonnegative : 0 ≤ idx.toInt)
    (nonnegativeOffset : 0 ≤ offset.toInt) :
    (idx + offset).toInt = idx.toInt + offset.toInt ∨
      2 ^ 31 ≤ idx.toInt + offset.toInt ∧ (idx + offset).toInt < 0 := by
  have below := idx.toInt_lt
  have offsetBelow := offset.toInt_lt
  rw [Int32.toInt_add]
  by_cases fits : idx.toInt + offset.toInt < 2 ^ 31
  · exact .inl (Int.bmod_eq_of_le (by omega) (by omega))
  · have wrapped : (idx.toInt + offset.toInt).bmod (2 ^ 32) =
        idx.toInt + offset.toInt - 2 ^ 32 := by
      rw [← Int.sub_bmod_right]
      exact Int.bmod_eq_of_le (by omega) (by omega)
    exact .inr ⟨by omega, by omega⟩

/-- Every row takes two lines, and the index cannot pass the largest `int`. -/
theorem length_appendRows_le (lines : List Bytes) (remaining : Nat) {idx : Int32}
    (nonnegative : 0 ≤ idx.toInt) :
    2 * ((appendRows lines remaining idx).length : Int) + idx.toInt ≤ 2 ^ 31 := by
  have one : (1 : Int32).toInt = 1 := rfl
  have two : (2 : Int32).toInt = 2 := rfl
  induction remaining generalizing idx with
  | zero =>
      have below := idx.toInt_lt
      have none : (appendRows lines 0 idx).length = 0 := rfl
      omega
  | succ remaining induction =>
      have below := idx.toInt_lt
      rw [appendRows]
      split
      · rename_i line exePath _ second
        have row : (scanRow line exePath).toList.length ≤ 1 := by
          cases scanRow line exePath with
          | none => exact Nat.zero_le 1
          | some row => exact Nat.le_refl 1
        have inRange : idx.toInt + 1 < 2 ^ 31 := by
          rcases toInt_add_of_small nonnegative (by omega : 0 ≤ (1 : Int32).toInt) with
            fits | ⟨_, negative⟩
          · have nextBelow := (idx + 1).toInt_lt
            omega
          · rw [lineAt?_of_neg negative] at second
            contradiction
        rw [List.length_append]
        rcases toInt_add_of_small nonnegative (by omega : 0 ≤ (2 : Int32).toInt) with
          fits | ⟨_, negative⟩
        · have rest : 2 * ((appendRows lines remaining (idx + 2)).length : Int) +
              (idx + 2).toInt ≤ 2 ^ 31 := induction (by omega)
          omega
        · rw [appendRows_of_neg negative, List.length_nil]
          omega
      · rw [List.length_nil]
        omega

/-! ## The round trip -/

section RoundTrip

variable {strsplit : Bytes → List Bytes} {library : Library}
  {processes : List ProcessInfo}

theorem length_populateStoreFromRaw_lt (asciiStrtoll : Bytes → Decimal.Scan)
    (strsplit : Bytes → List Bytes) (data : Bytes) :
    (populateStoreFromRaw asciiStrtoll strsplit data).length < 2 ^ 30 := by
  rw [populateStoreFromRaw]
  dsimp only
  split
  · decide
  split
  · decide
  split
  · decide
  · rename_i first _ _ _
    have one : (1 : Int32).toInt = 1 := rfl
    have bound := length_appendRows_le (strsplit data)
      (asciiStrtoll first).value.toNat (by omega : 0 ≤ (1 : Int32).toInt)
    omega

theorem populateStoreFromRaw_listLines (splits : SplitsLines strsplit)
    (listable : ∀ process ∈ processes, Listable process)
    (short : processes.length < 2 ^ 30) :
    populateStoreFromRaw Decimal.strtol strsplit (listLines library processes).flatten =
      processes.filterMap (readRow library) := by
  have lines := strsplit_listLines splits library listable
  have scanned := Decimal.scan_unsigned_append (-2 ^ 63) (2 ^ 63 - 1) processes.length
    Scanf.endsNumeral_nil
  rw [List.append_nil] at scanned
  have clamped : max (-2 ^ 63) (min (2 ^ 63 - 1) (processes.length : Int)) =
      (processes.length : Int) := by omega
  rw [populateStoreFromRaw, lines]
  simp only [List.head?_cons, Decimal.unsigned_ne_nil, if_false, Decimal.strtol, scanned,
    clamped, Bool.false_eq_true, ne_eq, not_true, false_or, Int.toNat_natCast]
  cases processes with
  | nil => rfl
  | cons process rest =>
      rw [if_neg (by rw [List.length_cons] at short ⊢; omega)]
      have first : (1 : Int32) = .ofNat 1 := rfl
      rw [first]
      apply appendRows_eq library
      · rfl
      · omega

theorem readRow_eq_some_iff {process : ProcessInfo} (listable : Listable process) :
    readRow library process = some (Row.of library process) ↔
      IsScanned process.processName := by
  rw [readRow, scanRow_processNumbers,
    ← scanName_eq_some_iff listable.name listable.nameLength]
  cases scanName process.processName with
  | none => simp
  | some name =>
      rw [Option.map_some, Option.some.injEq, Option.some.injEq]
      constructor
      · exact congrArg Row.name
      · intro same
        rw [same]
        rfl

theorem filterMap_eq_map_iff {Element : Type u} {Image : Type v}
    {partly : Element → Option Image} {wholly : Element → Image}
    {elements : List Element} :
    elements.filterMap partly = elements.map wholly ↔
      ∀ element ∈ elements, partly element = some (wholly element) := by
  induction elements with
  | nil => simp
  | cons element elements induction =>
      rw [List.forall_mem_cons, List.map_cons]
      cases kept : partly element with
      | none =>
          rw [List.filterMap_cons_none kept]
          have shorter := List.length_filterMap_le partly elements
          constructor
          · intro same
            have lengths := congrArg List.length same
            rw [List.length_cons, List.length_map] at lengths
            omega
          · intro both
            cases both.1
      | some image =>
          rw [List.filterMap_cons_some kept, List.cons.injEq, induction, Option.some.injEq]

/-- What `handle_list_cmd` prints is read back process by process if and only if every
name begins with something other than a space, and two lines for each process can be
counted by an `int`. -/
theorem populateStoreFromRaw_handleListCmd_iff {glib : Glib}
    (documented : glib.Documented) (splits : SplitsLines strsplit)
    (lists : library.getNetworkProcesses = .ok processes)
    (listable : ∀ process ∈ processes, Listable process) :
    populateStoreFromRaw glib.asciiStrtoll strsplit (handleListCmd library).flatten =
        processes.map (Row.of library) ↔
      (∀ process ∈ processes, IsScanned process.processName) ∧
        processes.length < 2 ^ 30 := by
  have printed : handleListCmd library = listLines library processes := by
    rw [handleListCmd_eq, lists]
  rw [printed, documented.strtoll]
  by_cases short : processes.length < 2 ^ 30
  · rw [populateStoreFromRaw_listLines splits listable short, filterMap_eq_map_iff,
      and_iff_left short]
    apply forall₂_congr
    intro process member
    exact readRow_eq_some_iff (listable process member)
  · constructor
    · intro same
      have lengths := congrArg List.length same
      have fewer := length_populateStoreFromRaw_lt Decimal.strtol strsplit
        (listLines library processes).flatten
      rw [List.length_map] at lengths
      omega
    · intro both
      exact absurd both.2 short

end RoundTrip

/-! ## Two names -/

def connected (comm exe : Bytes) : ProcessInfo where
  pid := 7
  processName := readProcessName (some comm)
  exePath := readExePath (some exe)
  numConnections := 1
  hasTcp := 1
  hasUdp := 0

theorem listable_connected (comm exe : Bytes) : Listable (connected comm exe) where
  positive := show (0 : Int32) < 7 by decide
  name := sanitised_readProcessName (some comm)
  nameLength := length_readProcessName_le (some comm)
  path := sanitised_readExePath (some exe)
  pathLength := length_readExePath_le (some exe)
  tcp := .inr rfl
  udp := .inl rfl

theorem listable_of_singleton (comm exe : Bytes) :
    ∀ process ∈ [connected comm exe], Listable process := by
  intro process member
  rw [List.mem_singleton.mp member]
  exact listable_connected comm exe

/-- `g_strsplit` with a line feed and no limit. -/
def splitting (data : Bytes) : List Bytes := if data = [] then [] else data.splitOn 10

def web : ProcessInfo := connected (ascii "web content\n") (ascii "/usr/bin/web")

theorem populateStoreFromRaw_handleListCmd_iff_web :
    populateStoreFromRaw detecting.asciiStrtoll splitting
        (handleListCmd (finding (.ok [web]))).flatten = [Row.of (finding (.ok [web])) web] := by
  have splits : SplitsLines splitting := fun _ => rfl
  apply (populateStoreFromRaw_handleListCmd_iff documented_detecting splits rfl
    (listable_of_singleton _ _)).mpr
  constructor
  · decide
  · decide

def blank : ProcessInfo := connected (ascii " \n") (ascii "/usr/bin/web")

theorem not_populateStoreFromRaw_blank :
    Listable blank ∧
      populateStoreFromRaw detecting.asciiStrtoll splitting
        (handleListCmd (finding (.ok [blank]))).flatten ≠
      [Row.of (finding (.ok [blank])) blank] := by
  refine ⟨listable_connected _ _, ?_⟩
  decide +kernel

end Pidnl.Gui
