import Pidnl.Gui.Rows

/-! # The reply to LIST, line by line

Names and paths are printed as they are. The client ends a line at whatever its
channel takes for a line terminator, and reads nothing that is not UTF-8.
-/

namespace Pidnl.Gui

open Pidnl.Foundation Pidnl.Discovery

def lineTerminators : List Bytes := [[10], [13], [13, 10], [0], [0xE2, 0x80, 0xA9]]

def EndsLine (line : Bytes) : Prop :=
  ∃ text terminator, line = text ++ terminator ∧ Unbroken text ∧
    terminator ∈ lineTerminators

/-- A channel whose line terminator has not been set. -/
structure Glib.DetectsTerminators (glib : Glib) : Prop where
  whole : ∀ bytes line rest, glib.ioChannelReadLine bytes = .normal line rest →
    bytes = line ++ rest
  ends : ∀ bytes line rest, glib.ioChannelReadLine bytes = .normal line rest →
    EndsLine line

def IsReadable (text : Bytes) : Prop :=
  ValidUtf8 text ∧ ¬ [0xE2, 0x80, 0xA9] <:+: text

instance (text : Bytes) : Decidable (IsReadable text) :=
  inferInstanceAs (Decidable (_ ∧ _))

/-- Every line of the reply has been read, and nothing but the reply. -/
def Reading.IsWhole (reading : Reading) (processes : List ProcessInfo) : Prop :=
  reading.lines.length = 1 + 2 * processes.length ∧ reading.unread = []

instance (reading : Reading) (processes : List ProcessInfo) :
    Decidable (reading.IsWhole processes) :=
  inferInstanceAs (Decidable (_ ∧ _))

/-! ## Line terminators -/

theorem Unbroken.of_suffix {text ending : Bytes} (unbroken : Unbroken text)
    (isSuffix : ending <:+ text) : Unbroken ending where
  noNul := fun member => unbroken.noNul (isSuffix.subset member)
  noLineFeed := fun member => unbroken.noLineFeed (isSuffix.subset member)
  noCarriageReturn := fun member => unbroken.noCarriageReturn (isSuffix.subset member)
  noParagraphSeparator := fun found =>
    unbroken.noParagraphSeparator (found.trans isSuffix.isInfix)

theorem unbroken_iff_of_sanitised {text : Bytes} (sanitised : Sanitised text) :
    Unbroken text ↔ ¬ [0xE2, 0x80, 0xA9] <:+: text := by
  constructor
  · exact Unbroken.noParagraphSeparator
  · intro noSeparator
    exact ⟨sanitised.notMem (.inl (by decide)), sanitised.notMem (.inl (by decide)),
      sanitised.notMem (.inl (by decide)), noSeparator⟩

theorem count_terminator_le_one :
    ∀ terminator ∈ lineTerminators, terminator.count 10 ≤ 1 := by decide

theorem terminator_cases : ∀ terminator ∈ lineTerminators,
    terminator = [10] ∨ terminator = [13, 10] ∨ terminator.count 10 = 0 := by decide

theorem count_lineFeed_le_one {line : Bytes} (ends : EndsLine line) :
    line.count 10 ≤ 1 := by
  rcases ends with ⟨text, terminator, same, unbroken, isTerminator⟩
  rw [same, List.count_append, List.count_eq_zero_of_not_mem unbroken.noLineFeed,
    Nat.zero_add]
  exact count_terminator_le_one terminator isTerminator

theorem count_lineFeed_flatten_le {lines : List Bytes}
    (ends : ∀ line ∈ lines, EndsLine line) : lines.flatten.count 10 ≤ lines.length := by
  induction lines with
  | nil => exact Nat.zero_le _
  | cons line lines induction =>
      have first := count_lineFeed_le_one (ends line (.head _))
      have rest := induction fun other member => ends other (.tail _ member)
      rw [List.flatten_cons, List.count_append, List.length_cons]
      omega

theorem count_lineFeed_texts {texts : List Bytes} (noLineFeed : ∀ text ∈ texts, 10 ∉ text) :
    (texts.map fun text => text ++ [10]).flatten.count 10 = texts.length := by
  induction texts with
  | nil => rfl
  | cons text texts induction =>
      have rest := induction fun other member => noLineFeed other (.tail _ member)
      have first := List.count_eq_zero_of_not_mem (noLineFeed text (.head _))
      rw [List.map_cons, List.flatten_cons, List.count_append, List.count_append, rest,
        first, List.length_cons]
      exact Nat.add_comm 1 _

theorem append_lineFeed_inj {left right leftRest rightRest : Bytes}
    (noLeft : 10 ∉ left) (noRight : 10 ∉ right)
    (same : left ++ 10 :: leftRest = right ++ 10 :: rightRest) :
    left = right ∧ leftRest = rightRest := by
  have split := congrArg (List.splitOn 10) same
  rw [List.splitOn_append_cons_self_of_not_mem noLeft,
    List.splitOn_append_cons_self_of_not_mem noRight] at split
  have texts := (List.cons.inj split).1
  subst texts
  exact ⟨rfl, (List.cons.inj (List.append_cancel_left same)).2⟩

/-- As many lines as have been written can only be those that have been written. -/
theorem lines_eq_of_flatten_eq {lines texts : List Bytes}
    (ends : ∀ line ∈ lines, EndsLine line) (noLineFeed : ∀ text ∈ texts, 10 ∉ text)
    (noCarriageReturn : ∀ text ∈ texts, 13 ∉ text)
    (same : lines.flatten = (texts.map fun text => text ++ [10]).flatten)
    (lengths : lines.length = texts.length) :
    lines = texts.map fun text => text ++ [10] := by
  induction texts generalizing lines with
  | nil => exact List.eq_nil_of_length_eq_zero lengths
  | cons text texts induction =>
      cases lines with
      | nil => contradiction
      | cons line lines =>
          have noTextLineFeed := noLineFeed text (.head _)
          have endsRest : ∀ other ∈ lines, EndsLine other := fun other member =>
            ends other (.tail _ member)
          have lengthsRest : lines.length = texts.length := Nat.succ.inj lengths
          have counts := congrArg (List.count 10) same
          rw [count_lineFeed_texts noLineFeed, List.flatten_cons, List.count_append,
            List.length_cons] at counts
          have later := count_lineFeed_flatten_le endsRest
          rw [List.map_cons, List.flatten_cons, List.flatten_cons, List.append_assoc,
            List.singleton_append] at same
          rcases ends line (.head _) with ⟨read, terminator, isLine, unbroken, member⟩
          subst isLine
          rcases terminator_cases terminator member with one | two | without
          · subst one
            rw [List.append_assoc, List.singleton_append] at same
            rcases append_lineFeed_inj unbroken.noLineFeed noTextLineFeed same with
              ⟨sameText, sameRest⟩
            subst sameText
            rw [List.map_cons, induction endsRest
              (fun other member => noLineFeed other (.tail _ member))
              (fun other member => noCarriageReturn other (.tail _ member)) sameRest
              lengthsRest]
          · subst two
            have carriageReturn : 10 ∉ read ++ [13] := by
              rw [List.mem_append, not_or]
              exact ⟨unbroken.noLineFeed, by decide⟩
            have same' : (read ++ [13]) ++ 10 :: lines.flatten =
                text ++ 10 :: (texts.map fun text => text ++ [10]).flatten := by
              rw [← same]
              simp
            have sameText := (append_lineFeed_inj carriageReturn noTextLineFeed same').1
            refine absurd ?_ (noCarriageReturn text (.head _))
            rw [← sameText]
            simp
          · -- the other lines cannot have all the line feeds
            rw [List.count_append, without,
              List.count_eq_zero_of_not_mem unbroken.noLineFeed] at counts
            omega

/-! ## What the client has read -/

section Reading

variable {glib : Glib}

theorem endsLine_of_mem_appendLines (detects : glib.DetectsTerminators)
    {response replies : Bytes} {count : Nat} :
    ∀ line ∈ (appendLines glib response count replies).lines, EndsLine line := by
  induction count generalizing response replies with
  | zero => exact nofun
  | succ count induction =>
      intro line member
      rw [appendLines] at member
      split at member
      · cases member
      · cases member
      · rename_i first rest read
        rcases List.mem_cons.mp member with same | later
        · exact same ▸ detects.ends _ _ _ read
        · exact induction line later

theorem flatten_appendLines (detects : glib.DetectsTerminators)
    {response replies : Bytes} {count : Nat}
    (all : (appendLines glib response count replies).lines.length = count) :
    (appendLines glib response count replies).lines.flatten ++
      (appendLines glib response count replies).unread = replies := by
  induction count generalizing response replies with
  | zero => rfl
  | succ count induction =>
      rw [appendLines] at all ⊢
      split at all
      · contradiction
      · contradiction
      · rename_i line rest read
        rw [List.length_cons] at all
        simp only [List.flatten_cons, List.append_assoc,
          induction (Nat.succ.inj all)]
        exact (detects.whole _ _ _ read).symm

/-- If as many lines as were printed have been read, and no more bytes are left, then
each of the lines was read whole. -/
theorem isLine_of_appendLines (documented : glib.Documented)
    (detects : glib.DetectsTerminators) {response : Bytes} {texts : List Bytes}
    (noLineFeed : ∀ text ∈ texts, 10 ∉ text)
    (noCarriageReturn : ∀ text ∈ texts, 13 ∉ text)
    (all : (appendLines glib response texts.length
      (texts.map fun text => text ++ [10]).flatten).lines.length = texts.length)
    (left : (appendLines glib response texts.length
      (texts.map fun text => text ++ [10]).flatten).unread = []) :
    ∀ text ∈ texts, EndsLine (text ++ [10]) ∧ ValidUtf8 (text ++ [10]) := by
  have bytes := flatten_appendLines detects all
  rw [left, List.append_nil] at bytes
  have same := lines_eq_of_flatten_eq (endsLine_of_mem_appendLines detects) noLineFeed
    noCarriageReturn bytes all
  intro text member
  have read : text ++ [10] ∈ (appendLines glib response texts.length
      (texts.map fun text => text ++ [10]).flatten).lines := by
    rw [same]
    exact List.mem_map_of_mem member
  exact ⟨endsLine_of_mem_appendLines detects _ read,
    validUtf8_of_mem_appendLines documented _ read⟩

variable {library : Library} {processes : List ProcessInfo}

theorem flatMap_processLines (library : Library) (processes : List ProcessInfo) :
    processes.flatMap (processLines library) =
      (processes.flatMap (processTexts library)).map fun text => text ++ [10] := by
  rw [List.map_flatMap]
  rfl

theorem length_flatMap_processTexts (library : Library) (processes : List ProcessInfo) :
    (processes.flatMap (processTexts library)).length = processes.length * 2 := by
  rw [← length_flatMap_processLines library, flatMap_processLines, List.length_map]

theorem backendList_eq (documented : glib.Documented) (nonempty : processes ≠ [])
    (small : (processes.length : Int) * 2 ≤ G_MAXINT) :
    backendList glib (listLines library processes).flatten =
      let texts := processes.flatMap (processTexts library)
      let more := appendLines glib (Decimal.unsigned processes.length ++ [10])
        texts.length (texts.map fun text => text ++ [10]).flatten
      { more with lines := (Decimal.unsigned processes.length ++ [10]) :: more.lines } := by
  have positive : ¬ (processes.length : Int) ≤ 0 := by
    have some := List.length_pos_iff.mpr nonempty
    omega
  have isCount : IsLine (Decimal.unsigned processes.length ++ [10]) :=
    .of_printable (.unsigned _)
  have isInt : (processes.length : Int) ≤ G_MAXINT := by omega
  rw [backendList, listLines, List.flatten_cons, isCount.readLine documented]
  simp only [cString_of_isLine isCount, parseProtocolInt_unsigned documented, isInt,
    if_true, positive, if_false, linesWanted_of_small small, flatMap_processLines,
    length_flatMap_processTexts]

theorem unbroken_of_endsLine {text : Bytes} (noCarriageReturn : 13 ∉ text)
    (noLineFeed : 10 ∉ text) (ends : EndsLine (text ++ [10])) : Unbroken text := by
  rcases ends with ⟨read, terminator, same, unbroken, member⟩
  rcases terminator_cases terminator member with one | two | without
  · subst one
    rw [(append_lineFeed_inj noLineFeed unbroken.noLineFeed same).1]
    exact unbroken
  · subst two
    have same' : text ++ 10 :: [] = (read ++ [13]) ++ 10 :: [] := by
      rw [same]
      simp
    have carriageReturn : 10 ∉ read ++ [13] := by
      rw [List.mem_append, not_or]
      exact ⟨unbroken.noLineFeed, by decide⟩
    rw [(append_lineFeed_inj noLineFeed carriageReturn same').1] at noCarriageReturn
    exact absurd (List.mem_append_right _ (.head _)) noCarriageReturn
  · have counts := congrArg (List.count 10) same
    rw [List.count_append, List.count_append, without,
      List.count_eq_zero_of_not_mem unbroken.noLineFeed] at counts
    have one : List.count 10 [(10 : UInt8)] = 1 := rfl
    omega

theorem isReadable_of_processTexts (library : Library) {process : ProcessInfo}
    (listable : Listable process)
    (whole : ∀ text ∈ processTexts library process,
      EndsLine (text ++ [10]) ∧ ValidUtf8 (text ++ [10])) :
    IsReadable process.processName ∧ IsReadable process.exePath := by
  have valid : ∀ line ∈ processLines library process, ValidUtf8 line := by
    intro line member
    have isText : line ∈ (processTexts library process).map fun text => text ++ [10] :=
      member
    rcases List.mem_map.mp isText with ⟨text, textMember, same⟩
    exact same ▸ (whole text textMember).2
  have unbroken : ∀ text ∈ processTexts library process, Unbroken text := by
    intro text member
    exact unbroken_of_endsLine (notMem_processTexts library listable (by decide) text member)
      (notMem_processTexts library listable (by decide) text member) (whole text member).1
  have both := validUtf8_of_processLines valid
  have name := unbroken _ (.head _)
  have path := unbroken _ (.tail _ (.head _))
  exact ⟨⟨both.1, (name.of_suffix (List.suffix_append _ _)).noParagraphSeparator⟩,
    both.2, path.noParagraphSeparator⟩

theorem isReadable_of_isWhole (documented : glib.Documented)
    (detects : glib.DetectsTerminators)
    (listable : ∀ process ∈ processes, Listable process)
    (whole : (backendList glib (listLines library processes).flatten).IsWhole processes) :
    (∀ process ∈ processes,
      IsReadable process.processName ∧ IsReadable process.exePath) ∧
      (processes.length : Int) * 2 ≤ G_MAXINT := by
  have small : (processes.length : Int) * 2 ≤ G_MAXINT := by
    by_contra large
    have one : (backendList glib (listLines library processes).flatten).lines.length =
        1 := backendList_of_large documented (Int.not_le.mp large)
    have all := whole.1
    have limit : G_MAXINT = 2 ^ 31 - 1 := rfl
    omega
  refine ⟨?_, small⟩
  intro process member
  have nonempty : processes ≠ [] := List.ne_nil_of_mem member
  rw [backendList_eq documented nonempty small] at whole
  rcases whole with ⟨all, left⟩
  dsimp only at all left
  rw [List.length_cons] at all
  have lengths := length_flatMap_processTexts library processes
  have isWhole := isLine_of_appendLines documented detects
    (notMem_flatMap_processTexts library listable (by decide))
    (notMem_flatMap_processTexts library listable (by decide)) (by omega) left
  apply isReadable_of_processTexts library (listable process member)
  intro text isText
  exact isWhole text (List.mem_flatMap.mpr ⟨process, member, isText⟩)

theorem backendList_of_isReadable (documented : glib.Documented)
    (listable : ∀ process ∈ processes, Listable process)
    (readable : ∀ process ∈ processes,
      IsReadable process.processName ∧ IsReadable process.exePath)
    (small : (processes.length : Int) * 2 ≤ G_MAXINT) :
    backendList glib (listLines library processes).flatten =
      { lines := listLines library processes
        unread := []
        result := some (.text (some (listLines library processes).flatten)) } := by
  apply backendList_listLines documented small
  · intro process member
    have both := readable process member
    exact ⟨(unbroken_iff_of_sanitised (listable process member).name).mpr both.1.2,
      (unbroken_iff_of_sanitised (listable process member).path).mpr both.2.2⟩
  · intro process member
    exact (readable process member).imp And.left And.left

/-- The reply to LIST is read as the lines that were printed, and nothing stays in the
pipe, if and only if every name and every path is UTF-8 without a paragraph separator,
and twice the number of processes is an `int`. -/
theorem isWhole_backendList_iff (documented : glib.Documented)
    (detects : glib.DetectsTerminators)
    (lists : library.getNetworkProcesses = .ok processes)
    (listable : ∀ process ∈ processes, Listable process) :
    (backendList glib (handleListCmd library).flatten).IsWhole processes ↔
      (∀ process ∈ processes,
        IsReadable process.processName ∧ IsReadable process.exePath) ∧
        (processes.length : Int) * 2 ≤ G_MAXINT := by
  have printed : handleListCmd library = listLines library processes := by
    rw [handleListCmd_eq, lists]
  rw [printed]
  constructor
  · exact isReadable_of_isWhole documented detects listable
  · intro both
    rw [backendList_of_isReadable documented listable both.1 both.2]
    refine ⟨?_, rfl⟩
    change (listLines library processes).length = _
    rw [length_listLines]
    omega

end Reading

/-! ## A channel that detects terminators -/

theorem take_terminatorLength {bytes : Bytes} (found : terminatorLength bytes ≠ 0) :
    bytes.take (terminatorLength bytes) ∈ lineTerminators := by
  revert found
  rw [terminatorLength.eq_def]
  split
  · simp [lineTerminators]
  · simp [lineTerminators]
  · simp [lineTerminators]
  · simp [lineTerminators]
  · simp [lineTerminators]
  · exact fun found => absurd rfl found

theorem not_prefix_of_terminatorLength {bytes : Bytes}
    (none : terminatorLength bytes = 0) :
    ∀ terminator ∈ lineTerminators, ¬ terminator <+: bytes := by
  intro terminator member starts
  rcases starts with ⟨rest, same⟩
  subst same
  simp only [lineTerminators, List.mem_cons, List.not_mem_nil, or_false] at member
  rcases member with same | same | same | same | same
  all_goals
    subst same
    rw [terminatorLength.eq_def] at none
    split at none <;> simp_all

theorem unbroken_cons {byte : UInt8} {text : Bytes} (unbroken : Unbroken text)
    (noTerminator : ∀ terminator ∈ lineTerminators, ¬ terminator <+: byte :: text) :
    Unbroken (byte :: text) := by
  have absent : ∀ terminator, [terminator] ∈ lineTerminators → terminator ∉ text →
      terminator ∉ byte :: text := by
    intro terminator member absent
    apply List.not_mem_cons_of_ne_of_not_mem _ absent
    intro same
    subst same
    exact noTerminator _ member (List.prefix_cons_inj _ |>.mpr (List.nil_prefix ..))
  constructor
  · exact absent 0 (by decide) unbroken.noNul
  · exact absent 10 (by decide) unbroken.noLineFeed
  · exact absent 13 (by decide) unbroken.noCarriageReturn
  · intro found
    rcases List.infix_cons_iff.mp found with starts | later
    · exact noTerminator _ (by decide) starts
    · exact unbroken.noParagraphSeparator later

theorem splitLine_ends {bytes line rest : Bytes}
    (split : splitLine bytes = some (line, rest)) :
    bytes = line ++ rest ∧ EndsLine line := by
  induction bytes generalizing line rest with
  | nil => contradiction
  | cons byte bytes induction =>
      rw [splitLine] at split
      split at split
      · rename_i none
        rcases Option.map_eq_some_iff.mp split with ⟨⟨later, last⟩, found, equal⟩
        cases equal
        rcases induction found with ⟨same, text, terminator, isLine, unbroken, member⟩
        subst same isLine
        refine ⟨by simp, byte :: text, terminator, rfl, unbroken_cons unbroken ?_, member⟩
        intro other otherMember starts
        have further : other <+: byte :: (text ++ terminator ++ rest) := by
          refine starts.trans ?_
          rw [List.append_assoc, ← List.cons_append]
          exact List.prefix_append _ _
        exact not_prefix_of_terminatorLength none other otherMember further
      · rename_i some
        rw [List.splitAt_eq] at split
        cases split
        exact ⟨(List.take_append_drop _ _).symm, [], _, rfl, .nil,
          take_terminatorLength some⟩

theorem detectsTerminators_detecting : detecting.DetectsTerminators := by
  have read : ∀ bytes line rest,
      detecting.ioChannelReadLine bytes = .normal line rest →
        bytes = line ++ rest ∧ EndsLine line := by
    intro bytes line rest read
    simp only [detecting] at read
    split at read
    · contradiction
    · rename_i found
      split at read
      · cases read
        exact splitLine_ends found
      · contradiction
  exact ⟨fun bytes line rest normal => (read bytes line rest normal).1,
    fun bytes line rest normal => (read bytes line rest normal).2⟩

/-! ## Two names -/

theorem isWhole_backendList_iff_web :
    (backendList detecting (handleListCmd (finding (.ok [web]))).flatten).IsWhole
      [web] := by
  apply (isWhole_backendList_iff documented_detecting detectsTerminators_detecting rfl
    (listable_of_singleton _ _)).mpr
  constructor
  · decide
  · decide

def separated : ProcessInfo :=
  connected (ascii "a" ++ [0xE2, 0x80, 0xA9] ++ ascii "1\n") (ascii "/usr/bin/web")

/-- Its path stays in the pipe, where the next command's reply is expected. -/
theorem not_isWhole_backendList_separated :
    Listable separated ∧
      ¬ (backendList detecting (handleListCmd (finding (.ok [separated]))).flatten).IsWhole
        [separated] := by
  refine ⟨listable_connected _ _, ?_⟩
  intro whole
  have left : (backendList detecting
      (handleListCmd (finding (.ok [separated]))).flatten).unread =
        ascii "/usr/bin/web\n" := by decide +kernel
  rw [whole.2] at left
  contradiction

end Pidnl.Gui
