import Pidnl.Gui.LimitEntries
import Pidnl.Discovery.Listing

/-! # The graphical interface beside the command line

Refreshes, edits of entries and commands of the command line in any order. The rows
in the store tell the limits that were in force when the list was last read.
-/

namespace Pidnl.Gui

open Pidnl.Foundation Pidnl.System Pidnl.Ratelimit Pidnl.Monitor Pidnl.Discovery
open Pidnl.Bpf (Direction)

structure Entry where
  text : Bytes
  edited : Bool
deriving DecidableEq, Repr

structure Session where
  world : World
  store : List Row
  /-- The entries by the pid and the direction that they are for. -/
  entries : Int32 → Direction → Entry

namespace Session

/-- A window that has been opened on a machine where pidnl has never run. -/
def start (cgroup2Mount bpffsMount : Path) (running : Int32 → Bool) : Session where
  world := .fresh cgroup2Mount bpffsMount running
  store := []
  entries := fun _ _ => { text := [], edited := false }

/-! ## Refreshes -/

def bindEntries (store : List Row) (entries : Int32 → Direction → Entry)
    (pid : Int32) (direction : Direction) : Entry :=
  match findProcessByPid store pid with
  | none => entries pid direction
  | some row => { text := limitText (limitIn row.limits direction), edited := false }

/-- `backend_list` and `populate_store_from_raw`, where LIST finds the processes and
its reply is read whole. -/
def refresh (toolkit : Toolkit) (machine : Machine) (session : Session) :
    Option Session :=
  match getNetworkProcesses machine with
  | .error _ => none
  | .ok processes =>
      let library := libraryIn session.world (.ok processes)
      let reading := backendList toolkit.glib (handleListCmd library).flatten
      if reading.IsWhole processes then
        match reading.result with
        | some (.text (some response)) =>
            let store := populateStoreFromRaw toolkit.glib.asciiStrtoll
              toolkit.strsplit response
            some { session with
              store := store
              entries := bindEntries store session.entries }
        | _ => none
      else none

/-! ## Edits -/

def setEntry (session : Session) (pid : Int32) (direction : Direction) (entry : Entry) :
    Session :=
  { session with
    entries := Function.update session.entries pid
      (Function.update (session.entries pid) direction entry) }

def setEntryToValue (session : Session) (pid : Int32) (direction : Direction)
    (value : UInt32) : Session :=
  session.setEntry pid direction { text := limitText value, edited := false }

def newValue? (toolkit : Toolkit) (session : Session) (pid : Int32)
    (direction : Direction) : Option UInt32 :=
  parseLimitValue toolkit (toolkit.strstrip (session.entries pid direction).text)

/-- `apply_limit`, and whether the helper has not refused the limits. -/
def applyLimit (toolkit : Toolkit) (session : Session) (pid : Int32)
    (direction : Direction) : Bool × Session :=
  if pid ≤ 0 then (true, session)
  else
    let cached := cachedLimits session.store pid
    let current := limitIn cached direction
    match session.newValue? toolkit pid direction with
    | none => (true, session.setEntryToValue pid direction current)
    | some value =>
        let outcome := World.execute .none
          (handleLimit pid (withLimit cached direction value)) session.world
        if outcome.1 = .ok then
          (true, { session with
            world := outcome.2
            store := updateRow pid direction value session.store
          }.setEntryToValue pid direction value)
        else
          (false, { session with world := outcome.2 }.setEntryToValue pid direction
            current)

/-! ## Runs -/

inductive Event
  | refresh (machine : Machine)
  /-- The user writes into an entry. -/
  | edit (pid : Int32) (direction : Direction) (text : Bytes)
  /-- The entry is activated, or loses the focus. -/
  | applyLimit (pid : Int32) (direction : Direction)
  /-- `pidnl limit set` -/
  | limitSet (pid : Int32) (config : RateLimitConfig)
  /-- `pidnl limit unset` -/
  | limitUnset (pid : Int32)

/-- An event all of whose operations succeed. -/
def step (toolkit : Toolkit) (session : Session) : Event → Option Session
  | .refresh machine => session.refresh toolkit machine
  | .edit pid direction text =>
      some (session.setEntry pid direction { text := text, edited := true })
  | .applyLimit pid direction =>
      let outcome := session.applyLimit toolkit pid direction
      if outcome.1 then some outcome.2 else none
  | .limitSet pid config =>
      if config = .unlimited then none
      else
        let outcome := World.execute .none (Monitor.limitProcessBandwidth pid config)
          session.world
        if outcome.1 = .ok then some { session with world := outcome.2 } else none
  | .limitUnset pid =>
      let outcome := World.execute .none (Monitor.unregisterRateLimiterByPid pid)
        session.world
      if outcome.1 = .ok then some { session with world := outcome.2 } else none

variable {toolkit : Toolkit} {session next : Session}

/-- An `apply_limit` leaves the other direction as it was, and both if the text has
not been changed. -/
def KeepsOthers (toolkit : Toolkit) (session : Session) : Event → Prop
  | .applyLimit pid direction =>
      ∀ next, session.step toolkit (.applyLimit pid direction) = some next →
        limitIn (inForce next.world pid) (opposite direction) =
            limitIn (inForce session.world pid) (opposite direction) ∧
          ((session.entries pid direction).edited = false →
            inForce next.world pid = inForce session.world pid)
  | _ => True

/-- Where `apply_limit` sends limits, the store tells the limit in force on the other
direction, and a text that has not been changed tells the one on its own. -/
def IsCurrent (toolkit : Toolkit) (session : Session) : Event → Prop
  | .applyLimit pid direction =>
      pid ≤ 0 ∨ ∀ value ∈ session.newValue? toolkit pid direction,
        limitIn (cachedLimits session.store pid) (opposite direction) =
            limitIn (inForce session.world pid) (opposite direction) ∧
          ((session.entries pid direction).edited = false →
            value = limitIn (inForce session.world pid) direction)
  | _ => True

instance (session : Session) : (event : Event) → Decidable (session.IsCurrent toolkit event)
  | .applyLimit _ _ =>
      @instDecidableOr _ _ (inferInstanceAs (Decidable (_ ≤ _)))
        (Option.decidableForallMem _)
  | .refresh _ | .edit _ _ _ | .limitSet _ _ | .limitUnset _ => .isTrue trivial

/-! ## What an event does -/

theorem limits_ext {left right : RateLimitConfig} (direction : Direction)
    (own : limitIn left direction = limitIn right direction)
    (other : limitIn left (opposite direction) = limitIn right (opposite direction)) :
    left = right := by
  cases left
  cases right
  cases direction <;> simp_all [limitIn, opposite]

theorem applyLimit_of_newValue (sound : Sound session.world) {pid : Int32}
    (positive : ¬ pid ≤ 0) {direction : Direction} {value : UInt32}
    (parsed : session.newValue? toolkit pid direction = some value)
    (stepped : session.step toolkit (.applyLimit pid direction) = some next) :
    Enforces pid (withLimit (cachedLimits session.store pid) direction value)
        session.world next.world ∧
      next.store = updateRow pid direction value session.store ∧
      next.entries = (session.setEntryToValue pid direction value).entries := by
  simp only [step, applyLimit, if_neg positive, parsed] at stepped
  by_cases ok : (World.execute .none (handleLimit pid
      (withLimit (cachedLimits session.store pid) direction value)) session.world).1 = .ok
  · simp only [ok, if_true] at stepped
    cases stepped
    exact ⟨enforces_handleLimit sound ok, rfl, rfl⟩
  · simp only [ok, if_false, Bool.false_eq_true] at stepped
    contradiction

theorem applyLimit_of_none {pid : Int32} {direction : Direction}
    (none : pid ≤ 0 ∨ session.newValue? toolkit pid direction = none)
    (stepped : session.step toolkit (.applyLimit pid direction) = some next) :
    next.world = session.world ∧ next.store = session.store ∧
      (next = session ∨ next = session.setEntryToValue pid direction
        (limitIn (cachedLimits session.store pid) direction)) := by
  simp only [step, applyLimit] at stepped
  by_cases invalid : pid ≤ 0
  · simp only [invalid, if_true] at stepped
    cases stepped
    exact ⟨rfl, rfl, .inl rfl⟩
  · have unparsed := none.resolve_left invalid
    simp only [invalid, if_false, unparsed, if_true] at stepped
    cases stepped
    exact ⟨rfl, rfl, .inr rfl⟩

theorem keepsOthers_iff_isCurrent (sound : Sound session.world) {event : Event}
    (stepped : session.step toolkit event = some next) :
    session.KeepsOthers toolkit event ↔ session.IsCurrent toolkit event := by
  cases event with
  | refresh machine => exact Iff.rfl
  | edit pid direction text => exact Iff.rfl
  | limitSet pid config => exact Iff.rfl
  | limitUnset pid => exact Iff.rfl
  | applyLimit pid direction =>
      have only : session.KeepsOthers toolkit (.applyLimit pid direction) ↔
          limitIn (inForce next.world pid) (opposite direction) =
              limitIn (inForce session.world pid) (opposite direction) ∧
            ((session.entries pid direction).edited = false →
              inForce next.world pid = inForce session.world pid) := by
        constructor
        · exact fun keeps => keeps next stepped
        · intro keeps other same
          rw [stepped] at same
          cases same
          exact keeps
      rw [only]
      by_cases invalid : pid ≤ 0
      · have same := (applyLimit_of_none (.inl invalid) stepped).1
        rw [same]
        exact iff_of_true ⟨rfl, fun _ => rfl⟩ (.inl invalid)
      · cases parsed : session.newValue? toolkit pid direction with
        | none =>
            have same := (applyLimit_of_none (.inr parsed) stepped).1
            rw [same]
            refine iff_of_true ⟨rfl, fun _ => rfl⟩ (.inr ?_)
            rw [parsed]
            nofun
        | some value =>
            have enforces := (applyLimit_of_newValue sound invalid parsed stepped).1
            simp only [IsCurrent, invalid, false_or, parsed, Option.mem_def,
              Option.some.injEq, forall_eq']
            rw [enforces.limits, limitIn_opposite_withLimit]
            apply and_congr_right
            intro other
            apply imp_congr_right
            intro unedited
            constructor
            · intro both
              rw [← both, limitIn_withLimit]
            · intro own
              apply limits_ext direction
              · rw [limitIn_withLimit, own]
              · rw [limitIn_opposite_withLimit, other]

theorem world_refresh {machine : Machine}
    (refreshed : session.refresh toolkit machine = some next) :
    next.world = session.world := by
  rw [refresh] at refreshed
  split at refreshed
  · contradiction
  · dsimp only at refreshed
    split at refreshed
    · split at refreshed
      · cases refreshed
        rfl
      · contradiction
    · contradiction

theorem limitSet_of_step (sound : Sound session.world) {pid : Int32}
    {config : RateLimitConfig}
    (stepped : session.step toolkit (.limitSet pid config) = some next) :
    Enforces pid config session.world next.world ∧ next.store = session.store ∧
      next.entries = session.entries := by
  simp only [step] at stepped
  split at stepped
  · contradiction
  split at stepped
  · rename_i ok
    cases stepped
    exact ⟨enforces_limitProcessBandwidth sound ok, rfl, rfl⟩
  · contradiction

theorem limitUnset_of_step (sound : Sound session.world) {pid : Int32}
    (stepped : session.step toolkit (.limitUnset pid) = some next) :
    Enforces pid .unlimited session.world next.world ∧ next.store = session.store ∧
      next.entries = session.entries := by
  simp only [step] at stepped
  split at stepped
  · cases stepped
    exact ⟨enforces_unregisterRateLimiterByPid sound pid, rfl, rfl⟩
  · contradiction

theorem sound_step (sound : Sound session.world) {event : Event}
    (stepped : session.step toolkit event = some next) : Sound next.world := by
  cases event with
  | edit pid direction text =>
      cases stepped
      exact sound
  | refresh machine =>
      rw [world_refresh stepped]
      exact sound
  | limitSet pid config => exact (limitSet_of_step sound stepped).1.sound
  | limitUnset pid => exact (limitUnset_of_step sound stepped).1.sound
  | applyLimit pid direction =>
      by_cases invalid : pid ≤ 0
      · rw [(applyLimit_of_none (.inl invalid) stepped).1]
        exact sound
      · cases parsed : session.newValue? toolkit pid direction with
        | none =>
            rw [(applyLimit_of_none (.inr parsed) stepped).1]
            exact sound
        | some value =>
            exact (applyLimit_of_newValue sound invalid parsed stepped).1.sound

theorem guarded_keepsOthers_iff (sound : Sound session.world) {events : List Event}
    {final : Session} (run : perform (step toolkit) session events = some final) :
    Guarded (step toolkit) (KeepsOthers toolkit) session events ↔
      Guarded (step toolkit) (IsCurrent toolkit) session events := by
  induction events generalizing session with
  | nil => exact Iff.rfl
  | cons event events induction =>
      rcases perform.cons_eq_some.mp run with ⟨next, stepped, rest⟩
      have later := induction (sound_step sound stepped) rest
      apply and_congr (keepsOthers_iff_isCurrent sound stepped)
      constructor
      · intro keeps other same
        rw [stepped] at same
        cases same
        exact later.mp (keeps next stepped)
      · intro current other same
        rw [stepped] at same
        cases same
        exact later.mpr (current next stepped)

/-! ## After a refresh -/

structure Shows (session : Session) (pid : Int32) : Prop where
  limits : (findProcessByPid session.store pid).map Row.limits =
    some (inForce session.world pid)
  texts : ∀ direction, (session.entries pid direction).edited = false →
    (session.entries pid direction).text =
      limitText (limitIn (inForce session.world pid) direction)

/-- Events that do not read the list again, and change the limits of processes in the
window through the window alone. -/
def Spares (shown : Int32 → Prop) : Event → Prop
  | .refresh _ => False
  | .edit _ _ _ => True
  | .applyLimit pid _ => shown pid
  | .limitSet pid _ => ¬ shown pid
  | .limitUnset pid => ¬ shown pid

theorem Shows.cachedLimits {pid : Int32} (shows : Shows session pid) :
    Gui.cachedLimits session.store pid = inForce session.world pid := by
  have limits := shows.limits
  rw [Gui.cachedLimits]
  cases found : findProcessByPid session.store pid with
  | none =>
      rw [found] at limits
      contradiction
  | some row =>
      rw [found] at limits
      exact Option.some.inj limits

theorem isCurrent_of_shows (documented : toolkit.Documented) {pid : Int32}
    (shows : Shows session pid) (direction : Direction) :
    session.IsCurrent toolkit (.applyLimit pid direction) := by
  refine .inr ?_
  intro value parsed
  rw [shows.cachedLimits]
  refine ⟨rfl, ?_⟩
  intro unedited
  rw [newValue?, shows.texts direction unedited, parseLimitValue_limitText documented]
    at parsed
  exact (Option.some.inj parsed).symm

theorem entries_setEntry (session : Session) (pid other : Int32)
    (direction otherDirection : Direction) (entry : Entry) :
    (session.setEntry pid direction entry).entries other otherDirection =
      if other = pid ∧ otherDirection = direction then entry
      else session.entries other otherDirection := by
  simp only [setEntry, Function.update_apply]
  by_cases samePid : other = pid
  · subst samePid
    by_cases sameDirection : otherDirection = direction
    · simp [sameDirection]
    · simp [sameDirection]
  · simp [samePid]

theorem Shows.of_same {pid : Int32} (shows : Shows session pid)
    (world : inForce next.world pid = inForce session.world pid)
    (store : findProcessByPid next.store pid = findProcessByPid session.store pid)
    (entries : ∀ direction, (next.entries pid direction).edited = false →
      next.entries pid direction = session.entries pid direction) : Shows next pid := by
  constructor
  · rw [world, store]
    exact shows.limits
  · intro direction unedited
    have same := entries direction unedited
    rw [same] at unedited ⊢
    rw [world]
    exact shows.texts direction unedited

theorem shows_applyLimit (sound : Sound session.world) {pid other : Int32}
    {direction : Direction} (shows : Shows session pid)
    (stepped : session.step toolkit (.applyLimit other direction) = some next) :
    Shows next pid := by
  by_cases nothing : other ≤ 0 ∨ session.newValue? toolkit other direction = none
  · rcases applyLimit_of_none nothing stepped with ⟨world, store, same | reset⟩
    · exact same ▸ shows
    · refine ⟨by rw [world, store]; exact shows.limits, ?_⟩
      intro otherDirection unedited
      rw [world]
      rw [reset, setEntryToValue, entries_setEntry] at unedited ⊢
      split at unedited
      · rename_i here
        rw [if_pos here, ← here.1, ← here.2, shows.cachedLimits]
      · rename_i elsewhere
        rw [if_neg elsewhere]
        exact shows.texts otherDirection unedited
  · rw [not_or] at nothing
    rcases Option.ne_none_iff_exists'.mp nothing.2 with ⟨value, parsed⟩
    rcases applyLimit_of_newValue sound nothing.1 parsed stepped with
      ⟨enforces, store, entries⟩
    by_cases same : pid = other
    · subst same
      rw [shows.cachedLimits] at enforces
      constructor
      · have limits := shows.limits
        rw [store, findProcessByPid_updateRow_self, enforces.limits, Option.map_map]
        cases found : findProcessByPid session.store pid with
        | none =>
            rw [found] at limits
            contradiction
        | some row =>
            rw [found] at limits
            have cached : row.limits = inForce session.world pid := Option.some.inj limits
            simp only [Option.map_some, Function.comp_apply, Row.limits_setLimit, cached]
      · intro otherDirection unedited
        rw [entries, setEntryToValue, entries_setEntry] at unedited ⊢
        rw [enforces.limits]
        rcases eq_or_eq_opposite direction otherDirection with own | opposed
        · subst own
          simp
        · subst opposed
          have different : opposite direction ≠ direction := by
            cases direction <;> decide
          simp only [different, and_false, if_false, limitIn_opposite_withLimit]
            at unedited ⊢
          exact shows.texts _ unedited
    · apply shows.of_same (enforces.others pid same)
      · rw [store]
        exact findProcessByPid_updateRow_of_ne same _ _ _
      · intro otherDirection _
        rw [entries, setEntryToValue, entries_setEntry, if_neg fun both => same both.1]

theorem shows_step (sound : Sound session.world) {shown : Int32 → Prop} {event : Event}
    (spares : Spares shown event) {pid : Int32} (isShown : shown pid)
    (shows : Shows session pid)
    (stepped : session.step toolkit event = some next) : Shows next pid := by
  cases event with
  | refresh machine => exact absurd spares id
  | applyLimit other direction => exact shows_applyLimit sound shows stepped
  | edit other direction text =>
      cases stepped
      refine shows.of_same rfl rfl ?_
      intro otherDirection unedited
      rw [entries_setEntry] at unedited ⊢
      split at unedited
      · contradiction
      · rename_i elsewhere
        rw [if_neg elsewhere]
  | limitSet other config =>
      have different : pid ≠ other := fun same => spares (same ▸ isShown)
      rcases limitSet_of_step sound stepped with ⟨enforces, store, entries⟩
      apply shows.of_same (enforces.others pid different) (by rw [store])
      intro direction _
      rw [entries]
  | limitUnset other =>
      have different : pid ≠ other := fun same => spares (same ▸ isShown)
      rcases limitUnset_of_step sound stepped with ⟨enforces, store, entries⟩
      apply shows.of_same (enforces.others pid different) (by rw [store])
      intro direction _
      rw [entries]

theorem shows_refresh (documented : toolkit.Documented) (sound : Sound session.world)
    {machine : Machine} (refreshed : session.refresh toolkit machine = some next)
    {pid : Int32} (hasRow : (findProcessByPid next.store pid).isSome) :
    Shows next pid := by
  have world := world_refresh refreshed
  rw [refresh] at refreshed
  split at refreshed
  · contradiction
  rename_i processes returns
  have listable := listable_getNetworkProcesses returns
  dsimp only at refreshed
  split at refreshed
  case isFalse => contradiction
  rename_i whole
  have printed : handleListCmd (libraryIn session.world (.ok processes)) =
      listLines (libraryIn session.world (.ok processes)) processes :=
    handleListCmd_eq _
  rw [printed] at whole refreshed
  have readable := isReadable_of_isWhole documented.glib documented.detects listable whole
  rw [backendList_of_isReadable documented.glib listable readable.1 readable.2]
    at refreshed
  have short : processes.length < 2 ^ 30 := by
    have small := readable.2
    have limit : G_MAXINT = 2 ^ 31 - 1 := rfl
    omega
  have rows : populateStoreFromRaw toolkit.glib.asciiStrtoll toolkit.strsplit
      (listLines (libraryIn session.world (.ok processes)) processes).flatten =
        processes.filterMap (readRow (libraryIn session.world (.ok processes))) := by
    rw [documented.glib.strtoll]
    exact populateStoreFromRaw_listLines documented.splits listable short
  simp only [rows] at refreshed
  cases refreshed
  rcases Option.isSome_iff_exists.mp hasRow with ⟨row, found⟩
  have limits : row.limits = inForce session.world pid := by
    have samePid : row.pid = pid := by
      have matched := List.find?_some found
      exact of_decide_eq_true matched
    rcases List.mem_filterMap.mp (List.mem_of_find?_eq_some found) with
      ⟨process, _, read⟩
    rw [readRow, scanRow_processNumbers] at read
    rcases Option.map_eq_some_iff.mp read with ⟨name, _, isRow⟩
    subst isRow samePid
    have standing := read_eq_standingLimits sound process.pid
    simp only [Row.limits, Row.of, libraryIn, standing]
    rfl
  constructor
  · rw [found, Option.map_some, limits]
  · intro direction _
    simp only [bindEntries, found, limits]

/-- After a refresh `apply_limit` is called with limits that are in force, until the
command line changes those of a process in the window. -/
theorem guarded_isCurrent (documented : toolkit.Documented) (sound : Sound session.world)
    {shown : Int32 → Prop} (shows : ∀ pid, shown pid → Shows session pid)
    {events : List Event} (spares : ∀ event ∈ events, Spares shown event) :
    Guarded (step toolkit) (IsCurrent toolkit) session events := by
  induction events generalizing session with
  | nil => trivial
  | cons event events induction =>
      have first := spares event (.head _)
      constructor
      · cases event with
        | refresh machine => exact absurd first id
        | edit pid direction text => trivial
        | limitSet pid config => trivial
        | limitUnset pid => trivial
        | applyLimit pid direction =>
            exact isCurrent_of_shows documented (shows pid first) direction
      · intro next stepped
        apply induction (sound_step sound stepped)
        · intro pid isShown
          exact shows_step sound first isShown (shows pid isShown) stepped
        · exact fun other member => spares other (.tail _ member)

/-! ## Every run -/

theorem sound_start (cgroup2Mount bpffsMount : Path) (running : Int32 → Bool) :
    Sound (start cgroup2Mount bpffsMount running).world :=
  (holds_fresh cgroup2Mount bpffsMount running).toSound

/-- In every run, each `apply_limit` leaves the other direction as it was, and both
directions where the text has not been changed, if and only if each is called when the
store tells the limit in force on the other direction, and a text that has not been
changed tells the one on its own. -/
theorem keepsOthers_run_iff (toolkit : Toolkit) (cgroup2Mount bpffsMount : Path)
    (running : Int32 → Bool) {events : List Event} {final : Session}
    (run : perform (step toolkit) (start cgroup2Mount bpffsMount running) events =
      some final) :
    Guarded (step toolkit) (KeepsOthers toolkit)
        (start cgroup2Mount bpffsMount running) events ↔
      Guarded (step toolkit) (IsCurrent toolkit)
        (start cgroup2Mount bpffsMount running) events :=
  guarded_keepsOthers_iff (sound_start cgroup2Mount bpffsMount running) run

def stripping (text : Bytes) : Bytes :=
  ((text.dropWhile Decimal.isSpace).reverse.dropWhile Decimal.isSpace).reverse

def desktop : Toolkit where
  glib := detecting
  strsplit := splitting
  strstrip := stripping

def listing : Machine := oneSocket oneHolder

/-- The command line limits a process, the window shows it and changes its upload. -/
def readAgain : List Event :=
  [.limitSet 7 { uploadKbps := 100, downloadKbps := 200 }, .refresh listing,
    .edit 7 .upload (ascii "500"), .applyLimit 7 .upload]

theorem keepsOthers_run_iff_readAgain :
    ∃ final, perform (step desktop) (start [] [] fun pid => pid = 7) readAgain =
        some final ∧
      Guarded (step desktop) (KeepsOthers desktop) (start [] [] fun pid => pid = 7)
        readAgain := by
  have ends : (perform (step desktop) (start [] [] fun pid => pid = 7) readAgain).map
      (fun final => (final.entries 7 .upload).text) = some (ascii "500") := by
    decide +kernel
  have current : Guarded (step desktop) (IsCurrent desktop)
      (start [] [] fun pid => pid = 7) readAgain := by decide +kernel
  rcases Option.map_eq_some_iff.mp ends with ⟨final, run, _⟩
  exact ⟨final, run, (keepsOthers_run_iff desktop [] [] _ run).mpr current⟩

/-- The same, but for a command of the command line after the window was refreshed. -/
def readBefore : List Event :=
  [.limitSet 7 { uploadKbps := 100, downloadKbps := 200 }, .refresh listing,
    .limitSet 7 { uploadKbps := 300, downloadKbps := 400 },
    .edit 7 .upload (ascii "500")]

/-- What the command line has set for downloads is lost. -/
theorem not_keepsOthers_readBefore :
    ∃ session next,
      perform (step desktop) (start [] [] fun pid => pid = 7) readBefore = some session ∧
      session.step desktop (.applyLimit 7 .upload) = some next ∧
      inForce session.world 7 = { uploadKbps := 300, downloadKbps := 400 } ∧
      inForce next.world 7 = { uploadKbps := 500, downloadKbps := 200 } ∧
      ¬ session.KeepsOthers desktop (.applyLimit 7 .upload) := by
  have ends : (perform (step desktop) (start [] [] fun pid => pid = 7) readBefore).map
      (fun session => (inForce session.world 7,
        (session.step desktop (.applyLimit 7 .upload)).map
          fun next => inForce next.world 7)) =
      some ({ uploadKbps := 300, downloadKbps := 400 },
        some { uploadKbps := 500, downloadKbps := 200 }) := by decide +kernel
  rcases Option.map_eq_some_iff.mp ends with ⟨session, run, reached⟩
  rcases Prod.mk.inj reached with ⟨before, steps⟩
  rcases Option.map_eq_some_iff.mp steps with ⟨next, stepped, after⟩
  refine ⟨session, next, run, stepped, before, after, ?_⟩
  intro keeps
  have downloads := (keeps next stepped).1
  rw [before, after] at downloads
  exact absurd downloads (by decide)

end Session

end Pidnl.Gui
