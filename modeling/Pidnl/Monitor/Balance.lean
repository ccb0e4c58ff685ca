import Pidnl.Monitor.Descriptors

/-! # No operation leaks a descriptor

Whichever calls fail, a process that sets, removes or reads a limit closes every
descriptor that it opens, once, and no other. In the daemon the pidfds of the watch
table come and go with their slots.
-/

namespace Pidnl.Monitor

open Pidnl.Foundation Pidnl.Foundation.Program Pidnl.System Pidnl.Ratelimit

def ProcessCall.opens : ProcessCall Reply → Reply → Multiset Fd
  | .kernel kernelCall, reply => kernelCall.opens reply
  | .fopen, none => 0
  | .fopen, some (mounts, _) => {mounts}
  | .socket, fd => holding fd
  | .pipe, none => 0
  | .pipe, some (readEnd, writeEnd) => {readEnd} + {writeEnd}
  | _, _ => 0

def ProcessCall.closes : ProcessCall Reply → Multiset Fd
  | .kernel kernelCall => kernelCall.closes
  | .fclose file => {file}
  | .close fd => {fd}
  | _ => 0

def processHandling : Handling ProcessCall Fd where
  opens := ProcessCall.opens
  closes := ProcessCall.closes

namespace Process

/-! ## What each function owns -/

section Asking

variable {held : Multiset Fd} {post : α → Multiset Fd}

theorem owns_ask {call : ProcessCall Reply} {next : Reply → ProcessProgram α}
    (closesNone : call.closes = 0) (opensNone : ∀ reply, call.opens reply = 0)
    (rest : ∀ reply, (next reply).Owns processHandling held post) :
    (ask call >>= next).Owns processHandling held post :=
  owns_quiet_bind closesNone opensNone rest

theorem owns_close {next : Unit → ProcessProgram α} {fd : Fd}
    (rest : ∀ reply, (next reply).Owns processHandling held post) :
    (ask (.close fd) >>= next).Owns processHandling ({fd} + held) post :=
  owns_close_bind held rfl (fun _ => rfl) rest

theorem owns_close_last {next : Unit → ProcessProgram α} {fd : Fd}
    (rest : ∀ reply, (next reply).Owns processHandling 0 post) :
    (ask (.close fd) >>= next).Owns processHandling {fd} post :=
  owns_close_bind 0 (add_zero _).symm (fun _ => rfl) rest

end Asking

theorem balances_findBpffs (entries : List MountEntry) :
    (findBpffs entries).Balances processHandling := by
  induction entries with
  | nil => exact balances_pure _
  | cons entry entries induction =>
      rw [findBpffs]
      split
      · exact induction
      apply owns_ask rfl fun _ => rfl
      intro fsType
      split
      · exact induction
      · exact balances_pure _

theorem balances_getBpffsMount : getBpffsMount.Balances processHandling := by
  apply owns_open_bind rfl
  intro opened
  rw [add_zero]
  cases opened with
  | none => exact balances_pure _
  | some file =>
      apply (balances_findBpffs file.2).then
      intro found
      apply owns_close_bind 0 (add_zero _).symm fun _ => rfl
      intro closed
      exact balances_pure _

theorem owns_inProcess {program : KernelProgram α} {held : Multiset Fd}
    {post : α → Multiset Fd} (owns : OwnsFds program held post) :
    (inProcess program).Owns processHandling held post := by
  apply Owns.expand _ owns
  intro Reply call
  cases call with
  | getBpffsMount => exact balances_getBpffsMount
  | _ => exact owns_request

theorem owns_monitorConnect : monitorConnect.Owns processHandling 0 holding := by
  apply owns_open_bind rfl
  intro opened
  rw [add_zero]
  cases opened with
  | none => exact owns_pure none holding
  | some fd =>
      apply owns_ask rfl fun _ => rfl
      intro connected
      split
      · apply owns_close_last
        intro closed
        exact owns_pure none holding
      · apply owns_ask rfl fun _ => rfl
        intro set
        exact owns_pure (some fd) holding

theorem owns_monitorEnsureRunning :
    monitorEnsureRunning.Owns processHandling 0 holding := by
  rw [monitorEnsureRunning, owns_inside]
  apply ((owns_inside _).mpr owns_monitorConnect).bind
  intro connected
  cases connected with
  | some fd => exact owns_pure (some fd) holding
  | none =>
      apply owns_open_bind rfl
      intro ends
      rw [holding_none, add_zero]
      cases ends with
      | none => exact owns_pure none holding
      | some ends =>
          apply owns_ask rfl fun _ => rfl
          intro forked
          split
          · apply owns_close
            intro closedRead
            apply owns_close_last
            intro closedWrite
            exact owns_pure none holding
          · apply owns_close_bind {ends.1} (add_comm _ _) fun _ => rfl
            intro closedWrite
            apply owns_ask rfl fun _ => rfl
            intro waited
            apply owns_ask rfl fun _ => rfl
            intro ready
            apply owns_close_last
            intro closedRead
            split
            · exact owns_pure none holding
            · exact (owns_inside _).mpr owns_monitorConnect

theorem balances_sendCommand (command : Command) (pid : Int32) :
    (sendCommand command pid).Balances processHandling := by
  rw [sendCommand, Balances, owns_inside]
  apply owns_monitorEnsureRunning.bind
  intro connected
  cases connected with
  | none => exact balances_pure _
  | some fd =>
      apply owns_ask rfl fun _ => rfl
      intro written
      split
      · apply owns_close_last
        intro closed
        exact balances_pure _
      apply owns_ask rfl fun _ => rfl
      intro result
      apply owns_close_last
      intro closed
      cases result with
      | none => exact balances_pure _
      | some result => exact balances_pure _

theorem balances_limitProcessBandwidth (pid : Int32) (config : RateLimitConfig) :
    (limitProcessBandwidth pid config).Balances processHandling := by
  apply Owns.then (owns_inProcess (closes_installLimit pid config))
  intro code
  split
  · exact balances_pure _
  apply (balances_sendCommand .watch pid).then
  intro watched
  exact balances_pure _

theorem balances_unregisterRateLimiterByPid (pid : Int32) :
    (unregisterRateLimiterByPid pid).Balances processHandling := by
  apply (balances_sendCommand .unwatch pid).then
  intro unwatched
  exact owns_inProcess (closes_deletePidCgroup pid)

end Process

/-! ## Callers -/

inductive Caller
  | client
  | monitor (table : Daemon.Table)

inductive Routine
  | limitProcessBandwidth (pid : Int32) (config : RateLimitConfig)
  | unregisterRateLimiterByPid (pid : Int32)
  | getRateLimitsFromCgroup (pid : Int32)

namespace Caller

def call : Caller → Routine → ProcessProgram Caller
  | .client, .limitProcessBandwidth pid config => do
    let _ ← Process.limitProcessBandwidth pid config
    return .client
  | .client, .unregisterRateLimiterByPid pid => do
    let _ ← Process.unregisterRateLimiterByPid pid
    return .client
  | .monitor table, .limitProcessBandwidth pid config => do
    let limited ← Process.inProcess (Daemon.limitProcessBandwidth pid config table)
    return .monitor limited.2
  | .monitor table, .unregisterRateLimiterByPid pid => do
    let unregistered ← Process.inProcess (Daemon.unregisterRateLimiterByPid pid table)
    return .monitor unregistered.2
  | caller, .getRateLimitsFromCgroup pid => do
    let _ ← Process.inProcess (getRateLimitsFromCgroup pid)
    return caller

def entries : Caller → SlotIndex → Option (PidfdEntry Fd)
  | .client, _ => none
  | .monitor table, slot => table.entries slot

/-- The pidfds of the slots of a caller that another does not have as they are. -/
def pidfdsBeyond (caller other : Caller) : Multiset Fd :=
  (Finset.univ : Finset SlotIndex).val.filterMap fun slot =>
    if caller.entries slot = other.entries slot then none
    else (caller.entries slot).map PidfdEntry.pidfd

/-- Every descriptor that is opened is closed once and no other is, but for the pidfds
of slots that become active, which stay open, and those of slots that are freed, which
are closed. -/
def Accounts (before after : Caller) (trace : List (Exchange ProcessCall)) : Prop :=
  ledger processHandling (before.pidfdsBeyond after) trace =
      some (after.pidfdsBeyond before) ∧
    ∀ isOpen, Fresh processHandling isOpen trace →
      openAfter processHandling isOpen trace =
        {fd | fd ∈ isOpen ∧ fd ∉ before.pidfdsBeyond after ∨
          fd ∈ after.pidfdsBeyond before}

variable {caller before after : Caller} {trace first second : List (Exchange ProcessCall)}

theorem filterMap_eq_zero {select : α → Option β} {values : Multiset α}
    (none : ∀ value ∈ values, select value = none) : values.filterMap select = 0 := by
  apply Multiset.eq_zero_of_forall_notMem
  intro selected member
  rcases (Multiset.mem_filterMap _ _).mp member with ⟨value, isValue, isSelected⟩
  rw [none value isValue] at isSelected
  contradiction

theorem pidfdsBeyond_self (caller : Caller) : caller.pidfdsBeyond caller = 0 :=
  filterMap_eq_zero fun _ _ => if_pos rfl

theorem pidfdsBeyond_of_slot {slot : SlotIndex}
    (same : ∀ other, other ≠ slot → before.entries other = after.entries other)
    (different : before.entries slot ≠ after.entries slot) :
    before.pidfdsBeyond after =
      holding ((before.entries slot).map PidfdEntry.pidfd) := by
  have slots : (Finset.univ : Finset SlotIndex).val =
      slot ::ₘ (Finset.univ.erase slot).val := by
    rw [Finset.erase_val, Multiset.cons_erase (Finset.mem_univ slot)]
  have rest : ((Finset.univ.erase slot).val.filterMap fun other =>
      if before.entries other = after.entries other then none
      else (before.entries other).map PidfdEntry.pidfd) = 0 := by
    apply filterMap_eq_zero
    intro other member
    exact if_pos (same other (Finset.ne_of_mem_erase (Finset.mem_val.mp member)))
  rw [pidfdsBeyond, slots, Multiset.filterMap_cons, rest, if_neg different, add_zero]
  cases (before.entries slot).map PidfdEntry.pidfd <;> rfl

/-! ## What a routine does to the descriptors of its caller -/

theorem accounts_of_balances {program : ProcessProgram α} {value : α}
    (balanced : program.Balances processHandling) (course : program.Course trace value)
    (caller : Caller) : Accounts caller caller trace := by
  rw [Accounts, pidfdsBeyond_self]
  refine ⟨balanced.ledger course, ?_⟩
  intro isOpen fresh
  rw [openAfter_of_balances balanced course fresh]
  ext fd
  simp

theorem Accounts.after_balances {program : ProcessProgram α} {value : α}
    (balanced : program.Balances processHandling) (course : program.Course first value)
    (accounts : Accounts before after second) : Accounts before after (first ++ second) := by
  constructor
  · have kept := ledger_frame (balanced.ledger course) (before.pidfdsBeyond after)
    rw [zero_add] at kept
    rw [ledger_append kept]
    exact accounts.1
  · intro isOpen fresh
    rcases fresh_append.mp fresh with ⟨freshFirst, freshSecond⟩
    rw [openAfter_of_balances balanced course freshFirst] at freshSecond
    rw [openAfter_append, openAfter_of_balances balanced course freshFirst]
    exact accounts.2 isOpen freshSecond

theorem Accounts.then_balances {program : ProcessProgram α} {value : α}
    (accounts : Accounts before after first)
    (balanced : program.Balances processHandling) (course : program.Course second value) :
    Accounts before after (first ++ second) := by
  constructor
  · have kept := ledger_frame (balanced.ledger course) (after.pidfdsBeyond before)
    rw [zero_add] at kept
    rw [ledger_append accounts.1]
    exact kept
  · intro isOpen fresh
    rcases fresh_append.mp fresh with ⟨freshFirst, freshSecond⟩
    rw [openAfter_append, openAfter_of_balances balanced course freshSecond]
    exact accounts.2 isOpen freshFirst

theorem Accounts.cons {exchange : Exchange ProcessCall}
    (accounts : Accounts before after trace)
    (closesNone : processHandling.closes exchange.request = 0)
    (opensNone : processHandling.opens exchange.request exchange.reply = 0) :
    Accounts before after (exchange :: trace) := by
  have unchanged : ∀ isOpen, openNext processHandling isOpen exchange = isOpen := by
    intro isOpen
    ext fd
    simp [openNext, closesNone, opensNone]
  constructor
  · rw [ledger, closesNone, opensNone, if_pos (Multiset.zero_le _), tsub_zero, add_zero]
    exact accounts.1
  · intro isOpen fresh
    rcases fresh with ⟨_, _, later⟩
    rw [unchanged] at later
    rw [openAfter, List.foldl_cons, unchanged]
    exact accounts.2 isOpen later

theorem accounts_close {table : Daemon.Table} {pid : Int32} (found : table.ActiveSlot pid) :
    Accounts (.monitor table) (.monitor (table.clear found))
      [⟨.kernel (.close found.entry.pidfd), ()⟩] := by
  have freed : (monitor (table.clear found)).entries found.slot = none :=
    Function.update_self _ _ _
  have active : (monitor table).entries found.slot = some found.entry := found.active
  have same : ∀ other, other ≠ found.slot →
      (monitor table).entries other = (monitor (table.clear found)).entries other :=
    fun other different => (Function.update_of_ne different _ _).symm
  have gone : (monitor table).pidfdsBeyond (monitor (table.clear found)) =
      {found.entry.pidfd} := by
    rw [pidfdsBeyond_of_slot same (by simp [active, freed]), active]
    rfl
  have new : (monitor (table.clear found)).pidfdsBeyond (monitor table) = 0 := by
    rw [pidfdsBeyond_of_slot (fun other different => (same other different).symm)
      (by simp [active, freed]), freed]
    rfl
  rw [Accounts, gone, new]
  constructor
  · exact ledger_singleton (ProcessCall.kernel (.close found.entry.pidfd)) ()
  · intro isOpen fresh
    rfl

/-- `add_pid_to_watch` keeps the pidfd that it opens in the slot that it makes active. -/
theorem accounts_pidfdOpen {table : Daemon.Table} (free : table.FreeSlot) (pid : Int32)
    (pidfd : Fd) :
    Accounts (.monitor table) (.monitor (table.insert free { pid := pid, pidfd := pidfd }))
      [⟨.kernel (.pidfdOpen pid), some pidfd⟩] := by
  let entry : PidfdEntry Fd := { pid := pid, pidfd := pidfd }
  have active : (monitor (table.insert free entry)).entries free.1 = some entry :=
    Function.update_self _ _ _
  have inactive : (monitor table).entries free.1 = none := free.2
  have same : ∀ other, other ≠ free.1 →
      (monitor table).entries other = (monitor (table.insert free entry)).entries other :=
    fun other different => (Function.update_of_ne different _ _).symm
  have gone : (monitor table).pidfdsBeyond (monitor (table.insert free entry)) = 0 := by
    rw [pidfdsBeyond_of_slot same (by simp [active, inactive]), inactive]
    rfl
  have new : (monitor (table.insert free entry)).pidfdsBeyond (monitor table) = {pidfd} := by
    rw [pidfdsBeyond_of_slot (fun other different => (same other different).symm)
      (by simp [active, inactive]), active]
    rfl
  rw [Accounts, gone, new]
  constructor
  · exact ledger_singleton (ProcessCall.kernel (.pidfdOpen pid)) (some pidfd)
  · intro isOpen fresh
    rfl

theorem course_ask {call : KernelCall Reply} {reply : Reply}
    (plain : Process.carryOut call = Process.ask (.kernel call))
    (course : (Process.inProcess (Ratelimit.ask call)).Course trace reply) :
    trace = [⟨.kernel call, reply⟩] := by
  apply course_request
  have made : Process.inProcess (Ratelimit.ask call) = Process.ask (.kernel call) := by
    rw [Process.inProcess, Ratelimit.ask, request, expand, plain]
    rfl
  rw [made] at course
  exact course

theorem accounts_unregister {pid : Int32} {table : Daemon.Table}
    {value : RatelimitCode × Daemon.Table}
    (course : (Process.inProcess
      (Daemon.unregisterRateLimiterByPid pid table)).Course trace value) :
    Accounts (.monitor table) (.monitor value.2) trace := by
  rw [Daemon.unregisterRateLimiterByPid, Process.inProcess, expand_bind] at course
  rcases course_bind course with ⟨first, second, unwatched, rfl, removes, later⟩
  rw [expand_bind] at later
  rcases course_bind later with ⟨deletes, returns, code, rfl, deletion, last⟩
  rcases course_pure last with ⟨rfl, rfl⟩
  rw [List.append_nil]
  have removed : Accounts (.monitor table) (.monitor unwatched.2) first := by
    rw [Daemon.removePidFromWatch] at removes
    split at removes
    · rcases course_pure removes with ⟨rfl, rfl⟩
      exact accounts_of_balances (balances_pure ()) (.done ()) _
    · rename_i found _
      rw [expand_bind] at removes
      rcases course_bind removes with ⟨closes, rest, closed, rfl, closing, cleared⟩
      rcases course_pure cleared with ⟨rfl, rfl⟩
      rw [course_ask rfl closing]
      exact accounts_close found
  exact removed.then_balances (Process.owns_inProcess (closes_deletePidCgroup pid)) deletion

theorem accounts_addPidToWatch {pid : Int32} {table : Daemon.Table}
    {value : MonitorCode × Daemon.Table}
    (course : (Process.inProcess (Daemon.addPidToWatch pid table)).Course trace value) :
    Accounts (.monitor table) (.monitor value.2) trace := by
  have unchanged : Accounts (.monitor table) (.monitor table) [] :=
    accounts_of_balances (balances_pure ()) (.done ()) _
  rw [Daemon.addPidToWatch] at course
  split at course
  · rcases course_pure course with ⟨rfl, rfl⟩
    exact unchanged
  split at course
  · rcases course_pure course with ⟨rfl, rfl⟩
    exact unchanged
  rename_i slot _
  rw [Process.inProcess, expand_bind] at course
  rcases course_bind course with ⟨opens, rest, opened, rfl, opening, later⟩
  rw [course_ask rfl opening]
  cases opened with
  | some pidfd =>
      rcases course_pure later with ⟨rfl, rfl⟩
      exact accounts_pidfdOpen slot pid pidfd
  | none =>
      have fails := expand_bind Process.carryOut (Daemon.unregisterRateLimiterByPid pid table)
        fun unregistered => pure (MonitorCode.pidfd, unregistered.2)
      rw [fails] at later
      rcases course_bind later with ⟨unregisters, returns, left, rfl, unregistration, last⟩
      rcases course_pure last with ⟨rfl, rfl⟩
      rw [List.append_nil]
      exact (accounts_unregister unregistration).cons rfl rfl

theorem accounts_limit {pid : Int32} {config : RateLimitConfig} {table : Daemon.Table}
    {value : RatelimitCode × Daemon.Table}
    (course : (Process.inProcess
      (Daemon.limitProcessBandwidth pid config table)).Course trace value) :
    Accounts (.monitor table) (.monitor value.2) trace := by
  have balanced := Process.owns_inProcess (closes_installLimit pid config)
  rw [Daemon.limitProcessBandwidth, Process.inProcess, expand_bind] at course
  rcases course_bind course with ⟨installs, later, code, rfl, installation, rest⟩
  split at rest
  · rcases course_pure rest with ⟨rfl, rfl⟩
    rw [List.append_nil]
    exact accounts_of_balances balanced installation _
  rw [expand_bind] at rest
  rcases course_bind rest with ⟨adds, returns, watched, rfl, adding, last⟩
  rcases course_pure last with ⟨rfl, rfl⟩
  rw [List.append_nil]
  exact (accounts_addPidToWatch adding).after_balances balanced installation

theorem accounts_of_returned {program : ProcessProgram α}
    (balanced : program.Balances processHandling)
    (course : (program >>= fun _ => pure caller).Course trace after) :
    Accounts caller after trace := by
  rcases course_bind course with ⟨first, last, value, rfl, made, returned⟩
  rcases course_pure returned with ⟨rfl, rfl⟩
  rw [List.append_nil]
  exact accounts_of_balances balanced made after

theorem accounts_of_course (caller : Caller) (routine : Routine)
    (course : (caller.call routine).Course trace after) :
    Accounts caller after trace := by
  cases routine with
  | getRateLimitsFromCgroup pid =>
      have balanced := Process.owns_inProcess (closes_getRateLimitsFromCgroup pid)
      cases caller with
      | client => exact accounts_of_returned balanced course
      | monitor table => exact accounts_of_returned balanced course
  | limitProcessBandwidth pid config =>
      cases caller with
      | client =>
          exact accounts_of_returned (Process.balances_limitProcessBandwidth pid config) course
      | monitor table =>
          rcases course_bind course with ⟨first, last, limited, rfl, limiting, returned⟩
          rcases course_pure returned with ⟨rfl, rfl⟩
          rw [List.append_nil]
          exact accounts_limit limiting
  | unregisterRateLimiterByPid pid =>
      cases caller with
      | client =>
          exact accounts_of_returned (Process.balances_unregisterRateLimiterByPid pid) course
      | monitor table =>
          rcases course_bind course with ⟨first, last, unwatched, rfl, unwatching, returned⟩
          rcases course_pure returned with ⟨rfl, rfl⟩
          rw [List.append_nil]
          exact accounts_unregister unwatching

/-- In every state, and whichever calls succeed or fail, a routine closes once every
descriptor that it opens, and no other. In the daemon the pidfd of a slot that becomes
active stays open, and that of a slot that is freed is closed. -/
theorem accounts_of_run (environment : Environment Frame ProcessCall State) (state : State)
    (caller : Caller) (routine : Routine) :
    Accounts caller ((caller.call routine).run environment state).1
      ((caller.call routine).exchanges environment state) :=
  accounts_of_course caller routine (course_of_run environment _ state)

end Caller

end Pidnl.Monitor
