import Pidnl.Gui.ListReply
import Pidnl.Monitor.Store

/-! # The entries for limits

`apply_limit` of `processes.c`. An entry is for one direction, and what is sent to the
helper is both directions: the other one is taken from the row in the store.
-/

namespace Pidnl.Gui

open Pidnl.Foundation Pidnl.System Pidnl.Ratelimit Pidnl.Monitor
open Pidnl.Bpf (Direction)

structure Toolkit where
  glib : Glib
  strsplit : Bytes → List Bytes
  strstrip : Bytes → Bytes

structure Toolkit.Documented (toolkit : Toolkit) : Prop where
  glib : toolkit.glib.Documented
  detects : toolkit.glib.DetectsTerminators
  splits : SplitsLines toolkit.strsplit
  strips : ∀ text, (∀ byte ∈ text, Decimal.isSpace byte = false) →
    toolkit.strstrip text = text

/-! ## Limits by direction -/

def opposite : Direction → Direction
  | .upload => .download
  | .download => .upload

def limitIn (config : RateLimitConfig) : Direction → UInt32
  | .upload => config.uploadKbps
  | .download => config.downloadKbps

def withLimit (config : RateLimitConfig) (direction : Direction) (value : UInt32) :
    RateLimitConfig :=
  match direction with
  | .upload => { config with uploadKbps := value }
  | .download => { config with downloadKbps := value }

@[simp] theorem limitIn_withLimit (config : RateLimitConfig) (direction : Direction)
    (value : UInt32) : limitIn (withLimit config direction value) direction = value := by
  cases direction <;> rfl

@[simp] theorem limitIn_opposite_withLimit (config : RateLimitConfig)
    (direction : Direction) (value : UInt32) :
    limitIn (withLimit config direction value) (opposite direction) =
      limitIn config (opposite direction) := by
  cases direction <;> rfl

theorem eq_or_eq_opposite (direction other : Direction) :
    other = direction ∨ other = opposite direction := by
  cases direction <;> cases other <;> simp [opposite]

def Row.limits (row : Row) : RateLimitConfig where
  uploadKbps := row.uploadKbps
  downloadKbps := row.downloadKbps

def Row.setLimit (row : Row) (direction : Direction) (value : UInt32) : Row :=
  match direction with
  | .upload => { row with uploadKbps := value }
  | .download => { row with downloadKbps := value }

@[simp] theorem Row.setLimit_pid (row : Row) (direction : Direction) (value : UInt32) :
    (row.setLimit direction value).pid = row.pid := by
  cases direction <;> rfl

@[simp] theorem Row.limits_setLimit (row : Row) (direction : Direction)
    (value : UInt32) :
    (row.setLimit direction value).limits = withLimit row.limits direction value := by
  cases direction <;> rfl

/-! ## The text of an entry -/

def parseLimitValue (toolkit : Toolkit) (text : Bytes) : Option UInt32 :=
  if text = [] ∨ text = ascii "-" ∨ text = ascii "-1" then some RATELIMIT_UNLIMITED
  else
    let scanned := toolkit.glib.asciiStrtoll text
    if scanned.noDigits ∨ scanned.rest ≠ [] ∨ scanned.value < 0 then none
    else if (RATELIMIT_UNLIMITED.toNat : Int) ≤ scanned.value then
      some (RATELIMIT_UNLIMITED - 1)
    else some (.ofNat scanned.value.toNat)

/-- What `set_entry_to_value` writes. -/
def limitText (value : UInt32) : Bytes :=
  if value = RATELIMIT_UNLIMITED then [] else Decimal.unsigned value.toNat

theorem isDigit_of_mem_limitText {value : UInt32} :
    ∀ byte ∈ limitText value, Decimal.isDigit byte = true := by
  intro byte member
  rw [limitText] at member
  split at member
  · cases member
  · exact Decimal.isDigit_of_mem_unsigned member

theorem parseLimitValue_of_shown {toolkit : Toolkit}
    (strtoll : toolkit.glib.asciiStrtoll = Decimal.strtol) (value : UInt32) :
    parseLimitValue toolkit (limitText value) = some value := by
  rw [parseLimitValue]
  by_cases unlimited : value = RATELIMIT_UNLIMITED
  · have empty : limitText value = [] := if_pos unlimited
    rw [if_pos (.inl empty), unlimited]
  · have text : limitText value = Decimal.unsigned value.toNat := if_neg unlimited
    have noMinus : 45 ∉ limitText value := fun member =>
      absurd (isDigit_of_mem_limitText 45 member) (by decide)
    have small := value.toNat_lt
    have below : value.toNat ≠ RATELIMIT_UNLIMITED.toNat := fun same =>
      unlimited (UInt32.toNat_inj.mp same)
    have most : RATELIMIT_UNLIMITED.toNat = 2 ^ 32 - 1 := by decide
    have scanned := Decimal.scan_unsigned_append (-2 ^ 63) (2 ^ 63 - 1) value.toNat
      Scanf.endsNumeral_nil
    rw [List.append_nil] at scanned
    have clamped : max (-2 ^ 63) (min (2 ^ 63 - 1) (value.toNat : Int)) =
        (value.toNat : Int) := by omega
    rw [if_neg]
    · simp only [strtoll, text, Decimal.strtol, scanned, clamped,
        Bool.false_eq_true, ne_eq, not_true, false_or]
      rw [if_neg (by omega), if_neg (by omega), Int.toNat_natCast, UInt32.ofNat_toNat]
    · intro special
      rcases special with empty | dash | one
      · exact Decimal.unsigned_ne_nil _ (text.symm.trans empty)
      · exact noMinus (dash ▸ by decide)
      · exact noMinus (one ▸ by decide)

theorem parseLimitValue_limitText {toolkit : Toolkit} (documented : toolkit.Documented)
    (value : UInt32) :
    parseLimitValue toolkit (toolkit.strstrip (limitText value)) = some value := by
  have noSpace : ∀ byte ∈ limitText value, Decimal.isSpace byte = false :=
    fun byte member => Decimal.not_space_of_isDigit (isDigit_of_mem_limitText byte member)
  rw [documented.strips _ noSpace]
  exact parseLimitValue_of_shown documented.glib.strtoll value

/-! ## The store -/

def findProcessByPid (store : List Row) (pid : Int32) : Option Row :=
  store.find? fun row => row.pid = pid

def cachedLimits (store : List Row) (pid : Int32) : RateLimitConfig :=
  match findProcessByPid store pid with
  | none => .unlimited
  | some row => row.limits

def updateRow (pid : Int32) (direction : Direction) (value : UInt32) :
    List Row → List Row
  | [] => []
  | row :: rows =>
      if row.pid = pid then row.setLimit direction value :: rows
      else row :: updateRow pid direction value rows

theorem findProcessByPid_updateRow_self (store : List Row) (pid : Int32)
    (direction : Direction) (value : UInt32) :
    findProcessByPid (updateRow pid direction value store) pid =
      (findProcessByPid store pid).map fun row => row.setLimit direction value := by
  induction store with
  | nil => rfl
  | cons row rows induction =>
      rw [updateRow]
      by_cases same : row.pid = pid
      · rw [if_pos same]
        simp [findProcessByPid, same]
      · rw [if_neg same]
        simp only [findProcessByPid, List.find?_cons, same, decide_false] at induction ⊢
        exact induction

theorem findProcessByPid_updateRow_of_ne {pid other : Int32} (different : other ≠ pid)
    (store : List Row) (direction : Direction) (value : UInt32) :
    findProcessByPid (updateRow pid direction value store) other =
      findProcessByPid store other := by
  induction store with
  | nil => rfl
  | cons row rows induction =>
      rw [updateRow]
      by_cases same : row.pid = pid
      · have notOther : row.pid ≠ other := fun equal => different (equal.symm.trans same)
        rw [if_pos same]
        simp [findProcessByPid, notOther]
      · rw [if_neg same]
        simp only [findProcessByPid, List.find?_cons] at induction ⊢
        rw [induction]

/-! ## The limits in force -/

/-- What packets of the process meet. -/
def inForce (world : World) (pid : Int32) : RateLimitConfig where
  uploadKbps := (standingLimits world.kernel pid).uploadKbps
  downloadKbps := (standingLimits world.kernel pid).downloadKbps

/-- What `handle_limit_cmd` calls for numbers in range. -/
def handleLimit (pid : Int32) (config : RateLimitConfig) : ClientProgram RatelimitCode :=
  changeLimitBy Monitor.unregisterRateLimiterByPid Monitor.limitProcessBandwidth pid config

def libraryIn (world : World) (found : Except DiscoveryFailure (List ProcessInfo)) :
    Library where
  getNetworkProcesses := found
  getRateLimitsFromCgroup := world.read
  unregisterRateLimiterByPid := fun pid =>
    (World.execute .none (Monitor.unregisterRateLimiterByPid pid) world).1
  limitProcessBandwidth := fun pid config =>
    (World.execute .none (Monitor.limitProcessBandwidth pid config) world).1
  ratelimitCleanupAll := (World.execute .none Monitor.ratelimitCleanupAll world).1

section HandleLimit

variable {world : World} {pid : Int32} {config : RateLimitConfig}

theorem inForce_of_affects {before after : World} {pids : Set Int32}
    (affects : Affects pids before.kernel after.kernel) {other : Int32}
    (outside : other ∉ pids) : inForce after other = inForce before other := by
  rw [inForce, standingLimits_of_affects affects outside]
  rfl

structure Enforces (pid : Int32) (config : RateLimitConfig) (before after : World) :
    Prop where
  sound : Sound after
  limits : inForce after pid = config
  others : ∀ other, other ≠ pid → inForce after other = inForce before other

theorem enforces_limitProcessBandwidth (sound : Sound world)
    (ok : (World.execute .none (Monitor.limitProcessBandwidth pid config) world).1 =
      .ok) :
    Enforces pid config world
      (World.execute .none (Monitor.limitProcessBandwidth pid config) world).2 := by
  rcases (ok_limitProcessBandwidth_iff .none world pid config sound.settled).mp ok with
    ⟨positive, running, _⟩
  have sets := sets_limitProcessBandwidth sound positive running config
  constructor
  · exact sets.sound sound running
  · change inForce (world.call (.limitProcessBandwidth pid config)) pid = config
    simp [inForce, standingLimits, positive, sets.hasCgroup, sets.slots,
      limit_installed_empty, RateLimitConfig.limit]
  · intro other different
    exact inForce_of_affects sets.affects different

theorem enforces_unregisterRateLimiterByPid (sound : Sound world) (pid : Int32) :
    Enforces pid .unlimited world
      (World.execute .none (Monitor.unregisterRateLimiterByPid pid) world).2 := by
  have unsets := unsets_unregisterRateLimiterByPid sound pid
  constructor
  · exact unsets.sound sound
  · have absent : standingLimits (world.call (.unregisterRateLimiterByPid pid)).kernel
        pid = .absent := standingLimits_of_absent unsets.hasCgroup
    change inForce (world.call (.unregisterRateLimiterByPid pid)) pid = _
    rw [inForce, absent]
    rfl
  · intro other different
    exact inForce_of_affects unsets.affects different

theorem enforces_handleLimit (sound : Sound world)
    (ok : (World.execute .none (handleLimit pid config) world).1 = .ok) :
    Enforces pid config world (World.execute .none (handleLimit pid config) world).2 := by
  rw [handleLimit, changeLimitBy, World.execute_ite] at ok ⊢
  by_cases unlimited : config = .unlimited
  · rw [if_pos unlimited] at ok ⊢
    subst unlimited
    have enforces := enforces_unregisterRateLimiterByPid sound pid
    rw [World.execute_bind] at ok ⊢
    split <;> exact enforces
  · rw [if_neg unlimited] at ok ⊢
    exact enforces_limitProcessBandwidth sound ok

end HandleLimit

end Pidnl.Gui
