import Pidnl.Ratelimit.Functions
import Pidnl.System.Descriptors

/-! # Descriptors of `ratelimit.c`

Each function closes the descriptors that it opens or is handed, whichever of its calls
fail, and no others.
-/

namespace Pidnl.Ratelimit

open Pidnl.Foundation Pidnl.Foundation.Program Pidnl.System

/-! ## Single calls -/

section Asking

variable {held : Multiset Fd} {post : α → Multiset Fd}

theorem owns_ask {call : KernelCall Reply} {next : Reply → KernelProgram α}
    (closesNone : call.closes = 0) (opensNone : ∀ reply, call.opens reply = 0)
    (rest : ∀ reply, OwnsFds (next reply) held post) :
    OwnsFds (ask call >>= next) held post :=
  owns_quiet_bind closesNone opensNone rest

theorem owns_close {next : Unit → KernelProgram α} {fd : Fd}
    (rest : ∀ reply, OwnsFds (next reply) 0 post) :
    OwnsFds (ask (.close fd) >>= next) {fd} post :=
  owns_close_bind 0 (add_zero _).symm (fun _ => rfl) rest

theorem closes_ask {call : KernelCall Reply} (closesNone : call.closes = 0)
    (opensNone : ∀ reply, call.opens reply = 0) : ClosesFds (ask call) :=
  balances_request closesNone opensNone

end Asking

/-! ## Cgroups and pins -/

theorem owns_openCgroupFd (name : Path) : OwnsFds (openCgroupFd name) 0 holding := by
  rw [openCgroupFd, OwnsFds, owns_inside]
  apply owns_ask rfl fun _ => rfl
  intro mount
  cases mount with
  | none => exact owns_pure none holding
  | some mount => exact owns_request

theorem closes_createCgroup (name : Path) : ClosesFds (createCgroup name) := by
  rw [createCgroup, ClosesFds, Balances, owns_inside]
  apply owns_ask rfl fun _ => rfl
  intro made
  split
  · exact balances_pure _
  apply owns_ask rfl fun _ => rfl
  intro reply
  split
  · exact balances_pure _
  · exact balances_pure _

theorem closes_createPinDir (pid : Int32) : ClosesFds (createPinDir pid) := by
  rw [createPinDir, ClosesFds, Balances, owns_inside]
  apply owns_ask rfl fun _ => rfl
  intro mount
  cases mount with
  | none => exact balances_pure _
  | some root =>
      apply Owns.then ((owns_inside _).mpr (closes_ask rfl fun _ => rfl))
      intro base
      split
      · exact balances_pure _
      apply Owns.then ((owns_inside _).mpr (closes_ask rfl fun _ => rfl))
      intro pinDir
      split
      · exact balances_pure _
      · exact balances_pure _

theorem closes_detachPinnedLink (root : Path) (pid : Int32) (attachType : AttachType) :
    ClosesFds (detachPinnedLink root pid attachType) := by
  rw [detachPinnedLink, ClosesFds, Balances, owns_inside]
  apply owns_open_bind rfl
  intro link
  rw [add_zero]
  cases link with
  | none => exact closes_ask rfl fun _ => rfl
  | some fd =>
      apply owns_ask rfl fun _ => rfl
      intro detached
      apply owns_close
      intro closed
      exact closes_ask rfl fun _ => rfl

theorem closes_detachPinnedLinks (pid : Int32) : ClosesFds (detachPinnedLinks pid) := by
  rw [detachPinnedLinks, ClosesFds, Balances, owns_inside]
  apply owns_ask rfl fun _ => rfl
  intro mount
  cases mount with
  | none => exact balances_pure _
  | some root =>
      apply (closes_detachPinnedLink root pid .egress).then
      intro egress
      apply (closes_detachPinnedLink root pid .ingress).then
      intro ingress
      exact closes_ask rfl fun _ => rfl

/-- `delete_cgroup` closes the descriptor that it is handed. -/
theorem owns_deleteCgroup (name : Path) (cgroupFd : Option Fd) (pid : Int32) :
    OwnsFds (deleteCgroup name cgroupFd pid) (holding cgroupFd) fun _ => 0 := by
  cases cgroupFd with
  | none =>
      rw [deleteCgroup, OwnsFds, owns_inside]
      apply owns_ask rfl fun _ => rfl
      intro deleted
      exact balances_pure _
  | some fd =>
      rw [deleteCgroup, OwnsFds, owns_inside]
      apply (closes_detachPinnedLinks pid).then
      intro detached
      apply owns_close
      intro closed
      apply owns_ask rfl fun _ => rfl
      intro deleted
      exact balances_pure _

theorem closes_deletePidCgroup (pid : Int32) : ClosesFds (deletePidCgroup pid) := by
  rw [deletePidCgroup, ClosesFds, Balances, owns_inside]
  apply owns_ask rfl fun _ => rfl
  intro made
  split
  · exact balances_pure _
  apply owns_ask rfl fun _ => rfl
  intro got
  split
  · exact balances_pure _
  apply (owns_openCgroupFd _).bind
  intro opened
  cases opened with
  | none => exact balances_pure _
  | some cgroupFd =>
      apply (owns_deleteCgroup _ (some cgroupFd) pid).bind
      intro deleted
      exact balances_pure _

theorem closes_cleanupEntries (infos : List FileInfo) : ClosesFds (cleanupEntries infos) := by
  induction infos with
  | nil => exact balances_pure _
  | cons info infos induction =>
      have closesEntry : ClosesFds (cleanupEntry info) := by
        rw [cleanupEntry]
        split
        · simp only
          split
          · exact balances_pure _
          · exact (closes_deletePidCgroup _).then fun _ => balances_pure _
        · exact balances_pure _
      exact closesEntry.then fun _ => induction

theorem closes_cleanupCgroups : ClosesFds cleanupCgroups := by
  rw [cleanupCgroups]
  apply owns_ask rfl fun _ => rfl
  intro made
  split
  · exact balances_pure _
  apply owns_ask rfl fun _ => rfl
  intro got
  split
  · exact balances_pure _
  apply owns_ask rfl fun _ => rfl
  intro infos
  apply (closes_cleanupEntries infos).then
  intro cleaned
  apply owns_ask rfl fun _ => rfl
  intro deleted
  split
  · exact balances_pure _
  · exact balances_pure _

/-! ## Programs and links -/

/-- The skeleton belongs to the caller if the direction is attached. -/
def attachedFds (skel : Skeleton) (code : RatelimitCode) : Multiset Fd :=
  if code = .ok then skel.fds else 0

theorem owns_destroy {skel : Skeleton} {next : Unit → KernelProgram α}
    {post : α → Multiset Fd} (rest : ∀ reply, OwnsFds (next reply) 0 post) :
    OwnsFds (ask (.ratelimitBpfDestroy (some skel)) >>= next) skel.fds post :=
  owns_close_bind 0 (add_zero _).symm (fun _ => rfl) rest

theorem owns_destroy_fail {skel : Skeleton} {code : RatelimitCode} (fails : code ≠ .ok) :
    OwnsFds (do ask (.ratelimitBpfDestroy (some skel)); return code) skel.fds
      (attachedFds skel) := by
  apply owns_destroy
  intro destroyed
  exact (if_neg fails).symm

theorem owns_attachDirection (skel : Skeleton) (cgroupFd : Fd) (pinDir : Path)
    (config : RateLimitConfig) (attachType : AttachType) :
    OwnsFds (attachDirection skel cgroupFd pinDir config attachType) skel.fds
      (attachedFds skel) := by
  rw [attachDirection, OwnsFds, owns_inside]
  split
  · exact (if_pos rfl).symm
  apply owns_ask rfl fun _ => rfl
  intro updated
  split
  · exact owns_destroy_fail (by decide)
  apply owns_open_bind rfl
  intro attached
  cases attached with
  | none =>
      have kept : kernelHandling.opens (.bpfProgramAttachCgroup skel attachType cgroupFd)
        none + skel.fds = skel.fds := zero_add _
      rw [kept]
      exact owns_destroy_fail (by decide)
  | some link =>
      apply owns_ask rfl fun _ => rfl
      intro pinned
      apply owns_close_bind skel.fds rfl fun _ => rfl
      intro destroyed
      split
      · exact owns_destroy_fail (by decide)
      · exact (if_pos rfl).symm

def limiterFds : Except RatelimitCode Skeleton → Multiset Fd
  | .ok skel => skel.fds
  | .error _ => 0

theorem owns_attachBpfPrograms (cgroupFd : Fd) (pinDir : Path) (config : RateLimitConfig) :
    OwnsFds (attachBpfPrograms cgroupFd pinDir config) 0 limiterFds := by
  rw [attachBpfPrograms, OwnsFds, owns_inside]
  apply owns_ask rfl fun _ => rfl
  intro opened
  split
  · exact owns_pure (.error RatelimitCode.bpfOpen) limiterFds
  apply owns_open_bind rfl
  intro loaded
  rw [add_zero]
  cases loaded with
  | none =>
      apply owns_ask rfl fun _ => rfl
      intro destroyed
      exact owns_pure (.error RatelimitCode.bpfLoad) limiterFds
  | some skel =>
      apply (owns_attachDirection skel cgroupFd pinDir config .egress).bind
      intro egress
      by_cases first : egress = .ok
      swap
      · rw [attachedFds, if_neg first, if_pos first]
        exact owns_pure (.error egress) limiterFds
      rw [attachedFds, if_pos first, if_neg (not_not.mpr first)]
      apply (owns_attachDirection skel cgroupFd pinDir config .ingress).bind
      intro ingress
      by_cases second : ingress = .ok
      · rw [attachedFds, if_pos second, if_neg (not_not.mpr second)]
        exact owns_pure (.ok skel) limiterFds
      · rw [attachedFds, if_neg second, if_pos second]
        exact owns_pure (.error ingress) limiterFds

/-! ## Setting a limit -/

/-- The descriptor of the cgroup is closed on every way out. -/
theorem owns_replaceLinks (pid : Int32) (cgroupFd : Fd) (config : RateLimitConfig) :
    OwnsFds (replaceLinks pid cgroupFd config) {cgroupFd} fun _ => 0 := by
  have undoes : ∀ code : RatelimitCode,
      OwnsFds (do deleteCgroup (buildCgroupName pid) (some cgroupFd) pid; return code)
        {cgroupFd} fun _ => 0 := by
    intro code
    apply (owns_deleteCgroup _ (some cgroupFd) pid).bind
    intro deleted
    exact balances_pure _
  rw [replaceLinks]
  apply owns_ask rfl fun _ => rfl
  intro allocated
  split
  · exact undoes .alloc
  apply (closes_detachPinnedLinks pid).then
  intro detached
  apply (closes_createPinDir pid).then
  intro made
  cases made with
  | error code => exact undoes code
  | ok pinDir =>
      have attaches := (owns_attachBpfPrograms cgroupFd pinDir config).frame {cgroupFd}
      rw [zero_add] at attaches
      apply attaches.bind
      intro attached
      cases attached with
      | error code =>
          have kept : limiterFds (.error code) + {cgroupFd} = {cgroupFd} := zero_add _
          rw [kept]
          exact undoes code
      | ok skel =>
          apply owns_close_bind skel.fds (add_comm _ _) fun _ => rfl
          intro closed
          apply owns_destroy
          intro destroyed
          exact balances_pure _

theorem closes_installLimit (pid : Int32) (config : RateLimitConfig) :
    ClosesFds (installLimit pid config) := by
  rw [installLimit]
  split
  · exact balances_pure _
  apply (closes_createCgroup _).then
  intro parent
  split
  · exact balances_pure _
  apply (closes_createCgroup _).then
  intro child
  split
  · exact balances_pure _
  apply owns_ask rfl fun _ => rfl
  intro joined
  split
  · apply (owns_deleteCgroup _ none pid).bind
    intro deleted
    exact balances_pure _
  apply (owns_openCgroupFd _).bind
  intro opened
  cases opened with
  | none =>
      apply (owns_deleteCgroup _ none pid).bind
      intro deleted
      exact balances_pure _
  | some cgroupFd => exact owns_replaceLinks pid cgroupFd config

/-! ## Reading limits back -/

theorem closes_readLimitFromMaps (attachType : AttachType) (maps : List (ObjectId × MapKind)) :
    ClosesFds (readLimitFromMaps attachType maps) := by
  induction maps with
  | nil => exact balances_pure _
  | cons map maps induction =>
      rw [readLimitFromMaps]
      apply Owns.then
      · rw [Balances, owns_inside]
        apply owns_open_bind rfl
        intro opened
        rw [add_zero]
        cases opened with
        | none => exact balances_pure _
        | some mapFd =>
            apply owns_ask rfl fun _ => rfl
            intro name
            split
            · apply owns_ask rfl fun _ => rfl
              intro value
              apply owns_close
              intro closed
              exact balances_pure _
            · apply owns_close
              intro closed
              exact balances_pure _
      · intro found
        cases found with
        | none => exact induction
        | some value => exact balances_pure _

theorem closes_readLimitFromCgroupProgs (cgroupFd : Fd) (attachType : AttachType) :
    ClosesFds (readLimitFromCgroupProgs cgroupFd attachType) := by
  rw [readLimitFromCgroupProgs, ClosesFds, Balances, owns_inside]
  apply owns_ask rfl fun _ => rfl
  intro queried
  rcases queried with _ | _ | prog
  · exact balances_pure _
  · exact balances_pure _
  apply owns_open_bind rfl
  intro opened
  rw [add_zero]
  cases opened with
  | none => exact balances_pure _
  | some progFd =>
      apply owns_ask rfl fun _ => rfl
      intro read
      cases read with
      | none =>
          apply owns_close
          intro closed
          exact balances_pure _
      | some info =>
          dsimp only
          split
          · apply owns_close
            intro closed
            exact balances_pure _
          · apply (closes_readLimitFromMaps attachType info.mapIds).then
            intro value
            apply owns_close
            intro closed
            exact balances_pure _

theorem closes_getRateLimitsFromCgroup (pid : Int32) :
    ClosesFds (getRateLimitsFromCgroup pid) := by
  rw [getRateLimitsFromCgroup]
  split
  · exact balances_pure _
  apply (owns_openCgroupFd _).bind
  intro opened
  cases opened with
  | none => exact balances_pure _
  | some cgroupFd =>
      apply (closes_readLimitFromCgroupProgs cgroupFd .egress).then
      intro upload
      apply (closes_readLimitFromCgroupProgs cgroupFd .ingress).then
      intro download
      apply owns_close
      intro closed
      exact balances_pure _

end Pidnl.Ratelimit
