import Pidnl.System.State

/-! # `ratelimit.c`

The functions of `ratelimit.c` up to their calls into the monitor. A
`struct cgroup *` is the name it was made for; freeing one has no effect here.
-/

namespace Pidnl.Ratelimit

open Pidnl.Foundation Pidnl.System

def RATELIMIT_UNLIMITED : UInt32 := 0xFFFFFFFF

/-- `ratelimit_code`. -/
inductive RatelimitCode
  | ok
  | invalidPid
  | alloc
  | openCgroup
  | bpfOpen
  | bpfLoad
  | bpfLink
  | bpfPin
  | cgroupNotFound
  | libcgInit
  | libcgCreate
  | libcgAttach
  | libcgDelete
  | noCgroup2
  | noBpffs
deriving DecidableEq, Repr

structure RateLimitConfig where
  uploadKbps : UInt32
  downloadKbps : UInt32
deriving DecidableEq, Repr

namespace RateLimitConfig

/-- The limits of the `directions` table. -/
def limit (config : RateLimitConfig) : AttachType → UInt32
  | .egress => config.uploadKbps
  | .ingress => config.downloadKbps

def unlimited : RateLimitConfig where
  uploadKbps := RATELIMIT_UNLIMITED
  downloadKbps := RATELIMIT_UNLIMITED

end RateLimitConfig

/-! ## Names -/

/-- `CGROUP_NAME` -/
def cgroupRoot : Bytes := ascii "pidnl"

def buildCgroupName (pid : Int32) : Path :=
  [cgroupRoot, Decimal.signed pid.toInt]

def pinDirectory (root : Path) (pid : Int32) : Path :=
  root ++ [cgroupRoot, Decimal.signed pid.toInt]

def pinPath (root : Path) (pid : Int32) (attachType : AttachType) : Path :=
  pinDirectory root pid ++ [attachType.pinName]

/-! ## Calls -/

abbrev ask (call : KernelCall Reply) : KernelProgram Reply := .request call

def openCgroupFd (name : Path) : KernelProgram (Option Fd) :=
  Program.inside .openCgroupFd do
    match ← ask .getCgroup2Mount with
    | none => return none
    | some mount => ask (.openReadOnly (mount ++ name))

def createCgroup (name : Path) : KernelProgram RatelimitCode :=
  Program.inside (.createCgroup name) do
    if !(← ask (.cgroupNewCgroup name)) then
      return .libcgCreate
    if (← ask (.cgroupCreateCgroup name)) = .failed then
      return .libcgCreate
    return .ok

def createPinDir (pid : Int32) : KernelProgram (Except RatelimitCode Path) :=
  Program.inside .createPinDir do
    match ← ask .getBpffsMount with
    | none => return .error .noBpffs
    | some root =>
      let base := root ++ [cgroupRoot]
      let pinDir := pinDirectory root pid
      if (← Program.inside .makeBase (ask (.mkdir base))) = .failed then
        return .error .bpfPin
      if (← Program.inside .makePinDir (ask (.mkdir pinDir))) = .failed then
        return .error .bpfPin
      return .ok pinDir

/-- One turn of the loop of `detach_pinned_links`. -/
def detachPinnedLink (root : Path) (pid : Int32) (attachType : AttachType) :
    KernelProgram Unit :=
  Program.inside (.direction attachType) do
    let path := pinPath root pid attachType
    match ← ask (.bpfObjGet path) with
    | none => ask (.unlink path)
    | some fd =>
      ask (.bpfLinkDetach fd)
      ask (.close fd)
      ask (.unlink path)

def detachPinnedLinks (pid : Int32) : KernelProgram Unit :=
  Program.inside .detachPinnedLinks do
    match ← ask .getBpffsMount with
    | none => return ()
    | some root =>
      detachPinnedLink root pid .egress
      detachPinnedLink root pid .ingress
      ask (.rmdir (pinDirectory root pid))

/-- The cgroup is never null where this is called; without a descriptor the pins
are left alone. -/
def deleteCgroup (name : Path) (cgroupFd : Option Fd) (pid : Int32) :
    KernelProgram Unit :=
  Program.inside .deleteCgroup do
    match cgroupFd with
    | none =>
      let _ ← ask (.cgroupDeleteCgroup name)
      return ()
    | some fd =>
      detachPinnedLinks pid
      ask (.close fd)
      let _ ← ask (.cgroupDeleteCgroup name)
      return ()

/-- One turn of the loop of `attach_bpf_programs`. -/
def attachDirection (skel : Skeleton) (cgroupFd : Fd) (pinDir : Path)
    (config : RateLimitConfig) (attachType : AttachType) :
    KernelProgram RatelimitCode :=
  Program.inside (.direction attachType) do
    if config.limit attachType = RATELIMIT_UNLIMITED then
      return .ok
    if !(← ask (.bpfMapUpdateElem skel.rateLimitsFd attachType.direction.key
        (config.limit attachType))) then
      ask (.ratelimitBpfDestroy (some skel))
      return .bpfLoad
    match ← ask (.bpfProgramAttachCgroup skel attachType cgroupFd) with
    | none =>
      ask (.ratelimitBpfDestroy (some skel))
      return .bpfLink
    | some link =>
      let pinned ← ask (.bpfLinkPin link (pinDir ++ [attachType.pinName]))
      ask (.bpfLinkDestroy link)
      if !pinned then
        ask (.ratelimitBpfDestroy (some skel))
        return .bpfPin
      return .ok

def attachBpfPrograms (cgroupFd : Fd) (pinDir : Path) (config : RateLimitConfig) :
    KernelProgram (Except RatelimitCode Skeleton) :=
  Program.inside .attachBpfPrograms do
    if !(← ask .ratelimitBpfOpen) then
      return .error .bpfOpen
    match ← ask .ratelimitBpfLoad with
    | none =>
      ask (.ratelimitBpfDestroy none)
      return .error .bpfLoad
    | some skel =>
      let egress ← attachDirection skel cgroupFd pinDir config .egress
      if egress ≠ .ok then
        return .error egress
      let ingress ← attachDirection skel cgroupFd pinDir config .ingress
      if ingress ≠ .ok then
        return .error ingress
      return .ok skel

def deletePidCgroup (pid : Int32) : KernelProgram RatelimitCode :=
  Program.inside (.deletePidCgroup pid) do
    let name := buildCgroupName pid
    if !(← ask (.cgroupNewCgroup name)) then
      return .libcgDelete
    if !(← ask (.cgroupGetCgroup name)) then
      return .cgroupNotFound
    match ← openCgroupFd name with
    | none => return .cgroupNotFound
    | some cgroupFd =>
      deleteCgroup name (some cgroupFd) pid
      return .ok

/-- `limit_process_bandwidth` from the allocation of the limiter to
`close_rate_limiter_handle`. -/
def replaceLinks (pid : Int32) (cgroupFd : Fd) (config : RateLimitConfig) :
    KernelProgram RatelimitCode := do
  let name := buildCgroupName pid
  if !(← ask .calloc) then
    deleteCgroup name (some cgroupFd) pid
    return .alloc
  detachPinnedLinks pid
  match ← createPinDir pid with
  | .error code =>
    deleteCgroup name (some cgroupFd) pid
    return code
  | .ok pinDir =>
    match ← attachBpfPrograms cgroupFd pinDir config with
    | .error code =>
      deleteCgroup name (some cgroupFd) pid
      return code
    | .ok skel =>
      ask (.close cgroupFd)
      ask (.ratelimitBpfDestroy (some skel))
      return .ok

/-- `limit_process_bandwidth` up to its call of `monitor_watch_pid`. -/
def installLimit (pid : Int32) (config : RateLimitConfig) :
    KernelProgram RatelimitCode := do
  if pid ≤ 0 then
    return .invalidPid
  let parent ← createCgroup [cgroupRoot]
  if parent ≠ .ok then
    return parent
  let name := buildCgroupName pid
  let child ← createCgroup name
  if child ≠ .ok then
    return child
  if !(← ask (.cgroupAttachTaskPid name pid)) then
    deleteCgroup name none pid
    return .libcgAttach
  match ← openCgroupFd name with
  | none =>
    deleteCgroup name none pid
    return .openCgroup
  | some cgroupFd => replaceLinks pid cgroupFd config

/-- The loop body of `ratelimit_cleanup_all`: names that are not the decimal of a
pid are passed over. -/
def cleanupEntry (info : FileInfo) : KernelProgram Unit := do
  if info.isDir ∧ info.path ≠ [] then
    let pidLong := Decimal.strtol info.path
    if pidLong.outOfRange ∨ pidLong.rest ≠ [] ∨ pidLong.value ≤ 0 ∨
        pidLong.value > 2 ^ 31 - 1 then
      return ()
    let _ ← deletePidCgroup (Int32.ofInt pidLong.value)
    return ()

def cleanupEntries : List FileInfo → KernelProgram Unit
  | [] => return ()
  | info :: infos => do
    cleanupEntry info
    cleanupEntries infos

/-- `ratelimit_cleanup_all` up to its call of `monitor_stop`, which is made if
the second component says so. -/
def cleanupCgroups : KernelProgram (RatelimitCode × Bool) := do
  if !(← ask (.cgroupNewCgroup [cgroupRoot])) then
    return (.ok, false)
  if !(← ask (.cgroupGetCgroup [cgroupRoot])) then
    return (.ok, false)
  let infos ← ask (.cgroupWalkTree [cgroupRoot])
  cleanupEntries infos
  if !(← ask (.cgroupDeleteCgroup [cgroupRoot])) then
    return (.libcgDelete, false)
  return (.ok, true)

/-! ## Reading limits back -/

/-- The loop of `read_limit_from_cgroup_progs` over the program's maps. -/
def readLimitFromMaps (attachType : AttachType) :
    List (ObjectId × MapKind) → KernelProgram (Option UInt32)
  | [] => return none
  | map :: maps => do
    let found ← Program.inside (.map map.2) do
      match ← ask (.bpfMapGetFdById map) with
      | none => return none
      | some mapFd =>
        let name ← ask (.bpfMapGetInfoByFd mapFd)
        if name = some (ascii "rate_limits") then
          let value ← ask (.bpfMapLookupElem mapFd attachType.direction.key)
          ask (.close mapFd)
          return value
        ask (.close mapFd)
        return none
    match found with
    | some value => return some value
    | none => readLimitFromMaps attachType maps

def readLimitFromCgroupProgs (cgroupFd : Fd) (attachType : AttachType) :
    KernelProgram (Option UInt32) :=
  Program.inside (.readLimitFromCgroupProgs attachType) do
    match ← ask (.bpfProgQueryOpts cgroupFd attachType) with
    | none | some none => return none
    | some (some prog) =>
      match ← ask (.bpfProgGetFdById prog) with
      | none => return none
      | some progFd =>
        match ← ask (.bpfProgGetInfoByFd progFd) with
        | none =>
          ask (.close progFd)
          return none
        | some info =>
          if info.name ≠ attachType.progName then
            ask (.close progFd)
            return none
          let value ← readLimitFromMaps attachType info.mapIds
          ask (.close progFd)
          return value

/-- The result of `get_rate_limits_from_cgroup` and its two out parameters. -/
structure RateLimitsRead where
  result : Int32
  uploadKbps : UInt32
  downloadKbps : UInt32
deriving DecidableEq, Repr

def RateLimitsRead.absent : RateLimitsRead where
  result := -1
  uploadKbps := RATELIMIT_UNLIMITED
  downloadKbps := RATELIMIT_UNLIMITED

def getRateLimitsFromCgroup (pid : Int32) : KernelProgram RateLimitsRead := do
  if pid ≤ 0 then
    return .absent
  match ← openCgroupFd (buildCgroupName pid) with
  | none => return .absent
  | some cgroupFd =>
    let upload ← readLimitFromCgroupProgs cgroupFd .egress
    let download ← readLimitFromCgroupProgs cgroupFd .ingress
    ask (.close cgroupFd)
    return { result := 0
             uploadKbps := upload.getD RATELIMIT_UNLIMITED
             downloadKbps := download.getD RATELIMIT_UNLIMITED }

end Pidnl.Ratelimit
