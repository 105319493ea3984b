import Cuddl.Kernel.Lookup
import Cuddl.Kernel.Refs
import Cuddl.Kernel.Register

/-!
# The manager ioctl

`cuddlk_manager_ioctl`, command by command, with the failures of the calls it makes as an argument
(`IoFaults`).  The CLAIM and INFO commands of both kinds are one function, as they are one block
of fall-through cases in the source; so are RELEASE, GET_ID, REF_COUNT and DECREMENT.
-/

namespace Cuddl

open Foundation.CString

/-! ## Version codes and strings -/

/-- `CUDDLCI_VERSION` -/
def versionCode (major minor revision : Int32) : Int32 :=
  (major <<< 16) ||| (minor <<< 8) ||| revision

/-- `CUDDLK_VERSION_CODE` -/
def kernelVersionCode : Int32 :=
  versionCode 1 0 0

def majorVersionFromCode (code : Int32) : Int32 :=
  code >>> 16

/-- `_version_code_is_compat` -/
def versionCodeIsCompat (userVersionCode : Int32) : Bool :=
  let user := majorVersionFromCode userVersionCode
  let kernel := majorVersionFromCode kernelVersionCode
  user == kernel || (user == 0 && kernel == 1) || (user == 1 && kernel == 0)

/-- `snprintf(dst, CUDDLCI_MAX_STR_LEN, ...)`: the string that ends up in `dst`. -/
def snprintf (s : List UInt8) : List UInt8 :=
  s.take (maxStrLen - 1)

/-- `strncpy(dst, s, CUDDLCI_MAX_STR_LEN)`: the whole destination field. -/
def strncpyField (s : List UInt8) : List UInt8 :=
  s.take maxStrLen ++ List.replicate (maxStrLen - s.length) 0

/-- `cuddlk_get_commit_id`: the string left in `id_str`; `none` when nothing is written.
`remaining_space` is an `int`. -/
def getCommitId (cfg : Config) (idLen : UInt64) : Option (List UInt8) :=
  if idLen = 0 then none
  else
    -- `strncat` of the commit hash, then of the dirty mark into what is left
    let remaining := (idLen - 1).toUInt32.toInt32
    if remaining ≤ 0 then some []
    else
      let s := cfg.commitHash.take remaining.toInt.toNat
      let remaining := (idLen - UInt64.ofNat (strnlen s idLen.toNat) - 1).toUInt32.toInt32
      if remaining ≤ 0 then some s
      else some (s ++ (if cfg.repoIsDirty then ascii "(M)" else []).take remaining.toInt.toNat)

/-- `CUDDLK_VARIANT` -/
def variant (cfg : Config) : List UInt8 :=
  if cfg.useUdd then ascii "Xenomai UDD" else ascii "Linux UIO"

/-! ## Requests and replies -/

/-- What user space passes to the CLAIM and INFO commands. -/
structure ClaimData where
  versionCode : Int32
  id : ResourceId
  pid : Pid
  options : BitVec 32

/-- What user space passes to the RELEASE commands; the token is the caller's. -/
structure ReleaseData where
  versionCode : Int32
  deviceIndex : Int
  resourceIndex : Int
  pid : Pid

/-- One command with its data.  `rt` selects the UDD variant of a command. -/
inductive Request
  | claim (k : ResourceKind) (rt : Bool) (data : ClaimData)
  | info (k : ResourceKind) (data : ClaimData)
  | release (k : ResourceKind) (rt : Bool) (data : ReleaseData)
  | getMaxManagedDevices (versionCode : Int32)
  | getMaxDevMemRegions (versionCode : Int32)
  | getMaxDevEvents (versionCode : Int32)
  | getId (k : ResourceKind) (versionCode : Int32) (deviceSlot resourceSlot : Int)
  | getRefCount (k : ResourceKind) (versionCode : Int32) (id : ResourceId)
  | decrementRefCount (k : ResourceKind) (versionCode : Int32) (id : ResourceId)
  | janitorRegisterPid
  | getKernelCommitId (versionCode : Int32)
  | getDriverInfo (versionCode : Int32) (deviceSlot : Int)
  | getHwInfo (versionCode : Int32) (deviceSlot : Int)
  | getKernelVersionCode (versionCode : Int32)
  | getKernelVariant (versionCode : Int32)
  | eventsrcIsEnabled (versionCode : Int32) (deviceIndex resourceIndex : Int)
  | unknown

structure MemregionInfo where
  token : Token .memregion
  len : UInt64
  flags : BitVec 32
  paLen : UInt64
  startOffset : UInt64
  paMmapOffset : UInt64
  deviceName : List UInt8

structure EventsrcInfo where
  token : Token .eventsrc
  flags : BitVec 32
  deviceName : List UInt8

/-- What a successful `copy_to_user` writes back. -/
inductive Reply
  | memregionInfo (info : MemregionInfo)
  | eventsrcInfo (info : EventsrcInfo)
  | resourceId (id : ResourceId)
  | idStr (s : List UInt8)
  | infoStr (s : List UInt8)

/-- Which of the calls made by one ioctl fail, and what the driver's routine returns. -/
structure IoFaults where
  /-- One of the ten `kzalloc` calls at the start. -/
  kzallocFails : Bool
  copyFromUserFails : Bool
  copyToUserFails : Bool
  /-- The `kzalloc` of the reference list entry. -/
  refAllocFails : Bool
  /-- What `is_enabled` returns for the event source of a device. -/
  isEnabled : DevPtr → Int

/-- `reply` is what user space finds in its buffer; a failing `copy_to_user` leaves nothing
that can be relied on there. -/
structure IoctlResult where
  ret : Int
  state : KernelState
  reply : Option Reply

/-! ## Claim and info -/

/-- `CUDDL_MEM_CLAIMF_HOSTILE` and `CUDDL_EVENTSRC_CLAIMF_HOSTILE` -/
def claimfHostile : BitVec 32 := 1

def ClaimData.hostile (data : ClaimData) : Bool :=
  data.options &&& claimfHostile != 0

def uioNodeName (dev : Device) : List UInt8 :=
  ascii "/dev/uio" ++ decimal ((dev.priv.uio.uioDev.map UioDevice.minor).getD 0)

/-- `dev->priv.unique_name` under `"%s"` -/
def uniqueNameChars (dev : Device) : List UInt8 :=
  dev.priv.uniqueName.getD (ascii "(null)")

def memregionInfo (cfg : Config) (dev : Device) (rt : Bool) (token : Token .memregion) :
    MemregionInfo :=
  let m := dev.mem token.resourceIndex
  { token := token
    len := m.len
    flags := if m.flags &&& memfShared != 0 then 1 else 0
    paLen := m.paLen
    startOffset := m.startOffset
    paMmapOffset := if rt then 0 else UInt64.ofNat token.resourceIndex * cfg.pageSize
    deviceName :=
      if rt then
        snprintf (ascii "/dev/rtdm/" ++ uniqueNameChars dev ++ ascii ",mapper" ++
          decimal token.resourceIndex)
      else snprintf (uioNodeName dev) }

def eventsrcInfo (dev : Device) (rt : Bool) (token : Token .eventsrc) : EventsrcInfo :=
  let e := dev.events token.resourceIndex
  let waitable : BitVec 32 := 2
  { token := token
    flags :=
      waitable ||| (if e.flags &&& eventsrcfShared != 0 then 1 else 0) |||
        (if e.intr.enable then 8 else 0) ||| (if e.intr.disable then 4 else 0) |||
        (if e.intr.isEnabled then 16 else 0)
    deviceName :=
      if rt then snprintf (ascii "/dev/rtdm/" ++ uniqueNameChars dev)
      else snprintf (uioNodeName dev) }

def infoReply (cfg : Config) (dev : Device) (rt : Bool) :
    (k : ResourceKind) → Token k → Reply
  | .memregion, token => .memregionInfo (memregionInfo cfg dev rt token)
  | .eventsrc, token => .eventsrcInfo (eventsrcInfo dev rt token)

/-- The token that a CLAIM or INFO reply carries. -/
def Reply.token? : (k : ResourceKind) → Reply → Option (Token k)
  | .memregion, .memregionInfo info => some info.token
  | .eventsrc, .eventsrcInfo info => some info.token
  | _, _ => none

/-- The CLAIM and INFO commands after the copy-in and the version check. -/
def ioctlClaimInfo (cfg : Config) (k : ResourceKind) (claim rt : Bool) (data : ClaimData)
    (io : IoFaults) (s : KernelState) : IoctlResult :=
  match managerLookup s k data.id with
  | none => ⟨-Errno.ENXIO, s, none⟩
  | some (slot, dev, i) =>
      let claimed := if claim then kindClaim k s dev i data.hostile else (0, s)
      if claimed.1 ≠ 0 then
        ⟨claimed.1, claimed.2, none⟩
      else
        let s := claimed.2
        let token : Token k := ⟨slot, i⟩
        let reply := infoReply cfg (s.heap dev) rt k token
        if io.copyToUserFails then
          -- this exit is shared with INFO, which has not incremented anything
          ⟨-Errno.EOVERFLOW, (kindDecrRefCount k s dev i).2, none⟩
        else if claim then
          if io.refAllocFails then
            -- user space has its answer already
            ⟨-Errno.ENOMEM, (kindDecrRefCount k s dev i).2, some reply⟩
          else
            ⟨0, s.setRefs k (⟨token, data.pid⟩ :: s.refs k), some reply⟩
        else
          ⟨0, s, some reply⟩

/-! ## Release, queries, and the whole function -/

/-- `(i < 0) || (i >= n)` is the failure. -/
def inRange (n : Nat) (i : Int) : Option (Fin n) :=
  if h : 0 ≤ i ∧ i.toNat < n then some ⟨i.toNat, h.2⟩ else none

/-- The RELEASE commands: the count goes down whether or not the list has an entry to strike. -/
def ioctlRelease (k : ResourceKind) (data : ReleaseData) (s : KernelState) : IoctlResult :=
  match inRange maxManagedDevices data.deviceIndex with
  | none => ⟨-Errno.EBADSLT, s, none⟩
  | some slot =>
      match s.devices slot with
      | none => ⟨-Errno.ENODEV, s, none⟩
      | some dev =>
          match inRange k.max data.resourceIndex with
          | none => ⟨-Errno.EBADSLT, s, none⟩
          | some i =>
              -- the return value of the decrement is not looked at
              let s := (kindDecrRefCount k s dev i).2
              ⟨0, s.setRefs k ((s.refs k).erase ⟨⟨slot, i⟩, data.pid⟩), none⟩

/-- The resource slot test of the GET_ID commands. -/
def slotIsEmpty (dev : Device) : ResIdx → Bool
  | ⟨.memregion, i⟩ => (dev.mem i).type == 0
  | ⟨.eventsrc, i⟩ => (dev.events i).intr.irq == irqNone

/-- The id of a resource as the GET_ID commands copy it; `none` is a `memcpy` from `NULL`. -/
def resourceIdOf (dev : Device) (x : ResIdx) : Option ResourceId :=
  match dev.group, dev.name, (dev.resource x).name with
  | some group, some name, some resource =>
      some
        { group := group.memcpy maxStrLen
          device := name.memcpy maxStrLen
          resource := resource.memcpy maxStrLen
          instanceId := dev.instanceId }
  | _, _, _ => none

/-- A command that writes data back. -/
def replyWith (reply : Reply) (io : IoFaults) (s : KernelState) : IoctlResult :=
  if io.copyToUserFails then ⟨-Errno.EOVERFLOW, s, none⟩ else ⟨0, s, some reply⟩

/-- The GET_ID commands. -/
def ioctlGetId (k : ResourceKind) (deviceSlot resourceSlot : Int) (io : IoFaults)
    (s : KernelState) : Option IoctlResult :=
  match inRange maxManagedDevices deviceSlot, inRange k.max resourceSlot with
  | none, _ => some ⟨-Errno.EBADSLT, s, none⟩
  | some _, none => some ⟨-Errno.EBADSLT, s, none⟩
  | some slot, some i =>
      match s.devices slot with
      | none => some ⟨-Errno.ENODEV, s, none⟩
      | some dev =>
          if slotIsEmpty (s.heap dev) ⟨k, i⟩ then
            some ⟨-Errno.EINVAL, s, none⟩
          else
            (resourceIdOf (s.heap dev) ⟨k, i⟩).map fun id => replyWith (.resourceId id) io s

/-- The REF_COUNT and DECREMENT commands after the copy-in and the version check. -/
def ioctlRefCount (k : ResourceKind) (decrement : Bool) (id : ResourceId) (s : KernelState) :
    IoctlResult :=
  match managerLookup s k id with
  | none => ⟨-Errno.ENXIO, s, none⟩
  | some (_, dev, i) =>
      if decrement then
        let r := kindDecrRefCount k s dev i
        ⟨r.1, r.2, none⟩
      else
        ⟨(s.heap dev).refCount ⟨k, i⟩, s, none⟩

/-- The `info_str` field for a driver or hardware info string. -/
def infoString (str : Option KStr) : List UInt8 :=
  strncpyField ((str.map KStr.chars).getD (ascii "UNKNOWN"))

/-- GET_DRIVER_INFO and GET_HW_INFO, which differ in the string they return. -/
def ioctlInfoString (field : Device → Option KStr) (deviceSlot : Int) (io : IoFaults)
    (s : KernelState) : IoctlResult :=
  match inRange maxManagedDevices deviceSlot with
  | none => ⟨-Errno.EBADSLT, s, none⟩
  | some slot =>
      match s.devices slot with
      | none => ⟨-Errno.ENODEV, s, none⟩
      | some dev => replyWith (.infoStr (infoString (field (s.heap dev)))) io s

def ioctlEventsrcIsEnabled (deviceIndex resourceIndex : Int) (io : IoFaults) (s : KernelState) :
    IoctlResult :=
  match inRange maxManagedDevices deviceIndex with
  | none => ⟨-Errno.EBADSLT, s, none⟩
  | some slot =>
      match s.devices slot with
      | none => ⟨-Errno.ENODEV, s, none⟩
      | some dev =>
          match inRange (ResourceKind.max .eventsrc) resourceIndex with
          | none => ⟨-Errno.EBADSLT, s, none⟩
          | some i =>
              if ((s.heap dev).events i).intr.isEnabled then ⟨io.isEnabled dev, s, none⟩
              else ⟨-Errno.EINVAL, s, none⟩

/-- The cases of the `switch`, from the version check on; `none` is the dereference of `NULL`. -/
def ioctlCommand (cfg : Config) (s : KernelState) (io : IoFaults) : Request → Option IoctlResult
  | .claim k rt data => some (ioctlClaimInfo cfg k true rt data io s)
  | .info k data => some (ioctlClaimInfo cfg k false false data io s)
  | .release k _ data => some (ioctlRelease k data s)
  | .getMaxManagedDevices _ => some ⟨maxManagedDevices, s, none⟩
  | .getMaxDevMemRegions _ => some ⟨maxDevMemRegions, s, none⟩
  | .getMaxDevEvents _ => some ⟨maxDevEvents, s, none⟩
  | .getId k _ deviceSlot resourceSlot => ioctlGetId k deviceSlot resourceSlot io s
  | .getRefCount k _ id => some (ioctlRefCount k false id s)
  | .decrementRefCount k _ id => some (ioctlRefCount k true id s)
  | .janitorRegisterPid => some ⟨-Errno.ENOSYS, s, none⟩
  | .getKernelCommitId _ =>
      some (replyWith (.idStr ((getCommitId cfg 256).getD [] ++ [0])) io s)
  | .getDriverInfo _ deviceSlot => some (ioctlInfoString Device.driverInfo deviceSlot io s)
  | .getHwInfo _ deviceSlot => some (ioctlInfoString Device.hwInfo deviceSlot io s)
  | .getKernelVersionCode _ => some ⟨kernelVersionCode.toInt, s, none⟩
  | .getKernelVariant _ => some (replyWith (.idStr (strncpyField (variant cfg))) io s)
  | .eventsrcIsEnabled _ deviceIndex resourceIndex =>
      some (ioctlEventsrcIsEnabled deviceIndex resourceIndex io s)
  | .unknown => some ⟨-Errno.ENOSYS, s, none⟩

/-- The version code in the data of a command; the commands without data have none. -/
def Request.versionCode? : Request → Option Int32
  | .claim _ _ data => some data.versionCode
  | .info _ data => some data.versionCode
  | .release _ _ data => some data.versionCode
  | .getMaxManagedDevices v | .getMaxDevMemRegions v | .getMaxDevEvents v => some v
  | .getId _ v _ _ | .getRefCount _ v _ | .decrementRefCount _ v _ => some v
  | .getKernelCommitId v | .getDriverInfo v _ | .getHwInfo v _ => some v
  | .getKernelVersionCode v | .getKernelVariant v | .eventsrcIsEnabled v _ _ => some v
  | .janitorRegisterPid | .unknown => none

/-- `cuddlk_manager_ioctl`.  Every case that takes data starts with the same copy-in and version
check. -/
def managerIoctl (cfg : Config) (s : KernelState) (req : Request) (io : IoFaults) :
    Option IoctlResult :=
  if io.kzallocFails then
    some ⟨-Errno.ENOMEM, s, none⟩
  else
    match req.versionCode? with
    | none => ioctlCommand cfg s io req
    | some userVersionCode =>
        if io.copyFromUserFails then
          some ⟨-Errno.EOVERFLOW, s, none⟩
        else if versionCodeIsCompat userVersionCode = false then
          some ⟨-Errno.ENOEXEC, s, none⟩
        else
          ioctlCommand cfg s io req

/-! ## What a command can do -/

/-- The request gets past the allocations, the copy-in and the version check. -/
def Accepted (req : Request) (io : IoFaults) : Prop :=
  io.kzallocFails = false ∧
    ∀ v, req.versionCode? = some v → io.copyFromUserFails = false ∧ versionCodeIsCompat v = true

theorem managerIoctl_of_accepted {cfg : Config} {s : KernelState} {req : Request} {io : IoFaults}
    (h : Accepted req io) : managerIoctl cfg s req io = ioctlCommand cfg s io req := by
  rcases h with ⟨halloc, hcheck⟩
  cases hv : req.versionCode? with
  | none => simp [managerIoctl, halloc, hv]
  | some v =>
      rcases hcheck v hv with ⟨hcopy, hcompat⟩
      simp [managerIoctl, halloc, hv, hcopy, hcompat]

/-- The checks before a command cannot crash. -/
theorem managerIoctl_isSome {cfg : Config} {s : KernelState} {req : Request} {io : IoFaults}
    (h : (ioctlCommand cfg s io req).isSome) : (managerIoctl cfg s req io).isSome := by
  unfold managerIoctl
  split
  · rfl
  · split
    · exact h
    · split
      · rfl
      · split
        · rfl
        · exact h

/-- A request that is not accepted fails and does nothing, whatever the state is. -/
theorem managerIoctl_of_not_accepted {req : Request} {io : IoFaults} (hacc : ¬ Accepted req io) :
    ∃ e, e < 0 ∧ ∀ (cfg : Config) (s : KernelState),
      managerIoctl cfg s req io = some ⟨e, s, none⟩ := by
  -- each of the three early exits contradicts one part of `Accepted`, or is the failure
  cases halloc : io.kzallocFails with
  | true => exact ⟨-Errno.ENOMEM, by decide, by simp [managerIoctl, halloc]⟩
  | false =>
      cases hv : req.versionCode? with
      | none => exact absurd ⟨halloc, by simp [hv]⟩ hacc
      | some v =>
          cases hcopy : io.copyFromUserFails with
          | true => exact ⟨-Errno.EOVERFLOW, by decide, by simp [managerIoctl, halloc, hv, hcopy]⟩
          | false =>
              cases hcompat : versionCodeIsCompat v with
              | true =>
                  refine absurd ⟨halloc, ?_⟩ hacc
                  intro v' hv'
                  cases hv.symm.trans hv'
                  exact ⟨hcopy, hcompat⟩
              | false =>
                  exact ⟨-Errno.ENOEXEC, by decide,
                    by simp [managerIoctl, halloc, hv, hcopy, hcompat]⟩

theorem managerIoctl_cases {cfg : Config} {s : KernelState} {req : Request} {io : IoFaults}
    {res : IoctlResult} (h : managerIoctl cfg s req io = some res) :
    (¬ Accepted req io ∧ res.ret < 0 ∧ res.state = s ∧ res.reply = none) ∨
      (Accepted req io ∧ ioctlCommand cfg s io req = some res) := by
  by_cases hacc : Accepted req io
  · rw [managerIoctl_of_accepted hacc] at h
    exact Or.inr ⟨hacc, h⟩
  · rcases managerIoctl_of_not_accepted hacc with ⟨e, hneg, hall⟩
    cases (hall cfg s).symm.trans h
    exact Or.inl ⟨hacc, hneg, rfl, rfl⟩

/-- The reply of a claim or info on slot `d`, resource `i`. -/
def claimReply (cfg : Config) (s : KernelState) (k : ResourceKind) (rt : Bool) (d : Slot)
    (p : DevPtr) (i : Fin k.max) : Reply :=
  infoReply cfg (s.heap p) rt k ⟨d, i⟩

/-- A claim fails without a trace, or is admitted; an admitted claim is undone when the copy-out or
the list entry fails, and goes on the list otherwise. -/
theorem ioctlClaimInfo_claim_cases (cfg : Config) (k : ResourceKind) (rt : Bool)
    (data : ClaimData) (io : IoFaults) (s : KernelState) :
    ((ioctlClaimInfo cfg k true rt data io s).ret < 0 ∧
        (ioctlClaimInfo cfg k true rt data io s).state = s ∧
        ∀ d p i, managerLookup s k data.id = some (d, p, i) →
          ¬ Admitted s p ⟨k, i⟩ data.hostile) ∨
      ∃ d p i, managerLookup s k data.id = some (d, p, i) ∧ Admitted s p ⟨k, i⟩ data.hostile ∧
        (((io.copyToUserFails = true ∨ io.refAllocFails = true) ∧
            (ioctlClaimInfo cfg k true rt data io s).ret < 0 ∧
            (ioctlClaimInfo cfg k true rt data io s).state =
              s.withOwner p fun m => modulePut (tryModuleGet m)) ∨
          ((io.copyToUserFails = false ∧ io.refAllocFails = false) ∧
            ioctlClaimInfo cfg k true rt data io s =
              ⟨0, (s.takeRef p ⟨k, i⟩).setRefs k (⟨⟨d, i⟩, data.pid⟩ :: s.refs k),
                some (claimReply cfg (s.takeRef p ⟨k, i⟩) k rt d p i)⟩)) := by
  cases hfind : managerLookup s k data.id with
  | none =>
      left
      simp [ioctlClaimInfo, hfind, Errno.ENXIO]
  | some found =>
      rcases found with ⟨d, p, i⟩
      -- busy, or counted; a counted claim still has two exits to pass
      rcases resourceClaim_cases s p ⟨k, i⟩ data.hostile with ⟨hres, hadm⟩ | ⟨hres, hadm⟩
      · left
        refine ⟨?_, ?_, ?_⟩
        · simp [ioctlClaimInfo, hfind, hres, Errno.EBUSY]
        · simp [ioctlClaimInfo, hfind, hres, Errno.EBUSY]
        · intro d' p' i' heq
          cases heq
          exact hadm
      · right
        refine ⟨d, p, i, rfl, hadm, ?_⟩
        have hundo := resourceDecrRefCount_takeRef s p ⟨k, i⟩
        cases hcopy : io.copyToUserFails with
        | true =>
            left
            simp [ioctlClaimInfo, hfind, hres, hcopy, hundo, Errno.EOVERFLOW]
        | false =>
            cases halloc : io.refAllocFails with
            | true =>
                left
                simp [ioctlClaimInfo, hfind, hres, hcopy, halloc, hundo, Errno.ENOMEM]
            | false =>
                right
                simp [ioctlClaimInfo, hfind, hres, hcopy, halloc, claimReply]

/-- A claim that succeeds counts what its lookup finds, lists it and answers about it. -/
theorem managerIoctl_claim_of_ret_zero {cfg : Config} {s : KernelState} {k : ResourceKind}
    {rt : Bool} {data : ClaimData} {io : IoFaults} {res : IoctlResult}
    (h : managerIoctl cfg s (.claim k rt data) io = some res) (hret : res.ret = 0) :
    ∃ d p i, managerLookup s k data.id = some (d, p, i) ∧ Admitted s p ⟨k, i⟩ data.hostile ∧
      res = ⟨0, (s.takeRef p ⟨k, i⟩).setRefs k (⟨⟨d, i⟩, data.pid⟩ :: s.refs k),
        some (claimReply cfg (s.takeRef p ⟨k, i⟩) k rt d p i)⟩ := by
  rcases managerIoctl_cases h with ⟨_, hneg, _, _⟩ | ⟨_, hcmd⟩
  · exact absurd hret hneg.ne
  · cases hcmd
    rcases ioctlClaimInfo_claim_cases cfg k rt data io s with
      ⟨hneg, _, _⟩ | ⟨d, p, i, hfind, hadm, ⟨_, hneg, _⟩ | ⟨_, heq⟩⟩
    · exact absurd hret hneg.ne
    · exact absurd hret hneg.ne
    · exact ⟨d, p, i, hfind, hadm, heq⟩

/-- An info request finds nothing, answers, or fails in the copy-out; then it decrements a count
that it never incremented. -/
theorem ioctlClaimInfo_info_cases (cfg : Config) (k : ResourceKind) (data : ClaimData)
    (io : IoFaults) (s : KernelState) :
    (managerLookup s k data.id = none ∧
        (ioctlClaimInfo cfg k false false data io s).ret < 0 ∧
        (ioctlClaimInfo cfg k false false data io s).state = s) ∨
      ∃ d p i, managerLookup s k data.id = some (d, p, i) ∧
        ((io.copyToUserFails = true ∧ (ioctlClaimInfo cfg k false false data io s).ret < 0 ∧
            (ioctlClaimInfo cfg k false false data io s).state =
              (resourceDecrRefCount s p ⟨k, i⟩).2) ∨
          (io.copyToUserFails = false ∧
            ioctlClaimInfo cfg k false false data io s =
              ⟨0, s, some (claimReply cfg s k false d p i)⟩)) := by
  cases hfind : managerLookup s k data.id with
  | none =>
      left
      simp [ioctlClaimInfo, hfind, Errno.ENXIO]
  | some found =>
      rcases found with ⟨d, p, i⟩
      right
      refine ⟨d, p, i, rfl, ?_⟩
      cases hcopy : io.copyToUserFails with
      | true =>
          left
          simp [ioctlClaimInfo, hfind, hcopy, Errno.EOVERFLOW]
      | false =>
          right
          simp [ioctlClaimInfo, hfind, hcopy, claimReply]

theorem inRange_eq_some_iff {n : Nat} {i : Int} {j : Fin n} :
    inRange n i = some j ↔ i = (j : Int) := by
  unfold inRange
  split
  · rename_i h
    rw [Option.some.injEq, Fin.ext_iff]
    constructor
    · intro hj
      have hj' : i.toNat = (j : Nat) := hj
      omega
    · intro hj
      show i.toNat = (j : Nat)
      omega
  · rename_i h
    have hlt := j.isLt
    constructor
    · intro hj
      cases hj
    · intro hj
      exact absurd ⟨by omega, by omega⟩ h

/-- The token in the data of a release, if its indices are in range. -/
def ReleaseData.token? (data : ReleaseData) (k : ResourceKind) : Option (Token k) :=
  match inRange maxManagedDevices data.deviceIndex, inRange k.max data.resourceIndex with
  | some d, some i => some ⟨d, i⟩
  | _, _ => none

theorem ReleaseData.token?_eq_some_iff {data : ReleaseData} {k : ResourceKind} {t : Token k} :
    data.token? k = some t ↔
      data.deviceIndex = t.deviceIndex ∧ data.resourceIndex = t.resourceIndex := by
  rw [← inRange_eq_some_iff, ← inRange_eq_some_iff]
  unfold ReleaseData.token?
  rcases t with ⟨d, i⟩
  cases inRange maxManagedDevices data.deviceIndex with
  | none => simp
  | some d' =>
      cases inRange k.max data.resourceIndex with
      | none => simp
      | some i' => simp

/-- A release answers an error and does nothing, or decrements and strikes. -/
theorem ioctlRelease_cases (k : ResourceKind) (data : ReleaseData) (s : KernelState) :
    ((ioctlRelease k data s).ret < 0 ∧ (ioctlRelease k data s).state = s ∧
        ∀ (d : Slot) (i : Fin k.max), data.deviceIndex = d → data.resourceIndex = i →
          s.devices d = none) ∨
      ∃ (d : Slot) (p : DevPtr) (i : Fin k.max), data.deviceIndex = d ∧
        data.resourceIndex = i ∧ s.devices d = some p ∧
        ioctlRelease k data s =
          ⟨0, (resourceDecrRefCount s p ⟨k, i⟩).2.setRefs k
            ((s.refs k).erase ⟨⟨d, i⟩, data.pid⟩), none⟩ := by
  -- the checks in the order of the code: device slot, device, resource slot
  cases hd : inRange maxManagedDevices data.deviceIndex with
  | none =>
      left
      refine ⟨by simp [ioctlRelease, hd, Errno.EBADSLT], by simp [ioctlRelease, hd], ?_⟩
      intro d i hd' _
      simp [inRange_eq_some_iff.2 hd'] at hd
  | some d =>
      cases hp : s.devices d with
      | none =>
          left
          refine ⟨by simp [ioctlRelease, hd, hp, Errno.ENODEV], by simp [ioctlRelease, hd, hp], ?_⟩
          intro d' i hd' _
          cases hd.symm.trans (inRange_eq_some_iff.2 hd')
          exact hp
      | some p =>
          cases hi : inRange k.max data.resourceIndex with
          | none =>
              left
              refine ⟨by simp [ioctlRelease, hd, hp, hi, Errno.EBADSLT],
                by simp [ioctlRelease, hd, hp, hi], ?_⟩
              intro d' i _ hi'
              simp [inRange_eq_some_iff.2 hi'] at hi
          | some i =>
              right
              refine ⟨d, p, i, inRange_eq_some_iff.1 hd, inRange_eq_some_iff.1 hi, hp, ?_⟩
              simp [ioctlRelease, hd, hp, hi]

theorem ioctlRefCount_decrement_cases (k : ResourceKind) (id : ResourceId) (s : KernelState) :
    (managerLookup s k id = none ∧ (ioctlRefCount k true id s).ret < 0 ∧
        (ioctlRefCount k true id s).state = s) ∨
      ∃ d p i, managerLookup s k id = some (d, p, i) ∧
        (ioctlRefCount k true id s).ret = (resourceDecrRefCount s p ⟨k, i⟩).1 ∧
        (ioctlRefCount k true id s).state = (resourceDecrRefCount s p ⟨k, i⟩).2 := by
  cases hfind : managerLookup s k id with
  | none =>
      left
      simp [ioctlRefCount, hfind, Errno.ENXIO]
  | some found =>
      rcases found with ⟨d, p, i⟩
      right
      refine ⟨d, p, i, rfl, ?_, ?_⟩
      · simp [ioctlRefCount, hfind]
      · simp [ioctlRefCount, hfind]

/-- The commands that can write to the manager's state. -/
def Request.Writes : Request → Prop
  | .claim _ _ _ | .info _ _ | .release _ _ _ | .decrementRefCount _ _ _ => True
  | _ => False

theorem replyWith_cases (reply : Reply) (io : IoFaults) (s : KernelState) :
    ((replyWith reply io s).ret < 0 ∧ (replyWith reply io s).state = s) ∨
      replyWith reply io s = ⟨0, s, some reply⟩ := by
  unfold replyWith
  split
  · exact Or.inl ⟨by simp [Errno.EOVERFLOW], rfl⟩
  · exact Or.inr rfl

/-- A GET_ID fails, or returns the id of the resource in the slots it was given. -/
theorem ioctlGetId_cases {k : ResourceKind} {deviceSlot resourceSlot : Int} {io : IoFaults}
    {s : KernelState} {res : IoctlResult}
    (h : ioctlGetId k deviceSlot resourceSlot io s = some res) :
    (res.ret < 0 ∧ res.state = s) ∨
      ∃ (d : Slot) (i : Fin k.max) (p : DevPtr) (id : ResourceId), deviceSlot = d ∧
        resourceSlot = i ∧ s.devices d = some p ∧ resourceIdOf (s.heap p) ⟨k, i⟩ = some id ∧
        res = ⟨0, s, some (.resourceId id)⟩ := by
  unfold ioctlGetId at h
  split at h
  · cases h
    exact Or.inl ⟨by simp [Errno.EBADSLT], rfl⟩
  · cases h
    exact Or.inl ⟨by simp [Errno.EBADSLT], rfl⟩
  · rename_i d i hd hi
    split at h
    · cases h
      exact Or.inl ⟨by simp [Errno.ENODEV], rfl⟩
    · rename_i p hp
      split at h
      · cases h
        exact Or.inl ⟨by simp [Errno.EINVAL], rfl⟩
      · rcases Option.map_eq_some_iff.1 h with ⟨id, hid, rfl⟩
        rcases replyWith_cases (.resourceId id) io s with hfail | hok
        · exact Or.inl hfail
        · exact Or.inr ⟨d, i, p, id, inRange_eq_some_iff.1 hd, inRange_eq_some_iff.1 hi, hp, hid,
            hok⟩

/-- A driver or hardware info query fails, or returns the string of the device in its slot. -/
theorem ioctlInfoString_cases (field : Device → Option KStr) (deviceSlot : Int) (io : IoFaults)
    (s : KernelState) :
    ((ioctlInfoString field deviceSlot io s).ret < 0 ∧
        (ioctlInfoString field deviceSlot io s).state = s) ∨
      ∃ (d : Slot) (p : DevPtr), deviceSlot = d ∧ s.devices d = some p ∧
        ioctlInfoString field deviceSlot io s =
          ⟨0, s, some (.infoStr (infoString (field (s.heap p))))⟩ := by
  cases hd : inRange maxManagedDevices deviceSlot with
  | none =>
      left
      simp [ioctlInfoString, hd, Errno.EBADSLT]
  | some d =>
      cases hp : s.devices d with
      | none =>
          left
          simp [ioctlInfoString, hd, hp, Errno.ENODEV]
      | some p =>
          rcases replyWith_cases (.infoStr (infoString (field (s.heap p)))) io s with hfail | hok
          · left
            simpa [ioctlInfoString, hd, hp] using hfail
          · right
            exact ⟨d, p, inRange_eq_some_iff.1 hd, hp, by simpa [ioctlInfoString, hd, hp] using hok⟩

/-- EVENTSRC_IS_ENABLED fails, or asks the driver of the device in its slot. -/
theorem ioctlEventsrcIsEnabled_cases (deviceIndex resourceIndex : Int) (io : IoFaults)
    (s : KernelState) :
    (ioctlEventsrcIsEnabled deviceIndex resourceIndex io s).state = s ∧
      ((ioctlEventsrcIsEnabled deviceIndex resourceIndex io s).ret < 0 ∨
        ∃ (d : Slot) (p : DevPtr), deviceIndex = d ∧ s.devices d = some p ∧
          ioctlEventsrcIsEnabled deviceIndex resourceIndex io s = ⟨io.isEnabled p, s, none⟩) := by
  cases hd : inRange maxManagedDevices deviceIndex with
  | none => simp [ioctlEventsrcIsEnabled, hd, Errno.EBADSLT]
  | some d =>
      cases hp : s.devices d with
      | none => simp [ioctlEventsrcIsEnabled, hd, hp, Errno.ENODEV]
      | some p =>
          cases hi : inRange (ResourceKind.max .eventsrc) resourceIndex with
          | none => simp [ioctlEventsrcIsEnabled, hd, hp, hi, Errno.EBADSLT]
          | some i =>
              by_cases henabled : ((s.heap p).events i).intr.isEnabled = true
              · have hres : ioctlEventsrcIsEnabled deviceIndex resourceIndex io s =
                    ⟨io.isEnabled p, s, none⟩ := by
                  simp [ioctlEventsrcIsEnabled, hd, hp, hi, henabled]
                exact ⟨by rw [hres], Or.inr ⟨d, p, inRange_eq_some_iff.1 hd, hp, hres⟩⟩
              · simp [ioctlEventsrcIsEnabled, hd, hp, hi, henabled, Errno.EINVAL]

theorem ioctlCommand_state_of_not_writes {cfg : Config} {s : KernelState} {io : IoFaults}
    {req : Request} {res : IoctlResult} (hreq : ¬ req.Writes)
    (h : ioctlCommand cfg s io req = some res) : res.state = s := by
  have hreply : ∀ reply, (replyWith reply io s).state = s := by
    intro reply
    rcases replyWith_cases reply io s with ⟨_, hst⟩ | hok
    · exact hst
    · rw [hok]
  cases req with
  | claim k rt data => exact absurd trivial hreq
  | info k data => exact absurd trivial hreq
  | release k rt data => exact absurd trivial hreq
  | decrementRefCount k v id => exact absurd trivial hreq
  | getId k v deviceSlot resourceSlot =>
      have hid : ioctlGetId k deviceSlot resourceSlot io s = some res := h
      rcases ioctlGetId_cases hid with ⟨_, hst⟩ | ⟨_, _, _, _, _, _, _, _, rfl⟩
      · exact hst
      · rfl
  | getRefCount k v id =>
      cases h
      unfold ioctlRefCount
      split <;> rfl
  | getDriverInfo v deviceSlot =>
      cases h
      rcases ioctlInfoString_cases Device.driverInfo deviceSlot io s with
        ⟨_, hst⟩ | ⟨_, _, _, _, hok⟩
      · exact hst
      · rw [hok]
  | getHwInfo v deviceSlot =>
      cases h
      rcases ioctlInfoString_cases Device.hwInfo deviceSlot io s with
        ⟨_, hst⟩ | ⟨_, _, _, _, hok⟩
      · exact hst
      · rw [hok]
  | eventsrcIsEnabled v deviceIndex resourceIndex =>
      cases h
      exact (ioctlEventsrcIsEnabled_cases deviceIndex resourceIndex io s).1
  | getKernelCommitId v =>
      cases h
      exact hreply _
  | getKernelVariant v =>
      cases h
      exact hreply _
  | getMaxManagedDevices v => cases h; rfl
  | getMaxDevMemRegions v => cases h; rfl
  | getMaxDevEvents v => cases h; rfl
  | janitorRegisterPid => cases h; rfl
  | getKernelVersionCode v => cases h; rfl
  | unknown => cases h; rfl

theorem managerIoctl_state_of_not_writes {cfg : Config} {s : KernelState} {req : Request}
    {io : IoFaults} {res : IoctlResult} (hreq : ¬ req.Writes)
    (h : managerIoctl cfg s req io = some res) : res.state = s := by
  rcases managerIoctl_cases h with ⟨_, _, hst, _⟩ | ⟨_, hcmd⟩
  · exact hst
  · exact ioctlCommand_state_of_not_writes hreq hcmd

/-! ## What an ioctl writes -/

/-- All that one ioctl can do to the manager. -/
inductive Wrote (s : KernelState) : KernelState → Prop
  | nothing : Wrote s s
  /-- A claim that was taken back. -/
  | undone (p : DevPtr) : Wrote s (s.withOwner p fun m => modulePut (tryModuleGet m))
  | claimed {d : Slot} {p : DevPtr} {k : ResourceKind} (i : Fin k.max) (pid : Pid)
      (slot : s.devices d = some p) :
      Wrote s ((s.takeRef p ⟨k, i⟩).setRefs k (⟨⟨d, i⟩, pid⟩ :: s.refs k))
  | decremented (p : DevPtr) (x : ResIdx) : Wrote s (resourceDecrRefCount s p x).2
  | released (p : DevPtr) (x : ResIdx) {k : ResourceKind} (e : ResourceRef k) :
      Wrote s ((resourceDecrRefCount s p x).2.setRefs k ((s.refs k).erase e))

theorem ioctlCommand_wrote {cfg : Config} {s : KernelState} {io : IoFaults} {req : Request}
    {res : IoctlResult} (hw : req.Writes) (h : ioctlCommand cfg s io req = some res) :
    Wrote s res.state := by
  cases req with
  | claim k rt data =>
      cases h
      rcases ioctlClaimInfo_claim_cases cfg k rt data io s with
        ⟨_, hst, _⟩ | ⟨d, p, i, hfind, _, ⟨_, _, hst⟩ | ⟨_, hres⟩⟩
      · rw [hst]
        exact .nothing
      · rw [hst]
        exact .undone p
      · rw [hres]
        exact .claimed i data.pid (managerLookup_eq_some hfind).1
  | info k data =>
      cases h
      rcases ioctlClaimInfo_info_cases cfg k data io s with
        ⟨_, _, hst⟩ | ⟨d, p, i, _, ⟨_, _, hst⟩ | ⟨_, hres⟩⟩
      · rw [hst]
        exact .nothing
      · -- the error exit of the copy-out is the one of a claim
        rw [hst]
        exact .decremented p _
      · rw [hres]
        exact .nothing
  | release k rt data =>
      cases h
      rcases ioctlRelease_cases k data s with ⟨_, hst, _⟩ | ⟨d, p, i, _, _, _, hres⟩
      · rw [hst]
        exact .nothing
      · rw [hres]
        exact .released p _ _
  | decrementRefCount k v id =>
      cases h
      rcases ioctlRefCount_decrement_cases k id s with ⟨_, _, hst⟩ | ⟨d, p, i, _, _, hst⟩
      · rw [hst]
        exact .nothing
      · rw [hst]
        exact .decremented p _
  | _ => exact absurd hw id

theorem managerIoctl_wrote {cfg : Config} {s : KernelState} {req : Request} {io : IoFaults}
    {res : IoctlResult} (h : managerIoctl cfg s req io = some res) : Wrote s res.state := by
  by_cases hw : req.Writes
  · rcases managerIoctl_cases h with ⟨_, _, hst, _⟩ | ⟨_, hcmd⟩
    · rw [hst]
      exact .nothing
    · exact ioctlCommand_wrote hw hcmd
  · rw [managerIoctl_state_of_not_writes hw h]
    exact .nothing

/-- No ioctl touches the table, or anything of a device but its counts. -/
theorem Wrote.sameShape {s s' : KernelState} (h : Wrote s s') : SameShape s s' := by
  cases h with
  | nothing => exact SameShape.refl s
  | undone p => exact sameShape_withOwner s p _
  | claimed i pid hslot => exact (sameShape_takeRef s _ _).trans (sameShape_setRefs _ _ _)
  | decremented p x => exact sameShape_resourceDecrRefCount s p x
  | released p x e =>
      exact (sameShape_resourceDecrRefCount s p x).trans (sameShape_setRefs _ _ _)

theorem managerIoctl_sameShape {cfg : Config} {s : KernelState} {req : Request} {io : IoFaults}
    {res : IoctlResult} (h : managerIoctl cfg s req io = some res) : SameShape s res.state :=
  (managerIoctl_wrote h).sameShape

/-- A list entry that is there after an ioctl was there before, or is the entry of a claim on a
managed device. -/
theorem Wrote.mem_refs {s s' : KernelState} (h : Wrote s s') {k : ResourceKind}
    {e : ResourceRef k} (he : e ∈ s'.refs k) :
    e ∈ s.refs k ∨ s.devices e.token.deviceIndex ≠ none := by
  cases h with
  | nothing => exact Or.inl he
  | undone p =>
      left
      rwa [withOwner_refs] at he
  | @claimed d p k' i pid hslot =>
      rw [KernelState.setRefs_refs, takeRef_refs] at he
      by_cases hk : k = k'
      · subst hk
        rw [Function.update_self] at he
        -- the new entry is the only one that was not there
        rcases List.mem_cons.1 he with rfl | hold
        · right
          simp [hslot]
        · exact Or.inl hold
      · rw [Function.update_of_ne hk] at he
        exact Or.inl he
  | decremented p x =>
      left
      rwa [resourceDecrRefCount_refs] at he
  | @released p x k' e' =>
      left
      rw [KernelState.setRefs_refs, resourceDecrRefCount_refs] at he
      by_cases hk : k = k'
      · subst hk
        rw [Function.update_self] at he
        exact List.mem_of_mem_erase he
      · rwa [Function.update_of_ne hk] at he

theorem mem_refs_of_managerIoctl {cfg : Config} {s : KernelState} {req : Request} {io : IoFaults}
    {res : IoctlResult} (h : managerIoctl cfg s req io = some res) {k : ResourceKind}
    {e : ResourceRef k} (he : e ∈ res.state.refs k) :
    e ∈ s.refs k ∨ s.devices e.token.deviceIndex ≠ none :=
  (managerIoctl_wrote h).mem_refs he

end Cuddl
