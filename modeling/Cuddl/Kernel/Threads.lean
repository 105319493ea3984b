import Cuddl.Foundation.Locking
import Cuddl.Kernel.System

/-!
# The manager under many threads

The entry points again, this time access by access, with the manager's `global_mutex` and the
`ref_mutex` of every resource: a claim loads its count and stores it incremented, a search looks at
one slot of the table at a time, and a list is loaded and stored apart.  Run alone, each program
does what the function it spells out does (`meaning_callCode`).

Drivers prepare their device structures before the threads start.
-/

namespace Cuddl

open Foundation Foundation.Locking Foundation.Search

inductive Lock
  | global
  /-- `priv.ref_mutex` of a resource. -/
  | ref (p : DevPtr) (x : ResIdx)
  deriving DecidableEq

abbrev Code := Prog Lock KernelState

open Prog (load store locked)

/-! ## Counts -/

/-- `ref_count += n`, a load and a store, and the call for the owner module.  `try_module_get` and
`module_put` are atomic by themselves. -/
def countCode (p : DevPtr) (x : ResIdx) (count : Nat → Nat) (f : Module → Module) : Code Unit := do
  let n ← load fun s => (s.heap p).refCount x
  store fun s => s.setRefCount p x (count n)
  match ← load fun s => (s.heap p).uioOwner with
  | none => pure ()
  | some m => store fun s => s.setModule m (f (s.modules m))

/-- `_memregion_claim` and `_eventsrc_claim` -/
def resourceClaimCode (p : DevPtr) (x : ResIdx) (hostile : Bool) : Code Int :=
  locked (.ref p x) do
    let refCount ← load fun s => (s.heap p).refCount x
    let shared ← load fun s => (s.heap p).shared x
    if 0 < refCount ∧ shared = false ∧ hostile = false then
      pure (-Errno.EBUSY)
    else do
      countCode p x (fun n => n + 1) tryModuleGet
      pure 0

/-- `_memregion_decr_ref_count` and `_eventsrc_decr_ref_count` -/
def resourceDecrRefCountCode (p : DevPtr) (x : ResIdx) : Code Int :=
  locked (.ref p x) do
    let refCount ← load fun s => (s.heap p).refCount x
    if refCount = 0 then
      pure (-Errno.ENOSPC)
    else do
      countCode p x (fun n => n - 1) modulePut
      pure 0

/-! ## Searches -/

def managerFindDeviceSlotMatchingCode (group name resource : Option (List UInt8))
    (instanceId : Int) (type : Option ResourceKind) (startIndex : Nat) : Code (Option Slot) :=
  scanFrom
    (fun d s =>
      match s.devices d with
      | none => false
      | some p =>
          deviceAgrees (s.heap p) group name instanceId &&
            deviceOffers (s.heap p) resource type)
    startIndex

def managerFindDeviceSlotCode (dev : Option DevPtr) : Code (Option Slot) :=
  scanFrom (fun d s => s.devices d == dev) 0

def deviceFindSlotCode (k : ResourceKind) (p : DevPtr) (name : Option (List UInt8)) :
    Code (Option (Fin k.max)) :=
  scanFrom (fun i s => resourceMatches ((s.heap p).resource ⟨k, i⟩) name) 0

def managerLookupCode (k : ResourceKind) (id : ResourceId) :
    Code (Option (Slot × DevPtr × Fin k.max)) := do
  match ← managerFindDeviceSlotMatchingCode (some id.group) (some id.device) (some id.resource)
      id.instanceId (some k) 0 with
  | none => pure none
  | some d =>
      match ← load fun s => s.devices d with
      | none => pure none
      | some p => do
          let i ← deviceFindSlotCode k p (some id.resource)
          pure (i.map fun i => (d, p, i))

/-! ## The manager ioctl -/

/-- What a call returns, and what it has written to the caller's buffer. -/
structure Answer where
  ret : Int
  reply : Option Reply

/-- INFO passes the claim over. -/
def claimIfCode (claim : Bool) (dev : DevPtr) (x : ResIdx) (hostile : Bool) : Code Int :=
  if claim then resourceClaimCode dev x hostile else pure 0

def ioctlClaimInfoCode (cfg : Config) (k : ResourceKind) (claim rt : Bool) (data : ClaimData)
    (io : IoFaults) : Code Answer := do
  match ← managerLookupCode k data.id with
  | none => pure ⟨-Errno.ENXIO, none⟩
  | some (slot, dev, i) => do
      let ret ← claimIfCode claim dev ⟨k, i⟩ data.hostile
      if ret ≠ 0 then
        pure ⟨ret, none⟩
      else do
        let token : Token k := ⟨slot, i⟩
        let reply ← load fun s => infoReply cfg (s.heap dev) rt k token
        if io.copyToUserFails then do
          let _ ← resourceDecrRefCountCode dev ⟨k, i⟩
          pure ⟨-Errno.EOVERFLOW, none⟩
        else if claim then
          if io.refAllocFails then do
            let _ ← resourceDecrRefCountCode dev ⟨k, i⟩
            pure ⟨-Errno.ENOMEM, some reply⟩
          else do
            let refs ← load fun s => s.refs k
            store fun s => s.setRefs k (⟨token, data.pid⟩ :: refs)
            pure ⟨0, some reply⟩
        else
          pure ⟨0, some reply⟩

/-- The pointer in a slot of the table, if the index is in range. -/
def slotCode (deviceIndex : Int) (k : Slot → DevPtr → Code Answer) : Code Answer :=
  match inRange maxManagedDevices deviceIndex with
  | none => pure ⟨-Errno.EBADSLT, none⟩
  | some slot => do
      match ← load fun s => s.devices slot with
      | none => pure ⟨-Errno.ENODEV, none⟩
      | some dev => k slot dev

def ioctlReleaseCode (k : ResourceKind) (data : ReleaseData) : Code Answer :=
  slotCode data.deviceIndex fun slot dev =>
    match inRange k.max data.resourceIndex with
    | none => pure ⟨-Errno.EBADSLT, none⟩
    | some i => do
        let _ ← resourceDecrRefCountCode dev ⟨k, i⟩
        let refs ← load fun s => s.refs k
        store fun s => s.setRefs k (refs.erase ⟨⟨slot, i⟩, data.pid⟩)
        pure ⟨0, none⟩

def replyAnswer (reply : Reply) (io : IoFaults) : Answer :=
  if io.copyToUserFails then ⟨-Errno.EOVERFLOW, none⟩ else ⟨0, some reply⟩

def ioctlGetIdCode (k : ResourceKind) (deviceSlot resourceSlot : Int) (io : IoFaults) :
    Code Answer :=
  match inRange maxManagedDevices deviceSlot, inRange k.max resourceSlot with
  | none, _ => pure ⟨-Errno.EBADSLT, none⟩
  | some _, none => pure ⟨-Errno.EBADSLT, none⟩
  | some slot, some i => do
      match ← load fun s => s.devices slot with
      | none => pure ⟨-Errno.ENODEV, none⟩
      | some dev => do
          if ← load fun s => slotIsEmpty (s.heap dev) ⟨k, i⟩ then
            pure ⟨-Errno.EINVAL, none⟩
          else
            match ← load fun s => resourceIdOf (s.heap dev) ⟨k, i⟩ with
            | none => .crash
            | some id => pure (replyAnswer (.resourceId id) io)

def ioctlRefCountCode (k : ResourceKind) (decrement : Bool) (id : ResourceId) : Code Answer := do
  match ← managerLookupCode k id with
  | none => pure ⟨-Errno.ENXIO, none⟩
  | some (_, dev, i) =>
      if decrement then do
        let ret ← resourceDecrRefCountCode dev ⟨k, i⟩
        pure ⟨ret, none⟩
      else do
        let n ← load fun s => (s.heap dev).refCount ⟨k, i⟩
        pure ⟨n, none⟩

def ioctlInfoStringCode (field : Device → Option KStr) (deviceSlot : Int) (io : IoFaults) :
    Code Answer :=
  slotCode deviceSlot fun _ dev => do
    let str ← load fun s => infoString (field (s.heap dev))
    pure (replyAnswer (.infoStr str) io)

def ioctlEventsrcIsEnabledCode (deviceIndex resourceIndex : Int) (io : IoFaults) : Code Answer :=
  slotCode deviceIndex fun _ dev =>
    match inRange (ResourceKind.max .eventsrc) resourceIndex with
    | none => pure ⟨-Errno.EBADSLT, none⟩
    | some i => do
        if ← load fun s => ((s.heap dev).events i).intr.isEnabled then
          pure ⟨io.isEnabled dev, none⟩
        else
          pure ⟨-Errno.EINVAL, none⟩

def ioctlCommandCode (cfg : Config) (io : IoFaults) : Request → Code Answer
  | .claim k rt data => ioctlClaimInfoCode cfg k true rt data io
  | .info k data => ioctlClaimInfoCode cfg k false false data io
  | .release k _ data => ioctlReleaseCode k data
  | .getMaxManagedDevices _ => pure ⟨maxManagedDevices, none⟩
  | .getMaxDevMemRegions _ => pure ⟨maxDevMemRegions, none⟩
  | .getMaxDevEvents _ => pure ⟨maxDevEvents, none⟩
  | .getId k _ deviceSlot resourceSlot => ioctlGetIdCode k deviceSlot resourceSlot io
  | .getRefCount k _ id => ioctlRefCountCode k false id
  | .decrementRefCount k _ id => ioctlRefCountCode k true id
  | .janitorRegisterPid => pure ⟨-Errno.ENOSYS, none⟩
  | .getKernelCommitId _ =>
      pure (replyAnswer (.idStr ((getCommitId cfg 256).getD [] ++ [0])) io)
  | .getDriverInfo _ deviceSlot => ioctlInfoStringCode Device.driverInfo deviceSlot io
  | .getHwInfo _ deviceSlot => ioctlInfoStringCode Device.hwInfo deviceSlot io
  | .getKernelVersionCode _ => pure ⟨kernelVersionCode.toInt, none⟩
  | .getKernelVariant _ => pure (replyAnswer (.idStr (strncpyField (variant cfg))) io)
  | .eventsrcIsEnabled _ deviceIndex resourceIndex =>
      ioctlEventsrcIsEnabledCode deviceIndex resourceIndex io
  | .unknown => pure ⟨-Errno.ENOSYS, none⟩

/-- The `switch` of `cuddlk_manager_ioctl`. -/
def ioctlSwitchCode (cfg : Config) (req : Request) (io : IoFaults) : Code Answer :=
  match req.versionCode? with
  | none => ioctlCommandCode cfg io req
  | some userVersionCode =>
      if io.copyFromUserFails then
        pure ⟨-Errno.EOVERFLOW, none⟩
      else if versionCodeIsCompat userVersionCode = false then
        pure ⟨-Errno.ENOEXEC, none⟩
      else
        ioctlCommandCode cfg io req

/-- `cuddlk_manager_ioctl`: the buffers are allocated before the lock is taken. -/
def managerIoctlCode (cfg : Config) (req : Request) (io : IoFaults) : Code Answer :=
  if io.kzallocFails then pure ⟨-Errno.ENOMEM, none⟩
  else locked .global (ioctlSwitchCode cfg req io)

/-! ## Managing, releasing, cleaning up -/

def nextInstanceLoopCode (dev : Device) : Nat → Nat → Int → Code Int
  | 0, _, _ => pure (-Errno.ENOMEM)
  | fuel + 1, slot, instanceId => do
      match ← managerFindDeviceSlotMatchingCode dev.groupChars dev.nameChars none instanceId none
          slot with
      | none => pure instanceId
      | some d =>
          if d.val < maxManagedDevices - 1 then
            nextInstanceLoopCode dev fuel (d + 1) (instanceId + 1)
          else
            pure (-Errno.ENOMEM)

def assignInstanceCode (dev : Device) : Code (Except Int Device) :=
  if dev.instanceId = 0 then do
    let ret ← nextInstanceLoopCode dev maxManagedDevices 0 1
    pure (if ret < 0 then .error ret else .ok { dev with instanceId := ret })
  else
    pure (.ok dev)

def managerAddDeviceCode (p : DevPtr) : Code Int := do
  match ← managerFindDeviceSlotCode none with
  | none => pure (-Errno.ENOMEM)
  | some d => do
      store fun s => s.setSlot d (some p)
      pure 0

def managerRemoveDeviceCode (p : DevPtr) : Code Int := do
  match ← managerFindDeviceSlotCode (some p) with
  | none => pure (-Errno.ENXIO)
  | some d => do
      store fun s => s.setSlot d none
      pure 0

/-- `cuddlk_device_manage` -/
def deviceManageCode (cfg : Config) (p : DevPtr) (out : RegOutcome) : Code Int :=
  locked .global do
    let dev ← load fun s => s.heap p
    if dev.group.isNone then
      pure (-Errno.EINVAL)
    else if dev.name.isNone then
      pure (-Errno.EINVAL)
    else
      match ← assignInstanceCode dev with
      | .error e => pure e
      | .ok dev => do
          -- the instance number first, then what `cuddlk_device_register` writes
          store fun s => s.setDevice p dev
          let reg := deviceRegister cfg dev out
          store fun s => s.setDevice p reg.dev
          if reg.ret ≠ 0 then pure reg.ret else managerAddDeviceCode p

/-- `cuddlk_device_release` -/
def deviceReleaseCode (cfg : Config) (p : DevPtr) (out : RegOutcome) : Code Int :=
  locked .global do
    let removed ← managerRemoveDeviceCode p
    let dev ← load fun s => s.heap p
    pure (if removed ≠ 0 then removed else (deviceUnregister cfg dev out).1)

/-- One loop of the clean-up, with the entries that stay in front of `pos`. -/
def freeRefsLoopCode {k : ResourceKind} (pid : Pid) :
    List (ResourceRef k) → List (ResourceRef k) → Code Unit
  | _, [] => pure ()
  | kept, pos :: rest =>
      if pos.pid = pid then do
        match ← load fun s => s.devices pos.token.deviceIndex with
        | none => .crash
        | some dev => do
            let _ ← resourceDecrRefCountCode dev ⟨k, pos.token.resourceIndex⟩
            -- `list_del`
            store fun s => s.setRefs k (kept ++ rest)
            freeRefsLoopCode pid kept rest
      else
        freeRefsLoopCode pid (kept ++ [pos]) rest

def freeRefsCode (k : ResourceKind) (pid : Pid) : Code Unit := do
  let refs ← load fun s => s.refs k
  freeRefsLoopCode pid [] refs

/-- `cuddlk_manager_free_refs_for_pid` -/
def managerFreeRefsForPidCode (pid : Pid) : Code Unit :=
  locked .global do
    freeRefsCode .memregion pid
    freeRefsCode .eventsrc pid

/-! ## Calls -/

/-- The entry points that threads run. -/
inductive Call
  | ioctl (req : Request) (io : IoFaults)
  | manage (p : DevPtr) (out : RegOutcome)
  | release (p : DevPtr) (out : RegOutcome)
  | freeRefs (pid : Pid)

def Call.op : Call → Op
  | .ioctl req io => .ioctl req io
  | .manage p out => .manage p out
  | .release p out => .release p out
  | .freeRefs pid => .freeRefs pid

def callCode (cfg : Config) : Call → Code Answer
  | .ioctl req io => managerIoctlCode cfg req io
  | .manage p out => (deviceManageCode cfg p out).bind fun ret => .ret ⟨ret, none⟩
  | .release p out => (deviceReleaseCode cfg p out).bind fun ret => .ret ⟨ret, none⟩
  | .freeRefs pid => (managerFreeRefsForPidCode pid).bind fun _ => .ret ⟨0, none⟩

/-- A call that happens at once. -/
def callResult (cfg : Config) : Call → KernelState → Option (Answer × KernelState)
  | .ioctl req io, s =>
      (managerIoctl cfg s req io).map fun res => (⟨res.ret, res.reply⟩, res.state)
  | .manage p out, s =>
      some (⟨(deviceManage cfg s p out).ret, none⟩, (deviceManage cfg s p out).state)
  | .release p out, s =>
      some (⟨(deviceRelease cfg s p out).ret, none⟩, (deviceRelease cfg s p out).state)
  | .freeRefs pid, s => (managerFreeRefsForPid s pid).map fun s' => (⟨0, none⟩, s')

/-! ## The programs, run alone -/

section RunAlone

variable (s : KernelState) (p : DevPtr) (x : ResIdx)

@[simp] theorem run_countCode (count : Nat → Nat) (f : Module → Module) :
    (countCode p x count f).run s =
      some ((), (s.setRefCount p x (count ((s.heap p).refCount x))).withOwner p f) := by
  simp only [countCode, Prog.run_bind, Prog.run_load, Prog.run_store, Option.bind_some,
    KernelState.withOwner]
  cases ((s.setRefCount p x (count ((s.heap p).refCount x))).heap p).uioOwner with
  | none => rfl
  | some m => rfl

@[simp] theorem run_resourceClaimCode (hostile : Bool) :
    (resourceClaimCode p x hostile).run s = some (resourceClaim s p x hostile) := by
  by_cases hbusy : 0 < (s.heap p).refCount x ∧ (s.heap p).shared x = false ∧ hostile = false
  · simp [resourceClaimCode, resourceClaim, hbusy]
  · simp [resourceClaimCode, resourceClaim, hbusy, KernelState.takeRef]

@[simp] theorem run_resourceDecrRefCountCode :
    (resourceDecrRefCountCode p x).run s = some (resourceDecrRefCount s p x) := by
  by_cases hzero : (s.heap p).refCount x = 0
  · simp [resourceDecrRefCountCode, resourceDecrRefCount, hzero]
  · simp [resourceDecrRefCountCode, resourceDecrRefCount, hzero, KernelState.dropRef]

@[simp] theorem run_managerFindDeviceSlotMatchingCode (group name resource : Option (List UInt8))
    (instanceId : Int) (type : Option ResourceKind) (startIndex : Nat) :
    (managerFindDeviceSlotMatchingCode group name resource instanceId type startIndex).run s =
      some (managerFindDeviceSlotMatching s group name resource instanceId type startIndex, s) :=
  run_scanFrom _ _ _

@[simp] theorem run_managerFindDeviceSlotCode (dev : Option DevPtr) :
    (managerFindDeviceSlotCode dev).run s = some (managerFindDeviceSlot s dev, s) :=
  run_scanFrom _ _ _

@[simp] theorem run_deviceFindSlotCode (k : ResourceKind) (name : Option (List UInt8)) :
    (deviceFindSlotCode k p name).run s = some (deviceFindSlot k (s.heap p) name, s) :=
  run_scanFrom _ _ _

@[simp] theorem run_managerLookupCode (k : ResourceKind) (id : ResourceId) :
    (managerLookupCode k id).run s = some (managerLookup s k id, s) := by
  unfold managerLookupCode managerLookup
  rw [Prog.run_bind, run_managerFindDeviceSlotMatchingCode, Option.bind_some]
  cases managerFindDeviceSlotMatching s (some id.group) (some id.device) (some id.resource)
      id.instanceId (some k) 0 with
  | none => rfl
  | some d =>
      cases hslot : s.devices d with
      | none => simp [hslot]
      | some p => simp [hslot]

theorem run_ioctlClaimInfoCode (cfg : Config) (k : ResourceKind) (claim rt : Bool)
    (data : ClaimData) (io : IoFaults) :
    (ioctlClaimInfoCode cfg k claim rt data io).run s =
      some (⟨(ioctlClaimInfo cfg k claim rt data io s).ret,
        (ioctlClaimInfo cfg k claim rt data io s).reply⟩,
        (ioctlClaimInfo cfg k claim rt data io s).state) := by
  unfold ioctlClaimInfoCode ioctlClaimInfo
  rw [Prog.run_bind, run_managerLookupCode, Option.bind_some]
  cases managerLookup s k data.id with
  | none => rfl
  | some r =>
      rcases r with ⟨slot, dev, i⟩
      have hclaim : (claimIfCode claim dev ⟨k, i⟩ data.hostile).run s =
          some (if claim then kindClaim k s dev i data.hostile else (0, s)) := by
        cases claim with
        | true => simp [claimIfCode]
        | false => rfl
      simp only [Prog.run_bind, hclaim, Option.bind_some]
      -- from here on both sides go through the same exits
      generalize (if claim then kindClaim k s dev i data.hostile else (0, s)) = claimed
      by_cases hret : claimed.1 = 0
      · cases hcopy : io.copyToUserFails with
        | true => simp [hret]
        | false =>
            cases hkind : claim with
            | true =>
                cases halloc : io.refAllocFails with
                | true => simp [hret]
                | false => simp [hret]
            | false => simp [hret]
      · simp [hret]

/-- The result of a command, as a program returns it. -/
def IoctlResult.answered (res : IoctlResult) : Answer × KernelState :=
  (⟨res.ret, res.reply⟩, res.state)

theorem replyWith_answered (reply : Reply) (io : IoFaults) :
    (replyWith reply io s).answered = (replyAnswer reply io, s) := by
  unfold replyWith replyAnswer
  cases io.copyToUserFails with
  | true => rfl
  | false => rfl

theorem run_ioctlReleaseCode (k : ResourceKind) (data : ReleaseData) :
    (ioctlReleaseCode k data).run s = some (ioctlRelease k data s).answered := by
  unfold ioctlReleaseCode slotCode ioctlRelease
  cases inRange maxManagedDevices data.deviceIndex with
  | none => rfl
  | some slot =>
      cases hdev : s.devices slot with
      | none => simp [hdev, IoctlResult.answered]
      | some dev =>
          cases hres : inRange k.max data.resourceIndex with
          | none => simp [hdev, IoctlResult.answered]
          | some i => simp [hdev, IoctlResult.answered]

theorem run_ioctlGetIdCode (k : ResourceKind) (deviceSlot resourceSlot : Int) (io : IoFaults) :
    (ioctlGetIdCode k deviceSlot resourceSlot io).run s =
      (ioctlGetId k deviceSlot resourceSlot io s).map IoctlResult.answered := by
  unfold ioctlGetIdCode ioctlGetId
  cases inRange maxManagedDevices deviceSlot with
  | none => rfl
  | some slot =>
      cases inRange k.max resourceSlot with
      | none => rfl
      | some i =>
          cases hdev : s.devices slot with
          | none => simp [hdev, IoctlResult.answered]
          | some dev =>
              cases hempty : slotIsEmpty (s.heap dev) ⟨k, i⟩ with
              | true => simp [hdev, hempty, IoctlResult.answered]
              | false =>
                  cases hid : resourceIdOf (s.heap dev) ⟨k, i⟩ with
                  | none => simp [hdev, hempty, hid]
                  | some id => simp [hdev, hempty, hid, replyWith_answered]

theorem run_ioctlRefCountCode (k : ResourceKind) (decrement : Bool) (id : ResourceId) :
    (ioctlRefCountCode k decrement id).run s =
      some (ioctlRefCount k decrement id s).answered := by
  unfold ioctlRefCountCode ioctlRefCount
  rw [Prog.run_bind, run_managerLookupCode, Option.bind_some]
  cases managerLookup s k id with
  | none => rfl
  | some r =>
      rcases r with ⟨slot, dev, i⟩
      cases decrement with
      | true => simp [IoctlResult.answered]
      | false => simp [IoctlResult.answered]

theorem run_ioctlInfoStringCode (field : Device → Option KStr) (deviceSlot : Int)
    (io : IoFaults) :
    (ioctlInfoStringCode field deviceSlot io).run s =
      some (ioctlInfoString field deviceSlot io s).answered := by
  unfold ioctlInfoStringCode slotCode ioctlInfoString
  cases inRange maxManagedDevices deviceSlot with
  | none => rfl
  | some slot =>
      cases hdev : s.devices slot with
      | none => simp [hdev, IoctlResult.answered]
      | some dev => simp [hdev, replyWith_answered]

theorem run_ioctlEventsrcIsEnabledCode (deviceIndex resourceIndex : Int) (io : IoFaults) :
    (ioctlEventsrcIsEnabledCode deviceIndex resourceIndex io).run s =
      some (ioctlEventsrcIsEnabled deviceIndex resourceIndex io s).answered := by
  unfold ioctlEventsrcIsEnabledCode slotCode ioctlEventsrcIsEnabled
  cases inRange maxManagedDevices deviceIndex with
  | none => rfl
  | some slot =>
      cases hdev : s.devices slot with
      | none => simp [hdev, IoctlResult.answered]
      | some dev =>
          cases inRange (ResourceKind.max .eventsrc) resourceIndex with
          | none => simp [hdev, IoctlResult.answered]
          | some i =>
              cases hroutine : ((s.heap dev).events i).intr.isEnabled with
              | true => simp [hdev, hroutine, IoctlResult.answered]
              | false => simp [hdev, hroutine, IoctlResult.answered]

theorem run_ioctlCommandCode (cfg : Config) (req : Request) (io : IoFaults) :
    (ioctlCommandCode cfg io req).run s =
      (ioctlCommand cfg s io req).map IoctlResult.answered := by
  cases req with
  | claim k rt data => exact run_ioctlClaimInfoCode s cfg k true rt data io
  | info k data => exact run_ioctlClaimInfoCode s cfg k false false data io
  | release k rt data => exact run_ioctlReleaseCode s k data
  | getMaxManagedDevices v => rfl
  | getMaxDevMemRegions v => rfl
  | getMaxDevEvents v => rfl
  | getId k v d i => exact run_ioctlGetIdCode s k d i io
  | getRefCount k v id => exact run_ioctlRefCountCode s k false id
  | decrementRefCount k v id => exact run_ioctlRefCountCode s k true id
  | janitorRegisterPid => rfl
  | getKernelCommitId v => simp [ioctlCommandCode, ioctlCommand, replyWith_answered]
  | getDriverInfo v d => exact run_ioctlInfoStringCode s Device.driverInfo d io
  | getHwInfo v d => exact run_ioctlInfoStringCode s Device.hwInfo d io
  | getKernelVersionCode v => rfl
  | getKernelVariant v => simp [ioctlCommandCode, ioctlCommand, replyWith_answered]
  | eventsrcIsEnabled v d i => exact run_ioctlEventsrcIsEnabledCode s d i io
  | unknown => rfl

theorem run_managerIoctlCode (cfg : Config) (req : Request) (io : IoFaults) :
    (managerIoctlCode cfg req io).run s =
      (managerIoctl cfg s req io).map IoctlResult.answered := by
  unfold managerIoctlCode managerIoctl
  cases io.kzallocFails with
  | true => rfl
  | false =>
      simp only [Bool.false_eq_true, if_false, Prog.run_locked, ioctlSwitchCode]
      cases req.versionCode? with
      | none => exact run_ioctlCommandCode s cfg req io
      | some v =>
          cases hcopy : io.copyFromUserFails with
          | true => simp [IoctlResult.answered]
          | false =>
              cases hcompat : versionCodeIsCompat v with
              | false => simp [IoctlResult.answered, hcompat]
              | true => simpa [hcompat] using run_ioctlCommandCode s cfg req io

/-! ### Managing and releasing -/

theorem run_nextInstanceLoopCode (dev : Device) (fuel slot : Nat) (instanceId : Int) :
    (nextInstanceLoopCode dev fuel slot instanceId).run s =
      some (nextInstanceLoop s dev fuel slot instanceId, s) := by
  induction fuel generalizing slot instanceId with
  | zero => rfl
  | succ fuel ih =>
      unfold nextInstanceLoopCode nextInstanceLoop
      rw [Prog.run_bind, run_managerFindDeviceSlotMatchingCode, Option.bind_some]
      cases managerFindDeviceSlotMatching s dev.groupChars dev.nameChars none instanceId none
          slot with
      | none => rfl
      | some d =>
          by_cases hlast : d.val < maxManagedDevices - 1
          · simp only [hlast, if_true]
            exact ih _ _
          · simp only [hlast, if_false]
            rfl

theorem run_assignInstanceCode (dev : Device) :
    (assignInstanceCode dev).run s = some (assignInstance s dev, s) := by
  unfold assignInstanceCode assignInstance
  by_cases hauto : dev.instanceId = 0
  · simp only [hauto, if_true, Prog.run_bind, run_nextInstanceLoopCode, Option.bind_some]
    rfl
  · simp [hauto]

@[simp] theorem run_managerAddDeviceCode :
    (managerAddDeviceCode p).run s = some (managerAddDevice s p) := by
  unfold managerAddDeviceCode managerAddDevice managerFindEmptySlot
  rw [Prog.run_bind, run_managerFindDeviceSlotCode, Option.bind_some]
  cases managerFindDeviceSlot s none with
  | none => rfl
  | some d => simp

@[simp] theorem run_managerRemoveDeviceCode :
    (managerRemoveDeviceCode p).run s = some (managerRemoveDevice s p) := by
  unfold managerRemoveDeviceCode managerRemoveDevice
  rw [Prog.run_bind, run_managerFindDeviceSlotCode, Option.bind_some]
  cases managerFindDeviceSlot s (some p) with
  | none => rfl
  | some d => simp

@[simp] theorem setDevice_setDevice (dev dev' : Device) :
    (s.setDevice p dev).setDevice p dev' = s.setDevice p dev' := by
  simp [KernelState.setDevice]

theorem run_deviceManageCode (cfg : Config) (out : RegOutcome) :
    (deviceManageCode cfg p out).run s =
      some ((deviceManage cfg s p out).ret, (deviceManage cfg s p out).state) := by
  unfold deviceManageCode deviceManage
  simp only [Prog.run_locked, Prog.run_bind, Prog.run_load, Option.bind_some]
  cases hgroup : (s.heap p).group.isNone with
  | true => rfl
  | false =>
      cases hname : (s.heap p).name.isNone with
      | true => rfl
      | false =>
          simp only [Bool.false_eq_true, if_false, Prog.run_bind, run_assignInstanceCode,
            Option.bind_some]
          cases assignInstance s (s.heap p) with
          | error e => rfl
          | ok dev =>
              simp only [Prog.run_bind, Prog.run_store, Option.bind_some, setDevice_setDevice]
              by_cases hret : (deviceRegister cfg dev out).ret = 0
              · simp only [hret, ne_eq, not_true_eq_false, if_false, run_managerAddDeviceCode]
                by_cases hadded : (managerAddDevice
                    (s.setDevice p (deviceRegister cfg dev out).dev) p).1 = 0
                · simp [hadded, Prod.ext_iff]
                · simp [hadded]
              · simp [hret]

theorem run_deviceReleaseCode (cfg : Config) (out : RegOutcome) :
    (deviceReleaseCode cfg p out).run s =
      some ((deviceRelease cfg s p out).ret, (deviceRelease cfg s p out).state) := by
  unfold deviceReleaseCode deviceRelease
  have hheap : (managerRemoveDevice s p).2.heap = s.heap := by
    unfold managerRemoveDevice
    split <;> rfl
  by_cases hremoved : (managerRemoveDevice s p).1 = 0
  · simp [hremoved, hheap]
  · simp [hremoved]

/-! ### Cleaning up -/

theorem resourceDecrRefCount_setRefs {k : ResourceKind} (l : List (ResourceRef k)) :
    resourceDecrRefCount (s.setRefs k l) p x =
      ((resourceDecrRefCount s p x).1, (resourceDecrRefCount s p x).2.setRefs k l) := by
  by_cases hzero : (s.heap p).refCount x = 0
  · simp [resourceDecrRefCount, hzero]
  · have howner : ∀ (t : KernelState) (f : Module → Module),
        (t.setRefs k l).withOwner p f = (t.withOwner p f).setRefs k l := by
      intro t f
      unfold KernelState.withOwner
      rw [KernelState.setRefs_heap]
      split <;> rfl
    simp only [resourceDecrRefCount, KernelState.setRefs_heap, hzero, if_false,
      KernelState.dropRef]
    exact congrArg (Prod.mk 0) (howner (s.setRefCount p x ((s.heap p).refCount x - 1)) modulePut)

theorem setRefs_setRefs {k : ResourceKind} (l l' : List (ResourceRef k)) :
    (s.setRefs k l).setRefs k l' = s.setRefs k l' := by
  simp [KernelState.setRefs]

theorem setRefs_self (k : ResourceKind) : s.setRefs k (s.refs k) = s := by
  simp [KernelState.setRefs]

/-- The list is taken apart as the loop goes; `freeRefsLoop` keeps what stays and writes it at the
end. -/
theorem run_freeRefsLoopCode {k : ResourceKind} (pid : Pid) (rest : List (ResourceRef k)) :
    ∀ (kept : List (ResourceRef k)) (s : KernelState),
      (freeRefsLoopCode pid kept rest).run (s.setRefs k (kept ++ rest)) =
        (freeRefsLoop pid rest s).map fun r => ((), r.2.setRefs k (kept ++ r.1)) := by
  induction rest with
  | nil =>
      intro kept s
      rfl
  | cons pos rest ih =>
      intro kept s
      unfold freeRefsLoopCode freeRefsLoop
      by_cases hpid : pos.pid = pid
      · simp only [hpid, if_true, Prog.run_bind, Prog.run_load, Option.bind_some,
          KernelState.setRefs_devices]
        cases s.devices pos.token.deviceIndex with
        | none => rfl
        | some dev =>
            simp only [Prog.run_bind, run_resourceDecrRefCountCode, Option.bind_some,
              Prog.run_store, resourceDecrRefCount_setRefs, setRefs_setRefs, kindDecrRefCount_eq]
            exact ih kept _
      · -- the entry stays: it joins those in front
        have hkeep := ih (kept ++ [pos]) s
        simp only [List.append_assoc, List.singleton_append] at hkeep
        simp only [hpid, if_false, hkeep, Option.map_map]
        rfl

theorem run_freeRefsCode (k : ResourceKind) (pid : Pid) :
    (freeRefsCode k pid).run s = (freeRefs k pid s).map fun s' => ((), s') := by
  have hloop := run_freeRefsLoopCode pid (s.refs k) [] s
  rw [List.nil_append, setRefs_self] at hloop
  unfold freeRefsCode freeRefs
  rw [Prog.run_bind, Prog.run_load, Option.bind_some, hloop, Option.map_map]
  rfl

theorem run_managerFreeRefsForPidCode (pid : Pid) :
    (managerFreeRefsForPidCode pid).run s =
      (managerFreeRefsForPid s pid).map fun s' => ((), s') := by
  unfold managerFreeRefsForPidCode managerFreeRefsForPid
  rw [Prog.run_locked, Prog.run_bind, run_freeRefsCode]
  cases freeRefs .memregion pid s with
  | none => rfl
  | some t => exact run_freeRefsCode t .eventsrc pid

end RunAlone

/-! ## One critical section each -/

theorem plain_countCode (p : DevPtr) (x : ResIdx) (count : Nat → Nat) (f : Module → Module) :
    Plain (countCode p x count f) := by
  refine (Plain.load _).bind fun n => (Plain.store _).bind fun _ => (Plain.load _).bind ?_
  intro owner
  cases owner with
  | none => exact .ret ()
  | some m => exact Plain.store _

theorem body_resourceClaimCode (p : DevPtr) (x : ResIdx) (hostile : Bool) :
    Body .global (resourceClaimCode p x hostile) := by
  refine Plain.locked ((Plain.load _).bind fun n => (Plain.load _).bind fun shared => ?_)
    (by simp)
  split
  · exact .ret _
  · exact (plain_countCode _ _ _ _).bind fun _ => .ret 0

theorem body_resourceDecrRefCountCode (p : DevPtr) (x : ResIdx) :
    Body .global (resourceDecrRefCountCode p x) := by
  refine Plain.locked ((Plain.load _).bind fun n => ?_) (by simp)
  split
  · exact .ret _
  · exact (plain_countCode _ _ _ _).bind fun _ => .ret 0

/-- A load, and what is done with the value. -/
theorem body_load {α β : Type} {f : KernelState → α} {k : α → Code β}
    (hk : ∀ a, Body .global (k a)) : Body .global (load f >>= k) :=
  (Plain.load f).body.bind hk

theorem body_store {β : Type} {f : KernelState → KernelState} {k : Unit → Code β}
    (hk : ∀ u, Body .global (k u)) : Body .global (store f >>= k) :=
  (Plain.store f).body.bind hk

theorem body_managerLookupCode (k : ResourceKind) (id : ResourceId) :
    Body .global (managerLookupCode k id) := by
  refine (body_scanFrom _ _).bind fun found => ?_
  cases found with
  | none => exact .pure _
  | some d =>
      refine body_load fun dev => ?_
      cases dev with
      | none => exact .pure _
      | some p => exact (body_scanFrom _ _).bind fun i => .pure _

theorem body_ioctlClaimInfoCode (cfg : Config) (k : ResourceKind) (claim rt : Bool)
    (data : ClaimData) (io : IoFaults) :
    Body .global (ioctlClaimInfoCode cfg k claim rt data io) := by
  refine (body_managerLookupCode k data.id).bind fun found => ?_
  cases found with
  | none => exact .pure _
  | some r =>
      rcases r with ⟨slot, dev, i⟩
      have hclaim : Body .global (claimIfCode claim dev ⟨k, i⟩ data.hostile) := by
        cases claim with
        | true => exact body_resourceClaimCode _ _ _
        | false => exact .pure 0
      refine hclaim.bind fun ret => ?_
      split
      · exact .pure _
      · refine body_load fun reply => ?_
        split
        · exact (body_resourceDecrRefCountCode _ _).bind fun _ => .pure _
        · split
          · split
            · exact (body_resourceDecrRefCountCode _ _).bind fun _ => .pure _
            · exact body_load fun refs => body_store fun _ => .pure _
          · exact .pure _

theorem body_slotCode {deviceIndex : Int} {k : Slot → DevPtr → Code Answer}
    (hk : ∀ slot dev, Body .global (k slot dev)) : Body .global (slotCode deviceIndex k) := by
  unfold slotCode
  split
  · exact .pure _
  · refine body_load fun dev => ?_
    cases dev with
    | none => exact .pure _
    | some p => exact hk _ p

theorem body_ioctlReleaseCode (k : ResourceKind) (data : ReleaseData) :
    Body .global (ioctlReleaseCode k data) := by
  refine body_slotCode fun slot dev => ?_
  split
  · exact .pure _
  · exact (body_resourceDecrRefCountCode _ _).bind fun _ =>
      body_load fun refs => body_store fun _ => .pure _

theorem body_ioctlGetIdCode (k : ResourceKind) (deviceSlot resourceSlot : Int) (io : IoFaults) :
    Body .global (ioctlGetIdCode k deviceSlot resourceSlot io) := by
  unfold ioctlGetIdCode
  split
  · exact .pure _
  · exact .pure _
  · refine body_load fun dev => ?_
    cases dev with
    | none => exact .pure _
    | some p =>
        refine body_load fun isEmpty => ?_
        split
        · exact .pure _
        · refine body_load fun id => ?_
          cases id with
          | none => exact .crash
          | some id => exact .pure _

theorem body_ioctlRefCountCode (k : ResourceKind) (decrement : Bool) (id : ResourceId) :
    Body .global (ioctlRefCountCode k decrement id) := by
  refine (body_managerLookupCode k id).bind fun found => ?_
  cases found with
  | none => exact .pure _
  | some r =>
      dsimp only
      split
      · exact (body_resourceDecrRefCountCode _ _).bind fun _ => .pure _
      · exact body_load fun n => .pure _

theorem body_ioctlInfoStringCode (field : Device → Option KStr) (deviceSlot : Int)
    (io : IoFaults) : Body .global (ioctlInfoStringCode field deviceSlot io) :=
  body_slotCode fun _ _ => body_load fun _ => .pure _

theorem body_ioctlEventsrcIsEnabledCode (deviceIndex resourceIndex : Int) (io : IoFaults) :
    Body .global (ioctlEventsrcIsEnabledCode deviceIndex resourceIndex io) := by
  refine body_slotCode fun _ dev => ?_
  split
  · exact .pure _
  · refine body_load fun isEnabled => ?_
    split
    · exact .pure _
    · exact .pure _

theorem body_ioctlCommandCode (cfg : Config) (io : IoFaults) (req : Request) :
    Body .global (ioctlCommandCode cfg io req) := by
  cases req with
  | claim k rt data => exact body_ioctlClaimInfoCode cfg k true rt data io
  | info k data => exact body_ioctlClaimInfoCode cfg k false false data io
  | release k rt data => exact body_ioctlReleaseCode k data
  | getId k v d i => exact body_ioctlGetIdCode k d i io
  | getRefCount k v id => exact body_ioctlRefCountCode k false id
  | decrementRefCount k v id => exact body_ioctlRefCountCode k true id
  | getDriverInfo v d => exact body_ioctlInfoStringCode Device.driverInfo d io
  | getHwInfo v d => exact body_ioctlInfoStringCode Device.hwInfo d io
  | eventsrcIsEnabled v d i => exact body_ioctlEventsrcIsEnabledCode d i io
  | _ => exact .pure _

theorem oneSection_managerIoctlCode (cfg : Config) (req : Request) (io : IoFaults) :
    OneSection .global (managerIoctlCode cfg req io) := by
  unfold managerIoctlCode
  split
  · exact .ret _
  · refine Body.oneSection ?_
    unfold ioctlSwitchCode
    split
    · exact body_ioctlCommandCode cfg io req
    · split
      · exact .pure _
      · split
        · exact .pure _
        · exact body_ioctlCommandCode cfg io req

theorem body_nextInstanceLoopCode (dev : Device) (fuel slot : Nat) (instanceId : Int) :
    Body .global (nextInstanceLoopCode dev fuel slot instanceId) := by
  induction fuel generalizing slot instanceId with
  | zero => exact .pure _
  | succ fuel ih =>
      refine (body_scanFrom _ _).bind fun found => ?_
      cases found with
      | none => exact .pure _
      | some d =>
          dsimp only
          split
          · exact ih _ _
          · exact .pure _

theorem body_assignInstanceCode (dev : Device) : Body .global (assignInstanceCode dev) := by
  unfold assignInstanceCode
  split
  · exact (body_nextInstanceLoopCode _ _ _ _).bind fun _ => .pure _
  · exact .pure _

theorem body_managerAddDeviceCode (p : DevPtr) : Body .global (managerAddDeviceCode p) := by
  refine (body_scanFrom _ _).bind fun found => ?_
  cases found with
  | none => exact .pure _
  | some d => exact body_store fun _ => .pure _

theorem body_managerRemoveDeviceCode (p : DevPtr) :
    Body .global (managerRemoveDeviceCode p) := by
  refine (body_scanFrom _ _).bind fun found => ?_
  cases found with
  | none => exact .pure _
  | some d => exact body_store fun _ => .pure _

theorem oneSection_deviceManageCode (cfg : Config) (p : DevPtr) (out : RegOutcome) :
    OneSection .global (deviceManageCode cfg p out) := by
  refine Body.oneSection (body_load fun dev => ?_)
  split
  · exact .pure _
  · split
    · exact .pure _
    · refine (body_assignInstanceCode dev).bind fun assigned => ?_
      cases assigned with
      | error e => exact .pure _
      | ok dev =>
          refine body_store fun _ => body_store fun _ => ?_
          split
          · exact .pure _
          · exact body_managerAddDeviceCode p

theorem oneSection_deviceReleaseCode (cfg : Config) (p : DevPtr) (out : RegOutcome) :
    OneSection .global (deviceReleaseCode cfg p out) :=
  Body.oneSection ((body_managerRemoveDeviceCode p).bind fun _ => body_load fun _ => .pure _)

theorem body_freeRefsLoopCode {k : ResourceKind} (pid : Pid) (rest : List (ResourceRef k)) :
    ∀ kept, Body .global (freeRefsLoopCode pid kept rest) := by
  induction rest with
  | nil => exact fun _ => .pure ()
  | cons pos rest ih =>
      intro kept
      unfold freeRefsLoopCode
      split
      · refine body_load fun dev => ?_
        cases dev with
        | none => exact .crash
        | some p =>
            exact (body_resourceDecrRefCountCode _ _).bind fun _ => body_store fun _ => ih _
      · exact ih _

theorem oneSection_managerFreeRefsForPidCode (pid : Pid) :
    OneSection .global (managerFreeRefsForPidCode pid) :=
  Body.oneSection ((body_load fun _ => body_freeRefsLoopCode pid _ _).bind fun _ =>
    body_load fun _ => body_freeRefsLoopCode pid _ _)

theorem oneSection_callCode (cfg : Config) (c : Call) :
    OneSection .global (callCode cfg c) := by
  cases c with
  | ioctl req io => exact oneSection_managerIoctlCode cfg req io
  | manage p out => exact (oneSection_deviceManageCode cfg p out).map _
  | release p out => exact (oneSection_deviceReleaseCode cfg p out).map _
  | freeRefs pid => exact (oneSection_managerFreeRefsForPidCode pid).map _

/-! ## The calls as actions -/

/-- Run alone, the programs do what the functions they spell out do. -/
theorem meaning_callCode (cfg : Config) : meaning (callCode cfg) = callResult cfg := by
  funext c s
  cases c with
  | ioctl req io => exact run_managerIoctlCode s cfg req io
  | manage p out =>
      simp only [meaning, callCode, Prog.run_bind', run_deviceManageCode]
      rfl
  | release p out =>
      simp only [meaning, callCode, Prog.run_bind', run_deviceReleaseCode]
      rfl
  | freeRefs pid =>
      simp only [meaning, callCode, Prog.run_bind', run_managerFreeRefsForPidCode, callResult]
      cases managerFreeRefsForPid s pid with
      | none => rfl
      | some s' => rfl

/-- A call does to the state what its action does. -/
theorem effect_callResult (cfg : Config) (c : Call) (s : KernelState) :
    effect (callResult cfg) c s = exec cfg c.op s := by
  cases c with
  | ioctl req io => simp [effect, callResult, exec, Call.op, Option.map_map, Function.comp_def]
  | manage p out => rfl
  | release p out => rfl
  | freeRefs pid => simp [effect, callResult, exec, Call.op, Option.map_map, Function.comp_def]

end Cuddl
