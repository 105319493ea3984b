import Mathlib.Algebra.BigOperators.Group.Finset.Basic
import Cuddl.Foundation.Resources
import Cuddl.Kernel.Janitor
import Cuddl.Kernel.System

/-!
# The modules and what they allocate

The manager and the janitor as kernel modules: `cuddlk_manager_init` and `cuddlk_janitor_init` with
their clean-up, the ten buffers of `cuddlk_manager_ioctl`, the blocks of the list entries, and the
`private_data` of janitor files.  The functions that allocate or free are programs over a store of
what is held (`Foundation.Resources`); the manager's state they compute is that of the functions of
the other modules, which leave the blocks out.

The unique names of devices are left out here.
-/

namespace Cuddl

open Foundation Foundation.Resources

/-! ## What is allocated -/

/-- The buffers of `cuddlk_manager_ioctl`. -/
inductive Buffer
  | mdata
  | edata
  | mrdata
  | erdata
  | getIdData
  | commitData
  | driverInfoData
  | voidData
  | idData
  | isEnabledData
  deriving DecidableEq

/-- In the order of their `kzalloc` calls. -/
def Buffer.all : List Buffer :=
  [ .mdata, .edata, .mrdata, .erdata, .getIdData, .commitData, .driverInfoData, .voidData
  , .idData, .isEnabledData ]

/-- The two modules with a character device. -/
inductive CharDevice
  | manager
  | janitor
  deriving DecidableEq

inductive Block
  /-- `cuddlk_global_manager_ptr` -/
  | globalManager
  | chrdevRegion (c : CharDevice)
  | cdev (c : CharDevice)
  | deviceClass (c : CharDevice)
  | deviceNode (c : CharDevice)
  | buffer (b : Buffer)
  /-- An entry of a reference list. -/
  | ref (k : ResourceKind)
  /-- `private_data` of a janitor file. -/
  | pid
  deriving DecidableEq

/-- `struct cuddlk_resource_ref_list`, with its address. -/
structure Entry (k : ResourceKind) where
  ref : ResourceRef k
  addr : Nat

def Entry.block {k : ResourceKind} (e : Entry k) : Item Block :=
  ⟨e.addr, .ref k⟩

/-! ## Loading and unloading -/

/-- What the calls made by an initialisation return. -/
structure InitOutcome where
  kzallocFails : Bool
  allocChrdevRegion : Int
  cdevAdd : Int
  classCreateFails : Bool
  deviceCreateFails : Bool

/-- `enum cuddlk_manager_init_failure` and `enum cuddlk_janitor_init_failure`, which has no
`allocManager`. -/
inductive InitFailure
  | allocManager
  | allocChrdev
  | cdevAdd
  | classCreate
  | deviceCreate
  | noFailure

/-- `cuddlk_manager_dev`, `_cdev`, `_class` and `_device`, or those of the janitor. -/
structure CharDeviceVars where
  dev : Option Nat
  cdev : Option Nat
  deviceClass : Option Nat
  device : Option Nat
  deriving DecidableEq

def CharDeviceVars.zeroed : CharDeviceVars :=
  { dev := none, cdev := none, deviceClass := none, device := none }

/-- The part that `cuddlk_manager_init` and `cuddlk_janitor_init` have in common: what is returned,
and how far it came. -/
def charDeviceInit (c : CharDevice) (out : InitOutcome) (v : CharDeviceVars) :
    Prog Block (Int × InitFailure × CharDeviceVars) := do
  if out.allocChrdevRegion < 0 then
    return (out.allocChrdevRegion, .allocChrdev, v)
  let v := { v with dev := some (← acquire (.chrdevRegion c)) }
  if out.cdevAdd < 0 then
    return (out.cdevAdd, .cdevAdd, v)
  let v := { v with cdev := some (← acquire (.cdev c)) }
  if out.classCreateFails then
    return (-Errno.ENODEV, .classCreate, v)
  let v := { v with deviceClass := some (← acquire (.deviceClass c)) }
  if out.deviceCreateFails then
    return (-Errno.ENODEV, .deviceCreate, v)
  let v := { v with device := some (← acquire (.deviceNode c)) }
  return (0, .noFailure, v)

/-- Give back what a variable names. -/
def giveBack (k : Block) : Option Nat → Prog Block Unit
  | none => failure
  | some id => release ⟨id, k⟩

/-- The cases of `cuddlk_manager_cleanup` and `cuddlk_janitor_cleanup` that they have in common;
each falls through to the next. -/
def charDeviceCleanup (c : CharDevice) (v : CharDeviceVars) : InitFailure → Prog Block Unit
  | .noFailure => do
      giveBack (.deviceNode c) v.device
      giveBack (.deviceClass c) v.deviceClass
      giveBack (.cdev c) v.cdev
      giveBack (.chrdevRegion c) v.dev
  | .deviceCreate => do
      giveBack (.deviceClass c) v.deviceClass
      giveBack (.cdev c) v.cdev
      giveBack (.chrdevRegion c) v.dev
  | .classCreate => do
      giveBack (.cdev c) v.cdev
      giveBack (.chrdevRegion c) v.dev
  | .cdevAdd => giveBack (.chrdevRegion c) v.dev
  | .allocChrdev | .allocManager => pure ()

structure ManagerVars where
  globalManagerPtr : Option Nat
  char : CharDeviceVars
  deriving DecidableEq

/-- `cuddlk_manager_cleanup` -/
def managerCleanup (v : ManagerVars) (failure : InitFailure) : Prog Block ManagerVars := do
  charDeviceCleanup .manager v.char failure
  match failure with
  | .allocManager => pure ()
  | _ => giveBack .globalManager v.globalManagerPtr
  return { globalManagerPtr := none, char := { v.char with device := none } }

/-- `cuddlk_manager_init` -/
def managerInit (out : InitOutcome) (v : ManagerVars) : Prog Block (Int × ManagerVars) := do
  match ← tryAcquire .globalManager out.kzallocFails with
  | none => return (-Errno.ENOMEM, ← managerCleanup { v with globalManagerPtr := none } .allocManager)
  | some ptr =>
      let (ret, failure, char) ← charDeviceInit .manager out v.char
      let v : ManagerVars := { globalManagerPtr := some ptr, char := char }
      match failure with
      | .noFailure => return (ret, v)
      | failure => return (ret, ← managerCleanup v failure)

/-- `cuddlk_janitor_init` -/
def janitorInit (out : InitOutcome) (v : CharDeviceVars) : Prog Block (Int × CharDeviceVars) := do
  let (ret, failure, v) ← charDeviceInit .janitor out v
  match failure with
  | .noFailure => return (ret, v)
  | failure =>
      charDeviceCleanup .janitor v failure
      return (ret, v)

/-- One of the two loops of `cuddlk_manager_exit`. -/
def freeEntries {k : ResourceKind} : List (Entry k) → Prog Block Unit
  | [] => pure ()
  | pos :: rest => do
      release pos.block
      freeEntries rest

/-! ## The manager with its list entries -/

/-- The manager's state, with the blocks of its list entries. -/
structure ManagerState where
  kernel : KernelState
  entries : (k : ResourceKind) → List (Entry k)

def ManagerState.setEntries (m : ManagerState) (k : ResourceKind) (s : KernelState)
    (l : List (Entry k)) : ManagerState :=
  { kernel := s, entries := Function.update m.entries k l }

/-- `ioctlClaimInfo` with the entry that a claim allocates. -/
def claimInfoEntries (cfg : Config) (k : ResourceKind) (claim rt : Bool) (data : ClaimData)
    (io : IoFaults) (s : KernelState) (l : List (Entry k)) :
    Prog Block (IoctlResult × List (Entry k)) :=
  match managerLookup s k data.id with
  | none => pure (⟨-Errno.ENXIO, s, none⟩, l)
  | some (slot, dev, i) =>
      let claimed := if claim then kindClaim k s dev i data.hostile else (0, s)
      if claimed.1 ≠ 0 then
        pure (⟨claimed.1, claimed.2, none⟩, l)
      else
        let s := claimed.2
        let token : Token k := ⟨slot, i⟩
        let reply := infoReply cfg (s.heap dev) rt k token
        if io.copyToUserFails then
          pure (⟨-Errno.EOVERFLOW, (kindDecrRefCount k s dev i).2, none⟩, l)
        else if claim then do
          match ← tryAcquire (.ref k) io.refAllocFails with
          | none => return (⟨-Errno.ENOMEM, (kindDecrRefCount k s dev i).2, some reply⟩, l)
          | some addr =>
              let ref : ResourceRef k := ⟨token, data.pid⟩
              return (⟨0, s.setRefs k (ref :: s.refs k), some reply⟩, ⟨ref, addr⟩ :: l)
        else
          pure (⟨0, s, some reply⟩, l)

/-- The loop over the list in the RELEASE commands. -/
def strikeEntry {k : ResourceKind} (ref : ResourceRef k) :
    List (Entry k) → Prog Block (List (Entry k))
  | [] => pure []
  | pos :: rest =>
      if pos.ref = ref then do
        release pos.block
        return rest
      else do
        return pos :: (← strikeEntry ref rest)

/-- `ioctlRelease` with the entry that is freed. -/
def releaseEntries (k : ResourceKind) (data : ReleaseData) (s : KernelState)
    (l : List (Entry k)) : Prog Block (IoctlResult × List (Entry k)) :=
  match inRange maxManagedDevices data.deviceIndex with
  | none => pure (⟨-Errno.EBADSLT, s, none⟩, l)
  | some slot =>
      match s.devices slot with
      | none => pure (⟨-Errno.ENODEV, s, none⟩, l)
      | some dev =>
          match inRange k.max data.resourceIndex with
          | none => pure (⟨-Errno.EBADSLT, s, none⟩, l)
          | some i => do
              let s := (kindDecrRefCount k s dev i).2
              let l ← strikeEntry ⟨⟨slot, i⟩, data.pid⟩ l
              return (⟨0, s.setRefs k (l.map Entry.ref), none⟩, l)

/-- The commands of `cuddlk_manager_ioctl`, with their list entries. -/
def commandEntries (cfg : Config) (io : IoFaults) (m : ManagerState) :
    Request → Prog Block (IoctlResult × ManagerState)
  | .claim k rt data => do
      let (res, l) ← claimInfoEntries cfg k true rt data io m.kernel (m.entries k)
      return (res, m.setEntries k res.state l)
  | .info k data => do
      let (res, l) ← claimInfoEntries cfg k false false data io m.kernel (m.entries k)
      return (res, m.setEntries k res.state l)
  | .release k _ data => do
      let (res, l) ← releaseEntries k data m.kernel (m.entries k)
      return (res, m.setEntries k res.state l)
  | req =>
      match ioctlCommand cfg m.kernel io req with
      | none => failure
      | some res => pure (res, { m with kernel := res.state })

/-- `cuddlk_manager_exit` -/
def managerExit (m : ManagerState) (v : ManagerVars) : Prog Block ManagerVars := do
  freeEntries (m.entries .memregion)
  freeEntries (m.entries .eventsrc)
  managerCleanup v .noFailure

/-- `cuddlk_manager_ioctl` between the allocation of its buffers and their release. -/
def lockedEntries (cfg : Config) (io : IoFaults) (m : ManagerState) (req : Request) :
    Prog Block (IoctlResult × ManagerState) :=
  match req.versionCode? with
  | none => commandEntries cfg io m req
  | some userVersionCode =>
      if io.copyFromUserFails then
        pure (⟨-Errno.EOVERFLOW, m.kernel, none⟩, m)
      else if versionCodeIsCompat userVersionCode = false then
        pure (⟨-Errno.ENOEXEC, m.kernel, none⟩, m)
      else
        commandEntries cfg io m req

/-- The outcome of the `kzalloc` calls at the start. -/
def bufferOutcome (refused : Buffer → Bool) : Block → Int
  | .buffer b => if refused b then -Errno.ENOMEM else 0
  | _ => 0

/-- `cuddlk_manager_ioctl` -/
def managerIoctlEntries (cfg : Config) (m : ManagerState) (req : Request) (io : IoFaults)
    (refused : Buffer → Bool) : Prog Block (IoctlResult × ManagerState) := do
  -- a `kzalloc` that fails frees the buffers before it, the newest first
  let (ret, buffers) ← acquireAll (bufferOutcome refused) (Buffer.all.map .buffer) []
  if ret < 0 then
    return (⟨ret, m.kernel, none⟩, m)
  let (res, m) ← lockedEntries cfg io m req
  releaseAll buffers
  return (res, m)

/-- One of the two loops of `cuddlk_manager_free_refs_for_pid`, with the entries that it frees. -/
def freeEntriesLoop {k : ResourceKind} (pid : Pid) :
    List (Entry k) → KernelState → Prog Block (List (Entry k) × KernelState)
  | [], s => pure ([], s)
  | pos :: rest, s =>
      if pos.ref.pid = pid then
        match s.devices pos.ref.token.deviceIndex with
        | none => failure
        | some dev => do
            let s := (kindDecrRefCount k s dev pos.ref.token.resourceIndex).2
            release pos.block
            freeEntriesLoop pid rest s
      else do
        let (kept, s) ← freeEntriesLoop pid rest s
        return (pos :: kept, s)

def freeEntriesOfKind (k : ResourceKind) (pid : Pid) (m : ManagerState) :
    Prog Block ManagerState := do
  let (kept, s) ← freeEntriesLoop pid (m.entries k) m.kernel
  return m.setEntries k (s.setRefs k (kept.map Entry.ref)) kept

/-- `cuddlk_manager_free_refs_for_pid` -/
def freeEntriesForPid (m : ManagerState) (pid : Pid) : Prog Block ManagerState := do
  let m ← freeEntriesOfKind .memregion pid m
  freeEntriesOfKind .eventsrc pid m

/-! ## Janitor files -/

/-- `private_data` of a janitor file: the pid in it, and its address. -/
structure PrivateData where
  pid : Pid
  addr : Nat

def PrivateData.block (d : PrivateData) : Item Block :=
  ⟨d.addr, .pid⟩

/-- `cuddlk_janitor_ioctl` with the block that it allocates.  What `private_data` named before is
overwritten. -/
def janitorIoctlData (register : Bool) (pid : Pid) (faults : JanitorFaults)
    (privateData : Option PrivateData) : Prog Block (Int × Option PrivateData) :=
  if register = false then pure (-Errno.ENOSYS, privateData)
  else if faults.copyFromUserFails then pure (-Errno.EOVERFLOW, privateData)
  else do
    match ← tryAcquire .pid faults.kzallocFails with
    | none => return (-Errno.ENOMEM, none)
    | some addr => return (0, some ⟨pid, addr⟩)

/-- `cuddlk_janitor_release` -/
def janitorReleaseData (privateData : Option PrivateData) (m : ManagerState) :
    Prog Block ManagerState :=
  match privateData with
  | none => pure m
  | some d => do
      let m ← freeEntriesForPid m d.pid
      release d.block
      return m

/-! ## The two modules as a machine -/

/-- A file of the janitor device. -/
abbrev JanitorId := Nat

structure Modules where
  manager : ManagerState
  managerLoaded : Bool
  managerVars : ManagerVars
  janitorLoaded : Bool
  janitorVars : CharDeviceVars
  /-- The open files of the janitor device. -/
  files : Finset JanitorId
  privateData : JanitorId → Option PrivateData
  /-- History: how often a `private_data` that named a block has been overwritten. -/
  lost : Nat
  store : Store Block

inductive ModulesOp
  | managerInit (out : InitOutcome)
  | managerExit
  /-- A driver prepares, manages or releases a device. -/
  | fill (p : DevPtr) (dev : Device)
  | manage (p : DevPtr) (out : RegOutcome)
  | release (p : DevPtr) (out : RegOutcome)
  | ioctl (req : Request) (io : IoFaults) (refused : Buffer → Bool)
  | janitorInit (out : InitOutcome)
  | janitorExit
  | janitorOpen (f : JanitorId)
  | janitorIoctl (f : JanitorId) (register : Bool) (pid : Pid) (faults : JanitorFaults)
  /-- The last descriptor of a janitor file is closed. -/
  | janitorRelease (f : JanitorId)

/-- The ioctl overwrites a `private_data` that names a block. -/
def overwrites (register : Bool) (faults : JanitorFaults) (privateData : Option PrivateData) :
    Bool :=
  register && !faults.copyFromUserFails && privateData.isSome

/-- A program of the modules: what it computes is put back into them by `k`. -/
def Modules.runProg {α : Type} (w : Modules) (x : Prog Block α) (k : α → Modules) :
    Option Modules :=
  (x.run w.store).map fun r => { k r.1 with store := r.2 }

/-- `none` is a kernel crash. -/
def modulesExec (cfg : Config) : ModulesOp → Modules → Option Modules
  | .managerInit out, w =>
      w.runProg (managerInit out w.managerVars) fun r =>
        if r.1 = 0 then
          { w with
            manager :=
              { kernel := { w.manager.kernel with devices := fun _ => none, refs := fun _ => [] }
                entries := fun _ => [] }
            managerLoaded := true
            managerVars := r.2 }
        else { w with managerVars := r.2 }
  | .managerExit, w =>
      w.runProg (managerExit w.manager w.managerVars) fun vars =>
        { w with
          manager :=
            { kernel := { w.manager.kernel with devices := fun _ => none, refs := fun _ => [] }
              entries := fun _ => [] }
          managerLoaded := false
          managerVars := vars }
  | .fill p dev, w =>
      some { w with manager := { w.manager with kernel := w.manager.kernel.setDevice p dev } }
  | .manage p out, w =>
      some { w with
        manager := { w.manager with kernel := (deviceManage cfg w.manager.kernel p out).state } }
  | .release p out, w =>
      some { w with
        manager := { w.manager with kernel := (deviceRelease cfg w.manager.kernel p out).state } }
  | .ioctl req io refused, w =>
      w.runProg (managerIoctlEntries cfg w.manager req io refused) fun r =>
        { w with manager := r.2 }
  | .janitorInit out, w =>
      w.runProg (janitorInit out w.janitorVars) fun r =>
        { w with janitorLoaded := decide (r.1 = 0), janitorVars := r.2 }
  | .janitorExit, w =>
      w.runProg (charDeviceCleanup .janitor w.janitorVars .noFailure) fun _ =>
        { w with janitorLoaded := false }
  | .janitorOpen f, w =>
      some { w with
        files := insert f w.files
        privateData := Function.update w.privateData f none }
  | .janitorIoctl f register pid faults, w =>
      w.runProg (janitorIoctlData register pid faults (w.privateData f)) fun r =>
        { w with
          privateData := Function.update w.privateData f r.2
          lost := w.lost + (overwrites register faults (w.privateData f)).toNat }
  | .janitorRelease f, w =>
      w.runProg (janitorReleaseData (w.privateData f) w.manager) fun m =>
        { w with
          manager := m
          files := w.files.erase f
          privateData := Function.update w.privateData f none }

/-- What the kernel sees to: a module is loaded once, is there while its functions run, and stays
while its files are open or another module uses it. -/
def Permitted (w : Modules) : ModulesOp → Prop
  | .managerInit _ => w.managerLoaded = false
  | .managerExit => w.managerLoaded = true ∧ w.janitorLoaded = false
  | .fill _ _ => True
  | .manage _ _ | .release _ _ | .ioctl _ _ _ => w.managerLoaded = true
  | .janitorInit _ => w.managerLoaded = true ∧ w.janitorLoaded = false
  | .janitorExit => w.janitorLoaded = true ∧ w.files = ∅
  | .janitorOpen f => w.janitorLoaded = true ∧ f ∉ w.files
  | .janitorIoctl f _ _ _ | .janitorRelease f => f ∈ w.files

end Cuddl
