import Cuddl.Foundation.Words
import Cuddl.Kernel.Nodes
import Cuddl.User.Acquire

/-!
# Register access

The accessors of `cuddl/iomem.h` and `cuddl/memregion.h`, and the processes that use them: each
claims memory regions, maps them, accesses what it has mapped and unmaps it, while drivers and other
processes go on.  `hostExec` is the system as it is, with virtual addresses, page tables and device
nodes; `registersExec` is what it is for, with windows on the memory of the devices and nothing in
between.

The calls to `mmap` and `munmap` are not part of this repository: what they return is part of an
action, and `Permitted` says where a new mapping may be.
-/

namespace Cuddl

open Foundation.Paging Foundation.Words

namespace User

/-! ## Accessors -/

section Accessors

variable {D : Type} (cfg : Config) (bus : Bus (Place Int) D) (pages : PageTable Int)

/-- What a pointer to a word of that width points to; `none` is a fault.  A pointer that is not
aligned must not be dereferenced. -/
def deref (w : Width) (addr : UInt64) : Option (Place Int) :=
  if w.bytes ∣ addr.toNat then translate (2 ^ cfg.pageShift) pages addr.toNat else none

/-- `*(volatile uintN_t *) addr` -/
def ioread (w : Width) (addr : UInt64) (d : D) : Option (D × w.Word) :=
  (deref cfg pages w addr).map fun x => bus.read w x d

/-- `*(volatile uintN_t *) addr = value` -/
def iowrite (w : Width) (value : w.Word) (addr : UInt64) (d : D) : Option D :=
  (deref cfg pages w addr).map fun x => bus.write w x value d

/-- `cuddl_ioread8` -/
def ioread8 (addr : UInt64) (d : D) : Option (D × BitVec 8) :=
  ioread cfg bus pages .byte addr d

/-- `cuddl_ioread16` -/
def ioread16 (addr : UInt64) (d : D) : Option (D × BitVec 16) :=
  ioread cfg bus pages .half addr d

/-- `cuddl_ioread32` -/
def ioread32 (addr : UInt64) (d : D) : Option (D × BitVec 32) :=
  ioread cfg bus pages .word addr d

/-- `cuddl_iowrite8` -/
def iowrite8 (value : BitVec 8) (addr : UInt64) (d : D) : Option D :=
  iowrite cfg bus pages .byte value addr d

/-- `cuddl_iowrite16` -/
def iowrite16 (value : BitVec 16) (addr : UInt64) (d : D) : Option D :=
  iowrite cfg bus pages .half value addr d

/-- `cuddl_iowrite32` -/
def iowrite32 (value : BitVec 32) (addr : UInt64) (d : D) : Option D :=
  iowrite cfg bus pages .word value addr d

/-- `(uint8_t *)(memregion->addr) + offset` -/
def Memregion.at (memregion : Memregion) (offset : UInt64) : UInt64 :=
  memregion.addr + offset

/-- `cuddl_memregion_ioread8` -/
def memregionIoread8 (memregion : Memregion) (offset : UInt64) (d : D) :
    Option (D × BitVec 8) :=
  ioread8 cfg bus pages (memregion.at offset) d

/-- `cuddl_memregion_ioread16` -/
def memregionIoread16 (memregion : Memregion) (offset : UInt64) (d : D) :
    Option (D × BitVec 16) :=
  ioread16 cfg bus pages (memregion.at offset) d

/-- `cuddl_memregion_ioread32` -/
def memregionIoread32 (memregion : Memregion) (offset : UInt64) (d : D) :
    Option (D × BitVec 32) :=
  ioread32 cfg bus pages (memregion.at offset) d

/-- `cuddl_memregion_iowrite8` -/
def memregionIowrite8 (memregion : Memregion) (value : BitVec 8) (offset : UInt64) (d : D) :
    Option D :=
  iowrite8 cfg bus pages value (memregion.at offset) d

/-- `cuddl_memregion_iowrite16` -/
def memregionIowrite16 (memregion : Memregion) (value : BitVec 16) (offset : UInt64) (d : D) :
    Option D :=
  iowrite16 cfg bus pages value (memregion.at offset) d

/-- `cuddl_memregion_iowrite32` -/
def memregionIowrite32 (memregion : Memregion) (value : BitVec 32) (offset : UInt64) (d : D) :
    Option D :=
  iowrite32 cfg bus pages value (memregion.at offset) d

/-- The function for a width. -/
def memregionIoread (memregion : Memregion) (offset : UInt64) (d : D) :
    (w : Width) → Option (D × w.Word)
  | .byte => memregionIoread8 cfg bus pages memregion offset d
  | .half => memregionIoread16 cfg bus pages memregion offset d
  | .word => memregionIoread32 cfg bus pages memregion offset d

def memregionIowrite (memregion : Memregion) (offset : UInt64) (d : D) :
    (w : Width) → w.Word → Option D
  | .byte, value => memregionIowrite8 cfg bus pages memregion value offset d
  | .half, value => memregionIowrite16 cfg bus pages memregion value offset d
  | .word, value => memregionIowrite32 cfg bus pages memregion value offset d

variable {cfg bus pages}

theorem memregionIoread_eq (memregion : Memregion) (offset : UInt64) (d : D) (w : Width) :
    memregionIoread cfg bus pages memregion offset d w =
      ioread cfg bus pages w (memregion.at offset) d := by
  cases w with
  | byte => rfl
  | half => rfl
  | word => rfl

theorem memregionIowrite_eq (memregion : Memregion) (offset : UInt64) (d : D) (w : Width)
    (value : w.Word) :
    memregionIowrite cfg bus pages memregion offset d w value =
      iowrite cfg bus pages w value (memregion.at offset) d := by
  cases w with
  | byte => rfl
  | half => rfl
  | word => rfl

end Accessors

end User

/-! ## The system -/

abbrev Reading := (w : Width) × w.Word

/-- A process: the claims it has not given back, its `struct cuddl_memregion` variables, its page
table, and what it has read, newest first. -/
structure IoProcess where
  infos : List MemregionInfo
  regions : Nat → Option User.Memregion
  pages : PageTable Int
  readings : List Reading

def IoProcess.start : IoProcess :=
  { infos := [], regions := fun _ => none, pages := fun _ => none, readings := [] }

structure IoHost (D : Type) where
  kernel : KernelState
  nodes : Nodes
  procs : Pid → IoProcess
  device : D

inductive IoOp
  | kernel (a : Op)
  | claim (pid : Pid) (rt : Bool) (id : ResourceId) (options : BitVec 32) (io : IoFaults)
      (sys : SysFaults)
  /-- Claim number `n` is given back. -/
  | release (pid : Pid) (n : Nat) (rt : Bool) (io : IoFaults) (sys : SysFaults)
  /-- Claim number `n` is mapped into variable `v`; `node` is what has been opened. -/
  | map (pid : Pid) (v n : Nat) (node : NodeMap) (out : User.MapOutcome)
  | unmap (pid : Pid) (v : Nat) (munmap : Option SysErrno)
  | read (pid : Pid) (v : Nat) (w : Width) (offset : UInt64)
  | write (pid : Pid) (v : Nat) (w : Width) (offset : UInt64) (value : w.Word)

/-- The information that a claim leaves with its caller. -/
def CallResult.memregionInfo? (call : CallResult) : Option MemregionInfo :=
  match call.ret, call.reply with
  | 0, some (.memregionInfo info) => some info
  | _, _ => none

variable {D : Type}

def IoHost.put (x : IoHost D) (pid : Pid) (p : IoProcess) : IoHost D :=
  { x with procs := Function.update x.procs pid p }

/-- `none` is a crash, a fault, or an action that is impossible. -/
def hostExec (cfg : Config) (bus : Bus (Place Int) D) : IoOp → IoHost D → Option (IoHost D)
  | .kernel a, x =>
      (exec cfg a x.kernel).bind fun s =>
        (nodesExec cfg a x.kernel x.nodes).map fun n => { x with kernel := s, nodes := n }
  | .claim pid rt id options io sys, x =>
      (User.memregionClaim cfg rt pid id options io sys x.kernel).map fun call =>
        let p := x.procs pid
        { x with kernel := call.state }.put pid
          { p with infos := call.memregionInfo?.toList ++ p.infos }
  | .release pid n rt io sys, x =>
      let p := x.procs pid
      p.infos[n]?.bind fun info =>
        (User.memregionReleaseByToken cfg rt pid info.token io sys x.kernel).map fun call =>
          { x with kernel := call.state }.put pid { p with infos := p.infos.eraseIdx n }
  | .map pid v n node out, x =>
      let p := x.procs pid
      p.infos[n]?.bind fun info =>
        match (User.memregionMap info out).2 with
        | none => some x
        | some r =>
            (x.nodes.place node).map fun place =>
              x.put pid
                { p with
                  regions := Function.update p.regions v (some r)
                  pages :=
                    p.pages.map (2 ^ cfg.pageShift) r.paAddr.toNat r.paLen.toNat place }
  | .unmap pid v munmap, x =>
      let p := x.procs pid
      (p.regions v).map fun r =>
        x.put pid
          { p with
            regions := Function.update p.regions v none
            pages :=
              if munmap.isNone then
                p.pages.unmap (2 ^ cfg.pageShift) r.paAddr.toNat r.paLen.toNat
              else p.pages }
  | .read pid v w offset, x =>
      let p := x.procs pid
      (p.regions v).bind fun r =>
        (User.memregionIoread cfg bus p.pages r offset x.device w).map fun (d, value) =>
          { x with device := d }.put pid { p with readings := ⟨w, value⟩ :: p.readings }
  | .write pid v w offset value, x =>
      let p := x.procs pid
      (p.regions v).bind fun r =>
        (User.memregionIowrite cfg bus p.pages r offset x.device w value).map fun d =>
          { x with device := d }

/-! ## What an action may be -/

/-- Every region that the driver describes ends inside its mapping. -/
def Device.Sized (cfg : Config) (dev : Device) : Prop :=
  ∀ i, let m := (dev.mem i).defaultSizes cfg
    m.startOffset.toNat + m.len.toNat ≤ m.paLen.toNat

instance (cfg : Config) (dev : Device) : Decidable (dev.Sized cfg) :=
  inferInstanceAs (Decidable (∀ _, _))

/-- The access is to a word of the region. -/
def User.Memregion.Within (r : User.Memregion) (w : Width) (offset : UInt64) : Prop :=
  offset.toNat + w.bytes ≤ r.len.toNat ∧ w.bytes ∣ (r.at offset).toNat

instance (r : User.Memregion) (w : Width) (offset : UInt64) : Decidable (r.Within w offset) :=
  inferInstanceAs (Decidable (_ ∧ _))

/-- What `mmap` promises: the mapping starts with a page, fits, and replaces nothing. -/
structure FreshMapping (cfg : Config) (p : IoProcess) (r : User.Memregion) : Prop where
  aligned : 2 ^ cfg.pageShift ∣ r.paAddr.toNat
  fits : r.paAddr.toNat + r.paLen.toNat < 2 ^ 64
  free : p.pages.Free (2 ^ cfg.pageShift) r.paAddr.toNat r.paLen.toNat

instance (cfg : Config) (p : IoProcess) (r : User.Memregion) : Decidable (FreshMapping cfg p r) :=
  decidable_of_iff (2 ^ cfg.pageShift ∣ r.paAddr.toNat ∧
    r.paAddr.toNat + r.paLen.toNat < 2 ^ 64 ∧
    p.pages.Free (2 ^ cfg.pageShift) r.paAddr.toNat r.paLen.toNat)
    ⟨fun h => ⟨h.1, h.2.1, h.2.2⟩, fun h => ⟨h.aligned, h.fits, h.free⟩⟩

/-- Drivers manage their devices in turn, describe regions that end inside their mappings, use names
that their nodes can bear, and release no device that a process has claimed.  Processes map the node
that their claim names, and access words of the regions they have mapped. -/
def IoPermitted (cfg : Config) (x : IoHost D) : IoOp → Prop
  | .kernel a =>
      InTurn x.kernel a ∧
        (∀ p out, a = .manage p out → (x.kernel.heap p).Sized cfg ∧
          (((deviceManage cfg x.kernel p out).state.heap p).uniqueNameD).length ≤ 237) ∧
        ∀ p out, a = .release p out → ∀ pid, ∀ info ∈ (x.procs pid).infos,
          x.kernel.devices info.token.deviceIndex ≠ some p
  | .map pid _ n node out =>
      ∀ info r, (x.procs pid).infos[n]? = some info → (User.memregionMap info out).2 = some r →
        node.path = info.deviceName ∧ node.offset cfg = info.paMmapOffset ∧
          FreshMapping cfg (x.procs pid) r
  | .read pid v w offset | .write pid v w offset _ =>
      ∃ r, (x.procs pid).regions v = some r ∧ r.Within w offset
  | _ => True

/-! ## What the system is for -/

/-- A region of the memory of a device. -/
structure Window where
  start : Place Int
  len : Nat

def Memregion.window (m : Memregion) : Window :=
  { start := ⟨m.type, m.paAddr.toNat + m.startOffset.toNat⟩
    len := m.len.toNat }

/-- The region that a token names. -/
def KernelState.window (s : KernelState) (t : Token .memregion) : Option Window :=
  (s.devices t.deviceIndex).map fun p => ((s.heap p).mem t.resourceIndex).window

structure RegisterUser where
  held : List (Token .memregion)
  windows : Nat → Option Window
  readings : List Reading

def RegisterUser.start : RegisterUser :=
  { held := [], windows := fun _ => none, readings := [] }

structure RegisterFile (D : Type) where
  kernel : KernelState
  users : Pid → RegisterUser
  device : D

def RegisterFile.put (x : RegisterFile D) (pid : Pid) (u : RegisterUser) : RegisterFile D :=
  { x with users := Function.update x.users pid u }

/-- An access to a region is an access to the device, at that offset. -/
def registersExec (cfg : Config) (bus : Bus (Place Int) D) :
    IoOp → RegisterFile D → Option (RegisterFile D)
  | .kernel a, x => (exec cfg a x.kernel).map fun s => { x with kernel := s }
  | .claim pid rt id options io sys, x =>
      (User.memregionClaim cfg rt pid id options io sys x.kernel).map fun call =>
        let u := x.users pid
        { x with kernel := call.state }.put pid
          { u with held := (call.memregionInfo?.map MemregionInfo.token).toList ++ u.held }
  | .release pid n rt io sys, x =>
      let u := x.users pid
      u.held[n]?.bind fun t =>
        (User.memregionReleaseByToken cfg rt pid t io sys x.kernel).map fun call =>
          { x with kernel := call.state }.put pid { u with held := u.held.eraseIdx n }
  | .map pid v n _ out, x =>
      let u := x.users pid
      u.held[n]?.bind fun t =>
        if User.AttachOutcome.fails (k := .memregion) out then some x
        else
          (x.kernel.window t).map fun win =>
            x.put pid { u with windows := Function.update u.windows v (some win) }
  | .unmap pid v _, x =>
      let u := x.users pid
      (u.windows v).map fun _ => x.put pid { u with windows := Function.update u.windows v none }
  | .read pid v w offset, x =>
      let u := x.users pid
      (u.windows v).map fun win =>
        let (d, value) := bus.read w (win.start.shift offset.toNat) x.device
        { x with device := d }.put pid { u with readings := ⟨w, value⟩ :: u.readings }
  | .write pid v w offset value, x =>
      let u := x.users pid
      (u.windows v).map fun win =>
        { x with device := bus.write w (win.start.shift offset.toNat) value x.device }

/-! ## The two at their start -/

def IoHost.start (s : KernelState) (d : D) : IoHost D :=
  { kernel := s, nodes := Nodes.empty, procs := fun _ => IoProcess.start, device := d }

def RegisterFile.start (s : KernelState) (d : D) : RegisterFile D :=
  { kernel := s, users := fun _ => RegisterUser.start, device := d }

end Cuddl
