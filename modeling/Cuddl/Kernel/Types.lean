import Mathlib.Algebra.GroupWithZero.Nat
import Mathlib.Algebra.Order.Group.Multiset
import Mathlib.Order.Fin.Basic

/-!
# Kernel data model

The structures of `cuddlk/device.h`, `cuddlk/memregion.h`, `cuddlk/eventsrc.h`,
`cuddlk/interrupt.h`, `cuddlk/manager.h` and `cuddlk/impl_linux.h`, as far as the modelled
functions read or write them.

* Drivers own their `cuddlk_device` structures; the manager's table holds pointers to them.  The
  structures live in `KernelState.heap`, indexed by `DevPtr`.
* Function pointers that are only tested against `NULL` are `Bool`s.
* `cuddlk_memregion` and `cuddlk_eventsrc` share the members of `Resource`.  The manager handles
  the two alike, so a resource of a device is named by a `ResIdx`: its kind and its array index.
* Reference counts are unbounded; both the claim and the decrement helper keep them non-negative.
* The mutexes are left out: every entry point holds the manager's lock for its whole run.
-/

namespace Cuddl

abbrev DevPtr := Nat

abbrev ModuleId := Nat

abbrev Pid := Int

abbrev maxManagedDevices : Nat := 256

abbrev maxDevMemRegions : Nat := 5

abbrev maxDevEvents : Nat := 1

abbrev maxStrLen : Nat := 256

abbrev Slot := Fin maxManagedDevices

instance : NeZero maxManagedDevices :=
  ⟨Nat.succ_ne_zero _⟩

namespace Errno

def ENXIO : Int := 6
def ENOEXEC : Int := 8
def ENOMEM : Int := 12
def EBUSY : Int := 16
def ENODEV : Int := 19
def EINVAL : Int := 22
def ENOSPC : Int := 28
def ENOSYS : Int := 38
def EBADSLT : Int := 57
def EOVERFLOW : Int := 75

end Errno

/-- Compile-time configuration of the kernel modules. -/
structure Config where
  /-- `CUDDLK_USE_UDD` -/
  useUdd : Bool
  /-- `CUDDLK_PAGE_SIZE` is `2 ^ pageShift`. -/
  pageShift : Nat
  pageShift_ge : 12 ≤ pageShift
  pageShift_lt : pageShift < 64
  /-- `CUDDLKI_COMMIT_HASH` -/
  commitHash : List UInt8
  /-- `CUDDLKI_REPO_IS_DIRTY` -/
  repoIsDirty : Bool

def Config.pageSize (cfg : Config) : UInt64 :=
  UInt64.ofNat (2 ^ cfg.pageShift)

theorem Config.toNat_pageSize (cfg : Config) : cfg.pageSize.toNat = 2 ^ cfg.pageShift := by
  have hlt : 2 ^ cfg.pageShift < 2 ^ 64 := Nat.pow_lt_pow_right (by omega) cfg.pageShift_lt
  simpa [Config.pageSize] using hlt

/-- A NUL-terminated string in kernel memory, with what lies behind its terminator. -/
structure KStr where
  chars : List UInt8
  nonzero : ∀ c ∈ chars, c ≠ 0
  behind : Nat → UInt8

/-- `memcpy(dst, s, n)`: it copies `n` bytes, whether or not the string is that long. -/
def KStr.memcpy (s : KStr) (n : Nat) : List UInt8 :=
  (List.range n).map fun i =>
    if h : i < s.chars.length then s.chars[i]
    else if i = s.chars.length then 0
    else s.behind (i - s.chars.length - 1)

/-- A copy that is longer than the string has its characters and the terminator. -/
theorem KStr.memcpy_eq {s : KStr} {n : Nat} (h : s.chars.length < n) :
    ∃ r, s.memcpy n = s.chars ++ 0 :: r := by
  rcases Nat.exists_eq_add_of_lt h with ⟨m, rfl⟩
  refine ⟨(List.range m).map s.behind, ?_⟩
  refine List.ext_getElem (by simp [KStr.memcpy]; omega) ?_
  intro i hi hi'
  rcases Nat.lt_trichotomy i s.chars.length with hlt | rfl | hgt
  · simp [KStr.memcpy, hlt]
  · simp [KStr.memcpy]
  · have hnot : ¬ i < s.chars.length := by omega
    rcases Nat.exists_eq_add_of_lt hgt with ⟨j, rfl⟩
    simp [KStr.memcpy, List.getElem_append_right, Nat.add_assoc]

/-! ## Devices -/

inductive ResourceKind
  | memregion
  | eventsrc
  deriving DecidableEq, Repr

def ResourceKind.max : ResourceKind → Nat
  | .memregion => maxDevMemRegions
  | .eventsrc => maxDevEvents

instance (k : ResourceKind) : NeZero k.max := by
  cases k with
  | memregion => exact ⟨Nat.succ_ne_zero _⟩
  | eventsrc => exact ⟨Nat.succ_ne_zero _⟩

structure Interrupt where
  handler : Bool
  disable : Bool
  enable : Bool
  isEnabled : Bool
  irq : Int
  flags : BitVec 32

/-- What `cuddlk_memregion` and `cuddlk_eventsrc` have in common. -/
structure Resource where
  name : Option KStr
  flags : BitVec 32
  refCount : Nat

structure Memregion extends Resource where
  paAddr : UInt64
  paLen : UInt64
  startOffset : UInt64
  len : UInt64
  type : Int

structure Eventsrc extends Resource where
  intr : Interrupt

/-- The `struct uio_device` that `__uio_register_device` creates. -/
structure UioDevice where
  owner : Option ModuleId
  minor : Nat

structure UioInfo where
  irq : Int
  irqShared : Bool
  handler : Bool
  openRelease : Bool
  irqcontrol : Bool
  uioDev : Option UioDevice

structure UddDevice where
  irq : Int
  interrupt : Bool
  openCloseIoctl : Bool

structure DevicePriv where
  uniqueName : Option (List UInt8)
  uio : UioInfo
  udd : UddDevice

structure Device where
  group : Option KStr
  name : Option KStr
  driverInfo : Option KStr
  hwInfo : Option KStr
  instanceId : Int
  mem : Fin (ResourceKind.max .memregion) → Memregion
  events : Fin (ResourceKind.max .eventsrc) → Eventsrc
  ownerPtr : Option ModuleId
  priv : DevicePriv

/-- A `cuddlk_device` fresh from `kzalloc`. -/
def Device.zeroed : Device :=
  { group := none
    name := none
    driverInfo := none
    hwInfo := none
    instanceId := 0
    mem := fun _ =>
      { name := none, flags := 0, refCount := 0
        paAddr := 0, paLen := 0, startOffset := 0, len := 0, type := 0 }
    events := fun _ =>
      { name := none, flags := 0, refCount := 0
        intr :=
          { handler := false, disable := false, enable := false, isEnabled := false
            irq := 0, flags := 0 } }
    ownerPtr := none
    priv :=
      { uniqueName := none
        uio :=
          { irq := 0, irqShared := false, handler := false, openRelease := false
            irqcontrol := false, uioDev := none }
        udd := { irq := 0, interrupt := false, openCloseIoctl := false } } }

/-! ## Resources of a device -/

/-- A member of `mem` or `events`. -/
abbrev ResIdx := Σ k : ResourceKind, Fin k.max

namespace Device

def resource (d : Device) : ResIdx → Resource
  | ⟨.memregion, i⟩ => (d.mem i).toResource
  | ⟨.eventsrc, i⟩ => (d.events i).toResource

/-- `kernel.ref_count` of a resource. -/
def refCount (d : Device) (x : ResIdx) : Nat :=
  (d.resource x).refCount

def setRefCount (d : Device) : ResIdx → Nat → Device
  | ⟨.memregion, i⟩, n =>
      { d with mem := Function.update d.mem i { d.mem i with refCount := n } }
  | ⟨.eventsrc, i⟩, n =>
      { d with events := Function.update d.events i { d.events i with refCount := n } }

/-- The device with all its counts forgotten: what counting never changes. -/
def eraseCounts (d : Device) : Device :=
  { d with
    mem := fun i => { d.mem i with refCount := 0 }
    events := fun i => { d.events i with refCount := 0 } }

@[simp] theorem refCount_setRefCount (d : Device) (x y : ResIdx) (n : Nat) :
    (d.setRefCount x n).refCount y = if y = x then n else d.refCount y := by
  -- only the array of the written kind changes, and in it only the written index
  rcases x with ⟨kx, i⟩
  rcases y with ⟨ky, j⟩
  cases kx with
  | memregion =>
      cases ky with
      | memregion =>
          by_cases h : j = i
          · subst h
            simp [setRefCount, refCount, resource]
          · simp [setRefCount, refCount, resource, h]
      | eventsrc => simp [setRefCount, refCount, resource]
  | eventsrc =>
      cases ky with
      | memregion => simp [setRefCount, refCount, resource]
      | eventsrc =>
          by_cases h : j = i
          · subst h
            simp [setRefCount, refCount, resource]
          · simp [setRefCount, refCount, resource, h]

@[simp] theorem eraseCounts_setRefCount (d : Device) (x : ResIdx) (n : Nat) :
    (d.setRefCount x n).eraseCounts = d.eraseCounts := by
  rcases x with ⟨k, i⟩
  cases k with
  | memregion =>
      simp only [setRefCount, eraseCounts, Device.mk.injEq, true_and, and_true]
      funext j
      by_cases h : j = i
      · subst h
        simp
      · simp [h]
  | eventsrc =>
      simp only [setRefCount, eraseCounts, Device.mk.injEq, true_and, and_true]
      funext j
      by_cases h : j = i
      · subst h
        simp
      · simp [h]

/-- Setting a count to what it is changes nothing. -/
theorem setRefCount_self (d : Device) (x : ResIdx) : d.setRefCount x (d.refCount x) = d := by
  rcases x with ⟨k, i⟩
  cases k with
  | memregion => simp [setRefCount, refCount, resource]
  | eventsrc => simp [setRefCount, refCount, resource]

@[simp] theorem setRefCount_setRefCount (d : Device) (x : ResIdx) (m n : Nat) :
    (d.setRefCount x m).setRefCount x n = d.setRefCount x n := by
  rcases x with ⟨k, i⟩
  cases k with
  | memregion => simp [setRefCount]
  | eventsrc => simp [setRefCount]

@[simp] theorem priv_setRefCount (d : Device) (x : ResIdx) (n : Nat) :
    (d.setRefCount x n).priv = d.priv := by
  rcases x with ⟨k, i⟩
  cases k with
  | memregion => rfl
  | eventsrc => rfl

@[simp] theorem name_eraseCounts (d : Device) (x : ResIdx) :
    (d.eraseCounts.resource x).name = (d.resource x).name := by
  rcases x with ⟨k, i⟩
  cases k <;> rfl

@[simp] theorem flags_eraseCounts (d : Device) (x : ResIdx) :
    (d.eraseCounts.resource x).flags = (d.resource x).flags := by
  rcases x with ⟨k, i⟩
  cases k <;> rfl

end Device

/-! ## Manager state -/

/-- `struct cuddlci_token` as the kernel fills it in: both indices come out of a search, so they
are in range. -/
structure Token (k : ResourceKind) where
  deviceIndex : Slot
  resourceIndex : Fin k.max
  deriving DecidableEq

/-- An entry of `cuddlk_mem_refs` or `cuddlk_event_refs`. -/
structure ResourceRef (k : ResourceKind) where
  token : Token k
  pid : Pid
  deriving DecidableEq

/-- A kernel module as `try_module_get` and `module_put` see it. -/
structure Module where
  live : Bool
  refs : Int

structure KernelState where
  /-- Every `cuddlk_device` structure, managed or not. -/
  heap : DevPtr → Device
  /-- `cuddlk_global_manager_ptr->devices` -/
  devices : Slot → Option DevPtr
  /-- `cuddlk_mem_refs` and `cuddlk_event_refs`, newest entry first. -/
  refs : (k : ResourceKind) → List (ResourceRef k)
  modules : ModuleId → Module

/-- A resource slot of the manager's table. -/
abbrev Res := Slot × ResIdx

def Token.res {k : ResourceKind} (t : Token k) : Res :=
  (t.deviceIndex, ⟨k, t.resourceIndex⟩)

namespace KernelState

def Managed (s : KernelState) (p : DevPtr) : Prop :=
  ∃ d, s.devices d = some p

instance (s : KernelState) (p : DevPtr) : Decidable (s.Managed p) :=
  inferInstanceAs (Decidable (∃ d, s.devices d = some p))

def setDevice (s : KernelState) (p : DevPtr) (dev : Device) : KernelState :=
  { s with heap := Function.update s.heap p dev }

def setRefCount (s : KernelState) (p : DevPtr) (x : ResIdx) (n : Nat) : KernelState :=
  s.setDevice p ((s.heap p).setRefCount x n)

def setSlot (s : KernelState) (d : Slot) (v : Option DevPtr) : KernelState :=
  { s with devices := Function.update s.devices d v }

def setRefs (s : KernelState) (k : ResourceKind) (l : List (ResourceRef k)) : KernelState :=
  { s with refs := Function.update s.refs k l }

def setModule (s : KernelState) (m : ModuleId) (v : Module) : KernelState :=
  { s with modules := Function.update s.modules m v }

section Fields

variable (s : KernelState) (p : DevPtr) (x : ResIdx) (n : Nat) (k : ResourceKind)
  (l : List (ResourceRef k)) (m : ModuleId) (v : Module) (d : Slot) (q : Option DevPtr)

@[simp] theorem setRefCount_devices : (s.setRefCount p x n).devices = s.devices := rfl
@[simp] theorem setRefCount_refs : (s.setRefCount p x n).refs = s.refs := rfl
@[simp] theorem setRefCount_modules : (s.setRefCount p x n).modules = s.modules := rfl
@[simp] theorem setRefs_heap : (s.setRefs k l).heap = s.heap := rfl
@[simp] theorem setRefs_devices : (s.setRefs k l).devices = s.devices := rfl
@[simp] theorem setRefs_modules : (s.setRefs k l).modules = s.modules := rfl
@[simp] theorem setRefs_refs : (s.setRefs k l).refs = Function.update s.refs k l := rfl
@[simp] theorem setModule_heap : (s.setModule m v).heap = s.heap := rfl
@[simp] theorem setModule_devices : (s.setModule m v).devices = s.devices := rfl
@[simp] theorem setModule_refs : (s.setModule m v).refs = s.refs := rfl
@[simp] theorem setSlot_heap : (s.setSlot d q).heap = s.heap := rfl
@[simp] theorem setSlot_refs : (s.setSlot d q).refs = s.refs := rfl
@[simp] theorem setSlot_modules : (s.setSlot d q).modules = s.modules := rfl

end Fields

section Slots

variable {s : KernelState} {d e : Slot} {p q : DevPtr} {v : Option DevPtr}

@[simp] theorem setSlot_devices_self : (s.setSlot d v).devices d = v := by
  simp [setSlot]

theorem setSlot_devices_of_ne (h : e ≠ d) : (s.setSlot d v).devices e = s.devices e := by
  simp [setSlot, h]

/-- A slot that has been filled holds what was put there, the others what they held. -/
theorem setSlot_some_iff :
    (s.setSlot d (some p)).devices e = some q ↔
      (e = d ∧ q = p) ∨ (e ≠ d ∧ s.devices e = some q) := by
  by_cases he : e = d
  · subst he
    simp [eq_comm]
  · simp [setSlot_devices_of_ne he, he]

/-- A slot that has been emptied holds nothing, the others what they held. -/
theorem setSlot_none_iff :
    (s.setSlot d none).devices e = some q ↔ e ≠ d ∧ s.devices e = some q := by
  by_cases he : e = d
  · subst he
    simp
  · simp [setSlot_devices_of_ne he, he]

end Slots

theorem setRefCount_heap (s : KernelState) (p q : DevPtr) (x : ResIdx) (n : Nat) :
    (s.setRefCount p x n).heap q =
      if q = p then (s.heap p).setRefCount x n else s.heap q := by
  by_cases h : q = p
  · subst h
    simp [setRefCount, setDevice]
  · simp [setRefCount, setDevice, h]

end KernelState

end Cuddl
