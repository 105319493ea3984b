import Cuddl.Kernel.System
import Cuddl.User.Acquire

/-!
# The classes `MemRegion` and `EventSrc`

An object keeps the structure of what it has acquired and a flag that says whether there is
anything to give back.  The overloads of a constructor or method differ in how they come to the
resource id only; here each takes the id.
-/

namespace Cuddl
namespace User

/-- `memset` of the whole structure -/
def Handle.zeroed : (k : ResourceKind) → Handle k
  | .memregion =>
      ({ addr := 0, len := 0, flags := 0, paAddr := 0, paLen := 0, fd := 0, token := ⟨0, 0⟩ } :
        Memregion)
  | .eventsrc => ({ flags := 0, fd := 0, token := ⟨0, 0⟩ } : Eventsrc)

/-- `attached` is `mapped_` or `opened_`. -/
structure Object (k : ResourceKind) where
  handle : Handle k
  attached : Bool

/-- `class MemRegion` -/
abbrev MemRegion := Object .memregion

/-- `class EventSrc` -/
abbrev EventSrc := Object .eventsrc

/-- `MemRegion::is_mapped` -/
def MemRegion.isMapped (o : MemRegion) : Bool :=
  o.attached

/-- `EventSrc::is_open` -/
def EventSrc.isOpen (o : EventSrc) : Bool :=
  o.attached

/-- What a method leaves; `thrown` is the code in the `std::system_error`. -/
structure MethodResult (k : ResourceKind) where
  thrown : Option Int
  object : Object k
  state : KernelState

namespace Object

section

variable {k : ResourceKind} (cfg : Config) (rt : Bool) (pid : Pid)

/-- The default constructor. -/
def zeroed (k : ResourceKind) : Object k :=
  { handle := .zeroed k, attached := false }

/-- Acquire a resource; the structure is written only by a call that succeeds. -/
def claimAndAttach (o : Object k) (id : ResourceId) (options : BitVec 32) (f : AcquireFaults k)
    (s : KernelState) : Option (MethodResult k) :=
  (User.claimAndAttach cfg k rt pid id options f s).map fun res =>
    if res.ret < 0 then
      ⟨some res.ret, o, res.state⟩
    else
      ⟨none, { handle := res.handle.getD o.handle, attached := true }, res.state⟩

/-- The constructors that acquire.  One that throws leaves no object, and no destructor runs. -/
def construct (id : ResourceId) (options : BitVec 32) (f : AcquireFaults k) (s : KernelState) :
    Option (Option (Object k) × KernelState) :=
  ((zeroed k).claimAndAttach cfg rt pid id options f s).map fun r =>
    (if r.thrown = none then some r.object else none, r.state)

/-- Give back what was acquired, if anything; no error is looked at.  The destructor is the same. -/
def detachAndRelease (o : Object k) (detached : Int) (io : IoFaults) (sys : SysFaults)
    (s : KernelState) : Option (Object k × KernelState) :=
  if o.attached then
    (User.detachAndRelease cfg k rt pid o.handle detached io sys s).map fun r =>
      ({ o with attached := false }, r.2)
  else
    some (o, s)

end

end Object

/-- `MemRegion::claim_and_map` -/
def MemRegion.claimAndMap (cfg : Config) (rt : Bool) (pid : Pid) (o : MemRegion)
    (id : ResourceId) (options : BitVec 32) (f : AcquireFaults .memregion) (s : KernelState) :
    Option (MethodResult .memregion) :=
  Object.claimAndAttach cfg rt pid o id options f s

/-- `EventSrc::claim_and_open` -/
def EventSrc.claimAndOpen (cfg : Config) (rt : Bool) (pid : Pid) (o : EventSrc)
    (id : ResourceId) (options : BitVec 32) (f : AcquireFaults .eventsrc) (s : KernelState) :
    Option (MethodResult .eventsrc) :=
  Object.claimAndAttach cfg rt pid o id options f s

/-- `MemRegion::unmap_and_release` -/
def MemRegion.unmapAndRelease (cfg : Config) (rt : Bool) (pid : Pid) (o : MemRegion)
    (munmap close : Option SysErrno) (io : IoFaults) (sys : SysFaults) (s : KernelState) :
    Option (MemRegion × KernelState) :=
  Object.detachAndRelease cfg rt pid o (memregionUnmap munmap close) io sys s

/-- `EventSrc::close_and_release` -/
def EventSrc.closeAndRelease (cfg : Config) (rt : Bool) (pid : Pid) (o : EventSrc)
    (close : Option SysErrno) (io : IoFaults) (sys : SysFaults) (s : KernelState) :
    Option (EventSrc × KernelState) :=
  Object.detachAndRelease cfg rt pid o (eventsrcClose close) io sys s

/-! ## The life of an object -/

/-- An object, while there is one, and the manager, which others use as well. -/
structure ObjectState (k : ResourceKind) where
  kernel : KernelState
  object : Option (Object k)

/-- The object is there, and it says that it is mapped or open. -/
def ObjectState.attached {k : ResourceKind} (x : ObjectState k) : Bool :=
  x.object.any Object.attached

inductive ObjectOp (k : ResourceKind)
  /-- The default constructor. -/
  | zeroed
  /-- The constructor that takes over a structure. -/
  | adopt (handle : Handle k) (attached : Bool)
  | construct (id : ResourceId) (options : BitVec 32) (f : AcquireFaults k)
  | claimAndAttach (id : ResourceId) (options : BitVec 32) (f : AcquireFaults k)
  | detachAndRelease (detached : Int) (io : IoFaults) (sys : SysFaults)
  | destroy (detached : Int) (io : IoFaults) (sys : SysFaults)
  /-- Something else happens to the manager. -/
  | kernel (a : Op)

/-- `none` is a kernel crash, a constructor for an object that is there already, or a method of
one that is not. -/
def objectExec {k : ResourceKind} (cfg : Config) (rt : Bool) (pid : Pid) (a : ObjectOp k)
    (x : ObjectState k) : Option (ObjectState k) :=
  match a, x.object with
  | .zeroed, none => some { x with object := some (.zeroed k) }
  | .adopt handle attached, none => some { x with object := some ⟨handle, attached⟩ }
  | .construct id options f, none =>
      (Object.construct cfg rt pid id options f x.kernel).map fun r => ⟨r.2, r.1⟩
  | .claimAndAttach id options f, some o =>
      (o.claimAndAttach cfg rt pid id options f x.kernel).map fun r => ⟨r.state, some r.object⟩
  | .detachAndRelease detached io sys, some o =>
      (o.detachAndRelease cfg rt pid detached io sys x.kernel).map fun r => ⟨r.2, some r.1⟩
  | .destroy detached io sys, some o =>
      (o.detachAndRelease cfg rt pid detached io sys x.kernel).map fun r => ⟨r.2, none⟩
  | .kernel a, object => (exec cfg a x.kernel).map fun s => ⟨s, object⟩
  | _, _ => none

end User
end Cuddl
