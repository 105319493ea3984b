import Cuddl.User.Objects

/-!
# Applications

Any number of processes, each with any number of `MemRegion` and `EventSrc` objects, while drivers
come and go.  A process may end at any time, by itself or not: its objects are gone without their
destructors, and its claims are cleaned up when its file of the janitor device is closed.
-/

namespace Cuddl
namespace User

/-- An object of the process `pid`. -/
structure AppObject (k : ResourceKind) where
  pid : Pid
  object : Object k

/-- The manager and all objects there are. -/
structure Applications where
  kernel : KernelState
  objects : (k : ResourceKind) → List (AppObject k)

namespace Applications

def setObjects (x : Applications) (k : ResourceKind) (l : List (AppObject k)) : Applications :=
  { x with objects := Function.update x.objects k l }

@[simp] theorem setObjects_kernel (x : Applications) (k : ResourceKind) (l : List (AppObject k)) :
    (x.setObjects k l).kernel = x.kernel := rfl

@[simp] theorem setObjects_objects (x : Applications) (k : ResourceKind) (l : List (AppObject k)) :
    (x.setObjects k l).objects = Function.update x.objects k l := rfl

end Applications

/-- The methods name an object by its position. -/
inductive AppOp
  /-- The default constructor. -/
  | zeroed (k : ResourceKind) (pid : Pid)
  | construct (k : ResourceKind) (pid : Pid) (rt : Bool) (id : ResourceId) (options : BitVec 32)
      (f : AcquireFaults k)
  | claimAndAttach (k : ResourceKind) (i : Nat) (rt : Bool) (id : ResourceId)
      (options : BitVec 32) (f : AcquireFaults k)
  | detachAndRelease (k : ResourceKind) (i : Nat) (rt : Bool) (detached : Int) (io : IoFaults)
      (sys : SysFaults)
  | destroy (k : ResourceKind) (i : Nat) (rt : Bool) (detached : Int) (io : IoFaults)
      (sys : SysFaults)
  /-- The process has ended, and its descriptors are closed. -/
  | exit (pid : Pid)
  /-- A driver, or a query. -/
  | kernel (a : Op)

/-- `none` is a kernel crash, or a method of an object that is not there. -/
def appExec (cfg : Config) : AppOp → Applications → Option Applications
  | .zeroed k pid, x => some (x.setObjects k (⟨pid, .zeroed k⟩ :: x.objects k))
  | .construct k pid rt id options f, x =>
      (Object.construct cfg rt pid id options f x.kernel).map fun r =>
        match r.1 with
        | none => { x with kernel := r.2 }
        | some o => { x.setObjects k (⟨pid, o⟩ :: x.objects k) with kernel := r.2 }
  | .claimAndAttach k i rt id options f, x =>
      match (x.objects k)[i]? with
      | none => none
      | some a =>
          (a.object.claimAndAttach cfg rt a.pid id options f x.kernel).map fun r =>
            { x.setObjects k ((x.objects k).set i ⟨a.pid, r.object⟩) with kernel := r.state }
  | .detachAndRelease k i rt detached io sys, x =>
      match (x.objects k)[i]? with
      | none => none
      | some a =>
          (a.object.detachAndRelease cfg rt a.pid detached io sys x.kernel).map fun r =>
            { x.setObjects k ((x.objects k).set i ⟨a.pid, r.1⟩) with kernel := r.2 }
  | .destroy k i rt detached io sys, x =>
      match (x.objects k)[i]? with
      | none => none
      | some a =>
          (a.object.detachAndRelease cfg rt a.pid detached io sys x.kernel).map fun r =>
            { x.setObjects k ((x.objects k).eraseIdx i) with kernel := r.2 }
  | .exit pid, x =>
      (managerFreeRefsForPid x.kernel pid).map fun s =>
        { kernel := s, objects := fun k => (x.objects k).filter fun a => a.pid ≠ pid }
  | .kernel a, x => (exec cfg a x.kernel).map fun s => { x with kernel := s }

end User
end Cuddl
