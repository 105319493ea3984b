import Cuddl.Kernel.Refs

/-!
# The janitor device

`cuddlk_janitor_linux.c`.  A file of the janitor device remembers the pid that was registered on it
(`private_data`) and cleans up after that pid when its last descriptor is closed.
-/

namespace Cuddl

/-- Which of the calls made by one janitor ioctl fail. -/
structure JanitorFaults where
  copyFromUserFails : Bool
  kzallocFails : Bool

/-- `cuddlk_janitor_ioctl`: the return value, and what is left in `private_data`. -/
def janitorIoctl (register : Bool) (pid : Pid) (faults : JanitorFaults)
    (privateData : Option Pid) : Int × Option Pid :=
  if register = false then (-Errno.ENOSYS, privateData)
  else if faults.copyFromUserFails then (-Errno.EOVERFLOW, privateData)
  else if faults.kzallocFails then (-Errno.ENOMEM, none)
  else (0, some pid)

/-- `cuddlk_janitor_release` -/
def janitorRelease (privateData : Option Pid) (s : KernelState) : Option KernelState :=
  match privateData with
  | none => some s
  | some pid => managerFreeRefsForPid s pid

end Cuddl
