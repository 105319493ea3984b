import Cuddl.User.Queries

/-!
# Claims and releases from user space

`cuddl_memregion_claim`, `cuddli_memregion_release_by_token` and their event source twins: `open`,
one ioctl that carries the pid of the caller, `close`.
-/

namespace Cuddl
namespace User

/-- `rt` is the build for UDD; `id` is what `populate_id_from_args` leaves in the request. -/
def resourceClaim (cfg : Config) (k : ResourceKind) (rt : Bool) (pid : Pid) (id : ResourceId)
    (options : BitVec 32) (io : IoFaults) (sys : SysFaults) (s : KernelState) :
    Option CallResult :=
  managerCall cfg s
    (.claim k rt { versionCode := userVersionCode, id := id, pid := pid, options := options }) io
    sys

/-- `cuddl_memregion_claim` -/
def memregionClaim (cfg : Config) (rt : Bool) (pid : Pid) (id : ResourceId)
    (options : BitVec 32) (io : IoFaults) (sys : SysFaults) (s : KernelState) :
    Option CallResult :=
  resourceClaim cfg .memregion rt pid id options io sys s

/-- `cuddl_eventsrc_claim` -/
def eventsrcClaim (cfg : Config) (rt : Bool) (pid : Pid) (id : ResourceId)
    (options : BitVec 32) (io : IoFaults) (sys : SysFaults) (s : KernelState) :
    Option CallResult :=
  resourceClaim cfg .eventsrc rt pid id options io sys s

def releaseData {k : ResourceKind} (token : Token k) (pid : Pid) : ReleaseData :=
  { versionCode := userVersionCode
    deviceIndex := token.deviceIndex
    resourceIndex := token.resourceIndex
    pid := pid }

def resourceReleaseByToken (cfg : Config) (k : ResourceKind) (rt : Bool) (pid : Pid)
    (token : Token k) (io : IoFaults) (sys : SysFaults) (s : KernelState) : Option CallResult :=
  managerCall cfg s (.release k rt (releaseData token pid)) io sys

/-- `cuddli_memregion_release_by_token` -/
def memregionReleaseByToken (cfg : Config) (rt : Bool) (pid : Pid) (token : Token .memregion)
    (io : IoFaults) (sys : SysFaults) (s : KernelState) : Option CallResult :=
  resourceReleaseByToken cfg .memregion rt pid token io sys s

/-- `cuddli_eventsrc_release_by_token` -/
def eventsrcReleaseByToken (cfg : Config) (rt : Bool) (pid : Pid) (token : Token .eventsrc)
    (io : IoFaults) (sys : SysFaults) (s : KernelState) : Option CallResult :=
  resourceReleaseByToken cfg .eventsrc rt pid token io sys s

theorem token?_releaseData {k : ResourceKind} (token : Token k) (pid : Pid) :
    (releaseData token pid).token? k = some token :=
  ReleaseData.token?_eq_some_iff.2 ⟨rfl, rfl⟩

end User
end Cuddl
