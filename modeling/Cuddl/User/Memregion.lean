import Cuddl.User.Claims

/-!
# Memory regions in user space

`cuddl_memregion_map` and `cuddl_memregion_unmap`.  The calls to `open`, `mmap`, `munmap` and
`close` are not part of this repository: what they return is an argument.
-/

namespace Cuddl
namespace User

/-- `struct cuddl_memregion` with its private part. -/
structure Memregion where
  addr : UInt64
  len : UInt64
  flags : BitVec 32
  paAddr : UInt64
  paLen : UInt64
  fd : Int
  token : Token .memregion

/-- What the calls made by `cuddl_memregion_map` return. -/
structure MapOutcome where
  opened : Except SysErrno Int
  mmap : Except SysErrno UInt64

/-- `cuddl_memregion_map` -/
def memregionMap (meminfo : MemregionInfo) (out : MapOutcome) : Int × Option Memregion :=
  match out.opened with
  | .error e => (-(e.val : Int), none)
  | .ok fd =>
      match out.mmap with
      | .error e => (-(e.val : Int), none)
      -- `addr` is the start of the mapping, the region starts at its offset
      | .ok addr =>
          (0, some
            { addr := addr + meminfo.startOffset
              len := meminfo.len
              flags := meminfo.flags
              paAddr := addr
              paLen := meminfo.paLen
              fd := fd
              token := meminfo.token })

/-- `cuddl_memregion_unmap`: the file is closed in any case, the first error is returned. -/
def memregionUnmap (munmap close : Option SysErrno) : Int :=
  match munmap, close with
  | some e, _ => -(e.val : Int)
  | none, some e => -(e.val : Int)
  | none, none => 0

end User

/-- The sizes in a successful claim are those of the region that its token names. -/
theorem claim_sizes {cfg : Config} {s : KernelState} {rt : Bool} {data : ClaimData}
    {io : IoFaults} {res : IoctlResult} {info : MemregionInfo} {p : DevPtr}
    (h : managerIoctl cfg s (.claim .memregion rt data) io = some res) (hret : res.ret = 0)
    (hreply : res.reply = some (.memregionInfo info))
    (hslot : s.devices info.token.deviceIndex = some p) :
    info.len = ((s.heap p).mem info.token.resourceIndex).len ∧
      info.paLen = ((s.heap p).mem info.token.resourceIndex).paLen ∧
      info.startOffset = ((s.heap p).mem info.token.resourceIndex).startOffset := by
  rcases managerIoctl_claim_of_ret_zero h hret with ⟨d, q, i, hfind, _, rfl⟩
  cases hreply
  cases (managerLookup_eq_some hfind).1.symm.trans hslot
  -- taking the reference has changed a count, but no size
  have hsame := (sameShape_takeRef s p ⟨.memregion, i⟩).heap p
  have hmem := congrFun (congrArg Device.mem hsame) i
  simp only [Device.eraseCounts, Memregion.mk.injEq] at hmem
  exact ⟨hmem.2.2.2.2.1, hmem.2.2.1, hmem.2.2.2.1⟩

end Cuddl
