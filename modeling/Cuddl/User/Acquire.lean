import Cuddl.User.Eventsrc
import Cuddl.User.Memregion

/-!
# Claiming and mapping in one call

`cuddl_memregion_claim_and_map`, `cuddl_eventsrc_claim_and_open` and the functions that undo them.
The two kinds differ in what is done to a claimed resource (`attach`) and in the structure that
this fills in (`Handle`).
-/

namespace Cuddl
namespace User

/-! ## What the two kinds attach -/

/-- `struct cuddl_memregion_info` and `struct cuddl_eventsrc_info` -/
def Info : ResourceKind → Type
  | .memregion => MemregionInfo
  | .eventsrc => EventsrcInfo

/-- `struct cuddl_memregion` and `struct cuddl_eventsrc` -/
def Handle : ResourceKind → Type
  | .memregion => Memregion
  | .eventsrc => Eventsrc

def AttachOutcome : ResourceKind → Type
  | .memregion => MapOutcome
  | .eventsrc => Except SysErrno Int

def Info.token : {k : ResourceKind} → Info k → Token k
  | .memregion, info => MemregionInfo.token info
  | .eventsrc, info => EventsrcInfo.token info

def Handle.token : {k : ResourceKind} → Handle k → Token k
  | .memregion, handle => Memregion.token handle
  | .eventsrc, handle => Eventsrc.token handle

/-- The `info` that a claim copies out. -/
def replyInfo : (k : ResourceKind) → Reply → Option (Info k)
  | .memregion, .memregionInfo info => some info
  | .eventsrc, .eventsrcInfo info => some info
  | _, _ => none

/-- `cuddl_memregion_map` and `cuddl_eventsrc_open` -/
def attach : {k : ResourceKind} → Info k → AttachOutcome k → Int × Option (Handle k)
  | .memregion => memregionMap
  | .eventsrc => eventsrcOpen

/-- One of the calls made by `attach` fails. -/
def AttachOutcome.fails : {k : ResourceKind} → AttachOutcome k → Bool
  | .memregion, out =>
      match MapOutcome.opened out, MapOutcome.mmap out with
      | .ok _, .ok _ => false
      | _, _ => true
  | .eventsrc, .ok _ => false
  | .eventsrc, .error _ => true

theorem attach_of_fails {k : ResourceKind} (info : Info k) {out : AttachOutcome k}
    (h : out.fails = true) : (attach info out).1 < 0 ∧ (attach info out).2 = none := by
  have hneg : ∀ e : SysErrno, -(e.val : Int) < 0 := neg_errno_lt
  cases k with
  | memregion =>
      rcases out with ⟨opened, mmap⟩
      cases opened with
      | error e => exact ⟨hneg e, rfl⟩
      | ok fd =>
          cases mmap with
          | error e => exact ⟨hneg e, rfl⟩
          | ok addr => cases h
  | eventsrc =>
      cases out with
      | error e => exact ⟨hneg e, rfl⟩
      | ok fd => cases h

theorem attach_of_not_fails {k : ResourceKind} (info : Info k) {out : AttachOutcome k}
    (h : out.fails = false) :
    (attach info out).1 = 0 ∧ ∃ handle, (attach info out).2 = some handle ∧
      handle.token = info.token := by
  cases k with
  | memregion =>
      rcases out with ⟨opened, mmap⟩
      cases opened with
      | error e => cases h
      | ok fd =>
          cases mmap with
          | error e => cases h
          | ok addr => exact ⟨rfl, _, rfl, rfl⟩
  | eventsrc =>
      cases out with
      | error e => cases h
      | ok fd => exact ⟨rfl, _, rfl, rfl⟩

/-! ## Acquiring and giving back -/

/-- How the calls fail that are made for one acquisition: those of the claim, those that map or
open, and those of the release that follows when these fail. -/
structure AcquireFaults (k : ResourceKind) where
  claimIo : IoFaults
  claimSys : SysFaults
  attach : AttachOutcome k
  undoIo : IoFaults
  undoSys : SysFaults

structure AcquireResult (k : ResourceKind) where
  ret : Int
  state : KernelState
  handle : Option (Handle k)

/-- Claim a resource, then attach it; a resource that cannot be attached is released again. -/
def claimAndAttach (cfg : Config) (k : ResourceKind) (rt : Bool) (pid : Pid) (id : ResourceId)
    (options : BitVec 32) (f : AcquireFaults k) (s : KernelState) : Option (AcquireResult k) :=
  (resourceClaim cfg k rt pid id options f.claimIo f.claimSys s).bind fun claim =>
    if claim.ret ≠ 0 then some ⟨claim.ret, claim.state, none⟩
    else
      match claim.reply.bind (replyInfo k) with
      | none => none -- not reached: a claim that returns 0 has copied out its info
      | some info =>
          let attached := attach info f.attach
          if attached.1 ≠ 0 then
            -- what the release returns is not looked at
            (resourceReleaseByToken cfg k rt pid info.token f.undoIo f.undoSys claim.state).map
              fun undo => ⟨attached.1, undo.state, none⟩
          else
            some ⟨0, claim.state, attached.2⟩

/-- `cuddl_memregion_claim_and_map` -/
def memregionClaimAndMap (cfg : Config) (rt : Bool) (pid : Pid) (id : ResourceId)
    (options : BitVec 32) (f : AcquireFaults .memregion) (s : KernelState) :
    Option (AcquireResult .memregion) :=
  claimAndAttach cfg .memregion rt pid id options f s

/-- `cuddl_eventsrc_claim_and_open` -/
def eventsrcClaimAndOpen (cfg : Config) (rt : Bool) (pid : Pid) (id : ResourceId)
    (options : BitVec 32) (f : AcquireFaults .eventsrc) (s : KernelState) :
    Option (AcquireResult .eventsrc) :=
  claimAndAttach cfg .eventsrc rt pid id options f s

/-- Detach a resource, which returns `detached`, and release it in any case. -/
def detachAndRelease (cfg : Config) (k : ResourceKind) (rt : Bool) (pid : Pid) (handle : Handle k)
    (detached : Int) (io : IoFaults) (sys : SysFaults) (s : KernelState) :
    Option (Int × KernelState) :=
  (resourceReleaseByToken cfg k rt pid handle.token io sys s).map fun release =>
    (if detached ≠ 0 then detached else release.ret, release.state)

/-- `cuddl_memregion_unmap_and_release` -/
def memregionUnmapAndRelease (cfg : Config) (rt : Bool) (pid : Pid) (handle : Memregion)
    (munmap close : Option SysErrno) (io : IoFaults) (sys : SysFaults) (s : KernelState) :
    Option (Int × KernelState) :=
  detachAndRelease cfg .memregion rt pid handle (memregionUnmap munmap close) io sys s

/-- `cuddl_eventsrc_close_and_release` -/
def eventsrcCloseAndRelease (cfg : Config) (rt : Bool) (pid : Pid) (handle : Eventsrc)
    (close : Option SysErrno) (io : IoFaults) (sys : SysFaults) (s : KernelState) :
    Option (Int × KernelState) :=
  detachAndRelease cfg .eventsrc rt pid handle (eventsrcClose close) io sys s

end User
end Cuddl
