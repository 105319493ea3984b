import Cuddl.Kernel.System
import Cuddl.User.Acquire

/-!
# Acquiring is all or nothing

`cuddl_memregion_claim_and_map` and `cuddl_eventsrc_claim_and_open` should leave no claim behind
when they fail, and a claim that the matching release takes back when they succeed.  They do so
except when a claim that the manager has granted meets a failing `close`, or a failing map or open
whose release does not get through to the manager (`allOrNothing_iff`).
-/

namespace Cuddl
namespace User

/-! ## What is compared -/

/-- The counts and the lists of the manager are the same. -/
structure SameClaims (s s' : KernelState) : Prop where
  refCount : ∀ p x, (s'.heap p).refCount x = (s.heap p).refCount x
  refs : s'.refs = s.refs

/-- No call that the manager makes fails. -/
def Succeeds (io : IoFaults) : Prop :=
  io.kzallocFails = false ∧ io.copyFromUserFails = false ∧ io.copyToUserFails = false ∧
    io.refAllocFails = false

/-- The manager grants the claim of `id`: the request gets there, finds a resource that is free for
it, and is put on the list. -/
def Granted (s : KernelState) (k : ResourceKind) (pid : Pid) (id : ResourceId)
    (options : BitVec 32) (io : IoFaults) (sys : SysFaults) : Prop :=
  sys.openErrno = none ∧ Succeeds io ∧
    ∃ d p i, managerLookup s k id = some (d, p, i) ∧
      Admitted s p ⟨k, i⟩ (ClaimData.hostile ⟨userVersionCode, id, pid, options⟩)

/-- The release after a failing map or open gets through to the manager. -/
def Undoes {k : ResourceKind} (f : AcquireFaults k) : Prop :=
  f.undoSys.openErrno = none ∧ f.undoIo.kzallocFails = false ∧
    f.undoIo.copyFromUserFails = false

/-- A failing acquisition leaves the counts and lists as they were, and so does a successful one
once it is given back by calls that all succeed. -/
def AllOrNothing (cfg : Config) (k : ResourceKind) (rt : Bool) (pid : Pid) (id : ResourceId)
    (options : BitVec 32) (f : AcquireFaults k) (s : KernelState) : Prop :=
  ∃ res, claimAndAttach cfg k rt pid id options f s = some res ∧
    (res.ret ≠ 0 → SameClaims s res.state) ∧
    (res.ret = 0 → ∃ handle, res.handle = some handle ∧
      ∀ io sys, Succeeds io → sys.openErrno = none → sys.closeErrno = none →
        ∃ t, detachAndRelease cfg k rt pid handle 0 io sys res.state = some (0, t) ∧
          SameClaims s t)

/-! ## The claim -/

/-- The manager with one more claim on record. -/
def recorded (s : KernelState) {k : ResourceKind} (d : Slot) (p : DevPtr) (i : Fin k.max)
    (pid : Pid) : KernelState :=
  (s.takeRef p ⟨k, i⟩).setRefs k (⟨⟨d, i⟩, pid⟩ :: s.refs k)

theorem not_sameClaims_recorded (s : KernelState) {k : ResourceKind} (d : Slot) (p : DevPtr)
    (i : Fin k.max) (pid : Pid) : ¬ SameClaims s (recorded s d p i pid) := by
  intro h
  have hrefs := congrFun h.refs k
  rw [recorded, KernelState.setRefs_refs, Function.update_self] at hrefs
  exact List.cons_ne_self _ _ hrefs

section Claim

variable {cfg : Config} {s : KernelState} {k : ResourceKind} {rt : Bool} {pid : Pid}
  {id : ResourceId} {options : BitVec 32} {io : IoFaults} {sys : SysFaults}

/-- A claim is granted and recorded, or it fails and leaves no claim. -/
theorem resourceClaim_cases (cfg : Config) (s : KernelState) (k : ResourceKind) (rt : Bool)
    (pid : Pid) (id : ResourceId) (options : BitVec 32) (io : IoFaults) (sys : SysFaults) :
    (¬ Granted s k pid id options io sys ∧ ∃ r,
        resourceClaim cfg k rt pid id options io sys s = some r ∧ r.ret < 0 ∧
          SameClaims s r.state) ∨
      (Granted s k pid id options io sys ∧ ∃ d p i, s.devices d = some p ∧
        resourceClaim cfg k rt pid id options io sys s = some (finishCall sys
          ⟨0, recorded s d p i pid, some (claimReply cfg (s.takeRef p ⟨k, i⟩) k rt d p i)⟩)) := by
  have hsame : SameClaims s s := ⟨fun _ _ => rfl, rfl⟩
  let data : ClaimData := ⟨userVersionCode, id, pid, options⟩
  have hv : (Request.claim k rt data).versionCode? = some userVersionCode := rfl
  cases hopen : sys.openErrno with
  | some e =>
      left
      have hpos := e.property
      refine ⟨fun h => ?_, ⟨-(e.val : Int), s, none⟩, ?_, ?_, hsame⟩
      · cases hopen.symm.trans h.1
      · simp [resourceClaim, managerCall, hopen]
      · simp only
        omega
  | none =>
      have hcall : ∀ res, managerIoctl cfg s (.claim k rt data) io = some res →
          resourceClaim cfg k rt pid id options io sys s = some (finishCall sys res) := by
        intro res hres
        have hres' : managerIoctl cfg s (.claim k rt ⟨userVersionCode, id, pid, options⟩) io =
            some res := hres
        simp [resourceClaim, managerCall, hopen, hres']
      by_cases hacc : Accepted (.claim k rt data) io
      · have hcmd : managerIoctl cfg s (.claim k rt data) io =
            some (ioctlClaimInfo cfg k true rt data io s) := managerIoctl_of_accepted hacc
        have hcall' := hcall _ hcmd
        rcases (accepted_iff hv).1 hacc with ⟨halloc, hcopy⟩
        rcases ioctlClaimInfo_claim_cases cfg k rt data io s with
          ⟨hneg, hst, hno⟩ | ⟨d, p, i, hfind, hadm, ⟨hfail, hneg, hst⟩ | ⟨⟨hcopy', href⟩, heq⟩⟩
        · left
          refine ⟨?_, _, hcall', finishCall_ret_neg hneg, ?_⟩
          · rintro ⟨_, _, d, p, i, hfind, hadm⟩
            exact hno d p i hfind hadm
          · rw [finishCall_state, hst]
            exact hsame
        · -- granting needs the two calls of which one fails here
          left
          refine ⟨?_, _, hcall', finishCall_ret_neg hneg, ?_⟩
          · rintro ⟨_, ⟨_, _, hcopyOk, hrefOk⟩, _⟩
            rcases hfail with hcopyFails | hrefFails
            · cases hcopyOk.symm.trans hcopyFails
            · cases hrefOk.symm.trans hrefFails
          · rw [finishCall_state, hst]
            exact ⟨by simp, by simp⟩
        · right
          refine ⟨⟨hopen, ⟨halloc, hcopy, hcopy', href⟩, d, p, i, hfind, hadm⟩, d, p, i,
            (managerLookup_eq_some hfind).1, ?_⟩
          rw [hcall', heq]
          rfl
      · left
        have hsome : (managerIoctl cfg s (.claim k rt data) io).isSome := managerIoctl_isSome rfl
        rcases Option.isSome_iff_exists.1 hsome with ⟨res, hres⟩
        rcases managerIoctl_cases hres with ⟨_, hneg, hst, _⟩ | ⟨hacc', _⟩
        · refine ⟨?_, _, hcall res hres, finishCall_ret_neg hneg, ?_⟩
          · rintro ⟨_, ⟨halloc, hcopy, _⟩, _⟩
            exact hacc ((accepted_iff hv).2 ⟨halloc, hcopy⟩)
          · rw [finishCall_state, hst]
            exact hsame
        · exact absurd hacc' hacc

end Claim

/-! ## The release -/

section Release

variable {s : KernelState} {k : ResourceKind} {d : Slot} {p : DevPtr} {io : IoFaults}
  {sys : SysFaults}

/-- The claim went on at the head of its list, where the search for it starts. -/
theorem sameClaims_released (s : KernelState) {k : ResourceKind} (d : Slot) (p : DevPtr)
    (i : Fin k.max) (pid : Pid) :
    SameClaims s ((resourceDecrRefCount (recorded s d p i pid) p ⟨k, i⟩).2.setRefs k
      (((recorded s d p i pid).refs k).erase ⟨⟨d, i⟩, pid⟩)) := by
  refine ⟨?_, ?_⟩
  · intro q y
    rw [KernelState.setRefs_heap, refCount_resourceDecrRefCount, recorded,
      KernelState.setRefs_heap, refCount_takeRef, Nat.add_sub_cancel]
  · rw [KernelState.setRefs_refs, resourceDecrRefCount_refs]
    simp [recorded]

/-- A release that gets through strikes the claim that was recorded last. -/
theorem release_recorded (cfg : Config) (rt : Bool) (i : Fin k.max) (pid : Pid)
    (hslot : s.devices d = some p) (hopen : sys.openErrno = none) (halloc : io.kzallocFails = false)
    (hcopy : io.copyFromUserFails = false) :
    ∃ t, SameClaims s t ∧
      resourceReleaseByToken cfg k rt pid ⟨d, i⟩ io sys (recorded s d p i pid) =
        some (finishCall sys ⟨0, t, none⟩) := by
  let data : ReleaseData := releaseData (⟨d, i⟩ : Token k) pid
  have hv : (Request.release k rt data).versionCode? = some userVersionCode := rfl
  have hacc : Accepted (.release k rt data) io := (accepted_iff hv).2 ⟨halloc, hcopy⟩
  have hcmd : managerIoctl cfg (recorded s d p i pid) (.release k rt data) io =
      some (ioctlRelease k data (recorded s d p i pid)) := managerIoctl_of_accepted hacc
  have hslot' : (recorded s d p i pid).devices d = some p := by
    simpa [recorded] using hslot
  rcases ioctlRelease_cases k data (recorded s d p i pid) with
    ⟨_, _, hempty⟩ | ⟨d', p', i', hd, hi, hslot'', heq⟩
  · cases hslot'.symm.trans (hempty d i rfl rfl)
  · -- the slots that the release finds are those of the token
    have hdd : d = d' := Fin.ext (Int.ofNat.inj hd)
    have hii : i = i' := Fin.ext (Int.ofNat.inj hi)
    subst hdd hii
    cases hslot'.symm.trans hslot''
    refine ⟨_, sameClaims_released s d p i pid, ?_⟩
    rw [heq] at hcmd
    simp only [resourceReleaseByToken, managerCall, hopen]
    exact congrArg (Option.map (finishCall sys)) hcmd

/-- A release that does not get through changes nothing. -/
theorem release_lost (cfg : Config) (rt : Bool) (pid : Pid) (s : KernelState) (t : Token k)
    (hlost : ¬ (sys.openErrno = none ∧ io.kzallocFails = false ∧ io.copyFromUserFails = false)) :
    ∃ r, resourceReleaseByToken cfg k rt pid t io sys s = some r ∧ r.state = s := by
  cases hopen : sys.openErrno with
  | some e =>
      refine ⟨⟨-(e.val : Int), s, none⟩, ?_, rfl⟩
      simp [resourceReleaseByToken, managerCall, hopen]
  | none =>
      have hsome : (managerIoctl cfg s (.release k rt (releaseData t pid)) io).isSome :=
        managerIoctl_isSome rfl
      rcases Option.isSome_iff_exists.1 hsome with ⟨res, hres⟩
      rcases managerIoctl_cases hres with ⟨_, _, hst, _⟩ | ⟨hacc, _⟩
      · refine ⟨finishCall sys res, ?_, ?_⟩
        · simp [resourceReleaseByToken, managerCall, hopen, hres]
        · rw [finishCall_state, hst]
      · have hv : (Request.release k rt (releaseData t pid)).versionCode? =
            some userVersionCode := rfl
        exact absurd ⟨hopen, (accepted_iff hv).1 hacc⟩ hlost

end Release

/-! ## The whole acquisition -/

theorem replyInfo_infoReply (cfg : Config) (dev : Device) (rt : Bool) {k : ResourceKind}
    (t : Token k) : ∃ info, replyInfo k (infoReply cfg dev rt k t) = some info ∧
      info.token = t := by
  cases k with
  | memregion => exact ⟨_, rfl, rfl⟩
  | eventsrc => exact ⟨_, rfl, rfl⟩

section Acquisition

variable {cfg : Config} {k : ResourceKind} {rt : Bool} {pid : Pid} {id : ResourceId}
  {options : BitVec 32} {f : AcquireFaults k} {s : KernelState} {d : Slot} {p : DevPtr}
  {i : Fin k.max} {reply : Reply}

/-- The claim fails. -/
theorem claimAndAttach_of_refused {r : CallResult}
    (hclaim : resourceClaim cfg k rt pid id options f.claimIo f.claimSys s = some r)
    (hret : r.ret < 0) :
    claimAndAttach cfg k rt pid id options f s = some ⟨r.ret, r.state, none⟩ := by
  simp [claimAndAttach, hclaim, hret.ne]

/-- The claim was recorded, but its `close` fails. -/
theorem claimAndAttach_of_close {e : SysErrno} (hclose : f.claimSys.closeErrno = some e)
    (hclaim : resourceClaim cfg k rt pid id options f.claimIo f.claimSys s =
      some (finishCall f.claimSys ⟨0, recorded s d p i pid, some reply⟩)) :
    claimAndAttach cfg k rt pid id options f s =
      some ⟨-(e.val : Int), recorded s d p i pid, none⟩ := by
  have hpos := e.property
  have hne : e.val ≠ 0 := by omega
  simp [claimAndAttach, hclaim, finishCall, hclose, hne]

variable {info : Info k}

theorem claimAndAttach_of_fails (hclose : f.claimSys.closeErrno = none)
    (hclaim : resourceClaim cfg k rt pid id options f.claimIo f.claimSys s =
      some (finishCall f.claimSys ⟨0, recorded s d p i pid, some reply⟩))
    (hinfo : replyInfo k reply = some info) (hfails : f.attach.fails = true) {undo : CallResult}
    (hundo : resourceReleaseByToken cfg k rt pid info.token f.undoIo f.undoSys
      (recorded s d p i pid) = some undo) :
    claimAndAttach cfg k rt pid id options f s =
      some ⟨(attach info f.attach).1, undo.state, none⟩ := by
  have hne : (attach info f.attach).1 ≠ 0 := (attach_of_fails info hfails).1.ne
  simp [claimAndAttach, hclaim, finishCall, hclose, hinfo, hne, hundo]

theorem claimAndAttach_of_not_fails (hclose : f.claimSys.closeErrno = none)
    (hclaim : resourceClaim cfg k rt pid id options f.claimIo f.claimSys s =
      some (finishCall f.claimSys ⟨0, recorded s d p i pid, some reply⟩))
    (hinfo : replyInfo k reply = some info) (hok : f.attach.fails = false) :
    claimAndAttach cfg k rt pid id options f s =
      some ⟨0, recorded s d p i pid, (attach info f.attach).2⟩ := by
  have hzero : (attach info f.attach).1 = 0 := (attach_of_not_fails info hok).1
  simp [claimAndAttach, hclaim, finishCall, hclose, hinfo, hzero]

end Acquisition

/-- Acquiring is all or nothing exactly when the manager does not grant the claim, or the `close`
after it works, and the map or open works or the release that follows gets through. -/
theorem allOrNothing_iff (cfg : Config) (k : ResourceKind) (rt : Bool) (pid : Pid)
    (id : ResourceId) (options : BitVec 32) (f : AcquireFaults k) (s : KernelState) :
    AllOrNothing cfg k rt pid id options f s ↔
      (Granted s k pid id options f.claimIo f.claimSys →
        f.claimSys.closeErrno = none ∧ (f.attach.fails = true → Undoes f)) := by
  rcases resourceClaim_cases cfg s k rt pid id options f.claimIo f.claimSys with
    ⟨hno, r, hr, hret, hsame⟩ | ⟨hgranted, d, p, i, hslot, hclaim⟩
  · refine iff_of_true ⟨⟨r.ret, r.state, none⟩, ?_, fun _ => hsame, fun h => absurd h hret.ne⟩
      fun h => absurd h hno
    exact claimAndAttach_of_refused hr hret
  · rcases replyInfo_infoReply cfg ((s.takeRef p ⟨k, i⟩).heap p) rt ⟨d, i⟩ with
      ⟨info, hinfo, htoken⟩
    have hleft : ¬ SameClaims s (recorded s d p i pid) := not_sameClaims_recorded s d p i pid
    cases hclose : f.claimSys.closeErrno with
    | some e =>
        have hres := claimAndAttach_of_close hclose hclaim
        have hpos := e.property
        refine iff_of_false ?_ fun h => by cases (h hgranted).1
        rintro ⟨res, hres', hfail, _⟩
        cases hres.symm.trans hres'
        exact hleft (hfail (by simp only [ne_eq, Int.neg_eq_zero]; omega))
    | none =>
        cases hattach : f.attach.fails with
        | true =>
            have hne : (attach info f.attach).1 ≠ 0 := (attach_of_fails info hattach).1.ne
            by_cases hundo : Undoes f
            · -- the release takes back the claim
              rcases hundo with ⟨hopen, halloc, hcopy⟩
              rcases release_recorded cfg rt i pid hslot hopen halloc hcopy with
                ⟨t, ht, hrelease⟩
              rw [← htoken] at hrelease
              have hres := claimAndAttach_of_fails hclose hclaim hinfo hattach hrelease
              refine iff_of_true ⟨_, hres, fun _ => ?_, fun h => absurd h hne⟩
                fun _ => ⟨rfl, fun _ => ⟨hopen, halloc, hcopy⟩⟩
              rw [finishCall_state]
              exact ht
            · rcases release_lost cfg rt pid (recorded s d p i pid) (⟨d, i⟩ : Token k)
                hundo with ⟨r, hr, hst⟩
              rw [← htoken] at hr
              have hres := claimAndAttach_of_fails hclose hclaim hinfo hattach hr
              refine iff_of_false ?_ fun h => hundo ((h hgranted).2 rfl)
              rintro ⟨res, hres', hfail, _⟩
              cases hres.symm.trans hres'
              have hsame := hfail hne
              rw [hst] at hsame
              exact hleft hsame
        | false =>
            have hres := claimAndAttach_of_not_fails hclose hclaim hinfo hattach
            rcases (attach_of_not_fails info hattach).2 with ⟨handle, hhandle, hsameToken⟩
            refine iff_of_true ⟨_, hres, fun h => absurd rfl h, fun _ => ⟨handle, hhandle, ?_⟩⟩
              fun _ => ⟨rfl, fun h => by cases h⟩
            intro io sys hio hopen hclosed
            rcases release_recorded cfg rt i pid hslot hopen hio.1 hio.2.1 with
              ⟨t, ht, hrelease⟩
            refine ⟨t, ?_, ht⟩
            simp [detachAndRelease, hsameToken, htoken, hrelease, finishCall, hclosed]

/-- A claim of the first memory region there is; the `close` that follows it is interrupted. -/
def interruptedClose : AcquireFaults .memregion :=
  { claimIo := Sample.noFaults
    claimSys := { openErrno := none, closeErrno := some ⟨4, by decide⟩ }
    attach := { opened := .ok 3, mmap := .ok 0 }
    undoIo := Sample.noFaults
    undoSys := { openErrno := none, closeErrno := none } }

/-- The acquisition fails, and the claim stays. -/
theorem acquisition_leaks :
    ∃ res, memregionClaimAndMap Sample.config false 1 ⟨[], [], [], 0⟩ 0 interruptedClose
        Sample.managed = some res ∧
      res.ret = -4 ∧ (Sample.managed.heap 0).refCount ⟨.memregion, 0⟩ = 0 ∧
      (res.state.heap 0).refCount ⟨.memregion, 0⟩ = 1 ∧
      res.state.refs .memregion = [⟨Sample.firstToken, 1⟩] := by
  have hrun : (memregionClaimAndMap Sample.config false 1 ⟨[], [], [], 0⟩ 0 interruptedClose
      Sample.managed).any (fun res => decide (res.ret = -4 ∧
        (Sample.managed.heap 0).refCount ⟨.memregion, 0⟩ = 0 ∧
        (res.state.heap 0).refCount ⟨.memregion, 0⟩ = 1 ∧
        res.state.refs .memregion = [⟨Sample.firstToken, 1⟩])) = true := by decide +kernel
  rcases (Option.any_eq_true _ _).1 hrun with ⟨res, hres, hok⟩
  exact ⟨res, hres, of_decide_eq_true hok⟩

end User
end Cuddl
