import Cuddl.Kernel.Simulation
import Cuddl.Properties.Acquisition
import Cuddl.User.Objects

/-!
# What an object owns

A `MemRegion` or `EventSrc` has room for one claim.  While every system call works, the number of
claims made through it and not yet released is one when it says that it is mapped or open, and
zero otherwise, as long as nothing is acquired through an object that has something already
(`object_owns_one`).  `claim_and_map` does not look at the flag: the structure is overwritten,
and with it the only copy of the first token (`object_loses_claim`).
-/

namespace Cuddl
namespace User

open Foundation Foundation.Machine

/-- The life of an object with the claims made through it. -/
abbrev Owned (k : ResourceKind) := ObjectState k × Multiset (Token k)

section Machine

variable {k : ResourceKind} (cfg : Config) (rt : Bool) (pid : Pid)

/-! ## The claims of an object -/

/-- What the requests made for an object return is noted: a CLAIM adds its token, a RELEASE strikes
the one that it names.  A structure that is taken over as mapped or open brings its claim along,
if the manager has that on its list. -/
def noteHeld (x : ObjectState k) (a : ObjectOp k) (_ : ObjectState k)
    (held : Multiset (Token k)) : Multiset (Token k) :=
  match a with
  | .construct id options f | .claimAndAttach id options f =>
      match claimedToken cfg x.kernel k rt ⟨userVersionCode, id, pid, options⟩ f.claimIo with
      | none => held
      | some t => t ::ₘ held
  | .adopt handle attached =>
      if attached && (x.kernel.refs k).contains ⟨handle.token, pid⟩ then handle.token ::ₘ held
      else held
  | .detachAndRelease _ io _ | .destroy _ io _ =>
      match x.object with
      | none => held
      | some o =>
          if o.attached = true ∧
              IoctlOk cfg x.kernel (.release k rt (releaseData o.handle.token pid)) io then
            held.erase o.handle.token
          else held
  | .zeroed | .kernel _ => held

/-- Every system call works: all that can fail in an acquisition is the CLAIM, in whichever way,
and what is taken over as mapped or open was claimed. -/
def CallsWork (x : ObjectState k) : ObjectOp k → Prop
  | .construct _ _ f | .claimAndAttach _ _ f =>
      f.claimSys.openErrno = none ∧ f.claimSys.closeErrno = none ∧ f.attach.fails = false
  | .adopt handle attached => attached = true → ⟨handle.token, pid⟩ ∈ x.kernel.refs k
  | .detachAndRelease _ io sys | .destroy _ io sys =>
      ∀ o ∈ x.object, o.attached = true → sys.openErrno = none ∧
        IoctlOk cfg x.kernel (.release k rt (releaseData o.handle.token pid)) io
  | .zeroed | .kernel _ => True

/-- Nothing is acquired through an object that has something. -/
def AcquiresOnce (x : ObjectState k) : ObjectOp k → Prop
  | .claimAndAttach id options f =>
      x.attached = true → ¬ Granted x.kernel k pid id options f.claimIo f.claimSys
  | _ => True

/-- The claims of an object that is mapped or open are the one in its structure; any other object
has none. -/
def OwnsOne (x : Owned k) : Prop :=
  match x.1.object with
  | none => x.2 = 0
  | some o => x.2 = if o.attached then {o.handle.token} else 0

end Machine

section Steps

variable {cfg : Config} {k : ResourceKind} {rt : Bool} {pid : Pid} {id : ResourceId}
  {options : BitVec 32} {f : AcquireFaults k} {s : KernelState}

/-! ## The calls -/

/-- The manager's answer to a CLAIM between two calls that work. -/
theorem managerIoctl_of_resourceClaim {io : IoFaults} {sys : SysFaults} {r : CallResult}
    (hopen : sys.openErrno = none)
    (h : resourceClaim cfg k rt pid id options io sys s = some r) :
    ∃ res, managerIoctl cfg s (.claim k rt ⟨userVersionCode, id, pid, options⟩) io = some res ∧
      r = finishCall sys res := by
  simp only [resourceClaim, managerCall, hopen] at h
  rcases Option.map_eq_some_iff.1 h with ⟨res, hres, hr⟩
  exact ⟨res, hres, hr.symm⟩

/-- Where only the CLAIM can fail, an acquisition gets the token that the CLAIM returns. -/
theorem claimAndAttach_cases (cfg : Config) (rt : Bool) (pid : Pid) (id : ResourceId)
    (options : BitVec 32) (s : KernelState) (hopen : f.claimSys.openErrno = none)
    (hclose : f.claimSys.closeErrno = none) (hattach : f.attach.fails = false) :
    (claimedToken cfg s k rt ⟨userVersionCode, id, pid, options⟩ f.claimIo = none ∧
        ∃ res, claimAndAttach cfg k rt pid id options f s = some res ∧ res.ret < 0) ∨
      (Granted s k pid id options f.claimIo f.claimSys ∧ ∃ (t : Token k) (handle : Handle k)
          (s' : KernelState),
        claimedToken cfg s k rt ⟨userVersionCode, id, pid, options⟩ f.claimIo = some t ∧
          handle.token = t ∧
          claimAndAttach cfg k rt pid id options f s = some ⟨0, s', some handle⟩) := by
  rcases resourceClaim_cases cfg s k rt pid id options f.claimIo f.claimSys with
    ⟨_, r, hr, hneg, _⟩ | ⟨hgranted, d, p, i, _, hclaim⟩
  · left
    rcases managerIoctl_of_resourceClaim hopen hr with ⟨res, hres, rfl⟩
    refine ⟨?_, _, claimAndAttach_of_refused hr hneg, hneg⟩
    rw [finishCall_of_closes hclose] at hneg
    simp [claimedToken, hres, hneg.ne]
  · right
    rcases managerIoctl_of_resourceClaim hopen hclaim with ⟨res, hres, hfinish⟩
    rcases replyInfo_infoReply cfg ((s.takeRef p ⟨k, i⟩).heap p) rt ⟨d, i⟩ with
      ⟨info, hinfo, htoken⟩
    rcases (attach_of_not_fails info hattach).2 with ⟨handle, hhandle, hsame⟩
    refine ⟨hgranted, ⟨d, i⟩, handle, recorded s d p i pid, ?_, hsame.trans htoken, ?_⟩
    · -- the reply to the CLAIM is the one that the call has passed on
      rw [finishCall_of_closes hclose, finishCall_of_closes hclose, CallResult.mk.injEq] at hfinish
      rcases hfinish with ⟨hret, _, hreply⟩
      simp only [← hret, if_true] at hreply
      have hread : Reply.token? k (claimReply cfg (s.takeRef p ⟨k, i⟩) k rt d p i) =
          some ⟨d, i⟩ := token?_infoReply cfg _ rt _
      simp [claimedToken, hres, ← hret, ← hreply, hread]
    · rw [claimAndAttach_of_not_fails hclose hclaim hinfo hattach, hhandle]

theorem Object.claimAndAttach_cases (cfg : Config) (rt : Bool) (pid : Pid) (o : Object k)
    (id : ResourceId) (options : BitVec 32) (s : KernelState)
    (hopen : f.claimSys.openErrno = none) (hclose : f.claimSys.closeErrno = none)
    (hattach : f.attach.fails = false) :
    (claimedToken cfg s k rt ⟨userVersionCode, id, pid, options⟩ f.claimIo = none ∧
        ∃ ret s', ret < 0 ∧
          o.claimAndAttach cfg rt pid id options f s = some ⟨some ret, o, s'⟩) ∨
      (Granted s k pid id options f.claimIo f.claimSys ∧ ∃ (t : Token k) (handle : Handle k)
          (s' : KernelState),
        claimedToken cfg s k rt ⟨userVersionCode, id, pid, options⟩ f.claimIo = some t ∧
          handle.token = t ∧
          o.claimAndAttach cfg rt pid id options f s = some ⟨none, ⟨handle, true⟩, s'⟩) := by
  rcases User.claimAndAttach_cases cfg rt pid id options s hopen hclose hattach with
    ⟨hnone, res, hres, hneg⟩ | ⟨hgranted, t, handle, s', ht, htoken, hres⟩
  · exact Or.inl ⟨hnone, res.ret, res.state, hneg, by simp [Object.claimAndAttach, hres, hneg]⟩
  · exact Or.inr ⟨hgranted, t, handle, s', ht, htoken, by simp [Object.claimAndAttach, hres]⟩

/-- A release that works leaves nothing to give back. -/
theorem Object.detachAndRelease_attached {o : Object k} {detached : Int} {io : IoFaults}
    {sys : SysFaults} {r : Object k × KernelState}
    (h : o.detachAndRelease cfg rt pid detached io sys s = some r) : r.1.attached = false := by
  unfold Object.detachAndRelease at h
  split at h
  · rcases Option.map_eq_some_iff.1 h with ⟨_, _, rfl⟩
    rfl
  · rename_i hdetached
    cases h
    simpa using hdetached

/-! ## One step -/

variable {held : Multiset (Token k)} {o : Object k}

theorem OwnsOne.noteHeld_release {io : IoFaults} (hown : OwnsOne (⟨s, some o⟩, held))
    (hwork : o.attached = true →
      IoctlOk cfg s (.release k rt (releaseData o.handle.token pid)) io) :
    (if o.attached = true ∧ IoctlOk cfg s (.release k rt (releaseData o.handle.token pid)) io then
      held.erase o.handle.token else held) = 0 := by
  have hheld : held = if o.attached then {o.handle.token} else 0 := hown
  by_cases hattached : o.attached = true
  · rw [if_pos ⟨hattached, hwork hattached⟩, hheld, if_pos hattached]
    exact Multiset.erase_singleton _
  · rw [if_neg fun h => hattached h.1, hheld, if_neg hattached]

/-- Every call that works keeps the books of an object that acquires once. -/
theorem OwnsOne.step {x x' : ObjectState k} {a : ObjectOp k}
    (hown : OwnsOne (x, held)) (hwork : CallsWork cfg rt pid x a) (honce : AcquiresOnce pid x a)
    (hexec : objectExec cfg rt pid a x = some x') :
    OwnsOne (x', noteHeld cfg rt pid x a x' held) := by
  rcases x with ⟨s, object⟩
  cases object with
  | none =>
      -- only constructors run, on an empty book
      have hzero : held = 0 := hown
      subst hzero
      cases a with
      | zeroed =>
          cases hexec
          rfl
      | adopt handle attached =>
          cases hexec
          cases attached with
          | false => rfl
          | true =>
              have hlisted := hwork rfl
              simp [OwnsOne, noteHeld, hlisted]
      | construct id options f =>
          rcases hwork with ⟨hopen, hclose, hattach⟩
          rcases Option.map_eq_some_iff.1 hexec with ⟨r, hr, rfl⟩
          rcases Option.map_eq_some_iff.1 hr with ⟨m, hm, rfl⟩
          rcases Object.claimAndAttach_cases cfg rt pid (Object.zeroed k) id options s hopen hclose
              hattach with
            ⟨hnone, ret, s', _, heq⟩ | ⟨_, t, handle, s', ht, htoken, heq⟩
          · -- the constructor throws, and nothing was claimed
            cases heq.symm.trans hm
            simp [OwnsOne, noteHeld, hnone]
          · cases heq.symm.trans hm
            simp [OwnsOne, noteHeld, ht, htoken]
      | kernel a =>
          rcases Option.map_eq_some_iff.1 hexec with ⟨s', _, rfl⟩
          rfl
      | _ => cases hexec
  | some o =>
      have hheld : held = if o.attached then {o.handle.token} else 0 := hown
      cases a with
      | claimAndAttach id options f =>
          rcases hwork with ⟨hopen, hclose, hattach⟩
          rcases Option.map_eq_some_iff.1 hexec with ⟨m, hm, rfl⟩
          rcases Object.claimAndAttach_cases cfg rt pid o id options s hopen hclose hattach with
            ⟨hnone, ret, s', _, heq⟩ | ⟨hgranted, t, handle, s', ht, htoken, heq⟩
          · cases heq.symm.trans hm
            simpa [OwnsOne, noteHeld, hnone] using hheld
          · -- the claim was granted, so the object had nothing
            cases heq.symm.trans hm
            have hdetached : o.attached = false := by
              by_contra hattached
              exact honce (by simpa [ObjectState.attached] using hattached) hgranted
            rw [hdetached] at hheld
            simp [OwnsOne, noteHeld, ht, htoken, hheld]
      | detachAndRelease detached io sys =>
          rcases Option.map_eq_some_iff.1 hexec with ⟨r, hr, rfl⟩
          have hempty := hown.noteHeld_release fun h => (hwork o rfl h).2
          simp [OwnsOne, noteHeld, hempty, Object.detachAndRelease_attached hr]
      | destroy detached io sys =>
          rcases Option.map_eq_some_iff.1 hexec with ⟨r, hr, rfl⟩
          exact hown.noteHeld_release fun h => (hwork o rfl h).2
      | kernel a =>
          rcases Option.map_eq_some_iff.1 hexec with ⟨s', _, rfl⟩
          exact hown
      | _ => cases hexec

end Steps

/-! ## Every run -/

/-- While every system call works and nothing is acquired through an object that has something,
the claims made through it and not yet released are one when it is mapped or open, none when it is
not, and none when it is destroyed. -/
theorem object_owns_one {cfg : Config} {k : ResourceKind} {rt : Bool} {pid : Pid}
    {s : KernelState} {x : Owned k}
    (h : Reachable (track (objectExec cfg rt pid) (noteHeld cfg rt pid))
      (fun x a => CallsWork cfg rt pid x.1 a ∧ AcquiresOnce pid x.1 a) (⟨s, none⟩, 0) x) :
    Multiset.card x.2 = if x.1.attached then 1 else 0 := by
  have hown : OwnsOne x := by
    refine h.track_invariant rfl ?_
    intro x x' held a hown hguard hexec
    exact hown.step hguard.1 hguard.2 hexec
  rcases x with ⟨⟨s', object⟩, held⟩
  cases object with
  | none =>
      have hheld : held = 0 := hown
      simp [hheld, ObjectState.attached]
  | some o =>
      have hheld : held = if o.attached then {o.handle.token} else 0 := hown
      cases hattached : o.attached with
      | true => simp [hheld, hattached, ObjectState.attached]
      | false => simp [hheld, hattached, ObjectState.attached]

/-! ## Runs -/

instance (io : IoFaults) : Decidable (Succeeds io) :=
  inferInstanceAs (Decidable (_ ∧ _ ∧ _ ∧ _))

instance (s : KernelState) (k : ResourceKind) (pid : Pid) (id : ResourceId)
    (options : BitVec 32) (io : IoFaults) (sys : SysFaults) :
    Decidable (Granted s k pid id options io sys) :=
  decidable_of_iff (sys.openErrno = none ∧ Succeeds io ∧
    (managerLookup s k id).any (fun r => decide (Admitted s r.2.1 ⟨k, r.2.2⟩
      (ClaimData.hostile ⟨userVersionCode, id, pid, options⟩))) = true) <| by
        simp [Granted, Option.any_eq_true]

instance {k : ResourceKind} (cfg : Config) (rt : Bool) (pid : Pid) (x : ObjectState k) :
    (a : ObjectOp k) → Decidable (CallsWork cfg rt pid x a)
  | .construct _ _ _ | .claimAndAttach _ _ _ => inferInstanceAs (Decidable (_ ∧ _ ∧ _))
  | .adopt handle attached =>
      inferInstanceAs (Decidable (attached = true → ⟨handle.token, pid⟩ ∈ x.kernel.refs k))
  | .detachAndRelease _ io sys | .destroy _ io sys =>
      decidable_of_iff (x.object.all (fun o => !o.attached || decide (sys.openErrno = none ∧
        IoctlOk cfg x.kernel (.release k rt (releaseData o.handle.token pid)) io)) = true) <| by
          simp [CallsWork, Option.all_eq_true, imp_iff_not_or]
  | .zeroed | .kernel _ => .isTrue trivial

instance {k : ResourceKind} (pid : Pid) (x : ObjectState k) :
    (a : ObjectOp k) → Decidable (AcquiresOnce pid x a)
  | .claimAndAttach id options f =>
      inferInstanceAs (Decidable (x.attached = true →
        ¬ Granted x.kernel k pid id options f.claimIo f.claimSys))
  | .zeroed | .adopt _ _ | .construct _ _ _ | .detachAndRelease _ _ _ | .destroy _ _ _
  | .kernel _ => .isTrue trivial

/-- Nothing fails but the CLAIM, where the manager says so. -/
def Sample.working : AcquireFaults .memregion :=
  { claimIo := Sample.noFaults
    claimSys := { openErrno := none, closeErrno := none }
    attach := { opened := .ok 3, mmap := .ok 0 }
    undoIo := Sample.noFaults
    undoSys := { openErrno := none, closeErrno := none } }

/-- The id of any region of device `name`. -/
def Sample.idOf (name : String) : ResourceId :=
  { group := ascii "g", device := ascii name, resource := [], instanceId := 0 }

def Sample.destroy : ObjectOp .memregion :=
  .destroy 0 Sample.noFaults { openErrno := none, closeErrno := none }

/-- One object acquires the first region, gives it back and acquires it again. -/
theorem object_owns_one_twice :
    ∃ x : Owned .memregion,
      Reachable (track (objectExec Sample.config false 1) (noteHeld Sample.config false 1))
        (fun x a => CallsWork Sample.config false 1 x.1 a ∧ AcquiresOnce 1 x.1 a)
        (⟨Sample.managed, none⟩, 0) x ∧
      x.1.attached = true ∧ Multiset.card x.2 = if x.1.attached then 1 else 0 := by
  have hrun : ∃ x : Owned .memregion,
      Reachable (track (objectExec Sample.config false 1) (noteHeld Sample.config false 1))
        (fun x a => CallsWork Sample.config false 1 x.1 a ∧ AcquiresOnce 1 x.1 a)
        (⟨Sample.managed, none⟩, 0) x ∧ x.1.attached = true :=
    exists_reachable_of_run
      [.construct (Sample.idOf "x") 0 Sample.working,
        .detachAndRelease 0 Sample.noFaults { openErrno := none, closeErrno := none },
        .claimAndAttach (Sample.idOf "x") 0 Sample.working]
      (by decide +kernel)
  rcases hrun with ⟨x, hx, hattached⟩
  exact ⟨x, hx, hattached, object_owns_one hx⟩

/-- An object that is mapped acquires another region and is destroyed: the manager still has the
first claim on its list. -/
theorem object_loses_claim :
    ∃ x : Owned .memregion,
      Reachable (track (objectExec Sample.config false 1) (noteHeld Sample.config false 1))
        (fun x a => CallsWork Sample.config false 1 x.1 a) (⟨Sample.managedBoth, none⟩, 0) x ∧
      x.1.object = none ∧ Multiset.card x.2 = 1 ∧
        x.1.kernel.refs .memregion = [⟨Sample.firstToken, 1⟩] := by
  have hrun : ∃ x : Owned .memregion,
      Reachable (track (objectExec Sample.config false 1) (noteHeld Sample.config false 1))
        (fun x a => CallsWork Sample.config false 1 x.1 a) (⟨Sample.managedBoth, none⟩, 0) x ∧
      (x.1.object.isNone = true ∧ Multiset.card x.2 = 1 ∧
        x.1.kernel.refs .memregion = [⟨Sample.firstToken, 1⟩]) :=
    exists_reachable_of_run
      [.construct (Sample.idOf "x") 0 Sample.working,
        .claimAndAttach (Sample.idOf "a") 0 Sample.working, Sample.destroy]
      (by decide +kernel)
  rcases hrun with ⟨x, hx, hgone, hcard, hrefs⟩
  exact ⟨x, hx, Option.isNone_iff_eq_none.1 hgone, hcard, hrefs⟩

end User
end Cuddl
