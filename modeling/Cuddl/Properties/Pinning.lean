import Mathlib.Data.Fintype.BigOperators
import Cuddl.Kernel.System

/-!
# Claims pin the driver module

Every claim takes a reference on the module that owns the device, and every decrement gives one
back.  The two helpers ignore what `try_module_get` returns, so the references of a module are the
claims on its devices only as long as no claim is admitted while the module is being unloaded
(`PinsOwner`).
-/

namespace Cuddl

open Foundation.Machine

/-! ## References and claims -/

instance : Fintype ResourceKind where
  elems := {.memregion, .eventsrc}
  complete := by
    intro k
    cases k with
    | memregion => simp
    | eventsrc => simp

namespace KernelState

/-- The module that owns the device in slot `d`. -/
def ownerAt (s : KernelState) (d : Slot) : Option ModuleId :=
  (s.devices d).bind fun p => (s.heap p).uioOwner

/-- The counts of all resources of the managed devices that `m` owns. -/
def claimsOn (s : KernelState) (m : ModuleId) : Nat :=
  ∑ r : Res, if s.ownerAt r.1 = some m then s.countAt r else 0

end KernelState

/-- The references on each module are those of `base` and one for each claim on a device of the
module.  References are taken by `try_module_get` and dropped by `module_put` only, so this is
also a count of the calls. -/
def Pinned (base : ModuleId → Int) (s : KernelState) : Prop :=
  ∀ m, (s.modules m).refs = base m + s.claimsOn m

section Counting

variable {s s' : KernelState}

theorem SameShape.ownerAt (h : SameShape s s') : s'.ownerAt = s.ownerAt := by
  funext d
  simp only [KernelState.ownerAt, h.devices, h.uioOwner]

theorem claimsOn_congr (howner : s'.ownerAt = s.ownerAt) (hcount : s'.countAt = s.countAt)
    (m : ModuleId) : s'.claimsOn m = s.claimsOn m := by
  simp only [KernelState.claimsOn, howner, hcount]

/-- One more claim on resource `a` is one more claim on the owner of its device. -/
theorem claimsOn_succ {a : Res} (howner : s'.ownerAt = s.ownerAt)
    (hcount : ∀ r, s'.countAt r = s.countAt r + if r = a then 1 else 0) (m : ModuleId) :
    s'.claimsOn m = s.claimsOn m + if s.ownerAt a.1 = some m then 1 else 0 := by
  have hterm : ∀ r : Res, (if s'.ownerAt r.1 = some m then s'.countAt r else 0) =
      (if s.ownerAt r.1 = some m then s.countAt r else 0) +
        if r = a then (if s.ownerAt a.1 = some m then 1 else 0) else 0 := by
    intro r
    rw [howner, hcount]
    by_cases hr : r = a
    · subst hr
      by_cases hm : s.ownerAt r.1 = some m
      · simp [hm]
      · simp [hm]
    · simp [hr]
  unfold KernelState.claimsOn
  simp only [hterm, Finset.sum_add_distrib, Finset.sum_ite_eq', Finset.mem_univ, if_true]

theorem withOwner_modules (s : KernelState) (p : DevPtr) (f : Module → Module) (m : ModuleId) :
    (s.withOwner p f).modules m =
      if (s.heap p).uioOwner = some m then f (s.modules m) else s.modules m := by
  unfold KernelState.withOwner
  cases howner : (s.heap p).uioOwner with
  | none => simp
  | some m' =>
      by_cases hm : m' = m
      · subst hm
        simp [KernelState.setModule]
      · have hm' : m ≠ m' := fun h => hm h.symm
        simp [KernelState.setModule, hm, hm']

theorem ownerAt_of_devices {d : Slot} {p : DevPtr} (h : s.devices d = some p) :
    s.ownerAt d = (s.heap p).uioOwner := by
  simp [KernelState.ownerAt, h]

end Counting

/-! ## Taking and dropping references -/

section Helpers

variable {base : ModuleId → Int} {s : KernelState} {d : Slot} {p : DevPtr}

theorem takeRef_modules (s : KernelState) (p : DevPtr) (x : ResIdx) (m : ModuleId) :
    ((s.takeRef p x).modules m) =
      if (s.heap p).uioOwner = some m then tryModuleGet (s.modules m) else s.modules m := by
  have howner := (sameShape_setRefCount s p x ((s.heap p).refCount x + 1)).uioOwner p
  unfold KernelState.takeRef
  rw [withOwner_modules, howner]
  rfl

theorem dropRef_modules (s : KernelState) (p : DevPtr) (x : ResIdx) (m : ModuleId) :
    ((s.dropRef p x).modules m) =
      if (s.heap p).uioOwner = some m then modulePut (s.modules m) else s.modules m := by
  have howner := (sameShape_setRefCount s p x ((s.heap p).refCount x - 1)).uioOwner p
  unfold KernelState.dropRef
  rw [withOwner_modules, howner]
  rfl

/-- A claim on a device adds one to the claims on its owner. -/
theorem claimsOn_takeRef (hinj : TableInjective s) (hd : s.devices d = some p) (x : ResIdx)
    (m : ModuleId) : (s.takeRef p x).claimsOn m =
      s.claimsOn m + if (s.heap p).uioOwner = some m then 1 else 0 := by
  rw [← ownerAt_of_devices hd]
  exact claimsOn_succ (sameShape_takeRef s p x).ownerAt (countAt_takeRef hinj hd x) m

theorem claimsOn_dropRef (hinj : TableInjective s) (hd : s.devices d = some p) {x : ResIdx}
    (hpos : (s.heap p).refCount x ≠ 0) (m : ModuleId) :
    (s.dropRef p x).claimsOn m + (if (s.heap p).uioOwner = some m then 1 else 0) =
      s.claimsOn m := by
  have hshape := sameShape_dropRef s p x
  have hdrop : (resourceDecrRefCount s p x).2 = s.dropRef p x := by
    simp [resourceDecrRefCount, hpos]
  -- read backwards, the decrement is a claim
  have hback : ∀ r, s.countAt r = (s.dropRef p x).countAt r + if r = (d, x) then 1 else 0 := by
    intro r
    have hcount := countAt_resourceDecrRefCount hinj hd x r
    rw [hdrop] at hcount
    by_cases hr : r = (d, x)
    · have hpos' : s.countAt r ≠ 0 := by
        rw [hr, countAt_of_devices (r := (d, x)) hd]
        exact hpos
      simp only [hr, if_true] at hcount hpos' ⊢
      omega
    · simpa [hr] using hcount.symm
  have hsucc := claimsOn_succ (a := (d, x)) hshape.ownerAt.symm hback m
  rw [hshape.ownerAt, ownerAt_of_devices hd] at hsucc
  exact hsucc.symm

/-- A claim keeps the balance of a module that is not being unloaded. -/
theorem Pinned.takeRef (h : Pinned base s) (hinj : TableInjective s) (hd : s.devices d = some p)
    (hlive : ∀ m, (s.heap p).uioOwner = some m → (s.modules m).live = true) (x : ResIdx) :
    Pinned base (s.takeRef p x) := by
  intro m
  rw [takeRef_modules, claimsOn_takeRef hinj hd]
  have hm := h m
  by_cases howner : (s.heap p).uioOwner = some m
  · simp only [howner, if_true, tryModuleGet, hlive m howner]
    omega
  · rw [if_neg howner, if_neg howner, Nat.add_zero]
    exact hm

/-- A decrement always does: it takes back what it puts. -/
theorem Pinned.resourceDecrRefCount (h : Pinned base s) (hinj : TableInjective s)
    (hd : s.devices d = some p) (x : ResIdx) : Pinned base (resourceDecrRefCount s p x).2 := by
  by_cases hzero : (s.heap p).refCount x = 0
  · simpa [Cuddl.resourceDecrRefCount, hzero] using h
  · simp only [Cuddl.resourceDecrRefCount, hzero, if_false]
    intro m
    have hm := h m
    have hclaims := claimsOn_dropRef hinj hd hzero m
    rw [dropRef_modules]
    by_cases howner : (s.heap p).uioOwner = some m
    · simp only [howner, if_true] at hclaims ⊢
      simp only [modulePut]
      omega
    · simp only [howner, if_false] at hclaims ⊢
      omega

/-- Undoing a claim puts the reference that the claim has taken, if it has taken one. -/
theorem Pinned.undone (h : Pinned base s)
    (hlive : ∀ m, (s.heap p).uioOwner = some m → (s.modules m).live = true) :
    Pinned base (s.withOwner p fun m => modulePut (tryModuleGet m)) := by
  intro m
  have hcount : (s.withOwner p fun m => modulePut (tryModuleGet m)).countAt = s.countAt :=
    countAt_congr (by simp) (by simp)
  rw [claimsOn_congr (sameShape_withOwner s p _).ownerAt hcount, withOwner_modules]
  have hm := h m
  by_cases howner : (s.heap p).uioOwner = some m
  · simp only [howner, if_true, modulePut, tryModuleGet, hlive m howner]
    omega
  · rw [if_neg howner]
    exact hm

theorem Pinned.setRefs (h : Pinned base s) (k : ResourceKind) (l : List (ResourceRef k)) :
    Pinned base (s.setRefs k l) :=
  h

/-- Starting to unload a module changes none of its references. -/
theorem Pinned.unload (h : Pinned base s) (m : ModuleId) :
    Pinned base (s.setModule m { s.modules m with live := false }) := by
  intro m'
  have hrefs : ((s.setModule m { s.modules m with live := false }).modules m').refs =
      (s.modules m').refs := by
    by_cases heq : m' = m
    · subst heq
      simp [KernelState.setModule]
    · simp [KernelState.setModule, heq]
  exact hrefs.trans (h m')

end Helpers

/-! ## Runs with unloading -/

/-- What happens to a table of managed devices while their modules may be unloaded. -/
inductive ModuleOp
  /-- `m` starts to unload: from now on `try_module_get` takes no reference on it. -/
  | unload (m : ModuleId)
  | ioctl (req : Request) (io : IoFaults)
  | freeRefs (pid : Pid)

def moduleExec (cfg : Config) : ModuleOp → KernelState → Option KernelState
  | .unload m, s => some (s.setModule m { s.modules m with live := false })
  | .ioctl req io, s => exec cfg (.ioctl req io) s
  | .freeRefs pid, s => exec cfg (.freeRefs pid) s

/-- Claims, releases by holders and janitor clean-ups, and modules that start to unload. -/
def ClaimsAndReleases (s : KernelState) : ModuleOp → Prop
  | .unload _ => True
  | .ioctl (.claim _ _ _) _ => True
  | .ioctl (.release k _ data) _ => data.Held k s
  | .ioctl _ _ => False
  | .freeRefs _ => True

/-- No claim is admitted on a device whose owner is being unloaded. -/
def PinsOwner (s : KernelState) : ModuleOp → Prop
  | .ioctl (.claim k rt data) io =>
      Accepted (.claim k rt data) io → ∀ d p i, managerLookup s k data.id = some (d, p, i) →
        Admitted s p ⟨k, i⟩ data.hostile →
          ∀ m, (s.heap p).uioOwner = some m → (s.modules m).live = true
  | _ => True

/-- The run invariant. -/
structure PinnedTable (base : ModuleId → Int) (s : KernelState) : Prop where
  tableInjective : TableInjective s
  pinned : Pinned base s

section Steps

variable {cfg : Config} {base : ModuleId → Int} {s s' : KernelState} {d : Slot} {p : DevPtr}

theorem PinnedTable.resourceDecrRefCount (h : PinnedTable base s) (hd : s.devices d = some p)
    (x : ResIdx) : PinnedTable base (resourceDecrRefCount s p x).2 :=
  ⟨tableInjective_of_sameShape h.tableInjective (sameShape_resourceDecrRefCount s p x),
    h.pinned.resourceDecrRefCount h.tableInjective hd x⟩

theorem PinnedTable.setRefs (h : PinnedTable base s) (k : ResourceKind)
    (l : List (ResourceRef k)) : PinnedTable base (s.setRefs k l) :=
  ⟨h.tableInjective, h.pinned.setRefs k l⟩

theorem PinnedTable.claim {k : ResourceKind} {rt : Bool} {data : ClaimData} {io : IoFaults}
    {res : IoctlResult} (h : PinnedTable base s)
    (hpins : PinsOwner s (.ioctl (.claim k rt data) io))
    (hres : managerIoctl cfg s (.claim k rt data) io = some res) :
    PinnedTable base res.state := by
  refine ⟨tableInjective_of_sameShape h.tableInjective (managerIoctl_sameShape hres), ?_⟩
  rcases managerIoctl_cases hres with ⟨_, _, hst, _⟩ | ⟨hacc, hcmd⟩
  · rw [hst]
    exact h.pinned
  · cases hcmd
    rcases ioctlClaimInfo_claim_cases cfg k rt data io s with
      ⟨_, hst, _⟩ | ⟨d, p, i, hfind, hadm, ⟨_, _, hst⟩ | ⟨_, heq⟩⟩
    · rw [hst]
      exact h.pinned
    · rw [hst]
      exact h.pinned.undone (hpins hacc d p i hfind hadm)
    · rw [heq]
      have hslot := (managerLookup_eq_some hfind).1
      have htaken := h.pinned.takeRef h.tableInjective hslot (hpins hacc d p i hfind hadm) ⟨k, i⟩
      exact htaken.setRefs k _

theorem PinnedTable.ioctl {req : Request} {io : IoFaults} {res : IoctlResult}
    (h : PinnedTable base s) (hpins : PinsOwner s (.ioctl req io))
    (hres : managerIoctl cfg s req io = some res) : PinnedTable base res.state := by
  by_cases hacc : Accepted req io
  · have hcmd : ioctlCommand cfg s io req = some res := by
      rwa [managerIoctl_of_accepted hacc] at hres
    -- apart from claims, all that a command can do to the counts is decrement one
    cases req with
    | claim k rt data => exact h.claim hpins hres
    | info k data =>
        cases hcmd
        rcases ioctlClaimInfo_info_cases cfg k data io s with
          ⟨_, _, hst⟩ | ⟨d, p, i, hfind, ⟨_, _, hst⟩ | ⟨_, heq⟩⟩
        · rwa [hst]
        · rw [hst]
          exact h.resourceDecrRefCount (managerLookup_eq_some hfind).1 _
        · rwa [heq]
    | release k rt data =>
        cases hcmd
        rcases ioctlRelease_cases k data s with ⟨_, hst, _⟩ | ⟨d, p, i, _, _, hslot, heq⟩
        · rwa [hst]
        · rw [heq]
          exact (h.resourceDecrRefCount hslot _).setRefs k _
    | decrementRefCount k v id =>
        cases hcmd
        rcases ioctlRefCount_decrement_cases k id s with ⟨_, _, hst⟩ | ⟨d, p, i, hfind, _, hst⟩
        · rwa [hst]
        · rw [hst]
          exact h.resourceDecrRefCount (managerLookup_eq_some hfind).1 _
    | _ => rwa [ioctlCommand_state_of_not_writes id hcmd]
  · rcases managerIoctl_cases hres with ⟨_, _, hst, _⟩ | ⟨hacc', _⟩
    · rwa [hst]
    · exact absurd hacc' hacc

theorem PinnedTable.step {a : ModuleOp} (h : PinnedTable base s) (hpins : PinsOwner s a)
    (hexec : moduleExec cfg a s = some s') : PinnedTable base s' := by
  cases a with
  | unload m =>
      cases hexec
      exact ⟨h.tableInjective, h.pinned.unload m⟩
  | ioctl req io =>
      rcases Option.map_eq_some_iff.1 hexec with ⟨res, hres, rfl⟩
      exact h.ioctl hpins hres
  | freeRefs pid =>
      refine managerFreeRefsForPid_preserves ?_ ?_ h hexec
      · intro s d p hs hd x
        exact hs.resourceDecrRefCount hd x
      · intro s k l hs
        exact hs.setRefs k l

/-- An admitted claim on the device of an unloading module breaks the balance: its reference is
not taken, and put all the same when the claim is undone. -/
theorem not_pinned_of_not_pinsOwner {a : ModuleOp} (h : PinnedTable base s)
    (hpins : ¬ PinsOwner s a) (hexec : moduleExec cfg a s = some s') : ¬ Pinned base s' := by
  cases a with
  | unload m => exact absurd trivial hpins
  | freeRefs pid => exact absurd trivial hpins
  | ioctl req io =>
      rcases Option.map_eq_some_iff.1 hexec with ⟨res, hres, rfl⟩
      cases req with
      | claim k rt data =>
          unfold PinsOwner at hpins
          push Not at hpins
          rcases hpins with ⟨hacc, d, p, i, hfind, hadm, m, howner, hlive⟩
          have hdead : (s.modules m).live = false := by simpa using hlive
          have hm := h.pinned m
          have hslot := (managerLookup_eq_some hfind).1
          have hcmd : ioctlClaimInfo cfg k true rt data io s = res := by
            rw [managerIoctl_of_accepted hacc] at hres
            exact Option.some.inj hres
          rw [← hcmd]
          intro hpinned
          have hm' := hpinned m
          rcases ioctlClaimInfo_claim_cases cfg k rt data io s with
            ⟨_, _, hno⟩ | ⟨d', p', i', hfind', _, ⟨_, _, hst⟩ | ⟨_, heq⟩⟩
          · exact hno d p i hfind hadm
          · cases hfind.symm.trans hfind'
            rw [hst] at hm'
            have hcount : (s.withOwner p fun m => modulePut (tryModuleGet m)).countAt = s.countAt :=
              countAt_congr (by simp) (by simp)
            rw [claimsOn_congr (sameShape_withOwner s p _).ownerAt hcount, withOwner_modules,
              if_pos howner] at hm'
            have hput : (modulePut (tryModuleGet (s.modules m))).refs = (s.modules m).refs - 1 := by
              simp [modulePut, tryModuleGet, hdead]
            omega
          · cases hfind.symm.trans hfind'
            rw [heq] at hm'
            have hclaims := claimsOn_takeRef h.tableInjective hslot ⟨k, i⟩ m
            have hrefs := takeRef_modules s p ⟨k, i⟩ m
            rw [if_pos howner] at hclaims hrefs
            have hget : (tryModuleGet (s.modules m)).refs = (s.modules m).refs := by
              simp [tryModuleGet, hdead]
            have hm'' : ((s.takeRef p ⟨k, i⟩).modules m).refs =
                base m + (s.takeRef p ⟨k, i⟩).claimsOn m := hm'
            rw [hrefs, hclaims, hget] at hm''
            omega
      | _ => exact absurd trivial hpins

end Steps

/-! ## Whole runs -/

/-- No device of `m` but the one in slot `d` is claimed. -/
def OnlyClaimed (s : KernelState) (d : Slot) (m : ModuleId) : Prop :=
  ∀ d' p, d' ≠ d → s.devices d' = some p → (s.heap p).uioOwner = some m → (s.heap p).Unclaimed

theorem claimsOn_of_onlyClaimed {s : KernelState} {d : Slot} {p : DevPtr} {m : ModuleId}
    (hd : s.devices d = some p) (howner : (s.heap p).uioOwner = some m)
    (honly : OnlyClaimed s d m) : s.claimsOn m = ∑ x : ResIdx, (s.heap p).refCount x := by
  have hother : ∀ d' ∈ Finset.univ, d' ≠ d →
      (∑ x : ResIdx, if s.ownerAt d' = some m then s.countAt (d', x) else 0) = 0 := by
    intro d' _ hne
    refine Finset.sum_eq_zero ?_
    intro x _
    cases hp' : s.devices d' with
    | none => simp [countAt_of_empty (r := (d', x)) hp']
    | some p' =>
        by_cases hm : (s.heap p').uioOwner = some m
        · simp [countAt_of_devices (r := (d', x)) hp', honly d' p' hne hp' hm x]
        · simp [ownerAt_of_devices hp', hm]
  calc
    s.claimsOn m
        = ∑ d', ∑ x : ResIdx, if s.ownerAt d' = some m then s.countAt (d', x) else 0 :=
          Fintype.sum_prod_type _
    _ = ∑ x : ResIdx, if s.ownerAt d = some m then s.countAt (d, x) else 0 :=
          Finset.sum_eq_single d hother (fun h => absurd (Finset.mem_univ d) h)
    _ = ∑ x : ResIdx, (s.heap p).refCount x := by
          refine Finset.sum_congr rfl ?_
          intro x _
          rw [ownerAt_of_devices hd, if_pos howner, countAt_of_devices (r := (d, x)) hd]

theorem pinnedTable_of_reachable {cfg : Config} {s₀ s : KernelState} (hidle : s₀.Idle)
    (hrun : Reachable (moduleExec cfg) PinsOwner s₀ s) :
    PinnedTable (fun m => (s₀.modules m).refs) s := by
  have hstart : ∀ m, s₀.claimsOn m = 0 := by
    intro m
    refine Finset.sum_eq_zero ?_
    intro r _
    simp [hidle.countAt r]
  refine hrun.invariant ⟨hidle.tableInjective, fun m => by simp [hstart m]⟩ ?_
  intro s s' a h hpins hexec
  exact h.step hpins hexec

/-- As long as no claim is admitted on the device of an unloading module, the references that the
owner of a device has gained since the start are the sum of the counts of the device, once those
of its other devices are zero; over all of its devices this holds without a condition, and no
reference is put that was not taken.  Any other claim breaks the balance. -/
theorem refs_eq_claims (cfg : Config) {s₀ s : KernelState} (hidle : s₀.Idle)
    (hrun : Reachable (moduleExec cfg) PinsOwner s₀ s) :
    (∀ d p m, s.devices d = some p → (s.heap p).uioOwner = some m → OnlyClaimed s d m →
      (s.modules m).refs = (s₀.modules m).refs + ∑ x : ResIdx, (s.heap p).refCount x) ∧
    (∀ m, (s.modules m).refs = (s₀.modules m).refs + s.claimsOn m ∧
      (s₀.modules m).refs ≤ (s.modules m).refs) ∧
    ∀ a s', ¬ PinsOwner s a → moduleExec cfg a s = some s' →
      ∃ m, (s'.modules m).refs ≠ (s₀.modules m).refs + s'.claimsOn m := by
  have htable := pinnedTable_of_reachable hidle hrun
  refine ⟨?_, ?_, ?_⟩
  · intro d p m hd howner honly
    have hm := htable.pinned m
    rw [claimsOn_of_onlyClaimed hd howner honly] at hm
    simpa using hm
  · intro m
    have hm := htable.pinned m
    have hle : (s₀.modules m).refs ≤ (s₀.modules m).refs + s.claimsOn m := by omega
    exact ⟨hm, hle.trans hm.ge⟩
  · intro a s' hpins hexec
    have hbroken := not_pinned_of_not_pinsOwner htable hpins hexec
    unfold Pinned at hbroken
    push Not at hbroken
    exact hbroken

instance (s : KernelState) : (a : ModuleOp) → Decidable (ClaimsAndReleases s a)
  | .unload _ => .isTrue trivial
  | .freeRefs _ => .isTrue trivial
  | .ioctl req _ =>
      match req with
      | .claim _ _ _ => .isTrue trivial
      | .release k _ data => inferInstanceAs (Decidable (data.Held k s))
      | .info _ _ | .getMaxManagedDevices _ | .getMaxDevMemRegions _ | .getMaxDevEvents _
      | .getId _ _ _ _ | .getRefCount _ _ _ | .decrementRefCount _ _ _ | .janitorRegisterPid
      | .getKernelCommitId _ | .getDriverInfo _ _ | .getHwInfo _ _ | .getKernelVersionCode _
      | .getKernelVariant _ | .eventsrcIsEnabled _ _ _ | .unknown => .isFalse id

instance (req : Request) (io : IoFaults) : Decidable (Accepted req io) :=
  decidable_of_iff (io.kzallocFails = false ∧
    req.versionCode?.all (fun v => !io.copyFromUserFails && versionCodeIsCompat v) = true) <| by
      simp [Accepted, Option.all_eq_true]

instance (s : KernelState) (req : Request) (io : IoFaults) :
    Decidable (PinsOwner s (.ioctl req io)) :=
  match req with
  | .claim k rt data =>
      decidable_of_iff (Accepted (.claim k rt data) io →
        (managerLookup s k data.id).all (fun r =>
          !decide (Admitted s r.2.1 ⟨k, r.2.2⟩ data.hostile) ||
            (s.heap r.2.1).uioOwner.all fun m => (s.modules m).live) = true) <| by
        simp [PinsOwner, Option.all_eq_true, imp_iff_not_or]
  | .info _ _ | .release _ _ _ | .getMaxManagedDevices _ | .getMaxDevMemRegions _
  | .getMaxDevEvents _ | .getId _ _ _ _ | .getRefCount _ _ _ | .decrementRefCount _ _ _
  | .janitorRegisterPid | .getKernelCommitId _ | .getDriverInfo _ _ | .getHwInfo _ _
  | .getKernelVersionCode _ | .getKernelVariant _ | .eventsrcIsEnabled _ _ _ | .unknown =>
      .isTrue trivial

instance (s : KernelState) : (a : ModuleOp) → Decidable (PinsOwner s a)
  | .unload _ => .isTrue trivial
  | .freeRefs _ => .isTrue trivial
  | .ioctl req io => inferInstanceAs (Decidable (PinsOwner s (.ioctl req io)))

/-- Process 1 claims the region of device 0, whose module then starts to unload. -/
theorem refs_eq_claims_unload :
    ∃ s, Reachable (moduleExec Sample.config) PinsOwner Sample.managed s ∧
      (s.heap 0).refCount ⟨.memregion, 0⟩ = 1 ∧ (s.modules 0).live = false ∧
      (s.modules 0).refs = (Sample.managed.modules 0).refs + s.claimsOn 0 := by
  have hrun : ∃ s, Reachable (moduleExec Sample.config) PinsOwner Sample.managed s ∧
      ((s.heap 0).refCount ⟨.memregion, 0⟩ = 1 ∧ (s.modules 0).live = false) :=
    exists_reachable_of_run [.ioctl (Sample.claimAny 1 0) Sample.noFaults, .unload 0]
      (by decide +kernel)
  rcases hrun with ⟨s, hreach, hcount, hdead⟩
  exact ⟨s, hreach, hcount, hdead,
    ((refs_eq_claims Sample.config Sample.managed_idle hreach).2.1 0).1⟩

/-- The module starts to unload, process 1 claims the region all the same and releases it. -/
def lateClaimRun : List ModuleOp :=
  [ .unload 0
  , .ioctl (Sample.claimAny 1 0) Sample.noFaults
  , .ioctl (Sample.releaseFirst 1) Sample.noFaults ]

/-- The module ends up with one reference less than at the start, and no count to show for it. -/
theorem not_refs_eq_claims :
    ∃ s, Reachable (moduleExec Sample.config) ClaimsAndReleases Sample.managed s ∧
      (s.devices 0 = some 0 ∧ (s.heap 0).uioOwner = some 0 ∧
        ∑ x : ResIdx, (s.heap 0).refCount x = 0 ∧
        (s.modules 0).refs < (Sample.managed.modules 0).refs) :=
  exists_reachable_of_run lateClaimRun (by decide +kernel)

end Cuddl
