import Cuddl.Kernel.System

/-!
# Requests that fail

An ioctl that returns an error leaves the manager as it was, with two exceptions
(`failsClean_iff`).  The error exits of CLAIM and INFO are shared, and both decrement the count of
the resource: INFO never incremented it, and a CLAIM on a device whose module is being unloaded
gives back a module reference that `try_module_get` did not take.
-/

namespace Cuddl

open Foundation Foundation.Machine

/-- The table, the counts, the balance of module references and the lists are the same. -/
structure Unchanged (s s' : KernelState) : Prop where
  devices : s'.devices = s.devices
  refCount : ∀ p x, (s'.heap p).refCount x = (s.heap p).refCount x
  moduleRefs : ∀ m, (s'.modules m).refs = (s.modules m).refs
  refs : s'.refs = s.refs

def FailsClean (cfg : Config) (s : KernelState) (req : Request) (io : IoFaults) : Prop :=
  ∀ res, managerIoctl cfg s req io = some res → res.ret < 0 → Unchanged s res.state

/-- The device belongs to a module that is being unloaded. -/
def OwnerLeaving (s : KernelState) (p : DevPtr) : Prop :=
  ∃ m, (s.heap p).uioOwner = some m ∧ (s.modules m).live = false

/-- The error exit of the request takes back what the request has not taken. -/
def UndoesTooMuch (s : KernelState) (io : IoFaults) : Request → Prop
  | .info k data =>
      Accepted (.info k data) io ∧ io.copyToUserFails = true ∧
        ∃ d p i, managerLookup s k data.id = some (d, p, i) ∧ 0 < (s.heap p).refCount ⟨k, i⟩
  | .claim k rt data =>
      Accepted (.claim k rt data) io ∧ (io.copyToUserFails = true ∨ io.refAllocFails = true) ∧
        ∃ d p i, managerLookup s k data.id = some (d, p, i) ∧
          Admitted s p ⟨k, i⟩ data.hostile ∧ OwnerLeaving s p
  | _ => False

theorem Unchanged.refl (s : KernelState) : Unchanged s s :=
  ⟨rfl, fun _ _ => rfl, fun _ => rfl, rfl⟩

/-! ## Taking a claim back -/

theorem undo_refs (m : Module) :
    (modulePut (tryModuleGet m)).refs = if m.live then m.refs else m.refs - 1 := by
  unfold tryModuleGet modulePut
  split
  · simp
  · rfl

/-- A claim that was undone is gone without a trace exactly when its module reference was one. -/
theorem unchanged_undo_iff (s : KernelState) (p : DevPtr) :
    Unchanged s (s.withOwner p fun m => modulePut (tryModuleGet m)) ↔ ¬ OwnerLeaving s p := by
  constructor
  · intro h
    rintro ⟨m, howner, hleaving⟩
    have hstate : (s.withOwner p fun m => modulePut (tryModuleGet m)).modules m =
        modulePut (tryModuleGet (s.modules m)) := by
      simp [KernelState.withOwner, howner, KernelState.setModule]
    -- `try_module_get` has taken nothing from a leaving module, `module_put` has
    have hrefs := h.moduleRefs m
    rw [hstate, undo_refs, hleaving, if_neg (by decide)] at hrefs
    omega
  · intro h
    refine ⟨by simp, by simp, ?_, by simp⟩
    intro m
    cases howner : (s.heap p).uioOwner with
    | none => simp [KernelState.withOwner, howner]
    | some owner =>
        have hlive : (s.modules owner).live = true := by
          by_contra hnot
          exact h ⟨owner, howner, by simpa using hnot⟩
        by_cases hm : m = owner
        · subst hm
          simp [KernelState.withOwner, howner, KernelState.setModule, undo_refs, hlive]
        · simp [KernelState.withOwner, howner, KernelState.setModule, hm]

/-- A decrement leaves no trace exactly when there is nothing to decrement. -/
theorem unchanged_decr_iff (s : KernelState) (p : DevPtr) (x : ResIdx) :
    Unchanged s (resourceDecrRefCount s p x).2 ↔ ¬ 0 < (s.heap p).refCount x := by
  constructor
  · intro h hpos
    have hcount := h.refCount p x
    rw [refCount_resourceDecrRefCount] at hcount
    simp at hcount
    omega
  · intro h
    have hzero : (s.heap p).refCount x = 0 := Nat.eq_zero_of_not_pos h
    -- the helper refuses at zero
    have hsame : (resourceDecrRefCount s p x).2 = s := by
      simp [resourceDecrRefCount, hzero]
    rw [hsame]
    exact Unchanged.refl s

/-! ## Every command -/

theorem failsClean_of_state_eq {cfg : Config} {s : KernelState} {req : Request} {io : IoFaults}
    (h : ∀ res, managerIoctl cfg s req io = some res → res.ret < 0 → res.state = s) :
    FailsClean cfg s req io := by
  intro res hres hneg
  rw [h res hres hneg]
  exact Unchanged.refl s

theorem failsClean_of_not_accepted {cfg : Config} {s : KernelState} {req : Request}
    {io : IoFaults} (hacc : ¬ Accepted req io) : FailsClean cfg s req io := by
  refine failsClean_of_state_eq ?_
  intro res hres _
  rcases managerIoctl_cases hres with ⟨_, _, hst, _⟩ | ⟨hacc', _⟩
  · exact hst
  · exact absurd hacc' hacc

/-- A request that is turned away does not get as far as undoing anything. -/
theorem failsClean_iff_of_not_accepted {cfg : Config} {s : KernelState} {req : Request}
    {io : IoFaults} (hacc : ¬ Accepted req io) :
    FailsClean cfg s req io ↔ ¬ UndoesTooMuch s io req := by
  refine iff_of_true (failsClean_of_not_accepted hacc) ?_
  intro h
  cases req with
  | info k data => exact hacc h.1
  | claim k rt data => exact hacc h.1
  | _ => exact h

theorem failsClean_iff_of_command {cfg : Config} {s : KernelState} {req : Request} {io : IoFaults}
    {res : IoctlResult} (hacc : Accepted req io) (hcmd : ioctlCommand cfg s io req = some res) :
    FailsClean cfg s req io ↔ (res.ret < 0 → Unchanged s res.state) := by
  have hrun : managerIoctl cfg s req io = some res := (managerIoctl_of_accepted hacc).trans hcmd
  simp [FailsClean, hrun]

theorem failsClean_claim_iff (cfg : Config) (s : KernelState) (k : ResourceKind) (rt : Bool)
    (data : ClaimData) (io : IoFaults) :
    FailsClean cfg s (.claim k rt data) io ↔ ¬ UndoesTooMuch s io (.claim k rt data) := by
  by_cases hacc : Accepted (.claim k rt data) io
  · rw [failsClean_iff_of_command hacc rfl]
    rcases ioctlClaimInfo_claim_cases cfg k rt data io s with
      ⟨_, hst, hnot⟩ | ⟨d, p, i, hfind, hadm, ⟨hfail, hneg, hst⟩ | ⟨hok, heq⟩⟩
    · rw [hst]
      constructor
      · rintro _ ⟨_, _, d, p, i, hfind, hadm, _⟩
        exact hnot d p i hfind hadm
      · intro _ _
        exact Unchanged.refl s
    · rw [hst, unchanged_undo_iff]
      constructor
      · rintro h ⟨_, _, d', p', i', hfind', _, hleaving⟩
        cases hfind.symm.trans hfind'
        exact h hneg hleaving
      · intro h _ hleaving
        exact h ⟨hacc, hfail, d, p, i, hfind, hadm, hleaving⟩
    · rw [heq]
      constructor
      · rintro _ ⟨_, hfail, _⟩
        simp [hok.1, hok.2] at hfail
      · intro _ hneg
        exact absurd hneg (lt_irrefl 0)
  · exact failsClean_iff_of_not_accepted hacc

theorem failsClean_info_iff (cfg : Config) (s : KernelState) (k : ResourceKind)
    (data : ClaimData) (io : IoFaults) :
    FailsClean cfg s (.info k data) io ↔ ¬ UndoesTooMuch s io (.info k data) := by
  by_cases hacc : Accepted (.info k data) io
  · rw [failsClean_iff_of_command hacc rfl]
    rcases ioctlClaimInfo_info_cases cfg k data io s with
      ⟨hnone, _, hst⟩ | ⟨d, p, i, hfind, ⟨hfail, hneg, hst⟩ | ⟨hok, heq⟩⟩
    · rw [hst]
      constructor
      · rintro _ ⟨_, _, d, p, i, hfind, _⟩
        simp [hnone] at hfind
      · intro _ _
        exact Unchanged.refl s
    · rw [hst, unchanged_decr_iff]
      constructor
      · rintro h ⟨_, _, d', p', i', hfind', hpos⟩
        cases hfind.symm.trans hfind'
        exact h hneg hpos
      · intro h _ hpos
        exact h ⟨hacc, hfail, d, p, i, hfind, hpos⟩
    · rw [heq]
      constructor
      · rintro _ ⟨_, hfail, _⟩
        simp [hok] at hfail
      · intro _ hneg
        exact absurd hneg (lt_irrefl 0)
  · exact failsClean_iff_of_not_accepted hacc

/-- The other commands write only when they succeed, or not at all. -/
theorem failsClean_of_other {cfg : Config} {s : KernelState} {req : Request} {io : IoFaults}
    (hclaim : ∀ k rt data, req ≠ .claim k rt data) (hinfo : ∀ k data, req ≠ .info k data) :
    FailsClean cfg s req io := by
  refine failsClean_of_state_eq ?_
  intro res hres hneg
  rcases managerIoctl_cases hres with ⟨_, _, hst, _⟩ | ⟨_, hcmd⟩
  · exact hst
  · cases req with
    | claim k rt data => exact absurd rfl (hclaim k rt data)
    | info k data => exact absurd rfl (hinfo k data)
    | release k rt data =>
        cases hcmd
        rcases ioctlRelease_cases k data s with ⟨_, hst, _⟩ | ⟨_, _, _, _, _, _, heq⟩
        · exact hst
        · rw [heq] at hneg
          exact absurd hneg (lt_irrefl 0)
    | decrementRefCount k v id =>
        cases hcmd
        rcases ioctlRefCount_decrement_cases k id s with ⟨_, _, hst⟩ | ⟨d, p, i, _, hret, hst⟩
        · exact hst
        · rw [hst]
          rw [hret] at hneg
          -- the decrement helper only fails on a zero count
          unfold resourceDecrRefCount at hneg ⊢
          split
          · rfl
          · rename_i hpos
            simp [hpos] at hneg
    | _ => exact ioctlCommand_state_of_not_writes id hcmd

/-- A failing ioctl changes nothing, unless it is an INFO that fails in its copy-out on a claimed
resource, or an admitted CLAIM that fails later while the module of the device is leaving. -/
theorem failsClean_iff (cfg : Config) (s : KernelState) (req : Request) (io : IoFaults) :
    FailsClean cfg s req io ↔ ¬ UndoesTooMuch s io req := by
  cases req with
  | claim k rt data => exact failsClean_claim_iff cfg s k rt data io
  | info k data => exact failsClean_info_iff cfg s k data io
  | _ =>
      constructor
      · intro _ h
        exact h
      · intro _
        exact failsClean_of_other (fun _ _ _ => by simp) fun _ _ => by simp

/-- Process 1 holds a region; an INFO by process 2 fails in its copy-out and drops the claim. -/
theorem info_drops_claim :
    ∃ s : KernelState, Reachable (exec Sample.config) (fun _ _ => True) Sample.kernel s ∧
      ((s.heap 0).refCount ⟨.memregion, 0⟩ = 1 ∧
        (managerIoctl Sample.config s (Sample.infoAny 2)
          { Sample.noFaults with copyToUserFails := true }).any
          (fun res => decide (res.ret < 0 ∧
            (res.state.heap 0).refCount ⟨.memregion, 0⟩ = 0)) = true) :=
  exists_reachable_of_run
    [.manage 0 Sample.registered, .ioctl (Sample.claimAny 1 0) Sample.noFaults]
    (by decide +kernel)

end Cuddl
