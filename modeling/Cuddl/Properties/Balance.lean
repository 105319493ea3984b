import Cuddl.Kernel.Simulation

/-!
# Counts and lists agree

In the runs that `Orderly` admits, every reference count is the number of list entries for its
resource, and no entry points to an empty slot.  `Orderly` leaves out what the code does not keep
in balance: removing a claimed device, the administrative decrement, a release of a token that its
sender does not hold, and an info request that fails in its copy-out.
-/

namespace Cuddl

open Foundation Foundation.Machine

def Orderly (cfg : Config) (s : KernelState) : Op → Prop
  | .fill p _ => ¬ s.Managed p
  | .manage p _ => ¬ s.Managed p ∧ (s.heap p).Unclaimed
  | .release p _ => s.Managed p ∧ (s.heap p).Unclaimed
  | .ioctl (.claim _ _ _) _ => True
  | .ioctl (.info k data) io => IoctlOk cfg s (.info k data) io
  | .ioctl (.release k _ data) _ => data.Held k s
  | .ioctl _ _ => False
  | .freeRefs _ => True

/-- The run invariant: the table is injective and the ledger is in balance everywhere. -/
structure Balanced (s : KernelState) : Prop where
  tableInjective : TableInjective s
  balancedAt : ∀ r, s.ledger.BalancedAt r

/-- An entry on the list is a claim on record, so its slot counts at least one. -/
theorem Balanced.devices_ne_none {s : KernelState} (h : Balanced s) {k : ResourceKind}
    {e : ResourceRef k} (he : e ∈ s.refs k) : s.devices e.token.deviceIndex ≠ none := by
  intro hempty
  have hpos : 0 < s.ledger.entries e.token.res := by
    rw [entries_ledger]
    exact List.countP_pos_iff.2 ⟨e, he, by simp⟩
  have hcount : s.ledger.count e.token.res = 0 := countAt_of_empty hempty
  -- a balanced resource with an entry has a count, an empty slot has none
  have hbal := h.balancedAt e.token.res
  unfold Ledger.BalancedAt at hbal
  omega

/-! ## One step -/

theorem Orderly.regular {cfg : Config} {s : KernelState} {a : Op} (h : Orderly cfg s a) :
    Regular s a := by
  cases a with
  | fill p dev => exact h
  | manage p out => exact h
  | release p out => exact h.2
  | freeRefs pid => trivial
  | ioctl req io =>
      cases req with
      | claim k rt data => trivial
      | release k rt data => trivial
      | info k data =>
          -- an INFO that succeeds has copied its answer out
          rcases h with ⟨res, hres, hzero⟩
          show io.copyToUserFails = false
          rcases managerIoctl_cases hres with ⟨_, hneg, _, _⟩ | ⟨_, hcmd⟩
          · omega
          · cases hcmd
            rcases ioctlClaimInfo_info_cases cfg k data io s with
              ⟨_, hneg, _⟩ | ⟨d, p, i, _, ⟨_, hneg, _⟩ | ⟨hcopy, _⟩⟩
            · omega
            · omega
            · exact hcopy
      | _ => exact absurd h id

theorem Orderly.held {cfg : Config} {s : KernelState} {a : Op} (h : Orderly cfg s a) :
    ∀ x ∈ a.releaseData?, x.2.Held x.1 s := by
  intro x hx
  rcases Op.releaseData?_eq_some_iff.1 hx with ⟨rt, io, rfl⟩
  exact h

theorem Orderly.no_drop {cfg : Config} {s : KernelState} {a : Op} (h : Orderly cfg s a)
    (r : Res) : ledgerAction cfg s a ≠ .drop r := by
  intro hdrop
  cases effect_of_ledgerAction hdrop (by simp) with
  | decrement _ _ => exact h

theorem Balanced.step {cfg : Config} {s s' : KernelState} {a : Op} (h : Balanced s)
    (hguard : Orderly cfg s a) (hexec : exec cfg a s = some s') : Balanced s' := by
  refine ⟨exec_tableInjective h.tableInjective hguard.regular hexec, ?_⟩
  intro r
  -- one action of the manager is one action of its ledger, and this one keeps the balance
  rw [exec_ledger h.tableInjective hguard.regular hexec]
  exact (h.balancedAt r).apply hguard.no_drop fun _ _ => mem_held_of_release hguard.held

/-- Nothing that `Orderly` admits can crash the kernel. -/
theorem Balanced.exec_isSome {cfg : Config} {s : KernelState} {a : Op} (h : Balanced s)
    (hguard : Orderly cfg s a) : (exec cfg a s).isSome := by
  cases a with
  | fill p dev => rfl
  | manage p out => rfl
  | release p out => rfl
  | freeRefs pid =>
      refine managerFreeRefsForPid_isSome_iff.2 ?_
      intro k e he _
      exact h.devices_ne_none he
  | ioctl req io =>
      have hsome : (managerIoctl cfg s req io).isSome := by
        cases req with
        | claim k rt data => exact managerIoctl_isSome rfl
        | release k rt data => exact managerIoctl_isSome rfl
        | info k data =>
            rcases hguard with ⟨res, hres, _⟩
            simp [hres]
        | _ => exact absurd hguard id
      simpa [exec] using hsome

/-! ## Whole runs -/

theorem balanced_of_reachable {cfg : Config} {s₀ s : KernelState} (hfresh : s₀.Fresh)
    (hrun : Reachable (exec cfg) (Orderly cfg) s₀ s) : Balanced s := by
  refine hrun.invariant ⟨hfresh.tableInjective, hfresh.idle.balancedAt⟩ ?_
  intro s s' a h hguard hexec
  exact h.step hguard hexec

/-- In every state of an orderly run, each count of a managed device is the number of entries for
its resource, and every entry has an occupied slot. -/
theorem refCount_eq_entries (cfg : Config) {s₀ s : KernelState} (hfresh : s₀.Fresh)
    (hrun : Reachable (exec cfg) (Orderly cfg) s₀ s) :
    (∀ (d : Slot) (p : DevPtr) (k : ResourceKind) (i : Fin k.max), s.devices d = some p →
      (s.heap p).refCount ⟨k, i⟩ = (s.refs k).countP fun e => e.token = ⟨d, i⟩) ∧
    ∀ (k : ResourceKind), ∀ e ∈ s.refs k, s.devices e.token.deviceIndex ≠ none := by
  have hbal := balanced_of_reachable hfresh hrun
  refine ⟨countsEntries_of_balancedAt hbal.balancedAt, ?_⟩
  intro k e he
  exact hbal.devices_ne_none he

instance (cfg : Config) (s : KernelState) : (a : Op) → Decidable (Orderly cfg s a)
  | .fill p _ => inferInstanceAs (Decidable (¬ s.Managed p))
  | .manage p _ => inferInstanceAs (Decidable (¬ s.Managed p ∧ (s.heap p).Unclaimed))
  | .release p _ => inferInstanceAs (Decidable (s.Managed p ∧ (s.heap p).Unclaimed))
  | .freeRefs _ => .isTrue trivial
  | .ioctl req io =>
      match req with
      | .claim _ _ _ => .isTrue trivial
      | .info k data => inferInstanceAs (Decidable (IoctlOk cfg s (.info k data) io))
      | .release k _ data => inferInstanceAs (Decidable (data.Held k s))
      | .getMaxManagedDevices _ | .getMaxDevMemRegions _ | .getMaxDevEvents _ | .getId _ _ _ _
      | .getRefCount _ _ _ | .decrementRefCount _ _ _ | .janitorRegisterPid
      | .getKernelCommitId _ | .getDriverInfo _ _ | .getHwInfo _ _ | .getKernelVersionCode _
      | .getKernelVariant _ | .eventsrcIsEnabled _ _ _ | .unknown => .isFalse id

/-- Two hostile claims, one of which fails in its copy-out, and the clean-up of a third process. -/
def balanceRun : List Op :=
  [ .manage 0 Sample.registered
  , .ioctl (Sample.claimAny 1 0) Sample.noFaults
  , .ioctl (Sample.claimAny 2 claimfHostile) { Sample.noFaults with copyToUserFails := true }
  , .ioctl (Sample.claimAny 2 claimfHostile) Sample.noFaults
  , .freeRefs 1 ]

theorem refCount_eq_entries_balanceRun :
    ∃ s : KernelState, (s.devices 0 = some 0 ∧ s.refs .memregion = [⟨⟨0, 0⟩, 2⟩]) ∧
      (s.heap 0).refCount ⟨.memregion, 0⟩ =
        (s.refs .memregion).countP fun e => e.token = ⟨0, 0⟩ := by
  have hrun : ∃ s, Reachable (exec Sample.config) (Orderly Sample.config) Sample.kernel s ∧
      (s.devices 0 = some 0 ∧ s.refs .memregion = [⟨⟨0, 0⟩, 2⟩]) :=
    exists_reachable_of_run balanceRun (by decide +kernel)
  rcases hrun with ⟨s, hreach, hs⟩
  exact ⟨s, hs, (refCount_eq_entries Sample.config Sample.kernel_fresh hreach).1 0 0 _ 0 hs.1⟩

end Cuddl
