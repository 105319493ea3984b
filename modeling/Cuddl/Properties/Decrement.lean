import Cuddl.Foundation.History
import Cuddl.Kernel.Simulation

/-!
# Decrements and the claims of others

The administrative decrement names a resource and no process: it lowers the count and leaves every
list entry in place.  The entry whose claim it was meant for lowers the count a second time when its
process is cleaned up after, and then a newer claim of another process is no longer counted
(`decrement_steals`).  Newer claims stay counted in runs that strike older entries only where the
`History` can spare them (`newer_claims_survive`); an entry that no clean-up ever reaches, which is
what the decrement is for, does no harm.
-/

namespace Cuddl

open Foundation Foundation.Machine

def noteHistory (cfg : Config) (s : KernelState) (a : Op) (_ : KernelState)
    (h : History Res Pid) : History Res Pid :=
  h.apply (ledgerAction cfg s a)

/-- Releases come from holders, no device is removed and no copy to user space fails. -/
def HolderStep (s : KernelState) : Op → Prop
  | .fill p _ => ¬ s.Managed p
  | .manage p _ => ¬ s.Managed p ∧ (s.heap p).Unclaimed
  | .release _ _ => False
  | .ioctl (.release k _ data) _ => data.Held k s
  | .ioctl _ io => io.copyToUserFails = false
  | .freeRefs _ => True

def SparingStep (cfg : Config) (x : KernelState × History Res Pid) (a : Op) : Prop :=
  HolderStep x.1 a ∧ x.2.Spares (x.2.apply (ledgerAction cfg x.1 a))

theorem HolderStep.regular {s : KernelState} {a : Op} (h : HolderStep s a) : Regular s a := by
  cases a with
  | fill p dev => exact h
  | manage p out => exact h
  | release p out => exact absurd h id
  | freeRefs pid => trivial
  | ioctl req io =>
      cases req with
      | info k data => exact h
      | _ => trivial

theorem HolderStep.held {s : KernelState} {a : Op} (h : HolderStep s a) :
    ∀ x ∈ a.releaseData?, x.2.Held x.1 s := by
  intro x hx
  rcases Op.releaseData?_eq_some_iff.1 hx with ⟨rt, io, rfl⟩
  exact h

/-! ## One step -/

structure Covered (x : KernelState × History Res Pid) : Prop where
  tableInjective : TableInjective x.1
  covers : Covers x.2 x.1.ledger

theorem Covered.step {cfg : Config} {x x' : KernelState × History Res Pid} {a : Op}
    (h : Covered x) (hguard : SparingStep cfg x a)
    (hexec : track (exec cfg) (noteHistory cfg) a x = some x') : Covered x' := by
  rcases track_eq_some_iff.1 hexec with ⟨hstep, hnote⟩
  rcases hguard with ⟨hholder, hspares⟩
  have hledger := exec_ledger h.tableInjective hholder.regular hstep
  -- what the code checks, or the guard promises, is what the history asks of each action
  have hadmits : x.2.Admits x.1.ledger (ledgerAction cfg x.1 a) := by
    cases haction : ledgerAction cfg x.1 a with
    | idle => trivial
    | claim r pid => trivial
    | drop r => exact count_pos_of_drop h.tableInjective hstep haction
    | release r pid =>
        rw [haction] at hspares
        exact ⟨mem_held_of_release hholder.held haction, hspares⟩
    | cleanup pid =>
        rw [haction] at hspares
        exact hspares
  refine ⟨exec_tableInjective h.tableInjective hholder.regular hstep, ?_⟩
  rw [hnote, hledger]
  exact h.covers.apply hadmits

/-! ## Whole runs -/

theorem covered_of_reachable {cfg : Config} {s₀ : KernelState}
    {x : KernelState × History Res Pid} (hidle : s₀.Idle)
    (hrun : Reachable (track (exec cfg) (noteHistory cfg)) (SparingStep cfg)
      (s₀, History.empty) x) : Covered x := by
  refine hrun.invariant ?_ ?_
  · exact ⟨hidle.tableInjective, Covers.of_empty (held_eq_zero hidle.refs)⟩
  · intro x x' a h hguard hexec
    exact h.step hguard hexec

/-- After a clean-up at the end of a sparing run, the book lists the entries that are left, and each
count of a managed device is at least the number of those that other processes have claimed since
the last decrement of the resource. -/
theorem newer_claims_survive (cfg : Config) {s₀ s' : KernelState}
    {x : KernelState × History Res Pid} {pid : Pid} (hidle : s₀.Idle)
    (hrun : Reachable (track (exec cfg) (noteHistory cfg)) (SparingStep cfg)
      (s₀, History.empty) x)
    (hspares : x.2.Spares (x.2.cleanup pid)) (hexec : managerFreeRefsForPid x.1 pid = some s') :
    (x.2.cleanup pid).claims = s'.ledger.held ∧
      ∀ (d : Slot) (p : DevPtr) (k : ResourceKind) (i : Fin k.max), s'.devices d = some p →
        ((x.2.cleanup pid).book.countP fun e =>
          e.resource = (d, ⟨k, i⟩) ∧ e.newer = true ∧ e.holder ≠ pid) ≤
            (s'.heap p).refCount ⟨k, i⟩ := by
  have hcovered := covered_of_reachable hidle hrun
  have hledger := ledger_managerFreeRefsForPid hcovered.tableInjective hexec
  have hcovers : Covers (x.2.cleanup pid) s'.ledger := by
    rw [hledger]
    exact hcovered.covers.cleanup hspares
  refine ⟨hcovers.claims, ?_⟩
  intro d p k i hd
  have hcount : s'.ledger.count (d, ⟨k, i⟩) = (s'.heap p).refCount ⟨k, i⟩ :=
    countAt_of_devices (r := (d, ⟨k, i⟩)) hd
  calc
    ((x.2.cleanup pid).book.countP fun e =>
        e.resource = (d, ⟨k, i⟩) ∧ e.newer = true ∧ e.holder ≠ pid)
        ≤ (x.2.cleanup pid).newer (d, ⟨k, i⟩) := by
          -- the newer claims of the others are newer claims
          refine List.countP_mono_left ?_
          intro e _ he
          have he' := of_decide_eq_true he
          exact decide_eq_true ⟨he'.1, he'.2.1⟩
    _ ≤ s'.ledger.count (d, ⟨k, i⟩) := hcovers.newer_le _
    _ = (s'.heap p).refCount ⟨k, i⟩ := hcount

instance (h h' : History Res Pid) : Decidable (h.Spares h') :=
  inferInstanceAs (Decidable (∀ e ∈ h.book, h'.older e.resource < h.older e.resource →
    h'.newer e.resource = 0 ∨ h.drops e.resource ≤ h'.older e.resource))

instance (s : KernelState) : (a : Op) → Decidable (HolderStep s a)
  | .fill p _ => inferInstanceAs (Decidable (¬ s.Managed p))
  | .manage p _ => inferInstanceAs (Decidable (¬ s.Managed p ∧ (s.heap p).Unclaimed))
  | .release _ _ => .isFalse id
  | .freeRefs _ => .isTrue trivial
  | .ioctl req io =>
      match req with
      | .release k _ data => inferInstanceAs (Decidable (data.Held k s))
      | .claim _ _ _ | .info _ _ | .getMaxManagedDevices _ | .getMaxDevMemRegions _
      | .getMaxDevEvents _ | .getId _ _ _ _ | .getRefCount _ _ _ | .decrementRefCount _ _ _
      | .janitorRegisterPid | .getKernelCommitId _ | .getDriverInfo _ _ | .getHwInfo _ _
      | .getKernelVersionCode _ | .getKernelVariant _ | .eventsrcIsEnabled _ _ _ | .unknown =>
          inferInstanceAs (Decidable (io.copyToUserFails = false))

instance (cfg : Config) (x : KernelState × History Res Pid) (a : Op) :
    Decidable (SparingStep cfg x a) :=
  inferInstanceAs (Decidable (HolderStep x.1 a ∧ x.2.Spares _))

/-- Takes a count away from the first memory region there is. -/
def decrementAny : Op :=
  .ioctl (.decrementRefCount .memregion kernelVersionCode ⟨[], [], [], 0⟩) Sample.noFaults

/-- Nobody cleans up after process 1, so its claim is decremented away.  Processes 2 and 3 claim the
region at the same time, and process 2 exits. -/
theorem newer_claims_survive_leak :
    ∃ (x : KernelState × History Res Pid) (s' : KernelState),
      managerFreeRefsForPid x.1 2 = some s' ∧
        ((x.2.cleanup 2).book.countP fun e =>
          e.resource = (0, ⟨.memregion, 0⟩) ∧ e.newer = true ∧ e.holder ≠ 2) = 1 ∧
        ((x.2.cleanup 2).book.countP fun e =>
          e.resource = (0, ⟨.memregion, 0⟩) ∧ e.newer = true ∧ e.holder ≠ 2) ≤
            (s'.heap 0).refCount ⟨.memregion, 0⟩ := by
  have hrun : ∃ x, Reachable (track (exec Sample.config) (noteHistory Sample.config))
      (SparingStep Sample.config) (Sample.kernel, History.empty) x ∧
      (x.2.Spares (x.2.cleanup 2) ∧
        ((x.2.cleanup 2).book.countP fun e =>
          e.resource = (0, ⟨.memregion, 0⟩) ∧ e.newer = true ∧ e.holder ≠ 2) = 1 ∧
        (managerFreeRefsForPid x.1 2).any (fun s' => decide (s'.devices 0 = some 0)) = true) :=
    exists_reachable_of_run
      [ .manage 0 Sample.registered
      , .ioctl (Sample.claimAny 1 0) Sample.noFaults
      , decrementAny
      , .ioctl (Sample.claimAny 2 0) Sample.noFaults
      , .ioctl (Sample.claimAny 3 claimfHostile) Sample.noFaults ] (by decide +kernel)
  rcases hrun with ⟨x, hreach, hspares, hone, hclean⟩
  rcases (Option.any_eq_true _ _).1 hclean with ⟨s', hs', hslot⟩
  exact ⟨x, s', hs', hone, (newer_claims_survive Sample.config Sample.kernel_idle hreach hspares
    hs').2 0 0 _ 0 (of_decide_eq_true hslot)⟩

/-- The claim of process 1 is decremented away while the process is alive, process 2 claims the
region, and the exit of process 1 takes the count of process 2. -/
theorem decrement_steals :
    ∃ x, Reachable (track (exec Sample.config) (noteHistory Sample.config))
        (fun x a => HolderStep x.1 a) (Sample.kernel, History.empty) x ∧
      (((x.2.cleanup 1).book.countP fun e =>
          e.resource = (0, ⟨.memregion, 0⟩) ∧ e.newer = true ∧ e.holder ≠ 1) = 1 ∧
        (managerFreeRefsForPid x.1 1).any (fun s' => decide (s'.devices 0 = some 0 ∧
          s'.refs .memregion = [⟨⟨0, 0⟩, 2⟩] ∧
          (s'.heap 0).refCount ⟨.memregion, 0⟩ = 0)) = true) :=
  exists_reachable_of_run
    [ .manage 0 Sample.registered
    , .ioctl (Sample.claimAny 1 0) Sample.noFaults
    , decrementAny
    , .ioctl (Sample.claimAny 2 0) Sample.noFaults ] (by decide +kernel)

end Cuddl
