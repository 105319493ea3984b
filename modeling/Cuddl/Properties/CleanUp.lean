import Cuddl.Kernel.System

/-!
# The clean-up of a process and absent devices

`cuddlk_manager_free_refs_for_pid` takes the device of every entry out of the table without
looking whether the slot is empty.  That is safe as long as `cuddlk_device_release` only empties
slots that no entry names (`cleanUp_safe`); a device that goes while a client holds it leaves an
entry behind that crashes the clean-up of the client (`cleanUp_crashes`).
-/

namespace Cuddl

open Foundation Foundation.Machine

/-- Every list entry names an occupied slot. -/
def NoStaleRef (s : KernelState) : Prop :=
  ∀ (k : ResourceKind), ∀ e ∈ s.refs k, s.devices e.token.deviceIndex ≠ none

/-- No list entry names the slot that a release of `p` empties. -/
def Unreferenced (s : KernelState) (p : DevPtr) : Prop :=
  ∀ d, managerFindDeviceSlot s (some p) = some d →
    ∀ (k : ResourceKind), ∀ e ∈ s.refs k, e.token.deviceIndex ≠ d

/-- Devices are released only while no entry names their slot. -/
def ReleasesUnreferenced (s : KernelState) : Op → Prop
  | .release p _ => Unreferenced s p
  | _ => True

/-! ## One step -/

theorem NoStaleRef.of_mem {s s' : KernelState} (h : NoStaleRef s)
    (hdevices : ∀ d, s.devices d ≠ none → s'.devices d ≠ none)
    (hmem : ∀ (k : ResourceKind), ∀ e ∈ s'.refs k,
      e ∈ s.refs k ∨ s.devices e.token.deviceIndex ≠ none) : NoStaleRef s' := by
  intro k e he
  apply hdevices
  rcases hmem k e he with hold | hnew
  · exact h k e hold
  · exact hnew

/-- A release keeps the entries valid exactly when no entry names the slot it empties. -/
theorem NoStaleRef.release_iff {s : KernelState} (h : NoStaleRef s) (cfg : Config) (p : DevPtr)
    (out : RegOutcome) :
    NoStaleRef (deviceRelease cfg s p out).state ↔ Unreferenced s p := by
  -- a device that is not in the table empties no slot
  rcases deviceRelease_cases cfg s p out with ⟨hnot, hst⟩ | ⟨d, hslot, _, hst⟩
  · rw [hst]
    constructor
    · intro _ d hd
      exact absurd ⟨d, managerFindDeviceSlot_some hd⟩ hnot
    · intro _
      exact h
  · rw [hst]
    constructor
    · intro hafter d' hd' k e he heq
      cases hslot.symm.trans hd'
      apply hafter k e he
      rw [heq]
      exact KernelState.setSlot_devices_self
    · intro hfree k e he
      have hne : e.token.deviceIndex ≠ d := hfree d hslot k e he
      rw [KernelState.setSlot_devices_of_ne hne]
      exact h k e he

theorem NoStaleRef.step {cfg : Config} {s s' : KernelState} {a : Op} (h : NoStaleRef s)
    (hguard : ReleasesUnreferenced s a) (hexec : exec cfg a s = some s') : NoStaleRef s' := by
  cases a with
  | fill p dev =>
      cases hexec
      exact h
  | manage p out =>
      cases hexec
      rcases deviceManage_cases cfg s p out with
        ⟨dev', _, ⟨_, hst⟩ | ⟨_, _, _, _, _, d, _, hst⟩⟩
      · rw [hst]
        exact h
      · rw [hst]
        refine h.of_mem ?_ fun _ _ he => Or.inl he
        intro d' hd'
        -- managing a device fills a slot, so no slot becomes empty
        by_cases heq : d' = d
        · simp [heq]
        · rwa [KernelState.setSlot_devices_of_ne heq]
  | release p out =>
      cases hexec
      exact (h.release_iff cfg p out).2 hguard
  | ioctl req io =>
      rcases Option.map_eq_some_iff.1 hexec with ⟨res, hres, rfl⟩
      refine h.of_mem ?_ fun _ _ he => mem_refs_of_managerIoctl hres he
      intro d hd
      rwa [(managerIoctl_sameShape hres).devices]
  | freeRefs pid =>
      refine h.of_mem ?_ ?_
      · intro d hd
        rwa [(managerFreeRefsForPid_sameShape hexec).devices]
      · intro k e he
        left
        rw [managerFreeRefsForPid_refs hexec] at he
        exact List.mem_of_mem_filter he

theorem NoStaleRef.freeRefs_isSome {s : KernelState} (h : NoStaleRef s) (pid : Pid) :
    (managerFreeRefsForPid s pid).isSome := by
  refine managerFreeRefsForPid_isSome_iff.2 ?_
  intro k e he _
  exact h k e he

/-! ## Whole runs -/

theorem noStaleRef_of_reachable {cfg : Config} {s₀ s : KernelState} (hfresh : s₀.Fresh)
    (hrun : Reachable (exec cfg) ReleasesUnreferenced s₀ s) : NoStaleRef s := by
  refine hrun.invariant ?_ ?_
  · intro k e he
    simp [hfresh.refs k] at he
  · intro s s' a h hguard hexec
    exact h.step hguard hexec

/-- Without the release of a referenced device, the clean-up of any process finds a device behind
each of its entries.  One such release is enough for a process whose clean-up crashes. -/
theorem cleanUp_safe (cfg : Config) {s₀ s : KernelState} (hfresh : s₀.Fresh)
    (hrun : Reachable (exec cfg) ReleasesUnreferenced s₀ s) :
    (∀ pid, (managerFreeRefsForPid s pid).isSome ∧
      ∀ (k : ResourceKind), ∀ e ∈ s.refs k, e.pid = pid →
        s.devices e.token.deviceIndex ≠ none) ∧
    ∀ p out, (∀ pid, (managerFreeRefsForPid (deviceRelease cfg s p out).state pid).isSome) ↔
      Unreferenced s p := by
  have hstale := noStaleRef_of_reachable hfresh hrun
  constructor
  · intro pid
    exact ⟨hstale.freeRefs_isSome pid, fun k e he _ => hstale k e he⟩
  · intro p out
    rw [← hstale.release_iff cfg p out]
    constructor
    · -- the process of a stale entry is the one whose clean-up crashes
      intro hall k e he
      exact managerFreeRefsForPid_isSome_iff.1 (hall e.pid) k e he rfl
    · intro hafter pid
      exact hafter.freeRefs_isSome pid

instance (s : KernelState) (p : DevPtr) : Decidable (Unreferenced s p) :=
  decidable_of_iff
    (∀ d ∈ managerFindDeviceSlot s (some p),
      (∀ e ∈ s.refs .memregion, e.token.deviceIndex ≠ d) ∧
        ∀ e ∈ s.refs .eventsrc, e.token.deviceIndex ≠ d) <| by
      constructor
      · intro h d hd k
        cases k with
        | memregion => exact (h d hd).1
        | eventsrc => exact (h d hd).2
      · intro h d hd
        exact ⟨h d hd _, h d hd _⟩

instance (s : KernelState) : (a : Op) → Decidable (ReleasesUnreferenced s a)
  | .release p _ => inferInstanceAs (Decidable (Unreferenced s p))
  | .fill _ _ | .manage _ _ | .ioctl _ _ | .freeRefs _ => .isTrue trivial

/-- Process 1 holds a region of device 0 while device 1 is unplugged. -/
theorem cleanUp_safe_otherDevice :
    ∃ s : KernelState, (s.refs .memregion = [⟨⟨0, 0⟩, 1⟩] ∧ s.devices 1 = none) ∧
      (managerFreeRefsForPid s 1).isSome := by
  have hrun : ∃ s, Reachable (exec Sample.config) ReleasesUnreferenced Sample.kernel s ∧
      (s.refs .memregion = [⟨⟨0, 0⟩, 1⟩] ∧ s.devices 1 = none) :=
    exists_reachable_of_run
      [ .manage 0 Sample.registered
      , .manage 1 Sample.registered
      , .ioctl (Sample.claimAny 1 0) Sample.noFaults
      , .release 1 Sample.registered ] (by decide +kernel)
  rcases hrun with ⟨s, hreach, hs⟩
  exact ⟨s, hs, ((cleanUp_safe Sample.config Sample.kernel_fresh hreach).1 1).1⟩

/-- Process 1 still holds a region of device 0 when the device is unplugged; the clean-up of the
process dereferences `NULL`. -/
theorem cleanUp_crashes :
    ∃ s : KernelState, Reachable (exec Sample.config) (fun _ _ => True) Sample.kernel s ∧
      (s.refs .memregion = [⟨⟨0, 0⟩, 1⟩] ∧ s.devices 0 = none ∧
        (managerFreeRefsForPid s 1).isNone) :=
  exists_reachable_of_run
    [ .manage 0 Sample.registered
    , .ioctl (Sample.claimAny 1 0) Sample.noFaults
    , .release 0 Sample.registered ] (by decide +kernel)

end Cuddl
