import Cuddl.Kernel.System

/-!
# The table is a registry

A device stays in the slot it was put into until its own release, and no slot holds anything else.
A release takes its device out of the table before it unregisters it, so it does so whatever it
returns.
-/

namespace Cuddl

open Foundation.Machine Foundation.Search

/-! ## What the last call has left -/

/-- Where the calls for a device have left it. -/
inductive Standing
  | unmanaged
  /-- The last call that mattered was a successful manage; `slot` is the slot in which the device
  was found right after it. -/
  | managed (slot : Option Slot)
  deriving DecidableEq

/-- A successful manage counts, and so does every release. -/
def noteStanding (cfg : Config) (s : KernelState) (a : Op) (s' : KernelState)
    (h : DevPtr → Standing) : DevPtr → Standing :=
  match a with
  | .manage p out =>
      if (deviceManage cfg s p out).ret = 0 then
        Function.update h p (.managed (managerFindDeviceSlot s' (some p)))
      else h
  | .release p _ => Function.update h p .unmanaged
  | _ => h

/-- The run invariant: the table holds the managed devices, each in the slot that was noted. -/
structure Exact (s : KernelState) (h : DevPtr → Standing) : Prop where
  tableInjective : TableInjective s
  slot_iff : ∀ p d, s.devices d = some p ↔ h p = .managed (some d)
  found : ∀ p, h p ≠ .managed none

/-! ## One step -/

theorem managerFindDeviceSlot_eq {s : KernelState} (hinj : TableInjective s) {d : Slot}
    {p : DevPtr} (hd : s.devices d = some p) : managerFindDeviceSlot s (some p) = some d := by
  cases hfind : managerFindDeviceSlot s (some p) with
  | none => exact absurd ⟨d, hd⟩ (managerFindDeviceSlot_none hfind)
  | some d' => rw [hinj d' d p (managerFindDeviceSlot_some hfind) hd]

section Steps

variable {s s' : KernelState} {h : DevPtr → Standing} {p : DevPtr} {d : Slot}

theorem Exact.of_devices (hexact : Exact s h) (hdev : s'.devices = s.devices) : Exact s' h := by
  refine ⟨tableInjective_of_devices hexact.tableInjective hdev, ?_, hexact.found⟩
  intro q e
  rw [hdev]
  exact hexact.slot_iff q e

/-- Noting a slot, or a release, leaves no device noted without a slot. -/
theorem Exact.found_update (hexact : Exact s h) {standing : Standing}
    (hstanding : standing ≠ .managed none) (q : DevPtr) :
    Function.update h p standing q ≠ .managed none := by
  by_cases hq : q = p
  · subst hq
    rwa [Function.update_self]
  · rw [Function.update_of_ne hq]
    exact hexact.found q

/-- Putting an unmanaged device into an empty slot, and noting that slot. -/
theorem Exact.put (hexact : Exact s h) (hp : ¬ s.Managed p) (hempty : s.devices d = none) :
    Exact (s.setSlot d (some p)) (Function.update h p (.managed (some d))) := by
  refine ⟨tableInjective_setSlot_some hexact.tableInjective hp, ?_,
    hexact.found_update (by simp)⟩
  intro q e
  rw [KernelState.setSlot_some_iff]
  by_cases hq : q = p
  · -- the device was in no slot before
    subst hq
    have hne : s.devices e ≠ some q := fun hqe => hp ⟨e, hqe⟩
    simp [hne, eq_comm]
  · rw [Function.update_of_ne hq, ← hexact.slot_iff q e]
    by_cases he : e = d
    · simp [he, hq, hempty]
    · simp [he]

/-- Emptying the slot of a device, and forgetting it. -/
theorem Exact.take (hexact : Exact s h) (hd : s.devices d = some p) :
    Exact (s.setSlot d none) (Function.update h p .unmanaged) := by
  refine ⟨tableInjective_setSlot_none hexact.tableInjective, ?_,
    hexact.found_update (by simp)⟩
  intro q e
  rw [KernelState.setSlot_none_iff]
  by_cases hq : q = p
  · -- the device was in no other slot
    subst hq
    have hno : ¬ (e ≠ d ∧ s.devices e = some q) := fun hqe =>
      hqe.1 (hexact.tableInjective e d q hqe.2 hd)
    simp [hno]
  · rw [Function.update_of_ne hq, ← hexact.slot_iff q e]
    by_cases he : e = d
    · have hq' : p ≠ q := fun hpq => hq hpq.symm
      simp [he, hd, hq']
    · simp [he]

theorem Exact.step {cfg : Config} {a : Op} (hexact : Exact s h) (hguard : InTurn s a)
    (hexec : exec cfg a s = some s') : Exact s' (noteStanding cfg s a s' h) := by
  cases a with
  | fill p dev =>
      cases hexec
      exact hexact.of_devices rfl
  | manage p out =>
      cases hexec
      rcases deviceManage_cases cfg s p out with
        ⟨dev', _, ⟨hret, hst⟩ | ⟨hret, _, _, _, _, d, hslot, hst⟩⟩
      · rw [hst]
        simp only [noteStanding, hret, if_false]
        exact hexact.of_devices rfl
      · have hset : Exact (s.setDevice p dev') h := hexact.of_devices rfl
        have hput := hset.put (p := p) hguard (managerFindEmptySlot_some hslot)
        -- the slot that was filled is the one in which the device is found
        have hfind := managerFindDeviceSlot_eq hput.tableInjective
          (KernelState.setSlot_devices_self (d := d))
        rw [hst]
        simp only [noteStanding, hret, if_true, hfind]
        exact hput
  | release p out =>
      cases hexec
      rcases deviceRelease_cases cfg s p out with ⟨hnot, _⟩ | ⟨d, _, hd, hst⟩
      · exact absurd hguard hnot
      · rw [hst]
        exact hexact.take hd
  | ioctl req io => exact hexact.of_devices (exec_ioctl_sameShape hexec).devices
  | freeRefs pid => exact hexact.of_devices (managerFreeRefsForPid_sameShape hexec).devices

end Steps

/-! ## A full table -/

theorem managerFindEmptySlot_none_iff {s : KernelState} :
    managerFindEmptySlot s = none ↔ ∀ d, s.devices d ≠ none := by
  unfold managerFindEmptySlot managerFindDeviceSlot
  rw [searchFrom_eq_none_iff]
  constructor
  · intro h d hd
    have hpass := h d (Nat.zero_le _)
    simp [hd] at hpass
  · intro h d _
    exact beq_eq_false_iff_ne.2 (h d)

/-- For a device with a number of its own that can be registered, only a full table is in the
way. -/
theorem deviceManage_fails_iff {cfg : Config} {s : KernelState} {p : DevPtr} {out : RegOutcome}
    (hinst : (s.heap p).instanceId ≠ 0) (hreg : (deviceRegister cfg (s.heap p) out).ret = 0) :
    (deviceManage cfg s p out).ret ≠ 0 ↔ ∀ d, s.devices d ≠ none := by
  rw [← managerFindEmptySlot_none_iff]
  have hgroup : (s.heap p).group.isNone = false := by
    cases hg : (s.heap p).group with
    | none => simp [deviceRegister, hg, Errno.EINVAL] at hreg
    | some g => rfl
  have hname : (s.heap p).name.isNone = false := by
    rcases Option.isSome_iff_exists.1 (by simpa using hgroup) with ⟨g, hg⟩
    cases hn : (s.heap p).name with
    | none => simp [deviceRegister, hg, hn, Errno.EINVAL] at hreg
    | some n => rfl
  have hassign : assignInstance s (s.heap p) = .ok (s.heap p) := by
    simp [assignInstance, hinst]
  cases hslot : managerFindEmptySlot s with
  | none => simp [deviceManage, hgroup, hname, hassign, hreg, managerAddDevice, hslot, Errno.ENOMEM]
  | some d => simp [deviceManage, hgroup, hname, hassign, hreg, managerAddDevice, hslot]

/-! ## An empty table -/

section Empty

variable {s : KernelState}

theorem managerNextAvailableInstanceId_empty (hempty : ∀ d, s.devices d = none) (dev : Device) :
    managerNextAvailableInstanceId s dev = 1 := by
  have hfind : managerFindDeviceSlotMatching s dev.groupChars dev.nameChars none 1 none 0 =
      none := by
    unfold managerFindDeviceSlotMatching
    rw [searchFrom_eq_none_iff]
    intro d _
    simp [hempty d]
  -- the first turn of the loop is the last one
  show nextInstanceLoop s dev (255 + 1) 0 1 = 1
  simp only [nextInstanceLoop, hfind]

/-- Whatever its number, a device that can be registered can be managed, and is then alone. -/
theorem deviceManage_first (cfg : Config) {p : DevPtr} {out : RegOutcome}
    (hempty : ∀ d, s.devices d = none) (hgroup : (s.heap p).group.isSome)
    (hname : (s.heap p).name.isSome)
    (hreg : ∀ n, (deviceRegister cfg { s.heap p with instanceId := n } out).ret = 0) :
    (deviceManage cfg s p out).ret = 0 ∧
      ∃ d, ∀ e q, (deviceManage cfg s p out).state.devices e = some q ↔ e = d ∧ q = p := by
  have hassign : ∃ n, assignInstance s (s.heap p) = .ok { s.heap p with instanceId := n } := by
    by_cases hzero : (s.heap p).instanceId = 0
    · refine ⟨1, ?_⟩
      simp [assignInstance, hzero, managerNextAvailableInstanceId_empty hempty]
    · exact ⟨(s.heap p).instanceId, by simp [assignInstance, hzero]⟩
  rcases hassign with ⟨n, hassign⟩
  have hgroup' : (s.heap p).group.isNone = false := by simpa using hgroup
  have hname' : (s.heap p).name.isNone = false := by simpa using hname
  have hret : (deviceManage cfg s p out).ret = 0 := by
    cases hslot : managerFindEmptySlot s with
    | none => exact absurd (hempty 0) (managerFindEmptySlot_none_iff.1 hslot 0)
    | some d => simp [deviceManage, hgroup', hname', hassign, hreg n, managerAddDevice, hslot]
  refine ⟨hret, ?_⟩
  rcases deviceManage_cases cfg s p out with ⟨_, _, ⟨hne, _⟩ | ⟨_, _, _, _, _, d, _, hst⟩⟩
  · exact absurd hret hne
  · refine ⟨d, ?_⟩
    intro e q
    rw [hst, KernelState.setSlot_some_iff]
    simp [hempty]

end Empty

/-! ## Runs -/

theorem exact_of_reachable {cfg : Config} {s₀ s : KernelState} {h : DevPtr → Standing}
    (hfresh : s₀.Fresh)
    (hrun : Reachable (track (exec cfg) (noteStanding cfg)) (fun x a => InTurn x.1 a)
      (s₀, fun _ => .unmanaged) (s, h)) : Exact s h := by
  refine hrun.track_invariant (I := fun x => Exact x.1 x.2) ⟨hfresh.tableInjective, ?_, ?_⟩ ?_
  · intro p d
    simp [hfresh.devices d]
  · intro p
    simp
  · intro s s' h a hexact hguard hexec
    exact Exact.step hexact hguard hexec

/-- In every state of a run in which devices are managed while unmanaged and released while
managed, a device whose last manage succeeded and has not been followed by a release is in exactly
one slot, the one it was put into; every occupied slot holds such a device; and a manage of a
device with a number, whose registration succeeds, fails exactly when the table is full. -/
theorem registry_exact (cfg : Config) {s₀ s : KernelState} {h : DevPtr → Standing}
    (hfresh : s₀.Fresh)
    (hrun : Reachable (track (exec cfg) (noteStanding cfg)) (fun x a => InTurn x.1 a)
      (s₀, fun _ => .unmanaged) (s, h)) :
    (∀ p slot, h p = .managed slot →
      ∃ d, slot = some d ∧ ∀ d', s.devices d' = some p ↔ d' = d) ∧
    (∀ d p, s.devices d = some p → h p = .managed (some d)) ∧
    ∀ p out, (s.heap p).instanceId ≠ 0 →
      (deviceRegister cfg (s.heap p) out).ret = 0 →
        ((deviceManage cfg s p out).ret ≠ 0 ↔ ∀ d, s.devices d ≠ none) := by
  have hexact := exact_of_reachable hfresh hrun
  refine ⟨?_, ?_, ?_⟩
  · intro p slot hp
    cases slot with
    | none => exact absurd hp (hexact.found p)
    | some d =>
        refine ⟨d, rfl, ?_⟩
        intro d'
        rw [hexact.slot_iff p d', hp, Standing.managed.injEq, Option.some.injEq]
        exact eq_comm
  · intro d p hd
    exact (hexact.slot_iff p d).1 hd
  · intro p out hinst hreg
    exact deviceManage_fails_iff hinst hreg

/-- Device 1 keeps slot 1 when device 0, which came first, is gone. -/
theorem registry_exact_managedBoth :
    ∃ x : KernelState × (DevPtr → Standing),
      Reachable (track (exec Sample.config) (noteStanding Sample.config))
        (fun x a => InTurn x.1 a) (Sample.kernel, fun _ => .unmanaged) x ∧
      x.1.devices 0 = none ∧ ∀ d, x.1.devices d = some 1 ↔ d = 1 := by
  have hrun : ∃ x : KernelState × (DevPtr → Standing),
      Reachable (track (exec Sample.config) (noteStanding Sample.config))
        (fun x a => InTurn x.1 a) (Sample.kernel, fun _ => .unmanaged) x ∧
      (x.1.devices 0 = none ∧ x.2 1 = .managed (some 1)) :=
    exists_reachable_of_run
      [.manage 0 Sample.registered, .manage 1 Sample.registered, .release 0 Sample.registered]
      (by decide +kernel)
  rcases hrun with ⟨⟨s, h⟩, hreach, hempty, hstanding⟩
  rcases (registry_exact Sample.config Sample.kernel_fresh hreach).1 1 _ hstanding with
    ⟨d, hd, hslots⟩
  cases hd
  exact ⟨(s, h), hreach, hempty, hslots⟩

/-- `udd_unregister_device` fails during the release of device 0: the only call that succeeds is
the manage, and the device is in no slot. -/
theorem failed_release_removes :
    (deviceManage { Sample.config with useUdd := true } Sample.kernel 0 Sample.registered).ret = 0 ∧
      ∃ s, (deviceManage { Sample.config with useUdd := true } Sample.kernel 0
          Sample.registered).state = s ∧ s.Managed 0 ∧
        (deviceRelease { Sample.config with useUdd := true } s 0
          { Sample.registered with uddUnregister := -Errno.EBUSY }).ret = -Errno.EBUSY ∧
        ¬ (deviceRelease { Sample.config with useUdd := true } s 0
          { Sample.registered with uddUnregister := -Errno.EBUSY }).state.Managed 0 :=
  ⟨by decide +kernel, _, rfl, by decide +kernel, by decide +kernel, by decide +kernel⟩

end Cuddl
