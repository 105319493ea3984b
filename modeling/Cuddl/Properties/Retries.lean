import Cuddl.Kernel.System

/-!
# Retrying a failed manage

`cuddlk_device_manage` writes an automatic number into the device structure before it registers the
device.  A call that fails never touches the table, but one that fails in the registration or in
the search for a slot leaves the number behind (`deviceManage_failed`).  The device then no longer
comes without a number, and a retry registers it under the number of the first attempt, whoever has
got it in the meantime.
-/

namespace Cuddl

open Foundation.Search

/-! ## Numbers are positive -/

/-- The loop only counts up from where it starts. -/
theorem le_nextInstanceLoop {s : KernelState} {dev : Device} :
    ∀ {fuel slot : Nat} {i : Int}, 0 ≤ nextInstanceLoop s dev fuel slot i →
      i ≤ nextInstanceLoop s dev fuel slot i := by
  intro fuel
  induction fuel with
  | zero =>
      intro slot i h
      simp [nextInstanceLoop, Errno.ENOMEM] at h
  | succ fuel ih =>
      intro slot i h
      unfold nextInstanceLoop at h ⊢
      split at h
      · simp
      · rename_i d hfind
        split at h
        · rename_i hend
          have hrec := ih h
          simp only [hend, if_true]
          omega
        · simp [Errno.ENOMEM] at h

theorem managerNextAvailableInstanceId_pos {s : KernelState} {dev : Device}
    (h : 0 ≤ managerNextAvailableInstanceId s dev) : 0 < managerNextAvailableInstanceId s dev := by
  have hle : 1 ≤ managerNextAvailableInstanceId s dev := le_nextInstanceLoop h
  omega

/-! ## The number that is written -/

/-- The number that `cuddlk_device_manage` writes into a device that has a group and a name and
comes without a number; `none` when the call ends before that. -/
def assignedNumber (s : KernelState) (dev : Device) : Option Int :=
  if dev.group.isSome ∧ dev.name.isSome ∧ dev.instanceId = 0 ∧
      0 ≤ managerNextAvailableInstanceId s dev then
    some (managerNextAvailableInstanceId s dev)
  else
    none

theorem assignedNumber_eq_some {s : KernelState} {dev : Device} {n : Int}
    (h : assignedNumber s dev = some n) :
    dev.instanceId = 0 ∧ n = managerNextAvailableInstanceId s dev ∧ 0 < n := by
  unfold assignedNumber at h
  split at h
  · rename_i hgiven
    cases h
    exact ⟨hgiven.2.2.1, rfl, managerNextAvailableInstanceId_pos hgiven.2.2.2⟩
  · cases h

/-- After the null checks, the numbering step leaves the assigned number in the structure. -/
theorem assignInstance_assignedNumber {s : KernelState} {dev dev' : Device}
    (hgroup : dev.group.isSome) (hname : dev.name.isSome) (h : assignInstance s dev = .ok dev') :
    dev'.instanceId = (assignedNumber s dev).getD dev.instanceId := by
  rcases (assignInstance_ok h).1 with ⟨hgiven, heq⟩ | ⟨hzero, heq, hnonneg⟩
  · simp [assignedNumber, hgiven, heq]
  · rw [heq] at hnonneg
    simp [assignedNumber, hgroup, hname, hzero, hnonneg, heq]

/-- A failed call stops before the structure is written, or it has numbered the device and leaves
what the registration has made of it. -/
theorem deviceManage_failed_cases {cfg : Config} {s : KernelState} {p : DevPtr} {out : RegOutcome}
    (h : (deviceManage cfg s p out).ret ≠ 0) :
    ((deviceManage cfg s p out).state = s ∧ assignedNumber s (s.heap p) = none) ∨
      ∃ dev, (s.heap p).group.isSome ∧ (s.heap p).name.isSome ∧
        assignInstance s (s.heap p) = .ok dev ∧
        (deviceManage cfg s p out).state = s.setDevice p (deviceRegister cfg dev out).dev := by
  unfold deviceManage at h ⊢
  dsimp only at h ⊢
  split at h
  · rename_i hgroup
    left
    have hnone : (s.heap p).group = none := by simpa using hgroup
    simp [assignedNumber, hnone]
  · rename_i hgroup
    split at h
    · rename_i hname
      left
      have hnone : (s.heap p).name = none := by simpa using hname
      simp [assignedNumber, hnone]
    · rename_i hname
      have hgroup' : (s.heap p).group.isSome := by simpa [Option.isSome_iff_ne_none] using hgroup
      have hname' : (s.heap p).name.isSome := by simpa [Option.isSome_iff_ne_none] using hname
      simp only [hgroup, hname, Bool.false_eq_true, if_false]
      cases hassign : assignInstance s (s.heap p) with
      | error e =>
          left
          -- only an exhausted search makes the numbering fail
          have hneg : ¬ 0 ≤ managerNextAvailableInstanceId s (s.heap p) := by
            unfold assignInstance at hassign
            split at hassign
            · dsimp only at hassign
              split at hassign
              · omega
              · cases hassign
            · cases hassign
          simp [assignedNumber, hneg]
      | ok dev =>
          right
          refine ⟨dev, hgroup', hname', rfl, ?_⟩
          simp only [hassign] at h ⊢
          split at h
          · rename_i hret
            simp only [hret, if_true, not_false_eq_true, ne_eq]
          · rename_i hret
            cases hslot : managerFindEmptySlot s with
            | none => simp [hret, managerAddDevice, hslot, Errno.ENOMEM]
            | some d => simp [managerAddDevice, hslot] at h

/-! ## Failure and retry -/

/-- A manage that fails leaves the table and every other device alone.  The instance of its device
is what it was, unless the call had already assigned a number, which then stays.  So when the
device is handed in again in any later state, it is numbered as if for the first time if no number
was assigned, and it is registered under the assigned number if one was. -/
theorem deviceManage_failed {cfg : Config} {s : KernelState} {p : DevPtr} {out : RegOutcome}
    (h : (deviceManage cfg s p out).ret ≠ 0) :
    (deviceManage cfg s p out).state.devices = s.devices ∧
      (∀ q, q ≠ p → (deviceManage cfg s p out).state.heap q = s.heap q) ∧
      ((deviceManage cfg s p out).state.heap p).instanceId =
        (assignedNumber s (s.heap p)).getD (s.heap p).instanceId ∧
      ∀ (t : KernelState) (i : Int), t.heap p = (deviceManage cfg s p out).state.heap p →
        (Numbered t (t.heap p) i ↔
          match assignedNumber s (s.heap p) with
          | some n => i = n
          | none => Numbered t (s.heap p) i) := by
  rcases deviceManage_failed_cases h with ⟨hst, hnone⟩ | ⟨dev, hgroup, hname, hassign, hst⟩
  · rw [hst, hnone]
    refine ⟨rfl, fun _ _ => rfl, rfl, ?_⟩
    intro t i ht
    rw [ht]
  · have hinst : (deviceRegister cfg dev out).dev.instanceId =
        (assignedNumber s (s.heap p)).getD (s.heap p).instanceId :=
      (deviceRegister_sameIdentity cfg dev out).instanceId.trans
        (assignInstance_assignedNumber hgroup hname hassign)
    have hheap : (s.setDevice p (deviceRegister cfg dev out).dev).heap p =
        (deviceRegister cfg dev out).dev := by
      simp
    rw [hst]
    refine ⟨rfl, ?_, by rw [hheap, hinst], ?_⟩
    · intro q hq
      simp [KernelState.setDevice, hq]
    · intro t i ht
      rw [hheap] at ht
      rw [ht]
      cases hnum : assignedNumber s (s.heap p) with
      | some n =>
          have hpos := (assignedNumber_eq_some hnum).2.2
          rw [hnum, Option.getD_some] at hinst
          simp only [Numbered, hinst]
          constructor
          · rintro (⟨_, rfl⟩ | ⟨hzero, _⟩)
            · rfl
            · omega
          · rintro rfl
            exact Or.inl ⟨by omega, rfl⟩
      | none =>
          -- the call got as far as the registration, so the device has a number of its own
          have hgiven : (s.heap p).instanceId ≠ 0 := by
            rcases (assignInstance_ok hassign).1 with ⟨hgiven, _⟩ | ⟨hzero, heq, hnonneg⟩
            · exact hgiven
            · rw [heq] at hnonneg
              simp [assignedNumber, hgroup, hname, hzero, hnonneg] at hnum
          rw [hnum, Option.getD_none] at hinst
          simp [Numbered, hinst, hgiven]

/-- `__uio_register_device` refuses the device. -/
def Sample.refused : RegOutcome :=
  { Sample.registered with uioRegister := -Errno.EBUSY }

/-- Device 1 fails to register and keeps number 1; device 2 of the same name then gets number 1 in
the table, and a retry of device 1 would have number 1 again. -/
theorem deviceManage_failed_refused :
    ∃ s, s = (deviceManage Sample.config Sample.kernel 1 Sample.refused).state ∧
      s.devices = Sample.kernel.devices ∧ (s.heap 1).instanceId = 1 ∧
      ∃ t, t = (deviceManage Sample.config s 2 Sample.registered).state ∧
        (t.heap 2).instanceId = 1 ∧ managerNextAvailableInstanceId t (Sample.kernel.heap 1) = 2 ∧
        ∀ i, Numbered t (t.heap 1) i ↔ i = 1 := by
  have hfail : (deviceManage Sample.config Sample.kernel 1 Sample.refused).ret ≠ 0 := by
    decide +kernel
  have hnum : assignedNumber Sample.kernel (Sample.kernel.heap 1) = some 1 := by decide +kernel
  rcases deviceManage_failed hfail with ⟨hdev, _, hinst, hretry⟩
  rw [hnum] at hinst hretry
  refine ⟨_, rfl, hdev, hinst, _, rfl, by decide +kernel, by decide +kernel, ?_⟩
  intro i
  refine hretry _ i ?_
  -- managing device 2 leaves device 1 alone
  rcases deviceManage_cases Sample.config
      (deviceManage Sample.config Sample.kernel 1 Sample.refused).state 2 Sample.registered with
    ⟨dev', _, ⟨_, hst⟩ | ⟨_, _, _, _, _, d, _, hst⟩⟩
  · rw [hst]
    simp [KernelState.setDevice]
  · rw [hst]
    simp [KernelState.setDevice]

/-- The instance of a device is not always restored by a failed manage. -/
theorem failed_manage_keeps_number :
    ¬ ∀ (cfg : Config) (s : KernelState) (p : DevPtr) (out : RegOutcome),
      (deviceManage cfg s p out).ret ≠ 0 →
        (deviceManage cfg s p out).state.devices = s.devices ∧
          ((deviceManage cfg s p out).state.heap p).instanceId = (s.heap p).instanceId := by
  intro h
  have hsame := (h Sample.config Sample.kernel 1 Sample.refused (by decide +kernel)).2
  exact absurd hsame (by decide +kernel)

end Cuddl
