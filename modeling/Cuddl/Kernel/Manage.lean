import Cuddl.Kernel.Lookup
import Cuddl.Kernel.Register

/-!
# Managing devices

The writers of the device table in `cuddlk_manager_common.c`.  `deviceManage_cases` and
`deviceRelease_cases` say all that a call can do to the manager; later proofs go through them.
-/

namespace Cuddl

open Foundation.Search

/-! ## Automatic instance numbers -/

def Device.groupChars (dev : Device) : Option (List UInt8) :=
  dev.group.map KStr.chars

def Device.nameChars (dev : Device) : Option (List UInt8) :=
  dev.name.map KStr.chars

/-- The `while` loop: the instance and the slot to go on from advance together.  `slot` grows in
every iteration, so `maxManagedDevices` iterations are enough and the base case is never met. -/
def nextInstanceLoop (s : KernelState) (dev : Device) : Nat → Nat → Int → Int
  | 0, _, _ => -Errno.ENOMEM
  | fuel + 1, slot, instanceId =>
      match managerFindDeviceSlotMatching s dev.groupChars dev.nameChars none instanceId none
          slot with
      | none => instanceId
      | some d =>
          -- taken: try the next number, from the next slot on
          if d.val < maxManagedDevices - 1 then
            nextInstanceLoop s dev fuel (d + 1) (instanceId + 1)
          else
            -Errno.ENOMEM

def managerNextAvailableInstanceId (s : KernelState) (dev : Device) : Int :=
  nextInstanceLoop s dev maxManagedDevices 0 1

/-! ## The table -/

def managerAddDevice (s : KernelState) (p : DevPtr) : Int × KernelState :=
  match managerFindEmptySlot s with
  | none => (-Errno.ENOMEM, s)
  | some d => (0, s.setSlot d (some p))

def managerRemoveDevice (s : KernelState) (p : DevPtr) : Int × KernelState :=
  match managerFindDeviceSlot s (some p) with
  | none => (-Errno.ENXIO, s)
  | some d => (0, s.setSlot d none)

structure ManageResult where
  ret : Int
  state : KernelState
  calls : List RegCall

/-- The automatic numbering step of `cuddlk_device_manage`. -/
def assignInstance (s : KernelState) (dev : Device) : Except Int Device :=
  if dev.instanceId = 0 then
    let ret := managerNextAvailableInstanceId s dev
    if ret < 0 then .error ret else .ok { dev with instanceId := ret }
  else
    .ok dev

def deviceManage (cfg : Config) (s : KernelState) (p : DevPtr) (out : RegOutcome) :
    ManageResult :=
  let dev := s.heap p
  if dev.group.isNone then
    ⟨-Errno.EINVAL, s, []⟩
  else if dev.name.isNone then
    ⟨-Errno.EINVAL, s, []⟩
  else
    match assignInstance s dev with
    | .error e => ⟨e, s, []⟩
    | .ok dev =>
        let reg := deviceRegister cfg dev out
        -- registration has written to the structure even when it fails
        let s := s.setDevice p reg.dev
        if reg.ret ≠ 0 then
          ⟨reg.ret, s, reg.calls⟩
        else
          let added := managerAddDevice s p
          if added.1 ≠ 0 then
            -- no slot is free: the registration is taken back
            ⟨added.1, added.2, reg.calls ++ (deviceUnregister cfg (s.heap p) out).2⟩
          else
            ⟨0, added.2, reg.calls⟩

def deviceRelease (cfg : Config) (s : KernelState) (p : DevPtr) (out : RegOutcome) :
    ManageResult :=
  let removed := managerRemoveDevice s p
  -- the device is unregistered whether or not it was in the table
  let unregistered := deviceUnregister cfg (s.heap p) out
  if removed.1 ≠ 0 then
    ⟨removed.1, removed.2, unregistered.2⟩
  else
    ⟨unregistered.1, removed.2, unregistered.2⟩

/-! ## What the searches for a slot find -/

theorem managerFindEmptySlot_some {s : KernelState} {d : Slot}
    (h : managerFindEmptySlot s = some d) : s.devices d = none := by
  have htest := (searchFrom_eq_some_iff.1 h).2.1
  simpa using htest

theorem managerFindDeviceSlot_some {s : KernelState} {p : DevPtr} {d : Slot}
    (h : managerFindDeviceSlot s (some p) = some d) : s.devices d = some p := by
  have htest := (searchFrom_eq_some_iff.1 h).2.1
  simpa using htest

theorem managerFindDeviceSlot_none {s : KernelState} {p : DevPtr}
    (h : managerFindDeviceSlot s (some p) = none) : ¬ s.Managed p := by
  rintro ⟨d, hd⟩
  have htest := searchFrom_eq_none_iff.1 h d (Nat.zero_le _)
  simp [hd] at htest

@[simp] theorem KernelState.setDevice_devices (s : KernelState) (p : DevPtr) (dev : Device) :
    (s.setDevice p dev).devices = s.devices := rfl

@[simp] theorem KernelState.setDevice_heap_self (s : KernelState) (p : DevPtr) (dev : Device) :
    (s.setDevice p dev).heap p = dev := by
  simp [KernelState.setDevice]

@[simp] theorem managerFindEmptySlot_setDevice (s : KernelState) (p : DevPtr) (dev : Device) :
    managerFindEmptySlot (s.setDevice p dev) = managerFindEmptySlot s := rfl

/-! ## What a call can do -/

/-- `i` is the instance under which `cuddlk_device_manage` registers a device. -/
def Numbered (s : KernelState) (dev : Device) (i : Int) : Prop :=
  (dev.instanceId ≠ 0 ∧ i = dev.instanceId) ∨
    (dev.instanceId = 0 ∧ i = managerNextAvailableInstanceId s dev ∧ 0 ≤ i)

/-- A device that comes with a number keeps it. -/
theorem Numbered.eq_given {s : KernelState} {dev : Device} {i : Int} (h : Numbered s dev i)
    (hgiven : dev.instanceId ≠ 0) : i = dev.instanceId := by
  rcases h with ⟨_, heq⟩ | ⟨hzero, _⟩
  · exact heq
  · exact absurd hzero hgiven

theorem assignInstance_error {s : KernelState} {dev : Device} {e : Int}
    (h : assignInstance s dev = .error e) : e < 0 := by
  unfold assignInstance at h
  split at h
  · dsimp only at h
    split at h
    · rename_i hneg
      cases h
      exact hneg
    · cases h
  · cases h

theorem assignInstance_ok {s : KernelState} {dev dev' : Device}
    (h : assignInstance s dev = .ok dev') :
    Numbered s dev dev'.instanceId ∧ dev' = { dev with instanceId := dev'.instanceId } := by
  unfold assignInstance at h
  split at h
  · rename_i hzero
    dsimp only at h
    split at h
    · cases h
    · rename_i hnonneg
      cases h
      exact ⟨Or.inr ⟨hzero, rfl, not_lt.1 hnonneg⟩, rfl⟩
  · rename_i hgiven
    cases h
    exact ⟨Or.inl ⟨hgiven, rfl⟩, rfl⟩

/-- What a manage call leaves in the device structure: everything that identifies the device or
counts its users, with a new instance number at most. -/
structure Device.Kept (d d' : Device) : Prop where
  group : d'.group = d.group
  name : d'.name = d.name
  refCount : ∀ x, d'.refCount x = d.refCount x

/-- A manage call that fails only writes to the device structure.  One that succeeds numbers the
device, registers it and puts it in the first empty slot. -/
theorem deviceManage_cases (cfg : Config) (s : KernelState) (p : DevPtr) (out : RegOutcome) :
    ∃ dev', (s.heap p).Kept dev' ∧
      (((deviceManage cfg s p out).ret ≠ 0 ∧
          (deviceManage cfg s p out).state = s.setDevice p dev') ∨
        ((deviceManage cfg s p out).ret = 0 ∧ (s.heap p).group.isSome ∧ (s.heap p).name.isSome ∧
          Numbered s (s.heap p) dev'.instanceId ∧
          ((dev'.mem = fun i => ((s.heap p).mem i).defaultSizes cfg) ∧
            dev'.priv.uio.uioDev.isSome ∧ dev'.Labelled ∧ (s.heap p).SetUp cfg dev') ∧
          ∃ d, managerFindEmptySlot s = some d ∧
            (deviceManage cfg s p out).state = (s.setDevice p dev').setSlot d (some p))) := by
  have hself : s.setDevice p (s.heap p) = s := by
    simp [KernelState.setDevice]
  have hkept : (s.heap p).Kept (s.heap p) := ⟨rfl, rfl, fun _ => rfl⟩
  -- the splits follow the error exits of the code, from the first to the last
  unfold deviceManage
  dsimp only
  split
  · exact ⟨s.heap p, hkept, Or.inl ⟨by simp [Errno.EINVAL], hself.symm⟩⟩
  · rename_i hgroup
    split
    · exact ⟨s.heap p, hkept, Or.inl ⟨by simp [Errno.EINVAL], hself.symm⟩⟩
    · rename_i hname
      split
      · rename_i e herr
        exact ⟨s.heap p, hkept, Or.inl ⟨(assignInstance_error herr).ne, hself.symm⟩⟩
      · rename_i dev hok
        rcases assignInstance_ok hok with ⟨hnum, heq⟩
        have hsame := deviceRegister_sameIdentity cfg dev out
        have hkept' : (s.heap p).Kept (deviceRegister cfg dev out).dev := by
          refine ⟨hsame.group.trans ?_, hsame.name.trans ?_, ?_⟩
          · rw [heq]
          · rw [heq]
          · intro x
            rw [hsame.refCount, heq]
            rfl
        refine ⟨(deviceRegister cfg dev out).dev, hkept', ?_⟩
        split
        · rename_i hret
          exact Or.inl ⟨hret, rfl⟩
        · rename_i hret
          have hret' : (deviceRegister cfg dev out).ret = 0 := not_not.1 hret
          -- registered: what is left is the search for a slot
          cases hslot : managerFindEmptySlot s with
          | none =>
              left
              simp [managerAddDevice, hslot, Errno.ENOMEM]
          | some d =>
              right
              have hinst := hsame.instanceId
              have hgroup' : (s.heap p).group ≠ none := by simpa using hgroup
              have hname' : (s.heap p).name ≠ none := by simpa using hname
              have hreg := deviceRegister_of_ret_zero hret'
              rw [heq] at hreg
              refine ⟨by simp [managerAddDevice, hslot], Option.isSome_iff_ne_none.2 hgroup',
                Option.isSome_iff_ne_none.2 hname', by rwa [hinst], ?_, d, rfl, ?_⟩
              · rw [heq]
                exact hreg
              · simp [managerAddDevice, hslot]

/-- A release empties the slot of a managed device and leaves everything else alone. -/
theorem deviceRelease_cases (cfg : Config) (s : KernelState) (p : DevPtr) (out : RegOutcome) :
    (¬ s.Managed p ∧ (deviceRelease cfg s p out).state = s) ∨
      ∃ d, managerFindDeviceSlot s (some p) = some d ∧ s.devices d = some p ∧
        (deviceRelease cfg s p out).state = s.setSlot d none := by
  cases hslot : managerFindDeviceSlot s (some p) with
  | none =>
      left
      refine ⟨managerFindDeviceSlot_none hslot, ?_⟩
      simp [deviceRelease, managerRemoveDevice, hslot, Errno.ENXIO]
  | some d =>
      right
      refine ⟨d, rfl, managerFindDeviceSlot_some hslot, ?_⟩
      simp [deviceRelease, managerRemoveDevice, hslot]

end Cuddl
