import Cuddl.Properties.Instances
import Cuddl.Properties.Registry

/-!
# When the numbering gives up

`cuddlk_manager_next_available_instance_id` is documented to fail when no slot is empty.  Its loop
climbs from instance `k` to the first instance `k + 1` behind it (`Climbs`) and gives up when it
arrives in the last slot, whether or not there are empty slots below
(`managerNextAvailableInstanceId_error_iff`).  A table that was once full and has a device of the
name in its last slot is enough (`numbering_gives_up`).
-/

namespace Cuddl

open Foundation.CString Foundation.Search Foundation.Machine

/-! ## The climb -/

def lastSlot : Slot :=
  Fin.last (maxManagedDevices - 1)

/-- No slot of the table is empty. -/
def Full (s : KernelState) : Prop :=
  ∀ d, s.devices d ≠ none

/-- The devices with the name of `dev` and the instances `1, 2, ..., i` sit in ascending slots up
to `d`, each of them the first one of its number behind the one before it. -/
inductive Climbs (s : KernelState) (dev : Device) : Int → Slot → Prop
  | first {d : Slot} (hat : At s dev 1 d) (hleast : ∀ e, e < d → ¬ At s dev 1 e) :
      Climbs s dev 1 d
  | next {i : Int} {d e : Slot} (hclimb : Climbs s dev i d) (hlt : d < e)
      (hat : At s dev (i + 1) e) (hleast : ∀ f, d < f → f < e → ¬ At s dev (i + 1) f) :
      Climbs s dev (i + 1) e

/-- The climb ends in the last slot of the table. -/
def ClimbsToTop (s : KernelState) (dev : Device) : Prop :=
  ∃ i, Climbs s dev i lastSlot

theorem findSlot_eq_some_iff {s : KernelState} {dev : Device} {j : Int} {start : Nat} {d : Slot} :
    managerFindDeviceSlotMatching s dev.groupChars dev.nameChars none j none start = some d ↔
      start ≤ d ∧ At s dev j d ∧ ∀ e : Slot, start ≤ e → e < d → ¬ At s dev j e := by
  constructor
  · intro h
    rcases findSlot_some h with ⟨hle, hat⟩
    refine ⟨hle, hat, ?_⟩
    rintro e hge hlt ⟨p, hp, hag⟩
    have hfail := (searchFrom_eq_some_iff.1 h).2.2 e hge hlt
    have he : s.devices e = some p := hp
    simp [he, hag, deviceOffers, specified] at hfail
  · rintro ⟨hle, ⟨p, hp, hag⟩, hleast⟩
    have hd : s.devices d = some p := hp
    refine searchFrom_eq_some_iff.2 ⟨hle, ?_, ?_⟩
    · simp [hd, hag, deviceOffers, specified]
    · intro e hge hlt
      have hno := hleast e hge hlt
      cases he : s.devices e with
      | none => simp
      | some q =>
          have hfail : deviceAgrees (s.heap q) dev.groupChars dev.nameChars j = false := by
            simpa [At, he] using hno
          simp [hfail]

/-- One turn of the loop, from the slot behind the number before. -/
theorem nextInstanceLoop_succ {s : KernelState} {dev : Device} {fuel slot : Nat} {i : Int}
    {d : Slot} (hle : slot ≤ d) (hat : At s dev i d)
    (hleast : ∀ e : Slot, slot ≤ e → e < d → ¬ At s dev i e) :
    nextInstanceLoop s dev (fuel + 1) slot i =
      if d.val < maxManagedDevices - 1 then nextInstanceLoop s dev fuel (d + 1) (i + 1)
      else -Errno.ENOMEM := by
  have hfind := findSlot_eq_some_iff.2 ⟨hle, hat, hleast⟩
  simp only [nextInstanceLoop, hfind]

/-- Wherever the climb leads, the loop goes on from there. -/
theorem Climbs.loop {s : KernelState} {dev : Device} {i : Int} {d : Slot}
    (h : Climbs s dev i d) :
    ∃ fuel, maxManagedDevices ≤ fuel + (d + 1) ∧
      managerNextAvailableInstanceId s dev =
        if d.val < maxManagedDevices - 1 then nextInstanceLoop s dev fuel (d + 1) (i + 1)
        else -Errno.ENOMEM := by
  induction h with
  | first hat hleast =>
      refine ⟨maxManagedDevices - 1, by simp only [maxManagedDevices]; omega, ?_⟩
      exact nextInstanceLoop_succ (Nat.zero_le _) hat fun e _ hlt => hleast e hlt
  | @next i d e _ hlt hat hleast ih =>
      rcases ih with ⟨fuel, hfuel, hloop⟩
      have hlt' : d.val < e.val := hlt
      have hend : d.val < maxManagedDevices - 1 := by omega
      -- slots behind `d` are left, so the loop is not out of turns
      cases fuel with
      | zero =>
          simp only [maxManagedDevices] at hfuel hend
          omega
      | succ fuel =>
          refine ⟨fuel, by omega, ?_⟩
          rw [hloop, if_pos hend]
          exact nextInstanceLoop_succ hlt' hat fun f hle hf => hleast f hle hf

/-- The other way round: a loop that gives up has climbed to the top. -/
theorem nextInstanceLoop_gives_up {s : KernelState} {dev : Device} :
    ∀ {fuel slot : Nat} {i : Int}, 1 ≤ i → slot < maxManagedDevices →
      maxManagedDevices ≤ fuel + slot →
      (∀ d : Slot, slot ≤ d → At s dev i d →
        (∀ e : Slot, slot ≤ e → e < d → ¬ At s dev i e) → Climbs s dev i d) →
      nextInstanceLoop s dev fuel slot i = -Errno.ENOMEM → ClimbsToTop s dev := by
  intro fuel
  induction fuel with
  | zero =>
      intro slot i _ hslot hfuel
      omega
  | succ fuel ih =>
      intro slot i hi hslot hfuel hclimbs hloop
      unfold nextInstanceLoop at hloop
      split at hloop
      · simp only [Errno.ENOMEM] at hloop
        omega
      · rename_i d hfind
        rcases findSlot_eq_some_iff.1 hfind with ⟨hle, hat, hleast⟩
        have hclimb := hclimbs d hle hat hleast
        split at hloop
        · rename_i hend
          refine ih (by omega) (by omega) (by omega) ?_ hloop
          intro e hde hat' hleast'
          exact hclimb.next hde hat' hleast'
        · rename_i hend
          have hlast : d = lastSlot := by
            apply Fin.ext
            simp only [lastSlot, Fin.val_last]
            omega
          exact ⟨i, hlast ▸ hclimb⟩

/-- The numbering fails exactly when the climb ends in the last slot. -/
theorem managerNextAvailableInstanceId_error_iff {s : KernelState} {dev : Device} :
    managerNextAvailableInstanceId s dev = -Errno.ENOMEM ↔ ClimbsToTop s dev := by
  constructor
  · intro h
    refine nextInstanceLoop_gives_up (le_refl 1) (Nat.zero_lt_succ _) (by omega) ?_ h
    intro d _ hat hleast
    exact Climbs.first hat fun e hlt => hleast e (Nat.zero_le _) hlt
  · rintro ⟨i, hclimb⟩
    rcases hclimb.loop with ⟨fuel, _, hloop⟩
    rw [hloop, if_neg (by simp [lastSlot])]

/-! ## The call -/

/-- `cuddlk_device_register` succeeds for the device as `cuddlk_device_manage` numbers it. -/
def Registers (cfg : Config) (s : KernelState) (p : DevPtr) (out : RegOutcome) : Prop :=
  ∀ dev, assignInstance s (s.heap p) = .ok dev → (deviceRegister cfg dev out).ret = 0

theorem deviceManage_enomem {cfg : Config} {s : KernelState} {p : DevPtr} {out : RegOutcome}
    (hreg : Registers cfg s p out) (h : (deviceManage cfg s p out).ret = -Errno.ENOMEM) :
    managerNextAvailableInstanceId s (s.heap p) = -Errno.ENOMEM ∨ Full s := by
  unfold deviceManage at h
  dsimp only at h
  split at h
  · simp [Errno.EINVAL, Errno.ENOMEM] at h
  · split at h
    · simp [Errno.EINVAL, Errno.ENOMEM] at h
    · split at h
      · rename_i e herr
        left
        unfold assignInstance at herr
        split at herr
        · dsimp only at herr
          split at herr
          · cases herr
            exact h
          · cases herr
        · cases herr
      · rename_i dev hok
        right
        simp only [hreg dev hok, ne_eq, not_true_eq_false, if_false] at h
        cases hslot : managerFindEmptySlot s with
        | none => exact managerFindEmptySlot_none_iff.1 hslot
        | some d => simp [managerAddDevice, hslot, Errno.ENOMEM] at h

/-- The numbering, and with it the whole call, blames a full table only when the table is full. -/
def FailsOnlyWhenFull (cfg : Config) (s : KernelState) (p : DevPtr) (out : RegOutcome) : Prop :=
  (managerNextAvailableInstanceId s (s.heap p) = -Errno.ENOMEM → Full s) ∧
    (Registers cfg s p out → (deviceManage cfg s p out).ret = -Errno.ENOMEM → Full s)

theorem failsOnlyWhenFull_iff {cfg : Config} {s : KernelState} {p : DevPtr} {out : RegOutcome} :
    FailsOnlyWhenFull cfg s p out ↔ (ClimbsToTop s (s.heap p) → Full s) := by
  constructor
  · rintro ⟨hnumber, _⟩ htop
    exact hnumber (managerNextAvailableInstanceId_error_iff.2 htop)
  · intro hroom
    refine ⟨fun h => hroom (managerNextAvailableInstanceId_error_iff.1 h), ?_⟩
    intro hreg h
    rcases deviceManage_enomem hreg h with hnumber | hfull
    · exact hroom (managerNextAvailableInstanceId_error_iff.1 hnumber)
    · exact hfull

/-! ## Runs -/

/-- The climb for a device that is handed to manage does not end in the last slot, unless the table
is full. -/
def Roomy (s : KernelState) : Op → Prop
  | .manage p _ => ClimbsToTop s (s.heap p) → Full s
  | _ => True

/-- Whether a manage call has blamed a full table while a slot was empty. -/
def noteGaveUp (cfg : Config) (s : KernelState) (a : Op) (_ : KernelState) (h : Prop) : Prop :=
  h ∨ ∃ p out, a = .manage p out ∧ ¬ FailsOnlyWhenFull cfg s p out

/-- In every table, the numbering of a device fails only when the table is full if and only if the
climb for its name does not end in the last slot or the table is full.  So a run in which every
manage call finds such a table has no call that blames a full table while a slot is empty. -/
theorem numbering_fails_only_when_full (cfg : Config) :
    (∀ s p out, FailsOnlyWhenFull cfg s p out ↔ (ClimbsToTop s (s.heap p) → Full s)) ∧
      ∀ (s₀ s : KernelState) (h : Prop),
        Reachable (track (exec cfg) (noteGaveUp cfg)) (fun x a => Roomy x.1 a)
          (s₀, False) (s, h) → ¬ h := by
  refine ⟨fun _ _ _ => failsOnlyWhenFull_iff, ?_⟩
  intro s₀ s h hrun
  refine hrun.track_invariant (I := fun x => ¬ x.2) not_false ?_
  rintro s s' h a hgood hroomy _ (hbefore | ⟨p, out, rfl, hearly⟩)
  · exact hgood hbefore
  · exact hearly (failsOnlyWhenFull_iff.2 hroomy)

/-! ## A table that was once full -/

/-- Managing devices that are not in the table, and releasing devices that are. -/
def ManagedAndReleased (s : KernelState) : Op → Prop
  | .manage p _ => ¬ s.Managed p
  | .release p _ => s.Managed p
  | _ => False

/-- 255 devices of one name with numbers of their own, one of another name with number 1, and any
number of devices of that other name without a number. -/
def Sample.crowd : KernelState :=
  { Sample.kernel with
    heap := fun p =>
      if p < 255 then { Sample.device "g" "x" with instanceId := p + 1 }
      else if p = 255 then { Sample.device "g" "a" with instanceId := 1 }
      else Sample.device "g" "a" }

/-- The first `n` slots hold the first `n` devices of the crowd, in order. -/
structure Crowded (n : Nat) (s : KernelState) : Prop where
  devices : ∀ d : Slot, s.devices d = if d.val < n then some d.val else none
  group : ∀ p, (s.heap p).group = (Sample.crowd.heap p).group
  name : ∀ p, (s.heap p).name = (Sample.crowd.heap p).name
  instanceId : ∀ p, (s.heap p).instanceId = (Sample.crowd.heap p).instanceId

theorem Crowded.not_managed {n : Nat} {s : KernelState} (h : Crowded n s) : ¬ s.Managed n := by
  rintro ⟨d, hd⟩
  rw [h.devices d] at hd
  split at hd
  · rename_i hlt
    cases hd
    omega
  · cases hd

theorem Sample.crowd_group_isSome (p : DevPtr) :
    (Sample.crowd.heap p).group.isSome ∧ (Sample.crowd.heap p).name.isSome := by
  unfold Sample.crowd
  dsimp only
  split
  · exact ⟨rfl, rfl⟩
  · split
    · exact ⟨rfl, rfl⟩
    · exact ⟨rfl, rfl⟩

theorem Sample.crowd_instanceId {p : Nat} (h : p < maxManagedDevices) :
    (Sample.crowd.heap p).instanceId ≠ 0 := by
  by_cases hlt : p < 255
  · have hpos : (p : Int) + 1 ≠ 0 := by omega
    simpa [Sample.crowd, hlt] using hpos
  · have heq : p = 255 := by
      simp only [maxManagedDevices] at h
      omega
    simp [Sample.crowd, heq]

/-- The slots before `n` are taken and slot `n` is not. -/
theorem Crowded.findEmptySlot {n : Nat} {s : KernelState} (h : Crowded n s)
    (hn : n < maxManagedDevices) : managerFindEmptySlot s = some ⟨n, hn⟩ := by
  refine searchFrom_eq_some_iff.2 ⟨Nat.zero_le _, by simp [h.devices], ?_⟩
  intro d _ hlt
  have htaken : d.val < n := hlt
  simp [h.devices, htaken]

/-- The next device of the crowd gets the next slot. -/
theorem Crowded.manage {n : Nat} {s : KernelState} (h : Crowded n s) (hn : n < maxManagedDevices) :
    Crowded (n + 1) (deviceManage Sample.config s n Sample.registered).state := by
  have hreg : (deviceRegister Sample.config (s.heap n) Sample.registered).ret = 0 := by
    rcases Sample.crowd_group_isSome n with ⟨hgroup, hname⟩
    exact Sample.deviceRegister_registered _ (by rwa [h.group n]) (by rwa [h.name n])
  have hinst : (s.heap n).instanceId ≠ 0 := by
    rw [h.instanceId n]
    exact Sample.crowd_instanceId hn
  have hempty := h.findEmptySlot hn
  have hroom : ¬ ∀ d, s.devices d ≠ none := fun hfull =>
    hfull ⟨n, hn⟩ (managerFindEmptySlot_some hempty)
  rcases deviceManage_cases Sample.config s n Sample.registered with
    ⟨dev', hkept, ⟨hret, _⟩ | ⟨_, _, _, hnum, _, d, hslot, hst⟩⟩
  · exact absurd ((deviceManage_fails_iff hinst hreg).1 hret) hroom
  · cases hempty.symm.trans hslot
    have hnumber := hnum.eq_given hinst
    rw [hst]
    have hheap : ∀ p, ((s.setDevice n dev').setSlot ⟨n, hn⟩ (some n)).heap p =
        if p = n then dev' else s.heap p := by
      intro p
      by_cases hp : p = n
      · simp [hp]
      · simp [KernelState.setDevice, hp]
    refine ⟨?_, ?_, ?_, ?_⟩
    · intro e
      by_cases he : e = ⟨n, hn⟩
      · subst he
        simp
      · have hne : e.val ≠ n := fun heq => he (Fin.ext heq)
        rw [KernelState.setSlot_devices_of_ne he, KernelState.setDevice_devices, h.devices e]
        by_cases hlt : e.val < n
        · rw [if_pos hlt, if_pos (by omega)]
        · rw [if_neg hlt, if_neg (by omega)]
    · intro p
      rw [hheap, ← h.group p]
      split
      · rename_i hp
        rw [hkept.group, hp]
      · rfl
    · intro p
      rw [hheap, ← h.name p]
      split
      · rename_i hp
        rw [hkept.name, hp]
      · rfl
    · intro p
      rw [hheap, ← h.instanceId p]
      split
      · rename_i hp
        rw [hnumber, hp]
      · rfl

theorem Crowded.reachable :
    ∀ n, n ≤ maxManagedDevices → ∃ s,
      Reachable (exec Sample.config) ManagedAndReleased Sample.crowd s ∧ Crowded n s := by
  intro n
  induction n with
  | zero =>
      intro _
      exact ⟨Sample.crowd, Reachable.refl _,
        ⟨fun _ => rfl, fun _ => rfl, fun _ => rfl, fun _ => rfl⟩⟩
  | succ n ih =>
      intro hn
      rcases ih (by omega) with ⟨s, hreach, hcrowd⟩
      exact ⟨_, hreach.tail (a := .manage n Sample.registered) hcrowd.not_managed rfl,
        hcrowd.manage hn⟩

/-- The table is filled, with instance 1 of `g.a` in the last slot, and the first device leaves.
The next device of that name is refused, although its slot is free and so is number 2. -/
theorem numbering_gives_up :
    ∃ s, Reachable (exec Sample.config) ManagedAndReleased Sample.crowd s ∧
      s.devices 0 = none ∧ (s.heap 256).Named ∧ (s.heap 256).instanceId = 0 ∧
      managerNextAvailableInstanceId s (s.heap 256) = -Errno.ENOMEM ∧
      ¬ FailsOnlyWhenFull Sample.config s 256 Sample.registered := by
  rcases Crowded.reachable maxManagedDevices (le_refl _) with ⟨s, hreach, hcrowd⟩
  have hfull : ∀ d : Slot, s.devices d = some d.val := by
    intro d
    rw [hcrowd.devices d, if_pos d.isLt]
  have hmanaged : s.Managed 0 := ⟨0, hfull 0⟩
  have hguard : ManagedAndReleased s (.release 0 Sample.registered) := hmanaged
  have hreach' := hreach.tail hguard rfl
  have hst : (deviceRelease Sample.config s 0 Sample.registered).state = s.setSlot 0 none := by
    rcases deviceRelease_cases Sample.config s 0 Sample.registered with
      ⟨hnot, _⟩ | ⟨d, _, hd, hst⟩
    · exact absurd hmanaged hnot
    · rw [hfull d, Option.some.injEq] at hd
      rw [hst, show d = 0 from Fin.ext hd]
  rw [hst] at hreach'
  -- names and numbers are as in the crowd
  have hlabel : ∀ p, (s.heap p).label = (Sample.crowd.heap p).label := by
    intro p
    simp [Device.label, Device.groupChars, Device.nameChars, hcrowd.group p, hcrowd.name p]
  have hnamed : (s.heap 256).Named := by
    have hcrowd' : (Sample.crowd.heap 256).Named := by decide +kernel
    simpa [Device.Named, Device.groupChars, Device.nameChars, hcrowd.group, hcrowd.name]
      using hcrowd'
  have htop : ClimbsToTop (s.setSlot 0 none) (s.heap 256) := by
    refine ⟨1, Climbs.first ((at_iff hnamed one_ne_zero).2 ⟨255, ?_, ?_, ?_⟩) ?_⟩
    · exact (KernelState.setSlot_devices_of_ne (by decide)).trans (hfull lastSlot)
    · rw [KernelState.setSlot_heap, hlabel, hlabel]
      decide +kernel
    · rw [KernelState.setSlot_heap, hcrowd.instanceId]
      rfl
    · intro e he hat
      have he' : e.val < 255 := he
      rcases (at_iff hnamed one_ne_zero).1 hat with ⟨p, hp, hsame, _⟩
      have hpe : e.val = p := by
        have hslot := (KernelState.setSlot_none_iff.1 hp).2
        rw [hfull e] at hslot
        exact Option.some.inj hslot
      rw [KernelState.setSlot_heap, hlabel, hlabel] at hsame
      have hx : (Sample.crowd.heap p).label = (Sample.device "g" "x").label := by
        simp [Sample.crowd, ← hpe, he', Device.label, Device.groupChars, Device.nameChars]
      rw [hx] at hsame
      exact absurd hsame (by decide +kernel)
  have hempty : (s.setSlot 0 none).devices 0 = none := KernelState.setSlot_devices_self
  refine ⟨s.setSlot 0 none, hreach', hempty, hnamed, ?_,
    managerNextAvailableInstanceId_error_iff.2 htop, ?_⟩
  · rw [KernelState.setSlot_heap, hcrowd.instanceId]
    rfl
  · intro hgood
    exact failsOnlyWhenFull_iff.1 hgood htop 0 hempty

end Cuddl
