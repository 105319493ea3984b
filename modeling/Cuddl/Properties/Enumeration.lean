import Cuddl.Kernel.System

/-!
# Enumeration and lookup

The searches by name take a resource slot to be populated when its name is not `NULL`; the GET_ID
commands go by the type of a memory region and by the interrupt number of an event source.  Nothing
that `cuddlk_device_manage` checks keeps the two in step.
-/

namespace Cuddl

open Foundation.Machine

/-- Drivers write to the structures of unmanaged devices only. -/
def FillsUnmanaged (s : KernelState) : Op → Prop
  | .fill p _ => ¬ s.Managed p
  | _ => True

/-- Every managed device has a group and a name: `cuddlk_device_manage` checks these. -/
def AllLabelled (s : KernelState) : Prop :=
  ∀ d p, s.devices d = some p → (s.heap p).group.isSome ∧ (s.heap p).name.isSome

/-! ## Managed devices have a group and a name -/

theorem AllLabelled.setDevice {s : KernelState} (h : AllLabelled s) {p : DevPtr} {dev : Device}
    (hdev : s.Managed p → (s.heap p).Kept dev) : AllLabelled (s.setDevice p dev) := by
  intro d q hq
  have hq₀ : s.devices d = some q := hq
  rcases h d q hq₀ with ⟨hgroup, hname⟩
  by_cases hpq : q = p
  · subst hpq
    have hkept := hdev ⟨d, hq₀⟩
    simpa [KernelState.setDevice, hkept.group, hkept.name] using And.intro hgroup hname
  · simpa [KernelState.setDevice, hpq] using And.intro hgroup hname

theorem AllLabelled.sameShape {s s' : KernelState} (h : AllLabelled s) (hshape : SameShape s s') :
    AllLabelled s' := by
  intro d p hd
  rw [hshape.devices] at hd
  rw [hshape.group, hshape.name]
  exact h d p hd

theorem AllLabelled.step {cfg : Config} {s s' : KernelState} {a : Op} (h : AllLabelled s)
    (hguard : FillsUnmanaged s a) (hexec : exec cfg a s = some s') : AllLabelled s' := by
  cases a with
  | fill p dev =>
      cases hexec
      exact h.setDevice fun hp => absurd hp hguard
  | manage p out =>
      cases hexec
      rcases deviceManage_cases cfg s p out with
        ⟨dev', hkept, ⟨_, hst⟩ | ⟨_, hgroup, hname, _, _, d, _, hst⟩⟩
      · rw [hst]
        exact h.setDevice fun _ => hkept
      · rw [hst]
        intro d' q hq
        rcases KernelState.setSlot_some_iff.1 hq with ⟨_, rfl⟩ | ⟨_, hold⟩
        · -- the new device has just been checked
          simpa [KernelState.setDevice, hkept.group, hkept.name] using And.intro hgroup hname
        · exact h.setDevice (fun _ => hkept) d' q hold
  | release p out =>
      cases hexec
      rcases deviceRelease_cases cfg s p out with ⟨_, hst⟩ | ⟨d, _, _, hst⟩
      · rwa [hst]
      · rw [hst]
        intro d' q hq
        exact h d' q (KernelState.setSlot_none_iff.1 hq).2
  | ioctl req io => exact h.sameShape (exec_ioctl_sameShape hexec)
  | freeRefs pid => exact h.sameShape (managerFreeRefsForPid_sameShape hexec)

theorem allLabelled_of_reachable {cfg : Config} {s₀ s : KernelState} (hfresh : s₀.Fresh)
    (hrun : Reachable (exec cfg) FillsUnmanaged s₀ s) : AllLabelled s := by
  refine hrun.invariant ?_ ?_
  · intro d p hd
    simp [hfresh.devices d] at hd
  · intro s s' a h hguard hexec
    exact h.step hguard hexec

/-! ## Enumerating a slot -/

/-- Resource slot `i` of the device in slot `d` is populated: the search without a name stops
there. -/
def FoundByName (s : KernelState) (k : ResourceKind) (d : Slot) (i : Fin k.max) : Prop :=
  ∃ p, s.devices d = some p ∧ resourceMatches ((s.heap p).resource ⟨k, i⟩) none = true

/-- The enumeration returns an id exactly for populated slots, and copies no name from `NULL`. -/
structure EnumeratesSlot (cfg : Config) (s : KernelState) (k : ResourceKind) (v : Int32)
    (io : IoFaults) (d : Slot) (i : Fin k.max) : Prop where
  succeeds_iff : IoctlOk cfg s (.getId k v d i) io ↔ FoundByName s k d i
  copies : (managerIoctl cfg s (.getId k v d i) io).isSome

/-- In a device in slot `d`, the slot is of some type exactly when it has a name. -/
def TypedAsNamed (s : KernelState) (k : ResourceKind) (d : Slot) (i : Fin k.max) : Prop :=
  ∀ p, s.devices d = some p →
    (slotIsEmpty (s.heap p) ⟨k, i⟩ = false ↔ ((s.heap p).resource ⟨k, i⟩).name.isSome)

theorem ioctlGetId_inRange (k : ResourceKind) (d : Slot) (i : Fin k.max) (io : IoFaults)
    (s : KernelState) :
    ioctlGetId k d i io s =
      match s.devices d with
      | none => some ⟨-Errno.ENODEV, s, none⟩
      | some p =>
          if slotIsEmpty (s.heap p) ⟨k, i⟩ then some ⟨-Errno.EINVAL, s, none⟩
          else (resourceIdOf (s.heap p) ⟨k, i⟩).map fun id => replyWith (.resourceId id) io s := by
  have hd : inRange maxManagedDevices (d : Int) = some d := inRange_eq_some_iff.2 rfl
  have hi : inRange k.max (i : Int) = some i := inRange_eq_some_iff.2 rfl
  cases hp : s.devices d with
  | none => simp [ioctlGetId, hd, hi, hp]
  | some p => simp [ioctlGetId, hd, hi, hp]

theorem resourceIdOf_isSome_iff {dev : Device} (hgroup : dev.group.isSome)
    (hname : dev.name.isSome) (x : ResIdx) :
    (resourceIdOf dev x).isSome ↔ (dev.resource x).name.isSome := by
  rcases Option.isSome_iff_exists.1 hgroup with ⟨g, hg⟩
  rcases Option.isSome_iff_exists.1 hname with ⟨n, hn⟩
  cases hr : (dev.resource x).name with
  | none => simp [resourceIdOf, hg, hn, hr]
  | some r => simp [resourceIdOf, hg, hn, hr]

/-- Over every table that `cuddlk_device_manage` has accepted: an in-range slot is enumerated as
it is found by name exactly when the type of the slot says the same as its name. -/
theorem enumeratesSlot_iff (cfg : Config) {s₀ s : KernelState} (hfresh : s₀.Fresh)
    (hrun : Reachable (exec cfg) FillsUnmanaged s₀ s) (k : ResourceKind) (v : Int32)
    (io : IoFaults) (d : Slot) (i : Fin k.max) (hacc : Accepted (.getId k v d i) io)
    (hcopy : io.copyToUserFails = false) :
    EnumeratesSlot cfg s k v io d i ↔ TypedAsNamed s k d i := by
  have hcmd : managerIoctl cfg s (.getId k v d i) io = ioctlGetId k d i io s :=
    managerIoctl_of_accepted hacc
  rw [ioctlGetId_inRange] at hcmd
  cases hd : s.devices d with
  | none =>
      -- there is no device, and both sides say so
      rw [hd] at hcmd
      refine iff_of_true ⟨iff_of_false ?_ ?_, by simp [hcmd]⟩ ?_
      · rintro ⟨res, hres, hzero⟩
        cases hcmd.symm.trans hres
        simp [Errno.ENODEV] at hzero
      · rintro ⟨p, hp, _⟩
        cases hd.symm.trans hp
      · intro p hp
        cases hd.symm.trans hp
  | some p =>
      rw [hd] at hcmd
      rcases allLabelled_of_reachable hfresh hrun d p hd with ⟨hgroup, hname⟩
      have hfound : FoundByName s k d i ↔ ((s.heap p).resource ⟨k, i⟩).name.isSome := by
        simp [FoundByName, hd, resourceMatches, fieldMatches, specified]
      have htyped : TypedAsNamed s k d i ↔
          (slotIsEmpty (s.heap p) ⟨k, i⟩ = false ↔
            ((s.heap p).resource ⟨k, i⟩).name.isSome) := by
        simp [TypedAsNamed, hd]
      rw [htyped]
      cases hempty : slotIsEmpty (s.heap p) ⟨k, i⟩ with
      | true =>
          -- the slot is refused, which is right when it has no name
          simp only [hempty, if_true] at hcmd
          have hfails : ¬ IoctlOk cfg s (.getId k v d i) io := by
            rintro ⟨res, hres, hzero⟩
            cases hcmd.symm.trans hres
            simp [Errno.EINVAL] at hzero
          constructor
          · rintro ⟨hiff, _⟩
            rw [hfound] at hiff
            exact iff_of_false (by simp) (fun h => hfails (hiff.2 h))
          · intro h
            refine ⟨iff_of_false hfails ?_, by simp [hcmd]⟩
            rw [hfound]
            intro hsome
            cases h.2 hsome
      | false =>
          simp only [hempty, Bool.false_eq_true, if_false] at hcmd
          have hcopied := resourceIdOf_isSome_iff hgroup hname ⟨k, i⟩
          constructor
          · rintro ⟨_, hcopies⟩
            rw [hcmd, Option.isSome_map, hcopied] at hcopies
            exact iff_of_true rfl hcopies
          · intro h
            have hsome := h.1 rfl
            rcases Option.isSome_iff_exists.1 (hcopied.2 hsome) with ⟨id, hid⟩
            rw [hid] at hcmd
            refine ⟨iff_of_true ⟨_, hcmd, ?_⟩ (hfound.2 hsome), by simp [hcmd]⟩
            simp [replyWith, hcopy]

instance (s : KernelState) : (a : Op) → Decidable (FillsUnmanaged s a)
  | .fill p _ => inferInstanceAs (Decidable (¬ s.Managed p))
  | .manage _ _ | .release _ _ | .ioctl _ _ | .freeRefs _ => .isTrue trivial

/-- Memory region 0 of slot 0. -/
def Sample.getFirstId : Request :=
  .getId .memregion kernelVersionCode (0 : Slot) (0 : Fin (ResourceKind.max .memregion))

theorem enumeratesSlot_managed :
    EnumeratesSlot Sample.config Sample.managed .memregion kernelVersionCode Sample.noFaults 0
      0 := by
  have hrun : Reachable (exec Sample.config) FillsUnmanaged Sample.kernel Sample.managed :=
    Reachable.head (a := .manage 0 Sample.registered) trivial rfl (Reachable.refl _)
  have hslot : Sample.managed.devices 0 = some 0 := by decide +kernel
  have hacc : Accepted Sample.getFirstId Sample.noFaults :=
    ⟨rfl, by rintro v ⟨⟩; exact ⟨rfl, by decide +kernel⟩⟩
  refine (enumeratesSlot_iff Sample.config Sample.kernel_fresh hrun .memregion kernelVersionCode
    Sample.noFaults 0 0 hacc rfl).2 ?_
  intro p hp
  cases hslot.symm.trans hp
  exact iff_of_true (by decide +kernel) (by decide +kernel)

/-- A device with a region that has a type but no name, and one with a name but no type. -/
def Sample.oddDevice : Device :=
  let typed : Memregion := { Device.zeroed.mem 0 with type := 1 }
  let named : Memregion := { Device.zeroed.mem 0 with name := some (Sample.str "bar") }
  { Sample.device "g" "x" with
    mem := fun i => if i = 0 then typed else if i = 1 then named else Device.zeroed.mem i }

/-- Enumerating the first region copies from `NULL`; the second one is found by name and not
enumerated. -/
theorem not_enumeratesSlot :
    ∃ s, Reachable (exec Sample.config) FillsUnmanaged Sample.kernel s ∧
      (s.devices 0 = some 0 ∧
        (managerIoctl Sample.config s Sample.getFirstId Sample.noFaults).isNone = true ∧
        resourceMatches ((s.heap 0).resource ⟨.memregion, 1⟩) none = true ∧
        ¬ IoctlOk Sample.config s (.getId .memregion kernelVersionCode 0 1) Sample.noFaults) :=
  exists_reachable_of_run [.fill 0 Sample.oddDevice, .manage 0 Sample.registered]
    (by decide +kernel)

end Cuddl
