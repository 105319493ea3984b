import Cuddl.Kernel.System

/-!
# Registration resources

A managed device holds three things: its `unique_name`, its registration with UIO and, in a build
with UDD, its registration with UDD.  A `Book` replays the calls that take and give these back; a
call that does not fit ends the replay.  The books stay open as long as each device is managed
while unmanaged and released while managed (`books_balanced`), and a release of any other device
ends its book at once.
-/

namespace Cuddl

open Foundation.Machine

/-! ## Books -/

/-- What one device holds at a moment. -/
structure Book where
  uio : Bool
  udd : Bool
  /-- The string that was allocated last and has not been freed. -/
  uniqueName : Option (List UInt8)

def Book.empty : Book :=
  { uio := false, udd := false, uniqueName := none }

/-- One call; `none` when it unregisters what is not registered, frees what is not allocated, or
allocates a string while the one before can still be freed. -/
def RegCall.replay : RegCall → Book → Option Book
  | .kasprintf n, b => if b.uniqueName = none then some { b with uniqueName := some n } else none
  | .kfree none, b => some b -- `kfree(NULL)` does nothing
  | .kfree (some n), b =>
      if b.uniqueName = some n then some { b with uniqueName := none } else none
  | .uioRegister ret, b => some (if ret = 0 then { b with uio := true } else b)
  | .uioUnregister, b => if b.uio then some { b with uio := false } else none
  | .uddRegister ret, b => some (if ret = 0 then { b with udd := true } else b)
  | .uddUnregister ret, b =>
      if b.udd then some (if ret = 0 then { b with udd := false } else b) else none

def replayCalls : List RegCall → Book → Option Book
  | [], b => some b
  | c :: cs, b => (c.replay b).bind (replayCalls cs)

theorem replayCalls_append (cs ds : List RegCall) (b : Book) :
    replayCalls (cs ++ ds) b = (replayCalls cs b).bind (replayCalls ds) := by
  induction cs generalizing b with
  | nil => rfl
  | cons c cs ih =>
      cases hc : c.replay b with
      | none => simp [replayCalls, hc]
      | some b' => simp [replayCalls, hc, ih]

/-- The device holds nothing that only its release could give back. -/
structure Book.Closed (b : Book) : Prop where
  uio : b.uio = false
  uniqueName : b.uniqueName = none

/-- The device holds all that a registration takes, and knows the string it holds. -/
structure Book.Open (cfg : Config) (priv : DevicePriv) (b : Book) : Prop where
  uio : b.uio = true
  udd : cfg.useUdd = true → b.udd = true
  uniqueName : ∃ n, b.uniqueName = some n ∧ priv.uniqueName = some n

/-! ## One call of the manager -/

section Calls

variable {cfg : Config} {b : Book}

theorem replay_deviceUnregister {dev : Device} (hopen : b.Open cfg dev.priv) (out : RegOutcome) :
    ∃ b', replayCalls (deviceUnregister cfg dev out).2 b = some b' ∧ b'.Closed := by
  rcases hopen with ⟨huio, hudd, n, hname, hpriv⟩
  cases hcfg : cfg.useUdd with
  | false =>
      refine ⟨{ b with uio := false, uniqueName := none }, ?_, ⟨rfl, rfl⟩⟩
      simp [deviceUnregister, cleanup, hcfg, replayCalls, RegCall.replay, huio, hname, hpriv]
  | true =>
      have hudd' := hudd hcfg
      by_cases hret : out.uddUnregister = 0
      · refine ⟨{ uio := false, udd := false, uniqueName := none }, ?_, ⟨rfl, rfl⟩⟩
        simp [deviceUnregister, cleanup, hcfg, replayCalls, RegCall.replay, huio, hname, hpriv,
          hudd', hret]
      · refine ⟨{ b with uio := false, uniqueName := none }, ?_, ⟨rfl, rfl⟩⟩
        simp [deviceUnregister, cleanup, hcfg, replayCalls, RegCall.replay, huio, hname, hpriv,
          hudd', hret]

/-- A registration that succeeds opens a closed book, one that fails closes it again. -/
theorem replay_deviceRegister (cfg : Config) (dev : Device) (out : RegOutcome) (hb : b.Closed) :
    ∃ b', replayCalls (deviceRegister cfg dev out).calls b = some b' ∧
      ((deviceRegister cfg dev out).ret = 0 →
        b'.Open cfg (deviceRegister cfg dev out).dev.priv) ∧
      ((deviceRegister cfg dev out).ret ≠ 0 → b'.Closed) := by
  rcases b with ⟨uio, udd, held⟩
  rcases hb with ⟨rfl, rfl⟩
  -- the cases follow the error exits of the code, from the first to the last
  cases hgroup : dev.group with
  | none =>
      refine ⟨⟨false, udd, none⟩, ?_, ?_, fun _ => ⟨rfl, rfl⟩⟩
      · simp [deviceRegister, hgroup, cleanup, replayCalls]
      · simp [deviceRegister, hgroup, Errno.EINVAL]
  | some group =>
      cases hname : dev.name with
      | none =>
          refine ⟨⟨false, udd, none⟩, ?_, ?_, fun _ => ⟨rfl, rfl⟩⟩
          · simp [deviceRegister, hgroup, hname, cleanup, replayCalls]
          · simp [deviceRegister, hgroup, hname, Errno.EINVAL]
      | some name =>
          by_cases hasprintf : out.kasprintfFails = true
          · refine ⟨⟨false, udd, none⟩, ?_, ?_, fun _ => ⟨rfl, rfl⟩⟩
            · simp [deviceRegister, hgroup, hname, hasprintf, cleanup, replayCalls]
            · simp [deviceRegister, hgroup, hname, hasprintf, Errno.ENOMEM]
          · by_cases huio : out.uioRegister = 0
            · cases hcfg : cfg.useUdd with
              | false =>
                  refine ⟨⟨true, udd, some (uniqueName group name dev.instanceId)⟩, ?_, ?_, ?_⟩
                  · simp [deviceRegister, hgroup, hname, hasprintf, huio, hcfg, replayCalls,
                      RegCall.replay]
                  · intro _
                    refine ⟨rfl, fun h => absurd (hcfg.symm.trans h) (by simp), _, rfl, ?_⟩
                    simp [deviceRegister, hgroup, hname, hasprintf, huio, hcfg,
                      Device.setUioDev, Device.prepared]
                  · simp [deviceRegister, hgroup, hname, hasprintf, huio, hcfg]
              | true =>
                  by_cases hudd : out.uddRegister = 0
                  · refine ⟨⟨true, true, some (uniqueName group name dev.instanceId)⟩, ?_, ?_, ?_⟩
                    · simp [deviceRegister, hgroup, hname, hasprintf, huio, hcfg, hudd,
                        replayCalls, RegCall.replay]
                    · intro _
                      refine ⟨rfl, fun _ => rfl, _, rfl, ?_⟩
                      simp [deviceRegister, hgroup, hname, hasprintf, huio, hcfg, hudd,
                        Device.setUioDev, Device.prepared]
                    · simp [deviceRegister, hgroup, hname, hasprintf, huio, hcfg, hudd]
                  · -- the ladder takes back the UIO registration and the string
                    refine ⟨⟨false, udd, none⟩, ?_, ?_, fun _ => ⟨rfl, rfl⟩⟩
                    · simp [deviceRegister, hgroup, hname, hasprintf, huio, hcfg, hudd, cleanup,
                        replayCalls, RegCall.replay, Device.setUioDev, Device.prepared]
                    · simp [deviceRegister, hgroup, hname, hasprintf, huio, hcfg, hudd]
            · refine ⟨⟨false, udd, none⟩, ?_, ?_, fun _ => ⟨rfl, rfl⟩⟩
              · simp [deviceRegister, hgroup, hname, hasprintf, huio, cleanup, replayCalls,
                  RegCall.replay, Device.setUioDev, Device.prepared]
              · simp [deviceRegister, hgroup, hname, hasprintf, huio]

/-- A manage call that succeeds opens a closed book, one that fails leaves it closed. -/
theorem replay_deviceManage (cfg : Config) (s : KernelState) (p : DevPtr) (out : RegOutcome)
    (hb : b.Closed) :
    ∃ b', replayCalls (deviceManage cfg s p out).calls b = some b' ∧
      ((deviceManage cfg s p out).ret = 0 →
        b'.Open cfg ((deviceManage cfg s p out).state.heap p).priv) ∧
      ((deviceManage cfg s p out).ret ≠ 0 → b'.Closed) := by
  unfold deviceManage
  dsimp only
  split
  · exact ⟨b, rfl, by simp [Errno.EINVAL], fun _ => hb⟩
  · split
    · exact ⟨b, rfl, by simp [Errno.EINVAL], fun _ => hb⟩
    · split
      · rename_i e herr
        exact ⟨b, rfl, fun h => absurd h (assignInstance_error herr).ne, fun _ => hb⟩
      · rename_i dev _
        rcases replay_deviceRegister cfg dev out hb with ⟨b₁, hcalls, hok, hfail⟩
        split
        · rename_i hret
          exact ⟨b₁, hcalls, fun h => absurd h hret, fun _ => hfail hret⟩
        · rename_i hret
          have hopen := hok (not_not.1 hret)
          cases hslot : managerFindEmptySlot s with
          | none =>
              -- no slot is free: what was registered is given back at once
              rcases replay_deviceUnregister hopen out with ⟨b₂, hundo, hclosed⟩
              refine ⟨b₂, ?_, ?_, fun _ => hclosed⟩
              · simp [managerAddDevice, hslot, Errno.ENOMEM, replayCalls_append, hcalls, hundo]
              · simp [managerAddDevice, hslot, Errno.ENOMEM]
          | some d =>
              refine ⟨b₁, ?_, fun _ => ?_, ?_⟩
              · simp [managerAddDevice, hslot, hcalls]
              · simpa [managerAddDevice, hslot] using hopen
              · simp [managerAddDevice, hslot]

theorem deviceRelease_calls (cfg : Config) (s : KernelState) (p : DevPtr) (out : RegOutcome) :
    (deviceRelease cfg s p out).calls = (deviceUnregister cfg (s.heap p) out).2 := by
  unfold deviceRelease
  dsimp only
  split
  · rfl
  · rfl

/-- Unregistering a device that is not registered with UIO does not replay. -/
theorem replay_deviceUnregister_of_closed (hb : b.Closed) (dev : Device) (out : RegOutcome) :
    replayCalls (deviceUnregister cfg dev out).2 b = none := by
  rcases b with ⟨uio, udd, held⟩
  rcases hb with ⟨rfl, rfl⟩
  cases hcfg : cfg.useUdd with
  | false => simp [deviceUnregister, cleanup, hcfg, replayCalls, RegCall.replay]
  | true =>
      cases udd with
      | false => simp [deviceUnregister, cleanup, hcfg, replayCalls, RegCall.replay]
      | true =>
          by_cases hret : out.uddUnregister = 0
          · simp [deviceUnregister, cleanup, hcfg, replayCalls, RegCall.replay, hret]
          · simp [deviceUnregister, cleanup, hcfg, replayCalls, RegCall.replay, hret]

end Calls

/-! ## The books of a run -/

/-- Replay the calls of a manage or a release in the book of its device. -/
def noteBook (cfg : Config) (s : KernelState) (a : Op) (_ : KernelState)
    (h : DevPtr → Option Book) : DevPtr → Option Book :=
  match a with
  | .manage p out =>
      Function.update h p ((h p).bind (replayCalls (deviceManage cfg s p out).calls))
  | .release p out =>
      Function.update h p ((h p).bind (replayCalls (deviceRelease cfg s p out).calls))
  | _ => h

/-- The run invariant: the book of every device has replayed so far, and it is open as long as the
device is managed. -/
structure Booked (cfg : Config) (s : KernelState) (h : DevPtr → Option Book) : Prop where
  tableInjective : TableInjective s
  book : ∀ p, ∃ b, h p = some b ∧ (s.Managed p → b.Open cfg (s.heap p).priv) ∧
    (¬ s.Managed p → b.Closed)

theorem managed_setSlot_some {s : KernelState} {d : Slot} {p q : DevPtr}
    (hempty : s.devices d = none) (hq : q ≠ p) :
    (s.setSlot d (some p)).Managed q ↔ s.Managed q := by
  constructor
  · rintro ⟨e, he⟩
    rcases KernelState.setSlot_some_iff.1 he with ⟨_, hqp⟩ | ⟨_, he'⟩
    · exact absurd hqp hq
    · exact ⟨e, he'⟩
  · rintro ⟨e, he⟩
    have hed : e ≠ d := by
      rintro rfl
      cases hempty.symm.trans he
    exact ⟨e, KernelState.setSlot_some_iff.2 (Or.inr ⟨hed, he⟩)⟩

theorem managed_setSlot_none {s : KernelState} {d : Slot} {p q : DevPtr}
    (hinj : TableInjective s) (hd : s.devices d = some p) :
    (s.setSlot d none).Managed q ↔ s.Managed q ∧ q ≠ p := by
  constructor
  · rintro ⟨e, he⟩
    rcases KernelState.setSlot_none_iff.1 he with ⟨hed, he'⟩
    refine ⟨⟨e, he'⟩, ?_⟩
    rintro rfl
    exact hed (hinj e d q he' hd)
  · rintro ⟨⟨e, he⟩, hq⟩
    have hed : e ≠ d := by
      rintro rfl
      exact hq (Option.some.inj (he.symm.trans hd))
    exact ⟨e, KernelState.setSlot_none_iff.2 ⟨hed, he⟩⟩

section Steps

variable {cfg : Config} {s s' : KernelState} {h : DevPtr → Option Book} {p : DevPtr}

/-- What keeps the table and the registration data of managed devices keeps the books. -/
theorem Booked.of_devices (hbook : Booked cfg s h) (hdev : s'.devices = s.devices)
    (hpriv : ∀ q, s.Managed q → (s'.heap q).priv = (s.heap q).priv) : Booked cfg s' h := by
  have hmanaged : ∀ q, s'.Managed q ↔ s.Managed q := by
    intro q
    simp only [KernelState.Managed, hdev]
  refine ⟨tableInjective_of_devices hbook.tableInjective hdev, ?_⟩
  intro q
  rcases hbook.book q with ⟨b, hb, hopen, hclosed⟩
  refine ⟨b, hb, ?_, fun hq => hclosed fun hq' => hq ((hmanaged q).2 hq')⟩
  intro hq
  have hq' := (hmanaged q).1 hq
  rw [hpriv q hq']
  exact hopen hq'

theorem Booked.manage (hbook : Booked cfg s h) (hp : ¬ s.Managed p) (out : RegOutcome) :
    Booked cfg (deviceManage cfg s p out).state
      (noteBook cfg s (.manage p out) (deviceManage cfg s p out).state h) := by
  rcases hbook.book p with ⟨b, hb, _, hclosed⟩
  rcases replay_deviceManage cfg s p out (hclosed hp) with ⟨b', hcalls, hok, hfail⟩
  have hown : noteBook cfg s (.manage p out) (deviceManage cfg s p out).state h p = some b' := by
    simp [noteBook, hb, hcalls]
  refine ⟨tableInjective_deviceManage cfg out hbook.tableInjective hp, ?_⟩
  intro q
  -- the device itself has a new book; the others are where they were
  by_cases hq : q = p
  · subst hq
    refine ⟨b', hown, ?_, ?_⟩
    · intro hq
      rcases deviceManage_cases cfg s q out with
        ⟨dev', _, ⟨hret, hst⟩ | ⟨hret, _, _, _, _, d, _, hst⟩⟩
      · rw [hst] at hq
        exact absurd hq hp
      · exact hok hret
    · intro hq
      refine hfail ?_
      intro hret
      rcases deviceManage_cases cfg s q out with
        ⟨dev', _, ⟨hret', hst⟩ | ⟨_, _, _, _, _, d, _, hst⟩⟩
      · exact hret' hret
      · rw [hst] at hq
        exact hq ⟨d, KernelState.setSlot_devices_self⟩
  · rcases hbook.book q with ⟨c, hc, hopen, hclosed'⟩
    have hsame : ((deviceManage cfg s p out).state.Managed q ↔ s.Managed q) ∧
        (deviceManage cfg s p out).state.heap q = s.heap q := by
      rcases deviceManage_cases cfg s p out with
        ⟨dev', _, ⟨_, hst⟩ | ⟨_, _, _, _, _, d, hslot, hst⟩⟩
      · rw [hst]
        exact ⟨Iff.rfl, by simp [KernelState.setDevice, hq]⟩
      · rw [hst]
        have hempty : (s.setDevice p dev').devices d = none := managerFindEmptySlot_some hslot
        exact ⟨managed_setSlot_some hempty hq, by simp [KernelState.setDevice, hq]⟩
    refine ⟨c, by simp [noteBook, hq, hc], ?_, ?_⟩
    · rw [hsame.1, hsame.2]
      exact hopen
    · rw [hsame.1]
      exact hclosed'

theorem Booked.release (hbook : Booked cfg s h) (hp : s.Managed p) (out : RegOutcome) :
    Booked cfg (deviceRelease cfg s p out).state
      (noteBook cfg s (.release p out) (deviceRelease cfg s p out).state h) := by
  rcases deviceRelease_cases cfg s p out with ⟨hnot, _⟩ | ⟨d, _, hd, hst⟩
  · exact absurd hp hnot
  · refine ⟨tableInjective_deviceRelease cfg out hbook.tableInjective, ?_⟩
    intro q
    rcases hbook.book q with ⟨b, hb, hopen, hclosed⟩
    have hmanaged := managed_setSlot_none (q := q) hbook.tableInjective hd
    rw [hst]
    by_cases hq : q = p
    · subst hq
      rcases replay_deviceUnregister (hopen hp) out with ⟨b', hcalls, hclosed'⟩
      refine ⟨b', by simp [noteBook, hb, deviceRelease_calls, hcalls], ?_, fun _ => hclosed'⟩
      intro hq
      exact absurd rfl (hmanaged.1 hq).2
    · refine ⟨b, by simp [noteBook, hq, hb], ?_, ?_⟩
      · intro hq'
        exact hopen (hmanaged.1 hq').1
      · intro hq'
        exact hclosed fun h => hq' (hmanaged.2 ⟨h, hq⟩)

theorem Booked.step {a : Op} (hbook : Booked cfg s h) (hguard : InTurn s a)
    (hexec : exec cfg a s = some s') : Booked cfg s' (noteBook cfg s a s' h) := by
  cases a with
  | fill p dev =>
      cases hexec
      refine hbook.of_devices rfl ?_
      intro q hq
      have hne : q ≠ p := by
        rintro rfl
        exact hguard hq
      simp [KernelState.setDevice, hne]
  | manage p out =>
      cases hexec
      exact hbook.manage hguard out
  | release p out =>
      cases hexec
      exact hbook.release hguard out
  | ioctl req io =>
      have hshape := exec_ioctl_sameShape hexec
      exact hbook.of_devices hshape.devices fun q _ => hshape.priv q
  | freeRefs pid =>
      have hshape := managerFreeRefsForPid_sameShape hexec
      exact hbook.of_devices hshape.devices fun q _ => hshape.priv q

end Steps

theorem booked_of_reachable {cfg : Config} {s₀ s : KernelState} {h : DevPtr → Option Book}
    (hfresh : s₀.Fresh)
    (hrun : Reachable (track (exec cfg) (noteBook cfg)) (fun x a => InTurn x.1 a)
      (s₀, fun _ => some Book.empty) (s, h)) : Booked cfg s h := by
  refine hrun.track_invariant (I := fun x => Booked cfg x.1 x.2) ⟨hfresh.tableInjective, ?_⟩ ?_
  · intro p
    refine ⟨Book.empty, rfl, ?_, fun _ => ⟨rfl, rfl⟩⟩
    rintro ⟨d, hd⟩
    simp [hfresh.devices d] at hd
  · intro s s' h a hbook hguard hexec
    exact Booked.step hbook hguard hexec

/-- As long as each device is managed while unmanaged and released while managed, every call for a
registration resource fits: a managed device holds one string and its registrations, any other
device holds neither a string nor a registration with UIO.  A release of a device that is not
managed unregisters what is not registered. -/
theorem books_balanced (cfg : Config) {s₀ s : KernelState} {h : DevPtr → Option Book}
    (hfresh : s₀.Fresh)
    (hrun : Reachable (track (exec cfg) (noteBook cfg)) (fun x a => InTurn x.1 a)
      (s₀, fun _ => some Book.empty) (s, h)) :
    (∀ p, ∃ b, h p = some b ∧ (s.Managed p → b.Open cfg (s.heap p).priv) ∧
      (¬ s.Managed p → b.Closed)) ∧
    ∀ p out, ¬ s.Managed p →
      (h p).bind (replayCalls (deviceRelease cfg s p out).calls) = none := by
  have hbook := booked_of_reachable hfresh hrun
  refine ⟨hbook.book, ?_⟩
  intro p out hp
  rcases hbook.book p with ⟨b, hb, _, hclosed⟩
  rw [hb, Option.bind_some, deviceRelease_calls]
  exact replay_deviceUnregister_of_closed (hclosed hp) (s.heap p) out

/-- Device 0 is managed, device 1 fails to register, and device 0 is released. -/
theorem books_balanced_released :
    ∃ x : KernelState × (DevPtr → Option Book),
      Reachable (track (exec Sample.config) (noteBook Sample.config))
        (fun x a => InTurn x.1 a) (Sample.kernel, fun _ => some Book.empty) x ∧
      ¬ x.1.Managed 0 ∧ ∃ b, x.2 0 = some b ∧ b.Closed := by
  have hrun : ∃ x : KernelState × (DevPtr → Option Book),
      Reachable (track (exec Sample.config) (noteBook Sample.config))
        (fun x a => InTurn x.1 a) (Sample.kernel, fun _ => some Book.empty) x ∧
      ¬ x.1.Managed 0 :=
    exists_reachable_of_run
      [.manage 0 Sample.registered,
        .manage 1 { Sample.registered with uioRegister := -Errno.EBUSY },
        .release 0 Sample.registered]
      (by decide +kernel)
  rcases hrun with ⟨⟨s, h⟩, hreach, hnot⟩
  rcases (books_balanced Sample.config Sample.kernel_fresh hreach).1 0 with ⟨b, hb, _, hclosed⟩
  exact ⟨(s, h), hreach, hnot, b, hb, hclosed hnot⟩

/-- Manage and release calls on any device. -/
def ManagesOrReleases : Op → Prop
  | .manage _ _ | .release _ _ => True
  | _ => False

instance : (a : Op) → Decidable (ManagesOrReleases a)
  | .manage _ _ | .release _ _ => .isTrue trivial
  | .fill _ _ | .ioctl _ _ | .freeRefs _ => .isFalse id

/-- A device whose registration with UIO has failed is unregistered from it by its release. -/
theorem not_books_balanced :
    ∃ x : KernelState × (DevPtr → Option Book),
      Reachable (track (exec Sample.config) (noteBook Sample.config))
        (fun _ a => ManagesOrReleases a) (Sample.kernel, fun _ => some Book.empty) x ∧
      (x.2 0).isNone = true :=
  exists_reachable_of_run
    [.manage 0 { Sample.registered with uioRegister := -Errno.EBUSY },
      .release 0 Sample.registered]
    (by decide +kernel)

end Cuddl
