import Cuddl.Kernel.System
import Cuddl.User.Queries

/-!
# What a token refers to

A token is a pair of slot numbers.  It refers to the device of the resource it was given out for
until another device is managed into that device's slot (`token_refers`).  Once that has happened
the old token works on the new device (`token_reused`).
-/

namespace Cuddl

open Foundation Foundation.Machine

/-! ## Obtaining and using a token -/

/-- A CLAIM or INFO that succeeds and returns `t`. -/
def Obtains (cfg : Config) (s : KernelState) {k : ResourceKind} (req : Request) (io : IoFaults)
    (res : IoctlResult) (t : Token k) : Prop :=
  ((∃ rt data, req = .claim k rt data) ∨ ∃ data, req = .info k data) ∧
    managerIoctl cfg s req io = some res ∧ res.ret = 0 ∧ res.reply.bind (Reply.token? k) = some t

/-- The device slot that a request addresses by its number. -/
def Request.deviceSlot? : Request → Option Int
  | .release _ _ data => some data.deviceIndex
  | .eventsrcIsEnabled _ deviceIndex _ => some deviceIndex
  | .getId _ _ deviceSlot _ => some deviceSlot
  | .getDriverInfo _ deviceSlot | .getHwInfo _ deviceSlot => some deviceSlot
  | _ => none

/-- What such a request returns when it is about device `p` with the structure `dev`. -/
def Request.report (p : DevPtr) (dev : Device) (io : IoFaults) :
    Request → Option (Int × Option Reply)
  | .release _ _ _ => some (0, none)
  | .eventsrcIsEnabled _ _ _ => some (io.isEnabled p, none)
  | .getId k _ _ resourceSlot =>
      (inRange k.max resourceSlot).bind fun i =>
        (resourceIdOf dev ⟨k, i⟩).map fun id => (0, some (.resourceId id))
  | .getDriverInfo _ _ => some (0, some (.infoStr (infoString dev.driverInfo)))
  | .getHwInfo _ _ => some (0, some (.infoStr (infoString dev.hwInfo)))
  | _ => none

/-- The request answers about `p`, and touches no other device. -/
structure ActsOn (p : DevPtr) (s : KernelState) (req : Request) (io : IoFaults)
    (res : IoctlResult) : Prop where
  report : req.report p (s.heap p) io = some (res.ret, res.reply)
  devices : res.state.devices = s.devices
  heap : ∀ q, q ≠ p → res.state.heap q = s.heap q

theorem heap_resourceDecrRefCount_of_ne (s : KernelState) {p q : DevPtr} (x : ResIdx)
    (h : q ≠ p) : (resourceDecrRefCount s p x).2.heap q = s.heap q := by
  unfold resourceDecrRefCount
  split
  · rfl
  · unfold KernelState.dropRef
    rw [withOwner_heap, KernelState.setRefCount_heap, if_neg h]

/-- A request for a slot fails and changes nothing, or acts on the device in that slot. -/
theorem managerIoctl_actsOn {cfg : Config} {s : KernelState} {d : Slot} {req : Request}
    {io : IoFaults} {res : IoctlResult} (hslot : req.deviceSlot? = some (d : Int))
    (h : managerIoctl cfg s req io = some res) :
    (res.ret < 0 ∧ res.state = s) ∨ ∃ p, s.devices d = some p ∧ ActsOn p s req io res := by
  have hcast : ∀ {d' : Slot}, (d : Int) = (d' : Int) → d' = d := by
    intro d' heq
    exact Fin.ext (by omega)
  rcases managerIoctl_cases h with ⟨_, hneg, hst, _⟩ | ⟨_, hcmd⟩
  · exact Or.inl ⟨hneg, hst⟩
  · cases req with
    | release k rt data =>
        cases hcmd
        have hd : data.deviceIndex = d := Option.some.inj hslot
        rcases ioctlRelease_cases k data s with
          ⟨hneg, hst, _⟩ | ⟨d', p, i, hd', _, hp, heq⟩
        · exact Or.inl ⟨hneg, hst⟩
        · cases hcast (hd.symm.trans hd')
          rw [heq]
          exact Or.inr ⟨p, hp, rfl, by simp, fun q hq => heap_resourceDecrRefCount_of_ne s _ hq⟩
    | eventsrcIsEnabled v deviceIndex resourceIndex =>
        cases hcmd
        have hd : deviceIndex = d := Option.some.inj hslot
        rcases ioctlEventsrcIsEnabled_cases deviceIndex resourceIndex io s with
          ⟨hst, hneg | ⟨d', p, hd', hp, heq⟩⟩
        · exact Or.inl ⟨hneg, hst⟩
        · cases hcast (hd.symm.trans hd')
          rw [heq]
          exact Or.inr ⟨p, hp, rfl, rfl, fun _ _ => rfl⟩
    | getId k v deviceSlot resourceSlot =>
        have hd : deviceSlot = d := Option.some.inj hslot
        have hid : ioctlGetId k deviceSlot resourceSlot io s = some res := hcmd
        rcases ioctlGetId_cases hid with hfail | ⟨d', i, p, id, hd', hi, hp, hid', rfl⟩
        · exact Or.inl hfail
        · cases hcast (hd.symm.trans hd')
          refine Or.inr ⟨p, hp, ?_, rfl, fun _ _ => rfl⟩
          simp [Request.report, inRange_eq_some_iff.2 hi, hid']
    | getDriverInfo v deviceSlot =>
        cases hcmd
        have hd : deviceSlot = d := Option.some.inj hslot
        rcases ioctlInfoString_cases Device.driverInfo deviceSlot io s with
          hfail | ⟨d', p, hd', hp, heq⟩
        · exact Or.inl hfail
        · cases hcast (hd.symm.trans hd')
          rw [heq]
          exact Or.inr ⟨p, hp, rfl, rfl, fun _ _ => rfl⟩
    | getHwInfo v deviceSlot =>
        cases hcmd
        have hd : deviceSlot = d := Option.some.inj hslot
        rcases ioctlInfoString_cases Device.hwInfo deviceSlot io s with
          hfail | ⟨d', p, hd', hp, heq⟩
        · exact Or.inl hfail
        · cases hcast (hd.symm.trans hd')
          rw [heq]
          exact Or.inr ⟨p, hp, rfl, rfl, fun _ _ => rfl⟩
    | _ => cases hslot

/-! ## Between obtaining and using -/

/-- No device but `D` is put into slot `d`. -/
def KeepsSlot (cfg : Config) (D : DevPtr) (d : Slot) (s : KernelState) (a : Op) : Prop :=
  ∀ q out, a = .manage q out → q ≠ D → (deviceManage cfg s q out).ret = 0 →
    managerFindEmptySlot s ≠ some d

theorem slot_of_reachable {cfg : Config} {D : DevPtr} {d : Slot} {s s' : KernelState}
    (hrun : Reachable (exec cfg) (KeepsSlot cfg D d) s s')
    (hstart : s.devices d = some D ∨ s.devices d = none) :
    s'.devices d = some D ∨ s'.devices d = none := by
  refine hrun.invariant (I := fun s => s.devices d = some D ∨ s.devices d = none) hstart ?_
  intro s s' a h hguard hexec
  -- the table changes when a device is managed, which the guard restricts, or released
  rcases exec_devices hexec with
    hsame | ⟨q, out, e, rfl, hret, hslot, hdev⟩ | ⟨q, out, e, rfl, _, hdev⟩
  · rwa [hsame]
  · rw [hdev]
    by_cases he : d = e
    · subst he
      have hq : q = D := by
        by_contra hne
        exact hguard q out rfl hne hret hslot
      exact Or.inl (by simp [hq])
    · simpa [he] using h
  · rw [hdev]
    by_cases he : d = e
    · exact Or.inr (by simp [he])
    · simpa [he] using h

theorem Obtains.sameDevices {cfg : Config} {s : KernelState} {k : ResourceKind} {req : Request}
    {io : IoFaults} {res : IoctlResult} {t : Token k} (h : Obtains cfg s req io res t) :
    res.state.devices = s.devices :=
  (managerIoctl_sameShape h.2.1).devices

/-- The use of a slot number whose slot holds `D` or nothing. -/
theorem managerIoctl_actsOn_of_slot {cfg : Config} {s : KernelState} {D : DevPtr} {d : Slot}
    {req : Request} {io : IoFaults} {res : IoctlResult}
    (hd : s.devices d = some D ∨ s.devices d = none) (hslot : req.deviceSlot? = some (d : Int))
    (h : managerIoctl cfg s req io = some res) :
    (res.ret < 0 ∧ res.state = s) ∨ (s.devices d = some D ∧ ActsOn D s req io res) := by
  rcases managerIoctl_actsOn hslot h with hfail | ⟨p, hp, hacts⟩
  · exact Or.inl hfail
  · rcases hd with hD | hnone
    · cases hD.symm.trans hp
      exact Or.inr ⟨hD, hacts⟩
    · simp [hnone] at hp

/-! ## Two ioctls in a row -/

/-- An info call that succeeds returns the token of the pair that the lookup finds. -/
theorem getInfoForId_of_ret_zero {cfg : Config} {k : ResourceKind} {pid : Pid} {id : ResourceId}
    {io : IoFaults} {sys : SysFaults} {s : KernelState} {info : CallResult}
    (h : getInfoForId cfg k pid id io sys s = some info) (hret : info.ret = 0) :
    ∃ d D i, managerLookup s k id = some (d, D, i) ∧ info.state = s ∧
      info.reply.bind (Reply.token? k) = some ⟨d, i⟩ := by
  rcases managerCall_of_ret_zero h hret with ⟨res, hres, hzero, hst, hreply⟩
  rcases managerIoctl_cases hres with ⟨_, hneg, _, _⟩ | ⟨_, hcmd⟩
  · omega
  · cases hcmd
    let data : ClaimData := { versionCode := userVersionCode, id := id, pid := pid, options := 0 }
    rcases ioctlClaimInfo_info_cases cfg k data io s with
      ⟨_, hneg, _⟩ | ⟨d, D, i, hfind, ⟨_, hneg, _⟩ | ⟨_, heq⟩⟩
    · exact absurd hzero hneg.ne
    · exact absurd hzero hneg.ne
    · refine ⟨d, D, i, hfind, by rw [hst, heq], ?_⟩
      rw [hreply, heq]
      exact token?_infoReply cfg _ _ _

theorem SlotQuery.deviceSlot?_request (q : SlotQuery) (k : ResourceKind) (d i : Int) :
    (q.request k d i).deviceSlot? = some d := by
  cases q with
  | resourceId => rfl
  | driverInfo => rfl
  | hwInfo => rfl

theorem SlotQuery.not_writes (q : SlotQuery) (k : ResourceKind) (d i : Int) :
    ¬ (q.request k d i).Writes := by
  cases q with
  | resourceId => exact id
  | driverInfo => exact id
  | hwInfo => exact id

/-- A query by id reads the device that its INFO found, or fails; it writes nothing. -/
theorem slotQueryForId_refers {cfg : Config} {q : SlotQuery} {k : ResourceKind} {pid : Pid}
    {id : ResourceId} {first second : IoFaults × SysFaults}
    {window : KernelState → Option KernelState} {s : KernelState} {info r : CallResult}
    {d : Slot} {D : DevPtr} {i : Fin k.max}
    (hinfo : getInfoForId cfg k pid id first.1 first.2 s = some info) (hzero : info.ret = 0)
    (hfind : managerLookup s k id = some (d, D, i))
    (hwindow : ∀ s', window s = some s' → Reachable (exec cfg) (KeepsSlot cfg D d) s s')
    (h : slotQueryForId cfg q k pid id first second window s = some r) :
    ∃ s', window s = some s' ∧ r.state = s' ∧
      (r.ret = 0 → s'.devices d = some D ∧
        (q.request k d i).report D (s'.heap D) second.1 = some (0, r.reply)) := by
  rcases getInfoForId_of_ret_zero hinfo hzero with ⟨d', D', i', hfind', hst, htoken⟩
  cases hfind.symm.trans hfind'
  have hbind : (window s).bind (fun s' =>
      managerCall cfg s' (q.request k d i) second.1 second.2) = some r := by
    simpa [slotQueryForId, hinfo, hzero, htoken, hst] using h
  rcases Option.bind_eq_some_iff.1 hbind with ⟨s', hs', hcall⟩
  refine ⟨s', hs', ?_, ?_⟩
  · rcases managerCall_state hcall with hsame | ⟨res, hres, hst'⟩
    · exact hsame
    · rw [hst', managerIoctl_state_of_not_writes (q.not_writes k d i) hres]
  · intro hret
    rcases managerCall_of_ret_zero hcall hret with ⟨res, hres, hres_zero, _, hreply⟩
    -- whatever happens in the window, the slot holds `D` or nothing
    have hslot := slot_of_reachable (hwindow s' hs') (Or.inl (managerLookup_eq_some hfind).1)
    rcases managerIoctl_actsOn_of_slot hslot (q.deviceSlot?_request k d i) hres with
      ⟨hneg, _⟩ | ⟨hD, hacts⟩
    · omega
    · refine ⟨hD, ?_⟩
      rw [hacts.report, hres_zero, hreply]

/-! ## The identity of tokens -/

/-- A token obtained for a resource of device `D` acts on and reports about `D`, or fails without a
trace, as long as no other device has been put into the slot of `D`; and so do the queries that
obtain a token and use it. -/
theorem token_refers (cfg : Config) :
    (∀ {s s' : KernelState} {k : ResourceKind} {t : Token k} {req req' : Request}
      {io io' : IoFaults} {res res' : IoctlResult} {D : DevPtr},
      Obtains cfg s req io res t → s.devices t.deviceIndex = some D →
      Reachable (exec cfg) (KeepsSlot cfg D t.deviceIndex) res.state s' →
      req'.deviceSlot? = some (t.deviceIndex : Int) →
      managerIoctl cfg s' req' io' = some res' →
      (res'.ret < 0 ∧ res'.state = s') ∨
        (s'.devices t.deviceIndex = some D ∧ ActsOn D s' req' io' res')) ∧
    (∀ {q : SlotQuery} {k : ResourceKind} {pid : Pid} {id : ResourceId}
      {first second : IoFaults × SysFaults} {window : KernelState → Option KernelState}
      {s : KernelState} {info r : CallResult} {d : Slot} {D : DevPtr} {i : Fin k.max},
      getInfoForId cfg k pid id first.1 first.2 s = some info → info.ret = 0 →
      managerLookup s k id = some (d, D, i) →
      (∀ s', window s = some s' → Reachable (exec cfg) (KeepsSlot cfg D d) s s') →
      slotQueryForId cfg q k pid id first second window s = some r →
      ∃ s', window s = some s' ∧ r.state = s' ∧
        (r.ret = 0 → s'.devices d = some D ∧
          (q.request k d i).report D (s'.heap D) second.1 = some (0, r.reply))) := by
  constructor
  · intro s s' k t req req' io io' res res' D hobtain hD hrun huse hres
    have hstart : res.state.devices t.deviceIndex = some D := by
      rw [hobtain.sameDevices, hD]
    exact managerIoctl_actsOn_of_slot (slot_of_reachable hrun (Or.inl hstart)) huse hres
  · intro q k pid id first second window s info r d D i hinfo hzero hfind hwindow h
    exact slotQueryForId_refers hinfo hzero hfind hwindow h

theorem obtains_managed :
    ∃ res, Obtains Sample.config Sample.managed (Sample.infoAny 1) Sample.noFaults res
      (⟨0, 0⟩ : Token .memregion) := by
  have hcall : (managerIoctl Sample.config Sample.managed (Sample.infoAny 1)
      Sample.noFaults).any (fun res => decide (res.ret = 0 ∧
        res.reply.bind (Reply.token? .memregion) = some ⟨0, 0⟩)) = true := by
    decide +kernel
  rcases (Option.any_eq_true _ _).1 hcall with ⟨res, hres, htest⟩
  rcases of_decide_eq_true htest with ⟨hzero, htoken⟩
  exact ⟨res, Or.inr ⟨_, rfl⟩, hres, hzero, htoken⟩

/-- Device 1 joins in slot 1 while a token for slot 0 is out. -/
theorem token_refers_managed :
    (∃ res', managerIoctl Sample.config Sample.managedBoth
        (.getDriverInfo kernelVersionCode 0) Sample.noFaults = some res' ∧
      ((res'.ret < 0 ∧ res'.state = Sample.managedBoth) ∨
        (Sample.managedBoth.devices 0 = some 0 ∧
          ActsOn 0 Sample.managedBoth (.getDriverInfo kernelVersionCode 0) Sample.noFaults
            res'))) ∧
    ∃ r, getDriverInfoForMemregionId Sample.config 1 ⟨[], [], [], 0⟩
        (Sample.noFaults, ⟨none, none⟩) (Sample.noFaults, ⟨none, none⟩) some Sample.managed
          = some r ∧
      r.state = Sample.managed := by
  constructor
  · rcases obtains_managed with ⟨res, hobtain⟩
    have hstate : res.state = Sample.managed := managerIoctl_info_state rfl hobtain.2.1
    have hguard : KeepsSlot Sample.config 0 0 Sample.managed (.manage 1 Sample.registered) := by
      intro q out _ _ _
      decide +kernel
    have hrun : Reachable (exec Sample.config)
        (KeepsSlot Sample.config 0 (⟨0, 0⟩ : Token .memregion).deviceIndex) res.state
        Sample.managedBoth := by
      rw [hstate]
      exact Reachable.head hguard rfl (Reachable.refl _)
    have hcall : (managerIoctl Sample.config Sample.managedBoth
        (.getDriverInfo kernelVersionCode 0) Sample.noFaults).isSome = true := by
      decide +kernel
    rcases Option.isSome_iff_exists.1 hcall with ⟨res', hres'⟩
    have hD : Sample.managed.devices (⟨0, 0⟩ : Token .memregion).deviceIndex = some 0 := by
      decide +kernel
    have huse : (Request.getDriverInfo kernelVersionCode 0).deviceSlot? =
        some (((⟨0, 0⟩ : Token .memregion).deviceIndex : Slot) : Int) := rfl
    have hacts : (res'.ret < 0 ∧ res'.state = Sample.managedBoth) ∨
        (Sample.managedBoth.devices (⟨0, 0⟩ : Token .memregion).deviceIndex = some 0 ∧
          ActsOn 0 Sample.managedBoth (.getDriverInfo kernelVersionCode 0) Sample.noFaults res') :=
      (token_refers Sample.config).1 hobtain hD hrun huse hres'
    have hindex : (⟨0, 0⟩ : Token .memregion).deviceIndex = 0 := rfl
    rw [hindex] at hacts
    exact ⟨res', hres', hacts⟩
  · have hinfo : ∃ info, getInfoForId Sample.config .memregion 1 ⟨[], [], [], 0⟩
        Sample.noFaults ⟨none, none⟩ Sample.managed = some info ∧ info.ret = 0 := by
      have hcall : (getInfoForId Sample.config .memregion 1 ⟨[], [], [], 0⟩ Sample.noFaults
          ⟨none, none⟩ Sample.managed).any (fun info => decide (info.ret = 0)) = true := by
        decide +kernel
      rcases (Option.any_eq_true _ _).1 hcall with ⟨info, hinfo, hzero⟩
      exact ⟨info, hinfo, of_decide_eq_true hzero⟩
    rcases hinfo with ⟨info, hinfo, hzero⟩
    have hlookup : managerLookup Sample.managed .memregion ⟨[], [], [], 0⟩ = some (0, 0, 0) := by
      decide +kernel
    have hcall : (getDriverInfoForMemregionId Sample.config 1 ⟨[], [], [], 0⟩
        (Sample.noFaults, ⟨none, none⟩) (Sample.noFaults, ⟨none, none⟩) some
          Sample.managed).isSome = true := by
      decide +kernel
    rcases Option.isSome_iff_exists.1 hcall with ⟨r, hr⟩
    have hwindow : ∀ s', some Sample.managed = some s' →
        Reachable (exec Sample.config) (KeepsSlot Sample.config 0 0) Sample.managed s' := by
      intro s' hs'
      rw [← Option.some.inj hs']
      exact Reachable.refl _
    rcases (token_refers Sample.config).2 hinfo hzero hlookup hwindow hr with ⟨s', hs', hst, _⟩
    exact ⟨r, hr, hst.trans (Option.some.inj hs').symm⟩

/-- Process 1 has a token for device 0.  The device goes, device 1 comes and is claimed by process
2; the release of the old token drops that claim. -/
theorem token_reused :
    ∃ res, Obtains Sample.config Sample.managed (Sample.infoAny 1) Sample.noFaults res
        (⟨0, 0⟩ : Token .memregion) ∧ Sample.managed.devices 0 = some 0 ∧
      ∃ s', Reachable (exec Sample.config) (fun _ _ => True) res.state s' ∧
        ((s'.heap 1).refCount ⟨.memregion, 0⟩ = 1 ∧
          (managerIoctl Sample.config s' (Sample.releaseFirst 1) Sample.noFaults).any
            (fun res' => decide (res'.ret = 0 ∧
              (res'.state.heap 1).refCount ⟨.memregion, 0⟩ = 0)) = true) := by
  rcases obtains_managed with ⟨res, hobtain⟩
  have hstate : res.state = Sample.managed := managerIoctl_info_state rfl hobtain.2.1
  refine ⟨res, hobtain, by decide +kernel, ?_⟩
  rw [hstate]
  exact exists_reachable_of_run
    [ .release 0 Sample.registered
    , .manage 1 Sample.registered
    , .ioctl (Sample.claimAny 2 0) Sample.noFaults ] (by decide +kernel)

end Cuddl
