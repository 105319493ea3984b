import Cuddl.Kernel.Simulation

/-!
# Exclusive claims

A claim is outstanding from the CLAIM that succeeds until its own process releases the token or is
cleaned up after; `noteOutstanding` keeps the book from what the requests return.

A count is all that guards a resource without the SHARED flag, and RELEASE lowers the count of any
token for any sender.  So two processes can come to claim one resource (`not_exclusive`), and
exclusion rests on the clients: it holds as long as every RELEASE that would lower the count of a
claimed resource comes from a process that is on the list for it (`exclusive_of_reachable`).
-/

namespace Cuddl

open Foundation Foundation.Machine

/-! ## Outstanding claims -/

def noteOutstanding (cfg : Config) (s : KernelState) :
    Op → KernelState → Multiset (Res × Pid) → Multiset (Res × Pid)
  | .ioctl (.claim k rt data) io, _, out =>
      match claimedToken cfg s k rt data io with
      | none => out
      | some t => (t.res, data.pid) ::ₘ out
  | .ioctl (.release k rt data) io, _, out =>
      match data.token? k with
      | none => out
      | some t =>
          if IoctlOk cfg s (.release k rt data) io then out.erase (t.res, data.pid) else out
  | .freeRefs pid, _, out => out.filter fun x => x.2 ≠ pid
  | _, _, out => out

/-- The steps of clients that never use HOSTILE or the decrement, while no device is removed and
no copy fails.  Devices may still be added. -/
def ClientStep (s : KernelState) : Op → Prop
  | .fill p _ => ¬ s.Managed p
  | .manage p _ => ¬ s.Managed p ∧ (s.heap p).Unclaimed
  | .release _ _ => False
  | .ioctl (.claim _ _ data) io =>
      data.hostile = false ∧ io.copyFromUserFails = false ∧ io.copyToUserFails = false
  | .ioctl (.info _ _) io => io.copyFromUserFails = false ∧ io.copyToUserFails = false
  | .ioctl (.release _ _ _) io => io.copyFromUserFails = false
  | .ioctl _ _ => False
  | .freeRefs _ => True

/-- The release names nothing, a shared or unclaimed resource, or one its sender holds. -/
def ReleaseData.Covered (data : ReleaseData) (k : ResourceKind) (s : KernelState) : Prop :=
  ∀ t ∈ data.token? k, ∀ p ∈ s.devices t.deviceIndex,
    (s.heap p).shared ⟨k, t.resourceIndex⟩ = true ∨
      (s.heap p).refCount ⟨k, t.resourceIndex⟩ = 0 ∨ ⟨t, data.pid⟩ ∈ s.refs k

def CooperativeStep (s : KernelState) (a : Op) : Prop :=
  ClientStep s a ∧ ∀ r ∈ a.releaseData?, r.2.Covered r.1 s

/-! ## The invariant -/

def KernelState.SharedAt (s : KernelState) (r : Res) : Prop :=
  ∃ p, s.devices r.1 = some p ∧ (s.heap p).shared r.2 = true

/-- The book agrees with the lists, and a resource that is not shared is in balance and claimed at
most once. -/
structure Exclusive (x : KernelState × Multiset (Res × Pid)) : Prop where
  tableInjective : TableInjective x.1
  outstanding : x.2 = x.1.ledger.held
  balancedAt : ∀ r, ¬ x.1.SharedAt r → x.1.ledger.BalancedAt r
  count_le_one : ∀ r, ¬ x.1.SharedAt r → x.1.ledger.count r ≤ 1

theorem sharedAt_of_sameShape {s s' : KernelState} (h : SameShape s s') (r : Res) :
    s'.SharedAt r ↔ s.SharedAt r := by
  unfold KernelState.SharedAt
  rw [h.devices]
  simp only [h.shared]

/-- The book follows the ledger, action by action. -/
theorem noteOutstanding_held (cfg : Config) (s s' : KernelState) (a : Op) :
    noteOutstanding cfg s a s' s.ledger.held = (s.ledger.apply (ledgerAction cfg s a)).held := by
  cases a with
  | ioctl req io =>
      cases req with
      | claim k rt data =>
          cases ht : claimedToken cfg s k rt data io with
          | none => simp [noteOutstanding, ledgerAction, ht, Ledger.apply]
          | some t => simp [noteOutstanding, ledgerAction, ht, Ledger.apply, Ledger.claim]
      | release k rt data =>
          cases ht : data.token? k with
          | none => simp [noteOutstanding, ledgerAction, ht, Ledger.apply]
          | some t =>
              by_cases hok : IoctlOk cfg s (.release k rt data) io
              · simp [noteOutstanding, ledgerAction, ht, hok, Ledger.apply, Ledger.release]
              · simp [noteOutstanding, ledgerAction, ht, hok, Ledger.apply]
      | decrementRefCount k v id =>
          -- a drop lowers a counter and strikes nothing
          rcases ledgerAction_cases cfg s (.ioctl (.decrementRefCount k v id) io) with
            hidle | heffect
          · rw [hidle]
            rfl
          · generalize ledgerAction cfg s (.ioctl (.decrementRefCount k v id) io) = x at heffect
            cases heffect with
            | decrement _ _ => rfl
      | _ => rfl
  | _ => rfl

theorem ClientStep.regular {s : KernelState} {a : Op} (h : ClientStep s a) : Regular s a := by
  cases a with
  | fill p dev => exact h
  | manage p out => exact h
  | release p out => exact absurd h id
  | freeRefs pid => trivial
  | ioctl req io =>
      cases req with
      | info k data => exact h.2
      | _ => trivial

/-- Adding a device only ever makes empty slots shared. -/
theorem sharedAt_deviceManage {s : KernelState} {p : DevPtr} (cfg : Config) (out : RegOutcome)
    (hp : ¬ s.Managed p) {r : Res} (hr : s.SharedAt r) :
    (deviceManage cfg s p out).state.SharedAt r := by
  rcases hr with ⟨q, hq, hs⟩
  have hne : q ≠ p := by
    rintro rfl
    exact hp ⟨r.1, hq⟩
  rcases deviceManage_cases cfg s p out with
    ⟨dev', _, ⟨_, hst⟩ | ⟨_, _, _, _, _, d, hslot, hst⟩⟩
  · rw [hst]
    exact ⟨q, hq, by simpa [KernelState.setDevice, hne] using hs⟩
  · have hd : r.1 ≠ d := by
      rintro heq
      rw [heq, managerFindEmptySlot_some hslot] at hq
      cases hq
    rw [hst]
    refine ⟨q, KernelState.setSlot_some_iff.2 (Or.inr ⟨hd, hq⟩), ?_⟩
    simpa [KernelState.setDevice, hne] using hs

/-- Clients never take the SHARED flag from a resource, so what is exclusive now has always been. -/
theorem sharedAt_of_exec {cfg : Config} {s s' : KernelState} {a : Op} (hclient : ClientStep s a)
    (hexec : exec cfg a s = some s') {r : Res} (hr : s.SharedAt r) : s'.SharedAt r := by
  cases a with
  | fill p dev =>
      cases hexec
      rcases hr with ⟨q, hq, hs⟩
      have hne : q ≠ p := by
        rintro rfl
        exact hclient ⟨r.1, hq⟩
      exact ⟨q, hq, by simpa [KernelState.setDevice, hne] using hs⟩
  | manage p out =>
      cases hexec
      exact sharedAt_deviceManage cfg out hclient.1 hr
  | release p out => exact absurd hclient id
  | ioctl req io => exact (sharedAt_of_sameShape (exec_ioctl_sameShape hexec) r).2 hr
  | freeRefs pid => exact (sharedAt_of_sameShape (managerFreeRefsForPid_sameShape hexec) r).2 hr

/-! ## One step -/

section Steps

variable {cfg : Config} {s : KernelState} {out : Multiset (Res × Pid)} {k : ResourceKind}
  {rt : Bool} {io : IoFaults} {r : Res}

/-- A claim without HOSTILE of an exclusive resource finds it unclaimed. -/
theorem Exclusive.claim_count_le_one {data : ClaimData} {t : Token k} (h : Exclusive (s, out))
    (hhostile : data.hostile = false) (hclaimed : claimedToken cfg s k rt data io = some t)
    (hr : ¬ s.SharedAt r) : (s.ledger.claim t.res data.pid).count r ≤ 1 := by
  by_cases hrt : r = t.res
  · subst hrt
    rcases admitted_of_claimedToken h.tableInjective hclaimed with ⟨p, hslot, hadm⟩
    -- without SHARED and HOSTILE, only a zero count admits a claim
    have hfree : (s.heap p).refCount ⟨k, t.resourceIndex⟩ = 0 := by
      rcases hadm with hzero | hshared | hh
      · exact hzero
      · exact absurd ⟨p, hslot, hshared⟩ hr
      · simp [hhostile] at hh
    have hcount : s.ledger.count t.res = 0 :=
      (countAt_of_devices (r := t.res) hslot).trans hfree
    simp [Ledger.claim, hcount]
  · have hle := h.count_le_one r hr
    simpa [Ledger.claim, hrt] using hle

/-- A covered release strikes a claim on record, or the resource it names does not matter. -/
theorem Exclusive.release_balancedAt {data : ReleaseData} {t : Token k} (h : Exclusive (s, out))
    (hcovered : data.Covered k s) (ht : data.token? k = some t) (hr : ¬ s.SharedAt r) :
    (s.ledger.release t.res data.pid).BalancedAt r := by
  have hbal := h.balancedAt r hr
  by_cases hrt : r = t.res
  · subst hrt
    -- the sender holds the resource, or the resource has no count to lose
    cases hslot : s.devices t.deviceIndex with
    | none =>
        have hcount : s.ledger.count t.res = 0 := countAt_of_empty hslot
        exact hbal.release_of_zero hcount _
    | some p =>
        have hcount : s.ledger.count t.res = (s.heap p).refCount ⟨k, t.resourceIndex⟩ :=
          countAt_of_devices (r := t.res) hslot
        rcases hcovered t ht p hslot with hs | hz | hmem
        · exact absurd ⟨p, hslot, hs⟩ hr
        · exact hbal.release_of_zero (hcount.trans hz) _
        · exact hbal.release_of_mem ((mem_held_iff s).2 hmem)
  · exact hbal.release_of_ne hrt _

/-- What a cooperative step leaves of the balance and the count of an exclusive resource. -/
theorem Exclusive.apply {a : Op} (h : Exclusive (s, out)) (hguard : CooperativeStep s a)
    (hr : ¬ s.SharedAt r) :
    (s.ledger.apply (ledgerAction cfg s a)).BalancedAt r ∧
      (s.ledger.apply (ledgerAction cfg s a)).count r ≤ 1 := by
  have hbal := h.balancedAt r hr
  have hone := h.count_le_one r hr
  rcases hguard with ⟨hclient, hcoop⟩
  rcases ledgerAction_cases cfg s a with hidle | heffect
  · rw [hidle]
    exact ⟨hbal, hone⟩
  · generalize ledgerAction cfg s a = x at heffect
    cases heffect with
    | claim hclaimed =>
        exact ⟨hbal.claim _ _, h.claim_count_le_one hclient.1 hclaimed hr⟩
    | release ht hok =>
        exact ⟨h.release_balancedAt (hcoop _ rfl) ht hr,
          le_trans (Ledger.release_count_le _ _ _ _) hone⟩
    | decrement _ _ => exact absurd hclient id
    | cleanup pid => exact ⟨hbal.cleanup pid, le_trans (Nat.sub_le _ _) hone⟩

end Steps

theorem Exclusive.step {cfg : Config} {x x' : KernelState × Multiset (Res × Pid)} {a : Op}
    (h : Exclusive x) (hguard : CooperativeStep x.1 a)
    (hexec : track (exec cfg) (noteOutstanding cfg) a x = some x') : Exclusive x' := by
  rcases track_eq_some_iff.1 hexec with ⟨hstep, hnote⟩
  have hregular := hguard.1.regular
  have hledger := exec_ledger h.tableInjective hregular hstep
  have hexclusive : ∀ r, ¬ x'.1.SharedAt r → ¬ x.1.SharedAt r := fun r hr hs =>
    hr (sharedAt_of_exec hguard.1 hstep hs)
  refine ⟨exec_tableInjective h.tableInjective hregular hstep, ?_, ?_, ?_⟩
  · rw [hnote, h.outstanding, noteOutstanding_held, hledger]
  · intro r hr
    rw [hledger]
    exact (h.apply hguard (hexclusive r hr)).1
  · intro r hr
    rw [hledger]
    exact (h.apply hguard (hexclusive r hr)).2

/-! ## Whole runs -/

theorem KernelState.Idle.exclusive {s : KernelState} (h : s.Idle) : Exclusive (s, 0) := by
  refine ⟨h.tableInjective, (held_eq_zero h.refs).symm, fun r _ => h.balancedAt r, ?_⟩
  intro r _
  exact (h.countAt r).le.trans (Nat.zero_le 1)

/-- When only holders release exclusive resources, a managed resource without the SHARED flag has
at most one process with an outstanding claim, at every moment of the run. -/
theorem exclusive_of_reachable (cfg : Config) {s₀ : KernelState}
    {x : KernelState × Multiset (Res × Pid)} (hidle : s₀.Idle)
    (hrun : Reachable (track (exec cfg) (noteOutstanding cfg))
      (fun x a => CooperativeStep x.1 a) (s₀, 0) x)
    (d : Slot) (p : DevPtr) (i : ResIdx) (hd : x.1.devices d = some p)
    (hflag : (x.1.heap p).shared i = false) (pid pid' : Pid)
    (hpid : ((d, i), pid) ∈ x.2) (hpid' : ((d, i), pid') ∈ x.2) : pid = pid' := by
  have hexcl : Exclusive x := by
    refine hrun.invariant hidle.exclusive ?_
    intro x x' a h hguard hexec
    exact h.step hguard hexec
  have hnot : ¬ x.1.SharedAt (d, i) := by
    rintro ⟨q, hq, hs⟩
    cases hd.symm.trans hq
    simp [hflag] at hs
  have hmem : ((d, i), pid) ∈ x.1.ledger.held := by
    rw [← hexcl.outstanding]
    exact hpid
  have hmem' : ((d, i), pid') ∈ x.1.ledger.held := by
    rw [← hexcl.outstanding]
    exact hpid'
  by_contra hne
  -- two claims on record need a count of two
  have htwo : 2 ≤ x.1.ledger.entries (d, i) := Ledger.two_le_entries hne hmem hmem'
  have hbal := hexcl.balancedAt (d, i) hnot
  have hone := hexcl.count_le_one (d, i) hnot
  unfold Ledger.BalancedAt at hbal
  omega

instance (s : KernelState) : (a : Op) → Decidable (ClientStep s a)
  | .fill p _ => inferInstanceAs (Decidable (¬ s.Managed p))
  | .manage p _ => inferInstanceAs (Decidable (¬ s.Managed p ∧ (s.heap p).Unclaimed))
  | .release _ _ => .isFalse id
  | .freeRefs _ => .isTrue trivial
  | .ioctl req io =>
      match req with
      | .claim _ _ data => inferInstanceAs (Decidable (data.hostile = false ∧
          io.copyFromUserFails = false ∧ io.copyToUserFails = false))
      | .info _ _ => inferInstanceAs (Decidable (io.copyFromUserFails = false ∧
          io.copyToUserFails = false))
      | .release _ _ _ => inferInstanceAs (Decidable (io.copyFromUserFails = false))
      | .getMaxManagedDevices _ | .getMaxDevMemRegions _ | .getMaxDevEvents _ | .getId _ _ _ _
      | .getRefCount _ _ _ | .decrementRefCount _ _ _ | .janitorRegisterPid
      | .getKernelCommitId _ | .getDriverInfo _ _ | .getHwInfo _ _ | .getKernelVersionCode _
      | .getKernelVariant _ | .eventsrcIsEnabled _ _ _ | .unknown => .isFalse id

instance (data : ReleaseData) (k : ResourceKind) (s : KernelState) :
    Decidable (data.Covered k s) :=
  inferInstanceAs (Decidable (∀ t ∈ data.token? k, ∀ p ∈ s.devices t.deviceIndex, _))

instance (s : KernelState) (a : Op) : Decidable (CooperativeStep s a) :=
  inferInstanceAs (Decidable (ClientStep s a ∧ ∀ r ∈ a.releaseData?, r.2.Covered r.1 s))

/-- Process 2 takes the region over after process 1 has released it. -/
def handOver : List Op :=
  [ .manage 0 Sample.registered
  , .ioctl (Sample.claimAny 1 0) Sample.noFaults
  , .ioctl (Sample.claimAny 2 0) Sample.noFaults
  , .ioctl (Sample.releaseFirst 1) Sample.noFaults
  , .ioctl (Sample.claimAny 2 0) Sample.noFaults ]

theorem exclusive_of_reachable_handOver :
    ∃ x : KernelState × Multiset (Res × Pid), ((0, ⟨.memregion, 0⟩), 2) ∈ x.2 ∧
      ∀ pid, ((0, ⟨.memregion, 0⟩), pid) ∈ x.2 → pid = 2 := by
  have hrun : ∃ x, Reachable (track (exec Sample.config) (noteOutstanding Sample.config))
      (fun x a => CooperativeStep x.1 a) (Sample.kernel, 0) x ∧
      (x.1.devices 0 = some 0 ∧ (x.1.heap 0).shared ⟨.memregion, 0⟩ = false ∧
        ((0, ⟨.memregion, 0⟩), 2) ∈ x.2) :=
    exists_reachable_of_run handOver (by decide +kernel)
  rcases hrun with ⟨x, hreach, hslot, hflag, hmem⟩
  refine ⟨x, hmem, ?_⟩
  intro pid hpid
  exact exclusive_of_reachable Sample.config Sample.kernel_idle hreach 0 0 _ hslot hflag pid 2
    hpid hmem

/-- Process 2 releases the token that process 1 was given, and claims the region. -/
def takeOver : List Op :=
  [ .manage 0 Sample.registered
  , .ioctl (Sample.claimAny 1 0) Sample.noFaults
  , .ioctl (Sample.releaseFirst 2) Sample.noFaults
  , .ioctl (Sample.claimAny 2 0) Sample.noFaults ]

/-- Without that condition on releases, two processes have claims on one exclusive region. -/
theorem not_exclusive :
    ∃ x, Reachable (track (exec Sample.config) (noteOutstanding Sample.config))
        (fun x a => ClientStep x.1 a) (Sample.kernel, 0) x ∧
      (x.1.devices 0 = some 0 ∧ (x.1.heap 0).shared ⟨.memregion, 0⟩ = false ∧
        ((0, ⟨.memregion, 0⟩), 1) ∈ x.2 ∧ ((0, ⟨.memregion, 0⟩), 2) ∈ x.2) :=
  exists_reachable_of_run takeOver (by decide +kernel)

end Cuddl
