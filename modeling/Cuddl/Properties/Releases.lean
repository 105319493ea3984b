import Cuddl.Kernel.System

/-!
# What a release undoes

A RELEASE names a claim by its token and carries the pid of its sender.  When the sender is on the
list for the token, exactly one of its entries is struck and the count goes down by one.  When it
is not, no entry is struck, and the count goes down all the same: the decrement does not wait for
the search in the list, which is there for emergency clean-up only.
-/

namespace Cuddl

/-- The lists of `s'` are those of `s` without one entry `e`. -/
structure StruckOnce (s s' : KernelState) {k : ResourceKind} (e : ResourceRef k) : Prop where
  own : (s'.refs k).count e + 1 = (s.refs k).count e
  other : ∀ e', e' ≠ e → (s'.refs k).count e' = (s.refs k).count e'
  otherKind : ∀ k', k' ≠ k → s'.refs k' = s.refs k'

/-- Only the count of resource `x` of device `p` has changed. -/
def OnlyCount (s s' : KernelState) (p : DevPtr) (x : ResIdx) : Prop :=
  ∀ q y, (q, y) ≠ (p, x) → (s'.heap q).refCount y = (s.heap q).refCount y

theorem struckOnce_setRefs {s : KernelState} {k : ResourceKind} {e : ResourceRef k}
    (he : e ∈ s.refs k) : StruckOnce s (s.setRefs k ((s.refs k).erase e)) e := by
  have hpos : 0 < (s.refs k).count e := List.count_pos_iff.2 he
  refine ⟨?_, ?_, ?_⟩
  · rw [KernelState.setRefs_refs, Function.update_self, List.count_erase_self]
    exact Nat.sub_add_cancel hpos
  · intro e' hne
    rw [KernelState.setRefs_refs, Function.update_self, List.count_erase_of_ne hne]
  · intro k' hne
    rw [KernelState.setRefs_refs, Function.update_of_ne hne]

theorem onlyCount_resourceDecrRefCount (s : KernelState) (p : DevPtr) (x : ResIdx) :
    OnlyCount s (resourceDecrRefCount s p x).2 p x := by
  intro q y hne
  have hno : ¬ (q = p ∧ y = x) := by
    rintro ⟨rfl, rfl⟩
    exact hne rfl
  simp [refCount_resourceDecrRefCount, hno]

/-- The entry that a release looks for is counted. -/
theorem CountsEntries.pos_of_mem {s : KernelState} (h : CountsEntries s) {k : ResourceKind}
    {e : ResourceRef k} (he : e ∈ s.refs k) {p : DevPtr}
    (hslot : s.devices e.token.deviceIndex = some p) :
    0 < (s.heap p).refCount ⟨k, e.token.resourceIndex⟩ := by
  rw [h _ _ _ _ hslot]
  exact List.countP_pos_iff.2 ⟨e, he, by simp⟩

/-- With counts that are numbers of entries, a release by a process on the list strikes one entry
of that process and lowers the count by one.  A release by any other process strikes nothing,
lowers a count that is not zero all the same, and returns zero, too.  No other count and no other
entry changes, and a release that is not accepted fails without a trace. -/
theorem release_strikes_own (cfg : Config) {s : KernelState} (hcounts : CountsEntries s)
    {k : ResourceKind} (rt : Bool) (data : ReleaseData) (io : IoFaults) {t : Token k} {p : DevPtr}
    (htoken : data.token? k = some t) (hslot : s.devices t.deviceIndex = some p) :
    ∃ res, managerIoctl cfg s (.release k rt data) io = some res ∧
      (Accepted (.release k rt data) io →
        res.ret = 0 ∧ OnlyCount s res.state p ⟨k, t.resourceIndex⟩ ∧
        (⟨t, data.pid⟩ ∈ s.refs k →
          StruckOnce s res.state ⟨t, data.pid⟩ ∧
            (res.state.heap p).refCount ⟨k, t.resourceIndex⟩ + 1 =
              (s.heap p).refCount ⟨k, t.resourceIndex⟩) ∧
        (⟨t, data.pid⟩ ∉ s.refs k →
          res.state.refs = s.refs ∧
            (res.state.heap p).refCount ⟨k, t.resourceIndex⟩ =
              (s.heap p).refCount ⟨k, t.resourceIndex⟩ - 1)) ∧
      (¬ Accepted (.release k rt data) io → res.ret < 0 ∧ res.state = s) := by
  have hsome : (managerIoctl cfg s (.release k rt data) io).isSome := managerIoctl_isSome rfl
  rcases Option.isSome_iff_exists.1 hsome with ⟨res, hres⟩
  refine ⟨res, hres, ?_, ?_⟩
  · intro hacc
    rw [managerIoctl_of_accepted hacc] at hres
    rcases ReleaseData.token?_eq_some_iff.1 htoken with ⟨hd, hi⟩
    rcases ioctlRelease_cases k data s with ⟨_, _, hempty⟩ | ⟨d, q, i, hd', hi', hq, heq⟩
    · have hnone := hempty t.deviceIndex t.resourceIndex hd hi
      cases hslot.symm.trans hnone
    · -- the slots of the token are the ones that the request has found
      have hdt : d = t.deviceIndex := Fin.ext (by omega)
      have hit : i = t.resourceIndex := Fin.ext (by omega)
      subst hdt hit
      cases hq.symm.trans hslot
      have hstate : res.state = (resourceDecrRefCount s p ⟨k, t.resourceIndex⟩).2.setRefs k
          ((s.refs k).erase ⟨t, data.pid⟩) := by
        cases hres
        rw [heq]
      have hret : res.ret = 0 := by
        cases hres
        rw [heq]
      have hcount : (res.state.heap p).refCount ⟨k, t.resourceIndex⟩ =
          (s.heap p).refCount ⟨k, t.resourceIndex⟩ - 1 := by
        rw [hstate, KernelState.setRefs_heap, refCount_resourceDecrRefCount]
        simp
      refine ⟨hret, ?_, ?_, ?_⟩
      · rw [hstate]
        exact onlyCount_resourceDecrRefCount s p _
      · intro hmem
        have hpos := hcounts.pos_of_mem hmem hslot
        refine ⟨?_, by simp only at hpos; omega⟩
        have hstruck := struckOnce_setRefs hmem
        rw [hstate]
        exact ⟨by simpa using hstruck.own, by simpa using hstruck.other,
          by simpa using hstruck.otherKind⟩
      · intro hmem
        refine ⟨?_, hcount⟩
        rw [hstate, List.erase_of_not_mem hmem]
        simp
  · intro hacc
    rcases managerIoctl_cases hres with ⟨_, hneg, hst, _⟩ | ⟨hacc', _⟩
    · exact ⟨hneg, hst⟩
    · exact absurd hacc' hacc

/-- Process 1 has claimed the memory region of device 0. -/
def Sample.claimed : KernelState :=
  (Sample.managed.takeRef 0 ⟨.memregion, 0⟩).setRefs .memregion
    (⟨Sample.firstToken, 1⟩ :: Sample.managed.refs .memregion)

theorem Sample.claimed_countsEntries : CountsEntries Sample.claimed := by
  refine countsEntries_of_balancedAt ?_
  intro r
  have hslot : Sample.managed.devices 0 = some 0 := by decide +kernel
  have hclaim : Sample.claimed.ledger =
      Sample.managed.ledger.claim ((0 : Slot), ⟨.memregion, 0⟩) 1 :=
    ledger_claim Sample.managed_idle.tableInjective hslot
  rw [hclaim]
  exact (Sample.managed_idle.balancedAt r).claim _ _

/-- Process 1 releases what it has claimed. -/
theorem release_strikes_own_claimed :
    ∃ res, managerIoctl Sample.config Sample.claimed (Sample.releaseFirst 1) Sample.noFaults =
        some res ∧ res.ret = 0 ∧
      StruckOnce Sample.claimed res.state (⟨Sample.firstToken, 1⟩ : ResourceRef .memregion) := by
  have hslot : Sample.claimed.devices Sample.firstToken.deviceIndex = some 0 := by decide +kernel
  rcases release_strikes_own Sample.config Sample.claimed_countsEntries false
      { versionCode := kernelVersionCode, deviceIndex := 0, resourceIndex := 0, pid := 1 }
      Sample.noFaults (t := Sample.firstToken) rfl hslot with ⟨res, hres, hacc, _⟩
  have hok := hacc ⟨rfl, by rintro v ⟨⟩; exact ⟨rfl, by decide +kernel⟩⟩
  have hmem : (⟨Sample.firstToken, 1⟩ : ResourceRef .memregion) ∈
      Sample.claimed.refs .memregion := by decide +kernel
  exact ⟨res, hres, hok.1, (hok.2.2.1 hmem).1⟩

/-- Process 2, which has claimed nothing, releases the claim of process 1 and is told that it
has worked. -/
theorem release_lowers_others :
    CountsEntries Sample.claimed ∧
      (⟨Sample.firstToken, 2⟩ : ResourceRef .memregion) ∉ Sample.claimed.refs .memregion ∧
      ∃ res, managerIoctl Sample.config Sample.claimed (Sample.releaseFirst 2)
          Sample.noFaults = some res ∧
        res.ret = 0 ∧ (Sample.claimed.heap 0).refCount ⟨.memregion, 0⟩ = 1 ∧
        (res.state.heap 0).refCount ⟨.memregion, 0⟩ = 0 := by
  refine ⟨Sample.claimed_countsEntries, by decide +kernel, ?_⟩
  have hrun : (managerIoctl Sample.config Sample.claimed (Sample.releaseFirst 2)
      Sample.noFaults).any (fun res => decide (res.ret = 0 ∧
        (Sample.claimed.heap 0).refCount ⟨.memregion, 0⟩ = 1 ∧
        (res.state.heap 0).refCount ⟨.memregion, 0⟩ = 0)) = true := by decide +kernel
  rcases (Option.any_eq_true _ _).1 hrun with ⟨res, hres, hok⟩
  exact ⟨res, hres, of_decide_eq_true hok⟩

end Cuddl
