import Cuddl.Kernel.System
import Cuddl.User.Memregion

/-!
# Mapped regions

From the sizes that a driver gives a memory region to the addresses that user space computes with:
registration defaults the sizes, CLAIM reports them, and `cuddl_memregion_map` adds the start offset
to what `mmap` returned.  The region lies inside its mapping when its sizes are `WellSized`
(`mapped_contained`).  A region with a start offset and no length of its own sticks out at the end
(`mapped_sticks_out`), since its length is set to that of the whole mapping.
-/

namespace Cuddl

open Foundation Foundation.Machine

/-- The driver leaves the structure of `p` alone, and does not hand it to the manager again. -/
def LeavesDevice (p : DevPtr) (_ : KernelState) (a : Op) : Prop :=
  (∀ dev, a ≠ .fill p dev) ∧ ∀ out, a ≠ .manage p out

/-- `r` is what a user gets for the region that a driver registered as `m`: the device of `m` is
managed, anything but a change of the device happens, the region is claimed and mapped. -/
inductive MapsTo (cfg : Config) (m : Memregion) (r : User.Memregion) : Prop
  | intro {s₀ s : KernelState} {p : DevPtr} {reg : RegOutcome} {rt : Bool} {pid : Pid}
      {id : ResourceId} {options : BitVec 32} {io : IoFaults} {sys : SysFaults}
      {call : CallResult} {info : MemregionInfo} {fd : Int} {base : UInt64}
      (region : (s₀.heap p).mem info.token.resourceIndex = m)
      (managed : (deviceManage cfg s₀ p reg).ret = 0)
      (run : Reachable (exec cfg) (LeavesDevice p) (deviceManage cfg s₀ p reg).state s)
      (claimed : User.memregionClaim cfg rt pid id options io sys s = some call)
      (ret : call.ret = 0)
      (reply : call.reply = some (.memregionInfo info))
      (slot : s.devices info.token.deviceIndex = some p)
      (fits : base.toNat + info.paLen.toNat ≤ 2 ^ 64)
      (mapped : User.memregionMap info ⟨.ok fd, .ok base⟩ = (0, some r))

/-- Every byte of the region is a byte of the mapping. -/
def User.Memregion.Contained (r : User.Memregion) : Prop :=
  ∀ o < r.len.toNat,
    r.paAddr.toNat ≤ r.addr.toNat + o ∧ r.addr.toNat + o < r.paAddr.toNat + r.paLen.toNat

/-- A region that takes its length from its mapping starts where the mapping starts, and the sum
that is rounded up for a mapping is in range. -/
structure WellSized (cfg : Config) (m : Memregion) : Prop where
  startOffset : m.len = 0 → m.paLen ≠ 0 → m.startOffset = 0
  rounds : m.paLen = 0 → Rounds cfg (m.len.toNat + m.startOffset.toNat)

/-! ## Sizes -/

/-- The defaulted sizes of a well-sized region with at least one default. -/
theorem defaultSizes_le {cfg : Config} {m : Memregion} (hdefault : m.len = 0 ∨ m.paLen = 0)
    (hsized : WellSized cfg m) :
    m.startOffset.toNat + (m.defaultSizes cfg).len.toNat ≤ (m.defaultSizes cfg).paLen.toNat := by
  have hpage : 0 < 2 ^ cfg.pageShift := Nat.two_pow_pos _
  by_cases hpa : m.paLen = 0
  · -- the mapping is rounded up from the region
    have hlen : (m.defaultSizes cfg).len = m.len := by
      by_cases hzero : m.len = 0
      · simp [Memregion.defaultSizes, hzero, hpa]
      · simp [Memregion.defaultSizes, hzero]
    have hrounds := hsized.rounds hpa
    have hle := le_roundUp hpage (m.len.toNat + m.startOffset.toNat)
    have hsum : (m.len + m.startOffset).toNat = m.len.toNat + m.startOffset.toNat := by
      rw [UInt64.toNat_add]
      exact Nat.mod_eq_of_lt (lt_of_le_of_lt hle hrounds.1)
    have hpaLen : (m.defaultSizes cfg).paLen = pageSizeAligned cfg (m.len + m.startOffset) :=
      defaultSizes_paLen hpa
    calc
      m.startOffset.toNat + (m.defaultSizes cfg).len.toNat
          = m.len.toNat + m.startOffset.toNat := by rw [hlen, Nat.add_comm]
      _ ≤ roundUp (2 ^ cfg.pageShift) (m.len.toNat + m.startOffset.toNat) := hle
      _ = (pageSizeAligned cfg (m.len + m.startOffset)).toNat := by
          rw [toNat_pageSizeAligned (by rwa [hsum]), hsum]
      _ = (m.defaultSizes cfg).paLen.toNat := by rw [hpaLen]
  · -- the region is the whole mapping
    have hzero : m.len = 0 := hdefault.resolve_right hpa
    have hstart := hsized.startOffset hzero hpa
    simp [Memregion.defaultSizes, hzero, hpa, hstart]

theorem defaultSizes_startOffset (cfg : Config) (m : Memregion) :
    (m.defaultSizes cfg).startOffset = m.startOffset := rfl

/-- A device that its driver leaves alone stays what it is, up to its counts. -/
theorem eraseCounts_of_reachable {cfg : Config} {s₀ s : KernelState} {p : DevPtr}
    (hrun : Reachable (exec cfg) (LeavesDevice p) s₀ s) :
    (s.heap p).eraseCounts = (s₀.heap p).eraseCounts := by
  refine hrun.invariant (I := fun t => (t.heap p).eraseCounts = (s₀.heap p).eraseCounts) rfl ?_
  intro t t' a h hguard hexec
  exact (exec_eraseCounts hguard.1 hguard.2 hexec).trans h

/-- Once a device is managed its regions keep their defaulted sizes. -/
theorem sizes_of_reachable {cfg : Config} {s₀ s : KernelState} {p : DevPtr} {reg : RegOutcome}
    (hmanage : (deviceManage cfg s₀ p reg).ret = 0)
    (hrun : Reachable (exec cfg) (LeavesDevice p) (deviceManage cfg s₀ p reg).state s)
    (i : Fin (ResourceKind.max .memregion)) :
    ((s.heap p).mem i).len = (((s₀.heap p).mem i).defaultSizes cfg).len ∧
      ((s.heap p).mem i).paLen = (((s₀.heap p).mem i).defaultSizes cfg).paLen ∧
      ((s.heap p).mem i).startOffset = (((s₀.heap p).mem i).defaultSizes cfg).startOffset := by
  have hkept := eraseCounts_of_reachable hrun
  -- what registration has left in the structure
  have hmem : ((deviceManage cfg s₀ p reg).state.heap p).mem =
      fun i => ((s₀.heap p).mem i).defaultSizes cfg := by
    rcases deviceManage_cases cfg s₀ p reg with
      ⟨dev', _, ⟨hne, _⟩ | ⟨_, _, _, _, hreg, d, _, hst⟩⟩
    · exact absurd hmanage hne
    · rw [hst]
      simp [KernelState.setDevice, hreg.1]
  have hregion := congrFun (congrArg Device.mem hkept) i
  simp only [Device.eraseCounts, hmem, Memregion.mk.injEq] at hregion
  exact ⟨hregion.2.2.2.2.1, hregion.2.2.1, hregion.2.2.2.1⟩

/-! ## Addresses -/

/-- The fields of a mapped region, in terms of the region that was registered. -/
theorem MapsTo.fields {cfg : Config} {m : Memregion} {r : User.Memregion} (h : MapsTo cfg m r) :
    r.len = (m.defaultSizes cfg).len ∧ r.paLen = (m.defaultSizes cfg).paLen ∧
      r.addr = r.paAddr + m.startOffset ∧ r.paAddr.toNat + r.paLen.toNat ≤ 2 ^ 64 := by
  rcases h with ⟨hregion, hmanage, hrun, hclaim, hret, hreply, hslot, hfits, hmap⟩
  rcases managerCall_of_ret_zero hclaim hret with ⟨res, hres, hzero, _, hreply'⟩
  rw [hreply] at hreply'
  rcases claim_sizes hres hzero hreply'.symm hslot with ⟨hlen, hpaLen, hstart⟩
  rcases sizes_of_reachable hmanage hrun _ with ⟨hlen', hpaLen', hstart'⟩
  rw [hregion] at hlen' hpaLen' hstart'
  cases hmap
  -- the sizes pass through the claim unchanged; only the offset is added
  refine ⟨hlen.trans hlen', hpaLen.trans hpaLen', ?_, hfits⟩
  show _ + _ = _ + _
  rw [hstart, hstart', defaultSizes_startOffset]

/-- The bytes of a region that is mapped from well-sized numbers are bytes of its mapping. -/
theorem mapped_contained {cfg : Config} {m : Memregion} {r : User.Memregion}
    (hmaps : MapsTo cfg m r) (hdefault : m.len = 0 ∨ m.paLen = 0) (hsized : WellSized cfg m) :
    m.startOffset.toNat + r.len.toNat ≤ r.paLen.toNat ∧ r.Contained := by
  rcases hmaps.fields with ⟨hlen, hpaLen, haddr, hfits⟩
  have hsizes : m.startOffset.toNat + r.len.toNat ≤ r.paLen.toNat := by
    rw [hlen, hpaLen]
    exact defaultSizes_le hdefault hsized
  refine ⟨hsizes, ?_⟩
  intro o ho
  -- the region is not empty, so its start is inside the mapping and does not wrap around
  have hstart : r.addr.toNat = r.paAddr.toNat + m.startOffset.toNat := by
    rw [haddr, UInt64.toNat_add]
    exact Nat.mod_eq_of_lt (by omega)
  rw [hstart]
  constructor
  · omega
  · omega

/-! ## Two mappings -/

namespace Sample

/-- A device whose region is the given part of one page, with its length left to be defaulted. -/
def offsetDevice (startOffset : UInt64) : Device :=
  let dev := device "g" "x"
  { dev with mem := fun i => { dev.mem i with startOffset := startOffset } }

def offsetKernel (startOffset : UInt64) : KernelState :=
  kernel.setDevice 0 (offsetDevice startOffset)

def offsetRegion (startOffset : UInt64) : Memregion :=
  (offsetDevice startOffset).mem 0

/-- Process 1 claims the region of device 0 right after it has been managed. -/
def offsetClaim (startOffset : UInt64) : Option CallResult :=
  User.memregionClaim config false 1 ⟨[], [], [], 0⟩ 0 noFaults ⟨none, none⟩
    (deviceManage config (offsetKernel startOffset) 0 registered).state

/-- The information in a successful claim of region 0 of slot 0. -/
def claimedInfo (call : CallResult) : Option MemregionInfo :=
  if call.ret = 0 then
    match call.reply with
    | some (.memregionInfo info) => if info.token = firstToken then some info else none
    | _ => none
  else none

theorem claimedInfo_eq_some {call : CallResult} {info : MemregionInfo}
    (h : claimedInfo call = some info) :
    call.ret = 0 ∧ call.reply = some (.memregionInfo info) ∧ info.token = firstToken := by
  unfold claimedInfo at h
  split at h
  · rename_i hret
    split at h
    · rename_i hreply
      split at h
      · rename_i htoken
        cases h
        exact ⟨hret, hreply, htoken⟩
      · cases h
    · cases h
  · cases h

/-- A computed claim that succeeds can be mapped wherever its mapping fits. -/
theorem exists_mapsTo (startOffset base : UInt64)
    (hmanage : (deviceManage config (offsetKernel startOffset) 0 registered).ret = 0)
    (hslot : (deviceManage config (offsetKernel startOffset) 0 registered).state.devices 0 = some 0)
    (hclaim : (((offsetClaim startOffset).bind claimedInfo).any fun info =>
      decide (base.toNat + info.paLen.toNat ≤ 2 ^ 64)) = true) :
    ∃ r, MapsTo config (offsetRegion startOffset) r ∧ r.paAddr = base := by
  rcases (Option.any_eq_true _ _).1 hclaim with ⟨info, hinfo, hfits⟩
  rcases Option.bind_eq_some_iff.1 hinfo with ⟨call, hcall, hinfo'⟩
  rcases claimedInfo_eq_some hinfo' with ⟨hret, hreply, htoken⟩
  have hregion : ((offsetKernel startOffset).heap 0).mem info.token.resourceIndex =
      offsetRegion startOffset := by
    rw [htoken]
    simp [offsetKernel, offsetRegion, KernelState.setDevice, firstToken]
  have hindex : ∀ s : KernelState, s.devices 0 = some 0 →
      s.devices info.token.deviceIndex = some 0 := by
    intro s hs
    rw [htoken]
    exact hs
  exact ⟨_, ⟨hregion, hmanage, Reachable.refl _, hcall, hret, hreply, hindex _ hslot,
    of_decide_eq_true hfits, (rfl : User.memregionMap info ⟨.ok 3, .ok base⟩ = _)⟩, rfl⟩

end Sample

theorem mapped_contained_wholePage :
    ∃ r, MapsTo Sample.config (Sample.offsetRegion 0) r ∧ r.len = 4096 ∧ r.Contained := by
  rcases Sample.exists_mapsTo 0 65536 (by decide +kernel)
    (by decide +kernel) (by decide +kernel) with ⟨r, hmaps, _⟩
  have hsized : WellSized Sample.config (Sample.offsetRegion 0) := by
    refine ⟨?_, ?_⟩
    · intro _ _
      decide +kernel
    · intro hpa
      exact absurd hpa (by decide +kernel)
  have hlen : ((Sample.offsetRegion 0).defaultSizes Sample.config).len = 4096 := by
    decide +kernel
  exact ⟨r, hmaps, hmaps.fields.1.trans hlen,
    (mapped_contained hmaps (Or.inl (by decide +kernel)) hsized).2⟩

/-- One page that is mapped at 65536, with the region starting 8 bytes into it: the last 8 bytes of
the region lie behind the mapping. -/
theorem mapped_sticks_out :
    ∃ (m : Memregion) (r : User.Memregion), MapsTo Sample.config m r ∧
      m.paLen % Sample.config.pageSize = 0 ∧ m.len = 0 ∧ ¬ r.Contained := by
  rcases Sample.exists_mapsTo 8 65536 (by decide +kernel)
    (by decide +kernel) (by decide +kernel) with ⟨r, hmaps, hbase⟩
  refine ⟨Sample.offsetRegion 8, r, hmaps, by decide +kernel, by decide +kernel, ?_⟩
  rcases hmaps.fields with ⟨hlen, hpaLen, haddr, _⟩
  have hlen' : ((Sample.offsetRegion 8).defaultSizes Sample.config).len = 4096 := by
    decide +kernel
  have hpaLen' : ((Sample.offsetRegion 8).defaultSizes Sample.config).paLen = 4096 := by
    decide +kernel
  have hstart : (Sample.offsetRegion 8).startOffset = 8 := by
    decide +kernel
  rw [hlen'] at hlen
  rw [hpaLen'] at hpaLen
  rw [hbase, hstart] at haddr
  intro hcontained
  have hlast := (hcontained 4095 (by rw [hlen]; decide)).2
  rw [haddr, hbase, hpaLen] at hlast
  exact absurd hlast (by decide)

end Cuddl
