import Cuddl.Properties.NodeNames
import Cuddl.Properties.Registration
import Cuddl.User.Iomem

/-!
# Nodes lead to regions

While devices are managed in turn, the nodes of UIO and UDD lead to the managed devices (`Wired`),
and a claim that has not been given back names a node and an offset that lead to the region it
claims (`place_of_current`).
-/

namespace Cuddl

open Foundation.CString Foundation.Machine Foundation.Paging Foundation.TextFields

/-! ## Nodes lead to their devices -/

/-- The device is registered in `n` with what its driver has described. -/
structure Registered (cfg : Config) (n : Nodes) (dev : Device) : Prop where
  uio : n.uio dev.minor = some dev.uioMems
  minor_lt : dev.minor < uioMaxDevices
  uioDev : dev.priv.uio.uioDev.map UioDevice.minor = some dev.minor
  udd : cfg.useUdd = true → n.udd dev.uniqueNameD = some dev.uddMemregions
  uniqueName : dev.priv.uniqueName = some dev.uniqueNameD
  short : dev.uniqueNameD.length ≤ 237
  sized : ∀ i, (dev.mem i).startOffset.toNat + (dev.mem i).len.toNat ≤ (dev.mem i).paLen.toNat

/-- The nodes lead to the managed devices. -/
structure Wired (cfg : Config) (s : KernelState) (n : Nodes) : Prop where
  injective : TableInjective s
  registered : ∀ d p, s.devices d = some p → Registered cfg n (s.heap p)
  minors : ∀ d d' p p', s.devices d = some p → s.devices d' = some p' → p ≠ p' →
    (s.heap p).minor ≠ (s.heap p').minor
  names : ∀ d d' p p', s.devices d = some p → s.devices d' = some p' → p ≠ p' →
    cfg.useUdd = true → (s.heap p).uniqueNameD ≠ (s.heap p').uniqueNameD
  noUdd : cfg.useUdd = false → ∀ name, n.udd name = none

section Nodes

variable {cfg : Config} {s s' : KernelState} {n n' : Nodes} {dev dev' : Device} {p : DevPtr}

/-- Counts do not matter to a registration. -/
theorem registered_eraseCounts : Registered cfg n dev.eraseCounts ↔ Registered cfg n dev := by
  constructor
  · intro h
    exact ⟨h.uio, h.minor_lt, h.uioDev, h.udd, h.uniqueName, h.short, h.sized⟩
  · intro h
    exact ⟨h.uio, h.minor_lt, h.uioDev, h.udd, h.uniqueName, h.short, h.sized⟩

theorem Registered.congr (h : Registered cfg n dev)
    (hsame : dev'.eraseCounts = dev.eraseCounts) : Registered cfg n dev' := by
  rw [← registered_eraseCounts, hsame, registered_eraseCounts]
  exact h

theorem Registered.kept (h : Registered cfg n dev) (hkeeps : n.Keeps cfg n') :
    Registered cfg n' dev :=
  ⟨hkeeps.uio h.uio, h.minor_lt, h.uioDev, fun hcfg => hkeeps.udd (h.udd hcfg), h.uniqueName,
    h.short, h.sized⟩

theorem minor_congr (hsame : dev'.eraseCounts = dev.eraseCounts) : dev'.minor = dev.minor := by
  show dev'.eraseCounts.minor = dev.eraseCounts.minor
  rw [hsame]

theorem uniqueNameD_congr (hsame : dev'.eraseCounts = dev.eraseCounts) :
    dev'.uniqueNameD = dev.uniqueNameD := by
  show dev'.eraseCounts.uniqueNameD = dev.eraseCounts.uniqueNameD
  rw [hsame]

theorem Wired.start (hfresh : s.Fresh) : Wired cfg s Nodes.empty where
  injective := hfresh.tableInjective
  registered := fun d p hd => by simp [hfresh.devices d] at hd
  minors := fun d _ p _ hd => by simp [hfresh.devices d] at hd
  names := fun d _ p _ hd => by simp [hfresh.devices d] at hd
  noUdd := fun _ _ => rfl

/-- The table is as it was, and so are the managed devices. -/
theorem Wired.of_same (h : Wired cfg s n) (hdev : s'.devices = s.devices)
    (hheap : ∀ d p, s.devices d = some p → (s'.heap p).eraseCounts = (s.heap p).eraseCounts)
    (hkeeps : n.Keeps cfg n') : Wired cfg s' n' where
  injective := tableInjective_of_devices h.injective hdev
  registered := fun d p hd => by
    rw [hdev] at hd
    exact ((h.registered d p hd).kept hkeeps).congr (hheap d p hd)
  minors := fun d d' p p' hd hd' hne => by
    rw [hdev] at hd hd'
    rw [minor_congr (hheap d p hd), minor_congr (hheap d' p' hd')]
    exact h.minors d d' p p' hd hd' hne
  names := fun d d' p p' hd hd' hne hcfg => by
    rw [hdev] at hd hd'
    rw [uniqueNameD_congr (hheap d p hd), uniqueNameD_congr (hheap d' p' hd')]
    exact h.names d d' p p' hd hd' hne hcfg
  noUdd := fun hcfg name => by
    rw [hkeeps.udd_same hcfg]
    exact h.noUdd hcfg name

/-- A device has been registered and put in the table. -/
theorem Wired.added (h : Wired cfg s n) (hp : ¬ s.Managed p) {d : Slot}
    (hadded : n.Added cfg n' dev) (hreg : Registered cfg n' dev) :
    Wired cfg ((s.setDevice p dev).setSlot d (some p)) n' := by
  have hheap : ∀ q, s.Managed q → (s.setDevice p dev).heap q = s.heap q := by
    intro q hq
    have hne : q ≠ p := by
      rintro rfl
      exact hp hq
    simp [KernelState.setDevice, hne]
  have hself : (s.setDevice p dev).heap p = dev := KernelState.setDevice_heap_self s p dev
  -- what was registered before has another number and another name
  have hminor : ∀ e q, s.devices e = some q → (s.heap q).minor ≠ dev.minor := by
    intro e q he heq
    have huio := (h.registered e q he).uio
    rw [heq, hadded.minor_free] at huio
    cases huio
  have hname : ∀ e q, s.devices e = some q → cfg.useUdd = true →
      (s.heap q).uniqueNameD ≠ dev.uniqueNameD := by
    intro e q he hcfg heq
    have hudd := (h.registered e q he).udd hcfg
    rw [heq, hadded.name_free hcfg] at hudd
    cases hudd
  refine ⟨?_, ?_, ?_, ?_, ?_⟩
  · exact tableInjective_setSlot_some (s := s.setDevice p dev) h.injective hp
  · intro e q he
    show Registered cfg n' ((s.setDevice p dev).heap q)
    rcases KernelState.setSlot_some_iff.1 he with ⟨rfl, rfl⟩ | ⟨_, hq⟩
    · rwa [hself]
    · rw [hheap q ⟨e, hq⟩]
      exact (h.registered e q hq).kept hadded.keeps
  · intro e e' q q' he he' hne
    show ((s.setDevice p dev).heap q).minor ≠ ((s.setDevice p dev).heap q').minor
    rcases KernelState.setSlot_some_iff.1 he with ⟨rfl, rfl⟩ | ⟨_, hq⟩
    · rcases KernelState.setSlot_some_iff.1 he' with ⟨_, rfl⟩ | ⟨_, hq'⟩
      · exact absurd rfl hne
      · rw [hself, hheap q' ⟨e', hq'⟩]
        exact (hminor e' q' hq').symm
    · rcases KernelState.setSlot_some_iff.1 he' with ⟨rfl, rfl⟩ | ⟨_, hq'⟩
      · rw [hself, hheap q ⟨e, hq⟩]
        exact hminor e q hq
      · rw [hheap q ⟨e, hq⟩, hheap q' ⟨e', hq'⟩]
        exact h.minors e e' q q' hq hq' hne
  · intro e e' q q' he he' hne hcfg
    show ((s.setDevice p dev).heap q).uniqueNameD ≠ ((s.setDevice p dev).heap q').uniqueNameD
    rcases KernelState.setSlot_some_iff.1 he with ⟨rfl, rfl⟩ | ⟨_, hq⟩
    · rcases KernelState.setSlot_some_iff.1 he' with ⟨_, rfl⟩ | ⟨_, hq'⟩
      · exact absurd rfl hne
      · rw [hself, hheap q' ⟨e', hq'⟩]
        exact (hname e' q' hq' hcfg).symm
    · rcases KernelState.setSlot_some_iff.1 he' with ⟨rfl, rfl⟩ | ⟨_, hq'⟩
      · rw [hself, hheap q ⟨e, hq⟩]
        exact hname e q hq hcfg
      · rw [hheap q ⟨e, hq⟩, hheap q' ⟨e', hq'⟩]
        exact h.names e e' q q' hq hq' hne hcfg
  · intro hcfg name
    rw [hadded.udd_same hcfg]
    exact h.noUdd hcfg name

/-- A device has been taken out of the table and unregistered. -/
theorem Wired.removed (h : Wired cfg s n) {d : Slot} (hd : s.devices d = some p)
    (huio : n'.uio = Function.update n.uio (s.heap p).minor none)
    (hudd : n'.udd = n.udd ∨
      cfg.useUdd = true ∧ n'.udd = Function.update n.udd (s.heap p).uniqueNameD none) :
    Wired cfg (s.setSlot d none) n' := by
  have hother : ∀ {e q}, (s.setSlot d none).devices e = some q → s.devices e = some q ∧ q ≠ p := by
    intro e q he
    rcases KernelState.setSlot_none_iff.1 he with ⟨hne, hq⟩
    refine ⟨hq, ?_⟩
    rintro rfl
    exact hne (h.injective e d q hq hd)
  refine ⟨tableInjective_setSlot_none h.injective, ?_, ?_, ?_, ?_⟩
  · intro e q he
    rcases hother he with ⟨hq, hne⟩
    have hreg := h.registered e q hq
    refine ⟨?_, hreg.minor_lt, hreg.uioDev, ?_, hreg.uniqueName, hreg.short, hreg.sized⟩
    · rw [huio]
      show Function.update n.uio (s.heap p).minor none (s.heap q).minor = _
      rw [Function.update_of_ne (h.minors e d q p hq hd hne)]
      exact hreg.uio
    · intro hcfg
      rcases hudd with hsame | ⟨_, hgone⟩
      · rw [hsame]
        exact hreg.udd hcfg
      · rw [hgone]
        show Function.update n.udd (s.heap p).uniqueNameD none (s.heap q).uniqueNameD = _
        rw [Function.update_of_ne (h.names e d q p hq hd hne hcfg)]
        exact hreg.udd hcfg
  · intro e e' q q' he he' hne
    exact h.minors e e' q q' (hother he).1 (hother he').1 hne
  · intro e e' q q' he he' hne hcfg
    exact h.names e e' q q' (hother he).1 (hother he').1 hne hcfg
  · intro hcfg name
    rcases hudd with hsame | ⟨hcfg', _⟩
    · rw [hsame]
      exact h.noUdd hcfg name
    · simp [hcfg] at hcfg'

/-- What a driver sees to when it manages a device. -/
def Prepared (cfg : Config) (s : KernelState) (a : Op) : Prop :=
  ∀ p out, a = .manage p out → (s.heap p).Sized cfg ∧
    ((deviceManage cfg s p out).state.heap p).uniqueNameD.length ≤ 237

/-- A device that has been managed is registered with what its driver has prepared. -/
theorem registered_of_manage (hsized : (s.heap p).Sized cfg)
    (hshort : dev.uniqueNameD.length ≤ 237)
    (hmem : dev.mem = fun i => ((s.heap p).mem i).defaultSizes cfg)
    (hdev : dev.priv.uio.uioDev.isSome) (hlabel : dev.Labelled) (hadded : n.Added cfg n' dev) :
    Registered cfg n' dev := by
  rcases Option.isSome_iff_exists.1 hdev with ⟨u, hu⟩
  rcases hlabel with ⟨group, name, _, _, hunique⟩
  refine ⟨?_, hadded.minor_lt, ?_, ?_, ?_, hshort, ?_⟩
  · rw [hadded.uio, Function.update_self]
  · simp [Device.minor, hu]
  · intro hcfg
    rw [hadded.udd hcfg, Function.update_self]
  · simp [Device.uniqueNameD, hunique]
  · intro i
    rw [hmem]
    exact hsized i

theorem Wired.exec (h : Wired cfg s n) {a : Op} (hturn : InTurn s a) (hprepared : Prepared cfg s a)
    (hexec : exec cfg a s = some s') (hnodes : nodesExec cfg a s n = some n') :
    Wired cfg s' n' := by
  -- only its driver writes to a managed device
  have hheap : ∀ d p, s.devices d = some p → (s'.heap p).eraseCounts = (s.heap p).eraseCounts := by
    intro d p hd
    refine exec_eraseCounts ?_ ?_ hexec
    · rintro dev rfl
      exact hturn ⟨d, hd⟩
    · rintro out rfl
      exact hturn ⟨d, hd⟩
  cases a with
  | fill p dev =>
      cases hnodes
      refine h.of_same ?_ hheap (Nodes.Keeps.refl cfg n)
      cases hexec
      rfl
  | manage p out =>
      rcases nodesExec_manage hnodes with ⟨hadded, hkeeps⟩
      rcases hprepared p out rfl with ⟨hsized, hshort⟩
      cases hexec
      rcases deviceManage_cases cfg s p out with
        ⟨dev', _, ⟨hret, hst⟩ | ⟨hret, _, _, _, ⟨hmem, hdev, hlabel, _⟩, d, _, hst⟩⟩
      · refine h.of_same ?_ hheap (hkeeps hret)
        rw [hst]
        rfl
      · -- the device that has just been managed
        have hself : (deviceManage cfg s p out).state.heap p = dev' := by
          rw [hst]
          exact KernelState.setDevice_heap_self s p dev'
        have hadded' := hadded hret
        rw [hself] at hadded' hshort
        show Wired cfg (deviceManage cfg s p out).state n'
        rw [hst]
        exact h.added hturn hadded'
          (registered_of_manage hsized hshort hmem hdev hlabel hadded')
  | release p out =>
      cases hexec
      rcases deviceRelease_cases cfg s p out with ⟨hnot, _⟩ | ⟨d, _, hd, hst⟩
      · exact absurd hturn hnot
      · have hcalls : onNodes (s.heap p) (deviceUnregister cfg (s.heap p) out).2 n = some n' := by
          rw [← deviceRelease_calls cfg s p out]
          exact hnodes
        rcases onNodes_deviceUnregister hcalls with ⟨huio, hudd⟩
        show Wired cfg (deviceRelease cfg s p out).state n'
        rw [hst]
        exact h.removed hd huio hudd
  | ioctl req io =>
      cases hnodes
      exact h.of_same (exec_ioctl_sameShape hexec).devices hheap (Nodes.Keeps.refl cfg n)
  | freeRefs pid =>
      cases hnodes
      exact h.of_same (managerFreeRefsForPid_sameShape hexec).devices hheap
        (Nodes.Keeps.refl cfg n)

/-- A request changes nothing that a registration depends on. -/
theorem Wired.sameShape (h : Wired cfg s n) (hshape : SameShape s s') : Wired cfg s' n :=
  h.of_same hshape.devices (fun _ p _ => hshape.heap p) (Nodes.Keeps.refl cfg n)

end Nodes

/-! ## Claims lead to regions -/

/-- The information of a claim that holds. -/
def Current (cfg : Config) (s : KernelState) (info : MemregionInfo) : Prop :=
  ∃ p rt, s.devices info.token.deviceIndex = some p ∧
    info = memregionInfo cfg (s.heap p) rt info.token

section Claims

variable {cfg : Config} {s s' : KernelState} {n : Nodes} {info : MemregionInfo} {p : DevPtr}

theorem memregionInfo_congr {dev dev' : Device} (hsame : dev'.eraseCounts = dev.eraseCounts)
    (rt : Bool) (t : Token .memregion) :
    memregionInfo cfg dev' rt t = memregionInfo cfg dev rt t := by
  show memregionInfo cfg dev'.eraseCounts rt t = memregionInfo cfg dev.eraseCounts rt t
  rw [hsame]

theorem Current.sameShape (h : Current cfg s info) (hshape : SameShape s s') :
    Current cfg s' info := by
  rcases h with ⟨p, rt, hp, hinfo⟩
  refine ⟨p, rt, ?_, ?_⟩
  · rw [hshape.devices, hp]
  · rw [memregionInfo_congr (hshape.heap p), ← hinfo]

/-- What a process gets from a claim holds. -/
theorem current_of_claim {rt : Bool} {pid : Pid} {id : ResourceId} {options : BitVec 32}
    {io : IoFaults} {sys : SysFaults} {call : CallResult}
    (h : User.memregionClaim cfg rt pid id options io sys s = some call)
    (hinfo : call.memregionInfo? = some info) : Current cfg call.state info := by
  have hret : call.ret = 0 ∧ call.reply = some (.memregionInfo info) := by
    unfold CallResult.memregionInfo? at hinfo
    split at hinfo
    · rename_i hret hreply
      cases hinfo
      exact ⟨hret, hreply⟩
    · cases hinfo
  rcases managerCall_of_ret_zero h hret.1 with ⟨res, hres, hzero, hstate, hreply⟩
  rcases managerIoctl_claim_of_ret_zero hres hzero with ⟨d, q, i, hfind, _, rfl⟩
  rw [hret.2] at hreply
  cases hreply
  have hdev : (s.takeRef q ⟨.memregion, i⟩).devices = s.devices :=
    (sameShape_takeRef s q ⟨.memregion, i⟩).devices
  rw [hstate]
  exact ⟨q, rt, (congrFun hdev d).trans (managerLookup_eq_some hfind).1, rfl⟩

theorem sameShape_of_call {req : Request} {io : IoFaults} {sys : SysFaults} {call : CallResult}
    (h : managerCall cfg s req io sys = some call) : SameShape s call.state := by
  rcases managerCall_state h with hsame | ⟨res, hres, hsame⟩
  · rw [hsame]
    exact SameShape.refl s
  · rw [hsame]
    exact managerIoctl_sameShape hres

/-- An action of the manager leaves the claims that hold alone, as long as it does not release the
device of one. -/
theorem Current.exec (h : Current cfg s info) {a : Op} (hturn : InTurn s a)
    (hkept : ∀ p out, a = .release p out → s.devices info.token.deviceIndex ≠ some p)
    (hexec : exec cfg a s = some s') : Current cfg s' info := by
  rcases h with ⟨p, rt, hp, hinfo⟩
  have hheap : (s'.heap p).eraseCounts = (s.heap p).eraseCounts := by
    refine exec_eraseCounts ?_ ?_ hexec
    · rintro dev rfl
      exact hturn ⟨_, hp⟩
    · rintro out rfl
      exact hturn ⟨_, hp⟩
  refine ⟨p, rt, ?_, by rw [memregionInfo_congr hheap, ← hinfo]⟩
  rcases exec_devices hexec with
    hsame | ⟨q, out, d, _, _, hslot, hput⟩ | ⟨q, out, d, rfl, hd, htaken⟩
  · rw [hsame, hp]
  · have hne : info.token.deviceIndex ≠ d := by
      rintro rfl
      rw [managerFindEmptySlot_some hslot] at hp
      cases hp
    rw [hput, Function.update_of_ne hne, hp]
  · have hne : info.token.deviceIndex ≠ d := by
      rintro rfl
      exact hkept q out rfl hd
    rw [htaken, Function.update_of_ne hne, hp]

/-! ### Paths -/

theorem length_uioNodeName {minor : Nat} (h : minor < uioMaxDevices) :
    (ascii "/dev/uio" ++ decimal minor).length ≤ 255 := by
  have hprefix : (ascii "/dev/uio").length = 8 := by decide +kernel
  have hlt : minor < 10 ^ 7 := lt_trans h (by decide)
  have hdigits : (decimal minor).length ≤ 7 := by
    rw [decimal_of_nonneg (Int.natCast_nonneg minor), Int.natAbs_natCast, digits, List.length_map]
    exact (Nat.length_toDigits_le_iff (by decide) (by decide)).2 hlt
  rw [List.length_append, hprefix]
  omega

theorem uio_ne_rtdm (l l' : List UInt8) : ascii "/dev/uio" ++ l ≠ ascii "/dev/rtdm/" ++ l' := by
  intro heq
  have huio : ascii "/dev/uio" = [47, 100, 101, 118, 47, 117, 105, 111] := by decide +kernel
  have hrtdm : ascii "/dev/rtdm/" = [47, 100, 101, 118, 47, 114, 116, 100, 109, 47] := by
    decide +kernel
  simp [huio, hrtdm] at heq

theorem udd_path (name : List UInt8) (i : Fin (ResourceKind.max .memregion)) :
    (NodeMap.udd name i).path = rtdmPath name ⟨.memregion, i⟩ := rfl

/-- The region that a page offset selects. -/
theorem offset_injective (hpage : cfg.pageShift < 62) {i j : Fin (ResourceKind.max .memregion)}
    (h : UInt64.ofNat i * cfg.pageSize = UInt64.ofNat j * cfg.pageSize) : i = j := by
  -- five pages are less than the address space
  have hbound : ∀ i : Fin (ResourceKind.max .memregion),
      (i : Nat) * 2 ^ cfg.pageShift < 2 ^ 64 := by
    intro i
    have hi : (i : Nat) ≤ 4 := Nat.le_of_lt_succ i.isLt
    calc
      (i : Nat) * 2 ^ cfg.pageShift ≤ 4 * 2 ^ cfg.pageShift := Nat.mul_le_mul_right _ hi
      _ = 2 ^ (cfg.pageShift + 2) := by rw [Nat.pow_add, Nat.mul_comm]
      _ < 2 ^ 64 := Nat.pow_lt_pow_right (by decide) (by omega)
  have hvalue : ∀ i : Fin (ResourceKind.max .memregion),
      (UInt64.ofNat i * cfg.pageSize).toNat = (i : Nat) * 2 ^ cfg.pageShift := by
    intro i
    have hi : (i : Nat) < 2 ^ 64 := lt_of_lt_of_le i.isLt (by decide)
    rw [UInt64.toNat_mul, cfg.toNat_pageSize, UInt64.toNat_ofNat_of_lt' hi,
      Nat.mod_eq_of_lt (hbound i)]
  have heq := congrArg UInt64.toNat h
  rw [hvalue i, hvalue j] at heq
  exact Fin.ext (Nat.eq_of_mul_eq_mul_right (Nat.two_pow_pos _) heq)

/-- A node that has the path of a claim and is mapped at its offset shows the claimed region. -/
theorem place_of_current (h : Wired cfg s n) (hpage : cfg.pageShift < 62) {rt : Bool}
    (hp : s.devices info.token.deviceIndex = some p)
    (hinfo : info = memregionInfo cfg (s.heap p) rt info.token) {node : NodeMap}
    (hpath : node.path = info.deviceName) (hoffset : node.offset cfg = info.paMmapOffset)
    {place : Place Int} (hplace : n.place node = some place) :
    place = ⟨((s.heap p).mem info.token.resourceIndex).type,
      ((s.heap p).mem info.token.resourceIndex).paAddr.toNat⟩ := by
  have hreg := h.registered _ p hp
  generalize info.token = t at *
  cases rt with
  | false =>
      have hname : info.deviceName = ascii "/dev/uio" ++ decimal (s.heap p).minor := by
        rw [hinfo]
        exact List.take_of_length_le (length_uioNodeName hreg.minor_lt)
      have hoffset' : info.paMmapOffset = UInt64.ofNat t.resourceIndex * cfg.pageSize := by
        rw [hinfo]
        rfl
      rw [hname] at hpath
      rw [hoffset'] at hoffset
      cases node with
      | uio minor i =>
          have hminor : minor = (s.heap p).minor := by
            have hdecimal := decimal_injective (List.append_cancel_left hpath)
            exact_mod_cast hdecimal
          have hi : i = t.resourceIndex := offset_injective hpage hoffset
          rw [Nodes.place, hminor, hreg.uio] at hplace
          cases hplace
          rw [hi]
          rfl
      | udd name i =>
          simp only [NodeMap.path, List.append_assoc] at hpath
          exact absurd hpath.symm (uio_ne_rtdm _ _)
  | true =>
      have hname : info.deviceName =
          rtdmPath (s.heap p).uniqueNameD ⟨.memregion, t.resourceIndex⟩ := by
        rw [hinfo, ← snprintf_rtdmPath hreg.short]
        simp [memregionInfo, rtdmPath, uniqueNameChars, hreg.uniqueName]
      rw [hname] at hpath
      cases node with
      | uio minor i =>
          simp only [NodeMap.path, rtdmPath, List.append_assoc] at hpath
          exact absurd hpath (uio_ne_rtdm _ _)
      | udd name i =>
          rw [udd_path, rtdmPath_memregion, rtdmPath_memregion,
            append_sep_inj (comma_not_mem_mapper _) (comma_not_mem_mapper _),
            List.append_cancel_left_eq, List.append_cancel_left_eq,
            decimal_injective.eq_iff] at hpath
          have hi : i = t.resourceIndex := Fin.ext (by exact_mod_cast hpath.2)
          cases hcfg : cfg.useUdd with
          | false =>
              rw [Nodes.place, h.noUdd hcfg] at hplace
              cases hplace
          | true =>
              rw [Nodes.place, hpath.1, hreg.udd hcfg] at hplace
              cases hplace
              rw [hi]
              rfl

end Claims

end Cuddl
