import Cuddl.Foundation.Machine
import Cuddl.Kernel.Abstraction

/-!
# The manager as a machine

Everything that can happen to the manager's state, one entry point at a time: each holds the
manager's lock while it runs, so runs are sequences of these actions.  Results about runs are about
`Reachable (exec cfg) Guard`, with a guard that says which actions a run may contain.
-/

namespace Cuddl

open Foundation

inductive Op
  /-- A driver prepares a device structure. -/
  | fill (p : DevPtr) (dev : Device)
  | manage (p : DevPtr) (out : RegOutcome)
  | release (p : DevPtr) (out : RegOutcome)
  | ioctl (req : Request) (io : IoFaults)
  /-- The janitor cleans up after a process. -/
  | freeRefs (pid : Pid)

/-- `none` is a kernel crash. -/
def exec (cfg : Config) : Op → KernelState → Option KernelState
  | .fill p dev, s => some (s.setDevice p dev)
  | .manage p out, s => some (deviceManage cfg s p out).state
  | .release p out, s => some (deviceRelease cfg s p out).state
  | .ioctl req io, s => (managerIoctl cfg s req io).map IoctlResult.state
  | .freeRefs pid, s => managerFreeRefsForPid s pid

theorem exec_ioctl {cfg : Config} {s : KernelState} {req : Request} {io : IoFaults}
    {res : IoctlResult} (h : managerIoctl cfg s req io = some res) :
    exec cfg (.ioctl req io) s = some res.state := by
  simp [exec, h]

/-- The data of the release that an action makes, if it makes one. -/
def Op.releaseData? : Op → Option (Σ _ : ResourceKind, ReleaseData)
  | .ioctl (.release k _ data) _ => some ⟨k, data⟩
  | _ => none

theorem Op.releaseData?_eq_some_iff {a : Op} {x : Σ _ : ResourceKind, ReleaseData} :
    a.releaseData? = some x ↔ ∃ rt io, a = .ioctl (.release x.1 rt x.2) io := by
  rcases x with ⟨k, data⟩
  constructor
  · intro h
    cases a with
    | ioctl req io =>
        cases req with
        | release k' rt data' =>
            cases h
            exact ⟨rt, io, rfl⟩
        | _ => cases h
    | _ => cases h
  · rintro ⟨rt, io, rfl⟩
    rfl

/-- The manager after `cuddlk_manager_init`: an empty table and empty lists, over devices and
modules that exist already. -/
structure KernelState.Fresh (s : KernelState) : Prop where
  devices : ∀ d, s.devices d = none
  refs : ∀ k, s.refs k = []

theorem KernelState.Fresh.tableInjective {s : KernelState} (h : s.Fresh) : TableInjective s := by
  intro d d' p hd
  simp [h.devices d] at hd

/-- A table without claims. -/
structure KernelState.Idle (s : KernelState) : Prop where
  tableInjective : TableInjective s
  countAt : ∀ r, s.countAt r = 0
  refs : ∀ k, s.refs k = []

theorem KernelState.Fresh.idle {s : KernelState} (h : s.Fresh) : s.Idle :=
  ⟨h.tableInjective, fun r => countAt_of_empty (h.devices r.1), h.refs⟩

theorem held_eq_zero {s : KernelState} (hrefs : ∀ k, s.refs k = []) : s.ledger.held = 0 := by
  simp [KernelState.ledger, hrefs]

theorem KernelState.Idle.balancedAt {s : KernelState} (h : s.Idle) (r : Res) :
    s.ledger.BalancedAt r :=
  Ledger.BalancedAt.of_empty (held_eq_zero h.refs) (h.countAt r)

theorem KernelState.Idle.deviceManage {s : KernelState} (h : s.Idle) (cfg : Config) {p : DevPtr}
    (out : RegOutcome) (hp : ¬ s.Managed p) (hzero : (s.heap p).Unclaimed) :
    (deviceManage cfg s p out).state.Idle := by
  have hledger := ledger_deviceManage cfg out hp hzero
  refine ⟨tableInjective_deviceManage cfg out h.tableInjective hp, ?_, ?_⟩
  · intro r
    have hcount := congrFun (congrArg Ledger.count hledger) r
    exact hcount.trans (h.countAt r)
  · intro k
    rcases deviceManage_cases cfg s p out with
      ⟨dev', _, ⟨_, hst⟩ | ⟨_, _, _, _, _, d, _, hst⟩⟩
    · rw [hst]
      exact h.refs k
    · rw [hst]
      exact h.refs k

/-! ## What an action does to the table -/

/-- A request changes counts, lists and module references only. -/
theorem exec_ioctl_sameShape {cfg : Config} {req : Request} {io : IoFaults} {s s' : KernelState}
    (h : exec cfg (.ioctl req io) s = some s') : SameShape s s' := by
  rcases Option.map_eq_some_iff.1 h with ⟨res, hres, rfl⟩
  exact managerIoctl_sameShape hres

theorem exec_devices {cfg : Config} {a : Op} {s s' : KernelState} (h : exec cfg a s = some s') :
    s'.devices = s.devices ∨
      (∃ p out d, a = .manage p out ∧ (deviceManage cfg s p out).ret = 0 ∧
        managerFindEmptySlot s = some d ∧
        s'.devices = Function.update s.devices d (some p)) ∨
      ∃ p out d, a = .release p out ∧ s.devices d = some p ∧
        s'.devices = Function.update s.devices d none := by
  cases a with
  | fill p dev =>
      cases h
      exact Or.inl rfl
  | manage p out =>
      cases h
      -- the table changes only when the device has found a slot
      rcases deviceManage_cases cfg s p out with
        ⟨dev', _, ⟨_, hst⟩ | ⟨hret, _, _, _, _, d, hslot, hst⟩⟩
      · exact Or.inl (by rw [hst]; rfl)
      · exact Or.inr (Or.inl ⟨p, out, d, rfl, hret, hslot, by rw [hst]; rfl⟩)
  | release p out =>
      cases h
      rcases deviceRelease_cases cfg s p out with ⟨_, hst⟩ | ⟨d, _, hd, hst⟩
      · exact Or.inl (by rw [hst])
      · exact Or.inr (Or.inr ⟨p, out, d, rfl, hd, by rw [hst]; rfl⟩)
  | ioctl req io => exact Or.inl (exec_ioctl_sameShape h).devices
  | freeRefs pid => exact Or.inl (managerFreeRefsForPid_sameShape h).devices

/-- Only its driver and `cuddlk_device_manage` write to a device, apart from its counts. -/
theorem exec_eraseCounts {cfg : Config} {a : Op} {s s' : KernelState} {p : DevPtr}
    (hfill : ∀ dev, a ≠ .fill p dev) (hmanage : ∀ out, a ≠ .manage p out)
    (h : exec cfg a s = some s') : (s'.heap p).eraseCounts = (s.heap p).eraseCounts := by
  cases a with
  | fill q dev =>
      cases h
      -- another structure is prepared
      have hne : p ≠ q := by
        rintro rfl
        exact hfill dev rfl
      simp [KernelState.setDevice, hne]
  | manage q out =>
      cases h
      have hne : p ≠ q := by
        rintro rfl
        exact hmanage out rfl
      rcases deviceManage_cases cfg s q out with
        ⟨dev', _, ⟨_, hst⟩ | ⟨_, _, _, _, _, d, _, hst⟩⟩
      · rw [hst]
        simp [KernelState.setDevice, hne]
      · rw [hst]
        simp [KernelState.setDevice, hne]
  | release q out =>
      cases h
      rcases deviceRelease_cases cfg s q out with ⟨_, hst⟩ | ⟨d, _, _, hst⟩
      · rw [hst]
      · rw [hst]
        rfl
  | ioctl req io => exact (exec_ioctl_sameShape h).heap p
  | freeRefs pid => exact (managerFreeRefsForPid_sameShape h).heap p

/-! ## Conditions on actions -/

/-- Devices are managed and prepared while unmanaged, and released while managed. -/
def InTurn (s : KernelState) : Op → Prop
  | .fill p _ => ¬ s.Managed p
  | .manage p _ => ¬ s.Managed p
  | .release p _ => s.Managed p
  | _ => True

instance (s : KernelState) : (a : Op) → Decidable (InTurn s a)
  | .fill p _ => inferInstanceAs (Decidable (¬ s.Managed p))
  | .manage p _ => inferInstanceAs (Decidable (¬ s.Managed p))
  | .release p _ => inferInstanceAs (Decidable (s.Managed p))
  | .ioctl _ _ => .isTrue trivial
  | .freeRefs _ => .isTrue trivial

instance (dev : Device) : Decidable dev.Unclaimed :=
  decidable_of_iff
    ((∀ i, dev.refCount ⟨.memregion, i⟩ = 0) ∧ ∀ i, dev.refCount ⟨.eventsrc, i⟩ = 0) <| by
      constructor
      · rintro ⟨hmem, hevt⟩ ⟨k, i⟩
        cases k with
        | memregion => exact hmem i
        | eventsrc => exact hevt i
      · intro h
        exact ⟨fun i => h _, fun i => h _⟩

/-- What registration gives a device, and counting keeps, holds of every managed device. -/
theorem managed_invariant {cfg : Config} {P : Device → Prop} {s₀ s : KernelState}
    (hfresh : s₀.Fresh) (hrun : Machine.Reachable (exec cfg) InTurn s₀ s)
    (hcounts : ∀ {dev dev' : Device}, dev'.eraseCounts = dev.eraseCounts → P dev → P dev')
    (hmanage : ∀ {s p out}, (deviceManage cfg s p out).ret = 0 →
      P ((deviceManage cfg s p out).state.heap p)) :
    ∀ d p, s.devices d = some p → P (s.heap p) := by
  refine hrun.invariant (I := fun s => ∀ d p, s.devices d = some p → P (s.heap p)) ?_ ?_
  · intro d p hd
    simp [hfresh.devices d] at hd
  · intro s s' a h hguard hexec d p hd
    -- a device that was managed before keeps everything but its counts
    have hkept : s.devices d = some p → P (s'.heap p) := by
      intro hd₀
      refine hcounts (exec_eraseCounts ?_ ?_ hexec) (h d p hd₀)
      · rintro dev rfl
        exact hguard ⟨d, hd₀⟩
      · rintro out rfl
        exact hguard ⟨d, hd₀⟩
    rcases exec_devices hexec with
      hsame | ⟨q, out, e, rfl, hret, _, hput⟩ | ⟨q, out, e, _, _, htaken⟩
    · exact hkept (hsame ▸ hd)
    · by_cases hde : d = e
      · -- the device that has just been managed
        rw [hput, hde, Function.update_self] at hd
        cases hd
        cases hexec
        exact hmanage hret
      · rw [hput, Function.update_of_ne hde] at hd
        exact hkept hd
    · by_cases hde : d = e
      · rw [htaken, hde, Function.update_self] at hd
        cases hd
      · rw [htaken, Function.update_of_ne hde] at hd
        exact hkept hd

/-- The ioctl returns zero. -/
def IoctlOk (cfg : Config) (s : KernelState) (req : Request) (io : IoFaults) : Prop :=
  ∃ res, managerIoctl cfg s req io = some res ∧ res.ret = 0

instance (cfg : Config) (s : KernelState) (req : Request) (io : IoFaults) :
    Decidable (IoctlOk cfg s req io) :=
  decidable_of_iff ((managerIoctl cfg s req io).any fun res => res.ret == 0) <| by
    simp [IoctlOk, Option.any_eq_true]

/-- The sender of the release is on the list for the token it gives. -/
def ReleaseData.Held (data : ReleaseData) (k : ResourceKind) (s : KernelState) : Prop :=
  ∃ t, data.token? k = some t ∧ ⟨t, data.pid⟩ ∈ s.refs k

instance (data : ReleaseData) (k : ResourceKind) (s : KernelState) :
    Decidable (data.Held k s) :=
  decidable_of_iff ((data.token? k).any fun t => decide (⟨t, data.pid⟩ ∈ s.refs k)) <| by
    simp [ReleaseData.Held, Option.any_eq_true]

/-! ## A small system to compute with -/

namespace Sample

def config : Config :=
  { useUdd := false
    pageShift := 12
    pageShift_ge := by decide
    pageShift_lt := by decide
    commitHash := []
    repoIsDirty := false }

def str (s : String) : KStr :=
  { chars := (ascii s).filter fun c => c ≠ 0
    nonzero := by simp
    behind := fun _ => 0 }

/-- A device of group `g` with one memory region of one page and one event source. -/
def device (group name : String) : Device :=
  let region : Memregion :=
    { name := some (str "bar"), flags := 0, refCount := 0
      paAddr := 0, paLen := 4096, startOffset := 0, len := 0, type := 1 }
  let source : Eventsrc := { Device.zeroed.events 0 with name := some (str "irq") }
  { Device.zeroed with
    group := some (str group)
    name := some (str name)
    mem := fun i => if i = 0 then region else Device.zeroed.mem i
    events := fun _ => source }

/-- Device 0 is `g.x`, every other device is `g.a`; nothing is managed yet. -/
def kernel : KernelState :=
  { heap := fun p => if p = 0 then device "g" "x" else device "g" "a"
    devices := fun _ => none
    refs := fun _ => []
    modules := fun _ => ⟨true, 0⟩ }

theorem kernel_fresh : kernel.Fresh :=
  ⟨fun _ => rfl, fun _ => rfl⟩

theorem kernel_idle : kernel.Idle :=
  kernel_fresh.idle

def registered : RegOutcome :=
  { kasprintfFails := false, uioRegister := 0, minor := 0, uddRegister := 0, uddUnregister := 0 }

theorem deviceRegister_registered (cfg : Config) {dev : Device} (hgroup : dev.group.isSome)
    (hname : dev.name.isSome) : (deviceRegister cfg dev registered).ret = 0 := by
  rcases Option.isSome_iff_exists.1 hgroup with ⟨g, hg⟩
  rcases Option.isSome_iff_exists.1 hname with ⟨n, hn⟩
  by_cases hcfg : cfg.useUdd = true
  · simp [deviceRegister, hg, hn, registered, hcfg]
  · simp [deviceRegister, hg, hn, registered, hcfg]

def noFaults : IoFaults :=
  { kzallocFails := false, copyFromUserFails := false, copyToUserFails := false
    refAllocFails := false, isEnabled := fun _ => 0 }

/-- A claim by `pid` of the first memory region there is. -/
def claimAny (pid : Pid) (options : BitVec 32) : Request :=
  .claim .memregion false
    { versionCode := kernelVersionCode, id := ⟨[], [], [], 0⟩, pid := pid, options := options }

/-- An info request by `pid` about the first memory region there is. -/
def infoAny (pid : Pid) : Request :=
  .info .memregion
    { versionCode := kernelVersionCode, id := ⟨[], [], [], 0⟩, pid := pid, options := 0 }

/-- Memory region 0 of slot 0. -/
def firstToken : Token .memregion :=
  ⟨0, 0⟩

/-- A release by `pid` of memory region 0 of slot 0. -/
def releaseFirst (pid : Pid) : Request :=
  .release .memregion false
    { versionCode := kernelVersionCode, deviceIndex := 0, resourceIndex := 0, pid := pid }

/-- The kernel once device 0 has been managed. -/
def managed : KernelState :=
  (deviceManage config kernel 0 registered).state

theorem managed_idle : managed.Idle :=
  kernel_idle.deviceManage config registered (by decide +kernel) (by decide +kernel)

/-- The kernel once device 0 and then device 1 have been managed. -/
def managedBoth : KernelState :=
  (deviceManage config managed 1 registered).state

end Sample

end Cuddl
