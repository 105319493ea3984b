import Cuddl.Properties.Mapping
import Cuddl.Properties.Registry

/-!
# Advertised capabilities

The flags that a CLAIM or INFO of an event source reports are computed from the function pointers
of its driver, and what makes the operations work is set up by registration, under conditions on the
interrupt number and the handler.  The flags are real for a device exactly when the two agree on it
(`advertisesOnlyReal_iff`).
-/

namespace Cuddl

open Foundation.Machine Foundation.Search

/-! ## The flags and what is behind them -/

/-- `CUDDL_EVENTSRCF_WAITABLE` -/
def eventsrcfWaitable : BitVec 32 := 2

/-- `CUDDL_EVENTSRCF_HAS_DISABLE` -/
def eventsrcfHasDisable : BitVec 32 := 4

/-- `CUDDL_EVENTSRCF_HAS_ENABLE` -/
def eventsrcfHasEnable : BitVec 32 := 8

/-- A 4-byte `write` gets to the routine of the driver: UIO takes it for a device with an interrupt
and an `irqcontrol` hook, and the hook calls the routine. -/
structure Device.Writes (dev : Device) (irqOn : Int32) (routine : IntrRoutine) : Prop where
  irq : dev.priv.uio.irq ≠ irqNone
  hook : dev.priv.uio.irqcontrol = true
  routine : uioEventsrcOrMemIrqcontrol dev irqOn = some routine

/-- What the flags promise works on the device. -/
structure Device.Keeps (dev : Device) (flags : BitVec 32) : Prop where
  /-- UIO fails every `read` of a device without an interrupt. -/
  waitable : flags &&& eventsrcfWaitable ≠ 0 → dev.priv.uio.irq ≠ irqNone
  hasEnable : flags &&& eventsrcfHasEnable ≠ 0 → dev.Writes 1 .enable
  hasDisable : flags &&& eventsrcfHasDisable ≠ 0 → dev.Writes 0 .disable

/-- `info` is what a CLAIM or INFO in state `s` says about the event source of `p`. -/
inductive Reports (cfg : Config) (s : KernelState) (p : DevPtr) (info : EventsrcInfo) : Prop
  | claim {rt : Bool} {data : ClaimData} {io : IoFaults} {res : IoctlResult}
      (call : managerIoctl cfg s (.claim .eventsrc rt data) io = some res)
      (reply : res.reply = some (.eventsrcInfo info))
      (slot : s.devices info.token.deviceIndex = some p)
  | info {data : ClaimData} {io : IoFaults} {res : IoctlResult}
      (call : managerIoctl cfg s (.info .eventsrc data) io = some res)
      (reply : res.reply = some (.eventsrcInfo info))
      (slot : s.devices info.token.deviceIndex = some p)

/-- Whenever a device of this configuration has been managed, whatever else happens then, its event
source is reported with flags that it keeps. -/
def AdvertisesOnlyReal (cfg : Config) (dev : Device) : Prop :=
  ∀ (s₀ s : KernelState) (p : DevPtr) (reg : RegOutcome) (info : EventsrcInfo),
    s₀.heap p = dev → (deviceManage cfg s₀ p reg).ret = 0 →
    Reachable (exec cfg) (LeavesDevice p) (deviceManage cfg s₀ p reg).state s →
    Reports cfg s p info → (s.heap p).Keeps info.flags

/-- The event source has no name, and is never reported; or the device gets an interrupt, and the
hook if there is a routine for it.  Only a custom interrupt, or a numbered one with a handler, is
passed on to UIO; what the driver has left in the UIO part stays there otherwise. -/
def Equipped (dev : Device) : Prop :=
  let intr := (dev.events 0).intr
  (dev.events 0).name = none ∨
    (intr.irq = irqCustom ∨ (0 < intr.irq ∧ intr.handler = true) ∨ dev.priv.uio.irq ≠ irqNone) ∧
      (intr.enable = true ∨ intr.disable = true →
        0 < intr.irq ∨ intr.irq = irqCustom ∨ dev.priv.uio.irqcontrol = true)

/-! ## What registration sets up -/

theorem UioInfo.setup_irq_iff (cfg : Config) (uio : UioInfo) (intr : Interrupt) :
    (uio.setup cfg intr).irq ≠ irqNone ↔
      intr.irq = irqCustom ∨ (0 < intr.irq ∧ intr.handler = true) ∨ uio.irq ≠ irqNone := by
  have hcustom : irqCustom ≠ irqNone := by decide
  have hpos : 0 < intr.irq → intr.irq ≠ irqNone := fun h heq => by
    rw [heq] at h
    exact absurd h (by decide)
  unfold UioInfo.setup
  by_cases hirq : intr.irq = irqCustom
  · -- the second branch of the code, whatever the first one has done
    simp [hirq, hcustom]
  · by_cases hhandled : 0 < intr.irq ∧ intr.handler = true
    · cases hudd : cfg.useUdd with
      | true => simp [hirq, hhandled, hcustom]
      | false => simp [hirq, hhandled, hpos hhandled.1]
    · -- an interrupt number without a handler is not passed on
      by_cases hnumber : 0 < intr.irq
      · have hhandler : intr.handler = false := by
          cases h : intr.handler with
          | true => exact absurd ⟨hnumber, h⟩ hhandled
          | false => rfl
        simp [hirq, hhandler, hnumber]
      · simp [hirq, hnumber]

theorem UioInfo.setup_irqcontrol_iff (cfg : Config) (uio : UioInfo) (intr : Interrupt) :
    (uio.setup cfg intr).irqcontrol = true ↔
      0 < intr.irq ∨ intr.irq = irqCustom ∨ uio.irqcontrol = true := by
  unfold UioInfo.setup
  by_cases hirq : intr.irq = irqCustom
  · simp [hirq]
  · by_cases hnumber : 0 < intr.irq
    · simp [hnumber]
    · simp [hirq, hnumber]

/-! ## What a reply says -/

/-- The flags of the event source, which do not depend on who asks or how. -/
def Device.advertised (dev : Device) : BitVec 32 :=
  (eventsrcInfo dev false ⟨0, 0⟩).flags

theorem flags_eventsrcInfo (dev : Device) (rt : Bool) (token : Token .eventsrc) :
    (eventsrcInfo dev rt token).flags = dev.advertised := by
  have hindex : token.resourceIndex = 0 := Subsingleton.elim (α := Fin 1) _ _
  simp only [Device.advertised, eventsrcInfo, hindex]

theorem advertised_eraseCounts (dev : Device) : dev.eraseCounts.advertised = dev.advertised := rfl

/-- Each flag is a bit of its own. -/
theorem eventsrcf_bits : ∀ shared enable disable isEnabled : Bool,
    let flags : BitVec 32 :=
      2 ||| (if shared then 1 else 0) ||| (if enable then 8 else 0) |||
        (if disable then 4 else 0) ||| (if isEnabled then 16 else 0)
    flags &&& eventsrcfWaitable ≠ 0 ∧ (flags &&& eventsrcfHasEnable ≠ 0 ↔ enable = true) ∧
      (flags &&& eventsrcfHasDisable ≠ 0 ↔ disable = true) := by
  decide

/-- The flags can be kept with an interrupt, and the hook if there is a routine for it. -/
theorem Device.keeps_advertised_iff (dev : Device) :
    dev.Keeps dev.advertised ↔
      dev.priv.uio.irq ≠ irqNone ∧
        ((dev.events 0).intr.enable = true ∨ (dev.events 0).intr.disable = true →
          dev.priv.uio.irqcontrol = true) := by
  let e := dev.events 0
  rcases eventsrcf_bits (e.flags &&& eventsrcfShared != 0) e.intr.enable e.intr.disable
    e.intr.isEnabled with ⟨hwaitable, henable, hdisable⟩
  constructor
  · intro h
    refine ⟨h.waitable hwaitable, ?_⟩
    rintro (hon | hoff)
    · exact (h.hasEnable (henable.2 hon)).hook
    · exact (h.hasDisable (hdisable.2 hoff)).hook
  · rintro ⟨hirq, hhook⟩
    refine ⟨fun _ => hirq, ?_, ?_⟩
    · intro hflag
      have hon : (dev.events 0).intr.enable = true := henable.1 hflag
      exact ⟨hirq, hhook (Or.inl hon), by simp [uioEventsrcOrMemIrqcontrol, hon]⟩
    · intro hflag
      have hoff : (dev.events 0).intr.disable = true := hdisable.1 hflag
      exact ⟨hirq, hhook (Or.inr hoff), by simp [uioEventsrcOrMemIrqcontrol, hoff]⟩

/-- A reply is about the device that the lookup finds, counted or not. -/
theorem reply_ioctlClaimInfo {cfg : Config} {k : ResourceKind} {claim rt : Bool} {data : ClaimData}
    {io : IoFaults} {s : KernelState} {reply : Reply}
    (h : (ioctlClaimInfo cfg k claim rt data io s).reply = some reply) :
    ∃ d p i dev, managerLookup s k data.id = some (d, p, i) ∧
      dev.eraseCounts = (s.heap p).eraseCounts ∧ reply = infoReply cfg dev rt k ⟨d, i⟩ := by
  cases hfind : managerLookup s k data.id with
  | none => simp [ioctlClaimInfo, hfind] at h
  | some found =>
      rcases found with ⟨d, p, i⟩
      cases claim with
      | false =>
          cases hcopy : io.copyToUserFails with
          | true => simp [ioctlClaimInfo, hfind, hcopy] at h
          | false =>
              simp only [ioctlClaimInfo, hfind, hcopy] at h
              exact ⟨d, p, i, s.heap p, rfl, rfl, by simpa using h.symm⟩
      | true =>
          rcases resourceClaim_cases s p ⟨k, i⟩ data.hostile with ⟨hres, _⟩ | ⟨hres, _⟩
          · simp [ioctlClaimInfo, hfind, hres, Errno.EBUSY] at h
          · -- the answer is written before the list entry is allocated
            have hreply : reply = infoReply cfg ((s.takeRef p ⟨k, i⟩).heap p) rt k ⟨d, i⟩ := by
              cases hcopy : io.copyToUserFails with
              | true => simp [ioctlClaimInfo, hfind, hres, hcopy] at h
              | false =>
                  cases halloc : io.refAllocFails with
                  | true => simpa [ioctlClaimInfo, hfind, hres, hcopy, halloc] using h.symm
                  | false => simpa [ioctlClaimInfo, hfind, hres, hcopy, halloc] using h.symm
            exact ⟨d, p, i, _, rfl, (sameShape_takeRef s p ⟨k, i⟩).heap p, hreply⟩

/-- A reported event source has a name, and the flags are those of its device. -/
theorem Reports.flags_eq {cfg : Config} {s : KernelState} {p : DevPtr} {info : EventsrcInfo}
    (h : Reports cfg s p info) :
    ((s.heap p).events 0).name.isSome ∧ info.flags = (s.heap p).advertised := by
  have hreply : ∀ (claim rt : Bool) (data : ClaimData) (io : IoFaults),
      (ioctlClaimInfo cfg .eventsrc claim rt data io s).reply = some (.eventsrcInfo info) →
      s.devices info.token.deviceIndex = some p →
      ((s.heap p).events 0).name.isSome ∧ info.flags = (s.heap p).advertised := by
    intro claim rt data io hsome hslot
    rcases reply_ioctlClaimInfo hsome with ⟨d, q, i, dev, hfind, hdev, heq⟩
    cases heq
    rcases managerLookup_eq_some hfind with ⟨hd, hmatch⟩
    cases hd.symm.trans hslot
    have hname := (resourceMatches_some_iff.1 hmatch).1
    have hindex : i = 0 := Subsingleton.elim (α := Fin 1) _ _
    subst hindex
    refine ⟨hname, ?_⟩
    -- what a claim changes in the device is a count, and no flag depends on it
    rw [flags_eventsrcInfo, ← advertised_eraseCounts dev, hdev, advertised_eraseCounts]
  cases h with
  | claim hcall hsome hslot =>
      rcases managerIoctl_cases hcall with ⟨_, _, _, hnone⟩ | ⟨_, hcmd⟩
      · cases hnone.symm.trans hsome
      · cases hcmd
        exact hreply _ _ _ _ hsome hslot
  | info hcall hsome hslot =>
      rcases managerIoctl_cases hcall with ⟨_, _, _, hnone⟩ | ⟨_, hcmd⟩
      · cases hnone.symm.trans hsome
      · cases hcmd
        exact hreply _ _ _ _ hsome hslot

/-! ## Managed devices -/

/-- The flags of a managed device are kept exactly when its driver has equipped it. -/
theorem keeps_advertised_of_reachable {cfg : Config} {s₀ s : KernelState} {p : DevPtr}
    {reg : RegOutcome} (hmanage : (deviceManage cfg s₀ p reg).ret = 0)
    (hrun : Reachable (exec cfg) (LeavesDevice p) (deviceManage cfg s₀ p reg).state s) :
    ((s.heap p).events 0).name = ((s₀.heap p).events 0).name ∧
      (((s₀.heap p).events 0).name.isSome →
        ((s.heap p).Keeps (s.heap p).advertised ↔ Equipped (s₀.heap p))) := by
  have hkept := eraseCounts_of_reachable hrun
  rcases deviceManage_cases cfg s₀ p reg with
    ⟨dev', _, ⟨hne, _⟩ | ⟨_, _, _, _, hreg, d, _, hst⟩⟩
  · exact absurd hmanage hne
  · rw [hst] at hkept
    simp only [KernelState.setSlot_heap, KernelState.setDevice_heap_self] at hkept
    rcases hreg.2.2.2 with ⟨hevents, u, huio⟩
    -- a claim changes neither the routines nor the hooks
    have hsource : (((s.heap p).events 0).name, ((s.heap p).events 0).intr) =
        (((s₀.heap p).events 0).name, ((s₀.heap p).events 0).intr) := by
      have h := congrArg (fun dev : Device => ((dev.events 0).name, (dev.events 0).intr)) hkept
      rw [← hevents]
      exact h
    rcases Prod.mk.inj hsource with ⟨hname, hintr⟩
    have hpriv : (s.heap p).priv = dev'.priv := by
      have h := congrArg Device.priv hkept
      simpa only [Device.eraseCounts] using h
    refine ⟨hname, ?_⟩
    intro hsome
    have hnone : ((s₀.heap p).events 0).name ≠ none := Option.isSome_iff_ne_none.1 hsome
    rw [Device.keeps_advertised_iff, hintr, hpriv, huio]
    simp only [UioInfo.setup_irq_iff, UioInfo.setup_irqcontrol_iff, Equipped, hnone, false_or]

/-- The event source of the only device is found by a query without any names. -/
theorem exists_reports (cfg : Config) {s : KernelState} {d : Slot} {p : DevPtr}
    (honly : ∀ e q, s.devices e = some q ↔ e = d ∧ q = p)
    (hnamed : ((s.heap p).events 0).name.isSome) : ∃ info, Reports cfg s p info := by
  let data : ClaimData := ⟨kernelVersionCode, ⟨[], [], [], 0⟩, 0, 0⟩
  have hcompat : versionCodeIsCompat kernelVersionCode = true := by decide +kernel
  have hacc : Accepted (.info .eventsrc data) Sample.noFaults := by
    refine ⟨rfl, ?_⟩
    rintro v ⟨⟩
    exact ⟨rfl, hcompat⟩
  have hcmd : managerIoctl cfg s (.info .eventsrc data) Sample.noFaults =
      some (ioctlClaimInfo cfg .eventsrc false false data Sample.noFaults s) :=
    managerIoctl_of_accepted hacc
  have hfind : managerLookup s .eventsrc ⟨[], [], [], 0⟩ = some (d, p, 0) := by
    refine managerLookup_only honly ?_
    intro j
    have hj : j = 0 := Subsingleton.elim (α := Fin 1) _ _
    subst hj
    exact iff_of_true (resourceMatches_some_iff.2 ⟨hnamed, Or.inl rfl⟩) rfl
  rcases ioctlClaimInfo_info_cases cfg .eventsrc data Sample.noFaults s with
    ⟨hnone, _⟩ | ⟨d', p', i, hfind', ⟨hfails, _⟩ | ⟨_, heq⟩⟩
  · cases hfind.symm.trans hnone
  · cases hfails
  · cases hfind.symm.trans hfind'
    rw [heq] at hcmd
    exact ⟨_, .info hcmd rfl ((honly d p).2 ⟨rfl, rfl⟩)⟩

/-! ## When the capabilities are real -/

/-- A device with a named event source can be managed, and then asked for its flags. -/
theorem AdvertisesOnlyReal.keeps {cfg : Config} {dev : Device} (h : AdvertisesOnlyReal cfg dev)
    (hgroup : dev.group.isSome) (hname : dev.name.isSome)
    (hnamed : (dev.events 0).name.isSome) : Equipped dev := by
  -- the device is the first one to be managed, and asked for its flags right after that
  let s₀ : KernelState :=
    { heap := fun _ => dev, devices := fun _ => none, refs := fun _ => []
      modules := fun _ => ⟨true, 0⟩ }
  have hfirst := deviceManage_first cfg (s := s₀) (p := 0) (fun _ => rfl) hgroup hname fun _ =>
    Sample.deviceRegister_registered cfg hgroup hname
  rcases hfirst with ⟨hmanage, d, honly⟩
  have hrun : Reachable (exec cfg) (LeavesDevice 0) (deviceManage cfg s₀ 0 Sample.registered).state
      (deviceManage cfg s₀ 0 Sample.registered).state := Reachable.refl _
  rcases keeps_advertised_of_reachable hmanage hrun with ⟨hkept, hkeeps⟩
  have hnamed' : (((deviceManage cfg s₀ 0 Sample.registered).state.heap 0).events 0).name.isSome :=
    hkept.symm ▸ hnamed
  rcases exists_reports cfg honly hnamed' with ⟨info, hinfo⟩
  have hreal := h s₀ _ 0 Sample.registered info rfl hmanage hrun hinfo
  rw [hinfo.flags_eq.2] at hreal
  exact (hkeeps hnamed).1 hreal

/-- What CLAIM and INFO say about the event source of a managed device is true exactly when it has
no name to be asked for, or its device has got an interrupt, and a hook for its routines. -/
theorem advertisesOnlyReal_iff (cfg : Config) {dev : Device} (hgroup : dev.group.isSome)
    (hname : dev.name.isSome) : AdvertisesOnlyReal cfg dev ↔ Equipped dev := by
  constructor
  · intro h
    cases hnamed : (dev.events 0).name with
    | none => exact Or.inl hnamed
    | some name => exact h.keeps hgroup hname (by simp [hnamed])
  · intro h s₀ s p reg info hheap hmanage hrun hinfo
    rcases hinfo.flags_eq with ⟨hnamed, hflags⟩
    rcases keeps_advertised_of_reachable hmanage hrun with ⟨hkept, hkeeps⟩
    rw [hflags]
    rw [hheap] at hkept hkeeps
    exact (hkeeps (hkept ▸ hnamed)).2 h

namespace Sample

/-- The sample device with an interrupt of its own that can be switched on and off. -/
def interruptDevice (irq : Int) (handler : Bool) : Device :=
  let dev := device "g" "x"
  { dev with
    events := fun i =>
      let e := dev.events i
      { e with
        intr := { e.intr with irq := irq, handler := handler, enable := true, disable := true } } }

end Sample

theorem advertisesOnlyReal_handled :
    AdvertisesOnlyReal Sample.config (Sample.interruptDevice 5 true) :=
  (advertisesOnlyReal_iff Sample.config (by decide +kernel) (by decide +kernel)).2
    (Or.inr ⟨Or.inr (Or.inl (by decide +kernel)), fun _ => Or.inl (by decide +kernel)⟩)

/-- An interrupt number without a handler: the event source is waitable by its flags, and has no
interrupt to wait for. -/
theorem unhandled_interrupt_advertised :
    (Sample.interruptDevice 5 false).group.isSome ∧ (Sample.interruptDevice 5 false).name.isSome ∧
      ¬ AdvertisesOnlyReal Sample.config (Sample.interruptDevice 5 false) := by
  have hgroup : (Sample.interruptDevice 5 false).group.isSome := by decide +kernel
  have hname : (Sample.interruptDevice 5 false).name.isSome := by decide +kernel
  refine ⟨hgroup, hname, ?_⟩
  intro h
  rcases h.keeps hgroup hname (by decide +kernel) with hnone | ⟨hirq | hirq | hirq, _⟩
  · exact absurd (congrArg Option.isSome hnone) (by decide +kernel)
  · exact absurd hirq (by decide +kernel)
  · exact absurd hirq (by decide +kernel)
  · exact absurd hirq (by decide +kernel)

end Cuddl
