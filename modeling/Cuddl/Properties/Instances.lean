import Cuddl.Kernel.System

/-!
# Automatic instance numbers

`cuddlk_manager_next_available_instance_id` moves the instance number and the start slot on
together.  It therefore sees instance `k + 1` only behind instance `k`: the number it returns is
free when the devices with the instances `1, 2, ...` of the same name sit in ascending slots
(`InSlotOrder`), and may be taken when they do not (`not_distinct`).  A slot freed by a device of
another name and filled again is enough to break the order.
-/

namespace Cuddl

open Foundation.CString Foundation.Search Foundation.Machine

/-! ## Names and triples -/

/-- Group and name as the lookups compare them. -/
def Device.label (dev : Device) : Option (List UInt8) × Option (List UInt8) :=
  (dev.groupChars.map (text maxStrLen), dev.nameChars.map (text maxStrLen))

def Device.triple (dev : Device) : Option (List UInt8) × Option (List UInt8) × Int :=
  (dev.groupChars, dev.nameChars, dev.instanceId)

/-- The device has a group and a name, and neither is the empty string. -/
def Device.Named (dev : Device) : Prop :=
  dev.groupChars.getD [] ≠ [] ∧ dev.nameChars.getD [] ≠ []

instance (dev : Device) : Decidable dev.Named :=
  inferInstanceAs (Decidable (_ ∧ _))

theorem label_eq_of_triple_eq {d d' : Device} (h : d.triple = d'.triple) :
    d.label = d'.label ∧ d.instanceId = d'.instanceId := by
  simp only [Device.triple, Prod.mk.injEq] at h
  rcases h with ⟨hg, hn, hi⟩
  exact ⟨by simp [Device.label, hg, hn], hi⟩

theorem text_ne_nil {s : KStr} (h : s.chars ≠ []) : text maxStrLen s.chars ≠ [] := by
  rcases hs : s.chars with _ | ⟨c, cs⟩
  · exact absurd hs h
  · have hc : c ≠ 0 := s.nonzero c (by simp [hs])
    simp [text, hc]

/-- A non-empty pattern agrees with the names that have the same first characters. -/
theorem agrees_chars_iff {field : Option KStr} {s : KStr} (h : s.chars ≠ []) :
    Agrees field s.chars ↔
      (field.map KStr.chars).map (text maxStrLen) = some (text maxStrLen s.chars) := by
  have hne := text_ne_nil h
  cases field with
  | none => simp [Agrees, hne]
  | some f => simp [Agrees, hne]

/-- Slot `d` holds a device with the group and name of `dev`, under instance `j`. -/
def At (s : KernelState) (dev : Device) (j : Int) (d : Slot) : Prop :=
  ∃ p ∈ s.devices d, deviceAgrees (s.heap p) dev.groupChars dev.nameChars j = true

instance (s : KernelState) (dev : Device) (j : Int) (d : Slot) : Decidable (At s dev j d) :=
  inferInstanceAs (Decidable (∃ p ∈ s.devices d, _))

theorem deviceAgrees_label_iff {dev d' : Device} (hnamed : dev.Named) {j : Int} :
    deviceAgrees d' dev.groupChars dev.nameChars j = true ↔
      d'.label = dev.label ∧ (j = 0 ∨ d'.instanceId = j) := by
  rcases hnamed with ⟨hgroup, hname⟩
  cases hg : dev.group with
  | none => simp [Device.groupChars, hg] at hgroup
  | some g =>
      cases hn : dev.name with
      | none => simp [Device.nameChars, hn] at hname
      | some n =>
          have hg' : g.chars ≠ [] := by simpa [Device.groupChars, hg] using hgroup
          have hn' : n.chars ≠ [] := by simpa [Device.nameChars, hn] using hname
          simp only [Device.groupChars, Device.nameChars, Device.label, hg, hn, Option.map_some,
            Prod.mk.injEq]
          rw [deviceAgrees_iff, agrees_chars_iff hg', agrees_chars_iff hn']
          tauto

theorem at_iff {s : KernelState} {dev : Device} (hnamed : dev.Named) {j : Int} (hj : j ≠ 0)
    {d : Slot} :
    At s dev j d ↔ ∃ p, s.devices d = some p ∧ (s.heap p).label = dev.label ∧
      (s.heap p).instanceId = j := by
  unfold At
  simp only [deviceAgrees_label_iff hnamed, hj, false_or, Option.mem_def]

/-! ## The order the numbering relies on -/

/-- No two slots hold devices with the same label and instance. -/
def Distinct (s : KernelState) : Prop :=
  ∀ d d' p p', s.devices d = some p → s.devices d' = some p' →
    (s.heap p).label = (s.heap p').label → (s.heap p).instanceId = (s.heap p').instanceId → d = d'

/-- As long as the instances `1 ... k + 1` of the name are all in the table, instance `k` comes
before instance `k + 1`, or one of the first `k` is in the last slot (then there is no number at
all). -/
def InSlotOrder (s : KernelState) (dev : Device) : Prop :=
  ∀ (k : Int) (d d' : Slot), 1 ≤ k → (∀ j, 1 ≤ j → j ≤ k + 1 → ∃ e, At s dev j e) →
    At s dev k d → At s dev (k + 1) d' →
    d < d' ∨ ∃ j e, 1 ≤ j ∧ j ≤ k ∧ At s dev j e ∧ e.val = maxManagedDevices - 1

theorem Distinct.at_unique {s : KernelState} (h : Distinct s) {dev : Device}
    (hnamed : dev.Named) {j : Int} (hj : j ≠ 0) {d d' : Slot} (hd : At s dev j d)
    (hd' : At s dev j d') : d = d' := by
  rcases (at_iff hnamed hj).1 hd with ⟨p, hp, hlabel, hinst⟩
  rcases (at_iff hnamed hj).1 hd' with ⟨p', hp', hlabel', hinst'⟩
  exact h d d' p p' hp hp' (hlabel.trans hlabel'.symm) (hinst.trans hinst'.symm)

/-- One search of the loop: what it finds, and what it missed. -/
theorem findSlot_some {s : KernelState} {dev : Device} {j : Int} {start : Nat} {d : Slot}
    (h : managerFindDeviceSlotMatching s dev.groupChars dev.nameChars none j none start = some d) :
    start ≤ d ∧ At s dev j d := by
  rcases searchFrom_eq_some_iff.1 h with ⟨hle, hpass, _⟩
  refine ⟨hle, ?_⟩
  cases hd : s.devices d with
  | none => simp [hd] at hpass
  | some p => exact ⟨p, hd, by simpa [hd, deviceOffers, specified] using hpass⟩

theorem findSlot_none {s : KernelState} {dev : Device} {j : Int} {start : Nat}
    (h : managerFindDeviceSlotMatching s dev.groupChars dev.nameChars none j none start = none)
    {d : Slot} (hat : At s dev j d) : d.val < start := by
  by_contra hge
  have hfail := searchFrom_eq_none_iff.1 h d (not_lt.1 hge)
  rcases hat with ⟨p, hp, hag⟩
  have hd : s.devices d = some p := hp
  simp [hd, hag, deviceOffers, specified] at hfail

/-- The loop invariant: the instances below `i` have been met, in slots below `slot`, the last one
right before it.  Then a number that the loop returns belongs to no device. -/
theorem nextInstanceLoop_free {s : KernelState} {dev : Device} (hdist : Distinct s)
    (hnamed : dev.Named) (horder : InSlotOrder s dev) :
    ∀ {fuel slot : Nat} {i : Int}, 1 ≤ i → slot < maxManagedDevices →
      (∀ j, 1 ≤ j → j < i → ∃ e, At s dev j e ∧ e.val < slot) →
      ((i = 1 ∧ slot = 0) ∨ (1 < i ∧ ∃ e, At s dev (i - 1) e ∧ e.val + 1 = slot)) →
      0 ≤ nextInstanceLoop s dev fuel slot i →
      ∀ d, ¬ At s dev (nextInstanceLoop s dev fuel slot i) d := by
  intro fuel
  induction fuel with
  | zero =>
      intro slot i _ _ _ _ hret
      simp [nextInstanceLoop, Errno.ENOMEM] at hret
  | succ fuel ih =>
      intro slot i hi hslot hbelow hlast
      cases hfind : managerFindDeviceSlotMatching s dev.groupChars dev.nameChars none i none slot
        with
      | none =>
          intro _ d hd
          have hret : nextInstanceLoop s dev (fuel + 1) slot i = i := by
            simp [nextInstanceLoop, hfind]
          rw [hret] at hd
          -- instance `i` would have to sit in a slot that the search has passed
          have hbefore := findSlot_none hfind hd
          rcases hlast with ⟨_, rfl⟩ | ⟨hone, e, he, heSlot⟩
          · omega
          · -- instance `i` is in the table, so the order puts it behind instance `i - 1`
            have hall : ∀ j, 1 ≤ j → j ≤ i - 1 + 1 → ∃ e, At s dev j e := by
              intro j hj hji
              rcases lt_or_eq_of_le (show j ≤ i by omega) with hlt | rfl
              · rcases hbelow j hj hlt with ⟨e', he', _⟩
                exact ⟨e', he'⟩
              · exact ⟨d, hd⟩
            have hnext : At s dev (i - 1 + 1) d := by simpa using hd
            rcases horder (i - 1) e d (by omega) hall he hnext with
              hlt | ⟨j, e', hj, hji, he', hend⟩
            · have hlt' : e.val < d.val := hlt
              omega
            · rcases hbelow j hj (by omega) with ⟨e'', he'', hltSlot⟩
              have heq := hdist.at_unique hnamed (by omega) he' he''
              rw [heq] at hend
              simp only [maxManagedDevices] at hslot hend
              omega
      | some d =>
          rcases findSlot_some hfind with ⟨hle, hat⟩
          by_cases hend : d.val < maxManagedDevices - 1
          · have hrec : nextInstanceLoop s dev (fuel + 1) slot i =
                nextInstanceLoop s dev fuel (d + 1) (i + 1) := by
              simp only [nextInstanceLoop, hfind, hend, if_true]
            rw [hrec]
            -- the slot just found is the last one met, and bounds all that were met before
            refine ih (by omega) (by omega) ?_ (Or.inr ⟨by omega, d, by simpa using hat, rfl⟩)
            intro j hj hji
            rcases lt_or_eq_of_le (show j ≤ i by omega) with hlt | rfl
            · rcases hbelow j hj hlt with ⟨e, he, heSlot⟩
              exact ⟨e, he, by omega⟩
            · exact ⟨d, hat, by omega⟩
          · intro hret
            have hfull : nextInstanceLoop s dev (fuel + 1) slot i = -Errno.ENOMEM := by
              simp only [nextInstanceLoop, hfind, hend, if_false]
            rw [hfull] at hret
            simp [Errno.ENOMEM] at hret

/-- In slot order, a number handed out is free. -/
theorem nextInstance_free {s : KernelState} {dev : Device} (hdist : Distinct s)
    (hnamed : dev.Named) (horder : InSlotOrder s dev)
    (hret : 0 ≤ managerNextAvailableInstanceId s dev) (d : Slot) :
    ¬ At s dev (managerNextAvailableInstanceId s dev) d := by
  refine nextInstanceLoop_free hdist hnamed horder (le_refl 1) (by decide) ?_
    (Or.inl ⟨rfl, rfl⟩) hret d
  intro j hj hj1
  omega

/-! ## Runs -/

/-- Devices are managed without a number of their own, while unmanaged, and released while
managed. -/
def AutoNumbered (s : KernelState) : Op → Prop
  | .fill p _ => ¬ s.Managed p
  | .manage p _ => ¬ s.Managed p ∧ (s.heap p).instanceId = 0 ∧ (s.heap p).Named
  | .release p _ => s.Managed p
  | .ioctl _ _ => False
  | .freeRefs _ => False

/-- Moreover, each device is managed when the devices of its name are in slot order. -/
def OrderedNumbered (s : KernelState) (a : Op) : Prop :=
  AutoNumbered s a ∧ ∀ p out, a = .manage p out → InSlotOrder s (s.heap p)

theorem Distinct.setDevice {s : KernelState} (h : Distinct s) {p : DevPtr} (hp : ¬ s.Managed p)
    (dev : Device) : Distinct (s.setDevice p dev) := by
  have hheap : ∀ {d q}, s.devices d = some q → (s.setDevice p dev).heap q = s.heap q := by
    intro d q hq
    have hne : q ≠ p := by
      rintro rfl
      exact hp ⟨d, hq⟩
    simp [KernelState.setDevice, hne]
  intro d d' q q' hq hq' hlabel hinst
  have hq₀ : s.devices d = some q := hq
  have hq₀' : s.devices d' = some q' := hq'
  rw [hheap hq₀, hheap hq₀'] at hlabel hinst
  exact h d d' q q' hq₀ hq₀' hlabel hinst

theorem Distinct.deviceManage {cfg : Config} {s : KernelState} {p : DevPtr} {out : RegOutcome}
    (h : Distinct s) (hp : ¬ s.Managed p) (hzero : (s.heap p).instanceId = 0)
    (hnamed : (s.heap p).Named) (horder : InSlotOrder s (s.heap p)) :
    Distinct (deviceManage cfg s p out).state := by
  rcases deviceManage_cases cfg s p out with
    ⟨dev', hkept, ⟨_, hst⟩ | ⟨_, _, _, hnum, _, d, hslot, hst⟩⟩
  · rw [hst]
    exact h.setDevice hp dev'
  · have hold := h.setDevice hp dev'
    have hlabel : dev'.label = (s.heap p).label := by
      simp [Device.label, Device.groupChars, Device.nameChars, hkept.group, hkept.name]
    have hself : (s.setDevice p dev').heap p = dev' := by
      simp [KernelState.setDevice]
    -- nobody else in the table has the label and the instance of the new device
    have hfree : ∀ e q, s.devices e = some q →
        ((s.setDevice p dev').heap q).label = dev'.label →
        ((s.setDevice p dev').heap q).instanceId ≠ dev'.instanceId := by
      intro e q hq hq_label hq_inst
      have hne : q ≠ p := by
        rintro rfl
        exact hp ⟨e, hq⟩
      have hq_heap : (s.setDevice p dev').heap q = s.heap q := by
        simp [KernelState.setDevice, hne]
      rw [hq_heap] at hq_label hq_inst
      rcases hnum with ⟨hgiven, _⟩ | ⟨_, hauto, hnonneg⟩
      · exact hgiven hzero
      · rw [hauto] at hnonneg hq_inst
        have hat : At s (s.heap p) (managerNextAvailableInstanceId s (s.heap p)) e :=
          ⟨q, hq, (deviceAgrees_label_iff hnamed).2 ⟨hq_label.trans hlabel, Or.inr hq_inst⟩⟩
        exact nextInstance_free h hnamed horder hnonneg e hat
    rw [hst]
    intro d₁ d₂ q₁ q₂ hq₁ hq₂ hq_label hq_inst
    simp only [KernelState.setSlot_heap] at hq_label hq_inst
    -- the new slot against an old one, either way round; two old slots are as before
    rcases KernelState.setSlot_some_iff.1 hq₁ with ⟨rfl, rfl⟩ | ⟨_, hold₁⟩
    · rcases KernelState.setSlot_some_iff.1 hq₂ with ⟨rfl, _⟩ | ⟨_, hold₂⟩
      · rfl
      · rw [hself] at hq_label hq_inst
        exact absurd hq_inst.symm (hfree d₂ q₂ hold₂ hq_label.symm)
    · rcases KernelState.setSlot_some_iff.1 hq₂ with ⟨rfl, rfl⟩ | ⟨_, hold₂⟩
      · rw [hself] at hq_label hq_inst
        exact absurd hq_inst (hfree d₁ q₁ hold₁ hq_label)
      · exact hold d₁ d₂ q₁ q₂ hold₁ hold₂ hq_label hq_inst

theorem Distinct.deviceRelease {cfg : Config} {s : KernelState} {p : DevPtr} {out : RegOutcome}
    (h : Distinct s) : Distinct (deviceRelease cfg s p out).state := by
  rcases deviceRelease_cases cfg s p out with ⟨_, hst⟩ | ⟨d, _, _, hst⟩
  · rw [hst]
    exact h
  · rw [hst]
    intro d₁ d₂ q₁ q₂ hq₁ hq₂
    have hold₁ := (KernelState.setSlot_none_iff.1 hq₁).2
    have hold₂ := (KernelState.setSlot_none_iff.1 hq₂).2
    exact h d₁ d₂ q₁ q₂ hold₁ hold₂

theorem Distinct.step {cfg : Config} {s s' : KernelState} {a : Op} (h : Distinct s)
    (hguard : OrderedNumbered s a) (hexec : exec cfg a s = some s') : Distinct s' := by
  rcases hguard with ⟨hauto, horder⟩
  cases a with
  | fill p dev =>
      cases hexec
      exact h.setDevice hauto dev
  | manage p out =>
      cases hexec
      exact h.deviceManage hauto.1 hauto.2.1 hauto.2.2 (horder p out rfl)
  | release p out =>
      cases hexec
      exact h.deviceRelease
  | ioctl req io => exact absurd hauto id
  | freeRefs pid => exact absurd hauto id

/-- As long as every device is managed in slot order, no two managed devices get the same group,
name and instance. -/
theorem distinct_of_reachable (cfg : Config) {s₀ s : KernelState} (hfresh : s₀.Fresh)
    (hrun : Reachable (exec cfg) OrderedNumbered s₀ s) (d d' : Slot) (p p' : DevPtr)
    (hd : s.devices d = some p) (hd' : s.devices d' = some p')
    (htriple : (s.heap p).triple = (s.heap p').triple) : d = d' := by
  have hdist : Distinct s := by
    refine hrun.invariant ?_ ?_
    · intro d d' p p' hp
      simp [hfresh.devices d] at hp
    · intro s s' a h hguard hexec
      exact h.step hguard hexec
  rcases label_eq_of_triple_eq htriple with ⟨hlabel, hinst⟩
  exact hdist d d' p p' hd hd' hlabel hinst

instance (s : KernelState) : (a : Op) → Decidable (AutoNumbered s a)
  | .fill p _ => inferInstanceAs (Decidable (¬ s.Managed p))
  | .manage p _ => inferInstanceAs (Decidable
      (¬ s.Managed p ∧ (s.heap p).instanceId = 0 ∧ (s.heap p).Named))
  | .release p _ => inferInstanceAs (Decidable (s.Managed p))
  | .ioctl _ _ => .isFalse id
  | .freeRefs _ => .isFalse id

/-- Without a second instance there is no order to break. -/
theorem inSlotOrder_of_no_second {s : KernelState} {dev : Device} (h : ∀ e, ¬ At s dev 2 e) :
    InSlotOrder s dev := by
  intro k d d' hk hall _ _
  rcases hall 2 (by omega) (by omega) with ⟨e, he⟩
  exact absurd he (h e)

/-- The kernel after device 1, and then device 2 of the same name, have been managed. -/
def managedOne : KernelState :=
  (deviceManage Sample.config Sample.kernel 1 Sample.registered).state

def managedTwo : KernelState :=
  (deviceManage Sample.config managedOne 2 Sample.registered).state

theorem distinct_of_reachable_managedTwo :
    (managedTwo.heap 1).triple ≠ (managedTwo.heap 2).triple := by
  have hfirst : OrderedNumbered Sample.kernel (.manage 1 Sample.registered) := by
    refine ⟨by decide +kernel, ?_⟩
    rintro p out ⟨⟩
    exact inSlotOrder_of_no_second (by decide +kernel)
  have hsecond : OrderedNumbered managedOne (.manage 2 Sample.registered) := by
    refine ⟨by decide +kernel, ?_⟩
    rintro p out ⟨⟩
    exact inSlotOrder_of_no_second (by decide +kernel)
  have hrun : Reachable (exec Sample.config) OrderedNumbered Sample.kernel managedTwo :=
    Reachable.head hfirst rfl (Reachable.head hsecond rfl (Reachable.refl _))
  intro h
  have hslots := distinct_of_reachable Sample.config Sample.kernel_fresh hrun 0 1 1 2
    (by decide +kernel) (by decide +kernel) h
  exact absurd hslots (by decide)

/-- Device 1 and device 2 have the same name; the slot of device 0 is free in between. -/
def renumberRun : List Op :=
  [ .manage 0 Sample.registered
  , .manage 1 Sample.registered
  , .release 0 Sample.registered
  , .manage 2 Sample.registered
  , .manage 3 Sample.registered ]

/-- Device 2 gets instance 2 in slot 0, in front of instance 1; device 3 gets instance 2 again. -/
theorem not_distinct :
    ∃ s, Reachable (exec Sample.config) AutoNumbered Sample.kernel s ∧
      (s.devices 0 = some 2 ∧ s.devices 2 = some 3 ∧ (s.heap 2).triple = (s.heap 3).triple) :=
  exists_reachable_of_run renumberRun (by decide +kernel)

end Cuddl
