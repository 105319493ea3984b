import Cuddl.Foundation.Rounding
import Cuddl.Foundation.TextFields
import Cuddl.Kernel.Types

/-!
# Device registration

`cuddlk_linux.c`.  The calls into UIO, UDD and the allocator are not part of this repository: what
they return is a `RegOutcome`, and the order in which the code makes them is recorded as a list of
`RegCall`s.
-/

namespace Cuddl

open Foundation Foundation.TextFields

/-! ## Printed text -/

/-- The bytes of an ASCII string constant. -/
def ascii (s : String) : List UInt8 :=
  s.toList.map fun c => c.toNat.toUInt8

/-- `"%d"` -/
def decimal (n : Int) : List UInt8 :=
  (if n < 0 then ascii "-" else []) ++
    (Nat.toDigits 10 n.natAbs).map fun c => c.toNat.toUInt8

theorem decimal_of_neg {n : Int} (h : n < 0) : decimal n = 45 :: digits n.natAbs := by
  simp only [decimal, h, if_true]
  rfl

theorem decimal_of_nonneg {n : Int} (h : 0 ≤ n) : decimal n = digits n.natAbs := by
  simp only [decimal, not_lt.2 h, if_false]
  rfl

/-- `strtol` reads back what `"%d"` prints. -/
theorem parseInt_decimal (n : Int) : parseInt (decimal n) = some n := by
  by_cases hneg : n < 0
  · have habs : -(n.natAbs : Int) = n := by omega
    rw [decimal_of_neg hneg, parseInt_minus_digits, habs]
  · have habs : (n.natAbs : Int) = n := by omega
    rw [decimal_of_nonneg (not_lt.1 hneg), parseInt_digits, habs]

theorem decimal_injective : Function.Injective decimal := by
  intro m n h
  have hparse := congrArg parseInt h
  rw [parseInt_decimal, parseInt_decimal] at hparse
  exact Option.some.inj hparse

/-- A printed number has no characters other than digits and the sign. -/
theorem mem_decimal {n : Int} {c : UInt8} (h : c ∈ decimal n) : c = 45 ∨ isDigit c = true := by
  by_cases hneg : n < 0
  · rw [decimal_of_neg hneg, List.mem_cons] at h
    exact h.imp id isDigit_of_mem_digits
  · rw [decimal_of_nonneg (not_lt.1 hneg)] at h
    exact Or.inr (isDigit_of_mem_digits h)

theorem decimal_ne_nil (n : Int) : decimal n ≠ [] := by
  by_cases hneg : n < 0
  · rw [decimal_of_neg hneg]
    exact List.cons_ne_nil _ _
  · rw [decimal_of_nonneg (not_lt.1 hneg)]
    exact digits_ne_nil _

/-! ## Sizes -/

/-- `page_size_aligned`: `lower` is an `int`, so the quotient loses its upper half on the way. -/
def pageSizeAligned (cfg : Config) (i : UInt64) : UInt64 :=
  if i % cfg.pageSize = 0 then i
  else
    -- `int lower = i / CUDDLK_PAGE_SIZE;`
    let lower : Int32 := (i / cfg.pageSize).toUInt32.toInt32
    cfg.pageSize * (lower + 1).toInt64.toUInt64

/-- The size defaults of the registration loop. -/
def Memregion.defaultSizes (cfg : Config) (m : Memregion) : Memregion :=
  -- the length is defaulted first, so the mapping may be rounded up from a defaulted length
  let len := if m.len = 0 then m.paLen else m.len
  let paLen := if m.paLen = 0 then pageSizeAligned cfg (len + m.startOffset) else m.paLen
  { m with len := len, paLen := paLen }

/-- A region without a mapping length gets its size, rounded up. -/
theorem defaultSizes_paLen {cfg : Config} {m : Memregion} (h : m.paLen = 0) :
    (m.defaultSizes cfg).paLen = pageSizeAligned cfg (m.len + m.startOffset) := by
  by_cases hlen : m.len = 0
  · simp [Memregion.defaultSizes, h, hlen]
  · simp [Memregion.defaultSizes, h, hlen]

/-- `page_size_aligned n` neither overflows nor truncates. -/
def Rounds (cfg : Config) (n : Nat) : Prop :=
  roundUp (2 ^ cfg.pageShift) n < 2 ^ 64 ∧
    (2 ^ cfg.pageShift ∣ n ∨ n / 2 ^ cfg.pageShift + 1 < 2 ^ 31)

instance (cfg : Config) (n : Nat) : Decidable (Rounds cfg n) :=
  inferInstanceAs (Decidable (_ ∧ _))

/-- The test of the code is divisibility by the page size. -/
theorem mod_pageSize_eq_zero_iff {cfg : Config} {i : UInt64} :
    i % cfg.pageSize = 0 ↔ 2 ^ cfg.pageShift ∣ i.toNat := by
  rw [← UInt64.toNat_inj, UInt64.toNat_mod, cfg.toNat_pageSize]
  exact (Nat.dvd_iff_mod_eq_zero).symm

theorem toNat_pageSizeAligned {cfg : Config} {i : UInt64} (h : Rounds cfg i.toNat) :
    (pageSizeAligned cfg i).toNat = roundUp (2 ^ cfg.pageShift) i.toNat := by
  have hpage := cfg.toNat_pageSize
  rcases h with ⟨hlt, hcount⟩
  by_cases hdvd : 2 ^ cfg.pageShift ∣ i.toNat
  · simp [pageSizeAligned, mod_pageSize_eq_zero_iff.2 hdvd, roundUp_of_dvd hdvd]
  · have hquot : (i / cfg.pageSize).toNat + 1 < 2 ^ 31 := by
      rw [UInt64.toNat_div, hpage]
      exact hcount.resolve_left hdvd
    -- the quotient passes through `int` unharmed, and the product does not wrap around
    have hsucc := toNat_int_succ hquot
    rw [roundUp_of_not_dvd hdvd] at hlt ⊢
    calc
      (pageSizeAligned cfg i).toNat
          = (cfg.pageSize * ((i / cfg.pageSize).toUInt32.toInt32 + 1).toInt64.toUInt64).toNat := by
            simp [pageSizeAligned, mod_pageSize_eq_zero_iff, hdvd]
      _ = 2 ^ cfg.pageShift * (i.toNat / 2 ^ cfg.pageShift + 1) % 2 ^ 64 := by
            rw [UInt64.toNat_mul, hsucc, UInt64.toNat_div, hpage]
      _ = 2 ^ cfg.pageShift * (i.toNat / 2 ^ cfg.pageShift + 1) := Nat.mod_eq_of_lt hlt

/-! ## Register and unregister -/

def irqNone : Int := 0

/-- `CUDDLK_IRQ_CUSTOM`, `UIO_IRQ_CUSTOM` and `UDD_IRQ_CUSTOM` -/
def irqCustom : Int := -1

/-- `CUDDLK_IRQF_SHARED` -/
def irqfShared : BitVec 32 := 1

/-- The module that `cuddlk_linux.c` is compiled into. -/
def thisModule : ModuleId := 0

/-- What the calls made during registration and unregistration return. -/
structure RegOutcome where
  kasprintfFails : Bool
  /-- `__uio_register_device` -/
  uioRegister : Int
  /-- Minor number of the device that a successful `__uio_register_device` creates. -/
  minor : Nat
  /-- `udd_register_device` -/
  uddRegister : Int
  /-- `udd_unregister_device` -/
  uddUnregister : Int

/-- A call that takes or gives back a registration resource. -/
inductive RegCall
  | kasprintf (uniqueName : List UInt8)
  | kfree (uniqueName : Option (List UInt8))
  | uioRegister (ret : Int)
  | uioUnregister
  | uddRegister (ret : Int)
  | uddUnregister (ret : Int)

inductive RegistrationFailure
  | nullGroup
  | nullName
  | uniqueName
  | uioRegister
  | uddRegister
  | noFailure

/-- `cuddlk_cleanup`: each case falls through to the next.  It leaves the device as it is; in
particular `unique_name` keeps pointing at the freed string. -/
def cleanup (cfg : Config) (dev : Device) (out : RegOutcome) :
    RegistrationFailure → Int × List RegCall
  | .noFailure =>
      if cfg.useUdd then
        (out.uddUnregister,
          [.uddUnregister out.uddUnregister, .uioUnregister, .kfree dev.priv.uniqueName])
      else
        (0, [.uioUnregister, .kfree dev.priv.uniqueName])
  | .uddRegister => (0, [.uioUnregister, .kfree dev.priv.uniqueName])
  | .uioRegister => (0, [.kfree dev.priv.uniqueName])
  | .uniqueName | .nullName | .nullGroup => (0, [])

structure RegResult where
  ret : Int
  dev : Device
  calls : List RegCall

/-- `kasprintf(GFP_KERNEL, "%s.%s.%d", dev->group, dev->name, dev->instance)` -/
def uniqueName (group name : KStr) (instanceId : Int) : List UInt8 :=
  group.chars ++ ascii "." ++ name.chars ++ ascii "." ++ decimal instanceId

/-- The interrupt set-up of `cuddlk_device_register` on the UIO side. -/
def UioInfo.setup (cfg : Config) (uio : UioInfo) (intr : Interrupt) : UioInfo :=
  let uio :=
    if 0 < intr.irq ∧ intr.handler then
      if cfg.useUdd then
        { uio with irq := irqCustom }
      else
        { uio with
          irq := intr.irq
          irqShared := uio.irqShared || (intr.flags &&& irqfShared != 0)
          handler := true }
    else uio
  let uio := if intr.irq = irqCustom then { uio with irq := irqCustom } else uio
  if 0 < intr.irq ∨ intr.irq = irqCustom then
    { uio with openRelease := true, irqcontrol := true }
  else uio

/-- The interrupt set-up of `cuddlk_device_register` on the UDD side. -/
def UddDevice.setup (udd : UddDevice) (intr : Interrupt) : UddDevice :=
  let udd :=
    if 0 < intr.irq ∧ intr.handler then { udd with irq := intr.irq, interrupt := true } else udd
  let udd := if intr.irq = irqCustom then { udd with irq := irqCustom } else udd
  if 0 < intr.irq ∨ intr.irq = irqCustom then { udd with openCloseIoctl := true } else udd

/-- A routine of the driver that switches its interrupt. -/
inductive IntrRoutine
  | enable
  | disable

/-- `cuddlk_uio_eventsrc_or_mem_irqcontrol`: the routine whose result it returns; `none` is
`-EINVAL`. -/
def uioEventsrcOrMemIrqcontrol (dev : Device) (irqOn : Int32) : Option IntrRoutine :=
  let intr := (dev.events 0).intr
  if irqOn ≠ 0 then
    if intr.enable then some .enable else none
  else
    if intr.disable then some .disable else none

/-- The device as `cuddlk_device_register` hands it to UIO and UDD. -/
def Device.prepared (cfg : Config) (dev : Device) (name : List UInt8) : Device :=
  let intr := (dev.events 0).intr
  { dev with
    mem := fun i => (dev.mem i).defaultSizes cfg
    ownerPtr := dev.ownerPtr <|> some thisModule
    priv :=
      { uniqueName := some name
        uio := dev.priv.uio.setup cfg intr
        udd := if cfg.useUdd then dev.priv.udd.setup intr else dev.priv.udd } }

def Device.setUioDev (dev : Device) (u : Option UioDevice) : Device :=
  { dev with priv := { dev.priv with uio := { dev.priv.uio with uioDev := u } } }

/-- `cuddlk_device_register`.  `__uio_register_device` clears `uio_dev` before it does anything,
and sets it when it succeeds. -/
def deviceRegister (cfg : Config) (dev : Device) (out : RegOutcome) : RegResult :=
  match dev.group, dev.name with
  | none, _ => ⟨-Errno.EINVAL, dev, (cleanup cfg dev out .nullGroup).2⟩
  | some _, none => ⟨-Errno.EINVAL, dev, (cleanup cfg dev out .nullName).2⟩
  | some group, some name =>
      -- `unique_name` is set before its allocation is checked
      let unique := uniqueName group name dev.instanceId
      if out.kasprintfFails then
        let dev := { dev with priv := { dev.priv with uniqueName := none } }
        ⟨-Errno.ENOMEM, dev, (cleanup cfg dev out .uniqueName).2⟩
      else
        let dev := dev.prepared cfg unique
        let calls := [.kasprintf unique, .uioRegister out.uioRegister]
        if out.uioRegister ≠ 0 then
          let dev := dev.setUioDev none
          ⟨out.uioRegister, dev, calls ++ (cleanup cfg dev out .uioRegister).2⟩
        else
          -- the owner is recorded in the UIO device, where the claims look for it
          let dev := dev.setUioDev (some { owner := dev.ownerPtr, minor := out.minor })
          if cfg.useUdd then
            let calls := calls ++ [.uddRegister out.uddRegister]
            if out.uddRegister ≠ 0 then
              ⟨out.uddRegister, dev, calls ++ (cleanup cfg dev out .uddRegister).2⟩
            else
              ⟨0, dev, calls⟩
          else
            ⟨0, dev, calls⟩

/-- `cuddlk_device_unregister` -/
def deviceUnregister (cfg : Config) (dev : Device) (out : RegOutcome) : Int × List RegCall :=
  cleanup cfg dev out .noFailure

/-! ## What registration keeps -/

/-- Registration computes sizes, names and hooks; it does not touch what identifies a device, and
it does not touch a count. -/
structure Device.SameIdentity (d d' : Device) : Prop where
  group : d'.group = d.group
  name : d'.name = d.name
  instanceId : d'.instanceId = d.instanceId
  refCount : ∀ x, d'.refCount x = d.refCount x

theorem Device.SameIdentity.refl (d : Device) : d.SameIdentity d :=
  ⟨rfl, rfl, rfl, fun _ => rfl⟩

theorem Device.SameIdentity.trans {d₁ d₂ d₃ : Device} (h : d₁.SameIdentity d₂)
    (h' : d₂.SameIdentity d₃) : d₁.SameIdentity d₃ :=
  ⟨h'.group.trans h.group, h'.name.trans h.name, h'.instanceId.trans h.instanceId,
    fun x => (h'.refCount x).trans (h.refCount x)⟩

theorem Device.sameIdentity_prepared (cfg : Config) (dev : Device) (name : List UInt8) :
    dev.SameIdentity (dev.prepared cfg name) := by
  refine ⟨rfl, rfl, rfl, ?_⟩
  rintro ⟨k, i⟩
  cases k with
  | memregion => rfl
  | eventsrc => rfl

theorem Device.sameIdentity_setUioDev (dev : Device) (u : Option UioDevice) :
    dev.SameIdentity (dev.setUioDev u) := by
  refine ⟨rfl, rfl, rfl, ?_⟩
  rintro ⟨k, i⟩
  cases k with
  | memregion => rfl
  | eventsrc => rfl

theorem deviceRegister_sameIdentity (cfg : Config) (dev : Device) (out : RegOutcome) :
    dev.SameIdentity (deviceRegister cfg dev out).dev := by
  have hprep := Device.sameIdentity_prepared cfg dev
  unfold deviceRegister
  split
  · exact Device.SameIdentity.refl dev
  · exact Device.SameIdentity.refl dev
  · split
    · refine ⟨rfl, rfl, rfl, ?_⟩
      rintro ⟨k, i⟩
      cases k with
      | memregion => rfl
      | eventsrc => rfl
    · dsimp only
      split
      · exact (hprep _).trans (Device.sameIdentity_setUioDev _ _)
      · split
        · split
          · exact (hprep _).trans (Device.sameIdentity_setUioDev _ _)
          · exact (hprep _).trans (Device.sameIdentity_setUioDev _ _)
        · exact (hprep _).trans (Device.sameIdentity_setUioDev _ _)

/-- The registration data of the device bears its group, name and number. -/
def Device.Labelled (dev : Device) : Prop :=
  ∃ group name, dev.group = some group ∧ dev.name = some name ∧
    dev.priv.uniqueName = some (uniqueName group name dev.instanceId)

/-- The UIO part of the device is set up for the interrupt of its event source. -/
def Device.SetUp (cfg : Config) (d d' : Device) : Prop :=
  d'.events = d.events ∧
    ∃ u, d'.priv.uio = { d.priv.uio.setup cfg (d.events 0).intr with uioDev := u }

/-- A successful registration defaults the sizes of every region, leaves a UIO device, labels the
device and sets it up for its interrupt. -/
theorem deviceRegister_of_ret_zero {cfg : Config} {dev : Device} {out : RegOutcome}
    (h : (deviceRegister cfg dev out).ret = 0) :
    (deviceRegister cfg dev out).dev.mem = (fun i => (dev.mem i).defaultSizes cfg) ∧
      (deviceRegister cfg dev out).dev.priv.uio.uioDev.isSome ∧
      (deviceRegister cfg dev out).dev.Labelled ∧
      dev.SetUp cfg (deviceRegister cfg dev out).dev := by
  unfold deviceRegister at h ⊢
  split at h
  · simp [Errno.EINVAL] at h
  · simp [Errno.EINVAL] at h
  · rename_i group name hgroup hname
    split at h
    · simp [Errno.ENOMEM] at h
    · rename_i hk
      dsimp only at h
      split at h
      · rename_i huio
        exact absurd h huio
      · rename_i huio
        split at h
        · rename_i hcfg
          split at h
          · rename_i hudd
            exact absurd h hudd
          · rename_i hudd
            simp [hk, huio, hcfg, hudd, Device.setUioDev, Device.prepared, Device.Labelled,
              Device.SetUp, hgroup, hname]
        · rename_i hcfg
          simp [hk, huio, hcfg, Device.setUioDev, Device.prepared, Device.Labelled, Device.SetUp,
            hgroup, hname]

end Cuddl
