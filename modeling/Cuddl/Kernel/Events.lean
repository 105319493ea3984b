import Mathlib.Data.Finset.Card
import Mathlib.Data.UInt
import Cuddl.Foundation.Machine
import Cuddl.Kernel.Register

/-!
# Passing events on

The event routines of `cuddlk_linux.c`: the interrupt handlers, the open and close hooks, the
signal handler and `cuddlk_eventsrc_notify`.  What they call in UIO, UDD and Cobalt is recorded as a
list of `NotifyCall`s.

`EventState` puts them to work on the event source of one device, with the descriptors that are
open.  The parts of UIO and UDD that the routines rely on are its actions: after the interrupt
handler has answered that the interrupt was handled, its caller notifies its own descriptors; a
pending signal is delivered some time later, once for any number of requests; a `read` waits until
the count differs from the one that the descriptor has seen.
-/

namespace Cuddl

open Foundation

/-! ## The routines -/

inductive NotifyCall
  | uioEventNotify
  | uddNotifyEvent
  | nrtsigPend

/-- `CUDDLK_RET_INTR_HANDLED` -/
def retIntrHandled : Int := 1

/-- `cuddlk_udd_interrupt_handler`; `ret` is what the handler of the driver returns. -/
def uddInterruptHandler (uioOpenCount ret : Int) : Int × List NotifyCall :=
  (ret, if 0 < uioOpenCount ∧ ret = retIntrHandled then [.nrtsigPend] else [])

/-- `cuddlk_uio_interrupt_handler` -/
def uioInterruptHandler (ret : Int) : Int × List NotifyCall :=
  (ret, [])

/-- `event_nrtsig_handler` -/
def eventNrtsigHandler : List NotifyCall :=
  [.uioEventNotify]

/-- `cuddlk_eventsrc_notify` -/
def eventsrcNotify (cfg : Config) (uioOpenCount : Int) : List NotifyCall :=
  if cfg.useUdd then
    .uddNotifyEvent :: if 0 < uioOpenCount then [.nrtsigPend] else []
  else
    [.uioEventNotify]

/-- The open counts in `struct cuddlki_eventsrc_priv`. -/
structure OpenCounts where
  uio : Int
  udd : Int

/-- `cuddlk_uio_eventsrc_or_mem_open` -/
def uioEventsrcOrMemOpen (c : OpenCounts) : OpenCounts :=
  { c with uio := c.uio + 1 }

/-- `cuddlk_uio_eventsrc_or_mem_close` -/
def uioEventsrcOrMemClose (c : OpenCounts) : OpenCounts :=
  { c with uio := c.uio - 1 }

/-- `cuddlk_udd_eventsrc_open` -/
def uddEventsrcOpen (c : OpenCounts) : OpenCounts :=
  { c with udd := c.udd + 1 }

/-- `cuddlk_udd_eventsrc_close` -/
def uddEventsrcClose (c : OpenCounts) : OpenCounts :=
  { c with udd := c.udd - 1 }

/-! ## An event source at work -/

abbrev FileId := Nat

structure EventState where
  counts : OpenCounts
  /-- Descriptors that UIO has created and not yet opened: their listeners exist. -/
  attached : Finset FileId
  uioFiles : Finset FileId
  uddFiles : Finset FileId
  /-- The signal to the Linux side is pending. -/
  signal : Bool
  /-- How often `uio_event_notify` and `udd_notify_event` have been called. -/
  uioNotified : Nat
  uddNotified : Nat
  /-- The count at the last `read` of a UIO descriptor, or when it was created. -/
  seen : FileId → Nat
  /-- The events so far: interrupts that were handled, and notifications by the driver. -/
  events : Nat
  /-- The events at the last `read` of a UIO descriptor, or when its `open` returned. -/
  readAt : FileId → Nat
  /-- The events at which a UIO descriptor was open. -/
  witnessed : Nat

/-- No descriptor is open, and nothing has happened. -/
def EventState.start : EventState :=
  { counts := ⟨0, 0⟩
    attached := ∅
    uioFiles := ∅
    uddFiles := ∅
    signal := false
    uioNotified := 0
    uddNotified := 0
    seen := fun _ => 0
    events := 0
    readAt := fun _ => 0
    witnessed := 0 }

namespace EventState

def perform (w : EventState) : NotifyCall → EventState
  | .uioEventNotify => { w with uioNotified := w.uioNotified + 1 }
  | .uddNotifyEvent => { w with uddNotified := w.uddNotified + 1 }
  | .nrtsigPend => { w with signal := true }

def performAll (w : EventState) (calls : List NotifyCall) : EventState :=
  calls.foldl perform w

/-- An event has happened. -/
def happened (w : EventState) : EventState :=
  { w with
    events := w.events + 1
    witnessed := w.witnessed + if w.uioFiles = ∅ then 0 else 1 }

/-- The `uint32_t` that UIO hands out. -/
def uioCount (n : Nat) : UInt32 :=
  UInt32.ofNat n

/-- A `read` on the descriptor returns at once. -/
def Readable (w : EventState) (f : FileId) : Prop :=
  uioCount w.uioNotified ≠ uioCount (w.seen f)

instance (w : EventState) (f : FileId) : Decidable (w.Readable f) :=
  inferInstanceAs (Decidable (_ ≠ _))

end EventState

inductive EventOp
  /-- UIO creates a descriptor. -/
  | attach (f : FileId)
  /-- The open hook runs, and `open` returns. -/
  | uioOpen (f : FileId)
  | uioRelease (f : FileId)
  | uddOpen (f : FileId)
  | uddClose (f : FileId)
  /-- An interrupt, with what the handler of the driver returns. -/
  | interrupt (ret : Int)
  /-- The driver calls `cuddlk_eventsrc_notify`. -/
  | notify
  /-- The pending signal is delivered. -/
  | deliver
  | read (f : FileId)
  deriving DecidableEq

/-- The handler that registration has installed, and the notification that its caller adds when the
interrupt was handled. -/
def handleInterrupt (cfg : Config) (dev : Device) (uioOpenCount ret : Int) :
    Option (Int × List NotifyCall) :=
  if cfg.useUdd then
    if dev.priv.udd.interrupt then
      let r := uddInterruptHandler uioOpenCount ret
      some (r.1, r.2 ++ if r.1 = retIntrHandled then [.uddNotifyEvent] else [])
    else none
  else
    if dev.priv.uio.handler then
      let r := uioInterruptHandler ret
      some (r.1, r.2 ++ if r.1 = retIntrHandled then [.uioEventNotify] else [])
    else none

/-- One step of the event source of a registered device; `none` is impossible there. -/
def eventExec (cfg : Config) (dev : Device) : EventOp → EventState → Option EventState
  | .attach f, w =>
      if f ∈ w.attached ∪ w.uioFiles then none
      else
        some
          { w with
            attached := insert f w.attached
            seen := Function.update w.seen f w.uioNotified }
  | .uioOpen f, w =>
      if f ∈ w.attached then
        some
          { w with
            counts := if dev.priv.uio.openRelease then uioEventsrcOrMemOpen w.counts else w.counts
            attached := w.attached.erase f
            uioFiles := insert f w.uioFiles
            readAt := Function.update w.readAt f w.events }
      else none
  | .uioRelease f, w =>
      if f ∈ w.uioFiles then
        some
          { w with
            counts := if dev.priv.uio.openRelease then uioEventsrcOrMemClose w.counts else w.counts
            uioFiles := w.uioFiles.erase f }
      else none
  | .uddOpen f, w =>
      if cfg.useUdd = false ∨ f ∈ w.uddFiles then none
      else
        some
          { w with
            counts := if dev.priv.udd.openCloseIoctl then uddEventsrcOpen w.counts else w.counts
            uddFiles := insert f w.uddFiles }
  | .uddClose f, w =>
      if f ∈ w.uddFiles then
        some
          { w with
            counts := if dev.priv.udd.openCloseIoctl then uddEventsrcClose w.counts else w.counts
            uddFiles := w.uddFiles.erase f }
      else none
  | .interrupt ret, w =>
      (handleInterrupt cfg dev w.counts.uio ret).map fun r =>
        (if r.1 = retIntrHandled then w.happened else w).performAll r.2
  | .notify, w => some (w.happened.performAll (eventsrcNotify cfg w.counts.uio))
  | .deliver, w =>
      if w.signal then some ({ w with signal := false }.performAll eventNrtsigHandler) else none
  | .read f, w =>
      if f ∈ w.uioFiles ∧ w.Readable f then
        some
          { w with
            seen := Function.update w.seen f w.uioNotified
            readAt := Function.update w.readAt f w.events }
      else none

/-- A run of the event source. -/
abbrev EventRun (cfg : Config) (dev : Device) : EventState → EventState → Prop :=
  Machine.Reachable (eventExec cfg dev) fun _ _ => True

/-! ## What an event does -/

/-- What a handled interrupt and a notification by the driver have in common: the own descriptors
are notified, and the Linux side of a real-time device is sent a signal if somebody is there. -/
def EventState.notified (cfg : Config) (w : EventState) : EventState :=
  if cfg.useUdd then
    { w.happened with
      uddNotified := w.uddNotified + 1
      signal := w.signal || decide (0 < w.counts.uio) }
  else
    { w.happened with uioNotified := w.uioNotified + 1 }

theorem performAll_eventsrcNotify (cfg : Config) (w : EventState) :
    w.happened.performAll (eventsrcNotify cfg w.counts.uio) = w.notified cfg := by
  unfold EventState.notified eventsrcNotify
  cases cfg.useUdd with
  | false => rfl
  | true =>
      by_cases hopen : 0 < w.counts.uio
      · simp [hopen, EventState.performAll, EventState.perform, EventState.happened]
      · simp [hopen, EventState.performAll, EventState.perform, EventState.happened]

/-- An interrupt that is not handled changes nothing; one that is handled is an event. -/
theorem eventExec_interrupt {cfg : Config} {dev : Device} {ret : Int} {w w' : EventState}
    (h : eventExec cfg dev (.interrupt ret) w = some w') :
    (ret ≠ retIntrHandled ∧ w' = w) ∨ (ret = retIntrHandled ∧ w' = w.notified cfg) := by
  rcases Option.map_eq_some_iff.1 h with ⟨⟨ret', calls⟩, hcalls, rfl⟩
  unfold handleInterrupt at hcalls
  cases hudd : cfg.useUdd with
  | true =>
      cases hhook : dev.priv.udd.interrupt with
      | false => simp [hudd, hhook] at hcalls
      | true =>
          simp only [hudd, hhook, if_true, Option.some.injEq, Prod.mk.injEq] at hcalls
          rcases hcalls with ⟨rfl, rfl⟩
          by_cases hret : ret = retIntrHandled
          · right
            by_cases hopen : 0 < w.counts.uio
            · simp [uddInterruptHandler, hret, hopen, EventState.notified, hudd,
                EventState.performAll, EventState.perform, EventState.happened]
            · simp [uddInterruptHandler, hret, hopen, EventState.notified, hudd,
                EventState.performAll, EventState.perform, EventState.happened]
          · left
            simp [uddInterruptHandler, hret, EventState.performAll]
  | false =>
      cases hhook : dev.priv.uio.handler with
      | false => simp [hudd, hhook] at hcalls
      | true =>
          simp only [hudd, hhook, Bool.false_eq_true, if_false, if_true, Option.some.injEq,
            Prod.mk.injEq] at hcalls
          rcases hcalls with ⟨rfl, rfl⟩
          by_cases hret : ret = retIntrHandled
          · right
            simp [uioInterruptHandler, hret, EventState.notified, hudd, EventState.performAll,
              EventState.perform, EventState.happened]
          · left
            simp [uioInterruptHandler, hret, EventState.performAll]

/-- All that can happen at the event source. -/
inductive EventStep (cfg : Config) (dev : Device) (w : EventState) : EventOp → EventState → Prop
  | attach (f : FileId) (hattached : f ∉ w.attached) (hfile : f ∉ w.uioFiles) :
      EventStep cfg dev w (.attach f)
        { w with
          attached := insert f w.attached
          seen := Function.update w.seen f w.uioNotified }
  | uioOpen (f : FileId) (hf : f ∈ w.attached) :
      EventStep cfg dev w (.uioOpen f)
        { w with
          counts := if dev.priv.uio.openRelease then uioEventsrcOrMemOpen w.counts else w.counts
          attached := w.attached.erase f
          uioFiles := insert f w.uioFiles
          readAt := Function.update w.readAt f w.events }
  | uioRelease (f : FileId) (hf : f ∈ w.uioFiles) :
      EventStep cfg dev w (.uioRelease f)
        { w with
          counts := if dev.priv.uio.openRelease then uioEventsrcOrMemClose w.counts else w.counts
          uioFiles := w.uioFiles.erase f }
  | uddOpen (f : FileId) (hudd : cfg.useUdd = true) (hfile : f ∉ w.uddFiles) :
      EventStep cfg dev w (.uddOpen f)
        { w with
          counts := if dev.priv.udd.openCloseIoctl then uddEventsrcOpen w.counts else w.counts
          uddFiles := insert f w.uddFiles }
  | uddClose (f : FileId) (hf : f ∈ w.uddFiles) :
      EventStep cfg dev w (.uddClose f)
        { w with
          counts := if dev.priv.udd.openCloseIoctl then uddEventsrcClose w.counts else w.counts
          uddFiles := w.uddFiles.erase f }
  | ignored (ret : Int) (hret : ret ≠ retIntrHandled) : EventStep cfg dev w (.interrupt ret) w
  | handled : EventStep cfg dev w (.interrupt retIntrHandled) (w.notified cfg)
  | notify : EventStep cfg dev w .notify (w.notified cfg)
  | deliver (hsignal : w.signal = true) :
      EventStep cfg dev w .deliver
        { w with signal := false, uioNotified := w.uioNotified + 1 }
  | read (f : FileId) (hf : f ∈ w.uioFiles) (hread : w.Readable f) :
      EventStep cfg dev w (.read f)
        { w with
          seen := Function.update w.seen f w.uioNotified
          readAt := Function.update w.readAt f w.events }

theorem eventExec_step {cfg : Config} {dev : Device} {op : EventOp} {w w' : EventState}
    (h : eventExec cfg dev op w = some w') : EventStep cfg dev w op w' := by
  cases op with
  | attach f =>
      simp only [eventExec] at h
      split at h
      · cases h
      · rename_i hnew
        cases h
        exact .attach f (fun hf => hnew (Finset.mem_union_left _ hf))
          fun hf => hnew (Finset.mem_union_right _ hf)
  | uioOpen f =>
      simp only [eventExec] at h
      split at h
      · rename_i hf
        cases h
        exact .uioOpen f hf
      · cases h
  | uioRelease f =>
      simp only [eventExec] at h
      split at h
      · rename_i hf
        cases h
        exact .uioRelease f hf
      · cases h
  | uddOpen f =>
      simp only [eventExec] at h
      split at h
      · cases h
      · rename_i hnew
        cases h
        exact .uddOpen f (by simpa using (not_or.1 hnew).1) (not_or.1 hnew).2
  | uddClose f =>
      simp only [eventExec] at h
      split at h
      · rename_i hf
        cases h
        exact .uddClose f hf
      · cases h
  | interrupt ret =>
      rcases eventExec_interrupt h with ⟨hret, rfl⟩ | ⟨rfl, rfl⟩
      · exact .ignored ret hret
      · exact .handled
  | notify =>
      simp only [eventExec, performAll_eventsrcNotify, Option.some.injEq] at h
      subst h
      exact .notify
  | deliver =>
      simp only [eventExec] at h
      split at h
      · rename_i hsignal
        cases h
        exact .deliver hsignal
      · cases h
  | read f =>
      simp only [eventExec] at h
      split at h
      · rename_i hf
        cases h
        exact .read f hf.1 hf.2
      · cases h

/-! ## The hooks are there -/

/-- Registration has installed the hooks that keep the open counts. -/
structure Device.Hooked (cfg : Config) (dev : Device) : Prop where
  uio : dev.priv.uio.openRelease = true
  udd : cfg.useUdd = true → dev.priv.udd.openCloseIoctl = true

/-- A device whose event source has an interrupt, or a custom one, is hooked by its registration. -/
theorem deviceRegister_hooked {cfg : Config} {dev : Device} {out : RegOutcome}
    (h : (deviceRegister cfg dev out).ret = 0)
    (hintr : 0 < (dev.events 0).intr.irq ∨ (dev.events 0).intr.irq = irqCustom) :
    (deviceRegister cfg dev out).dev.Hooked cfg := by
  have huio : (dev.priv.uio.setup cfg (dev.events 0).intr).openRelease = true := by
    simp [UioInfo.setup, hintr]
  have hudd : (dev.priv.udd.setup (dev.events 0).intr).openCloseIoctl = true := by
    simp [UddDevice.setup, hintr]
  unfold deviceRegister at h ⊢
  cases hgroup : dev.group with
  | none => simp [hgroup, Errno.EINVAL] at h
  | some group =>
      cases hname : dev.name with
      | none => simp [hgroup, hname, Errno.EINVAL] at h
      | some name =>
          simp only [hgroup, hname] at h ⊢
          split at h
          · simp [Errno.ENOMEM] at h
          · rename_i halloc
            split at h
            · rename_i hfail
              exact absurd h hfail
            · rename_i hreg
              simp only [halloc, hreg, if_false]
              cases hcfg : cfg.useUdd with
              | false =>
                  exact ⟨by simpa [Device.setUioDev, Device.prepared] using huio, by simp [hcfg]⟩
              | true =>
                  simp only [hcfg, if_true] at h ⊢
                  split at h
                  · rename_i hfail
                    exact absurd h hfail
                  · rename_i hok
                    simp only [hok, if_false]
                    exact ⟨by simpa [Device.setUioDev, Device.prepared] using huio,
                      fun _ => by simpa [Device.setUioDev, Device.prepared, hcfg] using hudd⟩

end Cuddl
