import Mathlib.Data.Int.ModEq
import Cuddl.Kernel.Events
import Cuddl.Kernel.System
import Cuddl.User.Eventsrc

/-!
# No event is lost

Over all runs of the event source of a registered device: both builds notify their own descriptors
of every event, and the Linux side of a real-time device is woken after every event that happens
while it has a descriptor open, but is sent a signal for no other (`events_delivered`).  In the UIO
build the results of `cuddl_eventsrc_wait` count the events (`waits_count_events`).
-/

namespace Cuddl

open Foundation.Machine

/-- What holds at any time of a run. -/
structure Delivered (cfg : Config) (w : EventState) : Prop where
  uioCount : w.counts.uio = w.uioFiles.card
  uddCount : w.counts.udd = w.uddFiles.card
  disjoint : Disjoint w.attached w.uioFiles
  seen_le : ∀ f, w.seen f ≤ w.uioNotified
  /-- A descriptor that has not heard of the last event will hear of it. -/
  noneLost : ∀ f ∈ w.uioFiles, w.readAt f < w.events → w.signal = true ∨ w.seen f < w.uioNotified
  udd : cfg.useUdd = true →
    w.uddNotified = w.events ∧ w.uioNotified + w.signal.toNat ≤ w.witnessed
  uio : cfg.useUdd = false → w.uioNotified = w.events ∧ w.signal = false ∧ w.uddFiles = ∅

variable {cfg : Config} {dev : Device} {w w' : EventState}

theorem Delivered.start (cfg : Config) : Delivered cfg EventState.start where
  uioCount := rfl
  uddCount := rfl
  disjoint := Finset.disjoint_empty_left _
  seen_le := fun _ => Nat.le_refl _
  noneLost := fun f hf => absurd hf (Finset.notMem_empty f)
  udd := fun _ => ⟨rfl, Nat.le_refl _⟩
  uio := fun _ => ⟨rfl, rfl, rfl⟩

/-- The count says whether a descriptor is open. -/
theorem Delivered.open_iff (h : Delivered cfg w) : 0 < w.counts.uio ↔ w.uioFiles ≠ ∅ := by
  rw [h.uioCount, Int.natCast_pos, Finset.card_pos, Finset.nonempty_iff_ne_empty]

/-- An event keeps the books: whoever is open is notified now, or by a signal. -/
theorem Delivered.notified (h : Delivered cfg w) : Delivered cfg (w.notified cfg) := by
  have hopen := h.open_iff
  unfold EventState.notified
  cases hudd : cfg.useUdd with
  | true =>
      refine ⟨h.uioCount, h.uddCount, h.disjoint, h.seen_le, ?_, ?_, ?_⟩
      · intro f hf _
        left
        have hpos : 0 < w.counts.uio := hopen.2 (Finset.ne_empty_of_mem hf)
        simp [hpos]
      · intro _
        rcases h.udd hudd with ⟨hexact, hfrugal⟩
        refine ⟨by simp [EventState.happened, hexact], ?_⟩
        by_cases hnone : w.uioFiles = ∅
        · have hzero : ¬ 0 < w.counts.uio := fun hpos => hopen.1 hpos hnone
          simpa [EventState.happened, hnone, hzero] using hfrugal
        · -- the event is witnessed, which pays for the signal
          have hsignal : w.signal.toNat ≤ 1 := Bool.toNat_le _
          have hpos : 0 < w.counts.uio := hopen.2 hnone
          simp only [EventState.happened, hnone, hpos, if_true, if_false, Bool.or_true,
            decide_true, Bool.toNat_true]
          omega
      · intro hfalse
        cases hudd.symm.trans hfalse
  | false =>
      rcases h.uio hudd with ⟨hexact, hquiet, hno⟩
      refine ⟨h.uioCount, h.uddCount, h.disjoint, ?_, ?_, ?_, ?_⟩
      · intro f
        exact Nat.le_succ_of_le (h.seen_le f)
      · intro f _ _
        exact Or.inr (Nat.lt_succ_of_le (h.seen_le f))
      · intro htrue
        cases hudd.symm.trans htrue
      · intro _
        exact ⟨by simp [EventState.happened, hexact], hquiet, hno⟩

theorem Delivered.step (h : Delivered cfg w) (hdev : dev.Hooked cfg) {op : EventOp}
    (hstep : EventStep cfg dev w op w') : Delivered cfg w' := by
  cases hstep with
  | attach f hattached hfile =>
      refine ⟨h.uioCount, h.uddCount, ?_, ?_, ?_, h.udd, h.uio⟩
      · exact Finset.disjoint_insert_left.2 ⟨hfile, h.disjoint⟩
      · intro g
        by_cases hg : g = f
        · simp [hg]
        · simpa [hg] using h.seen_le g
      · intro g hg hlt
        have hne : g ≠ f := by
          rintro rfl
          exact hfile hg
        simpa [hne] using h.noneLost g hg hlt
  | uioOpen f hf =>
      have hfile : f ∉ w.uioFiles := Finset.disjoint_left.1 h.disjoint hf
      refine ⟨?_, ?_, ?_, h.seen_le, ?_, h.udd, h.uio⟩
      · simp [hdev.uio, uioEventsrcOrMemOpen, h.uioCount, hfile]
      · simpa [hdev.uio, uioEventsrcOrMemOpen] using h.uddCount
      · refine Finset.disjoint_insert_right.2 ⟨Finset.notMem_erase _ _, ?_⟩
        exact h.disjoint.mono_left (Finset.erase_subset _ _)
      · intro g hg hlt
        -- for the new descriptor there is nothing to hear of yet
        have hne : g ≠ f := by
          rintro rfl
          simp at hlt
        have hold : g ∈ w.uioFiles := Finset.mem_of_mem_insert_of_ne hg hne
        exact h.noneLost g hold (by simpa [hne] using hlt)
  | uioRelease f hf =>
      refine ⟨?_, ?_, ?_, h.seen_le, ?_, h.udd, h.uio⟩
      · have hcard := Finset.card_erase_add_one hf
        simp only [hdev.uio, if_true, uioEventsrcOrMemClose, h.uioCount]
        omega
      · simpa [hdev.uio, uioEventsrcOrMemClose] using h.uddCount
      · exact h.disjoint.mono_right (Finset.erase_subset _ _)
      · intro g hg hlt
        exact h.noneLost g (Finset.mem_of_mem_erase hg) hlt
  | uddOpen f hudd hfile =>
      refine ⟨?_, ?_, h.disjoint, h.seen_le, h.noneLost, h.udd, ?_⟩
      · simpa [hdev.udd hudd, uddEventsrcOpen] using h.uioCount
      · simp [hdev.udd hudd, uddEventsrcOpen, h.uddCount, hfile]
      · intro hfalse
        cases hudd.symm.trans hfalse
  | uddClose f hf =>
      have hudd : cfg.useUdd = true := by
        by_contra hnot
        rw [(h.uio (by simpa using hnot)).2.2] at hf
        exact Finset.notMem_empty f hf
      refine ⟨?_, ?_, h.disjoint, h.seen_le, h.noneLost, h.udd, ?_⟩
      · simpa [hdev.udd hudd, uddEventsrcClose] using h.uioCount
      · have hcard := Finset.card_erase_add_one hf
        simp only [hdev.udd hudd, if_true, uddEventsrcClose, h.uddCount]
        omega
      · intro hfalse
        cases hudd.symm.trans hfalse
  | ignored ret hret => exact h
  | handled => exact h.notified
  | notify => exact h.notified
  | deliver hsignal =>
      have hudd : cfg.useUdd = true := by
        by_contra hnot
        have hquiet := (h.uio (by simpa using hnot)).2.1
        rw [hsignal] at hquiet
        cases hquiet
      rcases h.udd hudd with ⟨hexact, hfrugal⟩
      refine ⟨h.uioCount, h.uddCount, h.disjoint, ?_, ?_, ?_, ?_⟩
      · intro f
        exact Nat.le_succ_of_le (h.seen_le f)
      · intro f _ _
        exact Or.inr (Nat.lt_succ_of_le (h.seen_le f))
      · intro _
        refine ⟨hexact, ?_⟩
        -- the pending signal has been paid for
        rw [hsignal] at hfrugal
        exact hfrugal
      · intro hfalse
        cases hudd.symm.trans hfalse
  | read f hf hread =>
      refine ⟨h.uioCount, h.uddCount, h.disjoint, ?_, ?_, h.udd, h.uio⟩
      · intro g
        by_cases hg : g = f
        · simp [hg]
        · simpa [hg] using h.seen_le g
      · intro g hg hlt
        have hne : g ≠ f := by
          rintro rfl
          simp at hlt
        simpa [hne] using h.noneLost g hg (by simpa [hne] using hlt)

theorem delivered_of_run (hdev : dev.Hooked cfg) (hrun : EventRun cfg dev EventState.start w) :
    Delivered cfg w :=
  hrun.invariant (Delivered.start cfg) fun h _ hexec => h.step hdev (eventExec_step hexec)

/-- Once a device with an interrupt is registered, whatever opens, events, signals and reads follow:
the open counts are the numbers of open descriptors; a UIO descriptor that has been open during an
event and has not been read since is notified of it or will be, by a signal that is pending; the
real-time build notifies UDD of every event, and Linux at most as often as there were events with a
Linux descriptor open; the UIO build notifies UIO of every event and sends no signals. -/
theorem events_delivered (cfg : Config) {d : Device} {out : RegOutcome}
    (hreg : (deviceRegister cfg d out).ret = 0)
    (hintr : 0 < (d.events 0).intr.irq ∨ (d.events 0).intr.irq = irqCustom)
    (hrun : EventRun cfg (deviceRegister cfg d out).dev EventState.start w) :
    (w.counts.uio = w.uioFiles.card ∧ w.counts.udd = w.uddFiles.card) ∧
    (∀ f ∈ w.uioFiles, w.readAt f < w.events → w.signal = true ∨ w.seen f < w.uioNotified) ∧
    (cfg.useUdd = true →
      w.uddNotified = w.events ∧ w.uioNotified + w.signal.toNat ≤ w.witnessed) ∧
    (cfg.useUdd = false → w.uioNotified = w.events ∧ w.signal = false) := by
  have h := delivered_of_run (deviceRegister_hooked hreg hintr) hrun
  exact ⟨⟨h.uioCount, h.uddCount⟩, h.noneLost, h.udd,
    fun huio => ⟨(h.uio huio).1, (h.uio huio).2.1⟩⟩

namespace Sample

/-- The device `g.x` with an interrupt and a handler for it. -/
def interrupting : Device :=
  { device "g" "x" with
    events := fun i =>
      { (device "g" "x").events i with
        intr := { ((device "g" "x").events i).intr with irq := 5, handler := true } } }

def realTime : Config :=
  { config with useUdd := true }

end Sample

/-- A real-time device: two events before the signal is delivered, and one that is not handled. -/
def signalRun : List EventOp :=
  [ .attach 3, .interrupt 1, .uioOpen 3, .uddOpen 4, .interrupt 1, .notify, .deliver
  , .interrupt 0, .uddClose 4 ]

theorem events_delivered_signalRun :
    ∃ w : EventState, (w.events = 3 ∧ w.witnessed = 2 ∧ w.uioNotified = 1) ∧
      w.uddNotified = w.events ∧ (w.signal = true ∨ w.seen 3 < w.uioNotified) := by
  have hrun : ∃ w, EventRun Sample.realTime
      (deviceRegister Sample.realTime Sample.interrupting Sample.registered).dev
      EventState.start w ∧
      (w.events = 3 ∧ w.witnessed = 2 ∧ w.uioNotified = 1 ∧ 3 ∈ w.uioFiles ∧
        w.readAt 3 < w.events) :=
    exists_reachable_of_run signalRun (by decide +kernel)
  rcases hrun with ⟨w, hreach, hevents, hwitnessed, hnotified, hfile, hlt⟩
  have h := events_delivered Sample.realTime
    (Sample.deviceRegister_registered Sample.realTime rfl rfl) (Or.inl (by decide)) hreach
  exact ⟨w, ⟨hevents, hwitnessed, hnotified⟩, (h.2.2.1 rfl).1, h.2.1 3 hfile hlt⟩

/-! ## What a wait returns -/

/-- The descriptor is neither read nor closed. -/
def LeavesFile (f : FileId) (_ : EventState) (op : EventOp) : Prop :=
  op ≠ .read f ∧ op ≠ .uioRelease f

/-- What one step leaves of an open descriptor. -/
theorem EventStep.keeps {op : EventOp} {f : FileId} (h : EventStep cfg dev w op w')
    (hf : f ∈ w.uioFiles) :
    (op ≠ .uioRelease f → f ∈ w'.uioFiles) ∧ (op ≠ .read f → w'.seen f = w.seen f) := by
  have hnotified : f ∈ (w.notified cfg).uioFiles ∧ (w.notified cfg).seen f = w.seen f := by
    unfold EventState.notified
    split
    · exact ⟨hf, rfl⟩
    · exact ⟨hf, rfl⟩
  cases h with
  | attach g _ hnew =>
      have hne : f ≠ g := by
        rintro rfl
        exact hnew hf
      exact ⟨fun _ => hf, fun _ => by simp [hne]⟩
  | uioOpen g _ => exact ⟨fun _ => Finset.mem_insert_of_mem hf, fun _ => rfl⟩
  | uioRelease g _ =>
      refine ⟨?_, fun _ => rfl⟩
      intro hop
      have hne : f ≠ g := by
        rintro rfl
        exact hop rfl
      exact Finset.mem_erase.2 ⟨hne, hf⟩
  | uddOpen g _ _ => exact ⟨fun _ => hf, fun _ => rfl⟩
  | uddClose g _ => exact ⟨fun _ => hf, fun _ => rfl⟩
  | ignored ret _ => exact ⟨fun _ => hf, fun _ => rfl⟩
  | handled => exact ⟨fun _ => hnotified.1, fun _ => hnotified.2⟩
  | notify => exact ⟨fun _ => hnotified.1, fun _ => hnotified.2⟩
  | deliver _ => exact ⟨fun _ => hf, fun _ => rfl⟩
  | read g _ _ =>
      refine ⟨fun _ => hf, ?_⟩
      intro hop
      have hne : f ≠ g := by
        rintro rfl
        exact hop rfl
      simp [hne]

/-- UIO forgets no notification. -/
theorem EventStep.uioNotified_le {op : EventOp} (h : EventStep cfg dev w op w') :
    w.uioNotified ≤ w'.uioNotified := by
  have hnotified : w.uioNotified ≤ (w.notified cfg).uioNotified := by
    unfold EventState.notified
    split
    · exact le_refl _
    · exact Nat.le_succ _
  cases h with
  | handled => exact hnotified
  | notify => exact hnotified
  | deliver _ => exact Nat.le_succ _
  | _ => exact le_refl _

/-- What the descriptor has seen is changed by its own reads only. -/
theorem seen_of_leavesFile {f : FileId}
    (hrun : Reachable (eventExec cfg dev) (LeavesFile f) w w') (hf : f ∈ w.uioFiles) :
    f ∈ w'.uioFiles ∧ w'.seen f = w.seen f := by
  refine hrun.invariant (I := fun w' => f ∈ w'.uioFiles ∧ w'.seen f = w.seen f) ⟨hf, rfl⟩ ?_
  rintro v v' op ⟨hfile, hseen⟩ ⟨hread, hclose⟩ hexec
  rcases (eventExec_step hexec).keeps hfile with ⟨hkept, hsame⟩
  exact ⟨hkept hclose, (hsame hread).trans hseen⟩

/-- The result of `cuddl_eventsrc_wait` is the count, as an `int`. -/
theorem eventsrcWait_modEq (n : Nat) :
    User.eventsrcWait (.ok (EventState.uioCount n)) ≡ n [ZMOD 2 ^ 32] := by
  change (BitVec.ofNat 32 n).toInt % 2 ^ 32 = (n : Int) % 2 ^ 32
  rw [BitVec.toInt_ofNat']
  exact Int.bmod_emod

theorem uioCount_eq_iff (m n : Nat) :
    EventState.uioCount m = EventState.uioCount n ↔ (2 ^ 32 : Int) ∣ m - n := by
  unfold EventState.uioCount
  rw [← UInt32.toNat_inj, UInt32.toNat_ofNat', UInt32.toNat_ofNat']
  rw [eq_comm]
  omega

/-- In the UIO build, two successive waits on a descriptor return counts that differ by the number
of events between them, whatever else happens; and the second one returns at once exactly when there
have been events, unless their number is a multiple of 2 ^ 32. -/
theorem waits_count_events (cfg : Config) (huio : cfg.useUdd = false) {d : Device}
    {out : RegOutcome} (hreg : (deviceRegister cfg d out).ret = 0)
    (hintr : 0 < (d.events 0).intr.irq ∨ (d.events 0).intr.irq = irqCustom) {f : FileId}
    {w₁ w₂ w₃ : EventState}
    (hrun : EventRun cfg (deviceRegister cfg d out).dev EventState.start w₁)
    (hread : eventExec cfg (deviceRegister cfg d out).dev (.read f) w₁ = some w₂)
    (hbetween : Reachable (eventExec cfg (deviceRegister cfg d out).dev) (LeavesFile f) w₂ w₃) :
    User.eventsrcWait (.ok (EventState.uioCount w₃.uioNotified)) -
        User.eventsrcWait (.ok (EventState.uioCount w₁.uioNotified)) ≡
      w₃.events - w₁.events [ZMOD 2 ^ 32] ∧
    (w₃.Readable f ↔ ¬ (2 ^ 32 : Int) ∣ w₃.events - w₁.events) := by
  have hdev := deviceRegister_hooked hreg hintr
  have h₁ := delivered_of_run hdev hrun
  have hstep := eventExec_step hread
  have h₃ : Delivered cfg w₃ :=
    hbetween.invariant (h₁.step hdev hstep) fun h _ hexec => h.step hdev (eventExec_step hexec)
  -- in this build the count is the number of events
  have hcount₁ := (h₁.uio huio).1
  have hcount₃ := (h₃.uio huio).1
  have hseen : w₃.seen f = w₁.events := by
    cases hstep with
    | read _ hf _ =>
        have hkept := (seen_of_leavesFile hbetween hf).2
        rw [hkept]
        simpa using hcount₁
  refine ⟨?_, ?_⟩
  · rw [← hcount₁, ← hcount₃]
    exact (eventsrcWait_modEq _).sub (eventsrcWait_modEq _)
  · unfold EventState.Readable
    rw [Ne, uioCount_eq_iff, hseen, hcount₃]

instance (f : FileId) (w : EventState) (op : EventOp) : Decidable (LeavesFile f w op) :=
  inferInstanceAs (Decidable (_ ∧ _))

/-- An event, a wait, and two events until the next wait. -/
theorem waits_count_events_twoEvents :
    ∃ w₁ w₃ : EventState, (w₁.events = 1 ∧ w₃.events = 3) ∧
      User.eventsrcWait (.ok (EventState.uioCount w₃.uioNotified)) -
          User.eventsrcWait (.ok (EventState.uioCount w₁.uioNotified)) ≡
        w₃.events - w₁.events [ZMOD 2 ^ 32] := by
  let dev := (deviceRegister Sample.config Sample.interrupting Sample.registered).dev
  have hrun : ∃ w₁, EventRun Sample.config dev EventState.start w₁ ∧
      (w₁.events = 1 ∧ (eventExec Sample.config dev (.read 3) w₁).any fun w₂ =>
        (run (eventExec Sample.config dev) (LeavesFile 3) [.interrupt 1, .notify] w₂).any
          fun w₃ => decide (w₃.events = 3)) :=
    exists_reachable_of_run [.attach 3, .uioOpen 3, .interrupt 1] (by decide +kernel)
  rcases hrun with ⟨w₁, hreach, hevents, hrest⟩
  rcases (Option.any_eq_true _ _).1 hrest with ⟨w₂, hread, hrest⟩
  rcases exists_reachable_of_run _ hrest with ⟨w₃, hbetween, hevents₃⟩
  exact ⟨w₁, w₃, ⟨hevents, hevents₃⟩, (waits_count_events Sample.config rfl
    (Sample.deviceRegister_registered Sample.config rfl rfl) (Or.inl (by decide)) hreach hread
    hbetween).1⟩

end Cuddl
