import Cuddl.Foundation.Since
import Cuddl.Properties.EventSets
import Cuddl.User.FdSet

/-!
# Event source sets over a run

After any sequence of calls with a `cuddl_eventsrcset_zero` in it, a set holds the descriptors that
have been added since and not removed again, and its bound is above them, whatever was in its
memory before (`eventsrcset_behavesAsSet`).
-/

namespace Cuddl

open Foundation User

/-! ## Sequences of calls -/

/-- A call that changes a set. -/
inductive SetOp
  | zero
  | add (eventsrc : SelectableEventsrc)
  | remove (eventsrc : SelectableEventsrc)

/-- The call on the memory of a set. -/
def SetOp.apply : SetOp → EventsrcsetPriv → EventsrcsetPriv
  | .zero, set => set.zero
  | .add eventsrc, set => set.add eventsrc
  | .remove eventsrc, set => set.remove eventsrc

/-- The call on a set. -/
def SetOp.effect : SetOp → EventsrcSet → EventsrcSet
  | .zero, _ => eventsrcsetZero
  | .add eventsrc, set => eventsrcsetAdd set eventsrc.toEventsrc
  | .remove eventsrc, set => eventsrcsetRemove set eventsrc.toEventsrc

def runOps (ops : List SetOp) (set : EventsrcsetPriv) : EventsrcsetPriv :=
  ops.foldl (fun set op => op.apply set) set

/-- The set that a sequence of calls makes of the empty one. -/
def effectOf (ops : List SetOp) : EventsrcSet :=
  ops.foldl (fun set op => op.effect set) eventsrcsetZero

/-- The descriptor was added after the last `cuddl_eventsrcset_zero`, and not removed since. -/
def AddedSince (ops : List SetOp) (fd : Nat) : Prop :=
  Since (fun op => ∃ eventsrc, op = .add eventsrc ∧ eventsrc.index.val = fd)
    (fun op => op = .zero ∨ ∃ eventsrc, op = .remove eventsrc ∧ eventsrc.index.val = fd) ops

/-! ## What a sequence leaves -/

section Runs

variable {ops : List SetOp} {fd : Nat}

theorem SetOp.mem_effect (set : EventsrcSet) (op : SetOp) :
    fd ∈ (op.effect set).fds ↔
      (∃ eventsrc, op = .add eventsrc ∧ eventsrc.index.val = fd) ∨ fd ∈ set.fds ∧
        ¬ (op = .zero ∨ ∃ eventsrc, op = .remove eventsrc ∧ eventsrc.index.val = fd) := by
  cases op with
  | zero => simp [SetOp.effect, eventsrcsetZero]
  | add eventsrc => simp [SetOp.effect, eventsrcsetAdd, SelectableEventsrc.index, eq_comm]
  | remove eventsrc =>
      simp [SetOp.effect, eventsrcsetRemove, SelectableEventsrc.index, eq_comm, and_comm]

theorem mem_effectOf : fd ∈ (effectOf ops).fds ↔ AddedSince ops fd :=
  since_iff_foldl (fun set : EventsrcSet => fd ∈ set.fds) (by simp [eventsrcsetZero])
    SetOp.mem_effect ops

theorem SetOp.represents {set : EventsrcsetPriv} {abs : EventsrcSet} (op : SetOp)
    (h : Represents set abs) : Represents (op.apply set) (op.effect abs) := by
  cases op with
  | zero => exact represents_zero set
  | add eventsrc => exact h.add
  | remove eventsrc => exact h.remove

/-- From the first `cuddl_eventsrcset_zero` on, the memory is a set. -/
theorem represents_runOps (old : EventsrcsetPriv) (hzero : .zero ∈ ops) :
    Represents (runOps ops old) (effectOf ops) := by
  induction ops using List.reverseRecOn with
  | nil => simp at hzero
  | append_singleton ops op ih =>
      rw [runOps, effectOf, List.foldl_append, List.foldl_append]
      by_cases hop : op = .zero
      · -- whatever the memory was, it is the empty set from here on
        subst hop
        exact represents_zero (runOps ops old)
      · have hmem : .zero ∈ ops := by
          rcases List.mem_append.1 hzero with hmem | hmem
          · exact hmem
          · exact absurd (List.mem_singleton.1 hmem).symm hop
        exact op.represents (ih hmem)

/-- The bound of a set that starts empty stays a descriptor. -/
theorem maxFd_effectOf_lt (ops : List SetOp) : (effectOf ops).maxFd < fdSetSize := by
  have hpos : 0 < fdSetSize := by decide
  induction ops using List.reverseRecOn with
  | nil => exact hpos
  | append_singleton ops op ih =>
      rw [effectOf, List.foldl_append]
      -- only an add moves the bound up
      cases op with
      | zero => exact hpos
      | remove eventsrc => exact ih
      | add eventsrc =>
          have hlt := eventsrc.index.isLt
          simp only [List.foldl_cons, List.foldl_nil, SetOp.effect, eventsrcsetAdd]
          split
          · exact hlt
          · exact ih

end Runs

/-! ## Sets of event sources are sets -/

/-- What `cuddl_eventsrcset_contains` and `cuddl_eventsrcset_timed_wait` see in a set after the
calls `ops`. -/
structure BehavesAsSet (ops : List SetOp) (set : EventsrcsetPriv) : Prop where
  contains : ∀ eventsrc : SelectableEventsrc,
    set.contains eventsrc = true ↔ AddedSince ops eventsrc.index
  le_maxFd : ∀ fd : Fin fdSetSize, set.fds fd = true → (fd.val : Int) ≤ set.maxFd
  maxFd_range : 0 ≤ set.maxFd ∧ set.maxFd < fdSetSize
  /-- `select` is asked about every member, whatever it does with other descriptors. -/
  selected : ∀ (ready : Finset Nat) (beyond : FdSet) (fd : Fin fdSetSize),
    selectFds (set.maxFd + 1) set.fds ready beyond fd = true ↔ set.fds fd = true ∧ fd.val ∈ ready
  /-- The loop comes to every member that `select` has left. -/
  read : ∀ (timeout : Timespec) (ready : Timeval → Except SysErrno (Finset Nat)) (beyond : FdSet)
    (read : Nat → Except SysErrno UInt32) (r : Finset Nat),
    ready { sec := timeout.sec, usec := timeout.nsec.tdiv 1000 } = .ok r →
    (∀ fd ∈ r, readOk read fd = true) →
    ∀ fd : Fin fdSetSize,
      fd.val ∈ (set.timedWait timeout (selectCall ready beyond) read).consumed ↔
        set.fds fd = true ∧ fd.val ∈ r

theorem behavesAsSet_of_represents {ops : List SetOp} {set : EventsrcsetPriv}
    (h : Represents set (effectOf ops)) : BehavesAsSet ops set where
  contains := by
    intro eventsrc
    rw [EventsrcsetPriv.contains, h.fds, decide_eq_true_eq]
    exact mem_effectOf
  le_maxFd := by
    intro fd hfd
    rw [h.fds, decide_eq_true_eq] at hfd
    rw [h.maxFd]
    exact Int.ofNat_le.2 ((effectOf ops).le_maxFd fd hfd)
  maxFd_range := by
    have hlt := maxFd_effectOf_lt ops
    rw [h.maxFd]
    omega
  selected := by
    intro ready beyond fd
    have hselect : selectFds (set.maxFd + 1) set.fds ready beyond fd =
        decide (fd.val ∈ ((effectOf ops).restrict ready).fds) := (h.select ready beyond).fds fd
    rw [hselect, h.fds, decide_eq_true_eq, decide_eq_true_eq]
    exact Finset.mem_inter
  read := by
    intro timeout ready beyond read r hready hread fd
    have hwait := (h.timedWait timeout ready beyond read).2.1
    have hall : ∀ fd ∈ ((effectOf ops).restrict r).fds, readOk read fd = true :=
      fun fd hfd => hread fd (Finset.mem_inter.1 hfd).2
    rw [hwait, eventsrcsetTimedWait, hready]
    have hmembers := congrArg WaitResult.consumed (readAll_of_ok hall)
    rw [h.fds, decide_eq_true_eq, ← Finset.mem_inter]
    calc
      fd.val ∈ (readAll ((effectOf ops).restrict r) read).consumed
          ↔ fd.val ∈ ((effectOf ops).restrict r).members := by rw [hmembers]
      _ ↔ fd.val ∈ (effectOf ops).fds ∩ r := EventsrcSet.mem_members

/-- A wait changes no set but the one that its result points to. -/
theorem timedWaitAt_sets {α : Type*} [DecidableEq α] {sets : α → EventsrcsetPriv}
    {eventsrcset : α} {timeout : Timespec} {result : Option α}
    {select : Int → FdSet → Timeval → Except SysErrno FdSet} {read : Nat → Except SysErrno UInt32}
    {p : α} (hresult : result ≠ some p) :
    (timedWaitAt sets eventsrcset timeout result select read).sets p = sets p := by
  cases result with
  | none => rfl
  | some r =>
      have hne : p ≠ r := fun heq => hresult (by rw [heq])
      exact Function.update_of_ne hne _ _

/-- After any calls with a `cuddl_eventsrcset_zero` among them, and whatever the memory held
before, a set has the members that it should have, and its bound covers them.  A wait whose result
is elsewhere, or `NULL`, leaves the set it waits for as it is. -/
theorem eventsrcset_behavesAsSet {ops : List SetOp} (hzero : .zero ∈ ops) (old : EventsrcsetPriv) :
    BehavesAsSet ops (runOps ops old) ∧
      ∀ {α : Type} [DecidableEq α] (sets : α → EventsrcsetPriv) (eventsrcset : α)
        (timeout : Timespec) (result : Option α)
        (select : Int → FdSet → Timeval → Except SysErrno FdSet)
        (read : Nat → Except SysErrno UInt32),
        sets eventsrcset = runOps ops old → result ≠ some eventsrcset →
          (timedWaitAt sets eventsrcset timeout result select read).sets eventsrcset =
            runOps ops old := by
  refine ⟨behavesAsSet_of_represents (represents_runOps old hzero), ?_⟩
  intro α _ sets eventsrcset timeout result select read hset hresult
  rw [timedWaitAt_sets hresult, hset]

namespace Sample

/-- An open event source. -/
def source (fd : Fin 1024) : SelectableEventsrc :=
  { flags := 0
    fd := fd.val
    token := { deviceIndex := 0, resourceIndex := 0 }
    fd_nonneg := Int.natCast_nonneg _
    fd_lt := Int.ofNat_lt.2 fd.isLt }

/-- Memory in which nothing has been set up. -/
def oldSet : EventsrcsetPriv :=
  { fds := fun _ => true
    maxFd := -7 }

/-- A set that is filled, partly emptied and filled again. -/
def setOps : List SetOp :=
  [.add (source 9), .zero, .add (source 5), .add (source 7), .remove (source 7),
    .remove (source 5), .add (source 5)]

end Sample

theorem eventsrcset_behavesAsSet_refilled :
    .zero ∈ Sample.setOps ∧ BehavesAsSet Sample.setOps (runOps Sample.setOps Sample.oldSet) ∧
      (runOps Sample.setOps Sample.oldSet).contains (Sample.source 5) = true ∧
      (runOps Sample.setOps Sample.oldSet).contains (Sample.source 7) = false ∧
      (timedWaitAt (fun _ : Bool => runOps Sample.setOps Sample.oldSet) true { sec := 1, nsec := 0 }
        (some false) (selectCall (fun _ => .ok {5}) Sample.oldSet.fds)
        (fun _ => .ok 1)).sets true = runOps Sample.setOps Sample.oldSet := by
  have hzero : .zero ∈ Sample.setOps := by simp [Sample.setOps]
  have hbehaves := eventsrcset_behavesAsSet hzero Sample.oldSet
  refine ⟨hzero, hbehaves.1, by decide +kernel, by decide +kernel, ?_⟩
  exact hbehaves.2 (fun _ : Bool => runOps Sample.setOps Sample.oldSet) true _ (some false) _ _
    rfl (by decide)

end Cuddl
