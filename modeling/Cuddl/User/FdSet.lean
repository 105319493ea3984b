import Cuddl.User.EventsrcSet

/-!
# Sets of event sources in memory

What `struct cuddl_eventsrcset` holds: the bits of an `fd_set` and, beside them, the bound that
`select` wants.  Nothing but the functions on it keeps the two together, and before the first
`cuddl_eventsrcset_zero` they hold whatever was in the memory.  `Represents` says when they are an
`EventsrcSet`.
-/

namespace Cuddl
namespace User

/-- `FD_SETSIZE` -/
def fdSetSize : Nat := 1024

/-- `fd_set` -/
abbrev FdSet : Type := Fin fdSetSize → Bool

/-- `FD_ISSET` -/
def FdSet.isSet (fds : FdSet) (fd : Nat) : Bool :=
  if h : fd < fdSetSize then fds ⟨fd, h⟩ else false

/-- `struct cuddli_eventsrcset_priv` -/
structure EventsrcsetPriv where
  fds : FdSet
  maxFd : Int

/-- An event source whose descriptor fits into an `fd_set`. -/
structure SelectableEventsrc extends Eventsrc where
  fd_nonneg : 0 ≤ fd
  fd_lt : fd < fdSetSize

def SelectableEventsrc.index (eventsrc : SelectableEventsrc) : Fin fdSetSize :=
  ⟨eventsrc.fd.toNat, by
    have hnonneg := eventsrc.fd_nonneg
    have hlt := eventsrc.fd_lt
    omega⟩

namespace EventsrcsetPriv

/-- `cuddl_eventsrcset_zero` -/
def zero (_set : EventsrcsetPriv) : EventsrcsetPriv :=
  { fds := fun _ => false
    maxFd := 0 }

/-- `cuddl_eventsrcset_add` -/
def add (set : EventsrcsetPriv) (eventsrc : SelectableEventsrc) : EventsrcsetPriv :=
  { fds := Function.update set.fds eventsrc.index true
    maxFd := if eventsrc.fd > set.maxFd then eventsrc.fd else set.maxFd }

/-- `cuddl_eventsrcset_remove` -/
def remove (set : EventsrcsetPriv) (eventsrc : SelectableEventsrc) : EventsrcsetPriv :=
  { set with fds := Function.update set.fds eventsrc.index false }

/-- `cuddl_eventsrcset_contains` -/
def contains (set : EventsrcsetPriv) (eventsrc : SelectableEventsrc) : Bool :=
  set.fds eventsrc.index

end EventsrcsetPriv

/-! ## Waiting -/

/-- What `select` leaves of a set of which `ready` are readable.  It looks at the descriptors below
`nfds`; whether it leaves or clears the others is not specified. -/
def selectFds (nfds : Int) (fds : FdSet) (ready : Finset Nat) (beyond : FdSet) : FdSet :=
  fun fd => fds fd && if (fd.val : Int) < nfds then decide (fd.val ∈ ready) else beyond fd

/-- `select` with a set of descriptors to read from. -/
def selectCall (ready : Timeval → Except SysErrno (Finset Nat)) (beyond : FdSet) :
    Int → FdSet → Timeval → Except SysErrno FdSet :=
  fun nfds fds tv => (ready tv).map fun r => selectFds nfds fds r beyond

structure PrivWaitResult where
  ret : Int
  result : EventsrcsetPriv
  consumed : List Nat

/-- The loop over the descriptors, on the bits. -/
def readBits (set : EventsrcsetPriv) (read : Nat → Except SysErrno UInt32) :
    List Nat → Nat → List Nat → PrivWaitResult
  | [], n, consumed =>
      { ret := if n = 0 then -Errno.ETIMEDOUT else n
        result := set
        consumed := consumed }
  | fd :: fds, n, consumed =>
      if set.fds.isSet fd then
        match read fd with
        | .error e => { ret := -(e.val : Int), result := set, consumed := consumed }
        | .ok _ => readBits set read fds (n + 1) (consumed ++ [fd])
      else
        readBits set read fds n consumed

/-- What `cuddl_eventsrcset_timed_wait` does with the copy it has made of the set. -/
def EventsrcsetPriv.timedWait (set : EventsrcsetPriv) (timeout : Timespec)
    (select : Int → FdSet → Timeval → Except SysErrno FdSet)
    (read : Nat → Except SysErrno UInt32) : PrivWaitResult :=
  match select (set.maxFd + 1) set.fds { sec := timeout.sec, usec := timeout.nsec.tdiv 1000 } with
  | .error e => { ret := -(e.val : Int), result := set, consumed := [] }
  | .ok fds => readBits { set with fds := fds } read (List.range (set.maxFd + 1).toNat) 0 []

/-- A wait with the sets that are in memory after it. -/
structure MemoryWait (α : Type*) where
  ret : Int
  sets : α → EventsrcsetPriv
  consumed : List Nat

/-- `cuddl_eventsrcset_timed_wait`, of the set at `eventsrcset`.  The copy is made at `result`, or
in a local variable when that is `NULL`. -/
def timedWaitAt {α : Type*} [DecidableEq α] (sets : α → EventsrcsetPriv) (eventsrcset : α)
    (timeout : Timespec) (result : Option α)
    (select : Int → FdSet → Timeval → Except SysErrno FdSet)
    (read : Nat → Except SysErrno UInt32) : MemoryWait α :=
  let w := (sets eventsrcset).timedWait timeout select read
  { ret := w.ret
    sets :=
      match result with
      | some r => Function.update sets r w.result
      | none => sets
    consumed := w.consumed }

/-! ## The set that the memory holds -/

/-- The bits and the bound are those of a set of descriptors. -/
structure Represents (set : EventsrcsetPriv) (abs : EventsrcSet) : Prop where
  fds : ∀ fd : Fin fdSetSize, set.fds fd = decide (fd.val ∈ abs.fds)
  maxFd : set.maxFd = abs.maxFd
  lt_size : ∀ fd ∈ abs.fds, fd < fdSetSize

section Represents

variable {set : EventsrcsetPriv} {abs : EventsrcSet} {eventsrc : SelectableEventsrc}

theorem Represents.isSet (h : Represents set abs) (fd : Nat) :
    set.fds.isSet fd = decide (fd ∈ abs.fds) := by
  by_cases hfd : fd < fdSetSize
  · rw [FdSet.isSet, dif_pos hfd]
    exact h.fds ⟨fd, hfd⟩
  · have habs : fd ∉ abs.fds := fun hmem => hfd (h.lt_size fd hmem)
    rw [FdSet.isSet, dif_neg hfd, decide_eq_false habs]

theorem represents_zero (set : EventsrcsetPriv) : Represents set.zero eventsrcsetZero where
  fds := by
    intro fd
    simp [EventsrcsetPriv.zero, eventsrcsetZero]
  maxFd := rfl
  lt_size := by simp [eventsrcsetZero]

theorem Represents.add (h : Represents set abs) :
    Represents (set.add eventsrc) (eventsrcsetAdd abs eventsrc.toEventsrc) where
  fds := by
    intro fd
    have hfds := h.fds fd
    by_cases hfd : fd = eventsrc.index
    · subst hfd
      simp [EventsrcsetPriv.add, eventsrcsetAdd, SelectableEventsrc.index]
    · have hval : fd.val ≠ eventsrc.fd.toNat := fun heq => hfd (Fin.ext heq)
      simp [EventsrcsetPriv.add, eventsrcsetAdd, hfd, hval, hfds]
  maxFd := by
    have hmax := h.maxFd
    have hnonneg := eventsrc.fd_nonneg
    simp only [EventsrcsetPriv.add, eventsrcsetAdd]
    split <;> split <;> omega
  lt_size := by
    intro fd hfd
    rcases Finset.mem_insert.1 hfd with rfl | hfd
    · exact eventsrc.index.isLt
    · exact h.lt_size fd hfd

theorem Represents.remove (h : Represents set abs) :
    Represents (set.remove eventsrc) (eventsrcsetRemove abs eventsrc.toEventsrc) where
  fds := by
    intro fd
    have hfds := h.fds fd
    by_cases hfd : fd = eventsrc.index
    · subst hfd
      simp [EventsrcsetPriv.remove, eventsrcsetRemove, SelectableEventsrc.index]
    · have hval : fd.val ≠ eventsrc.fd.toNat := fun heq => hfd (Fin.ext heq)
      simp [EventsrcsetPriv.remove, eventsrcsetRemove, hfd, hval, hfds]
  maxFd := h.maxFd
  lt_size := fun fd hfd => h.lt_size fd (Finset.mem_of_mem_erase hfd)

theorem Represents.contains (h : Represents set abs) :
    set.contains eventsrc = eventsrcsetContains abs eventsrc.toEventsrc :=
  h.fds eventsrc.index

/-- With the right bound, `select` is asked about every descriptor of the set. -/
theorem Represents.select (h : Represents set abs) (ready : Finset Nat) (beyond : FdSet) :
    Represents { set with fds := selectFds (set.maxFd + 1) set.fds ready beyond }
      (abs.restrict ready) where
  fds := by
    intro fd
    have hfds := h.fds fd
    by_cases hmem : fd.val ∈ abs.fds
    · -- a member is below `nfds`, so `select` decides about it
      have hle := abs.le_maxFd fd hmem
      have hbelow : (fd.val : Int) < set.maxFd + 1 := by
        rw [h.maxFd]
        omega
      simp [selectFds, EventsrcSet.restrict, hfds, hmem, hbelow]
    · simp [selectFds, EventsrcSet.restrict, hfds, hmem]
  maxFd := h.maxFd
  lt_size := fun fd hfd => h.lt_size fd (Finset.mem_inter.1 hfd).1

/-- The two loops read the same descriptors. -/
theorem Represents.readBits (h : Represents set abs) (read : Nat → Except SysErrno UInt32) :
    ∀ (fds : List Nat) (n : Nat) (consumed : List Nat),
      readBits set read fds n consumed =
        { ret := (readLoop abs read fds n consumed).ret
          result := set
          consumed := (readLoop abs read fds n consumed).consumed } ∧
      (readLoop abs read fds n consumed).result = abs := by
  intro fds
  induction fds with
  | nil =>
      intro n consumed
      exact ⟨rfl, rfl⟩
  | cons fd fds ih =>
      intro n consumed
      have hbit := h.isSet fd
      -- a member is read, and a failing read ends both loops
      by_cases hmem : fd ∈ abs.fds
      · rw [decide_eq_true hmem] at hbit
        rw [User.readBits, readLoop, if_pos hbit, if_pos hmem]
        cases hread : read fd with
        | error e => exact ⟨rfl, rfl⟩
        | ok count => exact ih (n + 1) (consumed ++ [fd])
      · rw [decide_eq_false hmem] at hbit
        rw [User.readBits, readLoop, if_neg (by simp [hbit]), if_neg hmem]
        exact ih n consumed

/-- A wait on the bits is a wait on the set that they are. -/
theorem Represents.timedWait (h : Represents set abs) (timeout : Timespec)
    (ready : Timeval → Except SysErrno (Finset Nat)) (beyond : FdSet)
    (read : Nat → Except SysErrno UInt32) :
    (set.timedWait timeout (selectCall ready beyond) read).ret =
        (eventsrcsetTimedWait abs timeout ready read).ret ∧
      (set.timedWait timeout (selectCall ready beyond) read).consumed =
        (eventsrcsetTimedWait abs timeout ready read).consumed ∧
      Represents (set.timedWait timeout (selectCall ready beyond) read).result
        (eventsrcsetTimedWait abs timeout ready read).result := by
  have hbound : (set.maxFd + 1).toNat = abs.maxFd + 1 := by
    rw [h.maxFd]
    omega
  rw [EventsrcsetPriv.timedWait, eventsrcsetTimedWait, selectCall]
  cases hready : ready { sec := timeout.sec, usec := timeout.nsec.tdiv 1000 } with
  | error e => exact ⟨rfl, rfl, h⟩
  | ok r =>
      have hselect := h.select r beyond
      rcases hselect.readBits read (List.range (abs.maxFd + 1)) 0 [] with ⟨hbits, hresult⟩
      simp only [Except.map, hbound, hbits]
      refine ⟨trivial, trivial, ?_⟩
      rw [hresult]
      exact hselect

end Represents

end User
end Cuddl
