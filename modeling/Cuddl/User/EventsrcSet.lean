import Cuddl.User.Eventsrc
import Mathlib.Data.Finset.Max

/-!
# Sets of event sources

`cuddl_eventsrcset` is an `fd_set` with the bound that `select` wants, and
`cuddl_eventsrcset_timed_wait` waits for all of its descriptors at once.
-/

namespace Cuddl
namespace User

/-- `struct cuddl_eventsrcset`: no descriptor of the set is above `max_fd`. -/
structure EventsrcSet where
  fds : Finset Nat
  maxFd : Nat
  le_maxFd : ∀ fd ∈ fds, fd ≤ maxFd

/-- `cuddl_eventsrcset_zero` -/
def eventsrcsetZero : EventsrcSet :=
  { fds := ∅, maxFd := 0, le_maxFd := by simp }

/-- `cuddl_eventsrcset_add`, of a source that is open -/
def eventsrcsetAdd (set : EventsrcSet) (eventsrc : Eventsrc) : EventsrcSet :=
  { fds := insert eventsrc.fd.toNat set.fds
    maxFd := if set.maxFd < eventsrc.fd.toNat then eventsrc.fd.toNat else set.maxFd
    le_maxFd := by
      intro fd hfd
      rcases Finset.mem_insert.1 hfd with rfl | hfd
      · split <;> omega
      · have hle := set.le_maxFd fd hfd
        split <;> omega }

/-- `cuddl_eventsrcset_remove`; the bound stays as it is. -/
def eventsrcsetRemove (set : EventsrcSet) (eventsrc : Eventsrc) : EventsrcSet :=
  { fds := set.fds.erase eventsrc.fd.toNat
    maxFd := set.maxFd
    le_maxFd := fun fd hfd => set.le_maxFd fd (Finset.mem_of_mem_erase hfd) }

/-- `cuddl_eventsrcset_contains` -/
def eventsrcsetContains (set : EventsrcSet) (eventsrc : Eventsrc) : Bool :=
  decide (eventsrc.fd.toNat ∈ set.fds)

/-- What `select` leaves of a set. -/
def EventsrcSet.restrict (set : EventsrcSet) (ready : Finset Nat) : EventsrcSet :=
  { fds := set.fds ∩ ready
    maxFd := set.maxFd
    le_maxFd := fun fd hfd => set.le_maxFd fd (Finset.mem_inter.1 hfd).1 }

/-- What a wait returns, the result set it leaves, and the descriptors whose pending event it has
read, in order. -/
structure WaitResult where
  ret : Int
  result : EventsrcSet
  consumed : List Nat

/-- The loop over the descriptors: `n` ready ones have been counted, `consumed` have been read. -/
def readLoop (set : EventsrcSet) (read : Nat → Except SysErrno UInt32) :
    List Nat → Nat → List Nat → WaitResult
  | [], n, consumed =>
      { ret := if n = 0 then -Errno.ETIMEDOUT else n
        result := set
        consumed := consumed }
  | fd :: fds, n, consumed =>
      if fd ∈ set.fds then
        match read fd with
        | .error e => { ret := -(e.val : Int), result := set, consumed := consumed }
        | .ok _ => readLoop set read fds (n + 1) (consumed ++ [fd])
      else
        readLoop set read fds n consumed

/-- `cuddl_eventsrcset_timed_wait`.  `select` says which descriptors are readable in time, and
`read` what the `read` of a descriptor returns; a `read` that fails takes no event. -/
def eventsrcsetTimedWait (set : EventsrcSet) (timeout : Timespec)
    (select : Timeval → Except SysErrno (Finset Nat)) (read : Nat → Except SysErrno UInt32) :
    WaitResult :=
  match select { sec := timeout.sec, usec := timeout.nsec.tdiv 1000 } with
  | .error e => { ret := -(e.val : Int), result := set, consumed := [] }
  | .ok ready => readLoop (set.restrict ready) read (List.range (set.maxFd + 1)) 0 []

/-! ## Membership -/

section Members

variable {set : EventsrcSet} {eventsrc other : Eventsrc}

@[simp] theorem eventsrcsetContains_zero :
    eventsrcsetContains eventsrcsetZero eventsrc = false := by
  simp [eventsrcsetContains, eventsrcsetZero]

@[simp] theorem eventsrcsetContains_add :
    eventsrcsetContains (eventsrcsetAdd set eventsrc) other =
      (other.fd.toNat == eventsrc.fd.toNat || eventsrcsetContains set other) := by
  rw [Bool.eq_iff_iff]
  simp [eventsrcsetContains, eventsrcsetAdd]

@[simp] theorem eventsrcsetContains_remove :
    eventsrcsetContains (eventsrcsetRemove set eventsrc) other =
      (other.fd.toNat != eventsrc.fd.toNat && eventsrcsetContains set other) := by
  rw [Bool.eq_iff_iff]
  simp [eventsrcsetContains, eventsrcsetRemove]

end Members

/-! ## What the loop does -/

/-- The read of the descriptor succeeds. -/
def readOk (read : Nat → Except SysErrno UInt32) (fd : Nat) : Bool :=
  match read fd with
  | .error _ => false
  | .ok _ => true

/-- The members of a set, in the order in which the loop meets them. -/
def EventsrcSet.members (set : EventsrcSet) : List Nat :=
  (List.range (set.maxFd + 1)).filter fun fd => decide (fd ∈ set.fds)

theorem EventsrcSet.mem_members {set : EventsrcSet} {fd : Nat} :
    fd ∈ set.members ↔ fd ∈ set.fds := by
  simp only [EventsrcSet.members, List.mem_filter, List.mem_range, decide_eq_true_eq]
  constructor
  · exact And.right
  · intro hfd
    exact ⟨Nat.lt_succ_of_le (set.le_maxFd fd hfd), hfd⟩

theorem EventsrcSet.pairwise_members (set : EventsrcSet) : set.members.Pairwise (· < ·) :=
  List.pairwise_lt_range.filter _

theorem EventsrcSet.length_members (set : EventsrcSet) : set.members.length = set.fds.card := by
  have hnodup : set.members.Nodup := set.pairwise_members.imp Nat.ne_of_lt
  rw [← List.toFinset_card_of_nodup hnodup]
  congr 1
  ext fd
  rw [List.mem_toFinset, EventsrcSet.mem_members]

section Loop

variable {set : EventsrcSet} {read : Nat → Except SysErrno UInt32}

/-- Descriptors that are not in the set are passed over. -/
theorem readLoop_filter :
    ∀ (fds : List Nat) (n : Nat) (consumed : List Nat),
      readLoop set read (fds.filter fun fd => decide (fd ∈ set.fds)) n consumed =
        readLoop set read fds n consumed := by
  intro fds
  induction fds with
  | nil =>
      intro n consumed
      rfl
  | cons fd fds ih =>
      intro n consumed
      by_cases hfd : fd ∈ set.fds
      · rw [List.filter_cons_of_pos (by simpa using hfd), readLoop, readLoop, if_pos hfd,
          if_pos hfd]
        split
        · rfl
        · exact ih _ _
      · rw [List.filter_cons_of_neg (by simpa using hfd), readLoop, if_neg hfd]
        exact ih _ _

/-- The loop meets the members. -/
theorem readLoop_members :
    readLoop set read (List.range (set.maxFd + 1)) 0 [] = readLoop set read set.members 0 [] :=
  (readLoop_filter _ 0 []).symm

/-- Members that can be read are counted and consumed. -/
theorem readLoop_append :
    ∀ {before : List Nat} (after : List Nat) (n : Nat) (consumed : List Nat),
      (∀ fd ∈ before, fd ∈ set.fds ∧ readOk read fd = true) →
      readLoop set read (before ++ after) n consumed =
        readLoop set read after (n + before.length) (consumed ++ before) := by
  intro before
  induction before with
  | nil =>
      intro after n consumed _
      simp
  | cons fd before ih =>
      intro after n consumed hall
      rcases hall fd List.mem_cons_self with ⟨hfd, hok⟩
      have hrest := ih after (n + 1) (consumed ++ [fd])
        fun fd' hfd' => hall fd' (List.mem_cons_of_mem fd hfd')
      cases hread : read fd with
      | error e => simp [readOk, hread] at hok
      | ok count =>
          rw [List.cons_append, readLoop, if_pos hfd, hread]
          simp only [hrest, List.length_cons, List.append_assoc, List.singleton_append]
          rw [Nat.add_right_comm, Nat.add_assoc]

/-- A member that cannot be read ends the loop. -/
theorem readLoop_of_error {fd : Nat} {e : SysErrno} (hfd : fd ∈ set.fds)
    (hread : read fd = .error e) (fds : List Nat) (n : Nat) (consumed : List Nat) :
    readLoop set read (fd :: fds) n consumed =
      { ret := -(e.val : Int), result := set, consumed := consumed } := by
  rw [readLoop, if_pos hfd, hread]

end Loop

end User
end Cuddl
