import Cuddl.User.EventsrcSet

/-!
# Waiting for several sources

`cuddl_eventsrcset_timed_wait` reads the ready descriptors one after the other and gives up at the
first read that fails.  The events of the sources below that one have been taken by then, and the
caller, who gets an error, does not learn which they are (`timedWait_losesNoEvent_iff`).
-/

namespace Cuddl

open User

/-- A wait takes an event only if it reports its source, and its return value counts what it
reports. -/
structure LosesNoEvent (set : EventsrcSet) (r : WaitResult) : Prop where
  reported : ∀ fd ∈ r.consumed, 0 < r.ret ∧ fd ∈ r.result.fds
  failed : r.ret < 0 → r.consumed = []
  counted : 0 ≤ r.ret → r.ret = r.result.fds.card ∧ r.result.fds ⊆ set.fds

/-- Every ready source can be read, or the lowest one cannot. -/
def ReadsAllOrNone (ready : Finset Nat) (read : Nat → Except SysErrno UInt32) : Prop :=
  (∀ fd ∈ ready, readOk read fd = true) ∨
    ∃ fd ∈ ready, readOk read fd = false ∧ ∀ fd' ∈ ready, fd ≤ fd'

section Wait

variable {set : EventsrcSet} {read : Nat → Except SysErrno UInt32}

/-- Either all members can be read, or a first one cannot. -/
theorem members_cases (set : EventsrcSet) (read : Nat → Except SysErrno UInt32) :
    (∀ fd ∈ set.fds, readOk read fd = true) ∨
      ∃ before fd after e, set.members = before ++ fd :: after ∧ read fd = .error e ∧
        ∀ fd' ∈ before, readOk read fd' = true := by
  have hsplit : ∀ fds : List Nat, (∀ fd ∈ fds, readOk read fd = true) ∨
      ∃ before fd after e, fds = before ++ fd :: after ∧ read fd = .error e ∧
        ∀ fd' ∈ before, readOk read fd' = true := by
    intro fds
    induction fds with
    | nil => exact Or.inl (by simp)
    | cons fd fds ih =>
        cases hread : read fd with
        | error e => exact Or.inr ⟨[], fd, fds, e, rfl, hread, by simp⟩
        | ok count =>
            have hok : readOk read fd = true := by simp [readOk, hread]
            rcases ih with hall | ⟨before, fd', after, e, rfl, herr, hbefore⟩
            · exact Or.inl (List.forall_mem_cons.2 ⟨hok, hall⟩)
            · exact Or.inr ⟨fd :: before, fd', after, e, rfl, herr,
                List.forall_mem_cons.2 ⟨hok, hbefore⟩⟩
  rcases hsplit set.members with hall | hfirst
  · exact Or.inl fun fd hfd => hall fd (EventsrcSet.mem_members.2 hfd)
  · exact Or.inr hfirst

/-- The loop of a wait, run over the members of the set that `select` has left. -/
def readAll (set : EventsrcSet) (read : Nat → Except SysErrno UInt32) : WaitResult :=
  readLoop set read (List.range (set.maxFd + 1)) 0 []

theorem readAll_of_ok (h : ∀ fd ∈ set.fds, readOk read fd = true) :
    readAll set read =
      { ret := if set.fds.card = 0 then -Errno.ETIMEDOUT else set.fds.card
        result := set
        consumed := set.members } := by
  have hall : ∀ fd ∈ set.members, fd ∈ set.fds ∧ readOk read fd = true := by
    intro fd hfd
    have hmem := EventsrcSet.mem_members.1 hfd
    exact ⟨hmem, h fd hmem⟩
  have happend := readLoop_append [] 0 [] hall
  rw [List.append_nil] at happend
  rw [readAll, readLoop_members, happend]
  simp [readLoop, EventsrcSet.length_members]

theorem readAll_of_error {before after : List Nat} {fd : Nat} {e : SysErrno}
    (hsplit : set.members = before ++ fd :: after) (hread : read fd = .error e)
    (hbefore : ∀ fd' ∈ before, readOk read fd' = true) :
    readAll set read = { ret := -(e.val : Int), result := set, consumed := before } := by
  have hmem : ∀ {fd'}, fd' ∈ before ++ fd :: after → fd' ∈ set.fds := by
    intro fd' hfd'
    rw [← hsplit] at hfd'
    exact EventsrcSet.mem_members.1 hfd'
  have hall : ∀ fd' ∈ before, fd' ∈ set.fds ∧ readOk read fd' = true := fun fd' hfd' =>
    ⟨hmem (List.mem_append_left _ hfd'), hbefore fd' hfd'⟩
  rw [readAll, readLoop_members, hsplit, readLoop_append _ _ _ hall,
    readLoop_of_error (hmem (by simp)) hread]
  simp

theorem losesNoEvent_of_ok {ready : Finset Nat}
    (h : ∀ fd ∈ (set.restrict ready).fds, readOk read fd = true) :
    LosesNoEvent set (readAll (set.restrict ready) read) := by
  have hmem : ∀ fd ∈ (set.restrict ready).members, fd ∈ (set.restrict ready).fds := fun fd =>
    EventsrcSet.mem_members.1
  have hpos : ∀ fd ∈ (set.restrict ready).members, 0 < (set.restrict ready).fds.card :=
    fun fd hfd => Finset.card_pos.2 ⟨fd, hmem fd hfd⟩
  rw [readAll_of_ok h]
  refine ⟨?_, ?_, ?_⟩
  · intro fd hfd
    have hcard := hpos fd hfd
    refine ⟨?_, hmem fd hfd⟩
    simp only [hcard.ne', if_false]
    exact Int.natCast_pos.2 hcard
  · intro hneg
    by_contra hne
    rcases List.exists_mem_of_ne_nil _ hne with ⟨fd, hfd⟩
    have hcard := hpos fd hfd
    simp only [hcard.ne', if_false] at hneg
    omega
  · intro hnonneg
    refine ⟨?_, Finset.inter_subset_left⟩
    by_cases hcard : (set.restrict ready).fds.card = 0
    · simp [hcard, Errno.ETIMEDOUT] at hnonneg
    · simp [hcard]

/-- A wait that is aborted has lost nothing exactly when the first member it tried failed. -/
theorem losesNoEvent_error_iff {ready : Finset Nat} {before after : List Nat} {fd : Nat}
    {e : SysErrno} (hsplit : (set.restrict ready).members = before ++ fd :: after)
    (hread : read fd = .error e) (hbefore : ∀ fd' ∈ before, readOk read fd' = true) :
    LosesNoEvent set (readAll (set.restrict ready) read) ↔ before = [] := by
  rw [readAll_of_error hsplit hread hbefore]
  constructor
  · intro h
    exact h.failed (neg_errno_lt e)
  · rintro rfl
    refine ⟨by simp, fun _ => rfl, ?_⟩
    intro hnonneg
    exact absurd hnonneg (not_le.2 (neg_errno_lt e))

/-- The first member that cannot be read is the lowest one exactly when none is before it. -/
theorem readsAllOrNone_iff {before after : List Nat} {fd : Nat} {e : SysErrno}
    (hsplit : set.members = before ++ fd :: after) (hread : read fd = .error e)
    (hbefore : ∀ fd' ∈ before, readOk read fd' = true) :
    ReadsAllOrNone set.fds read ↔ before = [] := by
  have hfails : readOk read fd = false := by simp [readOk, hread]
  have hmem : ∀ {fd'}, fd' ∈ set.fds ↔ fd' ∈ before ++ fd :: after := by
    intro fd'
    rw [← hsplit, EventsrcSet.mem_members]
  have horder := set.pairwise_members
  rw [hsplit, List.pairwise_append] at horder
  constructor
  · rintro (hall | ⟨low, hlow, hlowFails, hleast⟩)
    · have hok := hall fd (hmem.2 (by simp))
      rw [hfails] at hok
      cases hok
    · by_contra hne
      rcases List.exists_mem_of_ne_nil _ hne with ⟨fd', hfd'⟩
      have hle := hleast fd' (hmem.2 (List.mem_append_left _ hfd'))
      -- the members before the failing one have been read
      rcases List.mem_append.1 (hmem.1 hlow) with hin | hin
      · rw [hbefore low hin] at hlowFails
        cases hlowFails
      · have hlt := horder.2.2 fd' hfd' low hin
        omega
  · rintro rfl
    refine Or.inr ⟨fd, hmem.2 (by simp), hfails, ?_⟩
    intro fd' hfd'
    rcases List.mem_cons.1 (hmem.1 hfd') with rfl | hin
    · exact le_refl _
    · exact ((List.pairwise_cons.1 horder.2.1).1 fd' hin).le

end Wait

/-- A wait for several sources loses no event exactly when `select` fails, or all sources that are
ready can be read, or the one with the lowest descriptor cannot. -/
theorem timedWait_losesNoEvent_iff (set : EventsrcSet) (timeout : Timespec)
    (select : Timeval → Except SysErrno (Finset Nat)) (read : Nat → Except SysErrno UInt32) :
    LosesNoEvent set (eventsrcsetTimedWait set timeout select read) ↔
      ∀ ready, select { sec := timeout.sec, usec := timeout.nsec.tdiv 1000 } = .ok ready →
        ReadsAllOrNone (set.fds ∩ ready) read := by
  cases hselect : select { sec := timeout.sec, usec := timeout.nsec.tdiv 1000 } with
  | error e =>
      have hwait : eventsrcsetTimedWait set timeout select read =
          { ret := -(e.val : Int), result := set, consumed := [] } := by
        rw [eventsrcsetTimedWait, hselect]
      rw [hwait]
      refine iff_of_true ⟨by simp, fun _ => rfl, ?_⟩ ?_
      · intro hnonneg
        exact absurd hnonneg (not_le.2 (neg_errno_lt e))
      · rintro ready ⟨⟩
  | ok ready =>
      have hwait : eventsrcsetTimedWait set timeout select read =
          readAll (set.restrict ready) read := by
        rw [eventsrcsetTimedWait, hselect]
        rfl
      have hready : (∀ ready', Except.ok (ε := SysErrno) ready = .ok ready' →
          ReadsAllOrNone (set.fds ∩ ready') read) ↔
            ReadsAllOrNone (set.restrict ready).fds read := by
        constructor
        · intro h
          exact h ready rfl
        · rintro h _ ⟨⟩
          exact h
      rw [hwait, hready]
      rcases members_cases (set.restrict ready) read with
        hall | ⟨before, fd, after, e, hsplit, hread, hbefore⟩
      · exact iff_of_true (losesNoEvent_of_ok hall) (Or.inl hall)
      · rw [losesNoEvent_error_iff hsplit hread hbefore, readsAllOrNone_iff hsplit hread hbefore]

/-- Descriptors 3 and 4. -/
def Sample.twoSources : EventsrcSet :=
  { fds := {3, 4}, maxFd := 4, le_maxFd := by decide }

/-- The read of descriptor 4 fails. -/
def Sample.readThree (fd : Nat) : Except SysErrno UInt32 :=
  if fd = 3 then .ok 1 else .error ⟨5, by decide⟩

/-- The event of descriptor 3 is taken, and the wait returns an error. -/
theorem timedWait_loses_event :
    (eventsrcsetTimedWait Sample.twoSources ⟨1, 0⟩ (fun _ => .ok {3, 4}) Sample.readThree).ret =
        -5 ∧
      (eventsrcsetTimedWait Sample.twoSources ⟨1, 0⟩ (fun _ => .ok {3, 4})
        Sample.readThree).consumed = [3] ∧
      ¬ LosesNoEvent Sample.twoSources
        (eventsrcsetTimedWait Sample.twoSources ⟨1, 0⟩ (fun _ => .ok {3, 4})
          Sample.readThree) := by
  have hret : (eventsrcsetTimedWait Sample.twoSources ⟨1, 0⟩ (fun _ => .ok {3, 4})
      Sample.readThree).ret = -5 := by decide +kernel
  have hconsumed : (eventsrcsetTimedWait Sample.twoSources ⟨1, 0⟩ (fun _ => .ok {3, 4})
      Sample.readThree).consumed = [3] := by decide +kernel
  refine ⟨hret, hconsumed, ?_⟩
  intro h
  have hnone := h.failed (by rw [hret]; decide)
  rw [hconsumed] at hnone
  cases hnone

end Cuddl
