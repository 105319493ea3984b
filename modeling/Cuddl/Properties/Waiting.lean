import Cuddl.User.Eventsrc

/-!
# Counts and errors of a wait

The functions that wait for events return the cumulative count, an unsigned number of 32 bits, as
an `int` that is negative for an error.  They keep the two apart exactly as long as the count is
below `2 ^ 31` (`faithful_iff`).
-/

namespace Cuddl
namespace User

/-! ## What a wait should return -/

/-- The count that `cuddl_eventsrc_wait` reads, or `none` for an error. -/
def waitDelivers (read : Except SysErrno UInt32) : Option UInt32 :=
  read.toOption

/-- The count that `cuddl_eventsrc_timed_wait` reads, or `none` for an error or a timeout. -/
def timedWaitDelivers (timeout : Timespec) (select : Timeval → Except SysErrno Bool)
    (read : Except SysErrno UInt32) : Option UInt32 :=
  match select { sec := timeout.sec, usec := timeout.nsec.tdiv 1000 } with
  | .ok true => read.toOption
  | _ => none

/-- Negative for an error or a timeout only, and the delivered count otherwise. -/
structure Faithful (ret : Int) (delivered : Option UInt32) : Prop where
  neg_iff : ret < 0 ↔ delivered = none
  count : ∀ c, delivered = some c → ret = c.toNat

/-! ## When it does -/

/-- A count passes through `int` unharmed when its top bit is clear, and is negative there when it
is set. -/
theorem toInt_toInt32 (c : UInt32) :
    c.toInt32.toInt = if c.toNat < 2 ^ 31 then (c.toNat : Int) else c.toNat - (2 ^ 32 : Nat) := by
  have hbits : c.toInt32.toInt = c.toBitVec.toInt := rfl
  have hnat : c.toBitVec.toNat = c.toNat := rfl
  rw [hbits, BitVec.toInt_eq_toNat_cond, hnat]
  by_cases hc : c.toNat < 2 ^ 31
  · rw [if_pos hc, if_pos (by omega)]
  · rw [if_neg hc, if_neg (by omega)]

theorem faithful_none {ret : Int} (hneg : ret < 0) : Faithful ret none :=
  ⟨by simp [hneg], by simp⟩

theorem faithful_some_iff (c : UInt32) :
    Faithful c.toInt32.toInt (some c) ↔ c.toNat < 2 ^ 31 := by
  rw [toInt_toInt32]
  constructor
  · intro h
    have hret := h.count c rfl
    by_contra hbig
    rw [if_neg hbig] at hret
    omega
  · intro hsmall
    rw [if_pos hsmall]
    refine ⟨by simp, ?_⟩
    intro c' heq
    cases heq
    rfl

/-- A condition on the delivered count holds of no count at all. -/
theorem faithful_none_iff {ret : Int} (hneg : ret < 0) :
    Faithful ret none ↔ ∀ c : UInt32, none = some c → c.toNat < 2 ^ 31 :=
  iff_of_true (faithful_none hneg) (by simp)

theorem faithful_readCount_iff (read : Except SysErrno UInt32) :
    Faithful (readCount read) read.toOption ↔
      ∀ c, read.toOption = some c → c.toNat < 2 ^ 31 := by
  cases read with
  | error e =>
      exact faithful_none_iff (neg_errno_lt e)
  | ok count =>
      have hiff := faithful_some_iff count
      simpa [readCount, Except.toOption] using hiff

theorem faithful_timedWait_iff (timeout : Timespec) (select : Timeval → Except SysErrno Bool)
    (read : Except SysErrno UInt32) :
    Faithful (eventsrcTimedWait timeout select read) (timedWaitDelivers timeout select read) ↔
      ∀ c, timedWaitDelivers timeout select read = some c → c.toNat < 2 ^ 31 := by
  unfold eventsrcTimedWait timedWaitDelivers
  -- the exits in the order of the code: error, timeout, count
  cases select { sec := timeout.sec, usec := timeout.nsec.tdiv 1000 } with
  | error e =>
      exact faithful_none_iff (neg_errno_lt e)
  | ok readable =>
      cases readable with
      | false =>
          have hneg : -Errno.ETIMEDOUT < 0 := by decide
          exact faithful_none_iff hneg
      | true => exact faithful_readCount_iff read

/-- Each of the three functions keeps counts and errors apart exactly when the count that it is
delivered, if any, is below `2 ^ 31`. -/
theorem faithful_iff (timeout : Timespec) (select : Timeval → Except SysErrno Bool)
    (read : Except SysErrno UInt32) :
    (Faithful (eventsrcWait read) (waitDelivers read) ↔
      ∀ c, waitDelivers read = some c → c.toNat < 2 ^ 31) ∧
    (Faithful (eventsrcTimedWait timeout select read) (timedWaitDelivers timeout select read) ↔
      ∀ c, timedWaitDelivers timeout select read = some c → c.toNat < 2 ^ 31) ∧
    (Faithful (eventsrcTryWait select read)
        (timedWaitDelivers { sec := 0, nsec := 0 } select read) ↔
      ∀ c, timedWaitDelivers { sec := 0, nsec := 0 } select read = some c → c.toNat < 2 ^ 31) :=
  ⟨faithful_readCount_iff read, faithful_timedWait_iff timeout select read,
    faithful_timedWait_iff { sec := 0, nsec := 0 } select read⟩

/-- The count after 2 ^ 31 events is returned as a negative number. -/
theorem wait_confuses_count :
    waitDelivers (.ok 0x80000000) = some 0x80000000 ∧ eventsrcWait (.ok 0x80000000) < 0 ∧
      ¬ Faithful (eventsrcWait (.ok 0x80000000)) (waitDelivers (.ok 0x80000000)) := by
  refine ⟨rfl, by decide, ?_⟩
  intro h
  have hnone := h.neg_iff.1 (by decide)
  cases hnone

end User
end Cuddl
