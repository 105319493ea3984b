import Mathlib.Algebra.Order.Group.Multiset
import Mathlib.Logic.Function.Basic

/-!
# Counted claims

The abstract purpose of a reference counter that is backed by a list of its holders.  A `Ledger`
over resources `R` and holders `P` has a counter for each resource and the multiset of the claims
on record; the operations are those of a claim manager:

* `claim r p` raises the counter of `r` and records the claim of `p`;
* `drop r` lowers a counter that is not zero and leaves the record alone;
* `release r p` drops `r` and strikes one claim of `p` on `r` from the record, if there is one;
* `cleanup p` drops and strikes all claims of `p`.

A resource is `BalancedAt` when its counter is its number of recorded claims.  `claim`, `cleanup`
and the release of a recorded claim keep every balance; a release that strikes nothing only
disturbs the resource it names.
-/

namespace Foundation

@[ext] structure Ledger (R P : Type*) where
  count : R → Nat
  held : Multiset (R × P)

namespace Ledger

variable {R P : Type*} [DecidableEq R]

/-- Number of claims on record for `r`. -/
def entries (l : Ledger R P) (r : R) : Nat :=
  l.held.countP fun x => x.1 = r

def BalancedAt (l : Ledger R P) (r : R) : Prop :=
  l.count r = l.entries r

def claim (l : Ledger R P) (r : R) (p : P) : Ledger R P :=
  { count := Function.update l.count r (l.count r + 1)
    held := (r, p) ::ₘ l.held }

def drop (l : Ledger R P) (r : R) : Ledger R P :=
  { l with count := Function.update l.count r (l.count r - 1) }

/-! ## Claiming and dropping -/

theorem entries_claim (l : Ledger R P) (r r' : R) (p : P) :
    (l.claim r p).entries r' = l.entries r' + if r = r' then 1 else 0 := by
  by_cases h : r = r'
  · simp [entries, claim, h]
  · simp [entries, claim, h]

theorem drop_count_of_ne {l : Ledger R P} {r r' : R} (h : r' ≠ r) :
    (l.drop r).count r' = l.count r' := by
  simp [drop, h]

theorem drop_count_self (l : Ledger R P) (r : R) : (l.drop r).count r = l.count r - 1 := by
  simp [drop]

theorem BalancedAt.of_empty {l : Ledger R P} {r : R} (hheld : l.held = 0)
    (hcount : l.count r = 0) : l.BalancedAt r := by
  unfold BalancedAt entries
  rw [hcount, hheld]
  rfl

theorem BalancedAt.claim {l : Ledger R P} {r' : R} (h : l.BalancedAt r') (r : R) (p : P) :
    (l.claim r p).BalancedAt r' := by
  have hcount : (l.claim r p).count r' = l.count r' + if r = r' then 1 else 0 := by
    by_cases hr : r = r'
    · subst hr
      simp [Ledger.claim]
    · have hr' : r' ≠ r := fun h => hr h.symm
      simp [Ledger.claim, hr, hr']
  unfold BalancedAt at *
  -- both sides go up by one at `r`, and nowhere else
  rw [hcount, entries_claim, h]

/-! ## Releasing and cleaning up -/

variable [DecidableEq P]

def release (l : Ledger R P) (r : R) (p : P) : Ledger R P :=
  { l.drop r with held := l.held.erase (r, p) }

def cleanup (l : Ledger R P) (p : P) : Ledger R P :=
  { count := fun r => l.count r - l.held.count (r, p)
    held := l.held.filter fun x => x.2 ≠ p }

theorem entries_erase_add {l : Ledger R P} {r : R} {p : P} (hmem : (r, p) ∈ l.held) (r' : R) :
    (l.release r p).entries r' + (if r = r' then 1 else 0) = l.entries r' := by
  have hcons : (r, p) ::ₘ l.held.erase (r, p) = l.held := Multiset.cons_erase hmem
  calc
    (l.release r p).entries r' + (if r = r' then 1 else 0)
        = ((r, p) ::ₘ l.held.erase (r, p)).countP fun x => x.1 = r' := by
          simp [entries, release, Multiset.countP_cons]
    _ = l.entries r' := by
          rw [hcons]
          rfl

theorem release_count_le (l : Ledger R P) (r : R) (p : P) (r' : R) :
    (l.release r p).count r' ≤ l.count r' := by
  have hcount : (l.release r p).count r' = (l.drop r).count r' := rfl
  by_cases hr : r' = r
  · subst hr
    rw [hcount, drop_count_self]
    exact Nat.sub_le _ _
  · rw [hcount, drop_count_of_ne hr]

theorem release_eq_drop {l : Ledger R P} {r : R} {p : P} (hmem : (r, p) ∉ l.held) :
    l.release r p = l.drop r := by
  simp [release, drop, Multiset.erase_of_notMem hmem]

/-- The claims of `p` on `r` and the claims the clean-up of `p` leaves are all claims on `r`. -/
theorem entries_cleanup_add (l : Ledger R P) (p : P) (r : R) :
    (l.cleanup p).entries r + l.held.count (r, p) = l.entries r := by
  -- the claims on `r` split into those of other holders and those of `p`
  have hsplit : l.entries r =
      (l.held.filter fun x => x.2 ≠ p).countP (fun x => x.1 = r) +
        (l.held.filter fun x => ¬ x.2 ≠ p).countP (fun x => x.1 = r) := by
    rw [← Multiset.countP_add, Multiset.filter_add_not]
    rfl
  have hcount : (l.held.filter fun x => ¬ x.2 ≠ p).countP (fun x => x.1 = r) =
      l.held.count (r, p) := by
    rw [Multiset.countP_filter, Multiset.count]
    refine Multiset.countP_congr rfl ?_
    rintro ⟨r', p'⟩ _
    simp [Prod.ext_iff, eq_comm]
  rw [hsplit, hcount]
  rfl

/-- Two holders of one resource are two claims on record. -/
theorem two_le_entries {l : Ledger R P} {r : R} {p q : P} (hne : p ≠ q)
    (hp : (r, p) ∈ l.held) (hq : (r, q) ∈ l.held) : 2 ≤ l.entries r := by
  -- the claim of `q` is still there once that of `p` has been struck
  have hq' : (r, q) ∈ (l.release r p).held := by
    refine (Multiset.mem_erase_of_ne ?_).2 hq
    simp [hne.symm]
  have hpos : 0 < (l.release r p).entries r :=
    Multiset.countP_pos.2 ⟨(r, q), hq', rfl⟩
  have hadd := entries_erase_add hp r
  simp only [if_true] at hadd
  omega

/-! ## Balance -/

/-- Releasing a claim on record keeps every balance. -/
theorem BalancedAt.release_of_mem {l : Ledger R P} {r r' : R} {p : P} (h : l.BalancedAt r')
    (hmem : (r, p) ∈ l.held) : (l.release r p).BalancedAt r' := by
  have hadd := entries_erase_add hmem r'
  have hcount : (l.release r p).count r' = (l.drop r).count r' := rfl
  unfold BalancedAt at *
  rw [hcount]
  by_cases hr : r' = r
  · -- counter and record lose one each; the counter was not zero, as the claim was on record
    subst hr
    simp only [if_true] at hadd
    rw [drop_count_self]
    omega
  · have hr' : r ≠ r' := fun h => hr h.symm
    simp only [hr', if_false] at hadd
    rw [drop_count_of_ne hr]
    omega

/-- Any release keeps the balance of the resources it does not name. -/
theorem BalancedAt.release_of_ne {l : Ledger R P} {r r' : R} (h : l.BalancedAt r')
    (hne : r' ≠ r) (p : P) : (l.release r p).BalancedAt r' := by
  by_cases hmem : (r, p) ∈ l.held
  · exact h.release_of_mem hmem
  · rw [release_eq_drop hmem]
    unfold BalancedAt at *
    rw [drop_count_of_ne hne, h]
    rfl

/-- A release of a resource nobody has claimed changes nothing that counts. -/
theorem BalancedAt.release_of_zero {l : Ledger R P} {r : R} (h : l.BalancedAt r)
    (hzero : l.count r = 0) (p : P) : (l.release r p).BalancedAt r := by
  have hnone : (r, p) ∉ l.held := by
    intro hmem
    have hpos : 0 < l.entries r := Multiset.countP_pos.2 ⟨(r, p), hmem, rfl⟩
    unfold BalancedAt at h
    omega
  rw [release_eq_drop hnone]
  unfold BalancedAt at *
  rw [drop_count_self]
  have hsame : (l.drop r).entries r = l.entries r := rfl
  omega

theorem BalancedAt.cleanup {l : Ledger R P} {r : R} (h : l.BalancedAt r) (p : P) :
    (l.cleanup p).BalancedAt r := by
  have hadd := l.entries_cleanup_add p r
  have hcount : (l.cleanup p).count r = l.count r - l.held.count (r, p) := rfl
  unfold BalancedAt at *
  omega

/-! ## Actions -/

/-- What can happen to a ledger. -/
inductive Action (R P : Type*)
  | idle
  | claim (r : R) (p : P)
  | drop (r : R)
  | release (r : R) (p : P)
  | cleanup (p : P)

def apply (l : Ledger R P) : Action R P → Ledger R P
  | .idle => l
  | .claim r p => l.claim r p
  | .drop r => l.drop r
  | .release r p => l.release r p
  | .cleanup p => l.cleanup p

/-- Without drops, and with releases of claims on record only, every balance is kept. -/
theorem BalancedAt.apply {l : Ledger R P} {r' : R} (h : l.BalancedAt r') {a : Action R P}
    (hdrop : ∀ r, a ≠ .drop r) (hrelease : ∀ r p, a = .release r p → (r, p) ∈ l.held) :
    (l.apply a).BalancedAt r' := by
  cases a with
  | idle => exact h
  | claim r p => exact h.claim r p
  | drop r => exact absurd rfl (hdrop r)
  | release r p => exact h.release_of_mem (hrelease r p rfl)
  | cleanup p => exact h.cleanup p

end Ledger
end Foundation
