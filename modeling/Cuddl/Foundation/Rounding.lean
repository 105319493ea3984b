import Mathlib.Algebra.Order.Group.Nat
import Mathlib.Order.Bounds.Defs

/-!
# Rounding up to a multiple

`roundUp a n` is the least multiple of `a` that is not below `n` (`isLeast_roundUp`), on unbounded
numbers.  Code that computes it in 64 bits by way of an `int` quotient agrees with it as long as
neither overflows, and beyond that where the quotient wraps around to it (`int_quotient_iff`).
-/

namespace Foundation

def roundUp (a n : Nat) : Nat :=
  if a ∣ n then n else a * (n / a + 1)

theorem roundUp_of_dvd {a n : Nat} (h : a ∣ n) : roundUp a n = n :=
  if_pos h

theorem roundUp_of_not_dvd {a n : Nat} (h : ¬ a ∣ n) : roundUp a n = a * (n / a + 1) :=
  if_neg h

theorem le_roundUp {a : Nat} (ha : 0 < a) (n : Nat) : n ≤ roundUp a n := by
  by_cases h : a ∣ n
  · rw [roundUp_of_dvd h]
  · rw [roundUp_of_not_dvd h]
    exact Nat.le_of_lt (Nat.lt_mul_div_succ n ha)

theorem dvd_roundUp (a n : Nat) : a ∣ roundUp a n := by
  by_cases h : a ∣ n
  · rwa [roundUp_of_dvd h]
  · rw [roundUp_of_not_dvd h]
    exact Nat.dvd_mul_right a _

theorem roundUp_le {a n m : Nat} (ha : 0 < a) (hm : a ∣ m) (hle : n ≤ m) : roundUp a n ≤ m := by
  by_cases h : a ∣ n
  · rwa [roundUp_of_dvd h]
  · rcases hm with ⟨c, rfl⟩
    rw [roundUp_of_not_dvd h]
    have hquot : n / a < c := by
      apply (Nat.div_lt_iff_lt_mul ha).2
      rw [Nat.mul_comm]
      exact lt_of_le_of_ne hle fun heq => h ⟨c, heq⟩
    exact Nat.mul_le_mul_left a hquot

theorem isLeast_roundUp {a : Nat} (ha : 0 < a) (n : Nat) :
    IsLeast {m | a ∣ m ∧ n ≤ m} (roundUp a n) :=
  ⟨⟨dvd_roundUp a n, le_roundUp ha n⟩, fun _ hm => roundUp_le ha hm.1 hm.2⟩

/-! ## By way of `int` -/

/-- The way of a 64-bit number through `int`, `+ 1` and back: the lower half, with its sign
extended. -/
theorem toNat_int_succ_eq (q : UInt64) :
    (q.toUInt32.toInt32 + 1).toInt64.toUInt64.toNat =
      (q.toNat + 1) % 2 ^ 32 +
        (if (q.toNat + 1) % 2 ^ 32 < 2 ^ 31 then 0 else 2 ^ 64 - 2 ^ 32) := by
  let b : BitVec 32 := q.toBitVec.setWidth 32 + 1
  have hb : b.toNat = (q.toNat + 1) % 2 ^ 32 := by
    have hq : q.toBitVec.toNat = q.toNat := rfl
    have hone : (1 : BitVec 32).toNat = 1 := rfl
    simp only [b, BitVec.toNat_add, BitVec.toNat_setWidth, hq, hone]
    omega
  have hmsb : b.msb = decide (2 ^ 31 ≤ b.toNat) := BitVec.msb_eq_decide b
  calc
    (q.toUInt32.toInt32 + 1).toInt64.toUInt64.toNat
        = (b.signExtend 64).toNat := rfl
    _ = (b.setWidth 64).toNat + (if b.msb = true then 2 ^ 64 - 2 ^ 32 else 0) :=
          BitVec.toNat_signExtend b
    _ = b.toNat + (if b.toNat < 2 ^ 31 then 0 else 2 ^ 64 - 2 ^ 32) := by
          rw [BitVec.toNat_setWidth, hmsb]
          have hlt := b.isLt
          simp only [decide_eq_true_eq]
          split <;> split <;> omega
    _ = _ := by rw [hb]

/-- A 64-bit number survives when the result fits an `int`. -/
theorem toNat_int_succ {q : UInt64} (h : q.toNat + 1 < 2 ^ 31) :
    (q.toUInt32.toInt32 + 1).toInt64.toUInt64.toNat = q.toNat + 1 := by
  have hlow : (q.toNat + 1) % 2 ^ 32 = q.toNat + 1 := Nat.mod_eq_of_lt (by omega)
  rw [toNat_int_succ_eq, hlow, if_pos h, Nat.add_zero]

/-- Modulo `2 ^ j`, what `int` loses is missed only between the numbers that fit an `int` and those
that are as good as negative ones. -/
theorem int_succ_mod {j : Nat} (hj : j ≤ 64) {q : UInt64} (hq : q.toNat + 1 < 2 ^ j) :
    (q.toUInt32.toInt32 + 1).toInt64.toUInt64.toNat % 2 ^ j = q.toNat + 1 ↔
      j ≤ 32 ∨ q.toNat + 1 < 2 ^ 31 ∨ 2 ^ j - 2 ^ 31 ≤ q.toNat + 1 := by
  rw [toNat_int_succ_eq]
  rcases Nat.exists_eq_add_of_le hj with ⟨i, hi⟩
  have hword : 2 ^ j * 2 ^ i = 2 ^ 64 := by rw [← Nat.pow_add, ← hi]
  by_cases h32 : j ≤ 32
  · -- the lower half has all the digits that count
    have hhalf : 2 ^ j ∣ 2 ^ 32 := Nat.pow_dvd_pow 2 h32
    have hextend : 2 ^ j ∣ 2 ^ 64 - 2 ^ 32 := Nat.dvd_sub (Nat.pow_dvd_pow 2 hj) hhalf
    have hmod : (q.toNat + 1) % 2 ^ 32 % 2 ^ j = q.toNat + 1 := by
      rw [Nat.mod_mod_of_dvd _ hhalf, Nat.mod_eq_of_lt hq]
    refine iff_of_true ?_ (Or.inl h32)
    split
    · exact hmod
    · rcases hextend with ⟨c, hc⟩
      rw [hc, Nat.add_mul_mod_self_left]
      exact hmod
  · -- the extended sign fills the digits above the lower half
    have hhalf : ∃ d, 2 ^ j = 2 ^ 32 * (d + 2) := by
      rcases Nat.exists_eq_add_of_lt (Nat.lt_of_not_le h32) with ⟨d, rfl⟩
      refine ⟨2 ^ (d + 1) - 2, ?_⟩
      have hpos : 2 ≤ 2 ^ (d + 1) := Nat.le_self_pow (by omega) 2
      rw [Nat.sub_add_cancel hpos, ← Nat.pow_add, Nat.add_assoc]
    rcases hhalf with ⟨d, hd⟩
    split
    · rename_i hsign
      rw [Nat.add_zero, Nat.mod_eq_of_lt (by omega)]
      omega
    · rename_i hsign
      have hfill : (q.toNat + 1) % 2 ^ 32 + (2 ^ 64 - 2 ^ 32) =
          ((q.toNat + 1) % 2 ^ 32 + (2 ^ j - 2 ^ 32)) + 2 ^ j * (2 ^ i - 1) := by
        rw [Nat.mul_sub, hword]
        have hle : 2 ^ j ≤ 2 ^ 64 := Nat.pow_le_pow_right (by omega) hj
        omega
      rw [hfill, Nat.add_mul_mod_self_left, Nat.mod_eq_of_lt (by omega)]
      omega

/-- Rounding up through an `int` quotient, in 64 bits. -/
theorem int_quotient_iff {k : Nat} (hk : k ≤ 64) {i q : UInt64}
    (hquot : q.toNat = i.toNat / 2 ^ k) (hdvd : ¬ 2 ^ k ∣ i.toNat)
    (hrep : roundUp (2 ^ k) i.toNat < 2 ^ 64) :
    2 ^ k * (q.toUInt32.toInt32 + 1).toInt64.toUInt64.toNat % 2 ^ 64 = roundUp (2 ^ k) i.toNat ↔
      32 ≤ k ∨ i.toNat / 2 ^ k + 1 < 2 ^ 31 ∨ 2 ^ (64 - k) - 2 ^ 31 ≤ i.toNat / 2 ^ k + 1 := by
  have hpos : 0 < 2 ^ k := Nat.two_pow_pos k
  have hword : 2 ^ 64 = 2 ^ k * 2 ^ (64 - k) := by
    rw [← Nat.pow_add]
    congr 1
    omega
  rw [roundUp_of_not_dvd hdvd] at hrep ⊢
  have hlt : q.toNat + 1 < 2 ^ (64 - k) := by
    rw [hword, ← hquot] at hrep
    exact Nat.lt_of_mul_lt_mul_left hrep
  rw [hword, Nat.mul_mod_mul_left, ← hquot, Nat.mul_right_inj (by omega),
    int_succ_mod (by omega) hlt]
  constructor
  · exact fun h => h.imp (fun hj => by omega) id
  · exact fun h => h.imp (fun hj => by omega) id

end Foundation
