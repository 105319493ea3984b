import Mathlib.Algebra.Order.Group.Nat
import Mathlib.Algebra.Ring.Int.Defs
import Mathlib.Data.Int.Order.Basic
import Mathlib.Data.Prod.Lex
import Mathlib.Order.Basic

/-!
# Numbers packed into one word

Fields that are shifted next to each other and joined by a bitwise or are the digits of the word,
so fields are read back by shifts and masks, and words compare as their fields do from the left.
-/

namespace Foundation

section Words

variable {w k : Nat} {x y : BitVec w}

/-- A field below another one does not touch it. -/
theorem toNat_shiftLeft_or (hx : x.toNat * 2 ^ k < 2 ^ w) (hy : y.toNat < 2 ^ k) :
    (x <<< k ||| y).toNat = x.toNat * 2 ^ k + y.toNat := by
  have hshift : (x <<< k).toNat = x.toNat <<< k := by
    rw [BitVec.toNat_shiftLeft, Nat.shiftLeft_eq, Nat.mod_eq_of_lt hx]
  rw [BitVec.toNat_or, hshift, ← Nat.shiftLeft_add_eq_or_of_lt hy, Nat.shiftLeft_eq]

/-- A mask of low ones is a remainder. -/
theorem toNat_and_mask {m : BitVec w} (hm : m.toNat = 2 ^ k - 1) :
    (x &&& m).toNat = x.toNat % 2 ^ k := by
  rw [BitVec.toNat_and, hm, Nat.and_two_pow_sub_one_eq_mod]

/-- An arithmetic shift of a word whose sign bit is clear is a quotient. -/
theorem toNat_sshiftRight_of_lt (hx : 2 * x.toNat < 2 ^ w) :
    (x.sshiftRight k).toNat = x.toNat / 2 ^ k := by
  have hmsb : x.msb = false := by rwa [BitVec.msb_eq_false_iff_two_mul_lt]
  rw [BitVec.sshiftRight_eq_of_msb_false hmsb, BitVec.toNat_ushiftRight,
    Nat.shiftRight_eq_div_pow]

/-- What is left of a 64-bit number in an `int`. -/
theorem toInt_toInt32 (x : UInt64) :
    x.toUInt32.toInt32.toInt = if x.toNat % 2 ^ 32 < 2 ^ 31 then ((x.toNat % 2 ^ 32 : Nat) : Int)
      else ((x.toNat % 2 ^ 32 : Nat) : Int) - 2 ^ 32 := by
  have hnat : (x.toBitVec.setWidth 32).toNat = x.toNat % 2 ^ 32 := BitVec.toNat_setWidth 32 _
  calc
    x.toUInt32.toInt32.toInt
        = (x.toBitVec.setWidth 32).toInt := rfl
    _ = if 2 * (x.toBitVec.setWidth 32).toNat < 2 ^ 32 then
          ((x.toBitVec.setWidth 32).toNat : Int)
        else ((x.toBitVec.setWidth 32).toNat : Int) - (2 ^ 32 : Nat) :=
          BitVec.toInt_eq_toNat_cond _
    _ = _ := by
          rw [hnat]
          split <;> split <;> omega

end Words

section Digits

variable {b x y x' y' : Int}

theorem digits_lt_iff (hy : 0 ≤ y ∧ y < b) (hy' : 0 ≤ y' ∧ y' < b) :
    x * b + y < x' * b + y' ↔ x < x' ∨ x = x' ∧ y < y' := by
  constructor
  · intro hlt
    rcases lt_trichotomy x x' with hx | hx | hx
    · exact Or.inl hx
    · subst hx
      exact Or.inr ⟨rfl, by omega⟩
    · have hmul : (x' + 1) * b ≤ x * b := Int.mul_le_mul_of_nonneg_right hx (by omega)
      have hadd := Int.add_mul x' 1 b
      omega
  · rintro (hx | ⟨rfl, hlt⟩)
    · have hmul : (x + 1) * b ≤ x' * b := Int.mul_le_mul_of_nonneg_right hx (by omega)
      have hadd := Int.add_mul x 1 b
      omega
    · omega

/-- The first digits decide, and the last ones where they agree. -/
theorem digits_lt_iff_toLex (hy : 0 ≤ y ∧ y < b) (hy' : 0 ≤ y' ∧ y' < b) :
    x * b + y < x' * b + y' ↔ toLex (x, y) < toLex (x', y') := by
  rw [Prod.Lex.toLex_lt_toLex]
  exact digits_lt_iff hy hy'

end Digits

end Foundation
