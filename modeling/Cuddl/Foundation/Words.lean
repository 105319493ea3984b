import Cuddl.Foundation.Paging

/-!
# Words on a bus

Accesses of one, two or four bytes to a device that is behind a bus.  What a read returns and what
an access does is up to the device; plain memory is the device that keeps the bytes it is given, in
the byte order of the processor (`memoryBus`).  A word that has been stored is loaded again as long
as none of its bytes has been stored to (`load_store`, `load_congr`).
-/

namespace Foundation.Words

open Paging

inductive Width
  | byte
  | half
  | word
  deriving DecidableEq

def Width.bytes : Width → Nat
  | .byte => 1
  | .half => 2
  | .word => 4

theorem Width.bytes_pos (w : Width) : 0 < w.bytes := by
  cases w with
  | byte => decide
  | half => decide
  | word => decide

abbrev Width.Word (w : Width) : Type :=
  BitVec (8 * w.bytes)

/-- A device of state `D` at places `P`.  A read may change the device. -/
structure Bus (P D : Type*) where
  read : (w : Width) → P → D → D × w.Word
  write : (w : Width) → P → w.Word → D → D

inductive ByteOrder
  | little
  | big

/-- The place in a word, counted from the low end, of byte `i` in memory. -/
def ByteOrder.index (order : ByteOrder) (n i : Nat) : Nat :=
  match order with
  | .little => i
  | .big => n - 1 - i

theorem ByteOrder.index_index (order : ByteOrder) {n i : Nat} (hi : i < n) :
    order.index n (order.index n i) = i := by
  cases order with
  | little => rfl
  | big =>
      show n - 1 - (n - 1 - i) = i
      omega

theorem ByteOrder.index_lt (order : ByteOrder) {n i : Nat} (hi : i < n) : order.index n i < n := by
  cases order with
  | little => exact hi
  | big =>
      show n - 1 - i < n
      omega

variable {order : ByteOrder} {n : Nat}

/-- The number with the base-256 digits `f 0`, `f 1`, ... -/
def value (f : Nat → BitVec 8) : Nat → Nat
  | 0 => 0
  | n + 1 => value f n + 256 ^ n * (f n).toNat

/-- Byte `i` in memory of the word `v`. -/
def byteOf (order : ByteOrder) (v : BitVec (8 * n)) (i : Nat) : BitVec 8 :=
  BitVec.ofNat 8 (v.toNat / 256 ^ order.index n i)

/-- The word whose bytes in memory are `f 0`, `f 1`, ... -/
def wordOf (order : ByteOrder) (n : Nat) (f : Nat → BitVec 8) : BitVec (8 * n) :=
  BitVec.ofNat (8 * n) (value (fun i => f (order.index n i)) n)

theorem value_congr {f g : Nat → BitVec 8} (h : ∀ i < n, f i = g i) : value f n = value g n := by
  induction n with
  | zero => rfl
  | succ n ih =>
      rw [value, value, h n (Nat.lt_succ_self n), ih fun i hi => h i (Nat.lt_succ_of_lt hi)]

/-- The digits of a number stand for it. -/
theorem value_digits (v n : Nat) :
    value (fun i => BitVec.ofNat 8 (v / 256 ^ i)) n = v % 256 ^ n := by
  induction n with
  | zero => simp [value, Nat.mod_one]
  | succ n ih =>
      calc
        value (fun i => BitVec.ofNat 8 (v / 256 ^ i)) (n + 1)
            = v % 256 ^ n + 256 ^ n * (v / 256 ^ n % 256) := by
              rw [value, ih, BitVec.toNat_ofNat]
        _ = v % (256 ^ n * 256) := (Nat.mod_mul).symm
        _ = v % 256 ^ (n + 1) := by rw [Nat.pow_succ]

theorem wordOf_congr {f g : Nat → BitVec 8} (h : ∀ i < n, f i = g i) :
    wordOf order n f = wordOf order n g := by
  rw [wordOf, wordOf, value_congr fun i hi => h _ (order.index_lt hi)]

theorem wordOf_byteOf (v : BitVec (8 * n)) : wordOf order n (byteOf order v) = v := by
  -- the byte order is undone by itself
  have hdigits : value (fun i => byteOf order v (order.index n i)) n = v.toNat % 256 ^ n := by
    rw [← value_digits]
    apply value_congr
    intro i hi
    rw [byteOf, order.index_index hi]
  have hpow : 2 ^ (8 * n) = 256 ^ n := by
    rw [Nat.pow_mul]
  have hlt : v.toNat < 256 ^ n := by
    rw [← hpow]
    exact v.isLt
  rw [wordOf, hdigits, Nat.mod_eq_of_lt hlt, BitVec.ofNat_toNat, BitVec.setWidth_eq]

/-! ## Memory -/

section Memory

variable {ι : Type*}

abbrev Memory (ι : Type*) := Place ι → BitVec 8

/-- `y` is one of the `n` bytes from `x` on. -/
def Among (x : Place ι) (n : Nat) (y : Place ι) : Prop :=
  ∃ i < n, y = x.shift i

theorem among_iff {x y : Place ι} :
    Among x n y ↔ y.space = x.space ∧ x.addr ≤ y.addr ∧ y.addr < x.addr + n := by
  constructor
  · rintro ⟨i, hi, rfl⟩
    exact ⟨rfl, Nat.le_add_right _ _, Nat.add_lt_add_left hi _⟩
  · rintro ⟨hspace, hle, hlt⟩
    refine ⟨y.addr - x.addr, by omega, ?_⟩
    cases x
    cases y
    cases hspace
    simp only [Place.shift, Place.mk.injEq, true_and]
    exact (Nat.add_sub_cancel' hle).symm

instance [DecidableEq ι] (x : Place ι) (n : Nat) (y : Place ι) : Decidable (Among x n y) :=
  decidable_of_iff _ among_iff.symm

def load (order : ByteOrder) (w : Width) (x : Place ι) (m : Memory ι) : w.Word :=
  wordOf order w.bytes fun i => m (x.shift i)

def store [DecidableEq ι] (order : ByteOrder) (w : Width) (x : Place ι) (v : w.Word)
    (m : Memory ι) : Memory ι :=
  fun y => if Among x w.bytes y then byteOf order v (y.addr - x.addr) else m y

/-- Memory that keeps what is written to it. -/
def memoryBus [DecidableEq ι] (order : ByteOrder) : Bus (Place ι) (Memory ι) where
  read w x m := (m, load order w x m)
  write := store order

theorem load_congr {w : Width} {x : Place ι} {m m' : Memory ι}
    (h : ∀ y, Among x w.bytes y → m' y = m y) : load order w x m' = load order w x m := by
  apply wordOf_congr
  intro i hi
  exact h _ ⟨i, hi, rfl⟩

variable [DecidableEq ι] {w : Width} {x y : Place ι} {v : w.Word} {m : Memory ι}

theorem store_of_not_among (h : ¬ Among x w.bytes y) : store order w x v m y = m y :=
  if_neg h

theorem load_store : load order w x (store order w x v m) = v := by
  calc
    load order w x (store order w x v m) = wordOf order w.bytes (byteOf order v) := by
      apply wordOf_congr
      intro i hi
      have hmem : Among x w.bytes (x.shift i) := ⟨i, hi, rfl⟩
      have hoffset : (x.shift i).addr - x.addr = i := Nat.add_sub_cancel_left _ _
      rw [store, if_pos hmem, hoffset]
    _ = v := wordOf_byteOf v

end Memory

end Foundation.Words
