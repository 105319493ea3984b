import Mathlib.Algebra.Order.Floor.Div
import Mathlib.Data.Nat.Basic

/-!
# Page tables

Memory that is mapped page by page.  A page table gives the pages of one address space the places
that they show; a place is an address in one of several memories.  Mapping a range makes every page
that the range touches show the place it has in the target, and unmapping takes these pages away.

An address inside a mapped range leads to the address that is as far into the target
(`translate_map`), and neither mapping nor unmapping moves an address on another page.
-/

namespace Foundation.Paging

variable {ι : Type*}

/-- An address in one of the memories that can be mapped. -/
structure Place (ι : Type*) where
  space : ι
  addr : Nat
  deriving DecidableEq

def Place.shift (x : Place ι) (n : Nat) : Place ι :=
  { x with addr := x.addr + n }

theorem Place.shift_shift (x : Place ι) (m n : Nat) : (x.shift m).shift n = x.shift (m + n) := by
  simp [Place.shift, Nat.add_assoc]

@[simp] theorem Place.shift_zero (x : Place ι) : x.shift 0 = x := rfl

/-- The pages of an address space, by number. -/
abbrev PageTable (ι : Type*) := Nat → Option (Place ι)

/-- Page `n` has an address of the range that starts at `base`. -/
def Touches (page base len n : Nat) : Prop :=
  base / page ≤ n ∧ n * page < base + len

instance (page base len n : Nat) : Decidable (Touches page base len n) :=
  inferInstanceAs (Decidable (_ ∧ _))

def translate (page : Nat) (t : PageTable ι) (addr : Nat) : Option (Place ι) :=
  (t (addr / page)).map fun x => x.shift (addr % page)

/-- `base` is the start of a page. -/
def PageTable.map (page : Nat) (t : PageTable ι) (base len : Nat) (target : Place ι) :
    PageTable ι :=
  fun n => if Touches page base len n then some (target.shift (n * page - base)) else t n

def PageTable.unmap (page : Nat) (t : PageTable ι) (base len : Nat) : PageTable ι :=
  fun n => if Touches page base len n then none else t n

/-- No page of the range is mapped; `base` is the start of a page. -/
def PageTable.Free (page : Nat) (t : PageTable ι) (base len : Nat) : Prop :=
  ∀ i < len ⌈/⌉ page, t (base / page + i) = none

instance (page : Nat) (t : PageTable ι) (base len : Nat) : Decidable (t.Free page base len) :=
  inferInstanceAs (Decidable (∀ i < len ⌈/⌉ page, t (base / page + i) = none))

variable {page : Nat} {t : PageTable ι} {base len addr n : Nat} {target x : Place ι}

theorem PageTable.map_of_touches (h : Touches page base len n) :
    t.map page base len target n = some (target.shift (n * page - base)) :=
  if_pos h

theorem PageTable.map_of_not_touches (h : ¬ Touches page base len n) :
    t.map page base len target n = t n :=
  if_neg h

theorem PageTable.unmap_of_not_touches (h : ¬ Touches page base len n) :
    t.unmap page base len n = t n :=
  if_neg h

theorem touches_of_mem (hle : base ≤ addr) (hlt : addr < base + len) :
    Touches page base len (addr / page) :=
  ⟨Nat.div_le_div_right hle, lt_of_le_of_lt (Nat.div_mul_le_self addr page) hlt⟩

theorem PageTable.Free.apply (h : t.Free page base len) (hpos : 0 < page) (hbase : page ∣ base)
    (hn : Touches page base len n) : t n = none := by
  rcases hn with ⟨hle, hlt⟩
  rcases Nat.exists_eq_add_of_le hle with ⟨i, rfl⟩
  refine h i ?_
  -- page `i` of the range starts before its end
  have hstart : (base / page + i) * page = base + i * page := by
    rw [Nat.add_mul, Nat.div_mul_cancel hbase]
  have hi : i * page < len := by omega
  refine not_le.1 fun hceil => ?_
  have hall := (ceilDiv_le_iff_le_mul hpos).1 hceil
  rw [Nat.mul_comm] at hall
  omega

/-- An address of the range lies as far into the target as into the range. -/
theorem translate_map (hbase : page ∣ base) (hle : base ≤ addr) (hlt : addr < base + len) :
    translate page (t.map page base len target) addr = some (target.shift (addr - base)) := by
  have htouch : Touches page base len (addr / page) := touches_of_mem hle hlt
  have hstart : base ≤ addr / page * page := by
    rcases hbase with ⟨k, rfl⟩
    rcases Nat.eq_zero_or_pos page with rfl | hpos
    · simp
    · calc
        page * k = k * page := Nat.mul_comm _ _
        _ ≤ addr / page * page :=
            Nat.mul_le_mul_right _ ((Nat.le_div_iff_mul_le hpos).2 (by rwa [Nat.mul_comm]))
  have hsplit : addr / page * page + addr % page = addr := Nat.div_add_mod' addr page
  have hoffset : addr / page * page - base + addr % page = addr - base := by omega
  rw [translate, PageTable.map_of_touches htouch, Option.map_some, Place.shift_shift, hoffset]

/-- Mapping a free range moves nothing that is mapped. -/
theorem translate_map_of_some (hx : translate page t addr = some x)
    (hfree : t.Free page base len) (hpos : 0 < page) (hbase : page ∣ base) :
    translate page (t.map page base len target) addr = some x := by
  have hnot : ¬ Touches page base len (addr / page) := by
    intro htouch
    simp [translate, hfree.apply hpos hbase htouch] at hx
  rwa [translate, PageTable.map_of_not_touches hnot]

/-- Unmapping a range leaves the other pages alone. -/
theorem translate_unmap (hnot : ¬ Touches page base len (addr / page)) :
    translate page (t.unmap page base len) addr = translate page t addr := by
  rw [translate, PageTable.unmap_of_not_touches hnot, translate]

end Foundation.Paging
