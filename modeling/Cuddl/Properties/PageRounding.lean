import Mathlib.Data.UInt
import Cuddl.Kernel.System

/-!
# Mapping lengths that registration rounds up

`page_size_aligned` keeps a quotient in an `int`.  The mapping length it computes is the least
multiple of the page size unless the quotient is between the numbers that an `int` holds and those
that it wraps around to (`pageRounding_iff`): with pages of 4096 bytes, for sizes from 2⁴³ up to
2⁶⁴ - 2⁴³, more or less.
-/

namespace Cuddl

open Foundation

/-- `n` is the least multiple of `CUDDLK_PAGE_SIZE` that is not below the size `i`. -/
def RoundsTo (cfg : Config) (i n : UInt64) : Prop :=
  IsLeast {m : Nat | cfg.pageSize.toNat ∣ m ∧ i.toNat ≤ m} n.toNat

/-- A multiple of the page size that is not below `i` fits into 64 bits. -/
def Roundable (cfg : Config) (i : UInt64) : Prop :=
  ∃ m : UInt64, cfg.pageSize.toNat ∣ m.toNat ∧ i ≤ m

/-- The quotient that is rounded up survives the way through `int`: there is none, a page is so
large that its lower half is all that counts, or it is in the range of `int`, counted from either
end of the quotients. -/
def QuotientSurvives (cfg : Config) (i : UInt64) : Prop :=
  cfg.pageSize.toNat ∣ i.toNat ∨ 32 ≤ cfg.pageShift ∨
    i.toNat / cfg.pageSize.toNat + 1 < 2 ^ 31 ∨
    2 ^ (64 - cfg.pageShift) - 2 ^ 31 ≤ i.toNat / cfg.pageSize.toNat + 1

section Rounding

variable {cfg : Config} {i n : UInt64}

theorem roundsTo_iff : RoundsTo cfg i n ↔ n.toNat = roundUp (2 ^ cfg.pageShift) i.toNat := by
  have hleast := isLeast_roundUp (Nat.two_pow_pos cfg.pageShift) i.toNat
  rw [RoundsTo, cfg.toNat_pageSize]
  constructor
  · exact fun h => h.unique hleast
  · intro h
    rw [h]
    exact hleast

theorem Roundable.roundUp_lt (h : Roundable cfg i) :
    roundUp (2 ^ cfg.pageShift) i.toNat < 2 ^ 64 := by
  rcases h with ⟨m, hdvd, hle⟩
  rw [cfg.toNat_pageSize] at hdvd
  calc
    roundUp (2 ^ cfg.pageShift) i.toNat
        ≤ m.toNat := roundUp_le (Nat.two_pow_pos _) hdvd (UInt64.le_iff_toNat_le.1 hle)
    _ < 2 ^ 64 := m.toNat_lt

/-- `page_size_aligned` for a size that is no multiple of the page size. -/
theorem toNat_pageSizeAligned_of_not_dvd (hdvd : ¬ 2 ^ cfg.pageShift ∣ i.toNat) :
    (pageSizeAligned cfg i).toNat = 2 ^ cfg.pageShift *
      ((i / cfg.pageSize).toUInt32.toInt32 + 1).toInt64.toUInt64.toNat % 2 ^ 64 := by
  have htest : ¬ i % cfg.pageSize = 0 := fun h => hdvd (mod_pageSize_eq_zero_iff.1 h)
  rw [pageSizeAligned, if_neg htest, UInt64.toNat_mul, cfg.toNat_pageSize]

theorem pageSizeAligned_roundsTo_iff (hround : Roundable cfg i) :
    RoundsTo cfg i (pageSizeAligned cfg i) ↔ QuotientSurvives cfg i := by
  rw [roundsTo_iff, QuotientSurvives, cfg.toNat_pageSize]
  by_cases hdvd : 2 ^ cfg.pageShift ∣ i.toNat
  · refine iff_of_true ?_ (Or.inl hdvd)
    rw [pageSizeAligned, if_pos (mod_pageSize_eq_zero_iff.2 hdvd), roundUp_of_dvd hdvd]
  · have hquot : (i / cfg.pageSize).toNat = i.toNat / 2 ^ cfg.pageShift := by
      rw [UInt64.toNat_div, cfg.toNat_pageSize]
    rw [toNat_pageSizeAligned_of_not_dvd hdvd,
      int_quotient_iff (Nat.le_of_lt cfg.pageShift_lt) hquot hdvd hround.roundUp_lt]
    exact (or_iff_right hdvd).symm

end Rounding

/-! ## What registration computes -/

/-- Every registration that gets past the allocation of the name defaults the sizes of all regions,
whether or not it succeeds. -/
theorem deviceRegister_mem {cfg : Config} {dev : Device} {out : RegOutcome}
    (hgroup : dev.group.isSome = true) (hname : dev.name.isSome = true)
    (halloc : out.kasprintfFails = false) :
    (deviceRegister cfg dev out).dev.mem = fun j => (dev.mem j).defaultSizes cfg := by
  rcases Option.isSome_iff_exists.1 hgroup with ⟨group, hgroup⟩
  rcases Option.isSome_iff_exists.1 hname with ⟨name, hname⟩
  unfold deviceRegister
  rw [hgroup, hname, halloc]
  dsimp only
  split
  · rename_i hfails
    cases hfails
  · -- the later exits leave the regions as they have been prepared
    split
    · rfl
    · split
      · split
        · rfl
        · rfl
      · rfl

/-- The mapping length of a region that comes without one is right exactly when the quotient of its
size survives. -/
theorem pageRounding_iff (cfg : Config) :
    (∀ i, Roundable cfg i →
      (RoundsTo cfg i (pageSizeAligned cfg i) ↔ QuotientSurvives cfg i)) ∧
    ∀ (dev : Device) (out : RegOutcome) (j : Fin (ResourceKind.max .memregion)),
      dev.group.isSome = true → dev.name.isSome = true → out.kasprintfFails = false →
      (dev.mem j).paLen = 0 → Roundable cfg ((dev.mem j).len + (dev.mem j).startOffset) →
        (RoundsTo cfg ((dev.mem j).len + (dev.mem j).startOffset)
            ((deviceRegister cfg dev out).dev.mem j).paLen ↔
          QuotientSurvives cfg ((dev.mem j).len + (dev.mem j).startOffset)) := by
  refine ⟨fun i => pageSizeAligned_roundsTo_iff, ?_⟩
  intro dev out j hgroup hname halloc hpaLen hround
  rw [deviceRegister_mem hgroup hname halloc, defaultSizes_paLen hpaLen]
  exact pageSizeAligned_roundsTo_iff hround

namespace Sample

/-- A device whose region comes with a length and no mapping length. -/
def sizedDevice (len : UInt64) : Device :=
  let dev := device "g" "x"
  { dev with mem := fun j => { dev.mem j with len := len, paLen := 0 } }

end Sample

theorem pageRounding_fits :
    RoundsTo Sample.config 4097 (pageSizeAligned Sample.config 4097) ∧
      RoundsTo Sample.config 4097
        ((deviceRegister Sample.config (Sample.sizedDevice 4097)
          Sample.registered).dev.mem 0).paLen := by
  have hround : Roundable Sample.config 4097 := ⟨8192, by decide +kernel, by decide⟩
  have hsurvives : QuotientSurvives Sample.config 4097 :=
    Or.inr (Or.inr (Or.inl (by decide +kernel)))
  have hrounding := pageRounding_iff Sample.config
  have hregion := hrounding.2 (Sample.sizedDevice 4097) Sample.registered 0 rfl rfl rfl rfl hround
  exact ⟨(hrounding.1 4097 hround).2 hsurvives, hregion.2 hsurvives⟩

/-- A region of 2⁴³ + 1 bytes: the quotient wraps around, and the mapping is registered with almost
2⁶⁴ bytes. -/
theorem pageRounding_wraps :
    Roundable Sample.config (2 ^ 43 + 1) ∧
      (deviceRegister Sample.config (Sample.sizedDevice (2 ^ 43 + 1)) Sample.registered).ret = 0 ∧
      ¬ RoundsTo Sample.config (2 ^ 43 + 1)
        ((deviceRegister Sample.config (Sample.sizedDevice (2 ^ 43 + 1))
          Sample.registered).dev.mem 0).paLen := by
  refine ⟨⟨2 ^ 43 + 4096, by decide +kernel, by decide⟩, by decide +kernel, ?_⟩
  intro h
  have hle := h.2 (show (2 ^ 43 + 4096 : Nat) ∈ _ from ⟨by decide +kernel, by decide +kernel⟩)
  exact absurd hle (by decide +kernel)

end Cuddl
