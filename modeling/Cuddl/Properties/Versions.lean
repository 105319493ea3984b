import Cuddl.User.Version

/-!
# Version codes

A code is its three parts as the digits of a number below `2 ^ 31`.  The macros read the digits
back, and `int` compares codes as versions compare (`versionCodes_orderLikeVersions`).
-/

namespace Cuddl
namespace User

open Foundation

/-! ## The digits of a code -/

section Digits

variable {n : Int32} {v : VersionNumber}

/-- A part of a version is the same number with and without its sign. -/
theorem toNat_part {top : Int} (h : 0 ≤ n.toInt ∧ n.toInt ≤ top) :
    (n.toBitVec.toNat : Int) = n.toInt ∧ (n.toBitVec.toNat : Int) ≤ top := by
  have hsign : n.toInt = if 2 * n.toBitVec.toNat < 2 ^ 32 then (n.toBitVec.toNat : Int)
      else (n.toBitVec.toNat : Int) - (2 ^ 32 : Nat) := BitVec.toInt_eq_toNat_cond _
  have hlt := n.toBitVec.isLt
  -- with the sign bit the number would be negative
  split at hsign <;> omega

theorem VersionNumber.toNat_major :
    (v.major.toBitVec.toNat : Int) = v.major.toInt ∧ (v.major.toBitVec.toNat : Int) ≤ 32767 :=
  toNat_part ⟨Int32.le_iff_toInt_le.1 v.major_range.1, Int32.le_iff_toInt_le.1 v.major_range.2⟩

theorem VersionNumber.toNat_minor :
    (v.minor.toBitVec.toNat : Int) = v.minor.toInt ∧ (v.minor.toBitVec.toNat : Int) ≤ 255 :=
  toNat_part ⟨Int32.le_iff_toInt_le.1 v.minor_range.1, Int32.le_iff_toInt_le.1 v.minor_range.2⟩

theorem VersionNumber.toNat_revision :
    (v.revision.toBitVec.toNat : Int) = v.revision.toInt ∧
      (v.revision.toBitVec.toNat : Int) ≤ 255 :=
  toNat_part
    ⟨Int32.le_iff_toInt_le.1 v.revision_range.1, Int32.le_iff_toInt_le.1 v.revision_range.2⟩

/-- The code without its sign, digit by digit. -/
theorem VersionNumber.toNat_code (v : VersionNumber) :
    v.toVersion.code.toBitVec.toNat = v.major.toBitVec.toNat * 2 ^ 16 +
      (v.minor.toBitVec.toNat * 2 ^ 8 + v.revision.toBitVec.toNat) := by
  have hmajor := v.toNat_major.2
  have hminor := v.toNat_minor.2
  have hrevision := v.toNat_revision.2
  have hlow : (v.minor.toBitVec <<< 8 ||| v.revision.toBitVec).toNat =
      v.minor.toBitVec.toNat * 2 ^ 8 + v.revision.toBitVec.toNat :=
    toNat_shiftLeft_or (by omega) (by omega)
  -- minor version and revision together are one digit below the major version
  calc
    v.toVersion.code.toBitVec.toNat
        = (v.major.toBitVec <<< 16 ||| v.minor.toBitVec <<< 8 ||| v.revision.toBitVec).toNat := rfl
    _ = (v.major.toBitVec <<< 16 ||| (v.minor.toBitVec <<< 8 ||| v.revision.toBitVec)).toNat := by
          rw [BitVec.or_assoc]
    _ = v.major.toBitVec.toNat * 2 ^ 16 +
          (v.minor.toBitVec <<< 8 ||| v.revision.toBitVec).toNat :=
          toNat_shiftLeft_or (by omega) (by omega)
    _ = _ := by rw [hlow]

/-- The sign bit of a code is clear. -/
theorem VersionNumber.toInt_code (v : VersionNumber) :
    v.toVersion.code.toInt = v.toVersion.code.toBitVec.toNat ∧
      v.toVersion.code.toBitVec.toNat < 2 ^ 31 := by
  have hmajor := v.toNat_major.2
  have hminor := v.toNat_minor.2
  have hrevision := v.toNat_revision.2
  have hlt : v.toVersion.code.toBitVec.toNat < 2 ^ 31 := by
    rw [v.toNat_code]
    omega
  exact ⟨BitVec.toInt_eq_toNat_of_lt (by omega), hlt⟩

end Digits

/-! ## What the macros read -/

section Macros

variable (v : VersionNumber)

theorem VersionNumber.majorVersionFromCode_code :
    majorVersionFromCode v.toVersion.code = v.major := by
  have hcode := v.toNat_code
  have hlt := v.toInt_code.2
  have hminor := v.toNat_minor.2
  have hrevision := v.toNat_revision.2
  apply Int32.toBitVec_inj.1
  apply BitVec.eq_of_toNat_eq
  calc
    (majorVersionFromCode v.toVersion.code).toBitVec.toNat
        = (v.toVersion.code.toBitVec.sshiftRight 16).toNat := rfl
    _ = v.toVersion.code.toBitVec.toNat / 2 ^ 16 := toNat_sshiftRight_of_lt (by omega)
    _ = v.major.toBitVec.toNat := by omega

theorem VersionNumber.minorVersionFromCode_code :
    minorVersionFromCode v.toVersion.code = v.minor := by
  have hcode := v.toNat_code
  have hminor := v.toNat_minor.2
  have hrevision := v.toNat_revision.2
  have hmask : (v.toVersion.code.toBitVec &&& 0xffff).toNat =
      v.toVersion.code.toBitVec.toNat % 2 ^ 16 := toNat_and_mask rfl
  apply Int32.toBitVec_inj.1
  apply BitVec.eq_of_toNat_eq
  calc
    (minorVersionFromCode v.toVersion.code).toBitVec.toNat
        = ((v.toVersion.code.toBitVec &&& 0xffff).sshiftRight 8).toNat := rfl
    _ = (v.toVersion.code.toBitVec &&& 0xffff).toNat / 2 ^ 8 :=
          toNat_sshiftRight_of_lt (by omega)
    _ = v.minor.toBitVec.toNat := by omega

theorem VersionNumber.revisionLevelFromCode_code :
    revisionLevelFromCode v.toVersion.code = v.revision := by
  have hcode := v.toNat_code
  have hrevision := v.toNat_revision.2
  apply Int32.toBitVec_inj.1
  apply BitVec.eq_of_toNat_eq
  calc
    (revisionLevelFromCode v.toVersion.code).toBitVec.toNat
        = (v.toVersion.code.toBitVec &&& 0xff).toNat := rfl
    _ = v.toVersion.code.toBitVec.toNat % 2 ^ 8 := toNat_and_mask rfl
    _ = v.revision.toBitVec.toNat := by omega

end Macros

/-! ## The order of codes -/

section Order

variable {l r : VersionNumber}

theorem VersionNumber.code_lt_iff :
    l.toVersion.code < r.toVersion.code ↔ l.lex < r.lex := by
  have hl := l.toNat_code
  have hr := r.toNat_code
  have hlm := l.toNat_major.1
  have hrm := r.toNat_major.1
  have hln := l.toNat_minor
  have hrn := r.toNat_minor
  have hlr := l.toNat_revision
  have hrr := r.toNat_revision
  have hlow : l.minor.toInt * 256 + l.revision.toInt < r.minor.toInt * 256 + r.revision.toInt ↔
      toLex (l.minor.toInt, l.revision.toInt) < toLex (r.minor.toInt, r.revision.toInt) :=
    digits_lt_iff_toLex ⟨by omega, by omega⟩ ⟨by omega, by omega⟩
  calc
    l.toVersion.code < r.toVersion.code
        ↔ l.toVersion.code.toInt < r.toVersion.code.toInt := Int32.lt_iff_toInt_lt
    _ ↔ l.major.toInt * 65536 + (l.minor.toInt * 256 + l.revision.toInt) <
          r.major.toInt * 65536 + (r.minor.toInt * 256 + r.revision.toInt) := by
          rw [l.toInt_code.1, r.toInt_code.1]
          omega
    _ ↔ l.major.toInt < r.major.toInt ∨ l.major.toInt = r.major.toInt ∧
          l.minor.toInt * 256 + l.revision.toInt < r.minor.toInt * 256 + r.revision.toInt :=
          digits_lt_iff ⟨by omega, by omega⟩ ⟨by omega, by omega⟩
    _ ↔ l.lex < r.lex := by
          rw [hlow]
          exact (Prod.Lex.toLex_lt_toLex (x := (l.major.toInt, _)) (y := (r.major.toInt, _))).symm

theorem VersionNumber.code_eq_iff :
    l.toVersion.code = r.toVersion.code ↔ l.lex = r.lex := by
  constructor
  · intro hcode
    -- the macros read the parts of both from the one code
    have hmajor : l.major = r.major := by
      rw [← l.majorVersionFromCode_code, hcode, r.majorVersionFromCode_code]
    have hminor : l.minor = r.minor := by
      rw [← l.minorVersionFromCode_code, hcode, r.minorVersionFromCode_code]
    have hrevision : l.revision = r.revision := by
      rw [← l.revisionLevelFromCode_code, hcode, r.revisionLevelFromCode_code]
    rw [VersionNumber.lex, hmajor, hminor, hrevision]
    rfl
  · intro hlex
    have hparts : l.major.toInt = r.major.toInt ∧ l.minor.toInt = r.minor.toInt ∧
        l.revision.toInt = r.revision.toInt := by
      simpa [VersionNumber.lex] using hlex
    rcases hparts with ⟨hmajor, hminor, hrevision⟩
    rw [VersionNumber.toVersion, Int32.toInt_inj.1 hmajor, Int32.toInt_inj.1 hminor,
      Int32.toInt_inj.1 hrevision]
    rfl

theorem VersionNumber.code_le_iff :
    l.toVersion.code ≤ r.toVersion.code ↔ l.lex ≤ r.lex := by
  calc
    l.toVersion.code ≤ r.toVersion.code
        ↔ ¬ r.toVersion.code < l.toVersion.code := Int32.not_lt.symm
    _ ↔ ¬ r.lex < l.lex := not_congr VersionNumber.code_lt_iff
    _ ↔ l.lex ≤ r.lex := not_lt

/-- Every operator says of two versions what it says of their numbers. -/
theorem Version.compare_iff (op : Operator) :
    Version.compare op l.toVersion r.toVersion = true ↔ op.Relates l.lex r.lex := by
  cases op with
  | eq => exact beq_iff_eq.trans VersionNumber.code_eq_iff
  | ne => exact bne_iff_ne.trans (not_congr VersionNumber.code_eq_iff)
  | lt => exact decide_eq_true_iff.trans VersionNumber.code_lt_iff
  | gt => exact decide_eq_true_iff.trans VersionNumber.code_lt_iff
  | le => exact decide_eq_true_iff.trans VersionNumber.code_le_iff
  | ge => exact decide_eq_true_iff.trans VersionNumber.code_le_iff

end Order

/-! ## Which versions fit together -/

/-- `CUDDLK_VERSION_MAJOR` and its companions. -/
def kernelVersion : VersionNumber :=
  { major := 1
    minor := 0
    revision := 0
    major_range := by decide
    minor_range := by decide
    revision_range := by decide }

theorem kernelVersion_code : kernelVersion.toVersion.code = kernelVersionCode :=
  rfl

/-- A major version fits to itself, and the first two fit together. -/
def CompatibleMajors (user kernel : Int32) : Prop :=
  user = kernel ∨ (user = 0 ∧ kernel = 1) ∨ (user = 1 ∧ kernel = 0)

theorem versionCodesAreCompat_iff {kernelCode userCode : Int32} :
    versionCodesAreCompat kernelCode userCode = true ↔
      CompatibleMajors (majorVersionFromCode userCode) (majorVersionFromCode kernelCode) := by
  simp [versionCodesAreCompat, CompatibleMajors, or_assoc]

/-- The macros invert the code, the operators of `Version` compare versions part by part, and the
kernel part admits a user-space part by the two major versions alone. -/
theorem versionCodes_orderLikeVersions :
    (∀ v : VersionNumber, v.toVersion.major = v.major ∧ v.toVersion.minor = v.minor ∧
      v.toVersion.revision = v.revision) ∧
    (∀ (op : Operator) (l r : VersionNumber),
      Version.compare op l.toVersion r.toVersion = true ↔ op.Relates l.lex r.lex) ∧
    (∀ kernel user : VersionNumber,
      versionCodesAreCompat kernel.toVersion.code user.toVersion.code = true ↔
        CompatibleMajors user.major kernel.major) ∧
    (∀ user : VersionNumber, versionCodeIsCompat user.toVersion.code = true ↔
      CompatibleMajors user.major kernelVersion.major) ∧
    ∀ userCode : Int32, versionCodeIsCompat userCode = true ↔
      CompatibleMajors (majorVersionFromCode userCode) kernelVersion.major := by
  have hcompat : ∀ kernel user : VersionNumber,
      versionCodesAreCompat kernel.toVersion.code user.toVersion.code = true ↔
        CompatibleMajors user.major kernel.major := by
    intro kernel user
    rw [versionCodesAreCompat_iff, user.majorVersionFromCode_code,
      kernel.majorVersionFromCode_code]
  have hkernel : versionCodeIsCompat = versionCodesAreCompat kernelVersion.toVersion.code := by
    rw [versionCodeIsCompat_eq, kernelVersion_code]
  refine ⟨?_, ?_, hcompat, ?_, ?_⟩
  · intro v
    exact ⟨v.majorVersionFromCode_code, v.minorVersionFromCode_code,
      v.revisionLevelFromCode_code⟩
  · intro op l r
    exact Version.compare_iff op
  · intro user
    rw [hkernel]
    exact hcompat kernelVersion user
  · intro userCode
    rw [hkernel, versionCodesAreCompat_iff, kernelVersion.majorVersionFromCode_code]

end User
end Cuddl
