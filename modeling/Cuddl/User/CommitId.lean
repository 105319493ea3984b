import Cuddl.Foundation.Packing
import Cuddl.Kernel.Ioctl

/-!
# Commit ids in the caller's buffer

`cuddlk_get_commit_id` and `cuddl_get_userspace_commit_id` are the same code in the kernel and in
the library, each with the commit that its side was built from.  The room that is left in the buffer
is kept in an `int`.
-/

namespace Cuddl

open Foundation Foundation.CString

/-- `strncat(dst, src, n)` -/
def strncat (dst src : List UInt8) (n : Nat) : List UInt8 :=
  let len := strnlen dst dst.length
  let appended := text n src ++ [0]
  dst.take len ++ appended ++ dst.drop (len + appended.length)

/-- The body of both functions, on the memory from `id_str` on. -/
def writeCommitId (commitHash : List UInt8) (repoIsDirty : Bool) (idStr : List UInt8)
    (idLen : UInt64) : List UInt8 :=
  let idStr := if 0 < idLen then idStr.set 0 0 else idStr
  let remainingSpace := (idLen - 1).toUInt32.toInt32
  if remainingSpace ≤ 0 then idStr
  else
    let idStr := strncat idStr commitHash remainingSpace.toInt.toNat
    let remainingSpace :=
      (idLen - UInt64.ofNat (strnlen idStr idLen.toNat) - 1).toUInt32.toInt32
    if remainingSpace ≤ 0 then idStr
    else if repoIsDirty then strncat idStr (ascii "(M)") remainingSpace.toInt.toNat
    else strncat idStr (ascii "") remainingSpace.toInt.toNat

/-- `cuddlk_get_commit_id`, with its return value. -/
def getCommitIdInto (cfg : Config) (idStr : List UInt8) (idLen : UInt64) : Int × List UInt8 :=
  (0, writeCommitId cfg.commitHash cfg.repoIsDirty idStr idLen)

namespace User

/-- Compile-time configuration of the user-space library. -/
structure Build where
  /-- `CUDDLI_COMMIT_HASH` -/
  commitHash : List UInt8
  /-- `CUDDLI_REPO_IS_DIRTY` -/
  repoIsDirty : Bool

/-- `cuddl_get_userspace_commit_id`, with its return value. -/
def getUserspaceCommitId (build : Build) (idStr : List UInt8) (idLen : UInt64) :
    Int × List UInt8 :=
  (0, writeCommitId build.commitHash build.repoIsDirty idStr idLen)

end User

/-- A commit hash with its dirty mark. -/
def commitIdText (commitHash : List UInt8) (repoIsDirty : Bool) : List UInt8 :=
  commitHash ++ if repoIsDirty then ascii "(M)" else []

/-- How much the first `remaining_space` leaves room for: nothing where the `int` is negative. -/
def commitIdRoom (idLen : UInt64) : Nat :=
  (idLen - 1).toUInt32.toInt32.toInt.toNat

/-! ## Strings in memory -/

/-- The memory of a buffer once `s` has been stored in it. -/
def stored (s buffer : List UInt8) : List UInt8 :=
  s ++ 0 :: buffer.drop (s.length + 1)

section Stored

variable {s buffer : List UInt8}

theorem stored_nil (h : buffer ≠ []) : buffer.set 0 0 = stored [] buffer := by
  cases buffer with
  | nil => exact absurd rfl h
  | cons c cs => rfl

theorem strnlen_stored {n : Nat} (hs : ∀ c ∈ s, c ≠ 0) (hn : s.length < n) :
    strnlen (stored s buffer) n = s.length := by
  rw [strnlen_eq_length_text, stored, text_append_nul hs hn]

/-- A string is appended to the stored one. -/
theorem strncat_stored (hs : ∀ c ∈ s, c ≠ 0) (src : List UInt8) (n : Nat) :
    strncat (stored s buffer) src n = stored (s ++ text n src) buffer := by
  have hlen : strnlen (stored s buffer) (stored s buffer).length = s.length := by
    apply strnlen_stored hs
    simp [stored]
  have htake : (stored s buffer).take s.length = s := List.take_left
  have hdrop : (stored s buffer).drop (s.length + (text n src ++ [0]).length) =
      buffer.drop ((s ++ text n src).length + 1) := by
    rw [stored, List.drop_append, List.drop_of_length_le (by omega), List.nil_append]
    simp only [List.length_append, List.length_singleton]
    rw [show s.length + ((text n src).length + 1) - s.length = (text n src).length + 1 by omega,
      List.drop_succ_cons, List.drop_drop]
    congr 1
    omega
  simp only [strncat, hlen, htake, hdrop]
  simp [stored]

/-- Behind the terminator, and behind the buffer, nothing changes. -/
theorem stored_drop {n : Nat} (hn : s.length < n) : (stored s buffer).drop n = buffer.drop n := by
  rcases Nat.exists_eq_add_of_lt hn with ⟨d, rfl⟩
  rw [stored, List.drop_append, List.drop_of_length_le (by omega), List.nil_append,
    show s.length + d + 1 - s.length = d + 1 by omega, List.drop_succ_cons, List.drop_drop]
  congr 1
  omega

theorem length_stored (h : s.length < buffer.length) :
    (stored s buffer).length = buffer.length := by
  simp only [stored, List.length_append, List.length_cons, List.length_drop]
  omega

end Stored

/-! ## The room that is left -/

section Room

variable {idLen : UInt64}

theorem commitIdRoom_le (idLen : UInt64) : commitIdRoom idLen ≤ (idLen - 1).toNat := by
  have hint := toInt_toInt32 (idLen - 1)
  have hmod := Nat.mod_le (idLen - 1).toNat (2 ^ 32)
  rw [commitIdRoom]
  split at hint <;> omega

/-- A positive room is a number that the `int` holds. -/
theorem remainingSpace_of_pos (h : ¬ (idLen - 1).toUInt32.toInt32 ≤ 0) :
    (idLen - 1).toUInt32.toInt32.toInt = commitIdRoom idLen ∧ 0 < commitIdRoom idLen := by
  rw [Int32.le_iff_toInt_le, Int32.toInt_zero] at h
  rw [commitIdRoom]
  omega

theorem commitIdRoom_of_nonpos (h : (idLen - 1).toUInt32.toInt32 ≤ 0) :
    commitIdRoom idLen = 0 := by
  rw [Int32.le_iff_toInt_le, Int32.toInt_zero] at h
  rw [commitIdRoom]
  omega

/-- The second narrowing takes away what has been used. -/
theorem remainingSpace_sub {used : Nat} (hused : used ≤ commitIdRoom idLen) :
    (idLen - UInt64.ofNat used - 1).toUInt32.toInt32.toInt =
      (idLen - 1).toUInt32.toInt32.toInt - used := by
  have hroom := commitIdRoom_le idLen
  have hlen := idLen.toNat_lt
  have hone : (1 : UInt64).toNat = 1 := rfl
  have hofNat : (UInt64.ofNat used).toNat = used % 2 ^ 64 := UInt64.toNat_ofNat'
  have hfirst : (idLen - 1).toNat = (2 ^ 64 - 1 + idLen.toNat) % 2 ^ 64 := by
    rw [UInt64.toNat_sub, hone]
  have hsecond : (idLen - UInt64.ofNat used - 1).toNat =
      (2 ^ 64 - 1 + (2 ^ 64 - used % 2 ^ 64 + idLen.toNat) % 2 ^ 64) % 2 ^ 64 := by
    rw [UInt64.toNat_sub, UInt64.toNat_sub, hofNat, hone]
  have hbefore := toInt_toInt32 (idLen - 1)
  have hafter := toInt_toInt32 (idLen - UInt64.ofNat used - 1)
  rw [hfirst] at hbefore
  rw [hsecond] at hafter
  rw [commitIdRoom] at hused hroom
  split at hbefore <;> split at hafter <;> omega

end Room

end Cuddl
