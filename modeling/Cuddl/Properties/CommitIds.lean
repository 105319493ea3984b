import Mathlib.Data.UInt
import Cuddl.Kernel.System
import Cuddl.User.CommitId

/-!
# Commit ids are bounded prefixes

Neither function writes behind its buffer, whatever its length.  What they leave is cut to the room
that an `int` gives it, so for buffers of more than 2³¹ bytes it may be shorter than the buffer
allows, down to the empty string (`commitIds_iff`).
-/

namespace Cuddl

open Foundation Foundation.CString User

section Write

variable {hash : List UInt8} {dirty : Bool} {buffer : List UInt8} {idLen : UInt64}

theorem dirtyMark_nonzero : ∀ c ∈ ascii "(M)", c ≠ 0 := by
  decide +kernel

theorem commitIdText_nonzero (hhash : ∀ c ∈ hash, c ≠ 0) :
    ∀ c ∈ commitIdText hash dirty, c ≠ 0 := by
  intro c hc
  rcases List.mem_append.1 hc with hc | hc
  · exact hhash c hc
  · split at hc
    · exact dirtyMark_nonzero c hc
    · cases hc

/-- The hash is cut to the room, and the mark to what the hash has left of it. -/
theorem commitIdText_take (room : Nat) :
    (commitIdText hash dirty).take room = hash.take room ++
      (if dirty then ascii "(M)" else []).take (room - (hash.take room).length) := by
  rw [commitIdText, List.take_append]
  congr 2
  rw [List.length_take]
  omega

/-- What the code computes between its two appends, once the hash has been cut. -/
theorem remainingSpace_hash (hash : List UInt8) (hidLen : 0 < idLen)
    (hfirst : ¬ (idLen - 1).toUInt32.toInt32 ≤ 0) :
    (hash.take (commitIdRoom idLen)).length < idLen.toNat ∧
      (idLen - UInt64.ofNat (hash.take (commitIdRoom idLen)).length - 1).toUInt32.toInt32.toInt =
        commitIdRoom idLen - (hash.take (commitIdRoom idLen)).length := by
  have hpos := UInt64.lt_iff_toNat_lt.1 hidLen
  have hle := commitIdRoom_le idLen
  have hpred : (idLen - 1).toNat = idLen.toNat - 1 := UInt64.toNat_sub_of_le _ _ hidLen
  have hused : (hash.take (commitIdRoom idLen)).length ≤ commitIdRoom idLen := by
    rw [List.length_take]
    exact min_le_left _ _
  refine ⟨by omega, ?_⟩
  rw [remainingSpace_sub hused, (remainingSpace_of_pos hfirst).1]

/-- The whole function: the text that fits into the room, stored at the start of the buffer. -/
theorem writeCommitId_eq (hhash : ∀ c ∈ hash, c ≠ 0) (hidLen : 0 < idLen) (hbuffer : buffer ≠ []) :
    writeCommitId hash dirty buffer idLen =
      stored ((commitIdText hash dirty).take (commitIdRoom idLen)) buffer := by
  unfold writeCommitId
  rw [if_pos hidLen, stored_nil hbuffer]
  dsimp only
  by_cases hfirst : (idLen - 1).toUInt32.toInt32 ≤ 0
  · -- the function returns before it appends anything
    rw [if_pos hfirst, commitIdRoom_of_nonpos hfirst, List.take_zero]
  · rcases remainingSpace_hash hash hidLen hfirst with ⟨hshort, hsecond⟩
    have hcut : ∀ c ∈ hash.take (commitIdRoom idLen), c ≠ 0 := fun c hc =>
      hhash c (List.mem_of_mem_take hc)
    rw [if_neg hfirst, strncat_stored (by simp), List.nil_append, text_eq_take hhash,
      (remainingSpace_of_pos hfirst).1, Int.toNat_natCast, strnlen_stored hcut hshort,
      commitIdText_take]
    split
    · rename_i hfull
      -- the hash has used up the room
      rw [Int32.le_iff_toInt_le, hsecond, Int32.toInt_zero] at hfull
      rw [show commitIdRoom idLen - (hash.take (commitIdRoom idLen)).length = 0 by omega,
        List.take_zero, List.append_nil]
    · rw [hsecond, Int.toNat_sub]
      cases dirty with
      | true =>
          rw [if_pos rfl, if_pos rfl, strncat_stored hcut, text_eq_take dirtyMark_nonzero]
      | false =>
          have hempty : ascii "" = [] := by decide
          rw [if_neg (by simp), if_neg (by simp), strncat_stored hcut, hempty,
            text_eq_take (by simp)]

theorem writeCommitId_zero : writeCommitId hash dirty buffer 0 = buffer := by
  have hfirst : ((0 : UInt64) - 1).toUInt32.toInt32 ≤ 0 := by decide
  unfold writeCommitId
  dsimp only
  rw [if_pos hfirst, if_neg (by decide)]

/-- The string that the ioctl passes on is the one that is stored. -/
theorem getCommitId_eq {cfg : Config} (hhash : ∀ c ∈ cfg.commitHash, c ≠ 0) (hidLen : 0 < idLen) :
    getCommitId cfg idLen =
      some ((commitIdText cfg.commitHash cfg.repoIsDirty).take (commitIdRoom idLen)) := by
  have hne : idLen ≠ 0 := by
    rintro rfl
    exact absurd hidLen (by decide)
  rw [getCommitId, if_neg hne]
  dsimp only
  by_cases hfirst : (idLen - 1).toUInt32.toInt32 ≤ 0
  · rw [if_pos hfirst, commitIdRoom_of_nonpos hfirst, List.take_zero]
  · rcases remainingSpace_hash cfg.commitHash hidLen hfirst with ⟨hshort, hsecond⟩
    have hcut : ∀ c ∈ cfg.commitHash.take (commitIdRoom idLen), c ≠ 0 := fun c hc =>
      hhash c (List.mem_of_mem_take hc)
    have hlen : strnlen (cfg.commitHash.take (commitIdRoom idLen)) idLen.toNat =
        (cfg.commitHash.take (commitIdRoom idLen)).length := by
      rw [strnlen_eq_length_text, text_eq_self hcut hshort.le]
    rw [if_neg hfirst, (remainingSpace_of_pos hfirst).1, Int.toNat_natCast, hlen,
      commitIdText_take]
    split
    · rename_i hfull
      rw [Int32.le_iff_toInt_le, hsecond, Int32.toInt_zero] at hfull
      rw [show commitIdRoom idLen - (cfg.commitHash.take (commitIdRoom idLen)).length = 0 by omega,
        List.take_zero, List.append_nil]
    · rw [hsecond, Int.toNat_sub]

end Write

/-! ## Bounded prefixes -/

/-- The memory from the buffer on, when `full` should have been left in the `len` bytes of it: the
part that fits, terminated, and nothing written behind the buffer. -/
structure BoundedString (full buffer : List UInt8) (len : Nat) (after : List UInt8) : Prop where
  bounded : after.length = buffer.length ∧ after.drop len = buffer.drop len
  terminated : 1 ≤ len →
    ∃ r, after.take len = full.take (min (len - 1) full.length) ++ 0 :: r

/-- The room for `full` fits into an `int`, or what is left of it in the `int` is room enough. -/
def RoomCounted (full : List UInt8) (idLen : UInt64) : Prop :=
  idLen = 0 ∨ full = [] ∨ (idLen - 1).toNat < 2 ^ 31 ∨
    (idLen - 1).toNat % 2 ^ 32 < 2 ^ 31 ∧ full.length ≤ (idLen - 1).toNat % 2 ^ 32

section Bounded

variable {full s buffer : List UInt8} {len : Nat}

theorem stored_bounded (hs : s.length < len) (hbuffer : len ≤ buffer.length) :
    (stored s buffer).length = buffer.length ∧ (stored s buffer).drop len = buffer.drop len :=
  ⟨length_stored (Nat.lt_of_lt_of_le hs hbuffer), stored_drop hs⟩

/-- What is stored is the right string when it has the right characters. -/
theorem stored_terminated_iff (buffer : List UInt8) (hfull : ∀ c ∈ full, c ≠ 0)
    (hnz : ∀ c ∈ s, c ≠ 0) (hs : s.length < len) :
    (∃ r, (stored s buffer).take len = full.take (min (len - 1) full.length) ++ 0 :: r) ↔
      s = full.take (len - 1) := by
  have hcut : full.take (min (len - 1) full.length) = full.take (len - 1) := by
    rw [← List.take_take, List.take_length]
  have hkept : ∀ c ∈ full.take (len - 1), c ≠ 0 := fun c hc => hfull c (List.mem_of_mem_take hc)
  have hstored : ∃ r, (stored s buffer).take len = s ++ 0 :: r := by
    rcases Nat.exists_eq_add_of_lt hs with ⟨d, rfl⟩
    refine ⟨(buffer.drop (s.length + 1)).take d, ?_⟩
    rw [stored, List.take_append, List.take_of_length_le (by omega),
      show s.length + d + 1 - s.length = d + 1 by omega, List.take_succ_cons]
  rw [hcut]
  rcases hstored with ⟨r, hr⟩
  constructor
  · rintro ⟨r', hr'⟩
    exact append_nul_inj hnz hkept (hr.symm.trans hr')
  · intro heq
    exact ⟨r, by rw [hr, heq]⟩

theorem commitIdRoom_eq (idLen : UInt64) :
    commitIdRoom idLen =
      if (idLen - 1).toNat % 2 ^ 32 < 2 ^ 31 then (idLen - 1).toNat % 2 ^ 32 else 0 := by
  have hint := toInt_toInt32 (idLen - 1)
  rw [commitIdRoom]
  split at hint <;> split <;> omega

/-- The cut is right where no character is lost to the narrowing. -/
theorem take_commitIdRoom_iff {idLen : UInt64} (hidLen : 0 < idLen) :
    full.take (commitIdRoom idLen) = full.take (idLen.toNat - 1) ↔
      RoomCounted full idLen := by
  have hpred : (idLen - 1).toNat = idLen.toNat - 1 := UInt64.toNat_sub_of_le _ _ hidLen
  have hpos := UInt64.lt_iff_toNat_lt.1 hidLen
  have hne : idLen ≠ 0 := by
    rintro rfl
    exact absurd hidLen (by decide)
  have hroom := commitIdRoom_eq idLen
  rw [List.take_eq_take_iff, ← hpred, RoomCounted, ← List.length_eq_zero_iff]
  simp only [hne, false_or]
  split at hroom <;> omega

end Bounded

/-- Both functions, for any hash and buffer: nothing is written behind the buffer, and what is left
in it is right exactly when the room was counted right. -/
theorem writeCommitId_iff {hash : List UInt8} {dirty : Bool} {buffer : List UInt8} {idLen : UInt64}
    (hhash : ∀ c ∈ hash, c ≠ 0) (hbuffer : idLen.toNat ≤ buffer.length) :
    ((writeCommitId hash dirty buffer idLen).length = buffer.length ∧
      (writeCommitId hash dirty buffer idLen).drop idLen.toNat = buffer.drop idLen.toNat) ∧
    (BoundedString (commitIdText hash dirty) buffer idLen.toNat
        (writeCommitId hash dirty buffer idLen) ↔
      RoomCounted (commitIdText hash dirty) idLen) := by
  by_cases hzero : idLen = 0
  · -- a buffer of no bytes is not touched, although its room is counted as -1
    subst hzero
    rw [writeCommitId_zero]
    refine ⟨⟨rfl, rfl⟩, iff_of_true ⟨⟨rfl, rfl⟩, ?_⟩ (Or.inl rfl)⟩
    intro hpos
    exact absurd hpos (by decide)
  · have hidLen : 0 < idLen := UInt64.pos_iff_ne_zero.2 hzero
    have hpos := UInt64.lt_iff_toNat_lt.1 hidLen
    have hfull : ∀ c ∈ commitIdText hash dirty, c ≠ 0 := commitIdText_nonzero hhash
    have hnonempty : buffer ≠ [] := by
      rintro rfl
      exact absurd hpos (Nat.not_lt.2 hbuffer)
    have hcut : ∀ c ∈ (commitIdText hash dirty).take (commitIdRoom idLen), c ≠ 0 := fun c hc =>
      hfull c (List.mem_of_mem_take hc)
    have hshort : ((commitIdText hash dirty).take (commitIdRoom idLen)).length < idLen.toNat := by
      have hpred : (idLen - 1).toNat = idLen.toNat - 1 := UInt64.toNat_sub_of_le _ _ hidLen
      have hle := commitIdRoom_le idLen
      rw [List.length_take]
      omega
    have hbounded := stored_bounded hshort hbuffer
    have hterminated := stored_terminated_iff buffer hfull hcut hshort
    rw [writeCommitId_eq hhash hidLen hnonempty]
    refine ⟨hbounded, ?_⟩
    rw [← take_commitIdRoom_iff hidLen, ← hterminated]
    constructor
    · exact fun h => h.terminated hpos
    · exact fun h => ⟨hbounded, fun _ => h⟩

/-- `cuddlk_get_commit_id` and `cuddl_get_userspace_commit_id`. -/
theorem commitIds_iff {cfg : Config} {build : Build} {buffer : List UInt8} {idLen : UInt64}
    (hcfg : ∀ c ∈ cfg.commitHash, c ≠ 0) (hbuild : ∀ c ∈ build.commitHash, c ≠ 0)
    (hbuffer : idLen.toNat ≤ buffer.length) :
    (((getCommitIdInto cfg buffer idLen).2.length = buffer.length ∧
        (getCommitIdInto cfg buffer idLen).2.drop idLen.toNat = buffer.drop idLen.toNat) ∧
      (BoundedString (commitIdText cfg.commitHash cfg.repoIsDirty) buffer idLen.toNat
          (getCommitIdInto cfg buffer idLen).2 ↔
        RoomCounted (commitIdText cfg.commitHash cfg.repoIsDirty) idLen)) ∧
    ((getUserspaceCommitId build buffer idLen).2.length = buffer.length ∧
        (getUserspaceCommitId build buffer idLen).2.drop idLen.toNat = buffer.drop idLen.toNat) ∧
      (BoundedString (commitIdText build.commitHash build.repoIsDirty) buffer idLen.toNat
          (getUserspaceCommitId build buffer idLen).2 ↔
        RoomCounted (commitIdText build.commitHash build.repoIsDirty) idLen) :=
  ⟨writeCommitId_iff hcfg hbuffer, writeCommitId_iff hbuild hbuffer⟩

namespace Sample

def build : Build :=
  { commitHash := ascii "3f9c"
    repoIsDirty := true }

def builtConfig : Config :=
  { config with
    commitHash := build.commitHash
    repoIsDirty := build.repoIsDirty }

theorem build_nonzero : ∀ c ∈ build.commitHash, c ≠ 0 := by
  decide +kernel

end Sample

theorem commitIds_cut :
    (getUserspaceCommitId Sample.build (List.replicate 9 1) 7).2 = ascii "3f9c(M" ++ [0, 1, 1] ∧
      BoundedString (ascii "3f9c(M)") (List.replicate 9 1) 7
        (getCommitIdInto Sample.builtConfig (List.replicate 9 1) 7).2 ∧
      BoundedString (ascii "3f9c(M)") (List.replicate 9 1) 7
        (getUserspaceCommitId Sample.build (List.replicate 9 1) 7).2 := by
  have hroom : RoomCounted (ascii "3f9c(M)") 7 := Or.inr (Or.inr (Or.inl (by decide)))
  have hlen : UInt64.toNat 7 ≤ (List.replicate 9 (1 : UInt8)).length := by decide
  have hhash : ∀ c ∈ Sample.builtConfig.commitHash, c ≠ 0 := Sample.build_nonzero
  have hiff := commitIds_iff hhash Sample.build_nonzero hlen
  exact ⟨by decide +kernel, hiff.1.2.2 hroom, hiff.2.2.2 hroom⟩

/-- In a buffer of 2³¹ + 1 bytes the room becomes the smallest `int`, and nothing is left but the
terminator. -/
theorem commitIds_lost :
    ∃ buffer : List UInt8, buffer.length = 2 ^ 31 + 1 ∧
      ¬ BoundedString (commitIdText Sample.builtConfig.commitHash Sample.builtConfig.repoIsDirty)
        buffer (2 ^ 31 + 1) (getCommitIdInto Sample.builtConfig buffer (2 ^ 31 + 1)).2 ∧
      ¬ BoundedString (commitIdText Sample.build.commitHash Sample.build.repoIsDirty)
        buffer (2 ^ 31 + 1) (getUserspaceCommitId Sample.build buffer (2 ^ 31 + 1)).2 := by
  have hlost : ∀ buffer : List UInt8, buffer ≠ [] →
      ¬ BoundedString (commitIdText Sample.build.commitHash Sample.build.repoIsDirty) buffer
        (2 ^ 31 + 1)
        (writeCommitId Sample.build.commitHash Sample.build.repoIsDirty buffer (2 ^ 31 + 1)) := by
    intro buffer hbuffer h
    have hroom : commitIdRoom (2 ^ 31 + 1) = 0 := by decide +kernel
    rw [writeCommitId_eq Sample.build_nonzero (by decide) hbuffer, hroom, List.take_zero] at h
    have hcut := (stored_terminated_iff buffer (commitIdText_nonzero Sample.build_nonzero) (by simp)
      (by decide)).1 (h.terminated (by decide))
    exact absurd hcut (by decide +kernel)
  have hbuffer : List.replicate (2 ^ 31 + 1) (1 : UInt8) ≠ [] := by
    rw [List.replicate_succ]
    exact List.cons_ne_nil _ _
  exact ⟨List.replicate (2 ^ 31 + 1) 1, List.length_replicate, hlost _ hbuffer, hlost _ hbuffer⟩

end Cuddl
