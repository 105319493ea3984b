import Cuddl.User.Queries
import Cuddl.User.ResourceID

/-!
# String queries

The queries that return a string write it into a buffer of their caller.  The kernel fills a field
of 256 bytes; the library copies as much of it as the caller's buffer has room for, and writes a
terminator of its own only when the buffer is longer than the field.
-/

namespace Cuddl
namespace User

open Foundation.CString

/-- What a string query returns, and what it leaves in the memory from the caller's buffer on. -/
structure StringResult where
  ret : Int
  state : KernelState
  buffer : List UInt8

/-- The copy at the end of each of the queries, into a buffer of `len` bytes. -/
def copyString (buffer field : List UInt8) (len : Nat) : List UInt8 :=
  if maxStrLen < len then
    strncpy (buffer.set maxStrLen 0) field maxStrLen
  else
    strncpy buffer field len

/-- The string is copied before the `close` is checked. -/
def copyOut (r : CallResult) (buffer : List UInt8) (len : Nat) : StringResult :=
  { ret := r.ret
    state := r.state
    buffer :=
      match r.reply with
      | some (.infoStr field) | some (.idStr field) => copyString buffer field len
      | _ => buffer }

section Queries

variable (cfg : Config) (k : ResourceKind) (pid : Pid) (id : ResourceId)
  (first second : IoFaults × SysFaults) (window : KernelState → Option KernelState)
  (s : KernelState) (io : IoFaults) (sys : SysFaults) (buffer : List UInt8) (len : Nat)

/-- The driver and hardware info queries by id: INFO, then the query for the slot. -/
def readInfoForId (q : SlotQuery) : Option StringResult :=
  (slotQueryForId cfg q k pid id first second window s).map fun r => copyOut r buffer len

/-- `cuddl_get_driver_info_for_memregion_id` -/
def readDriverInfoForMemregionId : Option StringResult :=
  readInfoForId cfg .memregion pid id first second window s buffer len .driverInfo

/-- `cuddl_get_driver_info_for_eventsrc_id` -/
def readDriverInfoForEventsrcId : Option StringResult :=
  readInfoForId cfg .eventsrc pid id first second window s buffer len .driverInfo

/-- `cuddl_get_hw_info_for_memregion_id` -/
def readHwInfoForMemregionId : Option StringResult :=
  readInfoForId cfg .memregion pid id first second window s buffer len .hwInfo

/-- `cuddl_get_hw_info_for_eventsrc_id` -/
def readHwInfoForEventsrcId : Option StringResult :=
  readInfoForId cfg .eventsrc pid id first second window s buffer len .hwInfo

/-- `cuddl_get_kernel_commit_id` -/
def readKernelCommitId : Option StringResult :=
  (managerCall cfg s (.getKernelCommitId userVersionCode) io sys).map
    fun r => copyOut r buffer len

/-- `cuddl_get_kernel_variant` -/
def readKernelVariant : Option StringResult :=
  (managerCall cfg s (.getKernelVariant userVersionCode) io sys).map
    fun r => copyOut r buffer len

end Queries

/-! ## What a copy leaves in the buffer -/

/-- The bytes that `strncpy` writes. -/
def strncpyFront (s : List UInt8) (n : Nat) : List UInt8 :=
  text n s ++ List.replicate (n - (text n s).length) 0

theorem length_strncpyFront (s : List UInt8) (n : Nat) : (strncpyFront s n).length = n := by
  have hle := length_text_le n s
  simp only [strncpyFront, List.length_append, List.length_replicate]
  omega

theorem strncpy_eq (dst s : List UInt8) (n : Nat) :
    strncpy dst s n = strncpyFront s n ++ dst.drop n :=
  rfl

/-- Behind the buffer nothing is written. -/
theorem copyString_drop {buffer field : List UInt8} {len : Nat} :
    (copyString buffer field len).drop len = buffer.drop len := by
  have hdrop : ∀ (dst : List UInt8) {n : Nat}, n ≤ len →
      (strncpy dst field n).drop len = dst.drop len := by
    intro dst n hn
    rw [strncpy_eq, List.drop_append, length_strncpyFront, List.drop_drop,
      List.drop_of_length_le (by rw [length_strncpyFront]; exact hn), List.nil_append,
      Nat.add_sub_cancel' hn]
  unfold copyString
  split
  · rename_i hlong
    rw [hdrop _ hlong.le, List.drop_set_of_lt hlong]
  · exact hdrop buffer (le_refl len)

/-- The copy of a padded string of at most 256 characters is terminated when the buffer is longer
than the string. -/
theorem copyString_take_of_lt {buffer str : List UInt8} {len : Nat} (hnz : ∀ c ∈ str, c ≠ 0)
    (hfield : str.length ≤ maxStrLen) (hbuffer : len ≤ buffer.length) (hlen : str.length < len)
    (pad : Nat) :
    ∃ r, (copyString buffer (str ++ List.replicate pad 0) len).take len = str ++ 0 :: r := by
  have htake : ∀ tail, ∃ r, (str ++ 0 :: tail).take len = str ++ 0 :: r := by
    intro tail
    rcases Nat.exists_eq_add_of_lt hlen with ⟨m, rfl⟩
    refine ⟨tail.take m, ?_⟩
    rw [List.take_append, List.take_of_length_le (by omega),
      show str.length + m + 1 - str.length = m + 1 by omega, List.take_succ_cons]
  have hfront : ∀ n, str.length ≤ n → strncpyFront (str ++ List.replicate pad 0) n =
      str ++ List.replicate (n - str.length) 0 := by
    intro n hn
    rw [strncpyFront, text_append_replicate hnz, List.take_of_length_le hn]
  unfold copyString
  split
  · rename_i hlong
    -- the terminator of the library stands behind the field
    have hset : (buffer.set maxStrLen 0).drop maxStrLen = 0 :: buffer.drop (maxStrLen + 1) := by
      rw [List.drop_eq_getElem_cons (by rw [List.length_set]; omega), List.getElem_set_self,
        List.drop_set_of_lt (Nat.lt_succ_self _)]
    have hzeros : ∀ (n : Nat) (tail : List UInt8),
        List.replicate n 0 ++ 0 :: tail = 0 :: (List.replicate n 0 ++ tail) := by
      intro n tail
      rw [← List.cons_append, ← List.replicate_succ, List.replicate_succ', List.append_assoc]
      rfl
    rw [strncpy_eq, hfront _ hfield, hset, List.append_assoc, hzeros]
    exact htake _
  · rcases Nat.exists_eq_add_of_lt hlen with ⟨m, rfl⟩
    rw [strncpy_eq, hfront _ hlen.le, show str.length + m + 1 - str.length = m + 1 by omega,
      List.replicate_succ, List.append_assoc, List.cons_append]
    exact htake _

/-- The copy into a buffer that is not longer than the string has no terminator. -/
theorem not_mem_copyString_take {str : List UInt8} {len : Nat} (hnz : ∀ c ∈ str, c ≠ 0)
    (hfield : str.length ≤ maxStrLen) (hlen : len ≤ str.length) (buffer : List UInt8) (pad : Nat) :
    0 ∉ (copyString buffer (str ++ List.replicate pad 0) len).take len := by
  have hshort : ¬ maxStrLen < len := by omega
  have hcopied : strncpyFront (str ++ List.replicate pad 0) len = str.take len := by
    rw [strncpyFront, text_append_replicate hnz, List.length_take, min_eq_left hlen, Nat.sub_self,
      List.replicate_zero, List.append_nil]
  have hlength := length_strncpyFront (str ++ List.replicate pad 0) len
  rw [copyString, if_neg hshort, strncpy_eq, List.take_append, hlength, Nat.sub_self,
    List.take_zero, List.append_nil, List.take_of_length_le hlength.le, hcopied]
  intro hmem
  exact hnz 0 (List.mem_of_mem_take hmem) rfl

/-- The memory from the buffer on holds the prefix of `str` that fits and a terminator, and is
otherwise as before behind the buffer. -/
def HoldsPrefix (str buffer : List UInt8) (len : Nat) (after : List UInt8) : Prop :=
  (∃ r, after.take len = str.take (min (len - 1) (maxStrLen - 1)) ++ 0 :: r) ∧
    after.drop len = buffer.drop len

/-- A copy does what it should exactly when it ends inside the buffer and nothing was lost on the
way into the field but what does not fit. -/
theorem holdsPrefix_copyString_iff {buffer field str : List UInt8} {len pad : Nat}
    (hstr : ∀ c ∈ str, c ≠ 0) (hnz : ∀ c ∈ field, c ≠ 0) (hfield : field.length ≤ maxStrLen)
    (hbuffer : len ≤ buffer.length) :
    HoldsPrefix str buffer len (copyString buffer (field ++ List.replicate pad 0) len) ↔
      field.length < len ∧ field = str.take (min (len - 1) (maxStrLen - 1)) := by
  have hkept : ∀ c ∈ str.take (min (len - 1) (maxStrLen - 1)), c ≠ 0 := fun c hc =>
    hstr c (List.mem_of_mem_take hc)
  constructor
  · rintro ⟨⟨r, hr⟩, _⟩
    have hlen : field.length < len := by
      by_contra hge
      refine not_mem_copyString_take hnz hfield (not_lt.1 hge) buffer pad ?_
      rw [hr]
      simp
    rcases copyString_take_of_lt hnz hfield hbuffer hlen pad with ⟨r', hr'⟩
    exact ⟨hlen, append_nul_inj hnz hkept (hr'.symm.trans hr)⟩
  · rintro ⟨hlen, heq⟩
    rcases copyString_take_of_lt hnz hfield hbuffer hlen pad with ⟨r, hr⟩
    refine ⟨⟨r, ?_⟩, copyString_drop⟩
    rw [hr, ← heq]

end User
end Cuddl
