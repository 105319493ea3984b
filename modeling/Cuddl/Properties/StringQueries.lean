import Cuddl.Properties.CommitIds
import Cuddl.Properties.Tokens
import Cuddl.User.Strings

/-!
# What the string queries return

A string passes through a field of 256 bytes into the caller's buffer.  The driver and hardware
info and the variant fill the field with up to 256 characters; the commit id is cut to 255.  The
library terminates only buffers that are longer than the field, so a string that is as long as the
buffer is returned without a terminator (`stringQuery_holdsPrefix_iff`).
-/

namespace Cuddl

open Foundation.CString User

/-! ## The strings and their fields -/

/-- The commit hash with its dirty mark. -/
def commitIdChars (cfg : Config) : List UInt8 :=
  cfg.commitHash ++ if cfg.repoIsDirty then ascii "(M)" else []

/-- A driver or hardware info string, or what stands for a missing one. -/
def infoChars (str : Option KStr) : List UInt8 :=
  (str.map KStr.chars).getD (ascii "UNKNOWN")

theorem infoChars_nonzero (str : Option KStr) : ∀ c ∈ infoChars str, c ≠ 0 := by
  cases str with
  | none => decide +kernel
  | some s => exact s.nonzero

theorem variant_nonzero (cfg : Config) : ∀ c ∈ variant cfg, c ≠ 0 := by
  unfold variant
  split
  · decide +kernel
  · decide +kernel

theorem commitIdChars_nonzero {cfg : Config} (h : ∀ c ∈ cfg.commitHash, c ≠ 0) :
    ∀ c ∈ commitIdChars cfg, c ≠ 0 :=
  commitIdText_nonzero h

/-- `cuddlk_get_commit_id` for the field of the ioctl. -/
theorem getCommitId_field {cfg : Config} (h : ∀ c ∈ cfg.commitHash, c ≠ 0) :
    getCommitId cfg 256 = some ((commitIdChars cfg).take (maxStrLen - 1)) := by
  have hroom : commitIdRoom 256 = maxStrLen - 1 := by decide
  rw [getCommitId_eq h (by decide), hroom]
  rfl

/-! ## Fields in buffers -/

/-- Through a field filled by `strncpy`. -/
theorem holdsPrefix_strncpyField_iff {str buffer : List UInt8} {len : Nat}
    (hstr : ∀ c ∈ str, c ≠ 0) (hbuffer : len ≤ buffer.length) :
    HoldsPrefix str buffer len (copyString buffer (strncpyField str) len) ↔
      str.length < min len maxStrLen := by
  have hnz : ∀ c ∈ str.take maxStrLen, c ≠ 0 := fun c hc => hstr c (List.mem_of_mem_take hc)
  have hfield : (str.take maxStrLen).length ≤ maxStrLen := by
    rw [List.length_take]
    exact min_le_left _ _
  rw [strncpyField, holdsPrefix_copyString_iff hstr hnz hfield hbuffer, List.length_take]
  constructor
  · rintro ⟨hlen, heq⟩
    have hlength := congrArg List.length heq
    rw [List.length_take, List.length_take] at hlength
    simp only [maxStrLen] at hlen hlength ⊢
    omega
  · intro hlen
    simp only [maxStrLen] at hlen ⊢
    refine ⟨by omega, ?_⟩
    rw [List.take_of_length_le (by omega), List.take_of_length_le (by omega)]

/-- Through a field that was cut to leave room for its terminator. -/
theorem holdsPrefix_cut_iff {str buffer : List UInt8} {len : Nat}
    (hstr : ∀ c ∈ str, c ≠ 0) (hbuffer : len ≤ buffer.length) :
    HoldsPrefix str buffer len (copyString buffer (str.take (maxStrLen - 1) ++ [0]) len) ↔
      min str.length (maxStrLen - 1) < len := by
  have hnz : ∀ c ∈ str.take (maxStrLen - 1), c ≠ 0 := fun c hc =>
    hstr c (List.mem_of_mem_take hc)
  have hfield : (str.take (maxStrLen - 1)).length ≤ maxStrLen := by
    rw [List.length_take]
    exact (min_le_left _ _).trans (Nat.sub_le _ _)
  rw [← List.replicate_one, holdsPrefix_copyString_iff hstr hnz hfield hbuffer, List.length_take,
    min_comm]
  constructor
  · exact And.left
  · intro hlen
    refine ⟨hlen, ?_⟩
    -- what the buffer has no room for, the field had no room for
    rcases Nat.lt_or_ge (len - 1) (maxStrLen - 1) with hlt | hge
    · have hshort : str.length ≤ len - 1 := by omega
      rw [min_eq_left hlt.le, List.take_of_length_le hshort,
        List.take_of_length_le (hshort.trans hlt.le)]
    · rw [min_eq_right hge]

/-! ## The queries -/

/-- The queries that return a string. -/
inductive StringQuery
  | driverInfo (k : ResourceKind) (id : ResourceId)
  | hwInfo (k : ResourceKind) (id : ResourceId)
  | kernelCommitId
  | kernelVariant

namespace StringQuery

/-- The library function behind a query; those that make one ioctl only make the first. -/
def call (cfg : Config) (pid : Pid) (first second : IoFaults × SysFaults)
    (window : KernelState → Option KernelState) (s : KernelState) (buffer : List UInt8)
    (len : Nat) : StringQuery → Option StringResult
  | .driverInfo .memregion id =>
      readDriverInfoForMemregionId cfg pid id first second window s buffer len
  | .driverInfo .eventsrc id =>
      readDriverInfoForEventsrcId cfg pid id first second window s buffer len
  | .hwInfo .memregion id =>
      readHwInfoForMemregionId cfg pid id first second window s buffer len
  | .hwInfo .eventsrc id =>
      readHwInfoForEventsrcId cfg pid id first second window s buffer len
  | .kernelCommitId => readKernelCommitId cfg s first.1 first.2 buffer len
  | .kernelVariant => readKernelVariant cfg s first.1 first.2 buffer len

/-- `str` is the string that the kernel has for the query: the string of the device that is, at
the end, in the slot that the lookup found, or a constant. -/
def Serves (cfg : Config) (s s' : KernelState) : StringQuery → List UInt8 → Prop
  | .driverInfo k id, str => ∃ d p i q, managerLookup s k id = some (d, p, i) ∧
      s'.devices d = some q ∧ str = infoChars (s'.heap q).driverInfo
  | .hwInfo k id, str => ∃ d p i q, managerLookup s k id = some (d, p, i) ∧
      s'.devices d = some q ∧ str = infoChars (s'.heap q).hwInfo
  | .kernelCommitId, str => str = commitIdChars cfg
  | .kernelVariant, str => str = variant cfg

/-- The string leaves room for a terminator, in the caller's buffer and in the field. -/
def Fits (len : Nat) : StringQuery → List UInt8 → Prop
  | .kernelCommitId, str => min str.length (maxStrLen - 1) < len
  | _, str => str.length < min len maxStrLen

end StringQuery

/-- A call that returns zero has carried out its command. -/
theorem command_of_ret_zero {cfg : Config} {s : KernelState} {req : Request} {io : IoFaults}
    {sys : SysFaults} {r : CallResult} (h : managerCall cfg s req io sys = some r)
    (hret : r.ret = 0) :
    ∃ res, ioctlCommand cfg s io req = some res ∧ res.ret = 0 ∧ r.state = res.state ∧
      r.reply = res.reply := by
  rcases managerCall_of_ret_zero h hret with ⟨res, hres, hzero, hst, hreply⟩
  rcases managerIoctl_cases hres with ⟨_, hneg, _, _⟩ | ⟨_, hcmd⟩
  · exact absurd hzero hneg.ne
  · exact ⟨res, hcmd, hzero, hst, hreply⟩

section Queries

variable {cfg : Config} {k : ResourceKind} {pid : Pid} {id : ResourceId}
  {first second : IoFaults × SysFaults} {window : KernelState → Option KernelState}
  {s : KernelState} {io : IoFaults} {sys : SysFaults} {buffer : List UInt8} {len : Nat}
  {r : StringResult}

/-- A query by id that succeeds has found a slot and read a device in it. -/
theorem readInfoForId_of_ret_zero {q : SlotQuery} (field : Device → Option KStr)
    (hq : ∀ (t : Token k) (s : KernelState) (io : IoFaults),
      ioctlCommand cfg s io (q.request k t.deviceIndex t.resourceIndex) =
        some (ioctlInfoString field t.deviceIndex io s))
    (h : readInfoForId cfg k pid id first second window s buffer len q = some r)
    (hret : r.ret = 0) :
    ∃ d p i dev, managerLookup s k id = some (d, p, i) ∧ r.state.devices d = some dev ∧
      r.buffer = copyString buffer (strncpyField (infoChars (field (r.state.heap dev)))) len := by
  rcases Option.map_eq_some_iff.1 h with ⟨call, hcall, rfl⟩
  have hzero : call.ret = 0 := hret
  cases hinfo : getInfoForId cfg k pid id first.1 first.2 s with
  | none => simp [slotQueryForId, hinfo] at hcall
  | some info =>
      by_cases hok : info.ret = 0
      · rcases getInfoForId_of_ret_zero hinfo hok with ⟨d, p, i, hfind, _, htoken⟩
        simp only [slotQueryForId, hinfo, hok, ne_eq, not_true_eq_false, if_false, htoken]
          at hcall
        rcases Option.bind_eq_some_iff.1 hcall with ⟨s₂, _, hsecond⟩
        rcases command_of_ret_zero hsecond hzero with ⟨res, hcmd, hresZero, hst, hreply⟩
        rw [hq ⟨d, i⟩, Option.some.injEq] at hcmd
        rcases ioctlInfoString_cases field d second.1 s₂ with
          ⟨hneg, _⟩ | ⟨d', dev, hd, hdev, heq⟩
        · rw [hcmd] at hneg
          exact absurd hresZero hneg.ne
        · have hd' : d = d' := Fin.ext (Int.ofNat.inj hd)
          rw [← hcmd, heq] at hst hreply
          refine ⟨d, p, i, dev, hfind, ?_, ?_⟩
          · rw [hd']
            simpa [copyOut, hst] using hdev
          · simp [copyOut, hreply, hst, infoString, infoChars]
      · -- an INFO that fails is what the query returns
        have heq : info = call := by
          simpa [slotQueryForId, hinfo, hok] using hcall
        exact absurd (heq ▸ hzero) hok

/-- The info queries, given the string they have found. -/
theorem holdsPrefix_of_found {dev : Device} {field : Device → Option KStr}
    (hbuffer : len ≤ buffer.length)
    (hcopy : r.buffer = copyString buffer (strncpyField (infoChars (field dev))) len) :
    HoldsPrefix (infoChars (field dev)) buffer len r.buffer ↔
      (infoChars (field dev)).length < min len maxStrLen := by
  rw [hcopy]
  exact holdsPrefix_strncpyField_iff (infoChars_nonzero _) hbuffer

theorem readKernelCommitId_of_ret_zero (hcommit : ∀ c ∈ cfg.commitHash, c ≠ 0)
    (h : readKernelCommitId cfg s io sys buffer len = some r) (hret : r.ret = 0) :
    r.buffer = copyString buffer ((commitIdChars cfg).take (maxStrLen - 1) ++ [0]) len := by
  rcases Option.map_eq_some_iff.1 h with ⟨call, hcall, rfl⟩
  rcases command_of_ret_zero hcall hret with ⟨res, hcmd, hresZero, _, hreply⟩
  simp only [ioctlCommand, Option.some.injEq, getCommitId_field hcommit, Option.getD_some] at hcmd
  rcases replyWith_cases (.idStr ((commitIdChars cfg).take (maxStrLen - 1) ++ [0])) io s with
    ⟨hneg, _⟩ | heq
  · rw [hcmd] at hneg
    exact absurd hresZero hneg.ne
  · rw [← hcmd, heq] at hreply
    simp [copyOut, hreply]

theorem readKernelVariant_of_ret_zero (h : readKernelVariant cfg s io sys buffer len = some r)
    (hret : r.ret = 0) : r.buffer = copyString buffer (strncpyField (variant cfg)) len := by
  rcases Option.map_eq_some_iff.1 h with ⟨call, hcall, rfl⟩
  rcases command_of_ret_zero hcall hret with ⟨res, hcmd, hresZero, _, hreply⟩
  simp only [ioctlCommand, Option.some.injEq] at hcmd
  rcases replyWith_cases (.idStr (strncpyField (variant cfg))) io s with ⟨hneg, _⟩ | heq
  · rw [hcmd] at hneg
    exact absurd hresZero hneg.ne
  · rw [← hcmd, heq] at hreply
    simp [copyOut, hreply]

/-- A string query that returns zero leaves the prefix that fits and a terminator in the buffer
exactly when the string, as far as the field can hold it, is shorter than the buffer, and shorter
than the field if the field is not terminated by the kernel. -/
theorem stringQuery_holdsPrefix_iff {q : StringQuery} (hcommit : ∀ c ∈ cfg.commitHash, c ≠ 0)
    (hbuffer : len ≤ buffer.length)
    (h : q.call cfg pid first second window s buffer len = some r) (hret : r.ret = 0) :
    ∃ str, q.Serves cfg s r.state str ∧ (∀ c ∈ str, c ≠ 0) ∧
      (HoldsPrefix str buffer len r.buffer ↔ q.Fits len str) := by
  have hdriver : ∀ {k : ResourceKind} {id : ResourceId},
      readInfoForId cfg k pid id first second window s buffer len .driverInfo = some r →
      ∃ str, (StringQuery.driverInfo k id).Serves cfg s r.state str ∧ (∀ c ∈ str, c ≠ 0) ∧
        (HoldsPrefix str buffer len r.buffer ↔ (StringQuery.driverInfo k id).Fits len str) := by
    intro k id h
    rcases readInfoForId_of_ret_zero Device.driverInfo (fun _ _ _ => rfl) h hret with
      ⟨d, p, i, dev, hfind, hdev, hcopy⟩
    exact ⟨_, ⟨d, p, i, dev, hfind, hdev, rfl⟩, infoChars_nonzero _,
      holdsPrefix_of_found hbuffer hcopy⟩
  have hhw : ∀ {k : ResourceKind} {id : ResourceId},
      readInfoForId cfg k pid id first second window s buffer len .hwInfo = some r →
      ∃ str, (StringQuery.hwInfo k id).Serves cfg s r.state str ∧ (∀ c ∈ str, c ≠ 0) ∧
        (HoldsPrefix str buffer len r.buffer ↔ (StringQuery.hwInfo k id).Fits len str) := by
    intro k id h
    rcases readInfoForId_of_ret_zero Device.hwInfo (fun _ _ _ => rfl) h hret with
      ⟨d, p, i, dev, hfind, hdev, hcopy⟩
    exact ⟨_, ⟨d, p, i, dev, hfind, hdev, rfl⟩, infoChars_nonzero _,
      holdsPrefix_of_found hbuffer hcopy⟩
  cases q with
  | driverInfo k id =>
      cases k with
      | memregion => exact hdriver h
      | eventsrc => exact hdriver h
  | hwInfo k id =>
      cases k with
      | memregion => exact hhw h
      | eventsrc => exact hhw h
  | kernelCommitId =>
      refine ⟨_, rfl, commitIdChars_nonzero hcommit, ?_⟩
      rw [readKernelCommitId_of_ret_zero hcommit h hret]
      exact holdsPrefix_cut_iff (commitIdChars_nonzero hcommit) hbuffer
  | kernelVariant =>
      refine ⟨_, rfl, variant_nonzero cfg, ?_⟩
      rw [readKernelVariant_of_ret_zero h hret]
      exact holdsPrefix_strncpyField_iff (variant_nonzero cfg) hbuffer

end Queries

def Sample.noSysFaults : SysFaults :=
  { openErrno := none, closeErrno := none }

/-- The variant in a buffer of ten bytes, from a kernel with an empty table. -/
theorem stringQuery_holdsPrefix_ten :
    ∃ r, readKernelVariant Sample.config Sample.kernel Sample.noFaults Sample.noSysFaults
        (List.replicate 10 1) 10 = some r ∧ r.ret = 0 ∧
      HoldsPrefix (variant Sample.config) (List.replicate 10 1) 10 r.buffer := by
  have hrun : (readKernelVariant Sample.config Sample.kernel Sample.noFaults Sample.noSysFaults
      (List.replicate 10 1) 10).any (fun r => decide (r.ret = 0)) = true := by decide +kernel
  rcases (Option.any_eq_true _ _).1 hrun with ⟨r, hr, hret⟩
  refine ⟨r, hr, of_decide_eq_true hret, ?_⟩
  have hcall : StringQuery.kernelVariant.call Sample.config 1
      (Sample.noFaults, Sample.noSysFaults) (Sample.noFaults, Sample.noSysFaults) some
      Sample.kernel (List.replicate 10 1) 10 = some r := hr
  rcases stringQuery_holdsPrefix_iff (by simp [Sample.config]) (by simp) hcall
    (of_decide_eq_true hret) with ⟨str, rfl, _, hiff⟩
  have hfits : (variant Sample.config).length < min 10 maxStrLen := by decide +kernel
  exact hiff.2 hfits

/-- In a buffer of nine bytes the nine characters of the variant have no terminator. -/
theorem stringQuery_unterminated :
    ∃ r, readKernelVariant Sample.config Sample.kernel Sample.noFaults Sample.noSysFaults
        (List.replicate 9 1) 9 = some r ∧ r.ret = 0 ∧ 0 ∉ r.buffer ∧
      ¬ HoldsPrefix (variant Sample.config) (List.replicate 9 1) 9 r.buffer := by
  have hrun : (readKernelVariant Sample.config Sample.kernel Sample.noFaults Sample.noSysFaults
      (List.replicate 9 1) 9).any (fun r => decide (r.ret = 0 ∧ 0 ∉ r.buffer)) = true := by
    decide +kernel
  rcases (Option.any_eq_true _ _).1 hrun with ⟨r, hr, hret⟩
  rcases of_decide_eq_true hret with ⟨hzero, hmem⟩
  refine ⟨r, hr, hzero, hmem, ?_⟩
  rintro ⟨⟨tail, htail⟩, _⟩
  refine hmem (List.mem_of_mem_take (i := 9) ?_)
  rw [htail]
  simp

end Cuddl
