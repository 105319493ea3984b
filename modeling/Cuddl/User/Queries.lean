import Cuddl.Kernel.Ioctl

/-!
# Queries from user space

The query functions of `cuddl_linux.c`.  Each opens `/dev/cuddl`, makes one ioctl and closes the
device again.  The queries by id are two of these in a row: INFO for the id, then a query for the
slot numbers in its token.  Anything may happen to the manager in between.
-/

namespace Cuddl

/-- `CUDDL_VERSION_CODE` -/
def userVersionCode : Int32 :=
  versionCode 1 0 0

/-- The `errno` of a failing system call. -/
abbrev SysErrno := { e : Nat // 0 < e }

theorem neg_errno_lt (e : SysErrno) : -(e.val : Int) < 0 := by
  have hpos := e.property
  omega

/-- How the `open` and the `close` around an ioctl fail, if they do. -/
structure SysFaults where
  openErrno : Option SysErrno
  closeErrno : Option SysErrno

/-- What a user-space function returns, and what it has copied to its caller. -/
structure CallResult where
  ret : Int
  state : KernelState
  reply : Option Reply

/-- What is left to do after the ioctl; the reply is copied out before the `close` is checked. -/
def finishCall (sys : SysFaults) (res : IoctlResult) : CallResult :=
  if res.ret = 0 then
    match sys.closeErrno with
    -- the call fails although the ioctl has succeeded
    | some e => ⟨-(e.val : Int), res.state, res.reply⟩
    | none => ⟨0, res.state, res.reply⟩
  else
    ⟨res.ret, res.state, none⟩

/-- `open`, one ioctl, `close` -/
def managerCall (cfg : Config) (s : KernelState) (req : Request) (io : IoFaults)
    (sys : SysFaults) : Option CallResult :=
  match sys.openErrno with
  | some e => some ⟨-(e.val : Int), s, none⟩
  | none => (managerIoctl cfg s req io).map (finishCall sys)

/-- `cuddl_get_memregion_info_for_id` and `cuddl_get_eventsrc_info_for_id`; the `options` field is
left as it is on the stack, INFO does not read it. -/
def getInfoForId (cfg : Config) (k : ResourceKind) (pid : Pid) (id : ResourceId) (io : IoFaults)
    (sys : SysFaults) (s : KernelState) : Option CallResult :=
  managerCall cfg s
    (.info k { versionCode := userVersionCode, id := id, pid := pid, options := 0 }) io sys

/-- The queries that take slot numbers. -/
inductive SlotQuery
  /-- `cuddl_get_memregion_id_for_slot`, `cuddl_get_eventsrc_id_for_slot` -/
  | resourceId
  /-- `_cuddl_get_driver_info_for_slot` -/
  | driverInfo
  /-- `_cuddl_get_hw_info_for_slot` -/
  | hwInfo

def SlotQuery.request (q : SlotQuery) (k : ResourceKind) (deviceSlot resourceSlot : Int) :
    Request :=
  match q with
  | .resourceId => .getId k userVersionCode deviceSlot resourceSlot
  | .driverInfo => .getDriverInfo userVersionCode deviceSlot
  | .hwInfo => .getHwInfo userVersionCode deviceSlot

/-- An INFO for the id, then the query for the slots of its token.  `window` is what happens to
the manager between the two ioctls. -/
def slotQueryForId (cfg : Config) (q : SlotQuery) (k : ResourceKind) (pid : Pid)
    (id : ResourceId) (first second : IoFaults × SysFaults)
    (window : KernelState → Option KernelState) (s : KernelState) : Option CallResult :=
  match getInfoForId cfg k pid id first.1 first.2 s with
  | none => none
  | some info =>
      if info.ret ≠ 0 then some info
      else
        match info.reply.bind (Reply.token? k) with
        | none => none -- not reached: an INFO that succeeds returns a token
        | some t =>
            (window info.state).bind fun s =>
              managerCall cfg s (q.request k t.deviceIndex t.resourceIndex) second.1 second.2

section Members

variable (cfg : Config) (pid : Pid) (id : ResourceId) (first second : IoFaults × SysFaults)
  (window : KernelState → Option KernelState) (s : KernelState)

def getDriverInfoForMemregionId : Option CallResult :=
  slotQueryForId cfg .driverInfo .memregion pid id first second window s

def getDriverInfoForEventsrcId : Option CallResult :=
  slotQueryForId cfg .driverInfo .eventsrc pid id first second window s

def getHwInfoForMemregionId : Option CallResult :=
  slotQueryForId cfg .hwInfo .memregion pid id first second window s

def getHwInfoForEventsrcId : Option CallResult :=
  slotQueryForId cfg .hwInfo .eventsrc pid id first second window s

def getMemregionIdForMatch : Option CallResult :=
  slotQueryForId cfg .resourceId .memregion pid id first second window s

def getEventsrcIdForMatch : Option CallResult :=
  slotQueryForId cfg .resourceId .eventsrc pid id first second window s

end Members

/-! ## What a call returns -/

/-- The version check passes on every request of this library. -/
theorem accepted_iff {req : Request} {io : IoFaults}
    (hv : req.versionCode? = some userVersionCode) :
    Accepted req io ↔ io.kzallocFails = false ∧ io.copyFromUserFails = false := by
  have hcompat : versionCodeIsCompat userVersionCode = true := by decide
  constructor
  · rintro ⟨halloc, hcheck⟩
    exact ⟨halloc, (hcheck _ hv).1⟩
  · rintro ⟨halloc, hcopy⟩
    refine ⟨halloc, ?_⟩
    intro v hv'
    cases hv.symm.trans hv'
    exact ⟨hcopy, hcompat⟩

@[simp] theorem finishCall_state (sys : SysFaults) (res : IoctlResult) :
    (finishCall sys res).state = res.state := by
  unfold finishCall
  split
  · split <;> rfl
  · rfl

theorem finishCall_of_ret_zero {sys : SysFaults} {res : IoctlResult}
    (h : (finishCall sys res).ret = 0) :
    res.ret = 0 ∧ (finishCall sys res).reply = res.reply := by
  by_cases hzero : res.ret = 0
  · refine ⟨hzero, ?_⟩
    simp only [finishCall, hzero, if_true]
    split <;> rfl
  · simp [finishCall, hzero] at h

theorem finishCall_ret_neg {sys : SysFaults} {res : IoctlResult} (h : res.ret < 0) :
    (finishCall sys res).ret < 0 := by
  have hne : res.ret ≠ 0 := h.ne
  simpa [finishCall, hne] using h

theorem finishCall_of_closes {sys : SysFaults} (hclose : sys.closeErrno = none)
    (res : IoctlResult) :
    finishCall sys res = ⟨res.ret, res.state, if res.ret = 0 then res.reply else none⟩ := by
  by_cases hzero : res.ret = 0
  · simp [finishCall, hclose, hzero]
  · simp [finishCall, hzero]

/-- A call that returns zero made an ioctl that returned zero. -/
theorem managerCall_of_ret_zero {cfg : Config} {s : KernelState} {req : Request} {io : IoFaults}
    {sys : SysFaults} {r : CallResult} (h : managerCall cfg s req io sys = some r)
    (hret : r.ret = 0) :
    ∃ res, managerIoctl cfg s req io = some res ∧ res.ret = 0 ∧ r.state = res.state ∧
      r.reply = res.reply := by
  unfold managerCall at h
  split at h
  · rename_i e _
    cases h
    have hpos := e.property
    simp only at hret
    omega
  · rcases Option.map_eq_some_iff.1 h with ⟨res, hres, rfl⟩
    rcases finishCall_of_ret_zero hret with ⟨hzero, hreply⟩
    exact ⟨res, hres, hzero, finishCall_state sys res, hreply⟩

/-- A call leaves the state that its ioctl leaves, or makes no ioctl. -/
theorem managerCall_state {cfg : Config} {s : KernelState} {req : Request} {io : IoFaults}
    {sys : SysFaults} {r : CallResult} (h : managerCall cfg s req io sys = some r) :
    r.state = s ∨ ∃ res, managerIoctl cfg s req io = some res ∧ r.state = res.state := by
  unfold managerCall at h
  split at h
  · cases h
    exact Or.inl rfl
  · rcases Option.map_eq_some_iff.1 h with ⟨res, hres, rfl⟩
    exact Or.inr ⟨res, hres, finishCall_state sys res⟩

end Cuddl
