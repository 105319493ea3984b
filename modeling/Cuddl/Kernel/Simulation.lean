import Cuddl.Kernel.System

/-!
# The machine simulates a ledger

Every `Regular` action of the manager is one action of its ledger (`exec_ledger`).  What a request
does to the ledger is read off what it returns: a request that fails does nothing.
-/

namespace Cuddl

open Foundation

/-- The token that a CLAIM returns, if it succeeds. -/
def claimedToken (cfg : Config) (s : KernelState) (k : ResourceKind) (rt : Bool)
    (data : ClaimData) (io : IoFaults) : Option (Token k) :=
  (managerIoctl cfg s (.claim k rt data) io).bind fun res =>
    if res.ret = 0 then res.reply.bind (Reply.token? k) else none

def ledgerAction (cfg : Config) (s : KernelState) : Op → Ledger.Action Res Pid
  | .ioctl (.claim k rt data) io =>
      match claimedToken cfg s k rt data io with
      | none => .idle
      | some t => .claim t.res data.pid
  | .ioctl (.release k rt data) io =>
      match data.token? k with
      | none => .idle
      | some t =>
          if IoctlOk cfg s (.release k rt data) io then .release t.res data.pid else .idle
  | .ioctl (.decrementRefCount k v id) io =>
      match managerLookup s k id with
      | none => .idle
      | some (d, _, i) =>
          if IoctlOk cfg s (.decrementRefCount k v id) io then .drop (d, ⟨k, i⟩) else .idle
  | .freeRefs pid => .cleanup pid
  | _ => .idle

/-- Devices come and go without claims, and no INFO fails in its copy-out. -/
def Regular (s : KernelState) : Op → Prop
  | .fill p _ => ¬ s.Managed p
  | .manage p _ => ¬ s.Managed p ∧ (s.heap p).Unclaimed
  | .release p _ => (s.heap p).Unclaimed
  | .ioctl (.info _ _) io => io.copyToUserFails = false
  | _ => True

/-- What an action has done when it is not idle. -/
inductive Effect (cfg : Config) (s : KernelState) : Op → Ledger.Action Res Pid → Prop
  | claim {k : ResourceKind} {rt : Bool} {data : ClaimData} {io : IoFaults} {t : Token k}
      (claimed : claimedToken cfg s k rt data io = some t) :
      Effect cfg s (.ioctl (.claim k rt data) io) (.claim t.res data.pid)
  | release {k : ResourceKind} {rt : Bool} {data : ReleaseData} {io : IoFaults} {t : Token k}
      (token : data.token? k = some t) (ok : IoctlOk cfg s (.release k rt data) io) :
      Effect cfg s (.ioctl (.release k rt data) io) (.release t.res data.pid)
  | decrement {k : ResourceKind} {v : Int32} {id : ResourceId} {io : IoFaults} {d : Slot}
      {p : DevPtr} {i : Fin k.max} (found : managerLookup s k id = some (d, p, i))
      (ok : IoctlOk cfg s (.decrementRefCount k v id) io) :
      Effect cfg s (.ioctl (.decrementRefCount k v id) io) (.drop (d, ⟨k, i⟩))
  | cleanup (pid : Pid) : Effect cfg s (.freeRefs pid) (.cleanup pid)

theorem ledgerAction_cases (cfg : Config) (s : KernelState) (a : Op) :
    ledgerAction cfg s a = .idle ∨ Effect cfg s a (ledgerAction cfg s a) := by
  cases a with
  | freeRefs pid => exact Or.inr (.cleanup pid)
  -- three requests can act on the ledger; each does so only when it succeeds
  | ioctl req io =>
      cases req with
      | claim k rt data =>
          cases ht : claimedToken cfg s k rt data io with
          | none => simp [ledgerAction, ht]
          | some t =>
              right
              simp only [ledgerAction, ht]
              exact .claim ht
      | release k rt data =>
          cases ht : data.token? k with
          | none => simp [ledgerAction, ht]
          | some t =>
              by_cases hok : IoctlOk cfg s (.release k rt data) io
              · right
                simp only [ledgerAction, ht, hok, if_true]
                exact .release ht hok
              · simp [ledgerAction, ht, hok]
      | decrementRefCount k v id =>
          cases hfind : managerLookup s k id with
          | none => simp [ledgerAction, hfind]
          | some found =>
              by_cases hok : IoctlOk cfg s (.decrementRefCount k v id) io
              · right
                simp only [ledgerAction, hfind, hok, if_true]
                exact .decrement hfind hok
              · simp [ledgerAction, hfind, hok]
      | _ => exact Or.inl rfl
  | _ => exact Or.inl rfl

theorem effect_of_ledgerAction {cfg : Config} {s : KernelState} {a : Op}
    {x : Ledger.Action Res Pid} (h : ledgerAction cfg s a = x) (hx : x ≠ .idle) :
    Effect cfg s a x := by
  rcases ledgerAction_cases cfg s a with hidle | heffect
  · exact absurd (h.symm.trans hidle) hx
  · rwa [h] at heffect

/-! ## Requests -/

section Requests

variable {cfg : Config} {s : KernelState} {k : ResourceKind} {rt : Bool} {io : IoFaults}
  {res : IoctlResult}

theorem not_ioctlOk {req : Request} (hres : managerIoctl cfg s req io = some res)
    (hneg : res.ret < 0) : ¬ IoctlOk cfg s req io := by
  rintro ⟨res', hres', hzero⟩
  cases hres.symm.trans hres'
  omega

/-- A CLAIM that returns a token was admitted. -/
theorem admitted_of_claimedToken {data : ClaimData} {t : Token k} (hinj : TableInjective s)
    (h : claimedToken cfg s k rt data io = some t) :
    ∃ p, s.devices t.deviceIndex = some p ∧ Admitted s p ⟨k, t.resourceIndex⟩ data.hostile := by
  rcases Option.bind_eq_some_iff.1 h with ⟨res, hres, hreply⟩
  rcases managerIoctl_claim hinj hres with ⟨hneg, _, _⟩ | ⟨hzero, t', p, ht', hslot, hadm, _, _⟩
  · rw [if_neg hneg.ne] at hreply
    cases hreply
  · rw [if_pos hzero] at hreply
    cases hreply.symm.trans ht'
    exact ⟨p, hslot, hadm⟩

theorem ledger_claim_apply {data : ClaimData} (hinj : TableInjective s)
    (hres : managerIoctl cfg s (.claim k rt data) io = some res) :
    res.state.ledger = s.ledger.apply (ledgerAction cfg s (.ioctl (.claim k rt data) io)) := by
  rcases managerIoctl_claim hinj hres with ⟨hneg, hledger, _⟩ | ⟨hzero, t, p, ht, _, _, hledger, _⟩
  · -- no token was returned, so the action is idle
    have hnone : claimedToken cfg s k rt data io = none := by
      simp [claimedToken, hres, hneg.ne]
    simp only [ledgerAction, hnone]
    exact hledger
  · have hsome : claimedToken cfg s k rt data io = some t := by
      simpa [claimedToken, hres, hzero] using ht
    simp only [ledgerAction, hsome]
    exact hledger

theorem ledger_release_apply {data : ReleaseData} (hinj : TableInjective s)
    (hres : managerIoctl cfg s (.release k rt data) io = some res) :
    res.state.ledger = s.ledger.apply (ledgerAction cfg s (.ioctl (.release k rt data) io)) := by
  rcases managerIoctl_release hinj hres with ⟨hneg, hst⟩ | ⟨hzero, t, p, ht, _, hledger, _⟩
  · -- the request has failed, so the action is idle
    have hnot := not_ioctlOk hres hneg
    have hidle : ledgerAction cfg s (.ioctl (.release k rt data) io) = .idle := by
      cases ht : data.token? k with
      | none => simp [ledgerAction, ht]
      | some t => simp [ledgerAction, ht, hnot]
    rw [hidle, hst]
    rfl
  · have hok : IoctlOk cfg s (.release k rt data) io := ⟨res, hres, hzero⟩
    have hstruck : ledgerAction cfg s (.ioctl (.release k rt data) io) =
        .release t.res data.pid := by
      simp [ledgerAction, ht, hok]
    rw [hstruck]
    exact hledger

theorem ledger_decrement_apply {v : Int32} {id : ResourceId} (hinj : TableInjective s)
    (hres : managerIoctl cfg s (.decrementRefCount k v id) io = some res) :
    res.state.ledger =
      s.ledger.apply (ledgerAction cfg s (.ioctl (.decrementRefCount k v id) io)) := by
  rcases managerIoctl_decrement hinj hres with ⟨hneg, hst⟩ | ⟨hzero, d, p, i, hfind, _, hledger⟩
  · have hnot := not_ioctlOk hres hneg
    have hidle : ledgerAction cfg s (.ioctl (.decrementRefCount k v id) io) = .idle := by
      cases hfind : managerLookup s k id with
      | none => simp [ledgerAction, hfind]
      | some found => simp [ledgerAction, hfind, hnot]
    rw [hidle, hst]
    rfl
  · have hok : IoctlOk cfg s (.decrementRefCount k v id) io := ⟨res, hres, hzero⟩
    have hdrop : ledgerAction cfg s (.ioctl (.decrementRefCount k v id) io) =
        .drop (d, ⟨k, i⟩) := by
      simp [ledgerAction, hfind, hok]
    rw [hdrop]
    exact hledger

end Requests

/-! ## Actions -/

theorem exec_tableInjective {cfg : Config} {s s' : KernelState} {a : Op} (hinj : TableInjective s)
    (hregular : Regular s a) (h : exec cfg a s = some s') : TableInjective s' := by
  cases a with
  | fill p dev =>
      cases h
      exact hinj
  | manage p out =>
      cases h
      exact tableInjective_deviceManage cfg out hinj hregular.1
  | release p out =>
      cases h
      exact tableInjective_deviceRelease cfg out hinj
  | ioctl req io => exact tableInjective_of_sameShape hinj (exec_ioctl_sameShape h)
  | freeRefs pid =>
      exact tableInjective_of_sameShape hinj (managerFreeRefsForPid_sameShape h)

/-- The simulation: one regular action of the machine is one action of its ledger. -/
theorem exec_ledger {cfg : Config} {s s' : KernelState} {a : Op} (hinj : TableInjective s)
    (hregular : Regular s a) (h : exec cfg a s = some s') :
    s'.ledger = s.ledger.apply (ledgerAction cfg s a) := by
  cases a with
  | fill p dev =>
      cases h
      exact ledger_setDevice hregular dev
  | manage p out =>
      cases h
      exact ledger_deviceManage cfg out hregular.1 hregular.2
  | release p out =>
      cases h
      exact ledger_deviceRelease cfg out hregular
  | freeRefs pid => exact ledger_managerFreeRefsForPid hinj h
  | ioctl req io =>
      rcases Option.map_eq_some_iff.1 h with ⟨res, hres, rfl⟩
      -- an INFO without a copy failure is a query, too
      cases req with
      | claim k rt data => exact ledger_claim_apply hinj hres
      | release k rt data => exact ledger_release_apply hinj hres
      | decrementRefCount k v id => exact ledger_decrement_apply hinj hres
      | info k data =>
          rw [managerIoctl_info_state hregular hres]
          rfl
      | _ =>
          -- the queries do not write
          rw [managerIoctl_state_of_not_writes id hres]
          rfl

/-- A drop is a decrement that succeeded, so it found something to drop. -/
theorem count_pos_of_drop {cfg : Config} {s s' : KernelState} {a : Op} {r : Res}
    (hinj : TableInjective s) (h : exec cfg a s = some s')
    (hdrop : ledgerAction cfg s a = .drop r) : 0 < s.ledger.count r := by
  cases effect_of_ledgerAction hdrop (by simp) with
  | decrement hfind hok =>
      rcases Option.map_eq_some_iff.1 h with ⟨res, hres, rfl⟩
      rcases managerIoctl_decrement hinj hres with ⟨hneg, _⟩ | ⟨_, d, p, i, hfind', hpos, _⟩
      · exact absurd hok (not_ioctlOk hres hneg)
      · -- the lookup is the same one that the action was read off from
        cases hfind.symm.trans hfind'
        exact hpos

/-- A release by a holder strikes a claim on record. -/
theorem mem_held_of_release {cfg : Config} {s : KernelState} {a : Op} {r : Res} {pid : Pid}
    (hheld : ∀ x ∈ a.releaseData?, x.2.Held x.1 s)
    (haction : ledgerAction cfg s a = .release r pid) : (r, pid) ∈ s.ledger.held := by
  cases effect_of_ledgerAction haction (by simp) with
  | release ht hok =>
      rcases hheld _ rfl with ⟨t', ht', hmem⟩
      cases ht.symm.trans ht'
      exact (mem_held_iff s).2 hmem

end Cuddl
