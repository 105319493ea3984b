import Cuddl.Properties.Acquisition
import Cuddl.Properties.Balance
import Cuddl.Properties.Exclusion
import Cuddl.Properties.Ownership
import Cuddl.Properties.Serializability
import Cuddl.User.Applications

/-!
# Objects and claims

In a system in which all claims are made through objects, the manager's lists are the lists of what
the objects own: each reference count is the number of objects that are mapped or open on the
resource, and each of these names a managed device (`objects_own_claims`).  So a resource without
the SHARED flag belongs to one object at most (`objects_exclusive`), and it is busy just as long as
there is one (`busy_iff_owned`).

`Proper` says what has to work for this.  In particular an INFO must get its answer copied out: one
that does not takes a count away that belongs to an object.
-/

namespace Cuddl

open Foundation Foundation.Machine User

/-! ## What the objects own -/

/-- The list entry that an object is responsible for. -/
def User.AppObject.owned? {k : ResourceKind} (a : AppObject k) : Option (ResourceRef k) :=
  if a.object.attached then some ⟨a.object.handle.token, a.pid⟩ else none

/-- Every list entry belongs to one object, and every object has its entry. -/
structure Owning (x : Applications) : Prop where
  balanced : Balanced x.kernel
  owned : ∀ k, (x.kernel.refs k).Perm ((x.objects k).filterMap AppObject.owned?)

/-- The object is mapped or open on the resource. -/
def User.AppObject.Owns {k : ResourceKind} (a : AppObject k) (t : Token k) : Prop :=
  a.object.attached = true ∧ a.object.handle.token = t

instance {k : ResourceKind} (a : AppObject k) (t : Token k) : Decidable (a.Owns t) :=
  inferInstanceAs (Decidable (_ ∧ _))

/-! ## What may happen -/

/-- An acquisition leaves nothing behind when it fails. -/
def User.AcquireFaults.Clean {k : ResourceKind} (f : AcquireFaults k) : Prop :=
  f.claimSys.closeErrno = none ∧ (f.attach.fails = true → Undoes f)

/-- A release gets through to the manager. -/
def GetsThrough (io : IoFaults) (sys : SysFaults) : Prop :=
  sys.openErrno = none ∧ io.kzallocFails = false ∧ io.copyFromUserFails = false

/-- A driver at work with devices that are not claimed, or a request that leaves the counts and
lists alone; an INFO is one only as long as its copy-out works. -/
def DriverStep (cfg : Config) (s : KernelState) : Op → Prop
  | .fill p dev => Orderly cfg s (.fill p dev)
  | .manage p out => Orderly cfg s (.manage p out)
  | .release p out => Orderly cfg s (.release p out)
  | .ioctl req io => req.Queries io
  | .freeRefs _ => False

/-- Acquisitions leave nothing behind when they fail and are made through objects that have
nothing; what an object has gets released; drivers add and remove devices that are not claimed, and
queries leave the counts and lists alone. -/
def Proper (cfg : Config) (x : Applications) : AppOp → Prop
  | .construct _ _ _ _ _ f => f.Clean
  | .claimAndAttach k i _ _ _ f => f.Clean ∧ ∀ a ∈ (x.objects k)[i]?, a.object.attached = false
  | .detachAndRelease k i _ _ io sys | .destroy k i _ _ io sys =>
      ∀ a ∈ (x.objects k)[i]?, a.object.attached = true → GetsThrough io sys
  | .kernel a => DriverStep cfg x.kernel a
  | .zeroed _ _ | .exit _ => True

/-- The options of an acquisition. -/
def User.AppOp.options? : AppOp → Option (BitVec 32)
  | .construct _ _ _ _ options _ | .claimAndAttach _ _ _ _ options _ => some options
  | _ => none

/-- The options of acquisitions are in `P`. -/
def ProperWith (cfg : Config) (P : BitVec 32 → Prop) (x : Applications) (op : AppOp) : Prop :=
  Proper cfg x op ∧ ∀ options ∈ op.options?, P options

/-- An orderly action; the options of a claim are in `P`. -/
def OrderlyWith (cfg : Config) (P : BitVec 32 → Prop) (s : KernelState) (a : Op) : Prop :=
  Orderly cfg s a ∧ ∀ k rt data io, a = .ioctl (.claim k rt data) io → P data.options

section Calls

variable {cfg : Config} {P : BitVec 32 → Prop} {k : ResourceKind} {rt : Bool} {pid : Pid}
  {id : ResourceId} {options : BitVec 32} {io : IoFaults} {sys : SysFaults} {s : KernelState}

/-! ## Acquisitions and releases -/

/-- A release by a holder that gets through strikes one of its entries. -/
theorem runs_release {t : Token k} (hbal : Balanced s) (hmem : ⟨t, pid⟩ ∈ s.refs k)
    (hpass : GetsThrough io sys) {r : CallResult}
    (h : resourceReleaseByToken cfg k rt pid t io sys s = some r) :
    Reachable (exec cfg) (OrderlyWith cfg P) s r.state ∧
      r.state.refs = Function.update s.refs k ((s.refs k).erase ⟨t, pid⟩) := by
  rcases hpass with ⟨hopen, halloc, hcopy⟩
  simp only [resourceReleaseByToken, managerCall, hopen] at h
  rcases Option.map_eq_some_iff.1 h with ⟨res, hres, rfl⟩
  rw [finishCall_state]
  have hheld : (releaseData t pid).Held k s := ⟨t, token?_releaseData t pid, hmem⟩
  have horderly : OrderlyWith cfg P s (.ioctl (.release k rt (releaseData t pid)) io) :=
    ⟨hheld, by rintro _ _ _ _ ⟨⟩⟩
  refine ⟨(Reachable.refl s).tail horderly (exec_ioctl hres), ?_⟩
  -- the device is there, so the request is not refused
  rcases managerIoctl_release hbal.tableInjective hres with
    ⟨hneg, _⟩ | ⟨_, t', p, ht', _, _, hrefs⟩
  · have hacc : Accepted (.release k rt (releaseData t pid)) io :=
      (accepted_iff rfl).2 ⟨halloc, hcopy⟩
    rw [managerIoctl_of_accepted hacc] at hres
    cases hres
    rcases ioctlRelease_cases k (releaseData t pid) s with
      ⟨_, _, hempty⟩ | ⟨d, p, i, _, _, _, heq⟩
    · exact absurd (hempty t.deviceIndex t.resourceIndex rfl rfl) (hbal.devices_ne_none hmem)
    · rw [heq] at hneg
      exact absurd hneg (lt_irrefl _)
  · cases (token?_releaseData t pid).symm.trans ht'
    exact hrefs

/-- A claim fails and leaves the lists alone, or has put its entry on the list. -/
theorem runs_claim (hP : P options) (hbal : Balanced s) (hclose : sys.closeErrno = none)
    {r : CallResult} (h : User.resourceClaim cfg k rt pid id options io sys s = some r) :
    Reachable (exec cfg) (OrderlyWith cfg P) s r.state ∧
      ((r.ret < 0 ∧ r.state.refs = s.refs) ∨
        (r.ret = 0 ∧ ∃ t : Token k, r.reply.bind (Reply.token? k) = some t ∧
          r.state.refs = Function.update s.refs k (⟨t, pid⟩ :: s.refs k))) := by
  unfold User.resourceClaim managerCall at h
  cases hopen : sys.openErrno with
  | some e =>
      rw [hopen] at h
      cases h
      exact ⟨Reachable.refl s, Or.inl ⟨neg_errno_lt e, rfl⟩⟩
  | none =>
      rw [hopen] at h
      rcases Option.map_eq_some_iff.1 h with ⟨res, hres, rfl⟩
      rw [finishCall_of_closes hclose]
      have horderly : OrderlyWith cfg P s
          (.ioctl (.claim k rt ⟨userVersionCode, id, pid, options⟩) io) := by
        refine ⟨trivial, ?_⟩
        rintro _ _ _ _ ⟨⟩
        exact hP
      refine ⟨(Reachable.refl s).tail horderly (exec_ioctl hres), ?_⟩
      rcases managerIoctl_claim hbal.tableInjective hres with
        ⟨hneg, _, hrefs⟩ | ⟨hzero, t, _, ht, _, _, _, hrefs⟩
      · exact Or.inl ⟨hneg, hrefs⟩
      · exact Or.inr ⟨hzero, t, by simpa [hzero] using ht, hrefs⟩

theorem token_of_replyInfo {reply : Reply} {info : Info k} (h : replyInfo k reply = some info) :
    reply.token? k = some info.token := by
  cases k with
  | memregion =>
      cases reply with
      | memregionInfo _ =>
          cases h
          rfl
      | _ => cases h
  | eventsrc =>
      cases reply with
      | eventsrcInfo _ =>
          cases h
          rfl
      | _ => cases h

theorem balanced_of_runs {s' : KernelState} (hbal : Balanced s)
    (hrun : Reachable (exec cfg) (OrderlyWith cfg P) s s') : Balanced s' :=
  hrun.invariant hbal fun h hguard hexec => h.step hguard.1 hexec

/-- An acquisition fails and leaves the lists alone, or its entry is on the list. -/
theorem runs_claimAndAttach {f : AcquireFaults k} (hP : P options) (hbal : Balanced s)
    (hclean : f.Clean) {res : AcquireResult k}
    (h : claimAndAttach cfg k rt pid id options f s = some res) :
    Reachable (exec cfg) (OrderlyWith cfg P) s res.state ∧
      ((res.ret < 0 ∧ res.state.refs = s.refs) ∨
        (res.ret = 0 ∧ ∃ handle, res.handle = some handle ∧
          res.state.refs = Function.update s.refs k (⟨handle.token, pid⟩ :: s.refs k))) := by
  rcases hclean with ⟨hclose, hundo⟩
  rcases Option.bind_eq_some_iff.1 h with ⟨claim, hclaim, h⟩
  rcases runs_claim hP hbal hclose hclaim with ⟨hrun, ⟨hneg, hrefs⟩ | ⟨hzero, t, ht, hrefs⟩⟩
  · -- nothing has been claimed
    rw [if_pos hneg.ne] at h
    cases h
    exact ⟨hrun, Or.inl ⟨hneg, hrefs⟩⟩
  · rw [if_neg (not_not.2 hzero)] at h
    split at h
    · cases h
    · rename_i info hinfo
      have htoken : info.token = t := by
        rcases Option.bind_eq_some_iff.1 hinfo with ⟨reply, hreply, hinfo⟩
        rw [hreply, Option.bind_some, token_of_replyInfo hinfo] at ht
        exact Option.some.inj ht
      cases hattach : f.attach.fails with
      | true =>
          have hneg := (attach_of_fails info hattach).1
          rw [if_pos hneg.ne] at h
          rcases Option.map_eq_some_iff.1 h with ⟨undo, hrelease, rfl⟩
          have hbal' := balanced_of_runs hbal hrun
          have hmem : ⟨info.token, pid⟩ ∈ claim.state.refs k := by
            simp [hrefs, htoken]
          rcases runs_release (P := P) hbal' hmem (hundo hattach) hrelease with ⟨hrun', hrefs'⟩
          refine ⟨hrun.trans hrun', Or.inl ⟨hneg, ?_⟩⟩
          -- the entry that is struck is the one that has just been added
          rw [hrefs', hrefs, htoken]
          simp
      | false =>
          rcases attach_of_not_fails info hattach with ⟨hret, handle, hhandle, hsame⟩
          rw [if_neg (not_not.2 hret)] at h
          cases h
          refine ⟨hrun, Or.inr ⟨rfl, handle, hhandle, ?_⟩⟩
          rw [hsame, htoken]
          exact hrefs

/-! ## The methods of an object -/

variable {o : Object k}

theorem runs_objectClaim {f : AcquireFaults k} (hP : P options) (hbal : Balanced s)
    (hclean : f.Clean) {m : MethodResult k}
    (h : o.claimAndAttach cfg rt pid id options f s = some m) :
    Reachable (exec cfg) (OrderlyWith cfg P) s m.state ∧
      ((m.thrown ≠ none ∧ m.object = o ∧ m.state.refs = s.refs) ∨
        (m.thrown = none ∧ m.object.attached = true ∧
          m.state.refs = Function.update s.refs k (⟨m.object.handle.token, pid⟩ :: s.refs k))) := by
  rcases Option.map_eq_some_iff.1 h with ⟨res, hres, hm⟩
  rcases runs_claimAndAttach hP hbal hclean hres with
    ⟨hrun, ⟨hneg, hrefs⟩ | ⟨hzero, handle, hhandle, hrefs⟩⟩
  · rw [if_pos hneg] at hm
    subst hm
    exact ⟨hrun, Or.inl ⟨Option.some_ne_none _, rfl, hrefs⟩⟩
  · have hnot : ¬ res.ret < 0 := by omega
    rw [if_neg hnot, hhandle] at hm
    subst hm
    exact ⟨hrun, Or.inr ⟨rfl, rfl, hrefs⟩⟩

theorem runs_objectRelease {detached : Int} (hbal : Balanced s)
    (hmem : o.attached = true → ⟨o.handle.token, pid⟩ ∈ s.refs k)
    (hpass : o.attached = true → GetsThrough io sys) {r : Object k × KernelState}
    (h : o.detachAndRelease cfg rt pid detached io sys s = some r) :
    Reachable (exec cfg) (OrderlyWith cfg P) s r.2 ∧ r.1.attached = false ∧
      r.2.refs =
        if o.attached then
          Function.update s.refs k ((s.refs k).erase ⟨o.handle.token, pid⟩)
        else s.refs := by
  unfold Object.detachAndRelease at h
  by_cases hattached : o.attached = true
  · rw [if_pos hattached] at h
    rcases Option.map_eq_some_iff.1 h with ⟨r', hr', rfl⟩
    rcases Option.map_eq_some_iff.1 hr' with ⟨call, hcall, rfl⟩
    rcases runs_release (P := P) hbal (hmem hattached) (hpass hattached) hcall with ⟨hrun, hrefs⟩
    rw [if_pos hattached]
    exact ⟨hrun, rfl, hrefs⟩
  · rw [if_neg hattached] at h
    cases h
    rw [if_neg hattached]
    exact ⟨Reachable.refl s, by simpa using hattached, rfl⟩

/-- Drivers and queries leave the lists alone. -/
theorem runs_driverStep {a : Op} {s' : KernelState} (h : DriverStep cfg s a)
    (hexec : exec cfg a s = some s') :
    Reachable (exec cfg) (OrderlyWith cfg P) s s' ∧ s'.refs = s.refs := by
  have hone : ∀ {a}, Orderly cfg s a → (∀ k rt data io, a ≠ .ioctl (.claim k rt data) io) →
      exec cfg a s = some s' → Reachable (exec cfg) (OrderlyWith cfg P) s s' := by
    intro a horderly hno hexec
    refine (Reachable.refl s).tail ⟨horderly, ?_⟩ hexec
    intro k rt data io ha
    exact absurd ha (hno k rt data io)
  cases a with
  | fill p dev =>
      refine ⟨hone (a := .fill p dev) h (by simp) hexec, ?_⟩
      cases hexec
      rfl
  | manage p out =>
      refine ⟨hone (a := .manage p out) h (by simp) hexec, ?_⟩
      cases hexec
      rcases deviceManage_cases cfg s p out with ⟨_, _, ⟨_, hst⟩ | ⟨_, _, _, _, _, _, _, hst⟩⟩
      · rw [hst]
        rfl
      · rw [hst]
        rfl
  | release p out =>
      refine ⟨hone (a := .release p out) h (by simp) hexec, ?_⟩
      cases hexec
      rcases deviceRelease_cases cfg s p out with ⟨_, hst⟩ | ⟨_, _, _, hst⟩
      · rw [hst]
      · rw [hst]
        rfl
  | freeRefs pid => exact absurd h id
  | ioctl req io =>
      rcases Option.map_eq_some_iff.1 hexec with ⟨res, hres, rfl⟩
      have hsame : res.state = s := managerIoctl_state_of_queries h hres
      rw [hsame]
      exact ⟨Reachable.refl s, rfl⟩

end Calls

/-! ## One step -/

section Lists

variable {α β : Type} {l : List α} {i : Nat} {a : α}

theorem perm_cons_eraseIdx (h : l[i]? = some a) : l.Perm (a :: l.eraseIdx i) := by
  rcases List.getElem?_eq_some_iff.1 h with ⟨hlt, rfl⟩
  exact (List.getElem_cons_eraseIdx_perm hlt).symm

theorem perm_set (h : l[i]? = some a) (b : α) : (l.set i b).Perm (b :: l.eraseIdx i) := by
  rcases List.getElem?_eq_some_iff.1 h with ⟨hlt, _⟩
  exact List.set_perm_cons_eraseIdx hlt b

end Lists

section Steps

variable {cfg : Config} {P : BitVec 32 → Prop} {k : ResourceKind} {x x' : Applications}

/-- Only one list has changed. -/
theorem owned_update (h : Owning x) {s' : KernelState} {refs : List (ResourceRef k)}
    {objects : List (AppObject k)} (hrefs : s'.refs = Function.update x.kernel.refs k refs)
    (hperm : refs.Perm (objects.filterMap AppObject.owned?)) (k' : ResourceKind) :
    (s'.refs k').Perm (((x.setObjects k objects).objects k').filterMap AppObject.owned?) := by
  rw [hrefs]
  by_cases hk : k' = k
  · subst hk
    simpa using hperm
  · simpa [hk] using h.owned k'

/-- The entries without the one that the object at `i` is responsible for. -/
theorem Owning.split (h : Owning x) {i : Nat} {a : AppObject k} (ha : (x.objects k)[i]? = some a) :
    (x.kernel.refs k).Perm
      (a.owned?.toList ++ ((x.objects k).eraseIdx i).filterMap AppObject.owned?) := by
  have hsplit := (perm_cons_eraseIdx ha).filterMap AppObject.owned?
  cases howned : a.owned? with
  | none =>
      rw [List.filterMap_cons_none howned] at hsplit
      exact (h.owned k).trans hsplit
  | some e =>
      rw [List.filterMap_cons_some howned] at hsplit
      exact (h.owned k).trans hsplit

theorem owned?_of_attached {a : AppObject k} (h : a.object.attached = true) :
    a.owned? = some ⟨a.object.handle.token, a.pid⟩ :=
  if_pos h

theorem owned?_of_detached {a : AppObject k} (h : a.object.attached = false) : a.owned? = none := by
  simp [AppObject.owned?, h]

/-- An object that is mapped or open has its entry on the list. -/
theorem Owning.mem_refs (h : Owning x) {i : Nat} {a : AppObject k}
    (ha : (x.objects k)[i]? = some a) (hattached : a.object.attached = true) :
    ⟨a.object.handle.token, a.pid⟩ ∈ x.kernel.refs k := by
  refine (h.split ha).mem_iff.2 ?_
  simp [owned?_of_attached hattached]

/-- The entries of a process are those of its objects. -/
theorem filterMap_owned?_filter (l : List (AppObject k)) (pid : Pid) :
    (l.filter fun a => a.pid ≠ pid).filterMap AppObject.owned? =
      (l.filterMap AppObject.owned?).filter fun e => e.pid ≠ pid := by
  have hpid : ∀ a : AppObject k, ∀ e ∈ a.owned?, e.pid = a.pid := by
    intro a e he
    unfold AppObject.owned? at he
    split at he
    · cases he
      rfl
    · cases he
  induction l with
  | nil => rfl
  | cons a l ih =>
      cases howned : a.owned? with
      | none =>
          rw [List.filterMap_cons_none howned, ← ih]
          by_cases hp : a.pid = pid
          · rw [List.filter_cons_of_neg (by simpa using hp)]
          · rw [List.filter_cons_of_pos (by simpa using hp), List.filterMap_cons_none howned]
      | some e =>
          have he : e.pid = a.pid := hpid a e howned
          rw [List.filterMap_cons_some howned]
          by_cases hp : a.pid = pid
          · rw [List.filter_cons_of_neg (by simpa using hp),
              List.filter_cons_of_neg (by simpa [he] using hp), ih]
          · rw [List.filter_cons_of_pos (by simpa using hp), List.filterMap_cons_some howned,
              List.filter_cons_of_pos (by simpa [he] using hp), ih]

/-- What is left of the list when the object at `i` has given its entry back. -/
theorem Owning.released (h : Owning x) {i : Nat} {a : AppObject k}
    (ha : (x.objects k)[i]? = some a) {s' : KernelState}
    (hrefs : s'.refs = if a.object.attached then
      Function.update x.kernel.refs k
        ((x.kernel.refs k).erase ⟨a.object.handle.token, a.pid⟩) else x.kernel.refs) :
    ∃ refs : List (ResourceRef k), s'.refs = Function.update x.kernel.refs k refs ∧
      refs.Perm (((x.objects k).eraseIdx i).filterMap AppObject.owned?) := by
  have hsplit := h.split ha
  by_cases hattached : a.object.attached = true
  · rw [if_pos hattached] at hrefs
    refine ⟨_, hrefs, ?_⟩
    rw [owned?_of_attached hattached] at hsplit
    refine (hsplit.erase _).trans ?_
    simp
  · rw [if_neg hattached] at hrefs
    refine ⟨x.kernel.refs k, by rw [hrefs, Function.update_eq_self], ?_⟩
    rw [owned?_of_detached (by simpa using hattached)] at hsplit
    exact hsplit

/-- A step of the system is a run of the manager, and keeps the objects and the lists together. -/
theorem Owning.step (h : Owning x) {op : AppOp} (hproper : Proper cfg x op)
    (hP : ∀ options ∈ op.options?, P options) (hexec : appExec cfg op x = some x') :
    Reachable (exec cfg) (OrderlyWith cfg P) x.kernel x'.kernel ∧ Owning x' := by
  -- the manager's side of the invariant follows from the run
  have hwhole : ∀ {s' : KernelState} {objects : (k : ResourceKind) → List (AppObject k)},
      Reachable (exec cfg) (OrderlyWith cfg P) x.kernel s' →
      (∀ k, (s'.refs k).Perm ((objects k).filterMap AppObject.owned?)) →
      Reachable (exec cfg) (OrderlyWith cfg P) x.kernel s' ∧ Owning ⟨s', objects⟩ :=
    fun hrun howned => ⟨hrun, balanced_of_runs h.balanced hrun, howned⟩
  cases op with
  | zeroed k pid =>
      cases hexec
      refine hwhole (Reachable.refl _) ?_
      refine owned_update h (Function.update_eq_self k _).symm ?_
      have hnone : (⟨pid, .zeroed k⟩ : AppObject k).owned? = none := owned?_of_detached rfl
      rw [List.filterMap_cons_none hnone]
      exact h.owned k
  | construct k pid rt id options f =>
      rcases Option.map_eq_some_iff.1 hexec with ⟨r, hr, rfl⟩
      rcases Option.map_eq_some_iff.1 hr with ⟨m, hm, rfl⟩
      rcases runs_objectClaim (hP options rfl) h.balanced hproper hm with
        ⟨hrun, ⟨hthrown, _, hrefs⟩ | ⟨hthrown, hattached, hrefs⟩⟩
      · -- the constructor throws, and there is no object
        simp only [hthrown, if_false]
        refine hwhole hrun ?_
        intro k'
        rw [hrefs]
        exact h.owned k'
      · simp only [hthrown, if_true]
        refine hwhole hrun (owned_update h hrefs ?_)
        have hnew : (⟨pid, m.object⟩ : AppObject k).owned? =
            some ⟨m.object.handle.token, pid⟩ := owned?_of_attached hattached
        rw [List.filterMap_cons_some hnew]
        exact (h.owned k).cons _
  | claimAndAttach k i rt id options f =>
      simp only [appExec] at hexec
      split at hexec
      · cases hexec
      · rename_i a ha
        rcases Option.map_eq_some_iff.1 hexec with ⟨m, hm, rfl⟩
        have hdetached := hproper.2 a ha
        have hsplit := h.split ha
        rw [owned?_of_detached hdetached] at hsplit
        have hset := (perm_set ha ⟨a.pid, m.object⟩).filterMap AppObject.owned?
        rcases runs_objectClaim (hP options rfl) h.balanced hproper.1 hm with
          ⟨hrun, ⟨_, hobject, hrefs⟩ | ⟨_, hattached, hrefs⟩⟩
        · have hsame : m.state.refs = Function.update x.kernel.refs k (x.kernel.refs k) := by
            rw [Function.update_eq_self]
            exact hrefs
          have hnone : (⟨a.pid, m.object⟩ : AppObject k).owned? = none := by
            rw [hobject]
            exact owned?_of_detached hdetached
          rw [List.filterMap_cons_none hnone] at hset
          exact hwhole hrun (owned_update h hsame (hsplit.trans hset.symm))
        · refine hwhole hrun (owned_update h hrefs ?_)
          have hnew : (⟨a.pid, m.object⟩ : AppObject k).owned? =
              some ⟨m.object.handle.token, a.pid⟩ := owned?_of_attached hattached
          rw [List.filterMap_cons_some hnew] at hset
          exact (hsplit.cons _).trans hset.symm
  | detachAndRelease k i rt detached io sys =>
      simp only [appExec] at hexec
      split at hexec
      · cases hexec
      · rename_i a ha
        rcases Option.map_eq_some_iff.1 hexec with ⟨r, hr, rfl⟩
        rcases runs_objectRelease (P := P) h.balanced (h.mem_refs ha) (hproper a ha) hr with
          ⟨hrun, hdetached, hrefs⟩
        rcases h.released ha hrefs with ⟨refs, hrefs', hperm⟩
        refine hwhole hrun (owned_update h hrefs' ?_)
        have hset := (perm_set ha ⟨a.pid, r.1⟩).filterMap AppObject.owned?
        have hnone : (⟨a.pid, r.1⟩ : AppObject k).owned? = none := owned?_of_detached hdetached
        rw [List.filterMap_cons_none hnone] at hset
        exact hperm.trans hset.symm
  | destroy k i rt detached io sys =>
      simp only [appExec] at hexec
      split at hexec
      · cases hexec
      · rename_i a ha
        rcases Option.map_eq_some_iff.1 hexec with ⟨r, hr, rfl⟩
        rcases runs_objectRelease (P := P) h.balanced (h.mem_refs ha) (hproper a ha) hr with
          ⟨hrun, _, hrefs⟩
        rcases h.released ha hrefs with ⟨refs, hrefs', hperm⟩
        exact hwhole hrun (owned_update h hrefs' hperm)
  | exit pid =>
      rcases Option.map_eq_some_iff.1 hexec with ⟨s', hs', rfl⟩
      have horderly : OrderlyWith cfg P x.kernel (.freeRefs pid) :=
        ⟨trivial, by rintro _ _ _ _ ⟨⟩⟩
      refine hwhole ((Reachable.refl _).tail horderly hs') ?_
      intro k
      rw [managerFreeRefsForPid_refs hs' k, filterMap_owned?_filter]
      exact (h.owned k).filter _
  | kernel a =>
      rcases Option.map_eq_some_iff.1 hexec with ⟨s', hs', rfl⟩
      rcases runs_driverStep (P := P) hproper hs' with ⟨hrun, hrefs⟩
      refine hwhole hrun ?_
      intro k
      rw [hrefs]
      exact h.owned k

end Steps

/-! ## Whole runs -/

instance {k : ResourceKind} (f : AcquireFaults k) : Decidable f.Clean :=
  inferInstanceAs (Decidable (_ ∧ (_ → _ ∧ _)))

instance (io : IoFaults) (sys : SysFaults) : Decidable (GetsThrough io sys) :=
  inferInstanceAs (Decidable (_ ∧ _ ∧ _))

instance (cfg : Config) (s : KernelState) : (a : Op) → Decidable (DriverStep cfg s a)
  | .fill p dev => inferInstanceAs (Decidable (Orderly cfg s (.fill p dev)))
  | .manage p out => inferInstanceAs (Decidable (Orderly cfg s (.manage p out)))
  | .release p out => inferInstanceAs (Decidable (Orderly cfg s (.release p out)))
  | .freeRefs _ => .isFalse id
  | .ioctl req io => inferInstanceAs (Decidable (req.Queries io))

instance (cfg : Config) (x : Applications) : (op : AppOp) → Decidable (Proper cfg x op)
  | .construct _ _ _ _ _ f => inferInstanceAs (Decidable f.Clean)
  | .claimAndAttach k i _ _ _ f => inferInstanceAs
      (Decidable (f.Clean ∧ ∀ a ∈ (x.objects k)[i]?, a.object.attached = false))
  | .detachAndRelease k i _ _ io sys | .destroy k i _ _ io sys => inferInstanceAs
      (Decidable (∀ a ∈ (x.objects k)[i]?, a.object.attached = true → GetsThrough io sys))
  | .kernel a => inferInstanceAs (Decidable (DriverStep cfg x.kernel a))
  | .zeroed _ _ | .exit _ => .isTrue trivial

instance (cfg : Config) (P : BitVec 32 → Prop) [DecidablePred P] (x : Applications) (op : AppOp) :
    Decidable (ProperWith cfg P x op) :=
  -- not by going through all the options that there are
  haveI : Decidable (∀ options ∈ op.options?, P options) :=
    match op.options? with
    | none => .isTrue (by simp)
    | some options => decidable_of_iff (P options) (by simp)
  inferInstanceAs (Decidable (Proper cfg x op ∧ ∀ options ∈ op.options?, P options))

/-- Process 2 waits for the region of process 1, which ends. -/
def Sample.waitsForExit : List AppOp :=
  [ .kernel (.manage 0 Sample.registered)
  , .construct .memregion 1 false (Sample.idOf "x") 0 Sample.working
  , .zeroed .memregion 2
  , .claimAndAttach .memregion 0 false (Sample.idOf "x") 0 Sample.working
  , .exit 1
  , .claimAndAttach .memregion 0 false (Sample.idOf "x") 0 Sample.working ]

section Runs

variable {cfg : Config} {s₀ : KernelState} {x : Applications}

/-- In a run of the system there is a run of the manager. -/
theorem owning_of_reachable {P : BitVec 32 → Prop} {Guard : Applications → AppOp → Prop}
    (hguard : ∀ {x op}, Guard x op → ProperWith cfg P x op) (hfresh : s₀.Fresh)
    (hrun : Reachable (appExec cfg) Guard ⟨s₀, fun _ => []⟩ x) :
    Owning x ∧ Reachable (exec cfg) (OrderlyWith cfg P) s₀ x.kernel := by
  have hinit : Owning ⟨s₀, fun _ => []⟩ := by
    refine ⟨⟨hfresh.tableInjective, hfresh.idle.balancedAt⟩, ?_⟩
    intro k
    rw [hfresh.refs]
    exact List.Perm.refl _
  refine hrun.invariant (I := fun x => Owning x ∧ Reachable (exec cfg) (OrderlyWith cfg P) s₀
    x.kernel) ⟨hinit, Reachable.refl s₀⟩ ?_
  intro x x' op h hstep hexec
  rcases hguard hstep with ⟨hproper, hP⟩
  rcases h.1.step hproper hP hexec with ⟨hrun', howning⟩
  exact ⟨howning, h.2.trans hrun'⟩

theorem Proper.with_true {op : AppOp} (h : Proper cfg x op) :
    ProperWith cfg (fun _ => True) x op :=
  ⟨h, fun _ _ => trivial⟩

/-- The entries for a resource are as many as its owners. -/
theorem Owning.countP_token (h : Owning x) {k : ResourceKind} (t : Token k) :
    ((x.kernel.refs k).countP fun e => e.token = t) =
      (x.objects k).countP fun a => decide (a.Owns t) := by
  rw [(h.owned k).countP_eq, List.countP_filterMap]
  refine List.countP_congr ?_
  intro a _
  cases hattached : a.object.attached with
  | true => simp [owned?_of_attached hattached, AppObject.Owns, hattached]
  | false => simp [owned?_of_detached hattached, AppObject.Owns, hattached]

/-- While all goes as `Proper` has it, the count of a managed resource is the number of objects that
are mapped or open on it.  What an object has is on a managed device, and no process can end in a
crash. -/
theorem objects_own_claims (cfg : Config) {s₀ : KernelState} {x : Applications}
    (hfresh : s₀.Fresh) (hrun : Reachable (appExec cfg) (Proper cfg) ⟨s₀, fun _ => []⟩ x) :
    (∀ (d : Slot) (p : DevPtr) (k : ResourceKind) (i : Fin k.max), x.kernel.devices d = some p →
      (x.kernel.heap p).refCount ⟨k, i⟩ =
        (x.objects k).countP fun a => decide (a.Owns ⟨d, i⟩)) ∧
    (∀ (k : ResourceKind) (t : Token k), ∀ a ∈ x.objects k, a.Owns t →
      x.kernel.devices t.deviceIndex ≠ none) ∧
    ∀ pid, (appExec cfg (.exit pid) x).isSome := by
  have h := (owning_of_reachable Proper.with_true hfresh hrun).1
  refine ⟨?_, ?_, ?_⟩
  · intro d p k i hd
    rw [countsEntries_of_balancedAt h.balanced.balancedAt d p k i hd]
    exact h.countP_token ⟨d, i⟩
  · rintro k t a ha ⟨hattached, rfl⟩
    have hmem : ⟨a.object.handle.token, a.pid⟩ ∈ x.kernel.refs k := by
      refine (h.owned k).mem_iff.2 (List.mem_filterMap.2 ⟨a, ha, ?_⟩)
      exact owned?_of_attached hattached
    exact h.balanced.devices_ne_none hmem
  · intro pid
    have hsome : (exec cfg (.freeRefs pid) x.kernel).isSome := h.balanced.exec_isSome trivial
    simpa [appExec, exec] using hsome

theorem objects_own_claims_waitsForExit :
    ∃ x, Reachable (appExec Sample.config) (Proper Sample.config) ⟨Sample.kernel, fun _ => []⟩ x ∧
      ((x.objects .memregion).map fun a => (a.pid, decide (a.Owns Sample.firstToken))) =
        [(2, true)] ∧
      (x.kernel.heap 0).refCount ⟨.memregion, 0⟩ = 1 := by
  have hrun : ∃ x, Reachable (appExec Sample.config) (Proper Sample.config)
      ⟨Sample.kernel, fun _ => []⟩ x ∧ (x.kernel.devices 0 = some 0 ∧
        ((x.objects .memregion).map fun a => (a.pid, decide (a.Owns Sample.firstToken))) =
          [(2, true)] ∧
        ((x.objects .memregion).countP fun a => decide (a.Owns Sample.firstToken)) = 1) :=
    exists_reachable_of_run Sample.waitsForExit (by decide +kernel)
  rcases hrun with ⟨x, hreach, hd, hmap, hcount⟩
  refine ⟨x, hreach, hmap, ?_⟩
  exact ((objects_own_claims Sample.config Sample.kernel_fresh hreach).1 0 0 .memregion 0 hd).trans
    hcount

/-! ## Exclusion -/

/-- A resource that was shared still is, or its device has been removed. -/
theorem sharedAt_of_orderly {s s' : KernelState} {a : Op} (hguard : Orderly cfg s a)
    (hexec : exec cfg a s = some s') {r : Res} (hr : s.SharedAt r) :
    s'.SharedAt r ∨ s'.devices r.1 = none := by
  cases a with
  | fill p dev =>
      left
      have hclient : ClientStep s (.fill p dev) := hguard
      exact sharedAt_of_exec hclient hexec hr
  | manage p out =>
      left
      have hclient : ClientStep s (.manage p out) := hguard
      exact sharedAt_of_exec hclient hexec hr
  | release p out =>
      cases hexec
      rcases deviceRelease_cases cfg s p out with ⟨_, hst⟩ | ⟨d, _, _, hst⟩
      · left
        rw [hst]
        exact hr
      · rw [hst]
        by_cases hd : r.1 = d
        · right
          simp [KernelState.setSlot, hd]
        · left
          rcases hr with ⟨q, hq, hs⟩
          exact ⟨q, by simpa [KernelState.setSlot, hd] using hq, hs⟩
  | ioctl req io => exact Or.inl ((sharedAt_of_sameShape (exec_ioctl_sameShape hexec) r).2 hr)
  | freeRefs pid =>
      exact Or.inl ((sharedAt_of_sameShape (managerFreeRefsForPid_sameShape hexec) r).2 hr)

/-- What is not shared is counted once at most. -/
structure AtMostOne (s : KernelState) : Prop where
  balanced : Balanced s
  count_le_one : ∀ r, ¬ s.SharedAt r → s.ledger.count r ≤ 1

theorem AtMostOne.exclusive {s : KernelState} (h : AtMostOne s) : Exclusive (s, s.ledger.held) :=
  ⟨h.balanced.tableInjective, rfl, fun r _ => h.balanced.balancedAt r, h.count_le_one⟩

theorem AtMostOne.step {s s' : KernelState} {a : Op} (h : AtMostOne s)
    (hguard : OrderlyWith cfg (fun options => options &&& claimfHostile = 0) s a)
    (hexec : exec cfg a s = some s') : AtMostOne s' := by
  refine ⟨h.balanced.step hguard.1 hexec, ?_⟩
  intro r hr
  by_cases hempty : s'.devices r.1 = none
  · rw [show s'.ledger.count r = 0 from countAt_of_empty hempty]
    exact Nat.zero_le 1
  · -- the resource was not shared before, since it has not been removed
    have hbefore : ¬ s.SharedAt r := by
      intro hs
      rcases sharedAt_of_orderly hguard.1 hexec hs with hs' | hnone
      · exact hr hs'
      · exact hempty hnone
    have hone := h.count_le_one r hbefore
    rw [exec_ledger h.balanced.tableInjective hguard.1.regular hexec]
    rcases ledgerAction_cases cfg s a with hidle | heffect
    · rw [hidle]
      exact hone
    · have hdrop : ∀ r, ledgerAction cfg s a ≠ .drop r := hguard.1.no_drop
      generalize ledgerAction cfg s a = action at heffect hdrop
      cases heffect with
      | claim hclaimed =>
          have hhostile := hguard.2 _ _ _ _ rfl
          exact h.exclusive.claim_count_le_one (by simpa [ClaimData.hostile] using hhostile)
            hclaimed hbefore
      | release _ _ => exact le_trans (Ledger.release_count_le _ _ _ _) hone
      | decrement _ _ => exact absurd rfl (hdrop _)
      | cleanup pid => exact le_trans (Nat.sub_le _ _) hone

/-- While all goes as `Proper` has it and nobody asks for HOSTILE, a managed resource without the
SHARED flag belongs to one object at most. -/
theorem objects_exclusive (cfg : Config) {s₀ : KernelState} {x : Applications} (hfresh : s₀.Fresh)
    (hrun : Reachable (appExec cfg)
      (ProperWith cfg fun options => options &&& claimfHostile = 0) ⟨s₀, fun _ => []⟩ x)
    (d : Slot) (p : DevPtr) (k : ResourceKind) (i : Fin k.max) (hd : x.kernel.devices d = some p)
    (hflag : (x.kernel.heap p).shared ⟨k, i⟩ = false) :
    ((x.objects k).countP fun a => decide (a.Owns ⟨d, i⟩)) ≤ 1 := by
  rcases owning_of_reachable id hfresh hrun with ⟨howning, hkernel⟩
  have hone : AtMostOne x.kernel := by
    refine hkernel.invariant ⟨⟨hfresh.tableInjective, hfresh.idle.balancedAt⟩, ?_⟩ ?_
    · intro r _
      exact (hfresh.idle.countAt r).le.trans (Nat.zero_le 1)
    · intro s s' a h hguard hexec
      exact h.step hguard hexec
  have hnot : ¬ x.kernel.SharedAt (d, ⟨k, i⟩) := by
    rintro ⟨q, hq, hs⟩
    cases hd.symm.trans hq
    simp [hflag] at hs
  calc ((x.objects k).countP fun a => decide (a.Owns ⟨d, i⟩))
      = (x.kernel.refs k).countP fun e => e.token = ⟨d, i⟩ := (howning.countP_token _).symm
    _ = (x.kernel.heap p).refCount ⟨k, i⟩ :=
        (countsEntries_of_balancedAt howning.balanced.balancedAt d p k i hd).symm
    _ = x.kernel.ledger.count (d, ⟨k, i⟩) := (countAt_of_devices (r := (d, ⟨k, i⟩)) hd).symm
    _ ≤ 1 := hone.count_le_one _ hnot

theorem objects_exclusive_waitsForExit :
    ∃ x, Reachable (appExec Sample.config)
        (ProperWith Sample.config fun options => options &&& claimfHostile = 0)
        ⟨Sample.kernel, fun _ => []⟩ x ∧
      (∃ a ∈ x.objects .memregion, a.Owns Sample.firstToken) ∧
      ((x.objects .memregion).countP fun a => decide (a.Owns Sample.firstToken)) ≤ 1 := by
  have hrun : ∃ x, Reachable (appExec Sample.config)
      (ProperWith Sample.config fun options => options &&& claimfHostile = 0)
      ⟨Sample.kernel, fun _ => []⟩ x ∧ (x.kernel.devices 0 = some 0 ∧
        (x.kernel.heap 0).shared ⟨.memregion, 0⟩ = false ∧
        ∃ a ∈ x.objects .memregion, a.Owns Sample.firstToken) :=
    exists_reachable_of_run Sample.waitsForExit (by decide +kernel)
  rcases hrun with ⟨x, hreach, hd, hflag, howner⟩
  exact ⟨x, hreach, howner,
    objects_exclusive Sample.config Sample.kernel_fresh hreach 0 0 .memregion 0 hd hflag⟩

/-! ## Busy resources -/

/-- Nothing fails that an acquisition calls. -/
def User.AcquireFaults.Works {k : ResourceKind} (f : AcquireFaults k) : Prop :=
  Succeeds f.claimIo ∧ f.claimSys.openErrno = none ∧ f.claimSys.closeErrno = none ∧
    f.attach.fails = false

section Busy

variable {s : KernelState} {k : ResourceKind} {rt : Bool} {pid : Pid} {id : ResourceId}
  {options : BitVec 32} {d : Slot} {p : DevPtr} {i : Fin k.max}

/-- The claim of a name that is found is refused, or it is put on record. -/
theorem resourceClaim_of_succeeds (cfg : Config) (rt : Bool) (pid : Pid) {io : IoFaults}
    {sys : SysFaults} (hlookup : managerLookup s k id = some (d, p, i))
    (hhostile : options &&& claimfHostile = 0) (hio : Succeeds io) (hopen : sys.openErrno = none) :
    (¬ Admitted s p ⟨k, i⟩ false ∧ ∃ r,
        User.resourceClaim cfg k rt pid id options io sys s = some r ∧ r.ret < 0) ∨
      (Admitted s p ⟨k, i⟩ false ∧
        User.resourceClaim cfg k rt pid id options io sys s = some (finishCall sys
          ⟨0, recorded s d p i pid, some (claimReply cfg (s.takeRef p ⟨k, i⟩) k rt d p i)⟩)) := by
  let data : ClaimData := ⟨userVersionCode, id, pid, options⟩
  have hnot : data.hostile = false := by
    simpa [ClaimData.hostile, data] using hhostile
  rcases hio with ⟨halloc, hcopy, hcopy', href⟩
  have hacc : Accepted (.claim k rt data) io := (accepted_iff rfl).2 ⟨halloc, hcopy⟩
  have hcmd : managerIoctl cfg s (.claim k rt data) io =
      some (ioctlClaimInfo cfg k true rt data io s) := managerIoctl_of_accepted hacc
  have hcall : User.resourceClaim cfg k rt pid id options io sys s =
      some (finishCall sys (ioctlClaimInfo cfg k true rt data io s)) := by
    simp only [User.resourceClaim, managerCall, hopen]
    exact congrArg (Option.map (finishCall sys)) hcmd
  rcases ioctlClaimInfo_claim_cases cfg k rt data io s with
    ⟨hneg, _, hno⟩ | ⟨d', p', i', hlookup', hadm, ⟨hfail, _, _⟩ | ⟨_, heq⟩⟩
  · left
    refine ⟨?_, _, hcall, finishCall_ret_neg hneg⟩
    have hrefused := hno d p i hlookup
    rwa [hnot] at hrefused
  · -- granting needs the two calls of which one fails here
    rcases hfail with hfail | hfail
    · cases hcopy'.symm.trans hfail
    · cases href.symm.trans hfail
  · right
    cases hlookup.symm.trans hlookup'
    rw [hnot] at hadm
    refine ⟨hadm, ?_⟩
    rw [hcall, heq]
    rfl

/-- An acquisition of which nothing fails comes down to the manager's decision. -/
theorem construct_of_works (cfg : Config) (rt : Bool) (pid : Pid) {f : AcquireFaults k}
    (hlookup : managerLookup s k id = some (d, p, i)) (hhostile : options &&& claimfHostile = 0)
    (hworks : f.Works) :
    ∃ o s', Object.construct cfg rt pid id options f s = some (o, s') ∧
      (o = none ↔ 0 < (s.heap p).refCount ⟨k, i⟩ ∧ (s.heap p).shared ⟨k, i⟩ = false) ∧
      ∀ o' ∈ o, (⟨pid, o'⟩ : AppObject k).Owns ⟨d, i⟩ := by
  rcases hworks with ⟨hio, hopen, hclose, hattach⟩
  have hbusy : ¬ Admitted s p ⟨k, i⟩ false ↔
      0 < (s.heap p).refCount ⟨k, i⟩ ∧ (s.heap p).shared ⟨k, i⟩ = false := by
    simp [Admitted, Nat.pos_iff_ne_zero]
  rw [← hbusy]
  rcases resourceClaim_of_succeeds cfg rt pid hlookup hhostile hio hopen
    with ⟨hno, r, hr, hret⟩ | ⟨hadm, hclaim⟩
  · refine ⟨none, r.state, ?_, by simpa using hno, by simp⟩
    simp [Object.construct, Object.claimAndAttach, claimAndAttach_of_refused hr hret, hret]
  · rcases replyInfo_infoReply cfg ((s.takeRef p ⟨k, i⟩).heap p) rt ⟨d, i⟩ with
      ⟨info, hinfo, htoken⟩
    rcases attach_of_not_fails info hattach with ⟨_, handle, hhandle, hsame⟩
    have hres := claimAndAttach_of_not_fails hclose hclaim hinfo hattach
    refine ⟨some ⟨handle, true⟩, recorded s d p i pid, ?_, by simpa using hadm, ?_⟩
    · simp [Object.construct, Object.claimAndAttach, hres, hhandle]
    · rintro _ ⟨⟩
      exact ⟨rfl, hsame.trans htoken⟩

end Busy

/-- While all goes as `Proper` has it, an acquisition of which nothing fails throws exactly when the
resource that it names is not shared and some object has it. -/
theorem busy_iff_owned (cfg : Config) {s₀ : KernelState} {x : Applications} (hfresh : s₀.Fresh)
    (hrun : Reachable (appExec cfg) (Proper cfg) ⟨s₀, fun _ => []⟩ x) (k : ResourceKind) (rt : Bool)
    (pid : Pid) (id : ResourceId) (options : BitVec 32) (f : AcquireFaults k) {d : Slot}
    {p : DevPtr} {i : Fin k.max} (hlookup : managerLookup x.kernel k id = some (d, p, i))
    (hhostile : options &&& claimfHostile = 0) (hworks : f.Works) :
    ∃ o s', Object.construct cfg rt pid id options f x.kernel = some (o, s') ∧
      (o = none ↔ (x.kernel.heap p).shared ⟨k, i⟩ = false ∧ ∃ a ∈ x.objects k, a.Owns ⟨d, i⟩) ∧
      ∀ o' ∈ o, (⟨pid, o'⟩ : AppObject k).Owns ⟨d, i⟩ := by
  have howning := (owning_of_reachable Proper.with_true hfresh hrun).1
  have hslot : x.kernel.devices d = some p := (managerLookup_eq_some hlookup).1
  have hcount : (x.kernel.heap p).refCount ⟨k, i⟩ =
      (x.objects k).countP fun a => decide (a.Owns ⟨d, i⟩) := by
    rw [countsEntries_of_balancedAt howning.balanced.balancedAt d p k i hslot]
    exact howning.countP_token ⟨d, i⟩
  rcases construct_of_works cfg rt pid hlookup hhostile hworks with
    ⟨o, s', hconstruct, hnone, howns⟩
  refine ⟨o, s', hconstruct, ?_, howns⟩
  rw [hnone, hcount, List.countP_pos_iff, and_comm]
  simp only [decide_eq_true_eq]

/-- While process 2 has the region, nobody else gets it. -/
theorem busy_iff_owned_waitsForExit :
    ∃ x, Reachable (appExec Sample.config) (Proper Sample.config) ⟨Sample.kernel, fun _ => []⟩ x ∧
      ∃ s', Object.construct Sample.config false 3 (Sample.idOf "x") 0 Sample.working x.kernel =
        some (none, s') := by
  have hrun : ∃ x, Reachable (appExec Sample.config) (Proper Sample.config)
      ⟨Sample.kernel, fun _ => []⟩ x ∧
        (managerLookup x.kernel .memregion (Sample.idOf "x") = some (0, 0, 0) ∧
        (x.kernel.heap 0).shared ⟨.memregion, 0⟩ = false ∧
        ∃ a ∈ x.objects .memregion, a.Owns Sample.firstToken) :=
    exists_reachable_of_run Sample.waitsForExit (by decide +kernel)
  rcases hrun with ⟨x, hreach, hlookup, hbusy⟩
  have hworks : Sample.working.Works := ⟨⟨rfl, rfl, rfl, rfl⟩, rfl, rfl, rfl⟩
  rcases busy_iff_owned Sample.config Sample.kernel_fresh hreach .memregion false 3
    (Sample.idOf "x") 0 Sample.working hlookup (by decide) hworks with ⟨o, s', hres, hnone, _⟩
  cases hnone.2 hbusy
  exact ⟨x, hreach, s', hres⟩

end Runs

end Cuddl
