import Cuddl.Properties.Balance
import Cuddl.User.Processes

/-!
# Clean-up over process trees

Claims carry the pid of their process, and a janitor file cleans up after the pid that was
registered on it.  When every process that exits with claims has an open janitor file under its own
pid, nothing is left once all processes have terminated (`no_claims_left`).  A child that claims
under its own pid, with no file but the one of its parent, leaves its claims behind
(`child_claims_left`).
-/

namespace Cuddl

open Foundation Foundation.Machine

/-- Some list entry carries the pid. -/
def Processes.HasClaims (x : Processes) (p : Pid) : Prop :=
  ∃ k : ResourceKind, ∃ e ∈ x.kernel.refs k, e.pid = p

/-- Some open janitor file will clean up after the pid. -/
def Processes.Registered (x : Processes) (p : Pid) : Prop :=
  ∃ f ∈ x.files, f.privateData = some p

/-- Processes release only what they hold. -/
def ReleasesHeld (x : Processes) : ProcOp → Prop
  | .release p k _ token _ _ => ⟨token, p⟩ ∈ x.kernel.refs k
  | _ => True

/-- Moreover, a process that exits with claims is registered. -/
def RegisteredStep (x : Processes) (a : ProcOp) : Prop :=
  ReleasesHeld x a ∧ ∀ p, a = .exit p → x.HasClaims p → x.Registered p

/-! ## The invariant -/

/-- Behind every list entry there is a process that runs or a file that cleans up. -/
structure Tended (x : Processes) : Prop where
  balanced : Balanced x.kernel
  tended : ∀ p, x.HasClaims p → p ∈ x.running ∨ x.Registered p
  held : ∀ f ∈ x.files, f.holders ≠ []

/-- The only new entry after a claim is that of its own process. -/
theorem mem_refs_of_claim {cfg : Config} {s : KernelState} {k k' : ResourceKind} {rt : Bool}
    {data : ClaimData} {io : IoFaults} {res : IoctlResult} (hinj : TableInjective s)
    (hres : managerIoctl cfg s (.claim k rt data) io = some res) {e : ResourceRef k'}
    (he : e ∈ res.state.refs k') : e ∈ s.refs k' ∨ e.pid = data.pid := by
  rcases managerIoctl_claim hinj hres with ⟨_, _, hrefs⟩ | ⟨_, t, p, _, _, _, _, hrefs⟩
  · left
    rwa [hrefs] at he
  · rw [hrefs] at he
    by_cases hk : k' = k
    · subst hk
      rw [Function.update_self] at he
      rcases List.mem_cons.1 he with rfl | hold
      · exact Or.inr rfl
      · exact Or.inl hold
    · rw [Function.update_of_ne hk] at he
      exact Or.inl he

theorem mem_refs_of_release {cfg : Config} {s : KernelState} {k k' : ResourceKind} {rt : Bool}
    {data : ReleaseData} {io : IoFaults} {res : IoctlResult} (hinj : TableInjective s)
    (hres : managerIoctl cfg s (.release k rt data) io = some res) {e : ResourceRef k'}
    (he : e ∈ res.state.refs k') : e ∈ s.refs k' := by
  rcases managerIoctl_release hinj hres with ⟨_, hst⟩ | ⟨_, t, p, _, _, _, hrefs⟩
  · rwa [hst] at he
  · rw [hrefs] at he
    by_cases hk : k' = k
    · subst hk
      rw [Function.update_self] at he
      exact List.mem_of_mem_erase he
    · rwa [Function.update_of_ne hk] at he

/-! ## Calls of a running process -/

section Calls

variable {cfg : Config} {x : Processes} {p : Pid} {k : ResourceKind} {rt : Bool} {io : IoFaults}
  {sys : SysFaults} {r : CallResult}

/-- A kernel state whose new claims are all of the running process `p`. -/
theorem Tended.of_refs {s : KernelState} (h : Tended x) (hbal : Balanced s)
    (hrefs : ∀ (k : ResourceKind), ∀ e ∈ s.refs k, e ∈ x.kernel.refs k ∨ e.pid ∈ x.running) :
    Tended { x with kernel := s } := by
  refine ⟨hbal, ?_, h.held⟩
  rintro q ⟨k, e, he, rfl⟩
  rcases hrefs k e he with hold | hrun
  · exact h.tended e.pid ⟨k, e, hold, rfl⟩
  · exact Or.inl hrun

theorem Tended.claim {id : ResourceId} {options : BitVec 32} (h : Tended x)
    (hrun : p ∈ x.running)
    (hr : User.resourceClaim cfg k rt p id options io sys x.kernel = some r) :
    Tended { x with kernel := r.state } := by
  rcases managerCall_state hr with hst | ⟨res, hres, hst⟩
  · rw [hst]
    exact h
  · rw [hst]
    refine h.of_refs (h.balanced.step ?_ (exec_ioctl hres)) ?_
    · trivial
    · intro k' e he
      rcases mem_refs_of_claim h.balanced.tableInjective hres he with hold | hown
      · exact Or.inl hold
      · right
        rwa [hown]

theorem Tended.release {token : Token k} (h : Tended x) (hheld : ⟨token, p⟩ ∈ x.kernel.refs k)
    (hr : User.resourceReleaseByToken cfg k rt p token io sys x.kernel = some r) :
    Tended { x with kernel := r.state } := by
  rcases managerCall_state hr with hst | ⟨res, hres, hst⟩
  · rw [hst]
    exact h
  · rw [hst]
    have hheld' : (User.releaseData token p).Held k x.kernel :=
      ⟨token, User.token?_releaseData token p, hheld⟩
    refine h.of_refs (h.balanced.step ?_ (exec_ioctl hres)) ?_
    · exact hheld'
    · intro k' e he
      exact Or.inl (mem_refs_of_release h.balanced.tableInjective hres he)

end Calls

/-! ## Files and processes -/

section Files

variable {x : Processes}

/-- What keeps the running processes, the registrations and the kernel keeps the invariant. -/
theorem Tended.of_files {running : List Pid} {files : List JanitorFile} (h : Tended x)
    (hrunning : ∀ p, x.HasClaims p → p ∈ x.running → p ∈ running ∨ x.Registered p)
    (hfiles : ∀ p, x.Registered p → ∃ f ∈ files, f.privateData = some p)
    (hheld : ∀ f ∈ files, f.holders ≠ []) :
    Tended { x with running := running, files := files } := by
  refine ⟨h.balanced, ?_, hheld⟩
  intro p hclaims
  rcases h.tended p hclaims with hrun | hreg
  · rcases hrunning p hclaims hrun with hrun' | hreg
    · exact Or.inl hrun'
    · exact Or.inr (hfiles p hreg)
  · exact Or.inr (hfiles p hreg)

theorem Tended.fork (h : Tended x) (p child : Pid) :
    Tended
      { x with
        running := child :: x.running
        files := x.files.map (JanitorFile.inherit p child) } := by
  refine h.of_files ?_ ?_ ?_
  · intro q _ hq
    exact Or.inl (List.mem_cons_of_mem _ hq)
  · rintro q ⟨f, hf, hdata⟩
    refine ⟨f.inherit p child, List.mem_map_of_mem hf, ?_⟩
    unfold JanitorFile.inherit
    split
    · exact hdata
    · exact hdata
  · intro f hf
    rcases List.mem_map.1 hf with ⟨g, hg, rfl⟩
    unfold JanitorFile.inherit
    split
    · simp
    · exact h.held g hg

theorem Tended.exit {p : Pid} (h : Tended x) (hreg : x.HasClaims p → x.Registered p) :
    Tended { x with running := x.running.filter (· ≠ p) } := by
  refine h.of_files ?_ (fun q hq => hq) h.held
  intro q hclaims hq
  by_cases hqp : q = p
  · subst hqp
    exact Or.inr (hreg hclaims)
  · left
    exact List.mem_filter.2 ⟨hq, by simpa using hqp⟩

/-- A close that is not the last one leaves the registration in place. -/
theorem Tended.close {f : JanitorFile} {i : Nat} {holders : List Pid} (h : Tended x)
    (hf : x.files[i]? = some f) (hholders : holders ≠ []) :
    Tended { x with files := x.files.set i { f with holders := holders } } := by
  have hlt : i < x.files.length := (List.getElem?_eq_some_iff.1 hf).1
  refine h.of_files (fun q _ hq => Or.inl hq) ?_ ?_
  · rintro q ⟨g, hg, hdata⟩
    rcases List.mem_iff_getElem?.1 hg with ⟨j, hj⟩
    -- the file that was written to keeps its registration
    by_cases hij : i = j
    · subst hij
      cases hf.symm.trans hj
      exact ⟨_, List.mem_set hlt _, hdata⟩
    · refine ⟨g, List.mem_iff_getElem?.2 ⟨j, ?_⟩, hdata⟩
      rw [List.getElem?_set_ne hij, hj]
  · intro g hg
    rcases List.mem_or_eq_of_mem_set hg with hold | rfl
    · exact h.held g hold
    · exact hholders

/-- The last close of a file cleans up after the pid registered on it, so the other entries do not
need the file. -/
theorem Tended.lastClose (cfg : Config) {f : JanitorFile} {i : Nat} {s : KernelState}
    (h : Tended x) (hf : x.files[i]? = some f)
    (hs : janitorRelease f.privateData x.kernel = some s) :
    Tended { x with kernel := s, files := x.files.eraseIdx i } := by
  -- the entries that are left are old ones, and none is of the pid of the file
  have hkernel : Balanced s ∧ ∀ (k : ResourceKind), ∀ e ∈ s.refs k,
      e ∈ x.kernel.refs k ∧ f.privateData ≠ some e.pid := by
    cases hdata : f.privateData with
    | none =>
        rw [hdata] at hs
        cases hs
        exact ⟨h.balanced, fun k e he => ⟨he, by simp⟩⟩
    | some q =>
        rw [hdata] at hs
        have hexec : exec cfg (.freeRefs q) x.kernel = some s := hs
        have hguard : Orderly cfg x.kernel (.freeRefs q) := trivial
        refine ⟨h.balanced.step hguard hexec, ?_⟩
        intro k e he
        rw [managerFreeRefsForPid_refs hs] at he
        rcases List.mem_filter.1 he with ⟨hold, hne⟩
        refine ⟨hold, ?_⟩
        intro heq
        exact of_decide_eq_true hne (Option.some.inj heq).symm
  refine ⟨hkernel.1, ?_, ?_⟩
  · rintro q ⟨k, e, he, rfl⟩
    rcases hkernel.2 k e he with ⟨hold, hne⟩
    rcases h.tended e.pid ⟨k, e, hold, rfl⟩ with hrun | ⟨g, hg, hdata⟩
    · exact Or.inl hrun
    · -- a file that is registered for this entry is not the one that goes
      right
      rcases List.mem_iff_getElem?.1 hg with ⟨j, hj⟩
      have hij : j ≠ i := by
        rintro rfl
        cases hf.symm.trans hj
        exact hne hdata
      exact ⟨g, List.mem_eraseIdx_iff_getElem?.2 ⟨j, hij, hj⟩, hdata⟩
  · intro g hg
    exact h.held g (List.mem_of_mem_eraseIdx hg)

end Files

/-! ## Whole runs -/

theorem Tended.step {cfg : Config} {x x' : Processes} {a : ProcOp} (h : Tended x)
    (hguard : RegisteredStep x a) (hexec : procExec cfg a x = some x') : Tended x' := by
  rcases hguard with ⟨hreleases, hexit⟩
  cases a with
  | start p =>
      by_cases huse : x.InUse p
      · simp [procExec, huse] at hexec
      · simp only [procExec, huse, if_false, Option.some.injEq] at hexec
        subst hexec
        exact h.of_files (fun q _ hq => Or.inl (List.mem_cons_of_mem _ hq)) (fun q hq => hq) h.held
  | load p out =>
      by_cases hrun : p ∈ x.running
      · simp only [procExec, hrun, if_true, Option.some.injEq] at hexec
        subst hexec
        refine h.of_files (fun q _ hq => Or.inl hq) ?_ ?_
        · rintro q ⟨f, hf, hdata⟩
          exact ⟨f, List.mem_append_right _ hf, hdata⟩
        · intro f hf
          rcases List.mem_append.1 hf with hnew | hold
          · -- the new file is held by the process that opened it
            unfold openJanitor at hnew
            split at hnew
            · simp at hnew
            · have heq := List.mem_singleton.1 hnew
              rw [heq]
              simp
          · exact h.held f hold
      · simp [procExec, hrun] at hexec
  | fork p child =>
      by_cases hfork : p ∈ x.running ∧ ¬ x.InUse child
      · simp only [procExec, hfork, not_false_eq_true, and_self, if_true,
          Option.some.injEq] at hexec
        subst hexec
        exact h.fork p child
      · simp only [procExec, if_neg hfork] at hexec
        cases hexec
  | claim p k rt id options io sys =>
      by_cases hrun : p ∈ x.running
      · simp only [procExec, hrun, if_true] at hexec
        rcases Option.map_eq_some_iff.1 hexec with ⟨r, hr, rfl⟩
        exact h.claim hrun hr
      · simp [procExec, hrun] at hexec
  | release p k rt token io sys =>
      by_cases hrun : p ∈ x.running
      · simp only [procExec, hrun, if_true] at hexec
        rcases Option.map_eq_some_iff.1 hexec with ⟨r, hr, rfl⟩
        exact h.release hreleases hr
      · simp [procExec, hrun] at hexec
  | exit p =>
      by_cases hrun : p ∈ x.running
      · simp only [procExec, hrun, if_true, Option.some.injEq] at hexec
        subst hexec
        exact h.exit (hexit p rfl)
      · simp [procExec, hrun] at hexec
  | close p i =>
      cases hf : x.files[i]? with
      | none => simp [procExec, hf] at hexec
      | some f =>
          by_cases hno : p ∈ x.running ∨ p ∉ f.holders
          · simp only [procExec, hf, if_pos hno] at hexec
            cases hexec
          · by_cases hlast : f.holders.filter (· ≠ p) = []
            · simp only [procExec, hf, if_neg hno, hlast, if_true] at hexec
              rcases Option.map_eq_some_iff.1 hexec with ⟨s, hs, rfl⟩
              exact h.lastClose cfg hf hs
            · simp only [procExec, hf, if_neg hno, hlast, if_false, Option.some.injEq] at hexec
              subst hexec
              exact h.close hf hlast

/-- Before the first process starts. -/
def Processes.boot (s : KernelState) : Processes :=
  { kernel := s, running := [], files := [] }

theorem tended_of_reachable {cfg : Config} {s₀ : KernelState} {x : Processes} (hidle : s₀.Idle)
    (hrun : Reachable (procExec cfg) RegisteredStep (Processes.boot s₀) x) : Tended x := by
  refine hrun.invariant ⟨⟨hidle.tableInjective, hidle.balancedAt⟩, ?_, ?_⟩ ?_
  · rintro p ⟨k, e, he, _⟩
    have he' : e ∈ s₀.refs k := he
    simp [hidle.refs k] at he'
  · intro f hf
    cases hf
  · intro x x' a h hguard hexec
    exact h.step hguard hexec

/-- When every process that exits with claims has an open janitor file under its own pid, both lists
are empty and every count is zero once all processes have terminated. -/
theorem no_claims_left (cfg : Config) {s₀ : KernelState} {x : Processes} (hidle : s₀.Idle)
    (hrun : Reachable (procExec cfg) RegisteredStep (Processes.boot s₀) x)
    (hdone : x.Terminated) :
    (∀ k, x.kernel.refs k = []) ∧
      ∀ (d : Slot) (p : DevPtr) (i : ResIdx), x.kernel.devices d = some p →
        (x.kernel.heap p).refCount i = 0 := by
  have htended := tended_of_reachable hidle hrun
  -- an entry would have a running process or a file with a holder behind it
  have hempty : ∀ k, x.kernel.refs k = [] := by
    intro k
    refine List.eq_nil_iff_forall_not_mem.2 ?_
    intro e he
    rcases htended.tended e.pid ⟨k, e, he, rfl⟩ with hrunning | ⟨f, hf, _⟩
    · simp [hdone.running] at hrunning
    · exact htended.held f hf (hdone.files f hf)
  refine ⟨hempty, ?_⟩
  intro d p i hd
  have hcount : x.kernel.ledger.count (d, i) = (x.kernel.heap p).refCount i :=
    countAt_of_devices (r := (d, i)) hd
  have hheld := held_eq_zero hempty
  calc
    (x.kernel.heap p).refCount i
        = x.kernel.ledger.count (d, i) := hcount.symm
    _ = x.kernel.ledger.entries (d, i) := htended.balanced.balancedAt _
    _ = 0 := by
        unfold Ledger.entries
        rw [hheld]
        rfl

instance (x : Processes) (p : Pid) : Decidable (x.HasClaims p) :=
  decidable_of_iff
    ((∃ e ∈ x.kernel.refs .memregion, e.pid = p) ∨ ∃ e ∈ x.kernel.refs .eventsrc, e.pid = p) <| by
      constructor
      · rintro (hmem | hevt)
        · exact ⟨.memregion, hmem⟩
        · exact ⟨.eventsrc, hevt⟩
      · rintro ⟨k, hk⟩
        cases k with
        | memregion => exact Or.inl hk
        | eventsrc => exact Or.inr hk

instance (x : Processes) (p : Pid) : Decidable (x.Registered p) :=
  inferInstanceAs (Decidable (∃ f ∈ x.files, f.privateData = some p))

instance (x : Processes) : (a : ProcOp) → Decidable (ReleasesHeld x a)
  | .release p k _ token _ _ => inferInstanceAs (Decidable (⟨token, p⟩ ∈ x.kernel.refs k))
  | .start _ | .load _ _ | .fork _ _ | .claim _ _ _ _ _ _ _ | .exit _ | .close _ _ =>
      .isTrue trivial

/-- The process that exits in this action, if one does. -/
def ProcOp.exits? : ProcOp → Option Pid
  | .exit p => some p
  | _ => none

theorem ProcOp.exits?_eq_some_iff {a : ProcOp} {p : Pid} :
    a.exits? = some p ↔ a = .exit p := by
  cases a with
  | exit q => simp [ProcOp.exits?]
  | _ => simp [ProcOp.exits?]

instance (x : Processes) (a : ProcOp) : Decidable (RegisteredStep x a) :=
  decidable_of_iff
    (ReleasesHeld x a ∧ ∀ p ∈ a.exits?, x.HasClaims p → x.Registered p) <| by
      simp only [RegisteredStep, Option.mem_def, ProcOp.exits?_eq_some_iff]

namespace Sample

def janitorOpens : JanitorOutcome :=
  { opened := .ok 3, faults := { copyFromUserFails := false, kzallocFails := false } }

def procClaim (p : Pid) : ProcOp :=
  .claim p .memregion false ⟨[], [], [], 0⟩ 0 noFaults ⟨none, none⟩

end Sample

/-- The child of process 1 loads the library itself, claims, and outlives its parent. -/
theorem no_claims_left_reload :
    ∃ x : Processes, (x.running = [] ∧ x.files = [] ∧ x.kernel.devices 0 = some 0) ∧
      x.kernel.refs .memregion = [] ∧ (x.kernel.heap 0).refCount ⟨.memregion, 0⟩ = 0 := by
  have hrun : ∃ x, Reachable (procExec Sample.config) RegisteredStep
      (Processes.boot Sample.managed) x ∧
      (x.running = [] ∧ x.files = [] ∧ x.kernel.devices 0 = some 0) :=
    exists_reachable_of_run
      [ .start 1
      , .load 1 Sample.janitorOpens
      , .fork 1 2
      , .load 2 Sample.janitorOpens
      , Sample.procClaim 2
      , .exit 1
      , .close 1 1
      , .exit 2
      , .close 2 0
      , .close 2 0 ] (by decide +kernel)
  rcases hrun with ⟨x, hreach, hrunning, hfiles, hslot⟩
  have hdone : x.Terminated := ⟨hrunning, by simp [hfiles]⟩
  have hleft := no_claims_left Sample.config Sample.managed_idle hreach hdone
  exact ⟨x, ⟨hrunning, hfiles, hslot⟩, hleft.1 _, hleft.2 0 0 _ hslot⟩

/-- The child of process 1 claims and exits; nobody has registered its pid. -/
theorem child_claims_left :
    ∃ x, Reachable (procExec Sample.config) ReleasesHeld
        (Processes.boot Sample.managed) x ∧
      (x.running = [] ∧ x.files = [] ∧ x.kernel.refs .memregion = [⟨⟨0, 0⟩, 2⟩] ∧
        (x.kernel.heap 0).refCount ⟨.memregion, 0⟩ = 1) :=
  exists_reachable_of_run
    [ .start 1
    , .load 1 Sample.janitorOpens
    , .fork 1 2
    , Sample.procClaim 2
    , .exit 2
    , .close 2 0
    , .exit 1
    , .close 1 0 ] (by decide +kernel)

end Cuddl
