import Cuddl.Kernel.Modules

/-!
# What the modules hold

One triple for each program of `Kernel.Modules`: it gives nothing back that it does not hold, it
computes what the function without blocks computes, and its blocks are those of the list entries
that it leaves.
-/

namespace Cuddl

open Foundation Foundation.Resources

variable {pre : Multiset (Item Block)}

/-! ## Loading and unloading -/

/-- The variables name what is held when an initialisation has come so far. -/
inductive CharDeviceVars.Holds (c : CharDevice) (v : CharDeviceVars) :
    InitFailure → Multiset (Item Block) → Prop
  | nothing : Holds c v .allocChrdev 0
  | region {d : Nat} (dev : v.dev = some d) : Holds c v .cdevAdd {⟨d, .chrdevRegion c⟩}
  | cdev {d : Nat} {m : Multiset (Item Block)} (below : Holds c v .cdevAdd m)
      (cdev : v.cdev = some d) : Holds c v .classCreate (⟨d, .cdev c⟩ ::ₘ m)
  | deviceClass {d : Nat} {m : Multiset (Item Block)} (below : Holds c v .classCreate m)
      (deviceClass : v.deviceClass = some d) :
      Holds c v .deviceCreate (⟨d, .deviceClass c⟩ ::ₘ m)
  | device {d : Nat} {m : Multiset (Item Block)} (below : Holds c v .deviceCreate m)
      (device : v.device = some d) : Holds c v .noFailure (⟨d, .deviceNode c⟩ ::ₘ m)

/-- The kinds of what an initialised character device holds. -/
def CharDevice.blocks (c : CharDevice) : Multiset Block :=
  {.deviceNode c, .deviceClass c, .cdev c, .chrdevRegion c}

theorem CharDeviceVars.Holds.kinds {c : CharDevice} {v : CharDeviceVars}
    {m : Multiset (Item Block)} (h : v.Holds c .noFailure m) : m.map Item.kind = c.blocks := by
  cases h with
  | device h _ =>
      cases h with
      | deviceClass h _ =>
          cases h with
          | cdev h _ =>
              cases h with
              | region _ => rfl

theorem spec_giveBack {k : Block} {v : Option Nat} {id : Nat} (h : v = some id) :
    Spec (⟨id, k⟩ ::ₘ pre) (giveBack k v) fun _ m => m = pre := by
  subst h
  exact Spec.release _

/-- An initialisation fails with what it has taken in its variables, or succeeds with all of it. -/
theorem spec_charDeviceInit (c : CharDevice) (out : InitOutcome) (v : CharDeviceVars) :
    Spec pre (charDeviceInit c out v) fun r m =>
      ∃ taken, m = taken + pre ∧ r.2.2.Holds c r.2.1 taken ∧
        ((r.1 = 0 ∧ r.2.1 = .noFailure) ∨ (r.1 < 0 ∧ r.2.1 ≠ .noFailure)) := by
  unfold charDeviceInit
  by_cases hregion : out.allocChrdevRegion < 0
  · simp only [hregion, if_true]
    exact Spec.pure ⟨0, by simp, .nothing, Or.inr ⟨hregion, by simp⟩⟩
  · simp only [hregion, if_false]
    refine Spec.bind (Spec.acquire _) ?_
    rintro d m rfl
    by_cases hcdev : out.cdevAdd < 0
    · simp only [hcdev, if_true]
      exact Spec.pure ⟨_, by simp, .region rfl, Or.inr ⟨hcdev, by simp⟩⟩
    · simp only [hcdev, if_false]
      refine Spec.bind (Spec.acquire _) ?_
      rintro cd m rfl
      by_cases hclass : out.classCreateFails = true
      · simp only [hclass, if_true]
        exact Spec.pure ⟨_, by simp, .cdev (.region rfl) rfl,
          Or.inr ⟨by simp [Errno.ENODEV], by simp⟩⟩
      · simp only [hclass]
        refine Spec.bind (Spec.acquire _) ?_
        rintro cl m rfl
        by_cases hdevice : out.deviceCreateFails = true
        · simp only [hdevice, if_true]
          exact Spec.pure ⟨_, by simp, .deviceClass (.cdev (.region rfl) rfl) rfl,
            Or.inr ⟨by simp [Errno.ENODEV], by simp⟩⟩
        · simp only [hdevice]
          refine Spec.bind (Spec.acquire _) ?_
          rintro n m rfl
          exact Spec.pure ⟨_, by simp, .device (.deviceClass (.cdev (.region rfl) rfl) rfl) rfl,
            Or.inl ⟨rfl, rfl⟩⟩

/-- A clean-up gives back what the variables name, the newest first. -/
theorem spec_charDeviceCleanup {c : CharDevice} {v : CharDeviceVars} {failure : InitFailure}
    {taken : Multiset (Item Block)} (h : v.Holds c failure taken) :
    Spec (taken + pre) (charDeviceCleanup c v failure) fun _ m => m = pre := by
  -- induction on how far the initialisation came: each case is a step more than the one before
  induction h with
  | nothing => exact Spec.pure (by simp)
  | region hdev =>
      rw [Multiset.singleton_add]
      exact spec_giveBack hdev
  | cdev _ hcdev ih =>
      rw [Multiset.cons_add]
      refine Spec.bind (spec_giveBack hcdev) ?_
      rintro _ m rfl
      exact ih
  | deviceClass _ hclass ih =>
      rw [Multiset.cons_add]
      refine Spec.bind (spec_giveBack hclass) ?_
      rintro _ m rfl
      exact ih
  | device _ hdevice ih =>
      rw [Multiset.cons_add]
      refine Spec.bind (spec_giveBack hdevice) ?_
      rintro _ m rfl
      exact ih

/-- The variables of a loaded manager name what it holds. -/
inductive ManagerVars.Holds (v : ManagerVars) : Multiset (Item Block) → Prop
  | intro {ptr : Nat} {m : Multiset (Item Block)} (globalManagerPtr : v.globalManagerPtr = some ptr)
      (char : v.char.Holds .manager .noFailure m) : Holds v (m + {⟨ptr, .globalManager⟩})

/-- The kinds of what a loaded manager holds. -/
def managerBlocks : Multiset Block :=
  CharDevice.manager.blocks + {.globalManager}

theorem ManagerVars.Holds.kinds {v : ManagerVars} {m : Multiset (Item Block)} (h : v.Holds m) :
    m.map Item.kind = managerBlocks := by
  cases h with
  | intro _ hchar => rw [Multiset.map_add, hchar.kinds, managerBlocks, Multiset.map_singleton]

/-- The clean-up of the manager, after a failure that comes behind its `kzalloc` or at the end. -/
theorem spec_managerCleanup {v : ManagerVars} {failure : InitFailure} {ptr : Nat}
    {taken : Multiset (Item Block)} (hptr : v.globalManagerPtr = some ptr)
    (h : v.char.Holds .manager failure taken) :
    Spec (taken + ⟨ptr, .globalManager⟩ ::ₘ pre) (managerCleanup v failure) fun _ m => m = pre := by
  unfold managerCleanup
  refine Spec.bind (spec_charDeviceCleanup h) ?_
  rintro _ m rfl
  have hgive : Spec (⟨ptr, .globalManager⟩ ::ₘ pre)
      (giveBack .globalManager v.globalManagerPtr) fun _ m => m = pre := spec_giveBack hptr
  cases h with
  | nothing => exact Spec.bind hgive fun _ m hm => Spec.pure hm
  | region _ => exact Spec.bind hgive fun _ m hm => Spec.pure hm
  | cdev _ _ => exact Spec.bind hgive fun _ m hm => Spec.pure hm
  | deviceClass _ _ => exact Spec.bind hgive fun _ m hm => Spec.pure hm
  | device _ _ => exact Spec.bind hgive fun _ m hm => Spec.pure hm

/-- `cuddlk_manager_init` fails and gives everything back, or succeeds and holds all it needs. -/
theorem spec_managerInit (out : InitOutcome) (v : ManagerVars) :
    Spec pre (managerInit out v) fun r m =>
      (r.1 < 0 ∧ m = pre) ∨ (r.1 = 0 ∧ ∃ taken, m = taken + pre ∧ r.2.Holds taken) := by
  unfold managerInit
  refine Spec.bind (Spec.tryAcquire _ _) ?_
  rintro x m (⟨_, rfl, rfl⟩ | ⟨_, ptr, rfl, rfl⟩)
  · -- nothing has been taken, and the clean-up does nothing
    have hnothing : Spec m (managerCleanup { v with globalManagerPtr := none } .allocManager)
        fun _ m' => m' = m := by
      refine Spec.bind (Q := fun _ m' => m' = m) (Spec.pure rfl) ?_
      rintro _ _ rfl
      exact Spec.pure rfl
    exact Spec.bind hnothing fun _ m' hm =>
      Spec.pure (Or.inl ⟨by simp [Errno.ENOMEM], hm⟩)
  · refine Spec.bind (spec_charDeviceInit .manager out v.char) ?_
    rintro ⟨ret, failure, char⟩ m ⟨taken, rfl, hholds, ⟨hret, hfailure⟩ | ⟨hret, hfailure⟩⟩
    · dsimp only at hret hfailure hholds ⊢
      subst hfailure
      refine Spec.pure (Or.inr ⟨hret, _, ?_, .intro rfl hholds⟩)
      rw [add_assoc, Multiset.singleton_add]
    · have hclean : Spec (taken + ⟨ptr, .globalManager⟩ ::ₘ pre)
          (managerCleanup { globalManagerPtr := some ptr, char := char } failure)
          fun _ m => m = pre := spec_managerCleanup rfl hholds
      cases failure with
      | noFailure => exact absurd rfl hfailure
      | _ => exact Spec.bind hclean fun _ m hm => Spec.pure (Or.inl ⟨hret, hm⟩)

/-- `cuddlk_janitor_init` likewise. -/
theorem spec_janitorInit (out : InitOutcome) (v : CharDeviceVars) :
    Spec pre (janitorInit out v) fun r m =>
      (r.1 < 0 ∧ m = pre) ∨
        (r.1 = 0 ∧ ∃ taken, m = taken + pre ∧ r.2.Holds .janitor .noFailure taken) := by
  unfold janitorInit
  refine Spec.bind (spec_charDeviceInit .janitor out v) ?_
  rintro ⟨ret, failure, char⟩ m ⟨taken, rfl, hholds, ⟨hret, hfailure⟩ | ⟨hret, hfailure⟩⟩
  · dsimp only at hret hfailure hholds ⊢
    subst hfailure
    exact Spec.pure (Or.inr ⟨hret, taken, rfl, hholds⟩)
  · have hclean : Spec (taken + pre) (charDeviceCleanup .janitor char failure)
        fun _ m => m = pre := spec_charDeviceCleanup hholds
    cases failure with
    | noFailure => exact absurd rfl hfailure
    | _ => exact Spec.bind hclean fun _ m hm => Spec.pure (Or.inl ⟨hret, hm⟩)

/-! ## List entries -/

/-- The blocks of a list. -/
def blocksOf {k : ResourceKind} (l : List (Entry k)) : Multiset (Item Block) :=
  (l.map Entry.block : List (Item Block))

@[simp] theorem blocksOf_nil {k : ResourceKind} : blocksOf ([] : List (Entry k)) = 0 := rfl

@[simp] theorem blocksOf_cons {k : ResourceKind} (e : Entry k) (l : List (Entry k)) :
    blocksOf (e :: l) = e.block ::ₘ blocksOf l := rfl

theorem map_kind_blocksOf {k : ResourceKind} (l : List (Entry k)) :
    (blocksOf l).map Item.kind = Multiset.replicate l.length (.ref k) := by
  induction l with
  | nil => rfl
  | cons e rest ih =>
      rw [blocksOf_cons, Multiset.map_cons, ih, List.length_cons, Multiset.replicate_succ]
      rfl

theorem spec_freeEntries {k : ResourceKind} (l : List (Entry k)) :
    Spec (blocksOf l + pre) (freeEntries l) fun _ m => m = pre := by
  induction l with
  | nil => exact Spec.pure (by simp)
  | cons pos rest ih =>
      rw [blocksOf_cons, Multiset.cons_add]
      refine Spec.bind (Spec.release _) ?_
      rintro _ m rfl
      exact ih

/-- A claim allocates the entry that it lists, and computes what it computes without it. -/
theorem spec_claimInfoEntries {cfg : Config} {k : ResourceKind} {claim rt : Bool}
    {data : ClaimData} {io : IoFaults} {s : KernelState} {l : List (Entry k)}
    (hlinked : s.refs k = l.map Entry.ref) :
    Spec (blocksOf l + pre) (claimInfoEntries cfg k claim rt data io s l) fun r m =>
      m = blocksOf r.2 + pre ∧ r.1 = ioctlClaimInfo cfg k claim rt data io s ∧
        r.1.state.refs = Function.update s.refs k (r.2.map Entry.ref) := by
  have hsame : s.refs = Function.update s.refs k (l.map Entry.ref) := by
    rw [← hlinked, Function.update_eq_self]
  unfold claimInfoEntries ioctlClaimInfo
  cases hfind : managerLookup s k data.id with
  | none => exact Spec.pure ⟨rfl, rfl, hsame⟩
  | some found =>
      rcases found with ⟨slot, dev, i⟩
      dsimp only
      generalize hclaimed : (if claim = true then kindClaim k s dev i data.hostile else (0, s)) =
        claimed
      -- neither the claim nor the decrement touches a list
      have hrefs : claimed.2.refs = s.refs := by
        rw [← hclaimed]
        split
        · rcases resourceClaim_cases s dev ⟨k, i⟩ data.hostile with ⟨hres, _⟩ | ⟨hres, _⟩
          · simp [hres]
          · simp [hres]
        · rfl
      have hdecr : (kindDecrRefCount k claimed.2 dev i).2.refs = s.refs := by
        rw [kindDecrRefCount_eq, resourceDecrRefCount_refs, hrefs]
      split
      · exact Spec.pure ⟨rfl, rfl, hrefs.trans hsame⟩
      · split
        · exact Spec.pure ⟨rfl, rfl, hdecr.trans hsame⟩
        · split
          · refine Spec.bind (Spec.tryAcquire _ _) ?_
            rintro x m (⟨hfails, rfl, rfl⟩ | ⟨hfails, addr, rfl, rfl⟩)
            · exact Spec.pure ⟨rfl, by simp [hfails], hdecr.trans hsame⟩
            · refine Spec.pure ⟨?_, by simp [hfails], ?_⟩
              · rw [blocksOf_cons, Multiset.cons_add]
                rfl
              · rw [KernelState.setRefs_refs, hrefs, hlinked]
                rfl
          · exact Spec.pure ⟨rfl, rfl, hrefs.trans hsame⟩

theorem spec_strikeEntry {k : ResourceKind} (ref : ResourceRef k) (l : List (Entry k)) :
    Spec (blocksOf l + pre) (strikeEntry ref l) fun r m =>
      m = blocksOf r + pre ∧ r.map Entry.ref = (l.map Entry.ref).erase ref := by
  induction l generalizing pre with
  | nil => exact Spec.pure ⟨rfl, rfl⟩
  | cons pos rest ih =>
      unfold strikeEntry
      by_cases hpos : pos.ref = ref
      · simp only [hpos, if_true, blocksOf_cons, Multiset.cons_add]
        refine Spec.bind (Spec.release _) ?_
        rintro _ m rfl
        exact Spec.pure ⟨rfl, by simp [hpos]⟩
      · simp only [hpos, if_false, blocksOf_cons, Multiset.cons_add]
        rw [← Multiset.add_cons]
        refine Spec.bind ih ?_
        rintro r m ⟨rfl, herase⟩
        refine Spec.pure ⟨?_, ?_⟩
        · rw [blocksOf_cons, Multiset.cons_add, Multiset.add_cons]
        · rw [List.map_cons, List.map_cons, List.erase_cons_tail (by simpa using hpos), herase]

/-- A release frees the entry that it strikes. -/
theorem spec_releaseEntries {k : ResourceKind} {data : ReleaseData} {s : KernelState}
    {l : List (Entry k)} (hlinked : s.refs k = l.map Entry.ref) :
    Spec (blocksOf l + pre) (releaseEntries k data s l) fun r m =>
      m = blocksOf r.2 + pre ∧ r.1 = ioctlRelease k data s ∧
        r.1.state.refs = Function.update s.refs k (r.2.map Entry.ref) := by
  have hsame : s.refs = Function.update s.refs k (l.map Entry.ref) := by
    rw [← hlinked, Function.update_eq_self]
  unfold releaseEntries ioctlRelease
  cases inRange maxManagedDevices data.deviceIndex with
  | none => exact Spec.pure ⟨rfl, rfl, hsame⟩
  | some slot =>
      dsimp only
      cases s.devices slot with
      | none => exact Spec.pure ⟨rfl, rfl, hsame⟩
      | some dev =>
          dsimp only
          cases inRange k.max data.resourceIndex with
          | none => exact Spec.pure ⟨rfl, rfl, hsame⟩
          | some i =>
              dsimp only
              refine Spec.bind (spec_strikeEntry _ l) ?_
              rintro r m ⟨rfl, herase⟩
              refine Spec.pure ⟨rfl, ?_, ?_⟩
              · rw [herase, kindDecrRefCount_eq, resourceDecrRefCount_refs, hlinked]
              · rw [KernelState.setRefs_refs, kindDecrRefCount_eq, resourceDecrRefCount_refs]

/-! ## The manager ioctl -/

namespace ManagerState

/-- The blocks of both lists. -/
def blocks (m : ManagerState) : Multiset (Item Block) :=
  blocksOf (m.entries .memregion) + blocksOf (m.entries .eventsrc)

/-- The lists of the manager are those of its entries. -/
def Linked (m : ManagerState) : Prop :=
  ∀ k, m.kernel.refs k = (m.entries k).map Entry.ref

/-- One list is exchanged, the other one stays. -/
theorem blocks_setEntries (m : ManagerState) (k : ResourceKind) :
    ∃ rest, m.blocks = blocksOf (m.entries k) + rest ∧
      ∀ s l, (m.setEntries k s l).blocks = blocksOf l + rest := by
  cases k with
  | memregion => exact ⟨blocksOf (m.entries .eventsrc), rfl, fun s l => rfl⟩
  | eventsrc =>
      exact ⟨blocksOf (m.entries .memregion), add_comm _ _, fun s l => add_comm _ _⟩

theorem Linked.setEntries {m : ManagerState} (h : m.Linked) {k : ResourceKind} {s : KernelState}
    {l : List (Entry k)}
    (hrefs : s.refs = Function.update m.kernel.refs k (l.map Entry.ref)) :
    (m.setEntries k s l).Linked := by
  intro k'
  by_cases hk : k' = k
  · subst hk
    simp [ManagerState.setEntries, hrefs]
  · simpa [ManagerState.setEntries, hrefs, hk] using h k'

end ManagerState

/-- `cuddlk_manager_exit` frees the entries that are left, and what the manager holds. -/
theorem spec_managerExit {m : ManagerState} {v : ManagerVars} {taken : Multiset (Item Block)}
    (h : v.Holds taken) :
    Spec (m.blocks + (taken + pre)) (managerExit m v) fun _ p => p = pre := by
  unfold managerExit ManagerState.blocks
  rw [add_assoc]
  refine Spec.bind (spec_freeEntries _) ?_
  rintro _ p rfl
  refine Spec.bind (spec_freeEntries _) ?_
  rintro _ p rfl
  cases h with
  | intro hptr hchar =>
      rw [add_assoc, Multiset.singleton_add]
      exact spec_managerCleanup hptr hchar

variable {cfg : Config} {io : IoFaults} {m : ManagerState} {req : Request}

/-- What a program on one list does to the manager. -/
theorem spec_setEntries {k : ResourceKind} {x : Prog Block (IoctlResult × List (Entry k))}
    {expected : IoctlResult} (hlinked : m.Linked)
    (hx : ∀ {pre}, Spec (blocksOf (m.entries k) + pre) x fun r p =>
      p = blocksOf r.2 + pre ∧ r.1 = expected ∧
        r.1.state.refs = Function.update m.kernel.refs k (r.2.map Entry.ref)) :
    Spec (m.blocks + pre) (x >>= fun r => pure (r.1, m.setEntries k r.1.state r.2)) fun r p =>
      p = r.2.blocks + pre ∧ expected = r.1 ∧ r.2.kernel = r.1.state ∧ r.2.Linked := by
  rcases m.blocks_setEntries k with ⟨rest, hblocks, hset⟩
  rw [hblocks, add_assoc]
  refine Spec.bind hx ?_
  rintro ⟨res, l⟩ p ⟨rfl, hres, hrefs⟩
  exact Spec.pure ⟨by rw [hset, add_assoc], hres.symm, rfl, hlinked.setEntries hrefs⟩

theorem spec_commandEntries {res : IoctlResult} (hlinked : m.Linked)
    (h : ioctlCommand cfg m.kernel io req = some res) :
    Spec (m.blocks + pre) (commandEntries cfg io m req) fun r p =>
      p = r.2.blocks + pre ∧ res = r.1 ∧ r.2.kernel = r.1.state ∧ r.2.Linked := by
  by_cases hw : req.Writes
  · cases req with
    | claim k rt data =>
        cases h
        exact spec_setEntries hlinked (spec_claimInfoEntries (hlinked k))
    | info k data =>
        cases h
        exact spec_setEntries hlinked (spec_claimInfoEntries (hlinked k))
    | release k rt data =>
        cases h
        exact spec_setEntries hlinked (spec_releaseEntries (hlinked k))
    | decrementRefCount k v id =>
        -- a decrement counts down without the list
        have hprog : commandEntries cfg io m (.decrementRefCount k v id) =
            pure (res, { m with kernel := res.state }) := by
          simp [commandEntries, h]
        rw [hprog]
        refine Spec.pure ⟨rfl, rfl, rfl, ?_⟩
        intro k'
        have hkept : res.state.refs = m.kernel.refs := by
          rcases ioctlRefCount_decrement_cases k id m.kernel with ⟨_, _, hst⟩ | ⟨_, _, _, _, _, hst⟩
          · cases h
            rw [hst]
          · cases h
            rw [hst, resourceDecrRefCount_refs]
        exact (congrFun hkept k').trans (hlinked k')
    | _ => exact absurd hw id
  · have hstate := ioctlCommand_state_of_not_writes hw h
    have hprog : commandEntries cfg io m req = pure (res, { m with kernel := res.state }) := by
      cases req with
      | claim _ _ _ | info _ _ | release _ _ _ => exact absurd trivial hw
      | _ => simp [commandEntries, h]
    rw [hprog, hstate]
    exact Spec.pure ⟨rfl, rfl, hstate.symm, hlinked⟩

theorem crashes_commandEntries (h : ioctlCommand cfg m.kernel io req = none) :
    Crashes pre (commandEntries cfg io m req) := by
  have hprog : commandEntries cfg io m req = failure := by
    cases req with
    | claim _ _ _ | info _ _ | release _ _ _ => cases h
    | _ => simp [commandEntries, h]
  rw [hprog]
  exact Crashes.failure

theorem bufferOutcome_neg {refused : Buffer → Bool} {b : Block} (h : bufferOutcome refused b < 0) :
    bufferOutcome refused b = -Errno.ENOMEM := by
  cases b with
  | buffer b =>
      by_cases hrefused : refused b = true
      · simp [bufferOutcome, hrefused]
      · simp [bufferOutcome, hrefused] at h
  | _ => simp [bufferOutcome] at h

/-- Some `kzalloc` at the start fails. -/
theorem exists_bufferOutcome_neg_iff {refused : Buffer → Bool} :
    (∃ b ∈ Buffer.all.map Block.buffer, bufferOutcome refused b < 0) ↔
      Buffer.all.any refused = true := by
  rw [List.any_eq_true]
  constructor
  · rintro ⟨b, hb, hneg⟩
    rcases List.mem_map.1 hb with ⟨b, hmem, rfl⟩
    refine ⟨b, hmem, ?_⟩
    by_contra hok
    simp [bufferOutcome, hok] at hneg
  · rintro ⟨b, hmem, hrefused⟩
    exact ⟨_, List.mem_map_of_mem hmem, by simp [bufferOutcome, hrefused, Errno.ENOMEM]⟩

/-- The outcomes of the allocations, as the functions without blocks see them. -/
def IoFaults.withBuffers (io : IoFaults) (refused : Buffer → Bool) : IoFaults :=
  { io with kzallocFails := Buffer.all.any refused }

theorem ioctlCommand_withBuffers (cfg : Config) (s : KernelState) (io : IoFaults)
    (refused : Buffer → Bool) (req : Request) :
    ioctlCommand cfg s (io.withBuffers refused) req = ioctlCommand cfg s io req := by
  cases req <;> rfl

theorem spec_lockedEntries {refused : Buffer → Bool} {res : IoctlResult} (hlinked : m.Linked)
    (hbuffers : Buffer.all.any refused = false)
    (h : managerIoctl cfg m.kernel req (io.withBuffers refused) = some res) :
    Spec (m.blocks + pre) (lockedEntries cfg io m req) fun r p =>
      p = r.2.blocks + pre ∧ res = r.1 ∧ r.2.kernel = r.1.state ∧ r.2.Linked := by
  have hcommand : ∀ {res}, ioctlCommand cfg m.kernel (io.withBuffers refused) req = some res →
      Spec (m.blocks + pre) (commandEntries cfg io m req) fun r p =>
        p = r.2.blocks + pre ∧ res = r.1 ∧ r.2.kernel = r.1.state ∧ r.2.Linked := by
    intro res hres
    rw [ioctlCommand_withBuffers] at hres
    exact spec_commandEntries hlinked hres
  unfold managerIoctl at h
  unfold lockedEntries
  simp only [IoFaults.withBuffers, hbuffers, Bool.false_eq_true, if_false] at h
  cases hv : req.versionCode? with
  | none =>
      rw [hv] at h
      exact hcommand h
  | some v =>
      rw [hv] at h
      dsimp only at h ⊢
      split at h
      · rename_i hcopy
        cases h
        simp only [hcopy, if_true]
        exact Spec.pure ⟨rfl, rfl, rfl, hlinked⟩
      · rename_i hcopy
        simp only [hcopy]
        split at h
        · rename_i hcompat
          cases h
          simp only [hcompat, if_true]
          exact Spec.pure ⟨rfl, rfl, rfl, hlinked⟩
        · rename_i hcompat
          simp only [hcompat]
          exact hcommand h

/-- The buffers of one ioctl, taken from among whatever is held. -/
theorem spec_buffers (refused : Buffer → Bool) :
    Spec pre (acquireAll (bufferOutcome refused) (Buffer.all.map .buffer) []) fun r p =>
      (Buffer.all.any refused = false ∧ r.1 = 0 ∧ p = (r.2 : Multiset (Item Block)) + pre) ∨
        (Buffer.all.any refused = true ∧ r.1 = -Errno.ENOMEM ∧ p = pre) := by
  have hnil : (([] : List (Item Block)) : Multiset (Item Block)) + pre = pre := zero_add pre
  rw [← hnil]
  refine (Spec.acquireAll _ _ _).mono ?_
  rintro r p (⟨hall, hret, hp, _⟩ | ⟨b, hb, hneg, rfl, hp⟩)
  · refine Or.inl ⟨?_, hret, by rw [hp, hnil]⟩
    rw [Bool.eq_false_iff, Ne, ← exists_bufferOutcome_neg_iff]
    rintro ⟨b, hb, hneg⟩
    exact absurd hneg (not_lt.2 (hall b hb))
  · refine Or.inr ⟨?_, bufferOutcome_neg hneg, by rw [hp, hnil]⟩
    exact exists_bufferOutcome_neg_iff.1 ⟨b, hb, hneg⟩

/-- The ioctl gives back its buffers on every path, computes what it computes without blocks, and
leaves the blocks of its list entries. -/
theorem spec_managerIoctlEntries {refused : Buffer → Bool} {res : IoctlResult}
    (hlinked : m.Linked)
    (h : managerIoctl cfg m.kernel req (io.withBuffers refused) = some res) :
    Spec (m.blocks + pre) (managerIoctlEntries cfg m req io refused) fun r p =>
      p = r.2.blocks + pre ∧ res = r.1 ∧ r.2.kernel = r.1.state ∧ r.2.Linked := by
  unfold managerIoctlEntries
  refine Spec.bind (spec_buffers refused) ?_
  rintro ⟨ret, buffers⟩ p (⟨hgot, rfl, rfl⟩ | ⟨hrefused, rfl, rfl⟩)
  · simp only [lt_irrefl, if_false]
    rw [add_left_comm]
    refine Spec.bind (spec_lockedEntries hlinked hgot h) ?_
    rintro ⟨res', m'⟩ p ⟨rfl, hres, hkernel, hlinked'⟩
    rw [add_left_comm]
    refine Spec.bind (Spec.releaseAll buffers) ?_
    rintro _ p rfl
    exact Spec.pure ⟨rfl, hres, hkernel, hlinked'⟩
  · -- nothing has been looked at yet
    have hfail : managerIoctl cfg m.kernel req (io.withBuffers refused) =
        some ⟨-Errno.ENOMEM, m.kernel, none⟩ := by
      simp [managerIoctl, IoFaults.withBuffers, hrefused]
    cases hfail.symm.trans h
    exact Spec.pure ⟨rfl, rfl, rfl, hlinked⟩

/-- It crashes where the ioctl without blocks does. -/
theorem crashes_managerIoctlEntries {refused : Buffer → Bool}
    (h : managerIoctl cfg m.kernel req (io.withBuffers refused) = none) :
    Crashes pre (managerIoctlEntries cfg m req io refused) := by
  have hacc : Accepted req (io.withBuffers refused) := by
    by_contra hacc
    rcases managerIoctl_of_not_accepted hacc with ⟨e, _, hall⟩
    cases (hall cfg m.kernel).symm.trans h
  rw [managerIoctl_of_accepted hacc, ioctlCommand_withBuffers] at h
  have hlocked : ∀ {pre}, Crashes pre (lockedEntries cfg io m req) := by
    intro pre
    unfold lockedEntries
    cases hv : req.versionCode? with
    | none => exact crashes_commandEntries h
    | some v =>
        rcases hacc.2 v hv with ⟨hcopy, hcompat⟩
        have hcopy' : io.copyFromUserFails = false := hcopy
        simp only [hcopy', hcompat]
        exact crashes_commandEntries h
  unfold managerIoctlEntries
  refine Crashes.after (spec_buffers refused) ?_
  rintro ⟨ret, buffers⟩ p (⟨_, rfl, _⟩ | ⟨hrefused, _, _⟩)
  · simp only [lt_irrefl, if_false]
    exact Crashes.bind hlocked _
  · have hgot : Buffer.all.any refused = false := hacc.1
    rw [hgot] at hrefused
    cases hrefused

/-! ## Cleaning up after a process -/

/-- A clean-up frees the entries that it takes off the list. -/
theorem spec_freeEntriesLoop {k : ResourceKind} {pid : Pid} {l : List (Entry k)}
    {s s' : KernelState} {kept : List (ResourceRef k)}
    (h : freeRefsLoop pid (l.map Entry.ref) s = some (kept, s')) :
    Spec (blocksOf l + pre) (freeEntriesLoop pid l s) fun r p =>
      p = blocksOf r.1 + pre ∧ r.1.map Entry.ref = kept ∧ r.2 = s' := by
  induction l generalizing pre s kept with
  | nil =>
      cases h
      exact Spec.pure ⟨rfl, rfl, rfl⟩
  | cons pos rest ih =>
      rw [List.map_cons] at h
      unfold freeEntriesLoop
      rcases freeRefsLoop_cons h with ⟨hpid, dev, hslot, hrest⟩ | ⟨hpid, kept', rfl, hrest⟩
      · simp only [hpid, if_true, hslot, blocksOf_cons, Multiset.cons_add]
        refine Spec.bind (Spec.release _) ?_
        rintro _ p rfl
        rw [kindDecrRefCount_eq]
        exact ih hrest
      · simp only [hpid, if_false, blocksOf_cons, Multiset.cons_add]
        rw [← Multiset.add_cons]
        refine Spec.bind (ih hrest) ?_
        rintro ⟨l', t⟩ p ⟨rfl, hkept, rfl⟩
        refine Spec.pure ⟨?_, ?_, rfl⟩
        · rw [blocksOf_cons, Multiset.cons_add, Multiset.add_cons]
        · rw [List.map_cons, hkept]

theorem crashes_freeEntriesLoop {k : ResourceKind} {pid : Pid} {l : List (Entry k)}
    {s : KernelState} (h : freeRefsLoop pid (l.map Entry.ref) s = none) :
    Crashes (blocksOf l + pre) (freeEntriesLoop pid l s) := by
  induction l generalizing pre s with
  | nil => cases h
  | cons pos rest ih =>
      rw [List.map_cons] at h
      unfold freeEntriesLoop
      unfold freeRefsLoop at h
      rw [blocksOf_cons, Multiset.cons_add]
      by_cases hpid : pos.ref.pid = pid
      · simp only [hpid, if_true] at h ⊢
        cases hslot : s.devices pos.ref.token.deviceIndex with
        | none => exact Crashes.failure
        | some dev =>
            rw [hslot] at h
            refine Crashes.after (Spec.release _) ?_
            rintro _ p rfl
            exact ih h
      · simp only [hpid, if_false, Option.map_eq_none_iff] at h ⊢
        rw [← Multiset.add_cons]
        exact Crashes.bind (ih h) _

theorem spec_freeEntriesOfKind {k : ResourceKind} {pid : Pid} {s' : KernelState}
    (hlinked : m.Linked) (h : freeRefs k pid m.kernel = some s') :
    Spec (m.blocks + pre) (freeEntriesOfKind k pid m) fun r p =>
      p = r.blocks + pre ∧ r.kernel = s' ∧ r.Linked := by
  rcases m.blocks_setEntries k with ⟨rest, hblocks, hset⟩
  rcases Option.map_eq_some_iff.1 h with ⟨⟨kept, t⟩, hloop, rfl⟩
  have hrefs : t.refs = m.kernel.refs := (freeRefsLoop_sameShape hloop).2
  rw [hlinked k] at hloop
  unfold freeEntriesOfKind
  rw [hblocks, add_assoc]
  refine Spec.bind (spec_freeEntriesLoop hloop) ?_
  rintro ⟨l', t'⟩ p ⟨rfl, rfl, rfl⟩
  refine Spec.pure ⟨by rw [hset, add_assoc], rfl, hlinked.setEntries ?_⟩
  rw [KernelState.setRefs_refs, hrefs]

theorem crashes_freeEntriesOfKind {k : ResourceKind} {pid : Pid} (hlinked : m.Linked)
    (h : freeRefs k pid m.kernel = none) :
    Crashes (m.blocks + pre) (freeEntriesOfKind k pid m) := by
  rcases m.blocks_setEntries k with ⟨rest, hblocks, _⟩
  rw [freeRefs, Option.map_eq_none_iff, hlinked k] at h
  rw [hblocks, add_assoc]
  exact Crashes.bind (crashes_freeEntriesLoop h) _

theorem spec_freeEntriesForPid {pid : Pid} {s' : KernelState} (hlinked : m.Linked)
    (h : managerFreeRefsForPid m.kernel pid = some s') :
    Spec (m.blocks + pre) (freeEntriesForPid m pid) fun r p =>
      p = r.blocks + pre ∧ r.kernel = s' ∧ r.Linked := by
  rcases Option.bind_eq_some_iff.1 h with ⟨s₁, hmem, hevt⟩
  refine Spec.bind (spec_freeEntriesOfKind hlinked hmem) ?_
  rintro m' p ⟨rfl, rfl, hlinked'⟩
  exact spec_freeEntriesOfKind hlinked' hevt

theorem crashes_freeEntriesForPid {pid : Pid} (hlinked : m.Linked)
    (h : managerFreeRefsForPid m.kernel pid = none) :
    Crashes (m.blocks + pre) (freeEntriesForPid m pid) := by
  cases hmem : freeRefs .memregion pid m.kernel with
  | none => exact Crashes.bind (crashes_freeEntriesOfKind hlinked hmem) _
  | some s₁ =>
      rw [managerFreeRefsForPid, hmem] at h
      refine Crashes.after (spec_freeEntriesOfKind hlinked hmem) ?_
      rintro m' p ⟨rfl, rfl, hlinked'⟩
      exact crashes_freeEntriesOfKind hlinked' h

/-! ## Janitor files -/

/-- The block that a `private_data` names. -/
def dataBlocks : Option PrivateData → Multiset (Item Block)
  | none => 0
  | some d => {d.block}

/-- The block that loses its name to an ioctl. -/
def overwritten (register : Bool) (faults : JanitorFaults) (old : Option PrivateData) :
    Multiset (Item Block) :=
  if overwrites register faults old then dataBlocks old else 0

theorem map_kind_overwritten (register : Bool) (faults : JanitorFaults)
    (old : Option PrivateData) :
    (overwritten register faults old).map Item.kind =
      Multiset.replicate (overwrites register faults old).toNat .pid := by
  cases old with
  | none => simp [overwritten, overwrites]
  | some d =>
      by_cases hover : overwrites register faults (some d) = true
      · simp [overwritten, hover, dataBlocks, PrivateData.block]
      · simp [overwritten, hover]

/-- A registration allocates the block of its pid, and leaves the block that was named before
without a name. -/
theorem spec_janitorIoctlData (register : Bool) (pid : Pid) (faults : JanitorFaults)
    (old : Option PrivateData) :
    Spec (dataBlocks old + pre) (janitorIoctlData register pid faults old) fun r p =>
      (r.1, r.2.map PrivateData.pid) =
          janitorIoctl register pid faults (old.map PrivateData.pid) ∧
        p = dataBlocks r.2 + (overwritten register faults old + pre) := by
  cases register with
  | false => exact Spec.pure ⟨rfl, by simp [overwritten, overwrites]⟩
  | true =>
      cases hcopy : faults.copyFromUserFails with
      | true =>
          simp only [janitorIoctlData, janitorIoctl, hcopy]
          exact Spec.pure ⟨rfl, by simp [overwritten, overwrites, hcopy]⟩
      | false =>
          have hlost : overwritten true faults old = dataBlocks old := by
            cases old with
            | none => simp [overwritten, dataBlocks]
            | some d => simp [overwritten, overwrites, hcopy]
          rw [hlost]
          simp only [janitorIoctlData, janitorIoctl, hcopy]
          refine Spec.bind (Spec.tryAcquire _ _) ?_
          rintro x p (⟨hfails, rfl, rfl⟩ | ⟨hfails, addr, rfl, rfl⟩)
          · exact Spec.pure ⟨by simp [hfails], by simp [dataBlocks]⟩
          · refine Spec.pure ⟨by simp [hfails], ?_⟩
            rw [dataBlocks, Multiset.singleton_add]
            rfl

/-- Closing a file cleans up after the pid that is registered on it, and frees its block. -/
theorem spec_janitorReleaseData {old : Option PrivateData} {s' : KernelState}
    (hlinked : m.Linked)
    (h : janitorRelease (old.map PrivateData.pid) m.kernel = some s') :
    Spec (m.blocks + (dataBlocks old + pre)) (janitorReleaseData old m) fun r p =>
      p = r.blocks + pre ∧ r.kernel = s' ∧ r.Linked := by
  cases old with
  | none =>
      cases h
      exact Spec.pure ⟨by simp [dataBlocks], rfl, hlinked⟩
  | some d =>
      refine Spec.bind (spec_freeEntriesForPid hlinked h) ?_
      rintro m' p ⟨rfl, hkernel, hlinked'⟩
      rw [dataBlocks, Multiset.singleton_add, Multiset.add_cons]
      refine Spec.bind (Spec.release _) ?_
      rintro _ p rfl
      exact Spec.pure ⟨rfl, hkernel, hlinked'⟩

theorem crashes_janitorReleaseData {old : Option PrivateData} (hlinked : m.Linked)
    (h : janitorRelease (old.map PrivateData.pid) m.kernel = none) :
    Crashes (m.blocks + (dataBlocks old + pre)) (janitorReleaseData old m) := by
  cases old with
  | none => cases h
  | some d => exact Crashes.bind (crashes_freeEntriesForPid hlinked h) _

end Cuddl
