import Cuddl.Properties.CleanUp

/-!
# The exact effect of a clean-up

`cuddlk_manager_free_refs_for_pid` walks two lists and decrements what their entries name.  Single
decrements commute, so the walk is one decrement for each entry of the process, in any order
(`managerFreeRefsForPid_eq`).  Hence a second clean-up has nothing left to do, and the clean-ups of
two processes may change places.
-/

namespace Cuddl

/-! ## One entry -/

/-- The decrement that an entry for `r` causes; the clean-up stops at an empty slot. -/
def dropAt (s : KernelState) (r : Res) : KernelState :=
  match s.devices r.1 with
  | none => s
  | some p => (resourceDecrRefCount s p r.2).2

/-- The resources that the entries of `pid` in a list name. -/
def entryResources {k : ResourceKind} (pid : Pid) (l : List (ResourceRef k)) : List Res :=
  (l.filter fun e => e.pid = pid).map fun e => e.token.res

/-- The same for both lists, in the order in which the clean-up meets them. -/
def KernelState.entriesOf (s : KernelState) (pid : Pid) : List Res :=
  entryResources pid (s.refs .memregion) ++ entryResources pid (s.refs .eventsrc)

/-- How many entries `pid` has for a resource of the device at `p`. -/
def KernelState.entriesFor (s : KernelState) (pid : Pid) (p : DevPtr) (x : ResIdx) : Nat :=
  (s.refs x.1).countP fun e =>
    e.pid = pid ∧ e.token.res.2 = x ∧ s.devices e.token.deviceIndex = some p

section DropAt

variable (s : KernelState) (r : Res)

@[simp] theorem dropAt_devices : (dropAt s r).devices = s.devices := by
  unfold dropAt
  split
  · rfl
  · simp

@[simp] theorem dropAt_refs : (dropAt s r).refs = s.refs := by
  unfold dropAt
  split
  · rfl
  · simp

theorem dropAt_of_devices {p : DevPtr} (h : s.devices r.1 = some p) :
    dropAt s r = (resourceDecrRefCount s p r.2).2 := by
  simp [dropAt, h]

theorem sameShape_dropAt : SameShape s (dropAt s r) := by
  unfold dropAt
  split
  · exact SameShape.refl s
  · exact sameShape_resourceDecrRefCount s _ r.2

theorem refCount_dropAt (q : DevPtr) (y : ResIdx) :
    ((dropAt s r).heap q).refCount y =
      (s.heap q).refCount y - if s.devices r.1 = some q ∧ r.2 = y then 1 else 0 := by
  cases h : s.devices r.1 with
  | none => simp [dropAt, h]
  | some p =>
      rw [dropAt_of_devices s r h, refCount_resourceDecrRefCount]
      simp [eq_comm]

end DropAt

/-! ## Decrements commute -/

/-- A device is determined by its counts and by the rest. -/
theorem Device.ext_counts {d d' : Device} (h : d.eraseCounts = d'.eraseCounts)
    (hcount : ∀ x, d.refCount x = d'.refCount x) : d = d' := by
  have hmem : d.mem = d'.mem := by
    funext i
    have hsame := congrFun (congrArg Device.mem h) i
    have hi : (d.mem i).refCount = (d'.mem i).refCount := hcount ⟨.memregion, i⟩
    rcases hd : d.mem i with ⟨⟨name, flags, n⟩, paAddr, paLen, startOffset, len, type⟩
    rcases hd' : d'.mem i with ⟨⟨name', flags', n'⟩, paAddr', paLen', startOffset', len', type'⟩
    simp only [eraseCounts, hd, hd', Memregion.mk.injEq, Resource.mk.injEq] at hsame hi
    simp [hsame, hi]
  have hevents : d.events = d'.events := by
    funext i
    have hsame := congrFun (congrArg Device.events h) i
    have hi : (d.events i).refCount = (d'.events i).refCount := hcount ⟨.eventsrc, i⟩
    rcases hd : d.events i with ⟨⟨name, flags, n⟩, intr⟩
    rcases hd' : d'.events i with ⟨⟨name', flags', n'⟩, intr'⟩
    simp only [eraseCounts, hd, hd', Eventsrc.mk.injEq, Resource.mk.injEq] at hsame hi
    simp [hsame, hi]
  rcases d with ⟨group, name, driverInfo, hwInfo, instanceId, mem, events, ownerPtr, priv⟩
  rcases d' with ⟨group', name', driverInfo', hwInfo', instanceId', mem', events', ownerPtr', priv'⟩
  simp only [eraseCounts, Device.mk.injEq] at h hmem hevents ⊢
  exact ⟨h.1, h.2.1, h.2.2.1, h.2.2.2.1, h.2.2.2.2.1, hmem, hevents, h.2.2.2.2.2.2.2⟩

theorem KernelState.ext_fields {s s' : KernelState} (hheap : s.heap = s'.heap)
    (hdevices : s.devices = s'.devices) (hrefs : s.refs = s'.refs)
    (hmodules : s.modules = s'.modules) : s = s' := by
  cases s
  cases s'
  simp_all

/-- The modules after a decrement: the owner loses a reference if the count was not zero. -/
theorem modules_dropAt (s : KernelState) (r : Res) {p : DevPtr} (h : s.devices r.1 = some p)
    (m : ModuleId) :
    (dropAt s r).modules m =
      if (s.heap p).refCount r.2 ≠ 0 ∧ (s.heap p).uioOwner = some m then modulePut (s.modules m)
      else s.modules m := by
  rw [dropAt_of_devices s r h]
  by_cases hzero : (s.heap p).refCount r.2 = 0
  · simp [resourceDecrRefCount, hzero]
  · have howner : ((s.setRefCount p r.2 ((s.heap p).refCount r.2 - 1)).heap p).uioOwner =
        (s.heap p).uioOwner := by
      simp [KernelState.setRefCount_heap, Device.uioOwner]
    simp only [resourceDecrRefCount, hzero, if_false, KernelState.dropRef, KernelState.withOwner,
      howner, ne_eq, not_false_eq_true, true_and]
    cases hm : (s.heap p).uioOwner with
    | none => simp
    | some m' =>
        by_cases heq : m = m'
        · subst heq
          simp [KernelState.setModule]
        · have heq' : ¬ m' = m := fun h => heq h.symm
          simp [KernelState.setModule, heq, heq']

theorem dropAt_of_none {s : KernelState} {r : Res} (h : s.devices r.1 = none) :
    dropAt s r = s := by
  simp [dropAt, h]

theorem dropAt_comm (s : KernelState) (r r' : Res) :
    dropAt (dropAt s r) r' = dropAt (dropAt s r') r := by
  cases hr : s.devices r.1 with
  | none =>
      have hafter : (dropAt s r').devices r.1 = none := by simpa using hr
      rw [dropAt_of_none hr, dropAt_of_none hafter]
  | some p =>
      cases hr' : s.devices r'.1 with
      | none =>
          have hafter : (dropAt s r).devices r'.1 = none := by simpa using hr'
          rw [dropAt_of_none hr', dropAt_of_none hafter]
      | some q =>
          have hafter : (dropAt s r').devices r.1 = some p := by simpa using hr
          have hafter' : (dropAt s r).devices r'.1 = some q := by simpa using hr'
          by_cases hsame : q = p ∧ r'.2 = r.2
          · -- one count, lowered twice
            rcases hsame with ⟨rfl, hx⟩
            rw [dropAt_of_devices _ r' hafter', dropAt_of_devices _ r hafter,
              dropAt_of_devices s r hr, dropAt_of_devices s r' hr', hx]
          · -- neither decrement sees the count of the other
            have hcount : ((dropAt s r).heap q).refCount r'.2 = (s.heap q).refCount r'.2 := by
              rw [refCount_dropAt, hr, if_neg, Nat.sub_zero]
              rintro ⟨heq, hx⟩
              exact hsame ⟨(Option.some.inj heq).symm, hx.symm⟩
            have hcount' : ((dropAt s r').heap p).refCount r.2 = (s.heap p).refCount r.2 := by
              rw [refCount_dropAt, hr', if_neg, Nat.sub_zero]
              rintro ⟨heq, hx⟩
              exact hsame ⟨Option.some.inj heq, hx⟩
            refine KernelState.ext_fields ?_ (by simp) (by simp) ?_
            · funext d
              refine Device.ext_counts ?_ ?_
              · have hleft := ((sameShape_dropAt s r).trans (sameShape_dropAt _ r')).heap d
                have hright := ((sameShape_dropAt s r').trans (sameShape_dropAt _ r)).heap d
                rw [hleft, hright]
              · intro y
                simp only [refCount_dropAt, dropAt_devices]
                exact Nat.sub_right_comm _ _ _
            · funext m
              have howner := (sameShape_dropAt s r).uioOwner q
              have howner' := (sameShape_dropAt s r').uioOwner p
              rw [modules_dropAt _ r' hafter', modules_dropAt _ r hafter, modules_dropAt s r hr,
                modules_dropAt s r' hr', hcount, hcount', howner, howner']
              split_ifs <;> rfl

/-! ## The whole walk -/

theorem freeRefsLoop_eq {k : ResourceKind} {pid : Pid} :
    ∀ {l : List (ResourceRef k)} {s : KernelState},
      (∀ e ∈ l, s.devices e.token.deviceIndex ≠ none) →
        freeRefsLoop pid l s =
          some (l.filter fun e => e.pid ≠ pid, (entryResources pid l).foldl dropAt s) := by
  -- induction on the entries; the table stays as it is, so no later entry becomes stale
  intro l
  induction l with
  | nil =>
      intro s _
      rfl
  | cons pos rest ih =>
      intro s h
      have hrest : ∀ e ∈ rest, s.devices e.token.deviceIndex ≠ none := fun e he =>
        h e (List.mem_cons_of_mem pos he)
      by_cases hpid : pos.pid = pid
      · rcases Option.ne_none_iff_exists'.1 (h pos List.mem_cons_self) with ⟨p, hp⟩
        have hdrop : dropAt s pos.token.res =
            (resourceDecrRefCount s p ⟨k, pos.token.resourceIndex⟩).2 :=
          dropAt_of_devices s pos.token.res hp
        have hloop := ih (s := dropAt s pos.token.res) (by simpa using hrest)
        simp [freeRefsLoop, entryResources, hpid, hp, ← hdrop, hloop]
      · simp [freeRefsLoop, entryResources, hpid, ih hrest]

section Walk

variable (s : KernelState) (l : List Res)

@[simp] theorem foldl_dropAt_devices : (l.foldl dropAt s).devices = s.devices := by
  induction l generalizing s with
  | nil => rfl
  | cons r rest ih => simpa using ih (dropAt s r)

@[simp] theorem foldl_dropAt_refs : (l.foldl dropAt s).refs = s.refs := by
  induction l generalizing s with
  | nil => rfl
  | cons r rest ih => simpa using ih (dropAt s r)

/-- Each resource in the list costs one count. -/
theorem refCount_foldl_dropAt (q : DevPtr) (y : ResIdx) :
    ((l.foldl dropAt s).heap q).refCount y =
      (s.heap q).refCount y - l.countP fun r => s.devices r.1 = some q ∧ r.2 = y := by
  induction l generalizing s with
  | nil => simp
  | cons r rest ih =>
      rw [List.foldl_cons, ih, refCount_dropAt, dropAt_devices, List.countP_cons, Nat.sub_sub,
        Nat.add_comm]
      simp

/-- A decrement does not look at the lists. -/
theorem dropAt_withRefs (r : Res) (refs : (k : ResourceKind) → List (ResourceRef k)) :
    dropAt { s with refs := refs } r = { dropAt s r with refs := refs } := by
  cases hr : s.devices r.1 with
  | none => simp [dropAt, hr]
  | some p =>
      simp only [dropAt, hr, resourceDecrRefCount]
      split
      · rfl
      · simp only [KernelState.dropRef, KernelState.setRefCount, KernelState.setDevice,
          KernelState.withOwner]
        split <;> rfl

theorem foldl_dropAt_withRefs (refs : (k : ResourceKind) → List (ResourceRef k)) :
    l.foldl dropAt { s with refs := refs } = { l.foldl dropAt s with refs := refs } := by
  induction l generalizing s with
  | nil => rfl
  | cons r rest ih => rw [List.foldl_cons, dropAt_withRefs, ih, List.foldl_cons]

theorem foldl_dropAt_perm {l' : List Res} (h : l.Perm l') :
    l.foldl dropAt s = l'.foldl dropAt s :=
  h.foldl_eq' (fun r _ r' _ t => dropAt_comm t r r') s

end Walk

theorem countP_entryResources {k : ResourceKind} (pid : Pid) (p : DevPtr) (x : ResIdx)
    (l : List (ResourceRef k)) (s : KernelState) :
    ((entryResources pid l).countP fun r => s.devices r.1 = some p ∧ r.2 = x) =
      l.countP fun e =>
        (s.devices e.token.deviceIndex = some p ∧ e.token.res.2 = x) ∧ e.pid = pid := by
  rw [entryResources, List.countP_map, List.countP_filter]
  refine List.countP_congr ?_
  intro e _
  simp only [Function.comp_apply, Token.res, Bool.and_eq_true, decide_eq_true_eq]
  exact decide_eq_true_iff.symm

theorem countP_entryResources_other {k k' : ResourceKind} (hk : k ≠ k') (pid : Pid) (p : DevPtr)
    (i : Fin k'.max) (l : List (ResourceRef k)) (s : KernelState) :
    ((entryResources pid l).countP fun r => s.devices r.1 = some p ∧ r.2 = ⟨k', i⟩) = 0 := by
  rw [countP_entryResources, List.countP_eq_zero]
  intro e _ h
  have hkind := congrArg Sigma.fst (of_decide_eq_true h).1.2
  exact hk hkind

/-- The state after a clean-up. -/
def KernelState.cleanedUp (s : KernelState) (pid : Pid) : KernelState :=
  { (s.entriesOf pid).foldl dropAt s with
    refs := fun k => (s.refs k).filter fun e => e.pid ≠ pid }

section CleanedUp

variable {s : KernelState} (pid : Pid)

@[simp] theorem cleanedUp_devices : (s.cleanedUp pid).devices = s.devices :=
  foldl_dropAt_devices s (s.entriesOf pid)

@[simp] theorem cleanedUp_refs (k : ResourceKind) :
    (s.cleanedUp pid).refs k = (s.refs k).filter fun e => e.pid ≠ pid := rfl

theorem NoStaleRef.cleanedUp (h : NoStaleRef s) : NoStaleRef (s.cleanedUp pid) := by
  refine h.of_mem ?_ ?_
  · intro d hd
    rwa [cleanedUp_devices]
  · intro k e he
    exact Or.inl (List.mem_of_mem_filter he)

theorem freeRefs_eq {k : ResourceKind}
    (h : ∀ e ∈ s.refs k, s.devices e.token.deviceIndex ≠ none) :
    freeRefs k pid s =
      some { (entryResources pid (s.refs k)).foldl dropAt s with
        refs := Function.update s.refs k ((s.refs k).filter fun e => e.pid ≠ pid) } := by
  simp [freeRefs, freeRefsLoop_eq h, KernelState.setRefs]

theorem managerFreeRefsForPid_eq (h : NoStaleRef s) :
    managerFreeRefsForPid s pid = some (s.cleanedUp pid) := by
  have hmem := freeRefs_eq pid (h .memregion)
  generalize hmid : entryResources pid (s.refs .memregion) = mid at hmem
  -- the second walk finds its list and the table as they were
  let t : KernelState :=
    { mid.foldl dropAt s with
      refs := Function.update s.refs .memregion
        ((s.refs .memregion).filter fun e => e.pid ≠ pid) }
  have hlist : t.refs .eventsrc = s.refs .eventsrc := by simp [t]
  have hstale : ∀ e ∈ t.refs .eventsrc, t.devices e.token.deviceIndex ≠ none := by
    intro e he
    have hdevices : t.devices = s.devices := foldl_dropAt_devices s mid
    rw [hlist] at he
    rw [hdevices]
    exact h .eventsrc e he
  have hevt := freeRefs_eq pid hstale
  rw [hlist] at hevt
  have hrun : managerFreeRefsForPid s pid = freeRefs .eventsrc pid t := by
    simp [managerFreeRefsForPid, hmem, t]
  rw [hrun, hevt, foldl_dropAt_withRefs, ← List.foldl_append, ← hmid]
  refine congrArg some (KernelState.ext_fields rfl rfl ?_ rfl)
  funext k
  cases k with
  | memregion => simp [t]
  | eventsrc => simp

/-- What a clean-up leaves is not touched by the next one for the same process. -/
theorem cleanedUp_cleanedUp_self : (s.cleanedUp pid).cleanedUp pid = s.cleanedUp pid := by
  have hnone : (s.cleanedUp pid).entriesOf pid = [] := by
    simp [KernelState.entriesOf, entryResources]
  have hrefs : (fun k => ((s.cleanedUp pid).refs k).filter fun e => e.pid ≠ pid) =
      (s.cleanedUp pid).refs := by
    funext k
    simp
  rw [KernelState.cleanedUp, hnone, hrefs]
  rfl

/-- The clean-ups of two processes are one walk over the entries of both. -/
theorem cleanedUp_cleanedUp {pid pid' : Pid} (hne : pid ≠ pid') :
    (s.cleanedUp pid).cleanedUp pid' =
      { (s.entriesOf pid ++ s.entriesOf pid').foldl dropAt s with
        refs := fun k => (s.refs k).filter fun e => e.pid ≠ pid ∧ e.pid ≠ pid' } := by
  have hkept : ∀ {k : ResourceKind} (l : List (ResourceRef k)),
      entryResources pid' (l.filter fun e => e.pid ≠ pid) = entryResources pid' l := by
    intro k l
    simp only [entryResources, List.filter_filter]
    refine congrArg _ (List.filter_congr ?_)
    intro e _
    by_cases he : e.pid = pid'
    · simp [he, hne.symm]
    · simp [he]
  have hentries : (s.cleanedUp pid).entriesOf pid' = s.entriesOf pid' := by
    simp only [KernelState.entriesOf, cleanedUp_refs, hkept]
  have hrefs : (fun k => ((s.cleanedUp pid).refs k).filter fun e => e.pid ≠ pid') =
      fun k => (s.refs k).filter fun e => e.pid ≠ pid ∧ e.pid ≠ pid' := by
    funext k
    rw [cleanedUp_refs, List.filter_filter]
    refine List.filter_congr ?_
    intro e _
    simp [Bool.and_comm]
  rw [KernelState.cleanedUp, hentries, hrefs, KernelState.cleanedUp, foldl_dropAt_withRefs,
    List.foldl_append]

theorem cleanedUp_comm (pid' : Pid) :
    (s.cleanedUp pid).cleanedUp pid' = (s.cleanedUp pid').cleanedUp pid := by
  by_cases hne : pid = pid'
  · rw [hne]
  · have hperm : (s.entriesOf pid ++ s.entriesOf pid').Perm (s.entriesOf pid' ++ s.entriesOf pid) :=
      List.perm_append_comm
    have hrefs : (fun k => (s.refs k).filter fun e => e.pid ≠ pid ∧ e.pid ≠ pid') =
        fun k => (s.refs k).filter fun e => e.pid ≠ pid' ∧ e.pid ≠ pid := by
      funext k
      simp [Bool.and_comm]
    rw [cleanedUp_cleanedUp hne, cleanedUp_cleanedUp (Ne.symm hne), foldl_dropAt_perm s _ hperm,
      hrefs]

/-- Each count goes down by the number of entries for the resource. -/
theorem refCount_cleanedUp (p : DevPtr) (x : ResIdx) :
    ((s.cleanedUp pid).heap p).refCount x =
      (s.heap p).refCount x - s.entriesFor pid p x := by
  have hcount : ((s.entriesOf pid).countP fun r => s.devices r.1 = some p ∧ r.2 = x) =
      s.entriesFor pid p x := by
    rcases x with ⟨k, i⟩
    rw [KernelState.entriesOf, List.countP_append]
    cases k with
    | memregion =>
        -- an entry of one list names no resource of the other kind
        have hother := countP_entryResources_other (k := .eventsrc) (by decide) pid p i
          (s.refs .eventsrc) s
        rw [hother, countP_entryResources, Nat.add_zero, KernelState.entriesFor]
        simp only [and_comm]
    | eventsrc =>
        have hother := countP_entryResources_other (k := .memregion) (by decide) pid p i
          (s.refs .memregion) s
        rw [hother, countP_entryResources, Nat.zero_add, KernelState.entriesFor]
        simp only [and_comm]
  rw [← hcount]
  exact refCount_foldl_dropAt s (s.entriesOf pid) p x

end CleanedUp

/-! ## The effect -/

/-- Where every entry names an occupied slot, a clean-up gets through.  It removes the entries of
the process and no others, lowers each count by the number of entries that it has removed for the
resource, but not below zero, and leaves the table and the devices otherwise alone.  A second
clean-up of the process does nothing, and clean-ups of two processes commute. -/
theorem freeRefsForPid_exact {s : KernelState} (h : NoStaleRef s) (pid : Pid) :
    ∃ s', managerFreeRefsForPid s pid = some s' ∧
      (∀ k, s'.refs k = (s.refs k).filter fun e => e.pid ≠ pid) ∧
      (∀ p x, (s'.heap p).refCount x = (s.heap p).refCount x - s.entriesFor pid p x) ∧
      SameShape s s' ∧ managerFreeRefsForPid s' pid = some s' ∧
      ∀ pid', (managerFreeRefsForPid s pid).bind (managerFreeRefsForPid · pid') =
        (managerFreeRefsForPid s pid').bind (managerFreeRefsForPid · pid) := by
  have hrun := managerFreeRefsForPid_eq pid h
  refine ⟨s.cleanedUp pid, hrun, cleanedUp_refs pid, refCount_cleanedUp pid,
    managerFreeRefsForPid_sameShape hrun, ?_, ?_⟩
  · rw [managerFreeRefsForPid_eq pid (h.cleanedUp pid), cleanedUp_cleanedUp_self]
  · intro pid'
    rw [hrun, managerFreeRefsForPid_eq pid' h, Option.bind_some, Option.bind_some,
      managerFreeRefsForPid_eq pid' (h.cleanedUp pid),
      managerFreeRefsForPid_eq pid (h.cleanedUp pid'), cleanedUp_comm]

/-- Process 1 has the memory region of device 0 twice, and process 2 has it in between. -/
def Sample.interleaved : KernelState :=
  (Sample.managed.setRefCount 0 ⟨.memregion, 0⟩ 3).setRefs .memregion
    [⟨Sample.firstToken, 1⟩, ⟨Sample.firstToken, 2⟩, ⟨Sample.firstToken, 1⟩]

theorem Sample.interleaved_noStaleRef : NoStaleRef Sample.interleaved := by
  have hmem : ∀ e ∈ Sample.interleaved.refs .memregion,
      Sample.interleaved.devices e.token.deviceIndex ≠ none := by decide +kernel
  have hevt : ∀ e ∈ Sample.interleaved.refs .eventsrc,
      Sample.interleaved.devices e.token.deviceIndex ≠ none := by decide +kernel
  intro k
  cases k with
  | memregion => exact hmem
  | eventsrc => exact hevt

/-- The clean-up of process 1 leaves one entry and one count. -/
theorem freeRefsForPid_exact_interleaved :
    ∃ s', managerFreeRefsForPid Sample.interleaved 1 = some s' ∧
      s'.refs .memregion = [⟨Sample.firstToken, 2⟩] ∧
      (s'.heap 0).refCount ⟨.memregion, 0⟩ = 1 := by
  rcases freeRefsForPid_exact Sample.interleaved_noStaleRef 1 with ⟨s', hrun, hrefs, hcount, _⟩
  refine ⟨s', hrun, ?_, ?_⟩
  · rw [hrefs .memregion]
    decide +kernel
  · rw [hcount 0 ⟨.memregion, 0⟩]
    decide +kernel

end Cuddl
