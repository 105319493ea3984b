import Mathlib.Data.List.Basic
import Cuddl.Kernel.Types

/-!
# Claims and reference lists

`_memregion_claim`, `_memregion_decr_ref_count` and their event source twins, the two reference
lists, and the clean-up of a process in `cuddlk_manager_linux.c`.

Counting goes through `withOwner` and `setRefCount` only.  What it can never change is collected
in `SameShape`: the table, and every device up to its counts.
-/

namespace Cuddl

/-! ## Module references -/

/-- `try_module_get`: no reference is taken from a module that is being unloaded. -/
def tryModuleGet (m : Module) : Module :=
  if m.live then { m with refs := m.refs + 1 } else m

def modulePut (m : Module) : Module :=
  { m with refs := m.refs - 1 }

/-- `priv.uio_ptr->uio_dev->owner`.  A managed device has a UIO device. -/
def Device.uioOwner (dev : Device) : Option ModuleId :=
  dev.priv.uio.uioDev.bind UioDevice.owner

/-- Apply `f` to the owner module of a device, if there is one. -/
def KernelState.withOwner (s : KernelState) (p : DevPtr) (f : Module → Module) : KernelState :=
  match (s.heap p).uioOwner with
  | none => s
  | some m => s.setModule m (f (s.modules m))

/-! ## Claiming and decrementing -/

/-- `CUDDLK_MEMF_SHARED` -/
def memfShared : BitVec 32 := 1

/-- `CUDDLK_EVENTSRCF_SHARED` -/
def eventsrcfShared : BitVec 32 := 1

def ResourceKind.sharedFlag : ResourceKind → BitVec 32
  | .memregion => memfShared
  | .eventsrc => eventsrcfShared

def Device.shared (dev : Device) (x : ResIdx) : Bool :=
  (dev.resource x).flags &&& x.1.sharedFlag != 0

/-- `ref_count += 1` and the module reference that goes with it. -/
def KernelState.takeRef (s : KernelState) (p : DevPtr) (x : ResIdx) : KernelState :=
  (s.setRefCount p x ((s.heap p).refCount x + 1)).withOwner p tryModuleGet

/-- `ref_count -= 1` and the module reference that goes with it. -/
def KernelState.dropRef (s : KernelState) (p : DevPtr) (x : ResIdx) : KernelState :=
  (s.setRefCount p x ((s.heap p).refCount x - 1)).withOwner p modulePut

def resourceClaim (s : KernelState) (p : DevPtr) (x : ResIdx) (hostile : Bool) :
    Int × KernelState :=
  if 0 < (s.heap p).refCount x ∧ (s.heap p).shared x = false ∧ hostile = false then
    (-Errno.EBUSY, s)
  else
    (0, s.takeRef p x)

/-- `_memregion_claim` -/
def memregionClaim (s : KernelState) (p : DevPtr) (i : Fin (ResourceKind.max .memregion))
    (hostile : Bool) : Int × KernelState :=
  resourceClaim s p ⟨.memregion, i⟩ hostile

/-- `_eventsrc_claim` -/
def eventsrcClaim (s : KernelState) (p : DevPtr) (i : Fin (ResourceKind.max .eventsrc))
    (hostile : Bool) : Int × KernelState :=
  resourceClaim s p ⟨.eventsrc, i⟩ hostile

def resourceDecrRefCount (s : KernelState) (p : DevPtr) (x : ResIdx) : Int × KernelState :=
  if (s.heap p).refCount x = 0 then
    (-Errno.ENOSPC, s)
  else
    (0, s.dropRef p x)

/-- `_memregion_decr_ref_count` -/
def memregionDecrRefCount (s : KernelState) (p : DevPtr)
    (i : Fin (ResourceKind.max .memregion)) : Int × KernelState :=
  resourceDecrRefCount s p ⟨.memregion, i⟩

/-- `_eventsrc_decr_ref_count` -/
def eventsrcDecrRefCount (s : KernelState) (p : DevPtr)
    (i : Fin (ResourceKind.max .eventsrc)) : Int × KernelState :=
  resourceDecrRefCount s p ⟨.eventsrc, i⟩

/-- The claim helper that the CLAIM ioctl of a kind calls. -/
def kindClaim : (k : ResourceKind) → KernelState → DevPtr → Fin k.max → Bool → Int × KernelState
  | .memregion => memregionClaim
  | .eventsrc => eventsrcClaim

/-- The decrement helper that the ioctls of a kind call. -/
def kindDecrRefCount : (k : ResourceKind) → KernelState → DevPtr → Fin k.max → Int × KernelState
  | .memregion => memregionDecrRefCount
  | .eventsrc => eventsrcDecrRefCount

@[simp] theorem kindClaim_eq (k : ResourceKind) (s : KernelState) (p : DevPtr) (i : Fin k.max)
    (hostile : Bool) : kindClaim k s p i hostile = resourceClaim s p ⟨k, i⟩ hostile := by
  cases k with
  | memregion => rfl
  | eventsrc => rfl

@[simp] theorem kindDecrRefCount_eq (k : ResourceKind) (s : KernelState) (p : DevPtr)
    (i : Fin k.max) : kindDecrRefCount k s p i = resourceDecrRefCount s p ⟨k, i⟩ := by
  cases k with
  | memregion => rfl
  | eventsrc => rfl

/-! ## Cleaning up after a process -/

/-- One of the two loops of `cuddlk_manager_free_refs_for_pid`, over the entries still to be
visited.  It returns the entries that stay in the list; `none` is the dereference of an empty
slot. -/
def freeRefsLoop {k : ResourceKind} (pid : Pid) :
    List (ResourceRef k) → KernelState → Option (List (ResourceRef k) × KernelState)
  | [], s => some ([], s)
  | pos :: rest, s =>
      if pos.pid = pid then
        match s.devices pos.token.deviceIndex with
        -- the loop does not test the pointer that it takes from the table
        | none => none
        | some dev => freeRefsLoop pid rest (kindDecrRefCount k s dev pos.token.resourceIndex).2
      else
        (freeRefsLoop pid rest s).map fun r => (pos :: r.1, r.2)

def freeRefs (k : ResourceKind) (pid : Pid) (s : KernelState) : Option KernelState :=
  (freeRefsLoop pid (s.refs k) s).map fun r => r.2.setRefs k r.1

/-- `cuddlk_manager_free_refs_for_pid` -/
def managerFreeRefsForPid (s : KernelState) (pid : Pid) : Option KernelState :=
  (freeRefs .memregion pid s).bind (freeRefs .eventsrc pid)

/-! ## What counting never changes -/

/-- The two states have the same table, and the same devices up to their counts. -/
structure SameShape (s s' : KernelState) : Prop where
  devices : s'.devices = s.devices
  heap : ∀ p, (s'.heap p).eraseCounts = (s.heap p).eraseCounts

theorem SameShape.refl (s : KernelState) : SameShape s s :=
  ⟨rfl, fun _ => rfl⟩

theorem SameShape.trans {s₁ s₂ s₃ : KernelState} (h : SameShape s₁ s₂) (h' : SameShape s₂ s₃) :
    SameShape s₁ s₃ :=
  ⟨h'.devices.trans h.devices, fun p => (h'.heap p).trans (h.heap p)⟩

section WithOwner

variable (s : KernelState) (p : DevPtr) (f : Module → Module)

@[simp] theorem withOwner_heap : (s.withOwner p f).heap = s.heap := by
  unfold KernelState.withOwner
  split <;> rfl

@[simp] theorem withOwner_devices : (s.withOwner p f).devices = s.devices := by
  unfold KernelState.withOwner
  split <;> rfl

@[simp] theorem withOwner_refs : (s.withOwner p f).refs = s.refs := by
  unfold KernelState.withOwner
  split <;> rfl

end WithOwner

theorem sameShape_setRefCount (s : KernelState) (p : DevPtr) (x : ResIdx) (n : Nat) :
    SameShape s (s.setRefCount p x n) := by
  refine ⟨rfl, ?_⟩
  intro q
  -- only the device at `p` is written to, and only a count of it
  rw [KernelState.setRefCount_heap]
  by_cases hq : q = p
  · subst hq
    simp
  · simp [hq]

theorem sameShape_withOwner (s : KernelState) (p : DevPtr) (f : Module → Module) :
    SameShape s (s.withOwner p f) :=
  ⟨by simp, by simp⟩

theorem sameShape_setRefs (s : KernelState) (k : ResourceKind) (l : List (ResourceRef k)) :
    SameShape s (s.setRefs k l) :=
  ⟨rfl, fun _ => rfl⟩

/-- Counting leaves the names and the registration data of a device alone. -/
theorem SameShape.group {s s' : KernelState} (h : SameShape s s') (p : DevPtr) :
    (s'.heap p).group = (s.heap p).group := by
  have hsame := congrArg Device.group (h.heap p)
  exact hsame

theorem SameShape.name {s s' : KernelState} (h : SameShape s s') (p : DevPtr) :
    (s'.heap p).name = (s.heap p).name := by
  have hsame := congrArg Device.name (h.heap p)
  exact hsame

theorem SameShape.priv {s s' : KernelState} (h : SameShape s s') (p : DevPtr) :
    (s'.heap p).priv = (s.heap p).priv := by
  have hsame := congrArg Device.priv (h.heap p)
  exact hsame

theorem SameShape.uioOwner {s s' : KernelState} (h : SameShape s s') (p : DevPtr) :
    (s'.heap p).uioOwner = (s.heap p).uioOwner := by
  unfold Device.uioOwner
  rw [h.priv]

/-- A resource is shared by its flags alone. -/
theorem SameShape.shared {s s' : KernelState} (h : SameShape s s') (p : DevPtr) (x : ResIdx) :
    (s'.heap p).shared x = (s.heap p).shared x := by
  unfold Device.shared
  rw [← Device.flags_eraseCounts, h.heap p, Device.flags_eraseCounts]

/-! ## What a claim and a decrement do -/

/-- The condition under which `_memregion_claim` and `_eventsrc_claim` do not answer `-EBUSY`. -/
def Admitted (s : KernelState) (p : DevPtr) (x : ResIdx) (hostile : Bool) : Prop :=
  (s.heap p).refCount x = 0 ∨ (s.heap p).shared x = true ∨ hostile = true

instance (s : KernelState) (p : DevPtr) (x : ResIdx) (hostile : Bool) :
    Decidable (Admitted s p x hostile) :=
  inferInstanceAs (Decidable (_ ∨ _ ∨ _))

theorem resourceClaim_cases (s : KernelState) (p : DevPtr) (x : ResIdx) (hostile : Bool) :
    (resourceClaim s p x hostile = (-Errno.EBUSY, s) ∧ ¬ Admitted s p x hostile) ∨
      (resourceClaim s p x hostile = (0, s.takeRef p x) ∧ Admitted s p x hostile) := by
  unfold resourceClaim
  split
  · rename_i hbusy
    rcases hbusy with ⟨hpos, hshared, hhostile⟩
    refine Or.inl ⟨rfl, ?_⟩
    rintro (hzero | hsh | hho)
    · exact absurd hzero (Nat.pos_iff_ne_zero.1 hpos)
    · simp [hshared] at hsh
    · simp [hhostile] at hho
  · rename_i hfree
    refine Or.inr ⟨rfl, ?_⟩
    -- refusing needs all three conditions, so one of them fails here
    by_contra hnot
    unfold Admitted at hnot
    push Not at hnot
    exact hfree ⟨Nat.pos_of_ne_zero hnot.1, by simpa using hnot.2.1, by simpa using hnot.2.2⟩

theorem sameShape_takeRef (s : KernelState) (p : DevPtr) (x : ResIdx) :
    SameShape s (s.takeRef p x) :=
  (sameShape_setRefCount _ _ _ _).trans (sameShape_withOwner _ _ _)

theorem sameShape_dropRef (s : KernelState) (p : DevPtr) (x : ResIdx) :
    SameShape s (s.dropRef p x) :=
  (sameShape_setRefCount _ _ _ _).trans (sameShape_withOwner _ _ _)

theorem sameShape_resourceDecrRefCount (s : KernelState) (p : DevPtr) (x : ResIdx) :
    SameShape s (resourceDecrRefCount s p x).2 := by
  unfold resourceDecrRefCount
  split
  · exact SameShape.refl s
  · exact sameShape_dropRef s p x

@[simp] theorem takeRef_refs (s : KernelState) (p : DevPtr) (x : ResIdx) :
    (s.takeRef p x).refs = s.refs := by
  simp [KernelState.takeRef]

@[simp] theorem takeRef_devices (s : KernelState) (p : DevPtr) (x : ResIdx) :
    (s.takeRef p x).devices = s.devices := by
  simp [KernelState.takeRef]

@[simp] theorem resourceDecrRefCount_refs (s : KernelState) (p : DevPtr) (x : ResIdx) :
    (resourceDecrRefCount s p x).2.refs = s.refs := by
  unfold resourceDecrRefCount
  split
  · rfl
  · simp [KernelState.dropRef]

@[simp] theorem resourceDecrRefCount_devices (s : KernelState) (p : DevPtr) (x : ResIdx) :
    (resourceDecrRefCount s p x).2.devices = s.devices :=
  (sameShape_resourceDecrRefCount s p x).devices

/-- Counting writes one count. -/
theorem refCount_counted (s : KernelState) (p q : DevPtr) (x y : ResIdx) (n : Nat)
    (f : Module → Module) :
    (((s.setRefCount p x n).withOwner p f).heap q).refCount y =
      if q = p ∧ y = x then n else (s.heap q).refCount y := by
  rw [withOwner_heap, KernelState.setRefCount_heap]
  by_cases hq : q = p
  · subst hq
    simp
  · simp [hq]

theorem refCount_takeRef (s : KernelState) (p q : DevPtr) (x y : ResIdx) :
    ((s.takeRef p x).heap q).refCount y =
      (s.heap q).refCount y + if q = p ∧ y = x then 1 else 0 := by
  rw [KernelState.takeRef, refCount_counted]
  by_cases h : q = p ∧ y = x
  · rcases h with ⟨rfl, rfl⟩
    simp
  · simp [h]

/-- A decrement lowers one count, and not below zero. -/
theorem refCount_resourceDecrRefCount (s : KernelState) (p q : DevPtr) (x y : ResIdx) :
    ((resourceDecrRefCount s p x).2.heap q).refCount y =
      (s.heap q).refCount y - if q = p ∧ y = x then 1 else 0 := by
  unfold resourceDecrRefCount
  split
  · rename_i hzero
    by_cases h : q = p ∧ y = x
    · rcases h with ⟨rfl, rfl⟩
      simp [hzero]
    · simp [h]
  · rw [KernelState.dropRef, refCount_counted]
    by_cases h : q = p ∧ y = x
    · rcases h with ⟨rfl, rfl⟩
      simp
    · simp [h]

/-- Undoing a claim restores every count; a module that was not live loses a reference it never
gained. -/
theorem resourceDecrRefCount_takeRef (s : KernelState) (p : DevPtr) (x : ResIdx) :
    (resourceDecrRefCount (s.takeRef p x) p x).2 =
      s.withOwner p fun m => modulePut (tryModuleGet m) := by
  have hcount : ((s.takeRef p x).heap p).refCount x = (s.heap p).refCount x + 1 := by
    simp [refCount_takeRef]
  -- the count goes up and down again; the two module calls remain
  have hback : ((s.takeRef p x).heap p).setRefCount x ((s.heap p).refCount x) = s.heap p := by
    simp [KernelState.takeRef, KernelState.setRefCount_heap, Device.setRefCount_self]
  have hset : (s.takeRef p x).setRefCount p x ((s.heap p).refCount x) =
      s.withOwner p tryModuleGet := by
    unfold KernelState.setRefCount KernelState.setDevice
    rw [hback]
    unfold KernelState.takeRef KernelState.withOwner
    rw [KernelState.setRefCount_heap]
    cases howner : (s.heap p).uioOwner with
    | none =>
        have howner' : ((s.heap p).setRefCount x ((s.heap p).refCount x + 1)).uioOwner = none := by
          simpa [Device.uioOwner] using howner
        simp [howner', KernelState.setRefCount, KernelState.setDevice]
    | some m =>
        have howner' :
            ((s.heap p).setRefCount x ((s.heap p).refCount x + 1)).uioOwner = some m := by
          simpa [Device.uioOwner] using howner
        simp [howner', KernelState.setRefCount, KernelState.setDevice, KernelState.setModule]
  calc
    (resourceDecrRefCount (s.takeRef p x) p x).2
        = ((s.takeRef p x).setRefCount p x ((s.heap p).refCount x)).withOwner p modulePut := by
          simp [resourceDecrRefCount, KernelState.dropRef, hcount]
    _ = (s.withOwner p tryModuleGet).withOwner p modulePut := by rw [hset]
    _ = s.withOwner p fun m => modulePut (tryModuleGet m) := by
          unfold KernelState.withOwner
          cases howner : (s.heap p).uioOwner with
          | none => simp [howner]
          | some m => simp [howner, KernelState.setModule]

/-! ## What the clean-up keeps -/

/-- What the loop does with the first entry: it drops the count and the entry, or keeps it. -/
theorem freeRefsLoop_cons {k : ResourceKind} {pid : Pid} {pos : ResourceRef k}
    {rest kept : List (ResourceRef k)} {s s' : KernelState}
    (h : freeRefsLoop pid (pos :: rest) s = some (kept, s')) :
    (pos.pid = pid ∧ ∃ p, s.devices pos.token.deviceIndex = some p ∧
        freeRefsLoop pid rest (resourceDecrRefCount s p ⟨k, pos.token.resourceIndex⟩).2 =
          some (kept, s')) ∨
      (pos.pid ≠ pid ∧ ∃ kept', kept = pos :: kept' ∧
        freeRefsLoop pid rest s = some (kept', s')) := by
  by_cases hpid : pos.pid = pid
  · cases hslot : s.devices pos.token.deviceIndex with
    | none => simp [freeRefsLoop, hpid, hslot] at h
    | some p => exact Or.inl ⟨hpid, p, rfl, by simpa [freeRefsLoop, hpid, hslot] using h⟩
  · simp only [freeRefsLoop, hpid, if_false] at h
    rcases Option.map_eq_some_iff.1 h with ⟨⟨kept', t⟩, hrest, heq⟩
    cases heq
    exact Or.inr ⟨hpid, kept', rfl, hrest⟩

section Preserved

variable {I : KernelState → Prop} {pid : Pid}

/-- The clean-up keeps what decrements and the rewriting of the lists keep. -/
theorem freeRefsLoop_preserves {k : ResourceKind}
    (hdecr : ∀ {s d p}, I s → s.devices d = some p → ∀ x, I (resourceDecrRefCount s p x).2) :
    ∀ {l kept : List (ResourceRef k)} {s s' : KernelState}, I s →
      freeRefsLoop pid l s = some (kept, s') → I s' := by
  intro l
  induction l with
  | nil =>
      intro kept s s' hI h
      cases h
      exact hI
  | cons pos rest ih =>
      intro kept s s' hI h
      rcases freeRefsLoop_cons h with ⟨_, p, hslot, hrest⟩ | ⟨_, kept', _, hrest⟩
      · exact ih (hdecr hI hslot _) hrest
      · exact ih hI hrest

theorem managerFreeRefsForPid_preserves
    (hdecr : ∀ {s d p}, I s → s.devices d = some p → ∀ x, I (resourceDecrRefCount s p x).2)
    (hrefs : ∀ {s} (k : ResourceKind) (l : List (ResourceRef k)), I s → I (s.setRefs k l))
    {s s' : KernelState} (hI : I s) (h : managerFreeRefsForPid s pid = some s') : I s' := by
  have hloop : ∀ {k : ResourceKind} {t t' : KernelState}, I t → freeRefs k pid t = some t' →
      I t' := by
    intro k t t' ht h
    rcases Option.map_eq_some_iff.1 h with ⟨⟨kept, u⟩, hu, rfl⟩
    exact hrefs _ _ (freeRefsLoop_preserves hdecr ht hu)
  rcases Option.bind_eq_some_iff.1 h with ⟨t, hmem, hevt⟩
  exact hloop (hloop hI hmem) hevt

end Preserved

theorem freeRefsLoop_sameShape {k : ResourceKind} {pid : Pid} {l kept : List (ResourceRef k)}
    {s s' : KernelState} (h : freeRefsLoop pid l s = some (kept, s')) :
    SameShape s s' ∧ s'.refs = s.refs := by
  refine freeRefsLoop_preserves (I := fun t => SameShape s t ∧ t.refs = s.refs) ?_
    ⟨SameShape.refl s, rfl⟩ h
  rintro t d p ⟨hshape, hrefs⟩ _ x
  exact ⟨hshape.trans (sameShape_resourceDecrRefCount t p x), by simpa using hrefs⟩

theorem freeRefs_sameShape {k : ResourceKind} {pid : Pid} {s s' : KernelState}
    (h : freeRefs k pid s = some s') : SameShape s s' := by
  rcases Option.map_eq_some_iff.1 h with ⟨⟨kept, t⟩, hloop, rfl⟩
  exact (freeRefsLoop_sameShape hloop).1.trans (sameShape_setRefs _ _ _)

theorem managerFreeRefsForPid_sameShape {pid : Pid} {s s' : KernelState}
    (h : managerFreeRefsForPid s pid = some s') : SameShape s s' := by
  rcases Option.bind_eq_some_iff.1 h with ⟨t, hmem, hevt⟩
  exact (freeRefs_sameShape hmem).trans (freeRefs_sameShape hevt)

end Cuddl
