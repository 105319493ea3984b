import Cuddl.Kernel.System

/-!
# Lookups with unspecified fields

The CLAIM, INFO, REF_COUNT and DECREMENT ioctls look for a device first and for a resource inside
it next.  They should find the first pair of a managed device and a populated slot in which every
specified field agrees.

The device search asks a device for the resource only when the resource is named.  Without a
resource name it stops at the first device that agrees, and the lookup ends there even when that
device has no resource of the kind and a later one has (`managerLookup_returnsLeast_iff`).
-/

namespace Cuddl

open Foundation.CString Foundation.Search

/-! ## What a lookup is for -/

/-- Slot `d` holds a device that agrees with the group, the device and the instance of `id`. -/
def AgreeingSlot (s : KernelState) (id : ResourceId) (d : Slot) : Prop :=
  ∃ p ∈ s.devices d, (id.instanceId = 0 ∨ (s.heap p).instanceId = id.instanceId) ∧
    Agrees (s.heap p).group id.group ∧ Agrees (s.heap p).name id.device

/-- The device in slot `d` has a resource in slot `i`. -/
def Populated (s : KernelState) (k : ResourceKind) (d : Slot) (i : Fin k.max) : Prop :=
  ∃ p ∈ s.devices d, ((s.heap p).resource ⟨k, i⟩).name.isSome

/-- The pairs a lookup of `id` may return. -/
def qualifying (s : KernelState) (k : ResourceKind) (id : ResourceId) :
    Set (Slot ×ₗ Fin k.max) :=
  {x | AgreeingSlot s id (ofLex x).1 ∧
    ∃ p ∈ s.devices (ofLex x).1, ((s.heap p).resource ⟨k, (ofLex x).2⟩).name.isSome ∧
      Agrees ((s.heap p).resource ⟨k, (ofLex x).2⟩).name id.resource}

/-- The pair of slots that a lookup returns. -/
def lookupSlots (s : KernelState) (k : ResourceKind) (id : ResourceId) :
    Option (Slot ×ₗ Fin k.max) :=
  (managerLookup s k id).map fun r => toLex (r.1, r.2.2)

/-! ## The lookup as two searches -/

section Searches

variable (s : KernelState) (k : ResourceKind) (id : ResourceId)

/-- The test of the device search. -/
def deviceTest (d : Slot) : Bool :=
  match s.devices d with
  | none => false
  | some p =>
      deviceAgrees (s.heap p) (some id.group) (some id.device) id.instanceId &&
        deviceOffers (s.heap p) (some id.resource) (some k)

/-- The test of the resource search. -/
def resourceTest (d : Slot) (i : Fin k.max) : Bool :=
  match s.devices d with
  | none => false
  | some p => resourceMatches ((s.heap p).resource ⟨k, i⟩) (some id.resource)

theorem lookupSlots_eq_searchPair :
    lookupSlots s k id = searchPair (deviceTest s k id) (resourceTest s k id) := by
  have hdevice : managerFindDeviceSlotMatching s (some id.group) (some id.device)
      (some id.resource) id.instanceId (some k) 0 = searchFrom (deviceTest s k id) 0 := rfl
  unfold lookupSlots managerLookup searchPair
  rw [hdevice]
  cases hd : searchFrom (deviceTest s k id) 0 with
  | none => rfl
  | some d =>
      -- the search stops at occupied slots, so the second lookup of the slot succeeds
      have hpass := (searchFrom_eq_some_iff.1 hd).2.1
      cases hp : s.devices d with
      | none => simp [deviceTest, hp] at hpass
      | some p =>
          have hinner : deviceFindSlot k (s.heap p) (some id.resource) =
              searchFrom (resourceTest s k id d) 0 := by
            unfold deviceFindSlot
            congr 1
            funext i
            simp [resourceTest, hp]
          simp [hp, hinner, Function.comp_def]

theorem resourceTest_iff {d : Slot} {i : Fin k.max} :
    resourceTest s k id d i = true ↔
      ∃ p ∈ s.devices d, ((s.heap p).resource ⟨k, i⟩).name.isSome ∧
        Agrees ((s.heap p).resource ⟨k, i⟩).name id.resource := by
  cases hp : s.devices d with
  | none => simp [resourceTest, hp]
  | some p => simp [resourceTest, hp, resourceMatches_some_iff]

theorem deviceTest_iff {d : Slot} :
    deviceTest s k id d = true ↔
      AgreeingSlot s id d ∧
        (text maxStrLen id.resource = [] ∨ ∃ i, resourceTest s k id d i = true) := by
  cases hp : s.devices d with
  | none => simp [deviceTest, AgreeingSlot, hp]
  | some p =>
      simp [deviceTest, resourceTest, AgreeingSlot, hp, deviceAgrees_iff, deviceOffers_iff]

theorem qualifying_eq_pairs :
    qualifying s k id = pairs (AgreeingSlot s id) (resourceTest s k id) := by
  ext x
  simp [qualifying, pairs, resourceTest_iff]

end Searches

/-! ## When the lookup is right -/

/-- The lookup is right exactly when the resource is named, or the first agreeing device has a
resource of the kind, or no agreeing device has one. -/
theorem managerLookup_returnsLeast_iff (s : KernelState) (k : ResourceKind) (id : ResourceId) :
    ReturnsLeast (lookupSlots s k id) (qualifying s k id) ↔
      text maxStrLen id.resource ≠ [] ∨
        (∀ d, IsLeast {d | AgreeingSlot s id d} d → ∃ i, Populated s k d i) ∨
        ∀ d i, AgreeingSlot s id d → ¬ Populated s k d i := by
  have hpair : ReturnsLeast (lookupSlots s k id) (qualifying s k id) ↔
      (∀ d, searchFrom (deviceTest s k id) 0 = some d → ∃ i, resourceTest s k id d i = true) ∨
        pairs (AgreeingSlot s id) (resourceTest s k id) = ∅ := by
    rw [lookupSlots_eq_searchPair, qualifying_eq_pairs]
    refine searchPair_returnsLeast_iff ?_ ?_
    · intro d hd
      exact ((deviceTest_iff s k id).1 hd).1
    · intro d i hd hi
      exact (deviceTest_iff s k id).2 ⟨hd, Or.inr ⟨i, hi⟩⟩
  rw [hpair]
  by_cases hnamed : text maxStrLen id.resource = []
  · -- an unnamed resource is any populated slot, and the device search does not ask for one
    have hres : ∀ d i, resourceTest s k id d i = true ↔ Populated s k d i := by
      intro d i
      rw [resourceTest_iff]
      simp [Populated, Agrees, hnamed]
    have hfirst : ∀ d, searchFrom (deviceTest s k id) 0 = some d ↔
        IsLeast {d | AgreeingSlot s id d} d := by
      intro d
      -- without a resource name the test is agreement alone
      have htest : ∀ e, deviceTest s k id e = true ↔ AgreeingSlot s id e := by
        intro e
        rw [deviceTest_iff]
        simp [hnamed]
      rw [searchFrom_eq_some_iff]
      constructor
      · rintro ⟨_, hd, hmin⟩
        refine ⟨(htest d).1 hd, ?_⟩
        intro e he
        by_contra hlt
        have hfail := hmin e (Nat.zero_le _) (not_le.1 hlt)
        simp [(htest e).2 he] at hfail
      · rintro ⟨hd, hmin⟩
        refine ⟨Nat.zero_le _, (htest d).2 hd, ?_⟩
        intro e _ hlt
        by_contra hpass
        have hle := hmin ((htest e).1 (by simpa using hpass))
        exact absurd hlt (not_lt.2 hle)
    have hempty : pairs (AgreeingSlot s id) (resourceTest s k id) = ∅ ↔
        ∀ d i, AgreeingSlot s id d → ¬ Populated s k d i := by
      rw [Set.eq_empty_iff_forall_notMem]
      constructor
      · intro h d i hd hi
        exact h (toLex (d, i)) ⟨hd, (hres d i).2 hi⟩
      · rintro h ⟨d, i⟩ ⟨hd, hi⟩
        exact h d i hd ((hres d i).1 hi)
    simp only [hfirst, hres, hempty, hnamed, ne_eq, not_true, false_or]
  · -- a device that passes the search has the named resource
    have hleft : ∀ d, searchFrom (deviceTest s k id) 0 = some d →
        ∃ i, resourceTest s k id d i = true := by
      intro d hd
      rcases ((deviceTest_iff s k id).1 (searchFrom_eq_some_iff.1 hd).2.1).2 with hno | hi
      · exact absurd hno hnamed
      · exact hi
    exact iff_of_true (Or.inl hleft) (Or.inl hnamed)

/-- Slot 0 holds a device without memory regions, slot 1 one that has a region. -/
def Sample.mixed : KernelState :=
  { Sample.kernel with
    heap := fun p =>
      if p = 0 then { Sample.device "g" "x" with mem := Device.zeroed.mem }
      else Sample.device "g" "a"
    devices := fun d => if d = 0 then some 0 else if d = 1 then some 1 else none }

theorem managerLookup_misses :
    ¬ ReturnsLeast (lookupSlots Sample.mixed .memregion ⟨[], [], [], 0⟩)
      (qualifying Sample.mixed .memregion ⟨[], [], [], 0⟩) := by
  intro h
  have hnone : lookupSlots Sample.mixed .memregion ⟨[], [], [], 0⟩ = none := by decide +kernel
  have hempty := h.2.1 hnone
  have hmem : toLex ((1 : Slot), (0 : Fin (ResourceKind.max .memregion))) ∈
      qualifying Sample.mixed .memregion ⟨[], [], [], 0⟩ :=
    ⟨⟨1, rfl, Or.inl rfl, Or.inl rfl, Or.inl rfl⟩, ⟨1, rfl, rfl, Or.inl rfl⟩⟩
  rw [hempty] at hmem
  exact hmem

end Cuddl
