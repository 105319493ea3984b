import Cuddl.Kernel.Lookup

/-!
# Searching the table for a device

`cuddlk_manager_find_device_slot_matching` in its own terms: what it is for a device to match, said
without loops, and that the search returns the first slot with a matching device
(`deviceSearch_correct`).  The searches for a resource by name that it makes inside a device are
specified in the same way (`deviceFindSlot_returnsLeast`).
-/

namespace Cuddl

open Foundation.CString Foundation.Search

/-! ## Matching -/

/-- A pattern that asks for nothing: `NULL` or the empty string. -/
def Wildcard (pattern : Option (List UInt8)) : Prop :=
  ∀ p, pattern = some p → text maxStrLen p = []

/-- There is a name, and it is the pattern in the first `CUDDLK_MAX_STR_LEN` characters. -/
def Equals (field : Option KStr) (pattern : Option (List UInt8)) : Prop :=
  ∃ f p, field = some f ∧ pattern = some p ∧ text maxStrLen f.chars = text maxStrLen p

/-- What the search looks for. -/
structure Device.Matches (dev : Device) (group name resource : Option (List UInt8))
    (instanceId : Int) (type : Option ResourceKind) : Prop where
  instanceId : instanceId = 0 ∨ dev.instanceId = instanceId
  group : Wildcard group ∨ Equals dev.group group
  name : Wildcard name ∨ Equals dev.name name
  resource : Wildcard resource ∨
    ∃ k i, type = some k ∧ Equals (dev.resource ⟨k, i⟩).name resource

section Tests

variable {pattern : Option (List UInt8)}

theorem specified_eq_false_iff : specified pattern = false ↔ Wildcard pattern := by
  cases pattern with
  | none => simp [specified, Wildcard]
  | some p =>
      rw [← Bool.not_eq_true, specified_some_iff, not_not]
      simp [Wildcard]

theorem fieldMatches_iff {field : Option KStr} :
    fieldMatches field pattern = true ↔ Wildcard pattern ∨ Equals field pattern := by
  cases pattern with
  | none => simp [fieldMatches, specified, Wildcard]
  | some p =>
      rw [fieldMatches_some_iff, Agrees]
      simp [Wildcard, Equals]

theorem resourceMatches_iff {r : Resource} :
    resourceMatches r pattern = true ↔
      r.name.isSome = true ∧ (Wildcard pattern ∨ Equals r.name pattern) := by
  rw [resourceMatches, Bool.and_eq_true, fieldMatches_iff]

/-- The searches for a resource return the first slot that is populated and has the name. -/
theorem deviceFindSlot_returnsLeast (k : ResourceKind) (dev : Device)
    (name : Option (List UInt8)) :
    ReturnsLeast (deviceFindSlot k dev name) {i | (dev.resource ⟨k, i⟩).name.isSome = true ∧
      (Wildcard name ∨ Equals (dev.resource ⟨k, i⟩).name name)} := by
  refine searchFrom_returnsLeast ?_
  intro i
  simp [resourceMatches_iff]

/-- Asked for a name, the search succeeds when some slot has it. -/
theorem deviceFindSlot_isSome_iff {k : ResourceKind} {dev : Device} {name : Option (List UInt8)}
    (hname : ¬ Wildcard name) :
    (deviceFindSlot k dev name).isSome = true ↔ ∃ i, Equals (dev.resource ⟨k, i⟩).name name := by
  have hleast := (deviceFindSlot_returnsLeast k dev name).2
  rw [Option.isSome_iff_ne_none, Ne, hleast, Set.eq_empty_iff_forall_notMem, not_forall]
  constructor
  · rintro ⟨i, hi⟩
    exact ⟨i, (not_not.1 hi).2.resolve_left hname⟩
  · rintro ⟨i, hi⟩
    have hpopulated : (dev.resource ⟨k, i⟩).name.isSome = true := by
      rcases hi with ⟨f, p, hf, -, -⟩
      rw [hf]
      rfl
    exact ⟨i, not_not.2 ⟨hpopulated, Or.inr hi⟩⟩

theorem deviceOffers_some_eq {dev : Device} {resource : Option (List UInt8)} {k : ResourceKind} :
    deviceOffers dev resource (some k) =
      (!specified resource || (deviceFindSlot k dev resource).isSome) := by
  cases k with
  | memregion => rfl
  | eventsrc => rfl

theorem deviceOffers_resource_iff {dev : Device} {resource : Option (List UInt8)}
    {type : Option ResourceKind} :
    deviceOffers dev resource type = true ↔
      Wildcard resource ∨ ∃ k i, type = some k ∧ Equals (dev.resource ⟨k, i⟩).name resource := by
  -- without a name there is no second search
  by_cases hwild : Wildcard resource
  · have hspec := specified_eq_false_iff.2 hwild
    refine iff_of_true ?_ (Or.inl hwild)
    cases type with
    | none => simp [deviceOffers, hspec]
    | some k => simp [deviceOffers_some_eq, hspec]
  · have hspec : specified resource = true := by
      rw [← Bool.not_eq_false, specified_eq_false_iff]
      exact hwild
    cases type with
    | none => simp [deviceOffers, hspec, hwild]
    | some k =>
        rw [deviceOffers_some_eq, hspec, Bool.not_true, Bool.false_or,
          deviceFindSlot_isSome_iff hwild]
        constructor
        · rintro ⟨i, hi⟩
          exact Or.inr ⟨k, i, rfl, hi⟩
        · rintro (h | ⟨k', i, hk, hi⟩)
          · exact absurd h hwild
          · cases hk
            exact ⟨i, hi⟩

theorem matches_iff {dev : Device} {group name resource : Option (List UInt8)} {instanceId : Int}
    {type : Option ResourceKind} :
    (deviceAgrees dev group name instanceId && deviceOffers dev resource type) = true ↔
      dev.Matches group name resource instanceId type := by
  rw [Bool.and_eq_true, deviceAgrees, Bool.and_eq_true, Bool.and_eq_true, fieldMatches_iff,
    fieldMatches_iff, deviceOffers_resource_iff, Bool.or_eq_true, beq_iff_eq, beq_iff_eq]
  constructor
  · rintro ⟨⟨⟨hinst, hgroup⟩, hname⟩, hresource⟩
    exact ⟨hinst, hgroup, hname, hresource⟩
  · rintro ⟨hinst, hgroup, hname, hresource⟩
    exact ⟨⟨⟨hinst, hgroup⟩, hname⟩, hresource⟩

end Tests

/-! ## The search -/

/-- The slots from `startIndex` on whose device matches. -/
def matchingSlots (s : KernelState) (group name resource : Option (List UInt8)) (instanceId : Int)
    (type : Option ResourceKind) (startIndex : Nat) : Set Slot :=
  {d | startIndex ≤ d.val ∧
    ∃ p, s.devices d = some p ∧ (s.heap p).Matches group name resource instanceId type}

/-- What a search for a slot returns as an `int`. -/
def slotOrError : Option Slot → Int
  | some d => d.val
  | none => -Errno.ENXIO

theorem managerFindDeviceSlotMatching_returnsLeast (s : KernelState)
    (group name resource : Option (List UInt8)) (instanceId : Int) (type : Option ResourceKind)
    (startIndex : Nat) :
    ReturnsLeast
      (managerFindDeviceSlotMatching s group name resource instanceId type startIndex)
      (matchingSlots s group name resource instanceId type startIndex) := by
  refine searchFrom_returnsLeast ?_
  intro d
  refine and_congr_right fun _ => ?_
  cases hd : s.devices d with
  | none => simp
  | some p => simp only [matches_iff, Option.some.injEq, exists_eq_left']

/-- The search returns the least slot from `startIndex` on with a matching device, and `-ENXIO`
when there is none. -/
theorem deviceSearch_correct (s : KernelState) (group name resource : Option (List UInt8))
    (instanceId : Int) (type : Option ResourceKind) (startIndex : Nat) :
    let ret := slotOrError
      (managerFindDeviceSlotMatching s group name resource instanceId type startIndex)
    let slots := matchingSlots s group name resource instanceId type startIndex
    (∀ d : Slot, ret = d.val ↔ IsLeast slots d) ∧ (ret = -Errno.ENXIO ↔ slots = ∅) := by
  have hleast := managerFindDeviceSlotMatching_returnsLeast s group name resource instanceId type
    startIndex
  revert hleast
  generalize managerFindDeviceSlotMatching s group name resource instanceId type startIndex = res
  generalize matchingSlots s group name resource instanceId type startIndex = slots
  rintro ⟨hsome, hnone⟩
  cases res with
  | none =>
      have hempty : slots = ∅ := hnone.1 rfl
      refine ⟨?_, iff_of_true rfl hempty⟩
      intro d
      refine iff_of_false ?_ ?_
      · have hnonneg := Int.natCast_nonneg d.val
        simp only [slotOrError, Errno.ENXIO]
        omega
      · rintro ⟨hmem, -⟩
        rw [hempty] at hmem
        exact hmem
  | some e =>
      have he := hsome e rfl
      refine ⟨?_, iff_of_false ?_ ?_⟩
      · intro d
        constructor
        · intro h
          have hval : e = d := Fin.ext (Int.ofNat_inj.1 h)
          rwa [← hval]
        · intro h
          rw [h.unique he]
          rfl
      · have hnonneg := Int.natCast_nonneg e.val
        simp only [slotOrError, Errno.ENXIO]
        omega
      · exact Set.nonempty_iff_ne_empty.1 ⟨e, he.1⟩

end Cuddl
