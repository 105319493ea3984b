import Cuddl.Foundation.CString
import Cuddl.Foundation.Search
import Cuddl.Kernel.Types

/-!
# Searching the device table

The search routines of `cuddlk_common.c` and `cuddlk_manager_common.c`.  Each is one loop over an
array, so each is a `searchFrom` with the loop body as its test.  Routines that return an index or
`-ENXIO` return an `Option` here.
-/

namespace Cuddl

open Foundation.CString Foundation.Search

/-- `struct cuddl_resource_id`: three `char[CUDDL_MAX_STR_LEN]` buffers and a number. -/
structure ResourceId where
  group : List UInt8
  device : List UInt8
  resource : List UInt8
  instanceId : Int

/-- `p && (strnlen(p, CUDDLK_MAX_STR_LEN) > 0)` -/
def specified : Option (List UInt8) → Bool
  | none => false
  | some p => 0 < strnlen p maxStrLen

/-- A search pattern against a name of the device.  An unspecified pattern fits anything; a
managed device has a group and a name, so the comparison never meets `NULL`. -/
def fieldMatches (field : Option KStr) (pattern : Option (List UInt8)) : Bool :=
  if specified pattern then
    match field, pattern with
    | some f, some p => strncmp f.chars p maxStrLen == 0
    | _, _ => false
  else
    true

/-- The body of the loop over `mem` or `events`: only a named slot is populated. -/
def resourceMatches (r : Resource) (name : Option (List UInt8)) : Bool :=
  r.name.isSome && fieldMatches r.name name

def deviceFindSlot (k : ResourceKind) (dev : Device) (name : Option (List UInt8)) :
    Option (Fin k.max) :=
  searchFrom (fun i => resourceMatches (dev.resource ⟨k, i⟩) name) 0

def deviceFindMemregionSlot (dev : Device) (name : Option (List UInt8)) :
    Option (Fin (ResourceKind.max .memregion)) :=
  deviceFindSlot .memregion dev name

def deviceFindEventsrcSlot (dev : Device) (name : Option (List UInt8)) :
    Option (Fin (ResourceKind.max .eventsrc)) :=
  deviceFindSlot .eventsrc dev name

/-- The resource check of the device search; `none` is `CUDDLK_RESOURCE_UNSPECIFIED`. -/
def deviceOffers (dev : Device) (resource : Option (List UInt8)) :
    Option ResourceKind → Bool
  | some .memregion => !specified resource || (deviceFindMemregionSlot dev resource).isSome
  | some .eventsrc => !specified resource || (deviceFindEventsrcSlot dev resource).isSome
  | none => !specified resource

/-- The instance, group and name checks of the device search. -/
def deviceAgrees (dev : Device) (group name : Option (List UInt8)) (instanceId : Int) : Bool :=
  (instanceId == 0 || dev.instanceId == instanceId) &&
    fieldMatches dev.group group && fieldMatches dev.name name

def managerFindDeviceSlotMatching (s : KernelState) (group name resource : Option (List UInt8))
    (instanceId : Int) (type : Option ResourceKind) (startIndex : Nat) : Option Slot :=
  searchFrom
    (fun d =>
      match s.devices d with
      | none => false
      | some p =>
          deviceAgrees (s.heap p) group name instanceId &&
            deviceOffers (s.heap p) resource type)
    startIndex

def managerFindDeviceSlot (s : KernelState) (dev : Option DevPtr) : Option Slot :=
  -- an empty slot is found as the pointer `NULL`
  searchFrom (fun d => s.devices d == dev) 0

def managerFindEmptySlot (s : KernelState) : Option Slot :=
  managerFindDeviceSlot s none

/-- The two searches that the CLAIM, INFO, REF_COUNT and DECREMENT ioctls start with; `none` is
`-ENXIO`, which both searches return when they find nothing. -/
def managerLookup (s : KernelState) (k : ResourceKind) (id : ResourceId) :
    Option (Slot × DevPtr × Fin k.max) :=
  match managerFindDeviceSlotMatching s (some id.group) (some id.device) (some id.resource)
      id.instanceId (some k) 0 with
  | none => none
  | some d =>
      match s.devices d with
      | none => none -- not reached: the search stops at occupied slots only
      | some p => (deviceFindSlot k (s.heap p) (some id.resource)).map fun i => (d, p, i)

/-! ## What the tests mean -/

/-- A name agrees with a pattern: the pattern is unspecified, or the two are equal under a
comparison of at most `CUDDLK_MAX_STR_LEN` characters. -/
def Agrees (field : Option KStr) (pattern : List UInt8) : Prop :=
  text maxStrLen pattern = [] ∨
    ∃ f, field = some f ∧ text maxStrLen f.chars = text maxStrLen pattern

theorem specified_some_iff {p : List UInt8} :
    specified (some p) = true ↔ text maxStrLen p ≠ [] := by
  simp [specified, strnlen_pos_iff]

theorem fieldMatches_some_iff {field : Option KStr} {p : List UInt8} :
    fieldMatches field (some p) = true ↔ Agrees field p := by
  -- an unspecified pattern skips the comparison
  by_cases hp : text maxStrLen p = []
  · have hspec : specified (some p) = false := by
      simpa [hp] using (not_congr (specified_some_iff (p := p)))
    simp [fieldMatches, hspec, Agrees, hp]
  · have hspec : specified (some p) = true := specified_some_iff.2 hp
    cases field with
    | none => simp [fieldMatches, hspec, Agrees, hp]
    | some f => simp [fieldMatches, hspec, Agrees, hp, strncmp_eq_zero_iff]

theorem resourceMatches_some_iff {r : Resource} {p : List UInt8} :
    resourceMatches r (some p) = true ↔ r.name.isSome ∧ Agrees r.name p := by
  simp [resourceMatches, fieldMatches_some_iff]

theorem deviceOffers_iff {dev : Device} {p : List UInt8} {k : ResourceKind} :
    deviceOffers dev (some p) (some k) = true ↔
      text maxStrLen p = [] ∨
        ∃ i, resourceMatches (dev.resource ⟨k, i⟩) (some p) = true := by
  have hfind : (deviceFindSlot k dev (some p)).isSome = true ↔
      ∃ i, resourceMatches (dev.resource ⟨k, i⟩) (some p) = true := by
    rw [Option.isSome_iff_ne_none, Ne, deviceFindSlot, searchFrom_eq_none_iff]
    simp
  have hspec : specified (some p) = false ↔ text maxStrLen p = [] := by
    rw [← Bool.not_eq_true, specified_some_iff, not_not]
  cases k with
  | memregion =>
      simp only [deviceOffers, deviceFindMemregionSlot, Bool.or_eq_true, Bool.not_eq_true', hspec,
        hfind]
  | eventsrc =>
      simp only [deviceOffers, deviceFindEventsrcSlot, Bool.or_eq_true, Bool.not_eq_true', hspec,
        hfind]

theorem deviceAgrees_iff {dev : Device} {group name : List UInt8} {instanceId : Int} :
    deviceAgrees dev (some group) (some name) instanceId = true ↔
      (instanceId = 0 ∨ dev.instanceId = instanceId) ∧ Agrees dev.group group ∧
        Agrees dev.name name := by
  simp [deviceAgrees, fieldMatches_some_iff, and_assoc]

/-- A successful lookup names an occupied slot and a resource that passes the second search. -/
theorem managerLookup_eq_some {s : KernelState} {k : ResourceKind} {id : ResourceId} {d : Slot}
    {p : DevPtr} {i : Fin k.max} (h : managerLookup s k id = some (d, p, i)) :
    s.devices d = some p ∧
      resourceMatches ((s.heap p).resource ⟨k, i⟩) (some id.resource) = true := by
  unfold managerLookup at h
  split at h
  · cases h
  · rename_i d' _
    split at h
    · cases h
    · rename_i p' hp'
      rcases Option.map_eq_some_iff.1 h with ⟨j, hj, heq⟩
      cases heq
      exact ⟨hp', (searchFrom_eq_some_iff.1 hj).2.1⟩

/-- With one device in the table, a lookup by the name of a resource finds the only resource with
that name. -/
theorem managerLookup_only {s : KernelState} {k : ResourceKind} {d : Slot} {p : DevPtr}
    {name : List UInt8} {i : Fin k.max} (honly : ∀ e q, s.devices e = some q ↔ e = d ∧ q = p)
    (hmatch : ∀ j, resourceMatches ((s.heap p).resource ⟨k, j⟩) (some name) = true ↔ j = i) :
    managerLookup s k ⟨[], [], name, 0⟩ = some (d, p, i) := by
  have hd : s.devices d = some p := (honly d p).2 ⟨rfl, rfl⟩
  have hfound : managerFindDeviceSlotMatching s (some []) (some []) (some name) 0 (some k) 0 =
      some d := by
    refine searchFrom_of_unique ?_ ?_
    · rw [hd]
      simp only [Bool.and_eq_true]
      exact ⟨deviceAgrees_iff.2 ⟨Or.inl rfl, Or.inl rfl, Or.inl rfl⟩,
        deviceOffers_iff.2 (Or.inr ⟨i, (hmatch i).2 rfl⟩)⟩
    · intro e he
      cases hq : s.devices e with
      | none => simp [hq] at he
      | some q => exact ((honly e q).1 hq).1
  have hslot : deviceFindSlot k (s.heap p) (some name) = some i :=
    searchFrom_of_unique ((hmatch i).2 rfl) fun j hj => (hmatch j).1 hj
  simp [managerLookup, hfound, hd, hslot]

end Cuddl
