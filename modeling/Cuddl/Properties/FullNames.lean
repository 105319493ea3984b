import Cuddl.Properties.WildcardLookup
import Cuddl.User.ResourceID

/-!
# Printed names read back

`full_name` prints a field that is left out as `*`.  Read back, the star is a name like any other,
and no number at all, which makes the instance `-1`; a lookup gives neither a special meaning.  So
what a reparsed id matches is what the id itself matches, as long as every device that it matches
meets what the star has turned into (`sameMatches_iff`).
-/

namespace Cuddl
namespace User

open Foundation.CString Foundation.TextFields Foundation.Search

/-! ## What is compared -/

/-- The strings of an id end in their buffers and have no slash in them, and the instance is an
`int`. -/
structure Printable (id : ResourceId) : Prop where
  group : (text maxStrLen id.group).length < maxStrLen ∧ slash ∉ text maxStrLen id.group
  device : (text maxStrLen id.device).length < maxStrLen ∧ slash ∉ text maxStrLen id.device
  resource : (text maxStrLen id.resource).length < maxStrLen ∧ slash ∉ text maxStrLen id.resource
  instanceId : -2147483648 ≤ id.instanceId ∧ id.instanceId ≤ 2147483647

/-- No name of a managed device or of its resources has a star in it. -/
def NoStars (s : KernelState) : Prop :=
  ∀ d p, s.devices d = some p → (∀ name, (s.heap p).name = some name → 42 ∉ name.chars) ∧
    ∀ x name, ((s.heap p).resource x).name = some name → 42 ∉ name.chars

/-- The two searches of a lookup stop at the same devices, and at the same resources in them. -/
structure SameMatches (s : KernelState) (id id' : ResourceId) : Prop where
  device : ∀ k d, deviceTest s k id' d = deviceTest s k id d
  resource : ∀ k d i, deviceTest s k id d = true →
    resourceTest s k id' d i = resourceTest s k id d i

/-- A device that `id` matches meets what the fields that `id` leaves out turn into: no device
meets a star for its name or for a resource. -/
structure MeetsStars (dev : Device) (id : ResourceId) : Prop where
  group : text maxStrLen id.group = [] →
    ∃ group, dev.group = some group ∧ text maxStrLen group.chars = star
  device : text maxStrLen id.device ≠ []
  resource : text maxStrLen id.resource ≠ []
  instanceId : id.instanceId = 0 → dev.instanceId = -1

/-! ## Printing and reading back -/

theorem text_strncpy {dst s : List UInt8} (hs : s.length < maxStrLen) (hnz : ∀ c ∈ s, c ≠ 0)
    (hdst : dst.drop (maxStrLen - 1) = [0]) :
    text maxStrLen (strncpy dst s (maxStrLen - 1)) = s := by
  have htext : text (maxStrLen - 1) s = s := text_eq_self hnz (Nat.le_sub_one_of_lt hs)
  unfold strncpy
  rw [htext, hdst, List.append_assoc]
  -- the string is followed by padding or by the byte behind it, a terminator in any case
  cases hpad : maxStrLen - 1 - s.length with
  | zero => exact text_append_nul hnz hs
  | succ n => exact text_append_nul hnz hs

/-- A string that is copied into a cleared field is read back from it. -/
theorem text_strncpy_cleared {s : List UInt8} (hs : s.length < maxStrLen) (hnz : ∀ c ∈ s, c ≠ 0) :
    text maxStrLen (strncpy (List.replicate maxStrLen 0) s (maxStrLen - 1)) = s := by
  refine text_strncpy hs hnz ?_
  rw [List.drop_replicate]
  rfl

theorem ne_zero_of_mem_text :
    ∀ {n : Nat} {l : List UInt8} {c : UInt8}, c ∈ text n l → c ≠ 0
  | _ + 1, d :: ds, c, h => by
      by_cases hd : d = 0
      · simp [text, hd] at h
      · simp only [text, hd, if_false, List.mem_cons] at h
        rcases h with rfl | h
        · exact hd
        · exact ne_zero_of_mem_text h

theorem stoi_decimal {n : Int} (hn : -2147483648 ≤ n ∧ n ≤ 2147483647) :
    stoi (decimal n) = some n := by
  simp [stoi, parseInt_decimal, hn]

/-- A printed field: not empty, no slash in it, and short enough to be read back. -/
theorem orStar_spec {buffer : List UInt8}
    (h : (text maxStrLen buffer).length < maxStrLen ∧ slash ∉ text maxStrLen buffer) :
    slash ∉ ResourceID.orStar buffer ∧ (ResourceID.orStar buffer).length < maxStrLen ∧
      ∀ c ∈ ResourceID.orStar buffer, c ≠ 0 := by
  unfold ResourceID.orStar
  split
  · exact ⟨by decide, by simp [star, maxStrLen], by simp [star]⟩
  · exact ⟨h.2, h.1, fun c hc => ne_zero_of_mem_text hc⟩

/-- The fields of a reparsed id. -/
structure Reparsed (id id' : ResourceId) : Prop where
  group : text maxStrLen id'.group = ResourceID.orStar id.group
  device : text maxStrLen id'.device = ResourceID.orStar id.device
  resource : text maxStrLen id'.resource = ResourceID.orStar id.resource
  instanceId : id'.instanceId = if id.instanceId = 0 then -1 else id.instanceId

theorem reparsed_ofFullName {id : ResourceId} (h : Printable id) :
    Reparsed id (ResourceID.ofFullName (ResourceID.fullName id)) := by
  rcases orStar_spec h.group with ⟨hgSlash, hgLen, hgNz⟩
  rcases orStar_spec h.device with ⟨hdSlash, hdLen, hdNz⟩
  rcases orStar_spec h.resource with ⟨hrSlash, hrLen, hrNz⟩
  let last : List UInt8 := if id.instanceId ≠ 0 then decimal id.instanceId else star
  have hparsed : ResourceID.ofFullName (ResourceID.fullName id) =
      ResourceID.setInstanceStr
        (ResourceID.setResource
          (ResourceID.setDevice
            (ResourceID.setGroup ResourceID.zeroed (ResourceID.orStar id.group))
            (ResourceID.orStar id.device))
          (ResourceID.orStar id.resource)) last := by
    simp only [ResourceID.ofFullName, ResourceID.fullName, cut_append hgSlash,
      cut_append hdSlash, cut_append hrSlash]
    rfl
  have hlast : 0 < last.length ∧
      (stoi last).getD (-1) = if id.instanceId = 0 then -1 else id.instanceId := by
    by_cases hinst : id.instanceId = 0
    · have hstar : last = star := by simp [last, hinst]
      rw [hstar, if_pos hinst]
      exact ⟨by decide, rfl⟩
    · have hdecimal : last = decimal id.instanceId := by simp [last, hinst]
      rw [hdecimal, if_neg hinst, stoi_decimal h.instanceId]
      exact ⟨List.length_pos_iff.2 (decimal_ne_nil _), rfl⟩
  rw [hparsed]
  simp only [ResourceID.setInstanceStr, hlast.1, if_true, ResourceID.setInstance, hlast.2]
  exact ⟨text_strncpy_cleared hgLen hgNz, text_strncpy_cleared hdLen hdNz,
    text_strncpy_cleared hrLen hrNz, rfl⟩

/-! ## What the reparsed id matches -/

/-- A name agrees with a printed field: with the field, or with the star for one left out. -/
theorem agrees_orStar_iff {field : Option KStr} {pattern pattern' : List UInt8}
    (h : text maxStrLen pattern' = ResourceID.orStar pattern) :
    Agrees field pattern' ↔
      if text maxStrLen pattern = [] then ∃ f, field = some f ∧ text maxStrLen f.chars = star
      else Agrees field pattern := by
  by_cases hempty : text maxStrLen pattern = []
  · simp [Agrees, h, ResourceID.orStar, hempty, star]
  · simp [Agrees, h, ResourceID.orStar, hempty]

/-- A name without a star is none. -/
theorem text_ne_star {name : KStr} (h : (42 : UInt8) ∉ name.chars) :
    text maxStrLen name.chars ≠ star := by
  intro htext
  rcases hc : name.chars with _ | ⟨c, cs⟩
  · simp [hc, text, star] at htext
  · have hne : c ≠ 0 := name.nonzero c (by simp [hc])
    rw [hc] at htext
    simp only [text, hne, if_false, star, List.cons.injEq] at htext
    exact h (by simp [hc, htext.1])

section Matching

variable {s : KernelState} {id id' : ResourceId}

/-- A field that is specified reads back as it is. -/
theorem Reparsed.resourceTest (h : Reparsed id id') (hres : text maxStrLen id.resource ≠ [])
    (k : ResourceKind) (d : Slot) (i : Fin k.max) :
    resourceTest s k id' d i = Cuddl.resourceTest s k id d i := by
  rw [Bool.eq_iff_iff, resourceTest_iff, resourceTest_iff]
  simp only [agrees_orStar_iff h.resource, if_neg hres]

/-- The star demands more than a field that is left out. -/
theorem Reparsed.agrees {field : Option KStr} {pattern pattern' : List UInt8}
    (h : text maxStrLen pattern' = ResourceID.orStar pattern) (hagrees : Agrees field pattern') :
    Agrees field pattern := by
  rw [agrees_orStar_iff h] at hagrees
  split at hagrees
  · rename_i hempty
    exact Or.inl hempty
  · exact hagrees

theorem Reparsed.deviceTest (h : Reparsed id id') {k : ResourceKind} {d : Slot}
    (htest : Cuddl.deviceTest s k id' d = true) : Cuddl.deviceTest s k id d = true := by
  rcases (deviceTest_iff s k id').1 htest with ⟨⟨p, hp, hinst, hgroup, hname⟩, hres⟩
  refine (deviceTest_iff s k id).2 ⟨⟨p, hp, ?_, Reparsed.agrees h.group hgroup,
    Reparsed.agrees h.device hname⟩, ?_⟩
  · rw [h.instanceId] at hinst
    by_cases hzero : id.instanceId = 0
    · exact Or.inl hzero
    · simpa [hzero] using hinst
  · by_cases hempty : text maxStrLen id.resource = []
    · exact Or.inl hempty
    · -- the resource is named, so both ids look for the same one
      right
      have hne : text maxStrLen id'.resource ≠ [] := by
        rw [h.resource, ResourceID.orStar, if_neg hempty]
        exact hempty
      rcases hres.resolve_left hne with ⟨i, hi⟩
      exact ⟨i, by rw [← h.resourceTest hempty, hi]⟩

/-- A device that `id` matches and that meets the stars is matched by the reparsed id. -/
theorem MeetsStars.deviceTest (h : Reparsed id id') {k : ResourceKind} {d : Slot} {p : DevPtr}
    (hp : s.devices d = some p) (hmeets : MeetsStars (s.heap p) id)
    (htest : Cuddl.deviceTest s k id d = true) : Cuddl.deviceTest s k id' d = true := by
  rcases (deviceTest_iff s k id).1 htest with ⟨⟨q, hq, hinst, hgroup, hname⟩, hres⟩
  cases hp.symm.trans hq
  refine (deviceTest_iff s k id').2 ⟨⟨p, hp, ?_, ?_, ?_⟩, ?_⟩
  · right
    rw [h.instanceId]
    by_cases hzero : id.instanceId = 0
    · rw [if_pos hzero, hmeets.instanceId hzero]
    · rw [if_neg hzero, hinst.resolve_left hzero]
  · rw [agrees_orStar_iff h.group]
    split
    · rename_i hempty
      exact hmeets.group hempty
    · exact hgroup
  · rw [agrees_orStar_iff h.device, if_neg hmeets.device]
    exact hname
  · rcases hres.resolve_left hmeets.resource with ⟨i, hi⟩
    exact Or.inr ⟨i, by rw [h.resourceTest hmeets.resource, hi]⟩

/-- A device that the reparsed id matches meets the stars. -/
theorem MeetsStars.of_deviceTest (h : Reparsed id id') (hs : NoStars s) {k : ResourceKind}
    {d : Slot} {p : DevPtr} (hp : s.devices d = some p)
    (htest : Cuddl.deviceTest s k id' d = true) : MeetsStars (s.heap p) id := by
  rcases (deviceTest_iff s k id').1 htest with ⟨⟨q, hq, hinst, hgroup, hname⟩, hres⟩
  cases hp.symm.trans hq
  rw [agrees_orStar_iff h.group] at hgroup
  rw [agrees_orStar_iff h.device] at hname
  refine ⟨?_, ?_, ?_, ?_⟩
  · intro hempty
    rwa [if_pos hempty] at hgroup
  · intro hempty
    rw [if_pos hempty] at hname
    rcases hname with ⟨name, hname, htext⟩
    exact text_ne_star ((hs d p hp).1 name hname) htext
  · intro hempty
    have hstar : text maxStrLen id'.resource = star := by
      rw [h.resource, ResourceID.orStar, if_pos hempty]
    rcases hres with hnil | ⟨i, hi⟩
    · exact absurd (hstar.symm.trans hnil) (by decide)
    · rcases (resourceTest_iff s k id').1 hi with ⟨q, hq, _, hagrees⟩
      cases hp.symm.trans hq
      rw [agrees_orStar_iff h.resource, if_pos hempty] at hagrees
      rcases hagrees with ⟨name, hname, htext⟩
      exact text_ne_star ((hs d p hp).2 _ name hname) htext
  · intro hzero
    rw [h.instanceId, if_pos hzero] at hinst
    exact hinst.resolve_left (by decide)

end Matching

/-- Over a table without stars in its names, an id and its printed form read back match the same
devices and resources exactly when every device that the id matches meets the stars. -/
theorem sameMatches_iff {s : KernelState} (hs : NoStars s) {id : ResourceId}
    (hid : Printable id) :
    SameMatches s id (ResourceID.ofFullName (ResourceID.fullName id)) ↔
      ∀ k d p, s.devices d = some p → deviceTest s k id d = true → MeetsStars (s.heap p) id := by
  have hre := reparsed_ofFullName hid
  constructor
  · intro h k d p hp htest
    exact MeetsStars.of_deviceTest hre hs hp ((h.device k d).trans htest)
  · intro h
    refine ⟨?_, ?_⟩
    · intro k d
      rw [Bool.eq_iff_iff]
      refine ⟨hre.deviceTest, ?_⟩
      intro htest
      rcases (deviceTest_iff s k id).1 htest with ⟨⟨p, hp, _⟩, _⟩
      exact MeetsStars.deviceTest hre hp (h k d p hp htest) htest
    · intro k d i htest
      rcases (deviceTest_iff s k id).1 htest with ⟨⟨p, hp, _⟩, _⟩
      exact hre.resourceTest (h k d p hp htest).resource k d i

/-- Slot 0 holds a device `g.x` with a region `bar`, under the given instance. -/
def Sample.holding (instanceId : Int) : KernelState :=
  { Sample.kernel with
    heap := fun _ => { Sample.device "g" "x" with instanceId := instanceId }
    devices := fun d => if d = 0 then some 0 else none }

theorem Sample.holding_noStars (instanceId : Int) : NoStars (Sample.holding instanceId) := by
  have hmem : ∀ i, ((Sample.device "g" "x").resource ⟨.memregion, i⟩).name.all
      (fun n => decide (42 ∉ n.chars)) = true := by decide +kernel
  have hevt : ∀ i, ((Sample.device "g" "x").resource ⟨.eventsrc, i⟩).name.all
      (fun n => decide (42 ∉ n.chars)) = true := by decide +kernel
  have hall : ∀ x, ((Sample.device "g" "x").resource x).name.all
      (fun n => decide (42 ∉ n.chars)) = true := by
    rintro ⟨k, i⟩
    cases k with
    | memregion => exact hmem i
    | eventsrc => exact hevt i
  intro d p _
  refine ⟨?_, ?_⟩
  · intro name hname
    cases hname
    decide
  · intro x name hname
    have hname' : ((Sample.device "g" "x").resource x).name = some name := hname
    have hx := hall x
    rw [hname'] at hx
    exact of_decide_eq_true hx

/-- Region `bar` of device `g.x`, under any instance. -/
def Sample.anyInstance : ResourceId :=
  { group := ascii "g", device := ascii "x", resource := ascii "bar", instanceId := 0 }

theorem Sample.anyInstance_printable : Printable Sample.anyInstance :=
  ⟨by decide +kernel, by decide +kernel, by decide +kernel, by decide +kernel⟩

/-- The only device there is has the instance `-1`. -/
theorem sameMatches_holding :
    SameMatches (Sample.holding (-1)) Sample.anyInstance
      (ResourceID.ofFullName (ResourceID.fullName Sample.anyInstance)) := by
  refine (sameMatches_iff (Sample.holding_noStars (-1)) Sample.anyInstance_printable).2 ?_
  intro k d p _ _
  exact ⟨fun h => absurd h (by decide +kernel), by decide +kernel, by decide +kernel, fun _ => rfl⟩

/-- `g/x/bar/*` reads back as instance `-1`, and misses the device with instance 1. -/
theorem not_sameMatches :
    NoStars (Sample.holding 1) ∧ Printable Sample.anyInstance ∧
      ResourceID.fullName Sample.anyInstance = ascii "g/x/bar/*" ∧
      ¬ SameMatches (Sample.holding 1) Sample.anyInstance
        (ResourceID.ofFullName (ResourceID.fullName Sample.anyInstance)) := by
  refine ⟨Sample.holding_noStars 1, Sample.anyInstance_printable, by decide +kernel, ?_⟩
  intro h
  have hsame := h.device .memregion 0
  exact absurd hsame (by decide +kernel)

/-! ## Ids that leave nothing out -/

/-- A printable id with no field left out. -/
structure FullySpecified (id : ResourceId) : Prop extends Printable id where
  group_ne : text maxStrLen id.group ≠ []
  device_ne : text maxStrLen id.device ≠ []
  resource_ne : text maxStrLen id.resource ≠ []
  instanceId_ne : id.instanceId ≠ 0

/-- The getters of the two return the same. -/
structure SameFields (id id' : ResourceId) : Prop where
  group : text maxStrLen id'.group = text maxStrLen id.group
  device : text maxStrLen id'.device = text maxStrLen id.device
  resource : text maxStrLen id'.resource = text maxStrLen id.resource
  instanceId : id'.instanceId = id.instanceId

section SameFields

variable {id id' id'' : ResourceId}

theorem SameFields.symm (h : SameFields id id') : SameFields id' id :=
  ⟨h.group.symm, h.device.symm, h.resource.symm, h.instanceId.symm⟩

theorem SameFields.trans (h : SameFields id id') (h' : SameFields id' id'') : SameFields id id'' :=
  ⟨h'.group.trans h.group, h'.device.trans h.device, h'.resource.trans h.resource,
    h'.instanceId.trans h.instanceId⟩

theorem orStar_of_ne_nil {buffer : List UInt8} (h : text maxStrLen buffer ≠ []) :
    ResourceID.orStar buffer = text maxStrLen buffer :=
  if_neg h

/-- Without a star the fields are read back as they are. -/
theorem FullySpecified.sameFields (h : FullySpecified id) :
    SameFields id (ResourceID.ofFullName (ResourceID.fullName id)) := by
  have hread := reparsed_ofFullName h.toPrintable
  refine ⟨?_, ?_, ?_, ?_⟩
  · rw [hread.group, orStar_of_ne_nil h.group_ne]
  · rw [hread.device, orStar_of_ne_nil h.device_ne]
  · rw [hread.resource, orStar_of_ne_nil h.resource_ne]
  · rw [hread.instanceId, if_neg h.instanceId_ne]

end SameFields

/-- A fully specified id survives printing and reading back, so no other one has its name. -/
theorem fullName_roundTrip {id : ResourceId} (h : FullySpecified id) :
    SameFields id (ResourceID.ofFullName (ResourceID.fullName id)) ∧
      ∀ id', FullySpecified id' → ResourceID.fullName id' = ResourceID.fullName id →
        SameFields id id' := by
  refine ⟨h.sameFields, ?_⟩
  intro id' h' heq
  have hback := h'.sameFields
  rw [heq] at hback
  exact h.sameFields.trans hback.symm

/-- `g`, `x`, `bar`, -7 -/
def Sample.negative : ResourceId :=
  { group := ascii "g", device := ascii "x", resource := ascii "bar", instanceId := -7 }

theorem fullName_roundTrip_negative :
    SameFields Sample.negative (ResourceID.ofFullName (ResourceID.fullName Sample.negative)) ∧
      ∀ id', FullySpecified id' →
        ResourceID.fullName id' = ResourceID.fullName Sample.negative →
        SameFields Sample.negative id' :=
  fullName_roundTrip
    { group := by decide +kernel
      device := by decide +kernel
      resource := by decide +kernel
      instanceId := by decide
      group_ne := by decide +kernel
      device_ne := by decide +kernel
      resource_ne := by decide +kernel
      instanceId_ne := by decide }

end User
end Cuddl
