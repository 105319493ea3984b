import Cuddl.Properties.Instances
import Cuddl.Properties.Registry
import Cuddl.Properties.Retries

/-!
# Node names

A device is registered as `<GROUP>.<NAME>.<INSTANCE>`, and the UDD claims return paths that are made
from that name and cut to the size of the reply.  Neither step keeps devices apart: a dot in a group
or a name can stand for the one between them, and the number of a memory region is at the end of its
path (`distinctNodes_iff`).
-/

namespace Cuddl

open Foundation.CString Foundation.Machine Foundation.Search Foundation.TextFields

/-- What identifies a device: two C strings and a number. -/
structure NodeName where
  group : List UInt8
  name : List UInt8
  instanceId : Int
  group_nonzero : ∀ c ∈ group, c ≠ 0
  name_nonzero : ∀ c ∈ name, c ≠ 0

namespace NodeName

def triple (t : NodeName) : Option (List UInt8) × Option (List UInt8) × Int :=
  (some t.group, some t.name, t.instanceId)

/-- `<GROUP>.<NAME>.<INSTANCE>` -/
def full (t : NodeName) : List UInt8 :=
  t.group ++ ascii "." ++ t.name ++ ascii "." ++ decimal t.instanceId

/-- The two are one text, divided at different dots. -/
def Shifted (t t' : NodeName) : Prop :=
  t.instanceId = t'.instanceId ∧
    ((∃ m, t'.group = t.group ++ ascii "." ++ m ∧ t.name = m ++ ascii "." ++ t'.name) ∨
      ∃ m, t.group = t'.group ++ ascii "." ++ m ∧ t'.name = m ++ ascii "." ++ t.name)

/-- The paths of the memory regions are not cut.  No device is managed under instance 0. -/
def Short (t : NodeName) : Prop :=
  t.instanceId = 0 ∨ t.full.length ≤ 237

end NodeName

/-- The path of a resource: `/dev/rtdm/<UNIQUE_NAME>` or `/dev/rtdm/<UNIQUE_NAME>,mapper<N>` -/
def rtdmPath (unique : List UInt8) : ResIdx → List UInt8
  | ⟨.memregion, i⟩ => ascii "/dev/rtdm/" ++ unique ++ ascii ",mapper" ++ decimal i
  | ⟨.eventsrc, _⟩ => ascii "/dev/rtdm/" ++ unique

/-- The `device_name` of a CLAIM or INFO reply. -/
def Reply.deviceName? : Reply → Option (List UInt8)
  | .memregionInfo info => some info.deviceName
  | .eventsrcInfo info => some info.deviceName
  | _ => none

/-- A UDD claim in `s` succeeds and returns `path` for resource `x` of the device in slot `d`. -/
def Returns (cfg : Config) (s : KernelState) (d : Slot) (x : ResIdx) (path : List UInt8) : Prop :=
  ∃ data io res reply, managerIoctl cfg s (.claim x.1 true data) io = some res ∧ res.ret = 0 ∧
    res.reply = some reply ∧ reply.token? x.1 = some ⟨d, x.2⟩ ∧ reply.deviceName? = some path

/-- A state in which drivers, processes and the janitor can put a manager. -/
def Occurs (cfg : Config) (s : KernelState) : Prop :=
  ∃ s₀ : KernelState, s₀.Fresh ∧ Reachable (exec cfg) InTurn s₀ s

/-- Slot `d` holds a device of that name. -/
def Holds (s : KernelState) (d : Slot) (t : NodeName) : Prop :=
  ∃ p, s.devices d = some p ∧ (s.heap p).triple = t.triple

/-- The memory regions of a device have nodes of their own. -/
def DistinctRegions (cfg : Config) (t : NodeName) : Prop :=
  ∀ s d (i j : Fin (ResourceKind.max .memregion)) path path', Occurs cfg s → Holds s d t → i ≠ j →
    Returns cfg s d ⟨.memregion, i⟩ path → Returns cfg s d ⟨.memregion, j⟩ path' → path ≠ path'

/-- Two devices are registered under different names, and their resources and the memory regions
of each have different nodes. -/
structure DistinctNodes (cfg : Config) (t t' : NodeName) : Prop where
  names : ∀ (dev dev' : Device) out out' unique unique', dev.triple = t.triple →
    dev'.triple = t'.triple →
    (deviceRegister cfg dev out).dev.priv.uniqueName = some unique →
    (deviceRegister cfg dev' out').dev.priv.uniqueName = some unique' → unique ≠ unique'
  paths : ∀ s d d' x x' path path', Occurs cfg s → Holds s d t → Holds s d' t' →
    Returns cfg s d x path → Returns cfg s d' x' path' → path ≠ path'
  regions : DistinctRegions cfg t
  regions' : DistinctRegions cfg t'

/-! ## Unique names -/

theorem NodeName.full_eq (t : NodeName) :
    t.full = (t.group ++ 46 :: t.name) ++ 46 :: decimal t.instanceId := by
  have hdot : ascii "." = [46] := by decide +kernel
  simp [NodeName.full, hdot]

theorem dot_not_mem_decimal (n : Int) : (46 : UInt8) ∉ decimal n := fun h => by
  rcases mem_decimal h with heq | hdigit
  · exact absurd heq (by decide)
  · exact absurd hdigit (by decide)

theorem comma_not_mem_decimal (n : Int) : (44 : UInt8) ∉ decimal n := fun h => by
  rcases mem_decimal h with heq | hdigit
  · exact absurd heq (by decide)
  · exact absurd hdigit (by decide)

/-- Different devices share their unique name exactly when a dot is in the way. -/
theorem NodeName.full_eq_iff {t t' : NodeName} (hne : t ≠ t') :
    t.full = t'.full ↔ t.Shifted t' := by
  have hdot : ascii "." = [46] := by decide +kernel
  have hsame : t.instanceId = t'.instanceId → ¬ (t.group = t'.group ∧ t.name = t'.name) := by
    rintro hinst ⟨hgroup, hname⟩
    cases t
    cases t'
    cases hinst
    cases hgroup
    cases hname
    exact hne rfl
  -- the instance is behind the last dot
  rw [NodeName.full_eq, NodeName.full_eq,
    append_sep_inj (dot_not_mem_decimal _) (dot_not_mem_decimal _), decimal_injective.eq_iff,
    append_sep_eq_iff]
  simp only [NodeName.Shifted, hdot, List.append_assoc, List.singleton_append]
  constructor
  · rintro ⟨hgroups | hshift, hinst⟩
    · exact absurd hgroups (hsame hinst)
    · exact ⟨hinst, hshift⟩
  · rintro ⟨hinst, hshift⟩
    exact ⟨Or.inr hshift, hinst⟩

theorem uniqueName_of_triple {t : NodeName} {dev : Device} (ht : dev.triple = t.triple)
    {group name : KStr} (hgroup : dev.group = some group) (hname : dev.name = some name) :
    uniqueName group name dev.instanceId = t.full := by
  simp only [Device.triple, Device.groupChars, Device.nameChars, hgroup, hname, Option.map_some,
    NodeName.triple, Prod.mk.injEq, Option.some.injEq] at ht
  rcases ht with ⟨hg, hn, hi⟩
  rw [uniqueName, hg, hn, hi, NodeName.full]

theorem exists_of_triple {t : NodeName} {dev : Device} (ht : dev.triple = t.triple) :
    ∃ group name, dev.group = some group ∧ dev.name = some name := by
  simp only [Device.triple, Device.groupChars, Device.nameChars, NodeName.triple, Prod.mk.injEq,
    Option.map_eq_some_iff] at ht
  rcases ht with ⟨⟨group, hgroup, _⟩, ⟨name, hname, _⟩, _⟩
  exact ⟨group, name, hgroup, hname⟩

/-- Whatever comes of a registration, the name it has built is the documented one. -/
theorem uniqueName_deviceRegister {cfg : Config} {t : NodeName} {dev : Device} {out : RegOutcome}
    {unique : List UInt8} (ht : dev.triple = t.triple)
    (h : (deviceRegister cfg dev out).dev.priv.uniqueName = some unique) : unique = t.full := by
  rcases exists_of_triple ht with ⟨group, name, hgroup, hname⟩
  have hfull := uniqueName_of_triple ht hgroup hname
  unfold deviceRegister at h
  rw [hgroup, hname] at h
  simp only at h
  split at h
  · cases h
  · rw [hfull] at h
    split at h
    · cases h
      rfl
    · split at h
      · split at h
        · cases h
          rfl
        · cases h
          rfl
      · cases h
        rfl

/-! ## Paths -/

theorem rtdmPath_memregion (unique : List UInt8) (i : Fin (ResourceKind.max .memregion)) :
    rtdmPath unique ⟨.memregion, i⟩ =
      (ascii "/dev/rtdm/" ++ unique) ++ 44 :: (ascii "mapper" ++ decimal i) := by
  have hcomma : ascii ",mapper" = 44 :: ascii "mapper" := by decide +kernel
  simp [rtdmPath, hcomma]

theorem comma_not_mem_mapper (i : Int) : (44 : UInt8) ∉ ascii "mapper" ++ decimal i := fun h => by
  rcases List.mem_append.1 h with hin | hin
  · exact absurd hin (by decide +kernel)
  · exact comma_not_mem_decimal i hin

theorem dot_not_mem_mapper (i : Int) : (46 : UInt8) ∉ ascii "mapper" ++ decimal i := fun h => by
  rcases List.mem_append.1 h with hin | hin
  · exact absurd hin (by decide +kernel)
  · exact dot_not_mem_decimal i hin

/-- A unique name ends in a number, so no memory region has the path of an event source. -/
theorem rtdmPath_memregion_ne (t t' : NodeName) (i : Fin (ResourceKind.max .memregion)) :
    rtdmPath t.full ⟨.memregion, i⟩ ≠ ascii "/dev/rtdm/" ++ t'.full := by
  intro heq
  rw [rtdmPath_memregion, List.append_assoc, List.append_cancel_left_eq, NodeName.full_eq,
    NodeName.full_eq, List.append_assoc, List.cons_append] at heq
  have hdot : (46 : UInt8) ∉ decimal t.instanceId ++ 44 :: (ascii "mapper" ++ decimal i) := by
    intro hmem
    rcases List.mem_append.1 hmem with hin | hin
    · exact dot_not_mem_decimal _ hin
    · rcases List.mem_cons.1 hin with hcomma | hin
      · exact absurd hcomma (by decide)
      · exact dot_not_mem_mapper i hin
  -- behind the last dots: a comma on one side, and none on the other
  have htail := ((append_sep_inj hdot (dot_not_mem_decimal _)).1 heq).2
  exact comma_not_mem_decimal t'.instanceId (htail ▸ by simp)

/-- A path that is not cut tells the device and the resource. -/
theorem rtdmPath_inj {t t' : NodeName} {x x' : ResIdx}
    (h : rtdmPath t.full x = rtdmPath t'.full x') : t.full = t'.full ∧ x = x' := by
  rcases x with ⟨k, i⟩
  rcases x' with ⟨k', j⟩
  cases k with
  | memregion =>
      cases k' with
      | memregion =>
          rw [rtdmPath_memregion, rtdmPath_memregion,
            append_sep_inj (comma_not_mem_mapper _) (comma_not_mem_mapper _),
            List.append_cancel_left_eq,
            List.append_cancel_left_eq, decimal_injective.eq_iff] at h
          have hij : i = j := Fin.ext (by exact_mod_cast h.2)
          exact ⟨h.1, by rw [hij]⟩
      | eventsrc => exact absurd h (rtdmPath_memregion_ne t t' i)
  | eventsrc =>
      cases k' with
      | memregion => exact absurd h.symm (rtdmPath_memregion_ne t' t j)
      | eventsrc =>
          have hij : i = j := Subsingleton.elim (α := Fin 1) i j
          exact ⟨List.append_cancel_left h, by rw [hij]⟩

theorem length_rtdm : (ascii "/dev/rtdm/").length = 10 := by
  decide +kernel

theorem length_mapper : (ascii ",mapper").length = 7 := by
  decide +kernel

theorem length_rtdmPath_le (unique : List UInt8) (x : ResIdx) :
    (rtdmPath unique x).length ≤ unique.length + 18 := by
  have hone : ∀ i : Fin (ResourceKind.max .memregion), (decimal i).length = 1 := by
    decide +kernel
  rcases x with ⟨k, i⟩
  cases k with
  | memregion =>
      simp only [rtdmPath, List.length_append, length_rtdm, length_mapper, hone i]
      omega
  | eventsrc =>
      simp only [rtdmPath, List.length_append, length_rtdm]
      omega

/-- Up to 237 characters of unique name leave room for the whole path. -/
theorem snprintf_rtdmPath {unique : List UInt8} (h : unique.length ≤ 237) (x : ResIdx) :
    snprintf (rtdmPath unique x) = rtdmPath unique x := by
  have hle := length_rtdmPath_le unique x
  exact List.take_of_length_le (by simp only [maxStrLen]; omega)

/-- A longer one pushes the number of the region out of the reply. -/
theorem snprintf_rtdmPath_eq {unique : List UInt8} (h : 237 < unique.length)
    (i j : Fin (ResourceKind.max .memregion)) :
    snprintf (rtdmPath unique ⟨.memregion, i⟩) = snprintf (rtdmPath unique ⟨.memregion, j⟩) := by
  have hlen : maxStrLen - 1 ≤ (ascii "/dev/rtdm/" ++ unique ++ ascii ",mapper").length := by
    simp only [List.length_append, length_rtdm, length_mapper, maxStrLen]
    omega
  simp only [snprintf, rtdmPath, List.take_append_of_le_length hlen]

/-! ## What a claim returns -/

theorem deviceName?_infoReply (cfg : Config) (dev : Device) {k : ResourceKind} (token : Token k) :
    (infoReply cfg dev true k token).deviceName? =
      some (snprintf (rtdmPath (uniqueNameChars dev) ⟨k, token.resourceIndex⟩)) := by
  cases k with
  | memregion => rfl
  | eventsrc => rfl

/-- Every managed device is labelled, and has a number. -/
theorem labelled_of_occurs {cfg : Config} {s : KernelState} (h : Occurs cfg s) {d : Slot}
    {p : DevPtr} (hd : s.devices d = some p) :
    (s.heap p).Labelled ∧ (s.heap p).instanceId ≠ 0 := by
  rcases h with ⟨s₀, hfresh, hrun⟩
  refine managed_invariant (P := fun dev => dev.Labelled ∧ dev.instanceId ≠ 0) hfresh hrun ?_ ?_ d p
    hd
  · intro dev dev' heq hdev
    have hgroup := congrArg Device.group heq
    have hname := congrArg Device.name heq
    have hinst := congrArg Device.instanceId heq
    have hpriv := congrArg Device.priv heq
    simp only [Device.eraseCounts] at hgroup hname hinst hpriv
    rw [Device.Labelled, hgroup, hname, hinst, hpriv]
    exact hdev
  · intro s p out hret
    rcases deviceManage_cases cfg s p out with
      ⟨dev', _, ⟨hne, _⟩ | ⟨_, _, _, hnum, hreg, d, _, hst⟩⟩
    · exact absurd hret hne
    · rw [hst]
      simp only [KernelState.setSlot_heap, KernelState.setDevice_heap_self]
      refine ⟨hreg.2.2.1, ?_⟩
      rcases hnum with ⟨hgiven, heq⟩ | ⟨_, heq, hnonneg⟩
      · rwa [heq]
      · rw [heq] at hnonneg ⊢
        exact (managerNextAvailableInstanceId_pos hnonneg).ne'

theorem returns_path {cfg : Config} {s : KernelState} (hs : Occurs cfg s) {d : Slot}
    {t : NodeName} (ht : Holds s d t) {x : ResIdx} {path : List UInt8}
    (h : Returns cfg s d x path) : path = snprintf (rtdmPath t.full x) := by
  rcases ht with ⟨p, hd, htriple⟩
  rcases (labelled_of_occurs hs hd).1 with ⟨group, name, hgroup, hname, hunique⟩
  rw [uniqueName_of_triple htriple hgroup hname] at hunique
  rcases h with ⟨data, io, res, reply, hres, hret, hreply, htoken, hpath⟩
  rcases x with ⟨k, i⟩
  rcases managerIoctl_claim_of_ret_zero hres hret with ⟨d', p', i', hfind, _, rfl⟩
  cases hreply
  rw [claimReply, token?_infoReply] at htoken
  cases htoken
  cases hd.symm.trans (managerLookup_eq_some hfind).1
  -- the claim has counted, and the name is what it was
  have hpriv := (sameShape_takeRef s p ⟨k, i⟩).priv p
  rw [claimReply, deviceName?_infoReply, uniqueNameChars, hpriv, hunique] at hpath
  exact (Option.some.inj hpath).symm

/-! ## A device whose regions can all be claimed -/

/-- Names for memory regions: one letter each. -/
def letter (i : Fin (ResourceKind.max .memregion)) : KStr :=
  { chars := [65 + UInt8.ofNat i.val]
    nonzero := by
      revert i
      decide +kernel
    behind := fun _ => 0 }

theorem letter_injective {i j : Fin (ResourceKind.max .memregion)}
    (h : (letter i).chars = (letter j).chars) : i = j := by
  revert i j
  decide +kernel

theorem text_letter (i : Fin (ResourceKind.max .memregion)) :
    text maxStrLen (letter i).chars = (letter i).chars := by
  revert i
  decide +kernel

namespace NodeName

def device (t : NodeName) : Device :=
  { Device.zeroed with
    group := some { chars := t.group, nonzero := t.group_nonzero, behind := fun _ => 0 }
    name := some { chars := t.name, nonzero := t.name_nonzero, behind := fun _ => 0 }
    instanceId := t.instanceId
    mem := fun i => { Device.zeroed.mem i with name := some (letter i) } }

theorem triple_device (t : NodeName) : t.device.triple = t.triple := rfl

/-- A kernel with nothing managed and all devices of that name. -/
def kernel (t : NodeName) : KernelState :=
  { heap := fun _ => t.device
    devices := fun _ => none
    refs := fun _ => []
    modules := fun _ => ⟨true, 0⟩ }

theorem kernel_fresh (t : NodeName) : t.kernel.Fresh :=
  ⟨fun _ => rfl, fun _ => rfl⟩

/-- The device alone in the table, with its regions as they were. -/
structure Alone (t : NodeName) (s : KernelState) (d : Slot) (p : DevPtr) : Prop where
  devices_iff : ∀ e q, s.devices e = some q ↔ e = d ∧ q = p
  triple : (s.heap p).triple = t.triple
  regions : ∀ i, ((s.heap p).mem i).name = some (letter i)

theorem exists_alone (cfg : Config) {t : NodeName} (h : t.instanceId ≠ 0) :
    ∃ s d p, Occurs cfg s ∧ t.Alone s d p := by
  have hempty : ∀ e, t.kernel.devices e = none := fun _ => rfl
  have hfirst := deviceManage_first cfg (p := 0) hempty rfl rfl fun _ =>
    Sample.deviceRegister_registered cfg rfl rfl
  rcases hfirst with ⟨hret, d, honly⟩
  rcases deviceManage_cases cfg t.kernel 0 Sample.registered with
    ⟨dev', hkept, ⟨hne, _⟩ | ⟨_, _, _, hnum, hmem, _, _, hst⟩⟩
  · exact absurd hret hne
  · refine ⟨_, d, 0, ⟨t.kernel, t.kernel_fresh,
      (Reachable.refl _).tail (a := .manage 0 Sample.registered) ?_ rfl⟩, honly, ?_, ?_⟩
    · rintro ⟨e, he⟩
      cases (hempty e).symm.trans he
    · have hinst : dev'.instanceId = t.instanceId := hnum.eq_given h
      rw [hst]
      simp only [KernelState.setSlot_heap, KernelState.setDevice_heap_self]
      rw [Device.triple, Device.groupChars, Device.nameChars, hkept.group, hkept.name, hinst]
      rfl
    · intro i
      rw [hst]
      simp only [KernelState.setSlot_heap, KernelState.setDevice_heap_self, hmem.1]
      rfl

section Claims

variable {t : NodeName} {s : KernelState} {d : Slot} {p : DevPtr}

theorem Alone.resourceMatches_iff (h : t.Alone s d p) (i j : Fin (ResourceKind.max .memregion)) :
    resourceMatches ((s.heap p).resource ⟨.memregion, j⟩) (some (letter i).chars) = true ↔
      j = i := by
  have hname : ((s.heap p).resource ⟨.memregion, j⟩).name = some (letter j) := h.regions j
  rw [resourceMatches_some_iff, hname, Agrees, text_letter]
  constructor
  · rintro ⟨_, hnil | ⟨f, hf, htext⟩⟩
    · cases hnil
    · cases hf
      rw [text_letter] at htext
      exact letter_injective htext
  · rintro rfl
    exact ⟨rfl, Or.inr ⟨letter j, rfl, text_letter j⟩⟩

/-- A region of the only device is found by its name. -/
theorem Alone.managerLookup (h : t.Alone s d p) (i : Fin (ResourceKind.max .memregion)) :
    managerLookup s .memregion ⟨[], [], (letter i).chars, 0⟩ = some (d, p, i) :=
  managerLookup_only h.devices_iff (h.resourceMatches_iff i)

/-- Every region of the only device can be claimed. -/
theorem Alone.returns (cfg : Config) (h : t.Alone s d p) (i : Fin (ResourceKind.max .memregion)) :
    ∃ path, Returns cfg s d ⟨.memregion, i⟩ path := by
  -- a hostile claim is always admitted
  let data : ClaimData := ⟨kernelVersionCode, ⟨[], [], (letter i).chars, 0⟩, 0, claimfHostile⟩
  have hhostile : data.hostile = true := by
    show (claimfHostile &&& claimfHostile != 0) = true
    decide +kernel
  have hcompat : versionCodeIsCompat kernelVersionCode = true := by decide +kernel
  have hacc : Accepted (.claim .memregion true data) Sample.noFaults := by
    refine ⟨rfl, ?_⟩
    rintro v ⟨⟩
    exact ⟨rfl, hcompat⟩
  have hcmd : managerIoctl cfg s (.claim .memregion true data) Sample.noFaults =
      some (ioctlClaimInfo cfg .memregion true true data Sample.noFaults s) :=
    managerIoctl_of_accepted hacc
  have hfind := h.managerLookup i
  rcases ioctlClaimInfo_claim_cases cfg .memregion true data Sample.noFaults s with
    ⟨_, _, hnot⟩ | ⟨d', p', i', hfind', _, ⟨hfails | hfails, _⟩ | ⟨_, heq⟩⟩
  · exact absurd (Or.inr (Or.inr hhostile)) (hnot d p i hfind)
  · cases hfails
  · cases hfails
  · cases hfind.symm.trans hfind'
    rw [heq] at hcmd
    exact ⟨_, data, Sample.noFaults, _, _, hcmd, rfl, rfl, token?_infoReply cfg _ _ _,
      deviceName?_infoReply cfg _ _⟩

end Claims

end NodeName

/-! ## When nodes are distinct -/

theorem Holds.instanceId_ne_zero {cfg : Config} {s : KernelState} {d : Slot} {t : NodeName}
    (ht : Holds s d t) (hs : Occurs cfg s) : t.instanceId ≠ 0 := by
  rcases ht with ⟨p, hd, htriple⟩
  have hinst : (s.heap p).instanceId = t.instanceId := congrArg (fun x => x.2.2) htriple
  rw [← hinst]
  exact (labelled_of_occurs hs hd).2

/-- With room for it, a claim returns the whole path. -/
theorem NodeName.Short.returns_path {cfg : Config} {s : KernelState} {d : Slot} {t : NodeName}
    (h : t.Short) (hs : Occurs cfg s) (ht : Holds s d t) {x : ResIdx} {path : List UInt8}
    (hpath : Returns cfg s d x path) : path = rtdmPath t.full x := by
  have hlen := h.resolve_left (ht.instanceId_ne_zero hs)
  rw [Cuddl.returns_path hs ht hpath, snprintf_rtdmPath hlen]

/-- The regions of a device share no node exactly when its paths are not cut. -/
theorem distinctRegions_iff (cfg : Config) (t : NodeName) : DistinctRegions cfg t ↔ t.Short := by
  constructor
  · intro h
    by_cases hzero : t.instanceId = 0
    · exact Or.inl hzero
    · right
      by_contra hlong
      rcases NodeName.exists_alone cfg hzero with ⟨s, d, p, hs, halone⟩
      have ht : Holds s d t := ⟨p, (halone.devices_iff d p).2 ⟨rfl, rfl⟩, halone.triple⟩
      rcases halone.returns cfg 0 with ⟨path, hpath⟩
      rcases halone.returns cfg 1 with ⟨path', hpath'⟩
      refine h s d 0 1 path path' hs ht (by decide) hpath hpath' ?_
      rw [returns_path hs ht hpath, returns_path hs ht hpath']
      exact snprintf_rtdmPath_eq (not_le.1 hlong) 0 1
  · intro hshort s d i j path path' hs ht hij hpath hpath' heq
    rw [hshort.returns_path hs ht hpath, hshort.returns_path hs ht hpath'] at heq
    have hidx := (rtdmPath_inj heq).2
    cases hidx
    exact hij rfl

theorem uniqueName_registered (cfg : Config) (t : NodeName) :
    (deviceRegister cfg t.device Sample.registered).dev.priv.uniqueName = some t.full := by
  have hreg : (deviceRegister cfg t.device Sample.registered).ret = 0 :=
    Sample.deviceRegister_registered cfg rfl rfl
  rcases (deviceRegister_of_ret_zero hreg).2.2.1 with ⟨_, _, _, _, hunique⟩
  rw [hunique, ← uniqueName_deviceRegister t.triple_device hunique]

/-- Two devices with different triples have different nodes exactly when no dot is in the way and
neither unique name is too long for the paths of the memory regions. -/
theorem distinctNodes_iff (cfg : Config) {t t' : NodeName} (hne : t ≠ t') :
    DistinctNodes cfg t t' ↔ ¬ t.Shifted t' ∧ t.Short ∧ t'.Short := by
  rw [← distinctRegions_iff cfg t, ← distinctRegions_iff cfg t', ← NodeName.full_eq_iff hne]
  constructor
  · intro h
    exact ⟨h.names _ _ _ _ _ _ t.triple_device t'.triple_device (uniqueName_registered cfg t)
      (uniqueName_registered cfg t'), h.regions, h.regions'⟩
  · rintro ⟨hfull, hregions, hregions'⟩
    refine ⟨?_, ?_, hregions, hregions'⟩
    · intro dev dev' out out' unique unique' ht ht' hunique hunique' heq
      rw [uniqueName_deviceRegister ht hunique, uniqueName_deviceRegister ht' hunique'] at heq
      exact hfull heq
    · intro s d d' x x' path path' hs ht ht' hpath hpath' heq
      have hshort := (distinctRegions_iff cfg t).1 hregions
      have hshort' := (distinctRegions_iff cfg t').1 hregions'
      rw [hshort.returns_path hs ht hpath, hshort'.returns_path hs ht' hpath'] at heq
      exact hfull (rtdmPath_inj heq).1

namespace Sample

/-- `g`, `x`, 1 -/
def plainName : NodeName :=
  { group := ascii "g", name := ascii "x", instanceId := 1
    group_nonzero := by decide +kernel, name_nonzero := by decide +kernel }

/-- `g`, `a`, 1 -/
def otherName : NodeName :=
  { group := ascii "g", name := ascii "a", instanceId := 1
    group_nonzero := by decide +kernel, name_nonzero := by decide +kernel }

/-- `a.b`, `c`, 1 -/
def dotInGroup : NodeName :=
  { group := ascii "a.b", name := ascii "c", instanceId := 1
    group_nonzero := by decide +kernel, name_nonzero := by decide +kernel }

/-- `a`, `b.c`, 1 -/
def dotInName : NodeName :=
  { group := ascii "a", name := ascii "b.c", instanceId := 1
    group_nonzero := by decide +kernel, name_nonzero := by decide +kernel }

/-- Two unmanaged devices, one with a dot in its group and one with a dot in its name. -/
def dotted : KernelState :=
  { kernel with heap := fun p => if p = 0 then device "a.b" "c" else device "a" "b.c" }

/-- The kernel once both have been managed. -/
def dottedBoth : KernelState :=
  (deviceManage config (deviceManage config dotted 0 registered).state 1 registered).state

/-- A UDD claim of the event source of a device. -/
def claimSource (group name : String) : Request :=
  .claim .eventsrc true
    { versionCode := kernelVersionCode, id := ⟨ascii group, ascii name, [], 1⟩, pid := 1
      options := 0 }

end Sample

theorem distinctNodes_plain : DistinctNodes Sample.config Sample.plainName Sample.otherName := by
  have hname : ascii "x" ≠ ascii "a" := by decide +kernel
  have hne : Sample.plainName ≠ Sample.otherName := fun h => hname (congrArg NodeName.name h)
  refine (distinctNodes_iff Sample.config hne).2 ⟨?_, Or.inr (by decide +kernel),
    Or.inr (by decide +kernel)⟩
  rw [← NodeName.full_eq_iff hne]
  decide +kernel

/-- Two managed devices with different names whose event sources share a node. -/
theorem dotted_names_collide :
    (∃ path, (managerIoctl Sample.config Sample.dottedBoth (Sample.claimSource "a.b" "c")
        Sample.noFaults).bind (fun res => res.reply.bind Reply.deviceName?) = some path ∧
      (managerIoctl Sample.config Sample.dottedBoth (Sample.claimSource "a" "b.c")
        Sample.noFaults).bind (fun res => res.reply.bind Reply.deviceName?) = some path) ∧
      ¬ DistinctNodes Sample.config Sample.dotInGroup Sample.dotInName := by
  refine ⟨⟨ascii "/dev/rtdm/a.b.c.1", by decide +kernel, by decide +kernel⟩, ?_⟩
  intro h
  refine h.names _ _ _ _ _ _ Sample.dotInGroup.triple_device Sample.dotInName.triple_device
    (uniqueName_registered Sample.config _) (uniqueName_registered Sample.config _) ?_
  decide +kernel

end Cuddl
