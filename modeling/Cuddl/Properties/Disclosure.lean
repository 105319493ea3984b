import Cuddl.Properties.Identifiers

/-!
# What an id discloses

The GET_ID commands copy 256 bytes from wherever a name starts.  The copy of a name of 255
characters is the name and its terminator.  A shorter one takes whatever lies behind the terminator
in kernel memory to user space, and a longer one has no terminator (`getId_discloses_iff`).
-/

namespace Cuddl

open Foundation.CString

/-! ## Memories that agree on the names -/

/-- The same string, in a place where other bytes follow. -/
def KStr.followedBy (s : KStr) (b : UInt8) : KStr :=
  { s with behind := fun _ => b }

def Device.followedBy (dev : Device) (b : UInt8) : Device :=
  { dev with
    group := dev.group.map fun s => s.followedBy b
    name := dev.name.map fun s => s.followedBy b
    mem := fun i => { dev.mem i with name := (dev.mem i).name.map fun s => s.followedBy b }
    events := fun i =>
      { dev.events i with name := (dev.events i).name.map fun s => s.followedBy b } }

def KernelState.followedBy (s : KernelState) (b : UInt8) : KernelState :=
  { s with heap := fun p => (s.heap p).followedBy b }

/-- The same names up to their terminators, the same instance, the same slots in use. -/
structure Device.SameNames (d d' : Device) : Prop where
  group : d'.groupChars = d.groupChars
  name : d'.nameChars = d.nameChars
  instanceId : d'.instanceId = d.instanceId
  resource : ∀ x, (d'.resource x).name.map KStr.chars = (d.resource x).name.map KStr.chars
  slotIsEmpty : ∀ x, slotIsEmpty d' x = slotIsEmpty d x

/-- The same table over devices with the same names. -/
structure SameNames (s s' : KernelState) : Prop where
  devices : s'.devices = s.devices
  heap : ∀ p, (s.heap p).SameNames (s'.heap p)

theorem Device.sameNames_followedBy (dev : Device) (b : UInt8) :
    dev.SameNames (dev.followedBy b) := by
  refine ⟨?_, ?_, rfl, ?_, ?_⟩
  · simp [Device.groupChars, Device.followedBy, Function.comp_def, KStr.followedBy]
  · simp [Device.nameChars, Device.followedBy, Function.comp_def, KStr.followedBy]
  · rintro ⟨k, i⟩
    cases k with
    | memregion =>
        simp [Device.resource, Device.followedBy, Function.comp_def, KStr.followedBy]
    | eventsrc =>
        simp [Device.resource, Device.followedBy, Function.comp_def, KStr.followedBy]
  · rintro ⟨k, i⟩
    cases k with
    | memregion => rfl
    | eventsrc => rfl

theorem KernelState.sameNames_followedBy (s : KernelState) (b : UInt8) :
    SameNames s (s.followedBy b) :=
  ⟨rfl, fun p => (s.heap p).sameNames_followedBy b⟩

/-! ## Copies -/

theorem KStr.getElem?_memcpy {s : KStr} {n i : Nat} (hi : i < n) :
    (s.memcpy n)[i]? = some (if h : i < s.chars.length then s.chars[i]
      else if i = s.chars.length then 0 else s.behind (i - s.chars.length - 1)) := by
  simp [KStr.memcpy, hi]

/-- A copy that ends at the terminator depends on nothing behind it. -/
theorem KStr.memcpy_of_length {s : KStr} {n : Nat} (h : s.chars.length = n) :
    s.memcpy (n + 1) = s.chars ++ [0] := by
  rcases KStr.memcpy_eq (s := s) (n := n + 1) (by omega) with ⟨r, hr⟩
  have hlen := congrArg List.length hr
  have hcopy : (s.memcpy (n + 1)).length = n + 1 := by simp [KStr.memcpy]
  rw [hcopy, List.length_append, List.length_cons] at hlen
  have hnil : r = [] := List.eq_nil_of_length_eq_zero (by omega)
  rw [hr, hnil]

/-- A copy that goes on behind the terminator shows what is there. -/
theorem KStr.memcpy_followedBy_ne {s : KStr} {n : Nat} (h : s.chars.length < n) {b c : UInt8}
    (hne : b ≠ c) : (s.followedBy b).memcpy (n + 1) ≠ (s.followedBy c).memcpy (n + 1) := by
  intro heq
  have hlast := congrArg (fun l : List UInt8 => l[n]?) heq
  simp only [KStr.getElem?_memcpy (Nat.lt_succ_self n), Option.some.injEq] at hlast
  have hno : ¬ n < s.chars.length := by omega
  have hno' : n ≠ s.chars.length := by omega
  simp only [KStr.followedBy, hno, hno', dif_neg, not_false_eq_true, if_false] at hlast
  exact hne hlast

/-- A copy of a part of a string has no terminator. -/
theorem KStr.not_mem_memcpy {s : KStr} {n : Nat} (h : n ≤ s.chars.length) : 0 ∉ s.memcpy n := by
  intro hmem
  rcases List.mem_map.1 hmem with ⟨i, hi, hzero⟩
  have hlt : i < s.chars.length := by
    have hi' := List.mem_range.1 hi
    omega
  rw [dif_pos hlt] at hzero
  exact s.nonzero _ (List.getElem_mem hlt) hzero

/-! ## The request -/

section Request

variable {cfg : Config} {s s' : KernelState} {k : ResourceKind} {v : Int32}
  {deviceSlot resourceSlot : Int} {io : IoFaults} {t : Token k} {group name resource : KStr}

/-- The request gets through to a resource that it returns the id of. -/
structure Answered (s : KernelState) (v : Int32) (deviceSlot resourceSlot : Int) (io : IoFaults)
    (t : Token k) (group name resource : KStr) : Prop where
  accepted : Accepted (.getId k v deviceSlot resourceSlot) io
  copyToUser : io.copyToUserFails = false
  deviceSlot : deviceSlot = t.deviceIndex
  resourceSlot : resourceSlot = t.resourceIndex
  found : ∃ p, s.devices t.deviceIndex = some p ∧
    slotIsEmpty (s.heap p) ⟨k, t.resourceIndex⟩ = false ∧ (s.heap p).group = some group ∧
    (s.heap p).name = some name ∧ ((s.heap p).resource ⟨k, t.resourceIndex⟩).name = some resource

/-- Over all memories with the same names the request has the same reply, and every field of an id
it returns is terminated. -/
def RevealsOnlyNames (cfg : Config) (s : KernelState) (k : ResourceKind) (v : Int32)
    (deviceSlot resourceSlot : Int) (io : IoFaults) : Prop :=
  (∀ s', SameNames s s' →
    (managerIoctl cfg s' (.getId k v deviceSlot resourceSlot) io).map IoctlResult.reply =
      (managerIoctl cfg s (.getId k v deviceSlot resourceSlot) io).map IoctlResult.reply) ∧
  ∀ res id, managerIoctl cfg s (.getId k v deviceSlot resourceSlot) io = some res → res.ret = 0 →
    res.reply = some (.resourceId id) → 0 ∈ id.group ∧ 0 ∈ id.device ∧ 0 ∈ id.resource

theorem Answered.reply (h : Answered s v deviceSlot resourceSlot io t group name resource)
    (cfg : Config) :
    ∃ id, managerIoctl cfg s (.getId k v deviceSlot resourceSlot) io =
        some ⟨0, s, some (.resourceId id)⟩ ∧ id.group = group.memcpy maxStrLen ∧
      id.device = name.memcpy maxStrLen ∧ id.resource = resource.memcpy maxStrLen := by
  rcases h with ⟨hacc, hcopy, rfl, rfl, p, hd, hempty, hgroup, hname, hresource⟩
  have hid : Identifies s t
      { group := group.memcpy maxStrLen
        device := name.memcpy maxStrLen
        resource := resource.memcpy maxStrLen
        instanceId := (s.heap p).instanceId } :=
    ⟨p, hd, hempty, by simp [resourceIdOf, hgroup, hname, hresource]⟩
  exact ⟨_, getId_of_identifies cfg hid hacc hcopy, rfl, rfl, rfl⟩

theorem Answered.followedBy (h : Answered s v deviceSlot resourceSlot io t group name resource)
    (b : UInt8) :
    Answered (s.followedBy b) v deviceSlot resourceSlot io t (group.followedBy b)
      (name.followedBy b) (resource.followedBy b) := by
  rcases h with ⟨hacc, hcopy, hd, hr, p, hp, hempty, hgroup, hname, hresource⟩
  refine ⟨hacc, hcopy, hd, hr, p, hp, ?_, ?_, ?_, ?_⟩
  · rw [← hempty]
    exact ((s.sameNames_followedBy b).heap p).slotIsEmpty _
  · simp [KernelState.followedBy, Device.followedBy, hgroup]
  · simp [KernelState.followedBy, Device.followedBy, hname]
  · cases k with
    | memregion =>
        have hmem : ((s.heap p).mem t.resourceIndex).name = some resource := hresource
        simp [KernelState.followedBy, Device.followedBy, Device.resource, hmem]
    | eventsrc =>
        have hevt : ((s.heap p).events t.resourceIndex).name = some resource := hresource
        simp [KernelState.followedBy, Device.followedBy, Device.resource, hevt]

/-- An id that shows the names and nothing else has names of exactly 255 characters. -/
theorem RevealsOnlyNames.lengths (h : RevealsOnlyNames cfg s k v deviceSlot resourceSlot io)
    (hans : Answered s v deviceSlot resourceSlot io t group name resource) :
    group.chars.length = maxStrLen - 1 ∧ name.chars.length = maxStrLen - 1 ∧
      resource.chars.length = maxStrLen - 1 := by
  rcases h with ⟨hsame, hnul⟩
  rcases hans.reply cfg with ⟨id, hreply, hidGroup, hidName, hidResource⟩
  rcases hnul _ id hreply rfl rfl with ⟨hnulGroup, hnulName, hnulResource⟩
  rw [hidGroup] at hnulGroup
  rw [hidName] at hnulName
  rw [hidResource] at hnulResource
  -- zeros or ones behind every name
  rcases (hans.followedBy 0).reply cfg with ⟨id₀, hreply₀, hgroup₀, hname₀, hresource₀⟩
  rcases (hans.followedBy 1).reply cfg with ⟨id₁, hreply₁, hgroup₁, hname₁, hresource₁⟩
  have hid : id₀ = id₁ := by
    have h₀ := hsame _ (s.sameNames_followedBy 0)
    have h₁ := hsame _ (s.sameNames_followedBy 1)
    rw [hreply₀] at h₀
    rw [hreply₁, ← h₀] at h₁
    cases h₁
    rfl
  have hlength : ∀ {f : KStr}, 0 ∈ f.memcpy maxStrLen →
      (f.followedBy 0).memcpy maxStrLen = (f.followedBy 1).memcpy maxStrLen →
      f.chars.length = maxStrLen - 1 := by
    intro f hmem heq
    have hlt : f.chars.length < maxStrLen := by
      by_contra hge
      exact KStr.not_mem_memcpy (not_lt.1 hge) hmem
    have hge : ¬ f.chars.length < maxStrLen - 1 := fun hshort =>
      KStr.memcpy_followedBy_ne hshort (by decide) heq
    omega
  refine ⟨hlength hnulGroup ?_, hlength hnulName ?_, hlength hnulResource ?_⟩
  · rw [← hgroup₀, ← hgroup₁, hid]
  · rw [← hname₀, ← hname₁, hid]
  · rw [← hresource₀, ← hresource₁, hid]

/-- Names that end with the last byte of their copies look the same in every memory. -/
theorem memcpy_eq_of_chars {f g : KStr} (hchars : g.chars = f.chars)
    (hlen : f.chars.length = maxStrLen - 1) : g.memcpy maxStrLen = f.memcpy maxStrLen := by
  have hf := KStr.memcpy_of_length hlen
  have hg := KStr.memcpy_of_length (s := g) (hchars ▸ hlen)
  rw [hchars, ← hf] at hg
  exact hg

/-- Whether an id can be copied at all depends on the names only. -/
theorem isSome_resourceIdOf_sameNames {d d' : Device} {x : ResIdx} (h : d.SameNames d') :
    (resourceIdOf d' x).isSome = (resourceIdOf d x).isSome := by
  have hcopied : ∀ dev : Device, (resourceIdOf dev x).isSome =
      (dev.groupChars.isSome && dev.nameChars.isSome &&
        ((dev.resource x).name.map KStr.chars).isSome) := by
    intro dev
    cases hgroup : dev.group with
    | none => simp [resourceIdOf, Device.groupChars, hgroup]
    | some group =>
        cases hname : dev.name with
        | none => simp [resourceIdOf, Device.nameChars, hname]
        | some name =>
            cases hresource : (dev.resource x).name with
            | none => simp [resourceIdOf, hresource]
            | some resource =>
                simp [resourceIdOf, Device.groupChars, Device.nameChars, hgroup, hname, hresource]
  rw [hcopied, hcopied, h.group, h.name, h.resource]

/-- An id whose names end with the last byte of their copies is the same in every memory. -/
theorem resourceIdOf_sameNames {d d' : Device} {x : ResIdx} {id id' : ResourceId}
    (h : d.SameNames d') (hid : resourceIdOf d x = some id) (hid' : resourceIdOf d' x = some id')
    (hlen : ∀ group name resource, d.group = some group → d.name = some name →
      (d.resource x).name = some resource → group.chars.length = maxStrLen - 1 ∧
        name.chars.length = maxStrLen - 1 ∧ resource.chars.length = maxStrLen - 1) :
    id' = id := by
  rcases resourceIdOf_eq_some hid with ⟨group, name, resource, hgroup, hname, hresource, _⟩
  rcases resourceIdOf_eq_some hid' with ⟨group', name', resource', hgroup', hname', hresource', _⟩
  rcases hlen group name resource hgroup hname hresource with ⟨hlg, hln, hlr⟩
  have hg : group'.chars = group.chars := by
    simpa [Device.groupChars, hgroup, hgroup'] using h.group
  have hn : name'.chars = name.chars := by
    simpa [Device.nameChars, hname, hname'] using h.name
  have hr : resource'.chars = resource.chars := by
    simpa [hresource, hresource'] using h.resource x
  simp only [resourceIdOf, hgroup, hname, hresource, Option.some.injEq] at hid
  simp only [resourceIdOf, hgroup', hname', hresource', Option.some.injEq] at hid'
  rw [← hid, ← hid', memcpy_eq_of_chars hg hlg, memcpy_eq_of_chars hn hln,
    memcpy_eq_of_chars hr hlr, h.instanceId]

/-- The two memories take the request along the same path. -/
theorem reply_sameNames (h : SameNames s s')
    (hlen : ∀ (t : Token k) (group name resource : KStr),
      Answered s v deviceSlot resourceSlot io t group name resource →
        group.chars.length = maxStrLen - 1 ∧ name.chars.length = maxStrLen - 1 ∧
          resource.chars.length = maxStrLen - 1) :
    (managerIoctl cfg s' (.getId k v deviceSlot resourceSlot) io).map IoctlResult.reply =
      (managerIoctl cfg s (.getId k v deviceSlot resourceSlot) io).map IoctlResult.reply := by
  by_cases hacc : Accepted (.getId k v deviceSlot resourceSlot) io
  · rw [managerIoctl_of_accepted hacc, managerIoctl_of_accepted hacc]
    simp only [ioctlCommand]
    unfold ioctlGetId
    rw [h.devices]
    split
    · rfl
    · rfl
    · rename_i d i hd hi
      cases hp : s.devices d with
      | none => rfl
      | some p =>
          have hsome := isSome_resourceIdOf_sameNames (x := ⟨k, i⟩) (h.heap p)
          simp only [(h.heap p).slotIsEmpty]
          cases hempty : slotIsEmpty (s.heap p) ⟨k, i⟩ with
          | true => rfl
          | false =>
              cases hid : resourceIdOf (s.heap p) ⟨k, i⟩ with
              | none =>
                  rw [hid] at hsome
                  simp [Option.isNone_iff_eq_none.1 (by simpa using hsome)]
              | some id =>
                  rw [hid] at hsome
                  rcases Option.isSome_iff_exists.1 hsome with ⟨id', hid'⟩
                  rw [hid']
                  cases hcopy : io.copyToUserFails with
                  | true => simp [replyWith, hcopy]
                  | false =>
                      have heq : id' = id := by
                        refine resourceIdOf_sameNames (h.heap p) hid hid' ?_
                        intro group name resource hgroup hname hresource
                        exact hlen ⟨d, i⟩ group name resource ⟨hacc, hcopy,
                          inRange_eq_some_iff.1 hd, inRange_eq_some_iff.1 hi, p, hp, hempty,
                          hgroup, hname, hresource⟩
                      simp [heq, replyWith, hcopy]
  · rcases managerIoctl_of_not_accepted hacc with ⟨e, _, hall⟩
    rw [hall, hall]
    rfl

/-- GET_ID reveals the names and nothing else exactly when it finds nothing to return or names of
exactly 255 characters. -/
theorem getId_revealsOnlyNames_iff (cfg : Config) (s : KernelState) (k : ResourceKind) (v : Int32)
    (deviceSlot resourceSlot : Int) (io : IoFaults) :
    RevealsOnlyNames cfg s k v deviceSlot resourceSlot io ↔
      ∀ (t : Token k) (group name resource : KStr),
        Answered s v deviceSlot resourceSlot io t group name resource →
          group.chars.length = maxStrLen - 1 ∧ name.chars.length = maxStrLen - 1 ∧
            resource.chars.length = maxStrLen - 1 := by
  constructor
  · intro h t group name resource hans
    exact h.lengths hans
  · intro hlen
    refine ⟨fun s' hsame => reply_sameNames hsame hlen, ?_⟩
    intro res id hres hret hreply
    have hacc : Accepted (.getId k v deviceSlot resourceSlot) io := by
      rcases managerIoctl_cases hres with ⟨_, hneg, _, _⟩ | ⟨hacc, _⟩
      · omega
      · exact hacc
    rcases identifies_of_getId hres hret with ⟨t, id', hd, hi, ⟨p, hp, hempty, hid⟩, rfl⟩
    cases hreply
    rcases resourceIdOf_eq_some hid with
      ⟨group, name, resource, hgroup, hname, hresource, hidGroup, hidName, hidResource, _⟩
    have hcopy : io.copyToUserFails = false := by
      by_contra hfails
      subst hd hi
      have hget : ioctlGetId k t.deviceIndex t.resourceIndex io s =
          some ⟨0, s, some (.resourceId id)⟩ := (managerIoctl_of_accepted hacc).symm.trans hres
      rw [ioctlGetId_inRange] at hget
      simp [hp, hempty, hid, replyWith, hfails, Errno.EOVERFLOW] at hget
    rcases hlen t group name resource
      ⟨hacc, hcopy, hd, hi, p, hp, hempty, hgroup, hname, hresource⟩ with ⟨hlg, hln, hlr⟩
    have hnul : ∀ {f : KStr}, f.chars.length = maxStrLen - 1 → 0 ∈ f.memcpy maxStrLen := by
      intro f hf
      rw [show maxStrLen = maxStrLen - 1 + 1 from rfl, KStr.memcpy_of_length hf]
      simp
    rw [hidGroup, hidName, hidResource]
    exact ⟨hnul hlg, hnul hln, hnul hlr⟩

end Request

/-- The names of the device in slot 1 are short, so the id of its region shows what lies behind
them. -/
theorem getId_discloses :
    ¬ RevealsOnlyNames Sample.config Sample.mixed .memregion kernelVersionCode 1 0
      Sample.noFaults := by
  intro h
  have hacc : Accepted (.getId .memregion kernelVersionCode 1 0) Sample.noFaults :=
    ⟨rfl, by rintro v ⟨⟩; exact ⟨rfl, by decide +kernel⟩⟩
  have hans : Answered Sample.mixed kernelVersionCode 1 0 Sample.noFaults
      (⟨1, 0⟩ : Token .memregion) (Sample.str "g") (Sample.str "a") (Sample.str "bar") :=
    ⟨hacc, rfl, rfl, rfl, 1, rfl, by decide +kernel, rfl, rfl, rfl⟩
  exact absurd (h.lengths hans).1 (by decide +kernel)

end Cuddl
