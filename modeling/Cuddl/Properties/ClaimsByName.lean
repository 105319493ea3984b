import Cuddl.Properties.Identifiers
import Cuddl.User.Arguments

/-!
# What a claim by name depends on

`populate_id_from_args` copies 255 characters into a buffer of 256 bytes that it never cleared.  For
a shorter argument the copy ends in a NUL.  For a longer one the last byte of the buffer stays what
it was on the stack, and the manager, which compares 256 characters, compares it as well: the claim
finds a device only if that byte happens to continue its name.
-/

namespace Cuddl

open Foundation.CString Foundation.Search User

/-! ## One field -/

/-- The name and the argument agree in the characters that are copied. -/
def SharesPrefix (field : Option KStr) (arg : Option UStr) : Prop :=
  argChars arg = [] ∨ ∃ f, field = some f ∧
    f.chars.take (maxStrLen - 1) = (argChars arg).take (maxStrLen - 1)

/-- The argument is unspecified or ends before the last byte of its buffer, or that byte continues
the name as it should. -/
def Continues (field : Option KStr) (arg : Option UStr) (last : UInt8) : Prop :=
  argChars arg = [] ∨ (argChars arg).length < maxStrLen - 1 ∨
    ∃ f, field = some f ∧ last = f.chars.getD (maxStrLen - 1) 0

/-- The character behind the first 255. -/
def lastOf (field : Option KStr) : UInt8 :=
  (field.map fun f => f.chars.getD (maxStrLen - 1) 0).getD 0

theorem continues_lastOf {field : Option KStr} {arg : Option UStr} (h : SharesPrefix field arg) :
    Continues field arg (lastOf field) := by
  rcases h with hempty | ⟨f, rfl, _⟩
  · exact Or.inl hempty
  · exact Or.inr (Or.inr ⟨f, rfl, rfl⟩)

/-- A field that was filled from an argument agrees with the names that start with the argument,
provided the last byte goes on as they do. -/
theorem agrees_populateField_iff {field : Option KStr} {buffer : List UInt8} {arg : Option UStr}
    (hlen : buffer.length = maxStrLen) :
    Agrees field (populateField buffer arg) ↔
      SharesPrefix field arg ∧ Continues field arg (buffer.getD (maxStrLen - 1) 0) := by
  unfold Agrees SharesPrefix Continues
  rw [text_populateField hlen arg, copied_eq_nil_iff (by decide)]
  by_cases hempty : argChars arg = []
  · simp [hempty]
  · simp only [hempty, false_or]
    cases field with
    | none => simp
    | some f =>
        simp only [Option.some.injEq, exists_eq_left', text_eq_take f.nonzero]
        exact take_succ_eq_copied_iff f.nonzero

theorem SharesPrefix.eq_of_short {field : Option KStr} {arg : Option UStr}
    (h : SharesPrefix field arg) (hne : argChars arg ≠ [])
    (hshort : (argChars arg).length < maxStrLen - 1) :
    field.map KStr.chars = some (argChars arg) := by
  rcases h with hempty | ⟨f, rfl, htake⟩
  · exact absurd hempty hne
  · rw [List.take_of_length_le hshort.le] at htake
    have hlen := congrArg List.length htake
    rw [List.length_take] at hlen
    have hf : f.chars.length ≤ maxStrLen - 1 := by omega
    rw [List.take_of_length_le hf] at htake
    rw [Option.map_some, htake]

theorem sharesPrefix_of_eq {field : Option KStr} {arg : Option UStr}
    (h : field.map KStr.chars = some (argChars arg)) : SharesPrefix field arg := by
  rcases Option.map_eq_some_iff.1 h with ⟨f, rfl, hf⟩
  exact Or.inr ⟨f, rfl, by rw [hf]⟩

/-- A name that fits the copy ends where a cleared last byte ends it. -/
theorem continues_zero_of_eq {field : Option KStr} {arg : Option UStr}
    (h : field.map KStr.chars = some (argChars arg))
    (hlen : (argChars arg).length ≤ maxStrLen - 1) : Continues field arg 0 := by
  rcases Option.map_eq_some_iff.1 h with ⟨f, rfl, hf⟩
  refine Or.inr (Or.inr ⟨f, rfl, ?_⟩)
  rw [hf, List.getD_eq_getElem?_getD, List.getElem?_eq_none hlen, Option.getD_none]

/-- Behind a long argument there is one byte that continues a name. -/
theorem Continues.unique {field : Option KStr} {arg : Option UStr} {b c : UInt8}
    (hlong : ¬ (argChars arg).length < maxStrLen - 1) (hb : Continues field arg b)
    (hc : Continues field arg c) : b = c := by
  have hne : argChars arg ≠ [] := by
    rintro hempty
    exact hlong (by simp [hempty, maxStrLen])
  rcases (hb.resolve_left hne).resolve_left hlong with ⟨f, hf, rfl⟩
  rcases (hc.resolve_left hne).resolve_left hlong with ⟨g, hg, rfl⟩
  cases hf.symm.trans hg
  rfl

theorem continues_of_short {arg : Option UStr} (h : (argChars arg).length < maxStrLen - 1)
    (field : Option KStr) (last : UInt8) : Continues field arg last :=
  Or.inr (Or.inl h)

/-! ## The property and its condition -/

/-- The resource that a claim by name finds. -/
def claimTarget (s : KernelState) (k : ResourceKind) (stack : StackId) (args : ClaimArgs) :
    Option (Slot × DevPtr × Fin k.max) :=
  managerLookup s k (populateIdFromArgs stack.toResourceId args)

/-- The arguments are not empty, fit into the buffers, and are the names of the resource. -/
def NamesExactly (s : KernelState) {k : ResourceKind} (args : ClaimArgs) (d : Slot)
    (i : Fin k.max) : Prop :=
  (∀ arg ∈ [args.group, args.device, args.resource],
    argChars arg ≠ [] ∧ (argChars arg).length ≤ maxStrLen - 1) ∧
  ∃ p ∈ s.devices d,
    (args.instanceId = 0 ∨ (s.heap p).instanceId = args.instanceId) ∧
      (s.heap p).group.map KStr.chars = some (argChars args.group) ∧
      (s.heap p).name.map KStr.chars = some (argChars args.device) ∧
      ((s.heap p).resource ⟨k, i⟩).name.map KStr.chars = some (argChars args.resource)

/-- What a claim finds depends on its arguments and the table only, a claim by exact names finds
something, and whatever is found has the names that were given. -/
structure NameDetermined (s : KernelState) (k : ResourceKind) (args : ClaimArgs) : Prop where
  independent : ∀ stack stack', claimTarget s k stack args = claimTarget s k stack' args
  complete : ∀ (stack : StackId) (d : Slot) (i : Fin k.max), NamesExactly s args d i →
    (claimTarget s k stack args).isSome
  sound : ∀ (stack : StackId) (d : Slot) (p : DevPtr) (i : Fin k.max),
    claimTarget s k stack args = some (d, p, i) →
      (argChars args.group ≠ [] →
        (s.heap p).group.map KStr.chars = some (argChars args.group)) ∧
      (argChars args.device ≠ [] →
        (s.heap p).name.map KStr.chars = some (argChars args.device)) ∧
      (argChars args.resource ≠ [] →
        ((s.heap p).resource ⟨k, i⟩).name.map KStr.chars = some (argChars args.resource))

/-- Every argument leaves room for the terminator of its copy. -/
def ShortArgs (args : ClaimArgs) : Prop :=
  (argChars args.group).length < maxStrLen - 1 ∧
    (argChars args.device).length < maxStrLen - 1 ∧
    (argChars args.resource).length < maxStrLen - 1

/-- The device in slot `d` has the instance and the first 255 characters of the names. -/
def CandidateSlot (s : KernelState) (args : ClaimArgs) (d : Slot) : Prop :=
  ∃ p ∈ s.devices d, (args.instanceId = 0 ∨ (s.heap p).instanceId = args.instanceId) ∧
    SharesPrefix (s.heap p).group args.group ∧ SharesPrefix (s.heap p).name args.device

def CandidateResource (s : KernelState) (k : ResourceKind) (args : ClaimArgs) (d : Slot)
    (i : Fin k.max) : Prop :=
  ∃ p ∈ s.devices d, ((s.heap p).resource ⟨k, i⟩).name.isSome ∧
    SharesPrefix ((s.heap p).resource ⟨k, i⟩).name args.resource

/-- Behind the copied characters, the names of the device in slot `e` go on with the same byte as
those of the device in slot `d`. -/
def ReadsLike (s : KernelState) (args : ClaimArgs) (e d : Slot) : Prop :=
  ∃ q ∈ s.devices e, ∃ p ∈ s.devices d,
    Continues (s.heap q).group args.group (lastOf (s.heap p).group) ∧
      Continues (s.heap q).name args.device (lastOf (s.heap p).name)

/-- No resource has the first 255 characters of the names, unless its device hides, for a claim
that asks for any resource, behind an earlier one that reads like it. -/
def NoCandidate (s : KernelState) (k : ResourceKind) (args : ClaimArgs) : Prop :=
  ∀ d i, CandidateSlot s args d → CandidateResource s k args d i →
    argChars args.resource = [] ∧ ∃ e, e < d ∧ CandidateSlot s args e ∧ ReadsLike s args e d

/-! ## The lookup of a claim -/

section Target

variable {s : KernelState} {k : ResourceKind} {args : ClaimArgs} {stack : StackId} {d : Slot}

/-- The byte behind the copy in each buffer. -/
def lastByte (buffer : List UInt8) : UInt8 :=
  buffer.getD (maxStrLen - 1) 0

theorem agreeingSlot_iff :
    AgreeingSlot s (populateIdFromArgs stack.toResourceId args) d ↔
      ∃ p ∈ s.devices d, (args.instanceId = 0 ∨ (s.heap p).instanceId = args.instanceId) ∧
        (SharesPrefix (s.heap p).group args.group ∧
          Continues (s.heap p).group args.group (lastByte stack.group)) ∧
        SharesPrefix (s.heap p).name args.device ∧
          Continues (s.heap p).name args.device (lastByte stack.device) := by
  simp only [AgreeingSlot, populateIdFromArgs, agrees_populateField_iff stack.length_group,
    agrees_populateField_iff stack.length_device, lastByte]

theorem resourceTest_populate_iff {i : Fin k.max} :
    resourceTest s k (populateIdFromArgs stack.toResourceId args) d i = true ↔
      ∃ p ∈ s.devices d, ((s.heap p).resource ⟨k, i⟩).name.isSome ∧
        SharesPrefix ((s.heap p).resource ⟨k, i⟩).name args.resource ∧
          Continues ((s.heap p).resource ⟨k, i⟩).name args.resource (lastByte stack.resource) := by
  rw [resourceTest_iff]
  simp only [populateIdFromArgs, agrees_populateField_iff stack.length_resource, lastByte]

theorem text_resource_eq_nil_iff :
    text maxStrLen (populateIdFromArgs stack.toResourceId args).resource = [] ↔
      argChars args.resource = [] := by
  simp only [populateIdFromArgs]
  rw [text_populateField stack.length_resource, copied_eq_nil_iff (by decide)]

/-- The claim finds something when the first device that passes has a resource that passes. -/
theorem claimTarget_isSome_iff :
    (claimTarget s k stack args).isSome ↔
      ∃ d, searchFrom (deviceTest s k (populateIdFromArgs stack.toResourceId args)) 0 = some d ∧
        ∃ i, resourceTest s k (populateIdFromArgs stack.toResourceId args) d i = true := by
  have hslots : (claimTarget s k stack args).isSome =
      (lookupSlots s k (populateIdFromArgs stack.toResourceId args)).isSome := by
    rw [lookupSlots, Option.isSome_map]
    rfl
  rw [hslots, lookupSlots_eq_searchPair, searchPair_isSome_iff]

/-- A claim for a resource by name finds something as soon as one device passes. -/
theorem claimTarget_isSome_of_named (hnamed : argChars args.resource ≠ []) {i : Fin k.max}
    (hslot : AgreeingSlot s (populateIdFromArgs stack.toResourceId args) d)
    (hres : resourceTest s k (populateIdFromArgs stack.toResourceId args) d i = true) :
    (claimTarget s k stack args).isSome := by
  have hpass := (deviceTest_iff s k _).2 ⟨hslot, Or.inr ⟨i, hres⟩⟩
  rw [claimTarget_isSome_iff]
  rcases exists_searchFrom_of_pass (Nat.zero_le _) hpass with ⟨e, he⟩
  refine ⟨e, he, ?_⟩
  rcases ((deviceTest_iff s k _).1 (searchFrom_eq_some_iff.1 he).2.1).2 with hno | hi
  · exact absurd (text_resource_eq_nil_iff.1 hno) hnamed
  · exact hi

/-- A claim finds a candidate whose names go on with the bytes behind the copies. -/
theorem claimTarget_eq_some {p : DevPtr} {i : Fin k.max}
    (h : claimTarget s k stack args = some (d, p, i)) :
    s.devices d = some p ∧ (args.instanceId = 0 ∨ (s.heap p).instanceId = args.instanceId) ∧
      (SharesPrefix (s.heap p).group args.group ∧
        Continues (s.heap p).group args.group (lastByte stack.group)) ∧
      (SharesPrefix (s.heap p).name args.device ∧
        Continues (s.heap p).name args.device (lastByte stack.device)) ∧
      ((s.heap p).resource ⟨k, i⟩).name.isSome ∧
      SharesPrefix ((s.heap p).resource ⟨k, i⟩).name args.resource ∧
        Continues ((s.heap p).resource ⟨k, i⟩).name args.resource (lastByte stack.resource) := by
  have hd := (managerLookup_eq_some h).1
  rcases agrees_of_managerLookup h with ⟨hslot, hres⟩
  rcases agreeingSlot_iff.1 hslot with ⟨q, hq, hinst, hgroup, hname⟩
  rcases resourceTest_populate_iff.1 hres with ⟨r, hr, hsome, hresource⟩
  cases hd.symm.trans hq
  cases hd.symm.trans hr
  exact ⟨hd, hinst, hgroup, hname, hsome, hresource⟩

/-- A claim that succeeds returns the token of what it finds. -/
theorem token_of_claimByName {cfg : Config} {rt : Bool} {pid : Pid} {options : BitVec 32}
    {io : IoFaults} {sys : SysFaults} {r : CallResult}
    (h : User.resourceClaim cfg k rt pid (populateIdFromArgs stack.toResourceId args) options io
      sys s = some r) (hret : r.ret = 0) :
    ∃ d p i, claimTarget s k stack args = some (d, p, i) ∧
      r.reply.bind (Reply.token? k) = some ⟨d, i⟩ := by
  rcases managerCall_of_ret_zero h hret with ⟨res, hres, hzero, _, hreply⟩
  rcases managerIoctl_claim_of_ret_zero hres hzero with ⟨d, p, i, hfind, _, rfl⟩
  refine ⟨d, p, i, hfind, ?_⟩
  rw [hreply]
  exact token?_infoReply cfg _ _ _

/-- A resource whose names are given exactly is found if the bytes behind the copies continue
them. -/
theorem claimTarget_isSome_of_exact {i : Fin k.max} (h : NamesExactly s args d i)
    (hlast : ∀ p ∈ s.devices d,
      Continues (s.heap p).group args.group (lastByte stack.group) ∧
        Continues (s.heap p).name args.device (lastByte stack.device) ∧
        Continues ((s.heap p).resource ⟨k, i⟩).name args.resource (lastByte stack.resource)) :
    (claimTarget s k stack args).isSome := by
  rcases h with ⟨hfits, p, hp, hinst, hgroup, hname, hresource⟩
  rcases hlast p hp with ⟨hlastGroup, hlastName, hlastResource⟩
  have hnamed := (hfits args.resource (by simp)).1
  have hsome : ((s.heap p).resource ⟨k, i⟩).name.isSome := by
    rcases Option.map_eq_some_iff.1 hresource with ⟨r, hr, _⟩
    rw [hr]
    rfl
  have hslot := agreeingSlot_iff.2 ⟨p, hp, hinst, ⟨sharesPrefix_of_eq hgroup, hlastGroup⟩,
    sharesPrefix_of_eq hname, hlastName⟩
  have hres := resourceTest_populate_iff.2
    ⟨p, hp, hsome, sharesPrefix_of_eq hresource, hlastResource⟩
  exact claimTarget_isSome_of_named hnamed hslot hres

end Target

/-! ## Short arguments -/

/-- A lookup reads its patterns as bounded C strings. -/
theorem managerLookup_congr {s : KernelState} {k : ResourceKind} {id id' : ResourceId}
    (hgroup : text maxStrLen id.group = text maxStrLen id'.group)
    (hdevice : text maxStrLen id.device = text maxStrLen id'.device)
    (hresource : text maxStrLen id.resource = text maxStrLen id'.resource)
    (hinst : id.instanceId = id'.instanceId) : managerLookup s k id = managerLookup s k id' := by
  have hagrees : ∀ {p p' : List UInt8}, text maxStrLen p = text maxStrLen p' →
      ∀ field, fieldMatches field (some p) = fieldMatches field (some p') := by
    intro p p' h field
    rw [Bool.eq_iff_iff, fieldMatches_some_iff, fieldMatches_some_iff, Agrees, Agrees, h]
  have hspec : specified (some id.resource) = specified (some id'.resource) := by
    rw [Bool.eq_iff_iff, specified_some_iff, specified_some_iff, hresource]
  have hfind : ∀ dev, deviceFindSlot k dev (some id.resource) =
      deviceFindSlot k dev (some id'.resource) := by
    intro dev
    simp only [deviceFindSlot, resourceMatches, hagrees hresource]
  have hoffers : ∀ dev, deviceOffers dev (some id.resource) (some k) =
      deviceOffers dev (some id'.resource) (some k) := by
    intro dev
    cases k with
    | memregion =>
        simp only [deviceOffers, deviceFindMemregionSlot, hspec]
        rw [hfind dev]
    | eventsrc =>
        simp only [deviceOffers, deviceFindEventsrcSlot, hspec]
        rw [hfind dev]
  simp only [managerLookup, managerFindDeviceSlotMatching, deviceAgrees, hagrees hgroup,
    hagrees hdevice, hoffers, hfind, hinst]

theorem nameDetermined_of_short {s : KernelState} {k : ResourceKind} {args : ClaimArgs}
    (h : ShortArgs args) : NameDetermined s k args := by
  rcases h with ⟨hgroup, hdevice, hresource⟩
  refine ⟨?_, ?_, ?_⟩
  · intro stack stack'
    refine managerLookup_congr ?_ ?_ ?_ rfl
    · simp only [populateIdFromArgs]
      rw [text_populateField stack.length_group, text_populateField stack'.length_group,
        copied_of_short hgroup, copied_of_short hgroup]
    · simp only [populateIdFromArgs]
      rw [text_populateField stack.length_device, text_populateField stack'.length_device,
        copied_of_short hdevice, copied_of_short hdevice]
    · simp only [populateIdFromArgs]
      rw [text_populateField stack.length_resource, text_populateField stack'.length_resource,
        copied_of_short hresource, copied_of_short hresource]
  · intro stack d i hexact
    refine claimTarget_isSome_of_exact hexact ?_
    intro p _
    exact ⟨continues_of_short hgroup _ _, continues_of_short hdevice _ _,
      continues_of_short hresource _ _⟩
  · intro stack d p i hfound
    rcases claimTarget_eq_some hfound with ⟨_, _, ⟨hg, _⟩, ⟨hn, _⟩, _, hr, _⟩
    exact ⟨fun hne => hg.eq_of_short hne hgroup, fun hne => hn.eq_of_short hne hdevice,
      fun hne => hr.eq_of_short hne hresource⟩

/-! ## Long arguments -/

/-- A buffer that ends in a given byte. -/
def bufferEnding (last : UInt8) : List UInt8 :=
  List.replicate (maxStrLen - 1) 0 ++ [last]

theorem length_bufferEnding (last : UInt8) : (bufferEnding last).length = maxStrLen := by
  rw [bufferEnding, List.length_append, List.length_replicate, List.length_singleton]
  rfl

theorem lastByte_bufferEnding (last : UInt8) : lastByte (bufferEnding last) = last := by
  have hlast : ∀ n, (List.replicate n 0 ++ [last]).getD n 0 = last := by
    intro n
    simp
  exact hlast _

/-- A stack with given bytes at the ends of its buffers. -/
theorem exists_stack (group device resource : UInt8) :
    ∃ stack : StackId, lastByte stack.group = group ∧ lastByte stack.device = device ∧
      lastByte stack.resource = resource :=
  ⟨{ group := bufferEnding group
     device := bufferEnding device
     resource := bufferEnding resource
     instanceId := 0
     length_group := length_bufferEnding group
     length_device := length_bufferEnding device
     length_resource := length_bufferEnding resource },
    lastByte_bufferEnding group, lastByte_bufferEnding device, lastByte_bufferEnding resource⟩

/-- An argument that fills its buffer has one byte behind it that leads to what was found, so a
claim that finds something depends on that byte. -/
theorem claimTarget_eq_none_of_long {s : KernelState} {k : ResourceKind} {args : ClaimArgs}
    (hindep : ∀ stack stack', claimTarget s k stack args = claimTarget s k stack' args)
    (hlong : ¬ ShortArgs args) (stack : StackId) : claimTarget s k stack args = none := by
  by_contra hsome
  rcases Option.ne_none_iff_exists'.1 hsome with ⟨⟨d, p, i⟩, hfound⟩
  have hevery : ∀ stack', claimTarget s k stack' args = some (d, p, i) := fun stack' =>
    (hindep stack' stack).trans hfound
  -- two stacks that differ in all three bytes
  rcases exists_stack 0 0 0 with ⟨stack₀, hg₀, hn₀, hr₀⟩
  rcases exists_stack 1 1 1 with ⟨stack₁, hg₁, hn₁, hr₁⟩
  rcases claimTarget_eq_some (hevery stack₀) with
    ⟨_, _, ⟨_, hgroup₀⟩, ⟨_, hname₀⟩, _, _, hresource₀⟩
  rcases claimTarget_eq_some (hevery stack₁) with
    ⟨_, _, ⟨_, hgroup₁⟩, ⟨_, hname₁⟩, _, _, hresource₁⟩
  rw [hg₀] at hgroup₀
  rw [hn₀] at hname₀
  rw [hr₀] at hresource₀
  rw [hg₁] at hgroup₁
  rw [hn₁] at hname₁
  rw [hr₁] at hresource₁
  have hne : (0 : UInt8) ≠ 1 := by decide
  refine hlong ⟨?_, ?_, ?_⟩
  · by_contra hno
    exact hne (hgroup₀.unique hno hgroup₁)
  · by_contra hno
    exact hne (hname₀.unique hno hname₁)
  · by_contra hno
    exact hne (hresource₀.unique hno hresource₁)

theorem nameDetermined_of_none {s : KernelState} {k : ResourceKind} {args : ClaimArgs}
    (h : ∀ stack, claimTarget s k stack args = none) : NameDetermined s k args := by
  refine ⟨fun stack stack' => (h stack).trans (h stack').symm, ?_, ?_⟩
  · intro _ d i hexact
    -- on a cleared stack the exact names would have been found
    rcases exists_stack 0 0 0 with ⟨cleared, hg, hn, hr⟩
    have hfound : (claimTarget s k cleared args).isSome := by
      refine claimTarget_isSome_of_exact hexact ?_
      rcases hexact with ⟨hfits, q, hq, _, hgroup, hname, hresource⟩
      intro p hp
      cases Option.some.inj (hp.symm.trans hq)
      rw [hg, hn, hr]
      exact ⟨continues_zero_of_eq hgroup (hfits args.group (by simp)).2,
        continues_zero_of_eq hname (hfits args.device (by simp)).2,
        continues_zero_of_eq hresource (hfits args.resource (by simp)).2⟩
    rw [h] at hfound
    cases hfound
  · intro stack d p i hfound
    rw [h stack] at hfound
    cases hfound

/-- The byte that continues one name continues the names that go on like it. -/
theorem Continues.of_lastOf {f g : Option KStr} {arg : Option UStr} {b : UInt8}
    (hshares : SharesPrefix f arg) (hf : Continues f arg b)
    (hg : Continues g arg (lastOf f)) : Continues g arg b := by
  by_cases hshort : (argChars arg).length < maxStrLen - 1
  · exact continues_of_short hshort g b
  · rwa [hf.unique hshort (continues_lastOf hshares)]

/-- No stack leads a claim anywhere exactly when there is no candidate. -/
theorem claimTarget_eq_none_iff {s : KernelState} {k : ResourceKind} {args : ClaimArgs} :
    (∀ stack, claimTarget s k stack args = none) ↔ NoCandidate s k args := by
  constructor
  · rintro h d i ⟨p, hp, hinst, hgroup, hname⟩ ⟨q, hq, hsome, hresource⟩
    cases Option.some.inj (hp.symm.trans hq)
    -- the stack that continues the names of the candidate
    rcases exists_stack (lastOf (s.heap p).group) (lastOf (s.heap p).name)
      (lastOf ((s.heap p).resource ⟨k, i⟩).name) with ⟨stack, hg, hn, hr⟩
    have hslot : AgreeingSlot s (populateIdFromArgs stack.toResourceId args) d := by
      refine agreeingSlot_iff.2 ⟨p, hp, hinst, ⟨hgroup, ?_⟩, hname, ?_⟩
      · rw [hg]
        exact continues_lastOf hgroup
      · rw [hn]
        exact continues_lastOf hname
    have hres : resourceTest s k (populateIdFromArgs stack.toResourceId args) d i = true := by
      refine resourceTest_populate_iff.2 ⟨p, hp, hsome, hresource, ?_⟩
      rw [hr]
      exact continues_lastOf hresource
    have hnone : ¬ (claimTarget s k stack args).isSome := by
      rw [h stack]
      simp
    by_cases hnamed : argChars args.resource = []
    · refine ⟨hnamed, ?_⟩
      by_contra hfirst
      refine hnone (claimTarget_isSome_iff.2 ⟨d, searchFrom_eq_some_iff.2 ⟨Nat.zero_le _, ?_, ?_⟩,
        i, hres⟩)
      · exact (deviceTest_iff s k _).2 ⟨hslot, Or.inr ⟨i, hres⟩⟩
      · intro e _ hlt
        by_contra hpass
        rcases agreeingSlot_iff.1 ((deviceTest_iff s k _).1 (Bool.not_eq_false _ ▸ hpass)).1 with
          ⟨r, hr', hinst', ⟨hgroup', hgroupLast⟩, hname', hnameLast⟩
        rw [hg] at hgroupLast
        rw [hn] at hnameLast
        exact hfirst ⟨e, hlt, ⟨r, hr', hinst', hgroup', hname'⟩,
          ⟨r, hr', p, hp, hgroupLast, hnameLast⟩⟩
    · exact absurd (claimTarget_isSome_of_named hnamed hslot hres) hnone
  · intro h stack
    by_contra hsome
    rcases Option.ne_none_iff_exists'.1 hsome with ⟨⟨d, p, i⟩, hfound⟩
    rcases claimTarget_eq_some hfound with
      ⟨hd, hinst, ⟨hgroup, hgroupLast⟩, ⟨hname, hnameLast⟩, hres, hresource, _⟩
    rcases h d i ⟨p, hd, hinst, hgroup, hname⟩ ⟨p, hd, hres, hresource⟩ with
      ⟨hnamed, e, hlt, ⟨q, hq, hinst', hgroup', hname'⟩, ⟨q', hq', p', hp', hcg, hcn⟩⟩
    cases Option.some.inj (hq.symm.trans hq')
    cases Option.some.inj (hd.symm.trans hp')
    -- the device in the earlier slot passes the device search too
    have hslot : AgreeingSlot s (populateIdFromArgs stack.toResourceId args) e :=
      agreeingSlot_iff.2 ⟨q, hq, hinst', ⟨hgroup', hgroupLast.of_lastOf hgroup hcg⟩,
        hname', hnameLast.of_lastOf hname hcn⟩
    have hpass := (deviceTest_iff s k _).2 ⟨hslot, Or.inl (text_resource_eq_nil_iff.2 hnamed)⟩
    have hslots := lookupSlots_of_managerLookup hfound
    rw [lookupSlots_eq_searchPair] at hslots
    have hfirst := (searchFrom_eq_some_iff.1 (searchPair_eq_some_iff.1 hslots).1).2.2 e
      (Nat.zero_le _) hlt
    simp [hpass] at hfirst

/-- A claim by name is determined by the names exactly when each of them leaves room for the
terminator of its copy, or no resource starts with the 255 characters that are copied. -/
theorem claim_nameDetermined_iff (s : KernelState) (k : ResourceKind) (args : ClaimArgs) :
    NameDetermined s k args ↔ ShortArgs args ∨ NoCandidate s k args := by
  constructor
  · intro h
    by_cases hshort : ShortArgs args
    · exact Or.inl hshort
    · exact Or.inr (claimTarget_eq_none_iff.1 (claimTarget_eq_none_of_long h.independent hshort))
  · rintro (hshort | hnone)
    · exact nameDetermined_of_short hshort
    · exact nameDetermined_of_none (claimTarget_eq_none_iff.2 hnone)

/-- A group name of 255 characters. -/
def Sample.longName : List UInt8 :=
  List.replicate (maxStrLen - 1) 103

theorem Sample.longName_nonzero : ∀ c ∈ Sample.longName, c ≠ 0 := by
  intro c hc
  rw [List.eq_of_mem_replicate hc]
  decide

theorem Sample.length_longName : Sample.longName.length = maxStrLen - 1 :=
  List.length_replicate

/-- Slot 0 holds a device with that group. -/
def Sample.longGroup : KernelState :=
  { Sample.kernel with
    heap := fun _ =>
      { Sample.device "g" "x" with
        group := some ⟨Sample.longName, Sample.longName_nonzero, fun _ => 0⟩ }
    devices := fun d => if d = 0 then some 0 else none }

/-- The exact names of its region. -/
def Sample.longArgs : ClaimArgs :=
  { group := some ⟨Sample.longName, Sample.longName_nonzero⟩
    device := some ⟨(Sample.str "x").chars, (Sample.str "x").nonzero⟩
    resource := some ⟨(Sample.str "bar").chars, (Sample.str "bar").nonzero⟩
    instanceId := 0 }

/-- A claim by exact names of at most 255 characters may find nothing. -/
theorem claim_not_nameDetermined :
    ¬ NameDetermined Sample.longGroup .memregion Sample.longArgs := by
  intro h
  have hlong : ¬ ShortArgs Sample.longArgs := by
    rintro ⟨hgroup, _, _⟩
    exact absurd Sample.length_longName hgroup.ne
  have hexact : NamesExactly Sample.longGroup Sample.longArgs 0
      (0 : Fin (ResourceKind.max .memregion)) := by
    refine ⟨?_, 0, rfl, Or.inl rfl, rfl, rfl, rfl⟩
    intro arg harg
    simp only [List.mem_cons, List.not_mem_nil, or_false] at harg
    rcases harg with rfl | rfl | rfl
    · have hne : Sample.longName ≠ [] := List.ne_nil_of_length_pos (by
        rw [Sample.length_longName]
        decide)
      exact ⟨hne, Sample.length_longName.le⟩
    · decide +kernel
    · decide +kernel
  rcases exists_stack 0 0 0 with ⟨stack, _, _, _⟩
  have hfound := h.complete stack 0 0 hexact
  rw [claimTarget_eq_none_of_long h.independent hlong stack] at hfound
  cases hfound

end Cuddl
