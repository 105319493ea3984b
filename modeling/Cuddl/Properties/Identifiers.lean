import Cuddl.Properties.Enumeration
import Cuddl.Properties.Instances
import Cuddl.Properties.Tokens
import Cuddl.Properties.WildcardLookup

/-!
# The id of a resource leads back to it

GET_ID gives a resource its full id: group, name and instance of its device and its own name, each
copied into a buffer.  Over a table where such ids are unambiguous (`Identifiable`), a lookup of
the id stops at the very slots it was made from, so the queries by match return an id that fits
the match and that they return again when they are given it (`id_roundTrip`).
-/

namespace Cuddl

open Foundation.CString Foundation.Search

/-! ## Unambiguous tables -/

/-- Not empty, and short enough for the buffers of an id. -/
def KStr.Fits (s : KStr) : Prop :=
  s.chars ≠ [] ∧ s.chars.length < maxStrLen

instance (s : KStr) : Decidable s.Fits :=
  inferInstanceAs (Decidable (_ ∧ _))

/-- No two devices have the same group, name and instance, no two resources of a kind in one device
have the same name, and all of these fit into an id. -/
structure Identifiable (s : KernelState) : Prop where
  labelled : ∀ d p, s.devices d = some p → ∃ group name, (s.heap p).group = some group ∧
    (s.heap p).name = some name ∧ group.Fits ∧ name.Fits ∧ (s.heap p).instanceId ≠ 0
  named : ∀ d p x name, s.devices d = some p → ((s.heap p).resource x).name = some name → name.Fits
  device : ∀ d d' p p', s.devices d = some p → s.devices d' = some p' →
    (s.heap p').triple = (s.heap p).triple → d' = d
  resource : ∀ d p (k : ResourceKind) (i i' : Fin k.max) name name', s.devices d = some p →
    ((s.heap p).resource ⟨k, i⟩).name = some name →
    ((s.heap p).resource ⟨k, i'⟩).name = some name' → name'.chars = name.chars → i' = i

/-- Resource `t` is not empty, and `id` is what GET_ID makes of it. -/
def Identifies (s : KernelState) {k : ResourceKind} (t : Token k) (id : ResourceId) : Prop :=
  ∃ p, s.devices t.deviceIndex = some p ∧
    slotIsEmpty (s.heap p) ⟨k, t.resourceIndex⟩ = false ∧
    resourceIdOf (s.heap p) ⟨k, t.resourceIndex⟩ = some id

/-- Each field that `m` specifies is the same in `id`. -/
structure FitsMatch (id m : ResourceId) : Prop where
  group : text maxStrLen m.group = [] ∨ text maxStrLen id.group = text maxStrLen m.group
  device : text maxStrLen m.device = [] ∨ text maxStrLen id.device = text maxStrLen m.device
  resource :
    text maxStrLen m.resource = [] ∨ text maxStrLen id.resource = text maxStrLen m.resource
  instanceId : m.instanceId = 0 ∨ id.instanceId = m.instanceId

/-- None of the system calls of a query fails, and nothing that the manager calls for it. -/
structure Undisturbed (calls : IoFaults × SysFaults) : Prop where
  kzalloc : calls.1.kzallocFails = false
  copyFromUser : calls.1.copyFromUserFails = false
  copyToUser : calls.1.copyToUserFails = false
  opens : calls.2.openErrno = none
  closes : calls.2.closeErrno = none

/-! ## The buffers of an id -/

theorem KStr.Fits.text_chars {s : KStr} (h : s.Fits) : text maxStrLen s.chars = s.chars :=
  text_eq_self s.nonzero h.2.le

theorem KStr.Fits.text_memcpy {s : KStr} (h : s.Fits) :
    text maxStrLen (s.memcpy maxStrLen) = s.chars := by
  rcases KStr.memcpy_eq h.2 with ⟨r, hr⟩
  rw [hr]
  exact text_append_nul s.nonzero h.2

/-- A copied string agrees with itself only. -/
theorem agrees_memcpy_iff {f s : KStr} (hf : f.Fits) (hs : s.Fits) :
    Agrees (some f) (s.memcpy maxStrLen) ↔ f.chars = s.chars := by
  simp [Agrees, hs.text_memcpy, hf.text_chars, hs.1]

/-- What a string agrees with is unspecified, or the same as its copy. -/
theorem text_memcpy_of_agrees {s : KStr} {pattern : List UInt8} (hs : s.Fits)
    (h : Agrees (some s) pattern) :
    text maxStrLen pattern = [] ∨
      text maxStrLen (s.memcpy maxStrLen) = text maxStrLen pattern := by
  rcases h with hempty | ⟨f, hf, htext⟩
  · exact Or.inl hempty
  · cases hf
    right
    rw [hs.text_memcpy, ← hs.text_chars, htext]

theorem resourceIdOf_eq_some {dev : Device} {x : ResIdx} {id : ResourceId}
    (h : resourceIdOf dev x = some id) :
    ∃ group name resource, dev.group = some group ∧ dev.name = some name ∧
      (dev.resource x).name = some resource ∧ id.group = group.memcpy maxStrLen ∧
      id.device = name.memcpy maxStrLen ∧ id.resource = resource.memcpy maxStrLen ∧
      id.instanceId = dev.instanceId := by
  unfold resourceIdOf at h
  split at h
  · rename_i group name resource hgroup hname hresource
    cases h
    exact ⟨group, name, resource, hgroup, hname, hresource, rfl, rfl, rfl, rfl⟩
  · cases h

/-! ## Lookups -/

section Lookups

variable {s : KernelState} {k : ResourceKind} {id : ResourceId} {d : Slot} {p : DevPtr}
  {i : Fin k.max}

theorem lookupSlots_of_managerLookup (h : managerLookup s k id = some (d, p, i)) :
    lookupSlots s k id = some (toLex (d, i)) := by
  simp [lookupSlots, h]

theorem managerLookup_of_lookupSlots (h : lookupSlots s k id = some (toLex (d, i)))
    (hd : s.devices d = some p) : managerLookup s k id = some (d, p, i) := by
  rcases Option.map_eq_some_iff.1 h with ⟨⟨d', p', i'⟩, hfind, heq⟩
  have hpair : (d', i') = (d, i) := toLex.injective heq
  cases hpair
  cases hd.symm.trans (managerLookup_eq_some hfind).1
  exact hfind

/-- The slots that a lookup returns agree with every field of the id. -/
theorem agrees_of_managerLookup (h : managerLookup s k id = some (d, p, i)) :
    AgreeingSlot s id d ∧ resourceTest s k id d i = true := by
  have hslots := lookupSlots_of_managerLookup h
  rw [lookupSlots_eq_searchPair] at hslots
  rcases searchPair_eq_some_iff.1 hslots with ⟨hd, hi⟩
  exact ⟨((deviceTest_iff s k id).1 (searchFrom_eq_some_iff.1 hd).2.1).1,
    (searchFrom_eq_some_iff.1 hi).2.1⟩

/-- Over an unambiguous table the lookup of an id returns the slots that the id was made from. -/
theorem Identifiable.managerLookup (hs : Identifiable s) {t : Token k}
    (hid : Identifies s t id) :
    ∃ p, managerLookup s k id = some (t.deviceIndex, p, t.resourceIndex) := by
  rcases hid with ⟨p, hd, _, hid⟩
  rcases resourceIdOf_eq_some hid with
    ⟨group, name, resource, hgroup, hname, hresource, hidGroup, hidDevice, hidResource, hidInst⟩
  rcases hs.labelled _ _ hd with ⟨_, _, hgroup', hname', hgroupFits, hnameFits, hinst⟩
  cases hgroup.symm.trans hgroup'
  cases hname.symm.trans hname'
  have hresourceFits := hs.named _ _ _ _ hd hresource
  refine ⟨p, managerLookup_of_lookupSlots ?_ hd⟩
  rw [lookupSlots_eq_searchPair]
  -- the resource has the name, and no other resource of the device has it
  have hpass : resourceTest s k id t.deviceIndex t.resourceIndex = true := by
    refine (resourceTest_iff s k id).2 ⟨p, hd, by simp [hresource], ?_⟩
    rw [hresource, hidResource]
    exact (agrees_memcpy_iff hresourceFits hresourceFits).2 rfl
  refine searchPair_eq_some_iff.2 ⟨searchFrom_of_unique ?_ ?_, searchFrom_of_unique hpass ?_⟩
  · refine (deviceTest_iff s k id).2 ⟨⟨p, hd, Or.inr hidInst.symm, ?_, ?_⟩, Or.inr ⟨_, hpass⟩⟩
    · rw [hgroup, hidGroup]
      exact (agrees_memcpy_iff hgroupFits hgroupFits).2 rfl
    · rw [hname, hidDevice]
      exact (agrees_memcpy_iff hnameFits hnameFits).2 rfl
  · -- a device that agrees in all three fields is the same device
    intro d' hd'
    rcases ((deviceTest_iff s k id).1 hd').1 with ⟨p', hp', hinst', hgroupAgrees, hnameAgrees⟩
    rcases hs.labelled _ _ hp' with ⟨group', name', hg, hn, hgFits, hnFits, _⟩
    rw [hg, hidGroup] at hgroupAgrees
    rw [hn, hidDevice] at hnameAgrees
    rw [hidInst] at hinst'
    have hgroupChars := (agrees_memcpy_iff hgFits hgroupFits).1 hgroupAgrees
    have hnameChars := (agrees_memcpy_iff hnFits hnameFits).1 hnameAgrees
    refine hs.device _ _ p p' hd hp' ?_
    simp [Device.triple, Device.groupChars, Device.nameChars, hg, hn, hgroup, hname, hgroupChars,
      hnameChars, hinst'.resolve_left hinst]
  · intro i' hi'
    rcases (resourceTest_iff s k id).1 hi' with ⟨p', hp', hsome, hagrees⟩
    cases hd.symm.trans hp'
    rcases Option.isSome_iff_exists.1 hsome with ⟨resource', hresource'⟩
    rw [hresource', hidResource] at hagrees
    have hresourceFits' := hs.named _ _ _ _ hd hresource'
    exact hs.resource _ p k _ _ _ _ hd hresource hresource'
      ((agrees_memcpy_iff hresourceFits' hresourceFits).1 hagrees)

end Lookups

/-! ## Requests -/

section Requests

variable {cfg : Config} {s : KernelState} {k : ResourceKind} {id m : ResourceId} {t : Token k}
  {io : IoFaults} {sys : SysFaults} {res : IoctlResult}

/-- A GET_ID that succeeds returns the id of the resource in the slots that it was given. -/
theorem identifies_of_getId {v : Int32} {deviceSlot resourceSlot : Int}
    (h : managerIoctl cfg s (.getId k v deviceSlot resourceSlot) io = some res)
    (hret : res.ret = 0) :
    ∃ (t : Token k) (id : ResourceId), deviceSlot = t.deviceIndex ∧
      resourceSlot = t.resourceIndex ∧ Identifies s t id ∧
      res = ⟨0, s, some (.resourceId id)⟩ := by
  rcases managerIoctl_cases h with ⟨_, hneg, _, _⟩ | ⟨_, hcmd⟩
  · omega
  · have hget : ioctlGetId k deviceSlot resourceSlot io s = some res := hcmd
    rcases ioctlGetId_cases hget with ⟨hneg, _⟩ | ⟨d, i, p, id, rfl, rfl, hd, hid, rfl⟩
    · omega
    · refine ⟨⟨d, i⟩, id, rfl, rfl, ⟨p, hd, ?_, hid⟩, rfl⟩
      -- an empty slot would have been refused
      by_contra hempty
      rw [ioctlGetId_inRange] at hget
      simp [hd, hempty, Errno.EINVAL] at hget

theorem getId_of_identifies (cfg : Config) (hid : Identifies s t id) {v : Int32}
    (hacc : Accepted (.getId k v t.deviceIndex t.resourceIndex) io)
    (hcopy : io.copyToUserFails = false) :
    managerIoctl cfg s (.getId k v t.deviceIndex t.resourceIndex) io =
      some ⟨0, s, some (.resourceId id)⟩ := by
  rcases hid with ⟨p, hd, hempty, hid⟩
  have hcmd : managerIoctl cfg s (.getId k v t.deviceIndex t.resourceIndex) io =
      ioctlGetId k t.deviceIndex t.resourceIndex io s := managerIoctl_of_accepted hacc
  rw [hcmd, ioctlGetId_inRange]
  simp [hd, hempty, hid, replyWith, hcopy]

/-- An INFO for an id that the lookup finds returns the slots of the lookup. -/
theorem info_of_managerLookup (cfg : Config) {d : Slot} {p : DevPtr} {i : Fin k.max}
    {data : ClaimData} (hfind : managerLookup s k data.id = some (d, p, i))
    (hacc : Accepted (.info k data) io) (hcopy : io.copyToUserFails = false) :
    ∃ reply, managerIoctl cfg s (.info k data) io = some ⟨0, s, some reply⟩ ∧
      reply.token? k = some ⟨d, i⟩ := by
  have hcmd : managerIoctl cfg s (.info k data) io =
      some (ioctlClaimInfo cfg k false false data io s) := managerIoctl_of_accepted hacc
  rcases ioctlClaimInfo_info_cases cfg k data io s with
    ⟨hnone, _, _⟩ | ⟨d', p', i', hfind', ⟨hfails, _, _⟩ | ⟨_, heq⟩⟩
  · cases hnone.symm.trans hfind
  · cases hcopy.symm.trans hfails
  · cases hfind.symm.trans hfind'
    exact ⟨claimReply cfg s k false d p i, by rw [hcmd, heq], token?_infoReply cfg _ _ _⟩

theorem Undisturbed.accepted {calls : IoFaults × SysFaults} (h : Undisturbed calls)
    {req : Request} (hv : req.versionCode? = some userVersionCode) : Accepted req calls.1 :=
  (accepted_iff hv).2 ⟨h.kzalloc, h.copyFromUser⟩

theorem Undisturbed.managerCall {calls : IoFaults × SysFaults} (h : Undisturbed calls)
    {req : Request} {reply : Reply}
    (hres : managerIoctl cfg s req calls.1 = some ⟨0, s, some reply⟩) :
    managerCall cfg s req calls.1 calls.2 = some ⟨0, s, some reply⟩ := by
  simp [Cuddl.managerCall, h.opens, hres, finishCall, h.closes]

/-- What fits a match agrees with it. -/
theorem Identifies.fitsMatch (hs : Identifiable s) {p : DevPtr}
    (hfind : managerLookup s k m = some (t.deviceIndex, p, t.resourceIndex))
    (hid : Identifies s t id) : FitsMatch id m := by
  rcases hid with ⟨q, hd, _, hid⟩
  rcases resourceIdOf_eq_some hid with
    ⟨group, name, resource, hgroup, hname, hresource, hidGroup, hidDevice, hidResource, hidInst⟩
  rcases hs.labelled _ _ hd with ⟨_, _, hgroup', hname', hgroupFits, hnameFits, _⟩
  cases hgroup.symm.trans hgroup'
  cases hname.symm.trans hname'
  rcases agrees_of_managerLookup hfind with ⟨⟨q', hq', hinst, hgroupAgrees, hnameAgrees⟩, htest⟩
  cases hd.symm.trans hq'
  rcases (resourceTest_iff s k m).1 htest with ⟨q'', hq'', _, hresourceAgrees⟩
  cases hd.symm.trans hq''
  rw [hgroup] at hgroupAgrees
  rw [hname] at hnameAgrees
  rw [hresource] at hresourceAgrees
  refine ⟨?_, ?_, ?_, ?_⟩
  · rw [hidGroup]
    exact text_memcpy_of_agrees hgroupFits hgroupAgrees
  · rw [hidDevice]
    exact text_memcpy_of_agrees hnameFits hnameAgrees
  · rw [hidResource]
    exact text_memcpy_of_agrees (hs.named _ _ _ _ hd hresource) hresourceAgrees
  · rwa [hidInst]

/-- An undisturbed query for a match that the lookup takes to `t` returns the id of `t`. -/
theorem idForMatch_of_managerLookup {pid : Pid} {first second : IoFaults × SysFaults} {p : DevPtr}
    (hfirst : Undisturbed first) (hsecond : Undisturbed second)
    (hfind : managerLookup s k m = some (t.deviceIndex, p, t.resourceIndex))
    (hid : Identifies s t id) :
    slotQueryForId cfg .resourceId k pid m first second some s =
      some ⟨0, s, some (.resourceId id)⟩ := by
  let data : ClaimData := { versionCode := userVersionCode, id := m, pid := pid, options := 0 }
  have hdata : managerLookup s k data.id = some (t.deviceIndex, p, t.resourceIndex) := hfind
  have hinfoAcc : Accepted (.info k data) first.1 := hfirst.accepted rfl
  rcases info_of_managerLookup cfg hdata hinfoAcc hfirst.copyToUser with
    ⟨reply, hinfo, htoken⟩
  have hinfoCall : getInfoForId cfg k pid m first.1 first.2 s = some ⟨0, s, some reply⟩ :=
    hfirst.managerCall hinfo
  have hgetAcc : Accepted (.getId k userVersionCode t.deviceIndex t.resourceIndex) second.1 :=
    hsecond.accepted rfl
  have hget := hsecond.managerCall (getId_of_identifies cfg hid hgetAcc hsecond.copyToUser)
  simpa [slotQueryForId, SlotQuery.request, hinfoCall, htoken] using hget

/-- A query for a match that succeeds has returned the id of what the lookup takes the match to. -/
theorem identifies_of_idForMatch {pid : Pid} {first second : IoFaults × SysFaults} {r : CallResult}
    (h : slotQueryForId cfg .resourceId k pid m first second some s = some r) (hret : r.ret = 0) :
    ∃ (t : Token k) (p : DevPtr) (id : ResourceId),
      managerLookup s k m = some (t.deviceIndex, p, t.resourceIndex) ∧ Identifies s t id ∧
        r.state = s ∧ r.reply = some (.resourceId id) := by
  cases hinfo : getInfoForId cfg k pid m first.1 first.2 s with
  | none => simp [slotQueryForId, hinfo] at h
  | some info =>
      by_cases hzero : info.ret = 0
      · rcases getInfoForId_of_ret_zero hinfo hzero with ⟨d, p, i, hfind, hst, htoken⟩
        have hcall : managerCall cfg s (.getId k userVersionCode d i) second.1 second.2 =
            some r := by
          simpa [slotQueryForId, SlotQuery.request, hinfo, hzero, htoken, hst] using h
        rcases managerCall_of_ret_zero hcall hret with ⟨res, hres, hresZero, hst', hreply⟩
        rcases identifies_of_getId hres hresZero with ⟨t, id, hd, hi, hid, rfl⟩
        have hd' : d = t.deviceIndex := Fin.ext (Int.ofNat.inj hd)
        have hi' : i = t.resourceIndex := Fin.ext (Int.ofNat.inj hi)
        subst hd' hi'
        exact ⟨t, p, id, hfind, hid, hst', hreply⟩
      · -- an INFO that fails is what the query returns
        have hr : info = r := by
          simpa [slotQueryForId, hinfo, hzero] using h
        exact absurd (hr ▸ hret) hzero

end Requests

/-! ## The round trip -/

/-- Over an unambiguous table: the id that a GET_ID returns leads an INFO back to the slots of the
GET_ID; and a query for a match that succeeds returns an id that fits the match and that is
returned again by an undisturbed query for it. -/
theorem id_roundTrip (cfg : Config) {s : KernelState} (hs : Identifiable s) (k : ResourceKind) :
    (∀ {v : Int32} {deviceSlot resourceSlot : Int} {io : IoFaults} {res : IoctlResult},
      managerIoctl cfg s (.getId k v deviceSlot resourceSlot) io = some res → res.ret = 0 →
      ∃ (t : Token k) (id : ResourceId), deviceSlot = t.deviceIndex ∧
        resourceSlot = t.resourceIndex ∧ res = ⟨0, s, some (.resourceId id)⟩ ∧
        ∀ (data : ClaimData) (io' : IoFaults), data.id = id → Accepted (.info k data) io' →
          io'.copyToUserFails = false →
          ∃ reply, managerIoctl cfg s (.info k data) io' = some ⟨0, s, some reply⟩ ∧
            reply.token? k = some t) ∧
    ∀ {pid : Pid} {m : ResourceId} {first second : IoFaults × SysFaults} {r : CallResult},
      slotQueryForId cfg .resourceId k pid m first second some s = some r → r.ret = 0 →
      ∃ id, r.state = s ∧ r.reply = some (.resourceId id) ∧ FitsMatch id m ∧
        ∀ (pid' : Pid) (first' second' : IoFaults × SysFaults), Undisturbed first' →
          Undisturbed second' →
          slotQueryForId cfg .resourceId k pid' id first' second' some s =
            some ⟨0, s, some (.resourceId id)⟩ := by
  constructor
  · intro v deviceSlot resourceSlot io res h hret
    rcases identifies_of_getId h hret with ⟨t, id, hd, hi, hid, hres⟩
    refine ⟨t, id, hd, hi, hres, ?_⟩
    rintro data io' rfl hacc hcopy
    rcases hs.managerLookup hid with ⟨p, hfind⟩
    exact info_of_managerLookup cfg hfind hacc hcopy
  · intro pid m first second r h hret
    rcases identifies_of_idForMatch h hret with ⟨t, p, id, hfind, hid, hst, hreply⟩
    refine ⟨id, hst, hreply, hid.fitsMatch hs hfind, ?_⟩
    intro pid' first' second' hfirst hsecond
    rcases hs.managerLookup hid with ⟨q, hback⟩
    exact idForMatch_of_managerLookup hfirst hsecond hback hid

/-- Memory region 0 of slot 1. -/
def Sample.getSecondId : Request :=
  .getId .memregion kernelVersionCode (1 : Slot) (0 : Fin (ResourceKind.max .memregion))

/-- The two devices have regions of one name, and differ in their own names. -/
theorem Sample.managedBoth_identifiable : Identifiable Sample.managedBoth := by
  have hslots : ∀ d, (Sample.managedBoth.devices d).all
      (fun p => decide (d = 0 ∧ p = 0 ∨ d = 1 ∧ p = 1)) = true := by
    decide +kernel
  have hslot : ∀ {d p}, Sample.managedBoth.devices d = some p →
      d = 0 ∧ p = 0 ∨ d = 1 ∧ p = 1 := by
    intro d p hd
    have hd' := hslots d
    rw [hd] at hd'
    exact of_decide_eq_true hd'
  have hmem : ∀ p ∈ [0, 1], ∀ i, ((Sample.managedBoth.heap p).resource ⟨.memregion, i⟩).name.all
      (fun n => decide (i = 0 ∧ n.Fits)) = true := by decide +kernel
  have hevt : ∀ p ∈ [0, 1], ∀ i, ((Sample.managedBoth.heap p).resource ⟨.eventsrc, i⟩).name.all
      (fun n => decide (i = 0 ∧ n.Fits)) = true := by decide +kernel
  have hlabel : ∀ p ∈ [0, 1],
      ((Sample.managedBoth.heap p).group.any fun n => decide n.Fits) = true ∧
      ((Sample.managedBoth.heap p).name.any fun n => decide n.Fits) = true ∧
      (Sample.managedBoth.heap p).instanceId ≠ 0 := by decide +kernel
  have hmanaged : ∀ {d p}, Sample.managedBoth.devices d = some p → p ∈ [0, 1] := by
    intro d p hd
    rcases hslot hd with ⟨_, rfl⟩ | ⟨_, rfl⟩
    · decide
    · decide
  have hname : ∀ {p} {k : ResourceKind} {i : Fin k.max} {n : KStr}, p ∈ [0, 1] →
      ((Sample.managedBoth.heap p).resource ⟨k, i⟩).name = some n → i = 0 ∧ n.Fits := by
    intro p k i n hp hn
    cases k with
    | memregion => simpa [hn] using hmem p hp i
    | eventsrc => simpa [hn] using hevt p hp i
  refine ⟨?_, ?_, ?_, ?_⟩
  · intro d p hd
    rcases hlabel p (hmanaged hd) with ⟨hgroup, hdevice, hinstance⟩
    rcases (Option.any_eq_true _ _).1 hgroup with ⟨g, hg, hgFits⟩
    rcases (Option.any_eq_true _ _).1 hdevice with ⟨n, hn, hnFits⟩
    exact ⟨g, n, hg, hn, of_decide_eq_true hgFits, of_decide_eq_true hnFits, hinstance⟩
  · rintro d p ⟨k, i⟩ n hd hn
    exact (hname (hmanaged hd) hn).2
  · intro d d' p p' hd hd' htriple
    -- the devices differ in their names
    have hdiffer : (Sample.managedBoth.heap 0).triple ≠ (Sample.managedBoth.heap 1).triple := by
      decide +kernel
    rcases hslot hd with ⟨rfl, rfl⟩ | ⟨rfl, rfl⟩
    · rcases hslot hd' with ⟨rfl, rfl⟩ | ⟨rfl, rfl⟩
      · rfl
      · exact absurd htriple.symm hdiffer
    · rcases hslot hd' with ⟨rfl, rfl⟩ | ⟨rfl, rfl⟩
      · exact absurd htriple hdiffer
      · rfl
  · intro d p k i i' n n' hd hn hn' _
    exact (hname (hmanaged hd) hn').1.trans (hname (hmanaged hd) hn).1.symm

/-- The id of the region of the second device leads back to it. -/
theorem id_roundTrip_managedBoth :
    ∃ id, managerIoctl Sample.config Sample.managedBoth Sample.getSecondId Sample.noFaults =
        some ⟨0, Sample.managedBoth, some (.resourceId id)⟩ ∧
      (∃ reply, managerIoctl Sample.config Sample.managedBoth
          (.info .memregion ⟨userVersionCode, id, 1, 0⟩) Sample.noFaults =
            some ⟨0, Sample.managedBoth, some reply⟩ ∧
        reply.token? .memregion = some ⟨1, 0⟩) := by
  have hrun : (managerIoctl Sample.config Sample.managedBoth Sample.getSecondId
      Sample.noFaults).any (fun res => decide (res.ret = 0)) = true := by decide +kernel
  rcases (Option.any_eq_true _ _).1 hrun with ⟨res, hres, hok⟩
  rcases (id_roundTrip Sample.config Sample.managedBoth_identifiable .memregion).1 hres
    (of_decide_eq_true hok) with ⟨t, id, hd, hi, rfl, hinfo⟩
  have ht : t = ⟨1, 0⟩ := by
    rcases t with ⟨d, i⟩
    have hd' : (1 : Slot) = d := Fin.ext (Int.ofNat.inj hd)
    have hi' : (0 : Fin (ResourceKind.max .memregion)) = i := Fin.ext (Int.ofNat.inj hi)
    rw [← hd', ← hi']
  subst ht
  refine ⟨id, hres, hinfo ⟨userVersionCode, id, 1, 0⟩ Sample.noFaults rfl ?_ rfl⟩
  have hcompat : versionCodeIsCompat userVersionCode = true := by decide
  exact ⟨rfl, by rintro v ⟨⟩; exact ⟨rfl, hcompat⟩⟩

end Cuddl
