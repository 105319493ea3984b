import Mathlib.Data.Multiset.Filter
import Cuddl.Foundation.Ledger
import Cuddl.Kernel.Manage
import Cuddl.Kernel.Ioctl

/-!
# The manager keeps a ledger

What the reference counts and the two reference lists are for: together they are a `Ledger` whose
resources are the resource slots of the table and whose holders are process ids.  An empty slot
counts zero.  Each entry point of the manager is one ledger operation:

* an admitted claim is `claim`, a decrement is `drop`, a release is `release`;
* the clean-up of a process is `cleanup`;
* managing or releasing a device without claims leaves the ledger alone.

All of this needs `TableInjective`: a device in two slots would count twice.
-/

namespace Cuddl

open Foundation

/-- No device is managed twice. -/
def TableInjective (s : KernelState) : Prop :=
  ∀ d d' p, s.devices d = some p → s.devices d' = some p → d = d'

/-- It is a property of the table alone. -/
theorem tableInjective_of_devices {s s' : KernelState} (hinj : TableInjective s)
    (hdev : s'.devices = s.devices) : TableInjective s' := by
  unfold TableInjective
  rw [hdev]
  exact hinj

/-! ## The ledger of a state -/

namespace KernelState

def countAt (s : KernelState) (r : Res) : Nat :=
  match s.devices r.1 with
  | none => 0
  | some p => (s.heap p).refCount r.2

end KernelState

def ResourceRef.claim {k : ResourceKind} (e : ResourceRef k) : Res × Pid :=
  (e.token.res, e.pid)

def claims {k : ResourceKind} (l : List (ResourceRef k)) : Multiset (Res × Pid) :=
  (l : Multiset (ResourceRef k)).map ResourceRef.claim

def KernelState.ledger (s : KernelState) : Ledger Res Pid :=
  { count := s.countAt
    held := claims (s.refs .memregion) + claims (s.refs .eventsrc) }

section Claims

variable {k : ResourceKind}

theorem claim_injective : Function.Injective (ResourceRef.claim (k := k)) := by
  -- slot, kind, index and pid determine an entry
  rintro ⟨⟨d, i⟩, p⟩ ⟨⟨d', i'⟩, p'⟩ h
  simp only [ResourceRef.claim, Token.res, Prod.mk.injEq, Sigma.mk.injEq, heq_eq_eq,
    true_and] at h
  rcases h with ⟨⟨rfl, rfl⟩, rfl⟩
  rfl

@[simp] theorem claims_nil : claims ([] : List (ResourceRef k)) = 0 := rfl

@[simp] theorem claims_cons (e : ResourceRef k) (l : List (ResourceRef k)) :
    claims (e :: l) = e.claim ::ₘ claims l := rfl

theorem claims_erase (e : ResourceRef k) (l : List (ResourceRef k)) :
    claims (l.erase e) = (claims l).erase e.claim := by
  unfold claims
  rw [← Multiset.coe_erase, Multiset.map_erase _ claim_injective]

theorem claims_filter (pid : Pid) (l : List (ResourceRef k)) :
    claims (l.filter fun e => e.pid ≠ pid) = (claims l).filter fun x => x.2 ≠ pid := by
  unfold claims
  rw [Multiset.filter_map, ← Multiset.filter_coe]
  rfl

theorem mem_claims_iff {e : ResourceRef k} {l : List (ResourceRef k)} :
    e.claim ∈ claims l ↔ e ∈ l := by
  unfold claims
  rw [Multiset.mem_map_of_injective claim_injective, Multiset.mem_coe]

theorem kind_of_mem_claims {l : List (ResourceRef k)} {x : Res × Pid} (h : x ∈ claims l) :
    x.1.2.1 = k := by
  rcases Multiset.mem_map.1 h with ⟨e, _, rfl⟩
  rfl

end Claims

/-! ## Entries of the lists -/

section Lists

variable (s : KernelState) {k : ResourceKind}

theorem mem_held_iff {e : ResourceRef k} : e.claim ∈ s.ledger.held ↔ e ∈ s.refs k := by
  unfold KernelState.ledger
  rw [Multiset.mem_add]
  cases k with
  | memregion =>
      -- an entry of one list is no claim of the other
      have hno : e.claim ∉ claims (s.refs .eventsrc) := by
        intro h
        cases kind_of_mem_claims h
      simp [hno, mem_claims_iff]
  | eventsrc =>
      have hno : e.claim ∉ claims (s.refs .memregion) := by
        intro h
        cases kind_of_mem_claims h
      simp [hno, mem_claims_iff]

theorem countP_claims_token (t : Token k) (l : List (ResourceRef k)) :
    (claims l).countP (fun x => x.1 = t.res) = l.countP fun e => e.token = t := by
  unfold claims
  rw [Multiset.countP_map, ← Multiset.countP_eq_card_filter, Multiset.coe_countP]
  refine List.countP_congr ?_
  rintro ⟨⟨d, i⟩, p⟩ _
  rcases t with ⟨d', i'⟩
  simp [ResourceRef.claim, Token.res]

theorem countP_claims_other {k' : ResourceKind} (hk : k' ≠ k) (t : Token k)
    (l : List (ResourceRef k')) : (claims l).countP (fun x => x.1 = t.res) = 0 := by
  rw [Multiset.countP_eq_zero]
  intro x hx heq
  have hkind := kind_of_mem_claims hx
  rw [heq] at hkind
  exact hk hkind.symm

/-- The claims on record for a slot are the list entries that carry its token. -/
theorem entries_ledger (t : Token k) :
    s.ledger.entries t.res = (s.refs k).countP fun e => e.token = t := by
  unfold Ledger.entries KernelState.ledger
  rw [Multiset.countP_add]
  cases k with
  | memregion =>
      -- the other list has no entry for a token of this kind
      rw [countP_claims_token, countP_claims_other (by decide), Nat.add_zero]
  | eventsrc =>
      rw [countP_claims_token, countP_claims_other (by decide), Nat.zero_add]

end Lists

/-! ## Counters -/

section Counters

variable {s : KernelState} {d : Slot} {p : DevPtr}

theorem countAt_of_devices {r : Res} (h : s.devices r.1 = some p) :
    s.countAt r = (s.heap p).refCount r.2 := by
  simp [KernelState.countAt, h]

theorem countAt_of_empty {r : Res} (h : s.devices r.1 = none) : s.countAt r = 0 := by
  simp [KernelState.countAt, h]

/-- Counters depend on the table and the counts only. -/
theorem countAt_congr {s' : KernelState} (hdev : s'.devices = s.devices)
    (hcount : ∀ q y, (s'.heap q).refCount y = (s.heap q).refCount y) : s'.countAt = s.countAt := by
  funext r
  cases hr : s.devices r.1 with
  | none =>
      have hr' : s'.devices r.1 = none := by rw [hdev, hr]
      rw [countAt_of_empty hr, countAt_of_empty hr']
  | some q =>
      have hr' : s'.devices r.1 = some q := by rw [hdev, hr]
      rw [countAt_of_devices hr, countAt_of_devices hr', hcount]

@[simp] theorem countAt_setRefs (s : KernelState) (k : ResourceKind) (l : List (ResourceRef k)) :
    (s.setRefs k l).countAt = s.countAt := rfl

/-- In an injective table, the device in slot `d` is in no other slot. -/
theorem slot_eq_iff (hinj : TableInjective s) (hd : s.devices d = some p) {q : DevPtr} {r : Res}
    (hr : s.devices r.1 = some q) (x : ResIdx) : (q = p ∧ r.2 = x) ↔ r = (d, x) := by
  constructor
  · rintro ⟨rfl, rfl⟩
    exact Prod.ext (hinj _ _ _ hr hd) rfl
  · rintro rfl
    exact ⟨Option.some.inj (hr.symm.trans hd), rfl⟩

theorem countAt_takeRef (hinj : TableInjective s) (hd : s.devices d = some p) (x : ResIdx)
    (r : Res) : (s.takeRef p x).countAt r = s.countAt r + if r = (d, x) then 1 else 0 := by
  cases hr : s.devices r.1 with
  | none =>
      have hne : r ≠ (d, x) := by
        rintro rfl
        simp [hd] at hr
      have hr' : (s.takeRef p x).devices r.1 = none := by simpa using hr
      simp [countAt_of_empty hr, countAt_of_empty hr', hne]
  | some q =>
      have hr' : (s.takeRef p x).devices r.1 = some q := by simpa using hr
      rw [countAt_of_devices hr, countAt_of_devices hr', refCount_takeRef]
      simp only [slot_eq_iff hinj hd hr x]

theorem countAt_resourceDecrRefCount (hinj : TableInjective s) (hd : s.devices d = some p)
    (x : ResIdx) (r : Res) :
    (resourceDecrRefCount s p x).2.countAt r = s.countAt r - if r = (d, x) then 1 else 0 := by
  cases hr : s.devices r.1 with
  | none =>
      have hr' : (resourceDecrRefCount s p x).2.devices r.1 = none := by simpa using hr
      simp [countAt_of_empty hr, countAt_of_empty hr']
  | some q =>
      have hr' : (resourceDecrRefCount s p x).2.devices r.1 = some q := by simpa using hr
      rw [countAt_of_devices hr, countAt_of_devices hr', refCount_resourceDecrRefCount]
      simp only [slot_eq_iff hinj hd hr x]

end Counters

/-! ## Counts and entries -/

/-- Each count of a managed device is the number of list entries for the resource. -/
def CountsEntries (s : KernelState) : Prop :=
  ∀ (d : Slot) (p : DevPtr) (k : ResourceKind) (i : Fin k.max), s.devices d = some p →
    (s.heap p).refCount ⟨k, i⟩ = (s.refs k).countP fun e => e.token = ⟨d, i⟩

theorem countsEntries_of_balancedAt {s : KernelState} (h : ∀ r, s.ledger.BalancedAt r) :
    CountsEntries s := by
  intro d p k i hd
  have hcount : s.ledger.count (d, ⟨k, i⟩) = (s.heap p).refCount ⟨k, i⟩ :=
    countAt_of_devices (r := (d, ⟨k, i⟩)) hd
  rw [← hcount, ← entries_ledger]
  exact h (d, ⟨k, i⟩)

/-! ## Claims, decrements and releases -/

section Requests

variable {s : KernelState} {d : Slot} {p : DevPtr} {k : ResourceKind} {i : Fin k.max} {pid : Pid}

theorem held_cons (s : KernelState) (e : ResourceRef k) :
    (s.setRefs k (e :: s.refs k)).ledger.held = e.claim ::ₘ s.ledger.held := by
  unfold KernelState.ledger
  cases k with
  | memregion => simp
  | eventsrc => simp [Multiset.add_cons]

theorem held_erase (s : KernelState) (e : ResourceRef k) :
    (s.setRefs k ((s.refs k).erase e)).ledger.held = s.ledger.held.erase e.claim := by
  -- `erase` strikes at most one entry, and only in the list of its own kind
  by_cases he : e ∈ s.refs k
  · have hmem : e.claim ∈ claims (s.refs k) := mem_claims_iff.2 he
    unfold KernelState.ledger
    cases k with
    | memregion => simp [claims_erase, Multiset.erase_add_left_pos _ hmem]
    | eventsrc => simp [claims_erase, Multiset.erase_add_right_pos _ hmem]
  · have hno : e.claim ∉ s.ledger.held := fun h => he ((mem_held_iff s).1 h)
    rw [Multiset.erase_of_notMem hno, List.erase_of_not_mem he]
    simp [KernelState.ledger]

theorem ledger_withOwner (s : KernelState) (q : DevPtr) (f : Module → Module) :
    (s.withOwner q f).ledger = s.ledger := by
  have hcount : (s.withOwner q f).countAt = s.countAt :=
    countAt_congr (by simp) (by simp)
  simp [KernelState.ledger, hcount]

theorem ledger_claim (hinj : TableInjective s) (hd : s.devices d = some p) :
    ((s.takeRef p ⟨k, i⟩).setRefs k (⟨⟨d, i⟩, pid⟩ :: s.refs k)).ledger =
      s.ledger.claim (d, ⟨k, i⟩) pid := by
  have hheld := held_cons (s.takeRef p ⟨k, i⟩) (⟨⟨d, i⟩, pid⟩ : ResourceRef k)
  rw [takeRef_refs] at hheld
  refine Ledger.ext ?_ (hheld.trans ?_)
  · funext r
    have hcount := countAt_takeRef hinj hd ⟨k, i⟩ r
    by_cases hr : r = (d, ⟨k, i⟩)
    · subst hr
      simpa [Ledger.claim, KernelState.ledger] using hcount
    · simpa [Ledger.claim, KernelState.ledger, hr] using hcount
  · simp [Ledger.claim, KernelState.ledger, ResourceRef.claim, Token.res]

theorem ledger_drop (hinj : TableInjective s) (hd : s.devices d = some p) (x : ResIdx) :
    (resourceDecrRefCount s p x).2.ledger = s.ledger.drop (d, x) := by
  refine Ledger.ext ?_ ?_
  · funext r
    have hcount := countAt_resourceDecrRefCount hinj hd x r
    by_cases hr : r = (d, x)
    · subst hr
      simpa [Ledger.drop, KernelState.ledger] using hcount
    · simpa [Ledger.drop, KernelState.ledger, hr] using hcount
  · simp [Ledger.drop, KernelState.ledger]

theorem ledger_release (hinj : TableInjective s) (hd : s.devices d = some p) :
    ((resourceDecrRefCount s p ⟨k, i⟩).2.setRefs k
        ((s.refs k).erase ⟨⟨d, i⟩, pid⟩)).ledger = s.ledger.release (d, ⟨k, i⟩) pid := by
  have hheld := held_erase (resourceDecrRefCount s p ⟨k, i⟩).2 (⟨⟨d, i⟩, pid⟩ : ResourceRef k)
  rw [resourceDecrRefCount_refs] at hheld
  have hdrop := ledger_drop hinj hd (⟨k, i⟩ : ResIdx)
  have hcount := congrArg Ledger.count hdrop
  refine Ledger.ext ?_ (hheld.trans ?_)
  · exact hcount
  · rw [hdrop]
    rfl

end Requests

/-! ## Cleaning up after a process -/

section CleanUp

variable {k : ResourceKind} {pid : Pid}

/-- The clean-up keeps the entries of the other processes. -/
theorem freeRefsLoop_kept :
    ∀ {l kept : List (ResourceRef k)} {s s' : KernelState},
      freeRefsLoop pid l s = some (kept, s') → kept = l.filter fun e => e.pid ≠ pid := by
  intro l
  induction l with
  | nil =>
      intro kept s s' h
      cases h
      rfl
  | cons pos rest ih =>
      intro kept s s' h
      rcases freeRefsLoop_cons h with ⟨hpid, p, _, hrest⟩ | ⟨hpid, kept', rfl, hrest⟩
      · simp [ih hrest, hpid]
      · simp [ih hrest, hpid]

/-- The clean-up drops one count for each entry of the process. -/
theorem freeRefsLoop_count :
    ∀ {l kept : List (ResourceRef k)} {s s' : KernelState}, TableInjective s →
      freeRefsLoop pid l s = some (kept, s') →
        ∀ r, s'.countAt r = s.countAt r - (claims l).count (r, pid) := by
  -- induction on the entries; each entry of the process costs one count
  intro l
  induction l with
  | nil =>
      intro kept s s' _ h r
      cases h
      simp
  | cons pos rest ih =>
      intro kept s s' hinj h r
      rcases freeRefsLoop_cons h with ⟨hpid, p, hslot, hrest⟩ | ⟨hpid, kept', _, hrest⟩
      · have hinj' : TableInjective (resourceDecrRefCount s p ⟨k, pos.token.resourceIndex⟩).2 :=
          tableInjective_of_devices hinj (by simp)
        have hclaim : pos.claim = (pos.token.res, pid) := by
          simp [ResourceRef.claim, hpid]
        rw [ih hinj' hrest, countAt_resourceDecrRefCount hinj hslot, claims_cons,
          Multiset.count_cons, hclaim]
        -- the entry at the head pays for one drop of its own resource
        by_cases hr : r = pos.token.res
        · simp [hr, Token.res]
          omega
        · have hr' : r ≠ (pos.token.deviceIndex, ⟨k, pos.token.resourceIndex⟩) := hr
          simp [hr, hr']
      · have hne : (r, pid) ≠ pos.claim := by
          intro heq
          exact hpid (congrArg Prod.snd heq).symm
        rw [ih hinj hrest, claims_cons, Multiset.count_cons_of_ne hne]

/-- The clean-up dereferences an empty slot exactly when the process has an entry for one. -/
theorem freeRefsLoop_isSome_iff :
    ∀ {l : List (ResourceRef k)} {s : KernelState},
      (freeRefsLoop pid l s).isSome ↔
        ∀ e ∈ l, e.pid = pid → s.devices e.token.deviceIndex ≠ none := by
  intro l
  induction l with
  | nil =>
      intro s
      simp [freeRefsLoop]
  | cons pos rest ih =>
      intro s
      by_cases hpid : pos.pid = pid
      · cases hslot : s.devices pos.token.deviceIndex with
        | none => simp [freeRefsLoop, hpid, hslot]
        | some p => simp [freeRefsLoop, hpid, hslot, ih]
      · simp [freeRefsLoop, hpid, ih]

theorem freeRefs_refs {s s' : KernelState} (h : freeRefs k pid s = some s') :
    s'.refs = Function.update s.refs k ((s.refs k).filter fun e => e.pid ≠ pid) := by
  rcases Option.map_eq_some_iff.1 h with ⟨⟨kept, t⟩, hloop, rfl⟩
  have hkept := freeRefsLoop_kept hloop
  have hrefs := (freeRefsLoop_sameShape hloop).2
  simp [hrefs, hkept]

theorem freeRefs_count {s s' : KernelState} (hinj : TableInjective s)
    (h : freeRefs k pid s = some s') (r : Res) :
    s'.countAt r = s.countAt r - (claims (s.refs k)).count (r, pid) := by
  rcases Option.map_eq_some_iff.1 h with ⟨⟨kept, t⟩, hloop, rfl⟩
  exact freeRefsLoop_count hinj hloop r

/-- The clean-up strikes every entry of the process. -/
theorem managerFreeRefsForPid_refs {s s' : KernelState}
    (h : managerFreeRefsForPid s pid = some s') (k : ResourceKind) :
    s'.refs k = (s.refs k).filter fun e => e.pid ≠ pid := by
  rcases Option.bind_eq_some_iff.1 h with ⟨t, hmem, hevt⟩
  rw [freeRefs_refs hevt, freeRefs_refs hmem]
  cases k with
  | memregion => simp
  | eventsrc => simp

/-- It also drops a count for each entry it strikes. -/
theorem ledger_managerFreeRefsForPid {s s' : KernelState} (hinj : TableInjective s)
    (h : managerFreeRefsForPid s pid = some s') : s'.ledger = s.ledger.cleanup pid := by
  have hrefs := managerFreeRefsForPid_refs h
  rcases Option.bind_eq_some_iff.1 h with ⟨t, hmem, hevt⟩
  have hinj' : TableInjective t :=
    tableInjective_of_devices hinj (freeRefs_sameShape hmem).devices
  -- the first loop leaves the list of the second alone
  have hsame : t.refs .eventsrc = s.refs .eventsrc := by
    rw [freeRefs_refs hmem]
    simp
  refine Ledger.ext ?_ ?_
  · funext r
    show s'.countAt r = s.countAt r - s.ledger.held.count (r, pid)
    rw [freeRefs_count hinj' hevt, freeRefs_count hinj hmem, hsame]
    unfold KernelState.ledger
    rw [Multiset.count_add]
    omega
  · show claims (s'.refs .memregion) + claims (s'.refs .eventsrc) =
      s.ledger.held.filter fun x => x.2 ≠ pid
    rw [hrefs, hrefs, claims_filter, claims_filter]
    exact (Multiset.filter_add _ _ _).symm

/-- The clean-up succeeds exactly when every entry of the process has an occupied slot. -/
theorem managerFreeRefsForPid_isSome_iff {s : KernelState} :
    (managerFreeRefsForPid s pid).isSome ↔
      ∀ (k : ResourceKind), ∀ e ∈ s.refs k, e.pid = pid → s.devices e.token.deviceIndex ≠ none := by
  have hsome : ∀ (k : ResourceKind) (t : KernelState), (freeRefs k pid t).isSome ↔
      ∀ e ∈ t.refs k, e.pid = pid → t.devices e.token.deviceIndex ≠ none := by
    intro k t
    rw [freeRefs, Option.isSome_map, freeRefsLoop_isSome_iff]
  -- the second loop runs only when the first has got through
  cases hmem : freeRefs .memregion pid s with
  | none =>
      have hno := (not_congr (hsome .memregion s)).1 (by simp [hmem])
      constructor
      · intro h
        simp [managerFreeRefsForPid, hmem] at h
      · intro h
        exact absurd (h .memregion) hno
  | some t =>
      have hok := (hsome .memregion s).1 (by simp [hmem])
      have hevt : t.refs .eventsrc = s.refs .eventsrc := by
        rw [freeRefs_refs hmem]
        simp
      have hiff := hsome .eventsrc t
      rw [hevt, (freeRefs_sameShape hmem).devices] at hiff
      simp only [managerFreeRefsForPid, hmem, Option.bind_some, hiff]
      constructor
      · intro h k
        cases k with
        | memregion => exact hok
        | eventsrc => exact h
      · intro h
        exact h .eventsrc

end CleanUp

/-! ## Managing devices -/

/-- No resource of the device is claimed. -/
def Device.Unclaimed (dev : Device) : Prop :=
  ∀ x, dev.refCount x = 0

section Devices

variable {s : KernelState} {p : DevPtr}

theorem tableInjective_of_sameShape {s' : KernelState} (hinj : TableInjective s)
    (h : SameShape s s') : TableInjective s' :=
  tableInjective_of_devices hinj h.devices

theorem ledger_setDevice (hp : ¬ s.Managed p) (dev : Device) :
    (s.setDevice p dev).ledger = s.ledger := by
  refine Ledger.ext ?_ rfl
  funext r
  show (s.setDevice p dev).countAt r = s.countAt r
  cases hr : s.devices r.1 with
  | none =>
      have hr' : (s.setDevice p dev).devices r.1 = none := hr
      rw [countAt_of_empty hr, countAt_of_empty hr']
  | some q =>
      have hr' : (s.setDevice p dev).devices r.1 = some q := hr
      -- the structure that is written to is in no slot
      have hne : q ≠ p := by
        rintro rfl
        exact hp ⟨r.1, hr⟩
      rw [countAt_of_devices hr, countAt_of_devices hr']
      simp [KernelState.setDevice, hne]

/-- Filling or emptying a slot matters to the ledger only through the counts of that slot. -/
theorem ledger_setSlot {d : Slot} {v : Option DevPtr}
    (hslot : ∀ x, (s.setSlot d v).countAt (d, x) = s.countAt (d, x)) :
    (s.setSlot d v).ledger = s.ledger := by
  refine Ledger.ext ?_ rfl
  funext r
  show (s.setSlot d v).countAt r = s.countAt r
  by_cases hr : r.1 = d
  · rcases r with ⟨d', x⟩
    cases hr
    exact hslot x
  · simp [KernelState.countAt, KernelState.setSlot_devices_of_ne hr]

theorem tableInjective_setSlot_some {d : Slot} (hinj : TableInjective s) (hp : ¬ s.Managed p) :
    TableInjective (s.setSlot d (some p)) := by
  intro d₁ d₂ q h₁ h₂
  rcases KernelState.setSlot_some_iff.1 h₁ with ⟨rfl, rfl⟩ | ⟨_, hq₁⟩
  · rcases KernelState.setSlot_some_iff.1 h₂ with ⟨rfl, _⟩ | ⟨_, hq₂⟩
    · rfl
    · exact absurd ⟨d₂, hq₂⟩ hp
  · rcases KernelState.setSlot_some_iff.1 h₂ with ⟨rfl, rfl⟩ | ⟨_, hq₂⟩
    · exact absurd ⟨d₁, hq₁⟩ hp
    · exact hinj d₁ d₂ q hq₁ hq₂

theorem tableInjective_setSlot_none {d : Slot} (hinj : TableInjective s) :
    TableInjective (s.setSlot d none) := by
  intro d₁ d₂ q h₁ h₂
  have hq₁ := (KernelState.setSlot_none_iff.1 h₁).2
  have hq₂ := (KernelState.setSlot_none_iff.1 h₂).2
  exact hinj d₁ d₂ q hq₁ hq₂

theorem tableInjective_deviceManage (cfg : Config) (out : RegOutcome) (hinj : TableInjective s)
    (hp : ¬ s.Managed p) : TableInjective (deviceManage cfg s p out).state := by
  rcases deviceManage_cases cfg s p out with ⟨dev', _, ⟨_, hst⟩ | ⟨_, _, _, _, _, d, _, hst⟩⟩
  · rw [hst]
    exact hinj
  · rw [hst]
    exact tableInjective_setSlot_some (s := s.setDevice p dev') hinj hp

theorem ledger_deviceManage (cfg : Config) (out : RegOutcome) (hp : ¬ s.Managed p)
    (hzero : (s.heap p).Unclaimed) : (deviceManage cfg s p out).state.ledger = s.ledger := by
  rcases deviceManage_cases cfg s p out with
    ⟨dev', hkept, ⟨_, hst⟩ | ⟨_, _, _, _, _, d, hslot, hst⟩⟩
  · rw [hst]
    exact ledger_setDevice hp dev'
  · rw [hst]
    -- the slot counted zero while it was empty, and the new device has no claims
    have hempty : (s.setDevice p dev').devices d = none := managerFindEmptySlot_some hslot
    refine (ledger_setSlot ?_).trans (ledger_setDevice hp dev')
    intro x
    have hnew : ((s.setDevice p dev').setSlot d (some p)).devices d = some p :=
      KernelState.setSlot_devices_self
    rw [countAt_of_devices (r := (d, x)) hnew, countAt_of_empty (r := (d, x)) hempty]
    simp [KernelState.setDevice, hkept.refCount x, hzero x]

theorem tableInjective_deviceRelease (cfg : Config) (out : RegOutcome) (hinj : TableInjective s) :
    TableInjective (deviceRelease cfg s p out).state := by
  rcases deviceRelease_cases cfg s p out with ⟨_, hst⟩ | ⟨d, _, _, hst⟩
  · rw [hst]
    exact hinj
  · rw [hst]
    exact tableInjective_setSlot_none hinj

theorem ledger_deviceRelease (cfg : Config) (out : RegOutcome) (hzero : (s.heap p).Unclaimed) :
    (deviceRelease cfg s p out).state.ledger = s.ledger := by
  rcases deviceRelease_cases cfg s p out with ⟨_, hst⟩ | ⟨d, _, hd, hst⟩
  · rw [hst]
  · rw [hst]
    refine ledger_setSlot ?_
    intro x
    have hnew : (s.setSlot d none).devices d = none := KernelState.setSlot_devices_self
    rw [countAt_of_empty (r := (d, x)) hnew, countAt_of_devices (r := (d, x)) hd]
    exact (hzero x).symm

end Devices

/-! ## Requests as ledger operations -/

theorem token?_infoReply (cfg : Config) (dev : Device) (rt : Bool) {k : ResourceKind}
    (t : Token k) : (infoReply cfg dev rt k t).token? k = some t := by
  cases k with
  | memregion => rfl
  | eventsrc => rfl

section LedgerOps

variable {cfg : Config} {s : KernelState} {k : ResourceKind} {rt : Bool} {io : IoFaults}
  {res : IoctlResult}

/-- A CLAIM that fails leaves the ledger and the lists alone; one that succeeds answers with the
token of the claim it recorded. -/
theorem managerIoctl_claim {data : ClaimData} (hinj : TableInjective s)
    (h : managerIoctl cfg s (.claim k rt data) io = some res) :
    (res.ret < 0 ∧ res.state.ledger = s.ledger ∧ res.state.refs = s.refs) ∨
      (res.ret = 0 ∧ ∃ (t : Token k) (p : DevPtr), res.reply.bind (Reply.token? k) = some t ∧
        s.devices t.deviceIndex = some p ∧
        Admitted s p ⟨k, t.resourceIndex⟩ data.hostile ∧
        res.state.ledger = s.ledger.claim t.res data.pid ∧
        res.state.refs = Function.update s.refs k (⟨t, data.pid⟩ :: s.refs k)) := by
  rcases managerIoctl_cases h with ⟨_, hneg, hst, _⟩ | ⟨_, hcmd⟩
  · exact Or.inl ⟨hneg, by rw [hst], by rw [hst]⟩
  · cases hcmd
    rcases ioctlClaimInfo_claim_cases cfg k rt data io s with
      ⟨hneg, hst, _⟩ | ⟨d, p, i, hfind, hadm, ⟨_, hneg, hst⟩ | ⟨_, heq⟩⟩
    · exact Or.inl ⟨hneg, by rw [hst], by rw [hst]⟩
    · -- the claim was undone
      exact Or.inl ⟨hneg, by rw [hst, ledger_withOwner], by rw [hst, withOwner_refs]⟩
    · right
      have hslot := (managerLookup_eq_some hfind).1
      rw [heq]
      refine ⟨rfl, ⟨d, i⟩, p, ?_, hslot, hadm, ledger_claim hinj hslot, by simp⟩
      exact token?_infoReply cfg _ rt _

/-- A RELEASE that fails does nothing; one that succeeds releases what its token names. -/
theorem managerIoctl_release {data : ReleaseData} (hinj : TableInjective s)
    (h : managerIoctl cfg s (.release k rt data) io = some res) :
    (res.ret < 0 ∧ res.state = s) ∨
      (res.ret = 0 ∧ ∃ (t : Token k) (p : DevPtr), data.token? k = some t ∧
        s.devices t.deviceIndex = some p ∧
        res.state.ledger = s.ledger.release t.res data.pid ∧
        res.state.refs = Function.update s.refs k ((s.refs k).erase ⟨t, data.pid⟩)) := by
  rcases managerIoctl_cases h with ⟨_, hneg, hst, _⟩ | ⟨_, hcmd⟩
  · exact Or.inl ⟨hneg, hst⟩
  · cases hcmd
    rcases ioctlRelease_cases k data s with ⟨hneg, hst, _⟩ | ⟨d, p, i, hd, hi, hslot, heq⟩
    · exact Or.inl ⟨hneg, hst⟩
    · right
      rw [heq]
      exact ⟨rfl, ⟨d, i⟩, p, ReleaseData.token?_eq_some_iff.2 ⟨hd, hi⟩, hslot,
        ledger_release hinj hslot, by simp⟩

/-- A DECREMENT that fails does nothing; one that succeeds drops a count that was not zero. -/
theorem managerIoctl_decrement {v : Int32} {id : ResourceId} (hinj : TableInjective s)
    (h : managerIoctl cfg s (.decrementRefCount k v id) io = some res) :
    (res.ret < 0 ∧ res.state = s) ∨
      (res.ret = 0 ∧ ∃ d p i, managerLookup s k id = some (d, p, i) ∧
        0 < s.ledger.count (d, ⟨k, i⟩) ∧ res.state.ledger = s.ledger.drop (d, ⟨k, i⟩)) := by
  rcases managerIoctl_cases h with ⟨_, hneg, hst, _⟩ | ⟨_, hcmd⟩
  · exact Or.inl ⟨hneg, hst⟩
  · cases hcmd
    rcases ioctlRefCount_decrement_cases k id s with ⟨_, hneg, hst⟩ | ⟨d, p, i, hfind, hret, hst⟩
    · exact Or.inl ⟨hneg, hst⟩
    · have hslot := (managerLookup_eq_some hfind).1
      -- the decrement helper is the one that refuses at zero
      by_cases hzero : (s.heap p).refCount ⟨k, i⟩ = 0
      · left
        rw [hret, hst]
        simp [resourceDecrRefCount, hzero, Errno.ENOSPC]
      · right
        have hcount : s.ledger.count (d, ⟨k, i⟩) = (s.heap p).refCount ⟨k, i⟩ :=
          countAt_of_devices (r := (d, ⟨k, i⟩)) hslot
        refine ⟨?_, d, p, i, hfind, ?_, ?_⟩
        · rw [hret]
          simp [resourceDecrRefCount, hzero]
        · rw [hcount]
          exact Nat.pos_of_ne_zero hzero
        · rw [hst]
          exact ledger_drop hinj hslot _

/-- An INFO without a copy failure only reads. -/
theorem managerIoctl_info_state {data : ClaimData} (hcopy : io.copyToUserFails = false)
    (h : managerIoctl cfg s (.info k data) io = some res) : res.state = s := by
  rcases managerIoctl_cases h with ⟨_, _, hst, _⟩ | ⟨_, hcmd⟩
  · exact hst
  · cases hcmd
    rcases ioctlClaimInfo_info_cases cfg k data io s with
      ⟨_, _, hst⟩ | ⟨d, p, i, _, ⟨hfail, _, _⟩ | ⟨_, heq⟩⟩
    · exact hst
    · simp [hcopy] at hfail
    · rw [heq]

end LedgerOps

end Cuddl
