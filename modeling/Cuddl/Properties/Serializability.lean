import Cuddl.Kernel.Threads
import Cuddl.Properties.Balance
import Cuddl.Properties.Enumeration

/-!
# Threads in the manager

What the two levels of mutexes give.  However the accesses of many threads interleave, the calls and
answers are those of a manager that serves one call at a time (`threads_serializable`), and nobody
waits for ever (`threads_make_progress`).  In orderly runs with queries nobody crashes, and between
the critical sections the counts are exact (`refCount_eq_entries_interleaved`).
-/

namespace Cuddl

open Foundation Foundation.Machine Foundation.Locking

/-- Threads in the entry points of the manager. -/
abbrev KernelThreads (T : Type) := World Lock KernelState T Call Answer

variable {T : Type} [DecidableEq T]

/-- A guard on calls, as one on actions. -/
def OpGuard (G : KernelState → Call → Prop) (s : KernelState) (a : Op) : Prop :=
  ∃ c : Call, c.op = a ∧ G s c

/-- A run of calls is a run of the manager's actions. -/
theorem reachable_of_calls {cfg : Config} {G : KernelState → Call → Prop} {s₀ s : KernelState}
    (hrun : Reachable (effect (callResult cfg)) G s₀ s) :
    Reachable (exec cfg) (OpGuard G) s₀ s := by
  induction hrun with
  | refl => exact Reachable.refl s₀
  | tail _ hlast ih =>
      rcases hlast with ⟨c, hG, hstep⟩
      rw [effect_callResult] at hstep
      exact ih.tail ⟨c, rfl, hG⟩ hstep

instance {G : KernelState → Call → Prop} [∀ s c, Decidable (G s c)] (w : KernelThreads T) :
    (a : Act T Call) → Decidable (Entering .global G w a)
  | .call _ _ => .isTrue trivial
  | .step t =>
      match h : w.thread t with
      | some (c, .lock .global k) =>
          decidable_of_iff (G w.shared c) <| by
            constructor
            · intro hG c' k' h'
              rw [h] at h'
              cases h'
              exact hG
            · intro hall
              exact hall c k h
      | some (c, .lock (.ref _ _) k) => .isTrue (by simp [Entering, h])
      | some (c, .ret _) | some (c, .crash) | some (c, .read _) | some (c, .write _ _)
      | some (c, .unlock _ _) => .isTrue (by simp [Entering, h])
      | none => .isTrue (by simp [Entering, h])

/-- Thread 1 claims a region, and has come to the count when thread 2 wants to claim it too. -/
def claimsMeet : List (Act Nat Call) :=
  [.call 1 (.ioctl (Sample.claimAny 1 0) Sample.noFaults)] ++ List.replicate 8 (.step 1) ++
    [.call 2 (.ioctl (Sample.claimAny 2 claimfHostile) Sample.noFaults)]

/-- From there, both claims to their ends. -/
def racingClaims : List (Act Nat Call) :=
  claimsMeet ++ List.replicate 9 (.step 1) ++ List.replicate 17 (.step 2)

/-- However the accesses of the threads interleave, they see the history of a manager in which every
call happens at once, between its start and its return; when the manager's lock is free, both
managers are in the same state, and a run of single actions leads there. -/
theorem threads_serializable (cfg : Config) {G : KernelState → Call → Prop} {s₀ : KernelState}
    {w : KernelThreads T}
    (hrun : Reachable (stepWorld (callCode cfg)) (Entering .global G) (World.start s₀) w) :
    ∃ a : Atomic KernelState T Call Answer,
      Reachable (stepAtomic (callResult cfg)) (Executing (callResult cfg) G) (Atomic.start s₀) a ∧
      a.history = w.history ∧ Reachable (exec cfg) (OpGuard G) s₀ a.shared ∧
      (w.owner .global = none → w.shared = a.shared) := by
  rcases simulates (oneSection_callCode cfg) hrun with ⟨a, hreach, hsim⟩
  rw [meaning_callCode] at hreach
  refine ⟨a, hreach, hsim.history, reachable_of_calls (reachable_shared hreach), ?_⟩
  intro hfree
  exact (hsim.free hfree).1.symm

theorem threads_serializable_racingClaims :
    ∃ (w : KernelThreads Nat) (a : Atomic KernelState Nat Call Answer),
      w.history.length = 4 ∧ a.history = w.history ∧ w.shared = a.shared := by
  have hrun : ∃ w : KernelThreads Nat,
      Reachable (stepWorld (callCode Sample.config)) (Entering .global fun _ _ => True)
        (World.start Sample.managed) w ∧ (w.history.length = 4 ∧ w.owner .global = none) :=
    exists_reachable_of_run racingClaims (by decide +kernel)
  rcases hrun with ⟨w, hreach, hlen, hfree⟩
  rcases threads_serializable Sample.config hreach with ⟨a, _, hhistory, _, hshared⟩
  exact ⟨w, a, hlen, hhistory, hshared hfree⟩

/-- As long as a thread is in a call, some thread can go on.  The thread that holds the manager's
lock never waits, not for a `ref_mutex` either, and gives the lock back by its own steps; no other
thread holds a `ref_mutex`.  Only a crash can come in between. -/
theorem threads_make_progress (cfg : Config) {G : KernelState → Call → Prop} {s₀ : KernelState}
    {w : KernelThreads T}
    (hrun : Reachable (stepWorld (callCode cfg)) (Entering .global G) (World.start s₀) w) :
    (∀ t, w.thread t ≠ none → ∃ u, CanStep (callCode cfg) w u ∨ Crashed w u) ∧
    (∀ t, w.owner .global = some t →
      (CanStep (callCode cfg) w t ∨ Crashed w t) ∧
      ∃ w', StepsAlone (callCode cfg) t w w' ∧ (w'.owner .global = none ∨ Crashed w' t)) ∧
    ∀ p x t, w.owner (.ref p x) = some t → w.owner .global = some t := by
  have hcode := oneSection_callCode cfg
  refine ⟨?_, ?_, ?_⟩
  · intro t ht
    exact progress hcode hrun ht
  · intro t ht
    exact ⟨owner_canStep hcode hrun ht, lock_is_released hcode hrun ht⟩
  · intro p x t ht
    exact owner_of_nested hcode hrun ht

theorem threads_make_progress_claimsMeet :
    ∃ w : KernelThreads Nat, (w.owner (.ref 0 ⟨.memregion, 0⟩) = some 1 ∧ (w.thread 2).isSome) ∧
      ∃ w', StepsAlone (callCode Sample.config) 1 w w' ∧
        (w'.owner .global = none ∨ Crashed w' 1) := by
  have hrun : ∃ w : KernelThreads Nat,
      Reachable (stepWorld (callCode Sample.config)) (Entering .global fun _ _ => True)
        (World.start Sample.managed) w ∧
      (w.owner (.ref 0 ⟨.memregion, 0⟩) = some 1 ∧ (w.thread 2).isSome) :=
    exists_reachable_of_run claimsMeet (by decide +kernel)
  rcases hrun with ⟨w, hreach, href, hwaits⟩
  rcases threads_make_progress Sample.config hreach with ⟨_, hholder, hnested⟩
  exact ⟨w, ⟨href, hwaits⟩, (hholder 1 (hnested 0 ⟨.memregion, 0⟩ 1 href)).2⟩

/-! ## Queries -/

def Request.isInfo : Request → Bool
  | .info _ _ => true
  | _ => false

/-- The request leaves the counts and lists alone: it is neither a CLAIM, a RELEASE nor a DECREMENT,
and if it is an INFO, its copy-out works. -/
def Request.Queries (req : Request) (io : IoFaults) : Prop :=
  ¬ req.Writes ∨ req.isInfo = true ∧ io.copyToUserFails = false

theorem managerIoctl_state_of_queries {cfg : Config} {s : KernelState} {req : Request}
    {io : IoFaults} {res : IoctlResult} (h : req.Queries io)
    (hres : managerIoctl cfg s req io = some res) : res.state = s := by
  rcases h with hno | ⟨hinfo, hcopy⟩
  · exact managerIoctl_state_of_not_writes hno hres
  · cases req with
    | info k data => exact managerIoctl_info_state hcopy hres
    | _ => cases hinfo

/-! ## Named resources -/

/-- The driver has given a name to every region that has a type, and to every event source that has
an interrupt. -/
def Device.ResourcesNamed (dev : Device) : Prop :=
  ∀ x, slotIsEmpty dev x = false → (dev.resource x).name.isSome

/-- There is a name behind every pointer that a query copies a name from. -/
structure AllNamed (s : KernelState) : Prop where
  labelled : AllLabelled s
  resources : ∀ d p, s.devices d = some p → (s.heap p).ResourcesNamed

theorem slotIsEmpty_eraseCounts (dev : Device) (x : ResIdx) :
    slotIsEmpty dev.eraseCounts x = slotIsEmpty dev x := by
  rcases x with ⟨k, i⟩
  cases k with
  | memregion => rfl
  | eventsrc => rfl

/-- Counting takes no name away. -/
theorem Device.ResourcesNamed.congr {dev dev' : Device} (h : dev.ResourcesNamed)
    (hsame : dev'.eraseCounts = dev.eraseCounts) : dev'.ResourcesNamed := by
  intro x hx
  rw [← Device.name_eraseCounts, hsame, Device.name_eraseCounts]
  apply h x
  rw [← slotIsEmpty_eraseCounts, ← hsame, slotIsEmpty_eraseCounts]
  exact hx

/-- Registration leaves names, types and interrupts alone. -/
theorem Device.ResourcesNamed.registered {cfg : Config} {dev dev' : Device}
    (h : dev.ResourcesNamed) (hmem : dev'.mem = fun i => (dev.mem i).defaultSizes cfg)
    (hevents : dev'.events = dev.events) : dev'.ResourcesNamed := by
  rintro ⟨k, i⟩ hx
  cases k with
  | memregion =>
      have hname := h ⟨.memregion, i⟩
        (by simpa [slotIsEmpty, hmem, Memregion.defaultSizes] using hx)
      simpa [Device.resource, hmem, Memregion.defaultSizes] using hname
  | eventsrc =>
      have hname := h ⟨.eventsrc, i⟩ (by simpa [slotIsEmpty, hevents] using hx)
      simpa [Device.resource, hevents] using hname

theorem AllNamed.step {cfg : Config} {s s' : KernelState} {a : Op} (h : AllNamed s)
    (hguard : Orderly cfg s a) (hnamed : ∀ p out, a = .manage p out → (s.heap p).ResourcesNamed)
    (hexec : exec cfg a s = some s') : AllNamed s' := by
  have hfills : FillsUnmanaged s a := by
    cases a with
    | fill p dev => exact hguard
    | _ => trivial
  refine ⟨h.labelled.step hfills hexec, ?_⟩
  intro d p hd
  -- a device that was managed before keeps everything but its counts
  have hkept : s.devices d = some p → (s'.heap p).ResourcesNamed := by
    intro hd₀
    apply (h.resources d p hd₀).congr
    refine exec_eraseCounts ?_ ?_ hexec
    · rintro dev rfl
      exact hguard ⟨d, hd₀⟩
    · rintro out rfl
      exact hguard.1 ⟨d, hd₀⟩
  rcases exec_devices hexec with
    hsame | ⟨q, out, e, rfl, hret, hslot, hput⟩ | ⟨q, out, e, _, _, htaken⟩
  · exact hkept (hsame ▸ hd)
  · by_cases hde : d = e
    · -- the device that has just been managed
      rw [hput, hde, Function.update_self] at hd
      cases hd
      cases hexec
      rcases deviceManage_cases cfg s p out with
        ⟨dev', _, ⟨hfail, _⟩ | ⟨_, _, _, _, ⟨hmem, _, _, hevents, _⟩, e', _, hst⟩⟩
      · exact absurd hret hfail
      · rw [hst]
        have hreg := (hnamed p out rfl).registered hmem hevents
        simpa [KernelState.setDevice] using hreg
    · rw [hput, Function.update_of_ne hde] at hd
      exact hkept hd
  · by_cases hde : d = e
    · rw [htaken, hde, Function.update_self] at hd
      cases hd
    · rw [htaken, Function.update_of_ne hde] at hd
      exact hkept hd

/-- Where everything has a name, a query does not crash. -/
theorem AllNamed.managerIoctl_isSome {s : KernelState} (h : AllNamed s) (cfg : Config)
    {req : Request} {io : IoFaults} (hquery : req.Queries io) :
    (managerIoctl cfg s req io).isSome := by
  apply Cuddl.managerIoctl_isSome
  cases req with
  | getId k v deviceSlot resourceSlot =>
      -- the one command that copies names
      simp only [ioctlCommand, ioctlGetId]
      split
      · rfl
      · rfl
      · rename_i slot i hslot hi
        cases hd : s.devices slot with
        | none => rfl
        | some p =>
            rcases h.labelled slot p hd with ⟨hgroup, hname⟩
            dsimp only
            split
            · rfl
            · rename_i hempty
              rw [Option.isSome_map, resourceIdOf_isSome_iff hgroup hname]
              exact h.resources slot p hd ⟨k, i⟩ (by simpa using hempty)
  | _ => rfl

/-! ## Counts between the critical sections -/

/-- A request that leaves the counts and lists alone. -/
def Call.Queries : Call → Prop
  | .ioctl req io => req.Queries io
  | _ => False

/-- The calls of an orderly run, with drivers that name their resources, and queries. -/
def OrderlyCall (cfg : Config) (s : KernelState) (c : Call) : Prop :=
  (Orderly cfg s c.op ∧ ∀ p out, c = .manage p out → (s.heap p).ResourcesNamed) ∨ c.Queries

instance : (req : Request) → Decidable req.Writes
  | .claim _ _ _ | .info _ _ | .release _ _ _ | .decrementRefCount _ _ _ => .isTrue trivial
  | .getMaxManagedDevices _ | .getMaxDevMemRegions _ | .getMaxDevEvents _ | .getId _ _ _ _
  | .getRefCount _ _ _ | .janitorRegisterPid | .getKernelCommitId _ | .getDriverInfo _ _
  | .getHwInfo _ _ | .getKernelVersionCode _ | .getKernelVariant _ | .eventsrcIsEnabled _ _ _
  | .unknown => .isFalse id

instance (req : Request) (io : IoFaults) : Decidable (req.Queries io) :=
  inferInstanceAs (Decidable (¬ req.Writes ∨ req.isInfo = true ∧ io.copyToUserFails = false))

instance (dev : Device) : Decidable dev.ResourcesNamed :=
  decidable_of_iff
    ((∀ i, slotIsEmpty dev ⟨.memregion, i⟩ = false → (dev.mem i).name.isSome) ∧
      ∀ i, slotIsEmpty dev ⟨.eventsrc, i⟩ = false → (dev.events i).name.isSome) <| by
      constructor
      · rintro ⟨hmem, hevt⟩ ⟨k, i⟩
        cases k with
        | memregion => exact hmem i
        | eventsrc => exact hevt i
      · intro h
        exact ⟨fun i => h ⟨.memregion, i⟩, fun i => h ⟨.eventsrc, i⟩⟩

instance : (c : Call) → Decidable c.Queries
  | .ioctl req io => inferInstanceAs (Decidable (req.Queries io))
  | .manage _ _ | .release _ _ | .freeRefs _ => .isFalse id

instance (cfg : Config) (s : KernelState) (c : Call) : Decidable (OrderlyCall cfg s c) :=
  haveI : Decidable (∀ p out, c = .manage p out → (s.heap p).ResourcesNamed) :=
    match c with
    | .manage p out => decidable_of_iff (s.heap p).ResourcesNamed <| by
        constructor
        · rintro h _ _ ⟨⟩
          exact h
        · intro h
          exact h p out rfl
    | .release _ _ | .freeRefs _ | .ioctl _ _ => .isTrue (by rintro _ _ ⟨⟩)
  inferInstanceAs (Decidable ((_ ∧ _) ∨ _))

/-- What the calls keep. -/
structure Tidy (s : KernelState) : Prop where
  balanced : Balanced s
  named : AllNamed s

theorem Tidy.call {cfg : Config} {s s' : KernelState} {a : Op} (h : Tidy s)
    (hguard : OpGuard (OrderlyCall cfg) s a) (hexec : exec cfg a s = some s') : Tidy s' := by
  rcases hguard with ⟨c, rfl, ⟨horderly, hnamed⟩ | hquery⟩
  · refine ⟨h.balanced.step horderly hexec, h.named.step horderly ?_ hexec⟩
    intro p out hop
    cases c with
    | manage q out' =>
        cases hop
        exact hnamed p out rfl
    | _ => cases hop
  · cases c with
    | ioctl req io =>
        -- a query leaves the state as it is
        rcases Option.map_eq_some_iff.1 hexec with ⟨res, hres, rfl⟩
        rwa [managerIoctl_state_of_queries hquery hres]
    | _ => exact absurd hquery id

theorem tidy_of_calls {cfg : Config} {s₀ s : KernelState} (htidy : Tidy s₀)
    (hrun : Reachable (exec cfg) (OpGuard (OrderlyCall cfg)) s₀ s) : Tidy s :=
  hrun.invariant htidy fun h hguard hexec => h.call hguard hexec

theorem KernelState.Fresh.tidy {s : KernelState} (h : s.Fresh) : Tidy s := by
  refine ⟨⟨h.tableInjective, h.idle.balancedAt⟩, ⟨?_, ?_⟩⟩
  · intro d p hd
    simp [h.devices d] at hd
  · intro d p hd
    simp [h.devices d] at hd

/-- No call of an orderly run crashes, and no query. -/
theorem callResult_ne_none {cfg : Config} {s : KernelState} {c : Call} (h : Tidy s)
    (hcall : OrderlyCall cfg s c) : callResult cfg c s ≠ none := by
  intro hnone
  rcases hcall with ⟨horderly, _⟩ | hquery
  · have hcrash : exec cfg c.op s = none := by
      rw [← effect_callResult, effect, hnone]
      rfl
    have hexec := h.balanced.exec_isSome horderly
    simp [hcrash] at hexec
  · cases c with
    | ioctl req io =>
        have hsome := h.named.managerIoctl_isSome cfg hquery
        rw [callResult, Option.map_eq_none_iff] at hnone
        simp [hnone] at hsome
    | _ => exact absurd hquery id

/-- Threads that behave as in an orderly run, and make queries, never crash, as long as drivers give
names to their resources; and whenever the manager's lock is free, every count of a managed device
is the number of list entries for its resource. -/
theorem refCount_eq_entries_interleaved (cfg : Config) {s₀ : KernelState} (htidy : Tidy s₀)
    {w : KernelThreads T}
    (hrun : Reachable (stepWorld (callCode cfg)) (Entering .global (OrderlyCall cfg))
      (World.start s₀) w) :
    (∀ t, ¬ Crashed w t) ∧
    (w.owner .global = none →
      ∀ (d : Slot) (p : DevPtr) (k : ResourceKind) (i : Fin k.max), w.shared.devices d = some p →
        (w.shared.heap p).refCount ⟨k, i⟩ =
          (w.shared.refs k).countP fun e => e.token = ⟨d, i⟩) := by
  have hcode := oneSection_callCode cfg
  have hreached : ∀ {s}, Reachable (effect (meaning (callCode cfg))) (OrderlyCall cfg) s₀ s →
      Tidy s := by
    intro s hs
    rw [meaning_callCode] at hs
    exact tidy_of_calls htidy (reachable_of_calls hs)
  constructor
  · rintro t ⟨c, hcrash⟩
    refine no_crash hcode ?_ hrun t c hcrash
    intro s' c' hs' hc'
    rw [meaning_callCode]
    exact callResult_ne_none (hreached hs') hc'
  · intro hfree
    have hbal := (hreached (reachable_of_free hcode hrun hfree)).balanced
    exact countsEntries_of_balancedAt hbal.balancedAt

theorem Sample.managed_tidy : Tidy Sample.managed := by
  have hguard : OpGuard (OrderlyCall Sample.config) Sample.kernel (.manage 0 Sample.registered) :=
    ⟨.manage 0 Sample.registered, rfl, by decide +kernel⟩
  exact Sample.kernel_fresh.tidy.call hguard rfl

theorem refCount_eq_entries_interleaved_racingClaims :
    ∃ w : KernelThreads Nat, (w.shared.devices 0 = some 0 ∧ w.history.length = 4) ∧
      (w.shared.heap 0).refCount ⟨.memregion, 0⟩ =
        (w.shared.refs .memregion).countP fun e => e.token = ⟨0, 0⟩ := by
  have hrun : ∃ w : KernelThreads Nat,
      Reachable (stepWorld (callCode Sample.config))
        (Entering .global (OrderlyCall Sample.config)) (World.start Sample.managed) w ∧
      (w.shared.devices 0 = some 0 ∧ w.history.length = 4 ∧ w.owner .global = none) :=
    exists_reachable_of_run racingClaims (by decide +kernel)
  rcases hrun with ⟨w, hreach, hdev, hlen, hfree⟩
  exact ⟨w, ⟨hdev, hlen⟩, (refCount_eq_entries_interleaved Sample.config Sample.managed_tidy
    hreach).2 hfree 0 0 _ 0 hdev⟩

end Cuddl
