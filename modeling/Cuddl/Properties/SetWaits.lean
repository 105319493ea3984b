import Cuddl.Properties.EventDelivery
import Cuddl.Properties.EventSets
import Cuddl.User.Waiter

/-!
# Waiting among events

A wait for several event sources is a `select` and a number of reads, and anything can happen
between them.  It returns what it would return if nothing did (`setWait_interleaved`): it reports
the sources that had something to read at the `select`, and takes all that had happened there by
then.  What happens later is left for the next wait, or taken as well.  No read of the loop blocks,
and the wait comes to its end as long as no read fails (`setWait_completes`).  All this is about
files that only the process itself reads and closes.
-/

namespace Cuddl

open Foundation.Machine User

variable {ι : Type} {cfg : Config}

/-- The device has been registered, with an interrupt. -/
def Device.HasInterrupt (cfg : Config) (dev : Device) : Prop :=
  ∃ d out, (deviceRegister cfg d out).ret = 0 ∧
    (0 < (d.events 0).intr.irq ∨ (d.events 0).intr.irq = irqCustom) ∧
    dev = (deviceRegister cfg d out).dev

theorem Device.HasInterrupt.hooked {dev : Device} (h : dev.HasInterrupt cfg) : dev.Hooked cfg := by
  rcases h with ⟨d, out, hreg, hintr, rfl⟩
  exact deviceRegister_hooked hreg hintr

/-! ## The files of the process -/

/-- The descriptors of the process are open, each on a file of its own. -/
structure User.Waiter.Sound (cfg : Config) (x : Waiter ι) : Prop where
  delivered : ∀ i, Delivered cfg (x.sources i)
  opened : ∀ d ∈ x.files, d.file ∈ (x.sources d.source).uioFiles
  fds : (x.files.map Descriptor.fd).Nodup
  distinct : (x.files.map fun d => (d.source, d.file)).Nodup

section Files

variable {x y : Waiter ι} {d e : Descriptor ι} {fd : Nat}

theorem descriptor?_eq_some (h : x.descriptor? fd = some d) : d ∈ x.files ∧ d.fd = fd :=
  ⟨List.mem_of_find?_eq_some h, by simpa using List.find?_some h⟩

theorem fd_ne_of_descriptor?_eq_none (h : x.descriptor? fd = none) (hd : d ∈ x.files) :
    d.fd ≠ fd := by
  simpa using List.find?_eq_none.1 h d hd

theorem User.Waiter.Sound.eq_of_fd (h : x.Sound cfg) (hd : d ∈ x.files) (he : e ∈ x.files)
    (hfd : d.fd = e.fd) : d = e :=
  List.inj_on_of_nodup_map h.fds hd he hfd

/-- Two descriptors of one source have different files. -/
theorem User.Waiter.Sound.file_ne (h : x.Sound cfg) (hd : d ∈ x.files) (he : e ∈ x.files)
    (hne : d.fd ≠ e.fd) (hsource : d.source = e.source) : d.file ≠ e.file := by
  intro hfile
  have heq := List.inj_on_of_nodup_map h.distinct hd he (Prod.ext hsource hfile)
  exact hne (congrArg Descriptor.fd heq)

/-- The descriptor is found by its number. -/
theorem User.Waiter.Sound.descriptor? (h : x.Sound cfg) (hd : d ∈ x.files) :
    x.descriptor? d.fd = some d := by
  cases hfind : x.descriptor? d.fd with
  | none => exact absurd rfl (fd_ne_of_descriptor?_eq_none hfind hd)
  | some e =>
      rcases descriptor?_eq_some hfind with ⟨he, hfd⟩
      rw [h.eq_of_fd he hd hfd]

theorem User.Waiter.Sound.start (cfg : Config) : (Waiter.start : Waiter ι).Sound cfg where
  delivered := fun _ => Delivered.start cfg
  opened := by simp [Waiter.start]
  fds := List.nodup_nil
  distinct := List.nodup_nil

variable [DecidableEq ι] {dev : ι → Device}

/-- The files of the process that a step at one source does not close are open after it. -/
theorem User.Waiter.Sound.opened_moved (h : x.Sound cfg) {i : ι} {op : EventOp} {w : EventState}
    (hexec : eventExec cfg (dev i) op (x.sources i) = some w) (hd : d ∈ x.files)
    (hkept : d.source = i → op ≠ .uioRelease d.file) :
    d.file ∈ ((x.moved i w).sources d.source).uioFiles := by
  have hopen := h.opened d hd
  by_cases hi : d.source = i
  · subst hi
    simpa [Waiter.moved] using ((eventExec_step hexec).keeps hopen).1 (hkept rfl)
  · simpa [Waiter.moved, hi] using hopen

theorem User.Waiter.Sound.delivered_moved (h : x.Sound cfg) (hdev : ∀ i, (dev i).Hooked cfg)
    {i : ι} {op : EventOp} {w : EventState}
    (hexec : eventExec cfg (dev i) op (x.sources i) = some w) (j : ι) :
    Delivered cfg ((x.moved i w).sources j) := by
  by_cases hj : j = i
  · subst hj
    simpa [Waiter.moved] using (h.delivered j).step (hdev j) (eventExec_step hexec)
  · simpa [Waiter.moved, hj] using h.delivered j

theorem User.Waiter.Sound.step (h : x.Sound cfg) (hdev : ∀ i, (dev i).Hooked cfg)
    {op : WaiterOp ι} (hstep : WaiterStep cfg dev x op y) : y.Sound cfg := by
  cases hstep with
  | source hforeign hexec =>
      refine ⟨h.delivered_moved hdev hexec, ?_, h.fds, h.distinct⟩
      intro d hd
      refine h.opened_moved hexec hd ?_
      rintro rfl rfl
      exact hforeign d.file rfl ⟨d, hd, rfl, rfl⟩
  | @openNode fd i f w last _ hnew hexec =>
      refine ⟨h.delivered_moved hdev hexec, ?_, ?_, ?_⟩
      · intro d hd
        rcases List.mem_cons.1 hd with rfl | hd
        · cases eventExec_step hexec with
          | uioOpen _ _ => simp [Waiter.moved]
        · exact h.opened_moved hexec hd fun _ => by simp
      · refine List.nodup_cons.2 ⟨?_, h.fds⟩
        rintro hmem
        rcases List.mem_map.1 hmem with ⟨d, hd, hfd⟩
        exact fd_ne_of_descriptor?_eq_none hnew hd hfd
      · refine List.nodup_cons.2 ⟨?_, h.distinct⟩
        rintro hmem
        rcases List.mem_map.1 hmem with ⟨d, hd, hsame⟩
        simp only [Prod.mk.injEq] at hsame
        rcases hsame with ⟨rfl, rfl⟩
        -- the file was attached, and those of the process were open
        cases eventExec_step hexec with
        | uioOpen _ hattached =>
            exact Finset.disjoint_left.1 (h.delivered _).disjoint hattached (h.opened d hd)
  | @closeNode fd d w last _ hfind hexec =>
      rcases descriptor?_eq_some hfind with ⟨hd, hfd⟩
      have hsub : List.Sublist (x.files.filter fun d => decide (d.fd ≠ fd)) x.files :=
        List.filter_sublist
      refine ⟨h.delivered_moved hdev hexec, ?_, h.fds.sublist (hsub.map _),
        h.distinct.sublist (hsub.map _)⟩
      intro e he
      rcases List.mem_filter.1 he with ⟨hmem, hne⟩
      refine h.opened_moved hexec hmem ?_
      intro hsource hclose
      have hfdne : e.fd ≠ d.fd := by
        rw [hfd]
        simpa using hne
      exact h.file_ne hmem hd hfdne hsource (EventOp.uioRelease.inj hclose).symm
  | selectFails _ => exact ⟨h.delivered, h.opened, h.fds, h.distinct⟩
  | select _ _ => exact ⟨h.delivered, h.opened, h.fds, h.distinct⟩
  | finish _ => exact ⟨h.delivered, h.opened, h.fds, h.distinct⟩
  | fail _ _ => exact ⟨h.delivered, h.opened, h.fds, h.distinct⟩
  | pass _ _ => exact ⟨h.delivered, h.opened, h.fds, h.distinct⟩
  | read _ _ _ hexec =>
      refine ⟨h.delivered_moved hdev hexec, ?_, h.fds, h.distinct⟩
      intro e he
      exact h.opened_moved hexec he fun _ => by simp

theorem sound_of_run (hdev : ∀ i, (dev i).Hooked cfg) (hrun : WaiterRun cfg dev Waiter.start x) :
    x.Sound cfg :=
  hrun.invariant (User.Waiter.Sound.start cfg) fun h _ hexec => h.step hdev (waiterExec_step hexec)

end Files

/-! ## A wait under way -/

/-- Something happens elsewhere, or the loop goes on. -/
def InWait (_ : Waiter ι) : WaiterOp ι → Prop
  | .source _ _ | .look _ => True
  | _ => False

/-- Where the loop over the members of `result` can stand when it has read `consumed`. -/
inductive Stands (result : EventsrcSet) : WaitPhase → List Nat → Prop
  | looping {todo consumed : List Nat}
      (members : result.members = consumed ++ todo.filter fun fd => decide (fd ∈ result.fds)) :
      Stands result (.looping result todo consumed.length consumed) consumed
  | finished : Stands result
      (.idle (some (.finished result result.members.length result.members))) result.members
  | failed {before after : List Nat} {fd : Nat} (e : SysErrno)
      (members : result.members = before ++ fd :: after) :
      Stands result (.idle (some ⟨-(e.val : Int), result, before⟩)) before

theorem Stands.of_looping {result result' : EventsrcSet} {phase : WaitPhase}
    {consumed consumed' todo : List Nat} {n : Nat} (h : Stands result phase consumed)
    (hphase : phase = .looping result' todo n consumed') :
    result = result' ∧ consumed = consumed' ∧ n = consumed.length ∧
      result.members = consumed ++ todo.filter fun fd => decide (fd ∈ result.fds) := by
  cases h with
  | looping hmembers =>
      cases hphase
      exact ⟨rfl, rfl, rfl, hmembers⟩
  | finished => cases hphase
  | failed _ _ => cases hphase

/-- What has changed since the `select` of a wait in `x`: the descriptors in `consumed` have been
read, the others have not. -/
structure Waiting (x : Waiter ι) (result : EventsrcSet) (y : Waiter ι) (consumed : List Nat) :
    Prop where
  files : y.files = x.files
  stands : Stands result y.phase consumed
  notified : ∀ i, (x.sources i).uioNotified ≤ (y.sources i).uioNotified
  taken : ∀ d ∈ x.files, d.fd ∈ consumed →
    (x.sources d.source).uioNotified ≤ (y.sources d.source).seen d.file
  untouched : ∀ d ∈ x.files, d.fd ∉ consumed →
    (y.sources d.source).seen d.file = (x.sources d.source).seen d.file

section Waits

variable {x y z : Waiter ι} {set result : EventsrcSet} {consumed : List Nat}

/-- The loop before its first descriptor. -/
theorem stands_start (result : EventsrcSet) :
    Stands result (.looping result (List.range (result.maxFd + 1)) 0 []) [] := by
  have hstart : Stands result
      (.looping result (List.range (result.maxFd + 1)) ([] : List Nat).length []) [] :=
    .looping rfl
  exact hstart

variable [DecidableEq ι] {dev : ι → Device}

/-- What a step at a source that does not read `d` leaves of what `d` has seen. -/
theorem seen_moved (hx : x.Sound cfg) {i : ι} {op : EventOp} {w : EventState}
    (hexec : eventExec cfg (dev i) op (x.sources i) = some w) {d : Descriptor ι}
    (hd : d ∈ x.files) (hforeign : d.source = i → op ≠ .read d.file) :
    ((x.moved i w).sources d.source).seen d.file = (x.sources d.source).seen d.file := by
  by_cases hi : d.source = i
  · subst hi
    simpa [Waiter.moved] using ((eventExec_step hexec).keeps (hx.opened d hd)).2 (hforeign rfl)
  · simp [Waiter.moved, hi]

theorem uioNotified_moved {i : ι} {op : EventOp} {w : EventState}
    (hexec : eventExec cfg (dev i) op (x.sources i) = some w) (j : ι) :
    (x.sources j).uioNotified ≤ ((x.moved i w).sources j).uioNotified := by
  by_cases hj : j = i
  · subst hj
    simpa [Waiter.moved] using (eventExec_step hexec).uioNotified_le
  · simp [Waiter.moved, hj]

/-- The read of the next member. -/
theorem Waiting.read (h : Waiting x result y consumed) (hy : y.Sound cfg) {fd : Nat}
    {todo : List Nat} {d : Descriptor ι} {w : EventState}
    (hmembers : result.members =
      consumed ++ (fd :: todo).filter fun fd => decide (fd ∈ result.fds))
    (hfd : fd ∈ result.fds) (hfind : y.descriptor? fd = some d)
    (hexec : eventExec cfg (dev d.source) (.read d.file) (y.sources d.source) = some w) :
    Waiting x result
      { y.moved d.source w with
        phase := .looping result todo (consumed.length + 1) (consumed ++ [fd]) }
      (consumed ++ [fd]) := by
  rcases descriptor?_eq_some hfind with ⟨hd, rfl⟩
  have hstands : Stands result (.looping result todo (consumed ++ [d.fd]).length
      (consumed ++ [d.fd])) (consumed ++ [d.fd]) := by
    refine .looping ?_
    rw [hmembers, List.filter_cons_of_pos (by simpa using hfd), List.append_assoc]
    rfl
  have hother : ∀ e ∈ y.files, e.fd ≠ d.fd →
      ((y.moved d.source w).sources e.source).seen e.file =
        (y.sources e.source).seen e.file := by
    intro e he hne
    refine seen_moved hy hexec he ?_
    intro hsource hread
    exact hy.file_ne he hd hne hsource (EventOp.read.inj hread).symm
  refine ⟨h.files, by simpa using hstands, ?_, ?_, ?_⟩
  · intro i
    exact (h.notified i).trans (uioNotified_moved hexec i)
  · intro e he hmem
    rw [← h.files] at he
    by_cases hne : e.fd = d.fd
    · -- what has just been read is all that there is
      cases hy.eq_of_fd he hd hne
      have hseen : ((y.moved d.source w).sources d.source).seen d.file =
          (y.sources d.source).uioNotified := by
        cases eventExec_step hexec with
        | read _ _ _ => simp [Waiter.moved]
      exact (h.notified d.source).trans hseen.ge
    · have hold : e.fd ∈ consumed := by simpa [hne] using hmem
      exact (h.taken e (h.files ▸ he) hold).trans (hother e he hne).ge
  · intro e he hmem
    have hmem' : e.fd ∉ consumed ∧ e.fd ≠ d.fd := by simpa using hmem
    rw [← h.untouched e he hmem'.1]
    exact hother e (h.files ▸ he) hmem'.2

theorem Waiting.step (h : Waiting x result y consumed) (hy : y.Sound cfg) {op : WaiterOp ι}
    (hguard : InWait y op) (hstep : WaiterStep cfg dev y op z) :
    ∃ consumed, Waiting x result z consumed := by
  cases hstep with
  | @source i op w hforeign hexec =>
      have hseen : ∀ d ∈ x.files, ((y.moved i w).sources d.source).seen d.file =
          (y.sources d.source).seen d.file := by
        intro d hd
        rw [← h.files] at hd
        refine seen_moved hy hexec hd ?_
        rintro rfl rfl
        exact hforeign d.file rfl ⟨d, hd, rfl, rfl⟩
      refine ⟨consumed, h.files, h.stands, ?_, ?_, ?_⟩
      · intro i
        exact (h.notified i).trans (uioNotified_moved hexec i)
      · intro d hd hmem
        rw [hseen d hd]
        exact h.taken d hd hmem
      · intro d hd hmem
        rw [hseen d hd]
        exact h.untouched d hd hmem
  | finish hphase =>
      rcases h.stands.of_looping hphase with ⟨rfl, rfl, rfl, hmembers⟩
      have hall : result.members = consumed := by simpa using hmembers
      refine ⟨consumed, h.files, ?_, h.notified, h.taken, h.untouched⟩
      rw [← hall]
      exact .finished
  | fail hphase hfd =>
      rcases h.stands.of_looping hphase with ⟨rfl, rfl, rfl, hmembers⟩
      rw [List.filter_cons_of_pos (by simpa using hfd)] at hmembers
      exact ⟨consumed, h.files, .failed _ hmembers, h.notified, h.taken, h.untouched⟩
  | pass hphase hfd =>
      rcases h.stands.of_looping hphase with ⟨rfl, rfl, rfl, hmembers⟩
      rw [List.filter_cons_of_neg (by simpa using hfd)] at hmembers
      exact ⟨consumed, h.files, .looping hmembers, h.notified, h.taken, h.untouched⟩
  | read hphase hfd hfind hexec =>
      rcases h.stands.of_looping hphase with ⟨rfl, rfl, rfl, hmembers⟩
      exact ⟨_, h.read hy hmembers hfd hfind hexec⟩
  | openNode _ _ _ => cases hguard
  | closeNode _ _ _ => cases hguard
  | selectFails _ => cases hguard
  | select _ _ => cases hguard

theorem waiting_of_run (hdev : ∀ i, (dev i).Hooked cfg)
    (hrun : WaiterRun cfg dev Waiter.start x)
    (hselect : waiterExec cfg dev (.select set none) x = some y)
    (hwait : Reachable (waiterExec cfg dev) InWait y z) :
    z.Sound cfg ∧ ∃ consumed, Waiting x (set.restrict (x.unread set)) z consumed := by
  have hx := sound_of_run hdev hrun
  have hstep := waiterExec_step hselect
  refine hwait.invariant
    (I := fun z => z.Sound cfg ∧ ∃ consumed, Waiting x (set.restrict (x.unread set)) z consumed)
    ⟨hx.step hdev hstep, ?_⟩ ?_
  · cases hstep with
    | select _ _ =>
        exact ⟨[], rfl, stands_start _, fun _ => le_refl _, by simp, fun _ _ _ => rfl⟩
  · rintro v w op ⟨hv, consumed, hwaiting⟩ hguard hexec
    have hnext := waiterExec_step hexec
    exact ⟨hv.step hdev hnext, hwaiting.step hv hguard hnext⟩

end Waits

/-! ## What a wait returns -/

section Returns

variable {x z : Waiter ι} {result : EventsrcSet} {r : WaitResult}

/-- The count that the last read of a descriptor has returned. -/
def User.Waiter.lastRead (z : Waiter ι) (fd : Nat) : UInt32 :=
  match z.descriptor? fd with
  | none => 0
  | some d => EventState.uioCount ((z.sources d.source).seen d.file)

/-- A wait that has returned is a run of the loop, with the counts that it has read. -/
theorem Waiting.returns {consumed : List Nat} (h : Waiting x result z consumed)
    (hreturn : z.phase = .idle (some r)) :
    r.result = result ∧ r.consumed = consumed ∧
      ∃ read, r = readAll result read ∧ ∀ fd ∈ consumed, read fd = .ok (z.lastRead fd) := by
  have hstands := h.stands
  rw [hreturn] at hstands
  cases hstands with
  | finished =>
      refine ⟨rfl, rfl, fun fd => .ok (z.lastRead fd), ?_, fun _ _ => rfl⟩
      rw [readAll_of_ok fun _ _ => rfl, WaitResult.finished, EventsrcSet.length_members]
  | @failed before after fd e hmembers =>
      -- the members are in order, so the one that failed is none of those before it
      have hfd : ∀ fd' ∈ consumed, fd' ≠ fd := by
        intro fd' hfd'
        have horder := result.pairwise_members
        rw [hmembers, List.pairwise_append] at horder
        exact (horder.2.2 fd' hfd' fd List.mem_cons_self).ne
      let read : Nat → Except SysErrno UInt32 := fun fd' =>
        if fd' = fd then .error e else .ok (z.lastRead fd')
      have hread : ∀ fd' ∈ consumed, read fd' = .ok (z.lastRead fd') := fun fd' hfd' =>
        if_neg (hfd fd' hfd')
      refine ⟨rfl, rfl, read, ?_, hread⟩
      rw [readAll_of_error hmembers (if_pos rfl)]
      intro fd' hfd'
      rw [readOk, hread fd' hfd']

end Returns

section Main

variable {x y z : Waiter ι} {set : EventsrcSet} {consumed : List Nat}

theorem mem_unread (hx : x.Sound cfg) {d : Descriptor ι} (hd : d ∈ x.files) :
    d.fd ∈ x.unread set ↔ d.fd ∈ set.fds ∧ (x.sources d.source).Readable d.file := by
  simp [Waiter.unread, Waiter.Unread, hx.descriptor? hd]

/-- No descriptor of the set is as much as 2 ^ 32 notifications behind. -/
def WithinCount (x : Waiter ι) (set : EventsrcSet) (z : Waiter ι) : Prop :=
  ∀ d ∈ x.files, d.fd ∈ set.fds →
    (z.sources d.source).uioNotified < (z.sources d.source).seen d.file + 2 ^ 32

/-- A member that was readable at the `select` is readable until it is read. -/
theorem Waiting.readable {consumed : List Nat}
    (h : Waiting x (set.restrict (x.unread set)) z consumed) (hx : x.Sound cfg)
    (hcount : WithinCount x set z) {d : Descriptor ι} (hd : d ∈ x.files)
    (hfd : d.fd ∈ (set.restrict (x.unread set)).fds) (hconsumed : d.fd ∉ consumed) :
    (z.sources d.source).Readable d.file := by
  rcases Finset.mem_inter.1 hfd with ⟨hset, hunread⟩
  have hreadable := ((mem_unread hx hd).1 hunread).2
  have hseen := h.untouched d hd hconsumed
  have hle := h.notified d.source
  have hseenle := (hx.delivered d.source).seen_le d.file
  have hlt := hcount d hd hset
  -- there was something unseen, and it has only become more
  have hne : (x.sources d.source).seen d.file ≠ (x.sources d.source).uioNotified := by
    intro heq
    exact hreadable (by rw [heq])
  intro hsame
  have hdvd := (uioCount_eq_iff _ _).1 hsame
  omega

variable [DecidableEq ι] {dev : ι → Device}

namespace Sample

/-- Two devices with an interrupt. -/
def twoDevices (_ : Bool) : Device :=
  (deviceRegister config interrupting registered).dev

theorem twoDevices_hasInterrupt (i : Bool) : (twoDevices i).HasInterrupt config :=
  ⟨interrupting, registered, deviceRegister_registered config rfl rfl, Or.inl (by decide), rfl⟩

/-- Descriptors 3 and 4 are opened, one for each device, and the first device has an event. -/
def openTwo : List (WaiterOp Bool) :=
  [ .source false (.attach 7), .openNode 3 false 7, .source true (.attach 8), .openNode 4 true 8
  , .source false (.interrupt 1) ]

/-- The second device has an event when the loop has come to descriptor 3. -/
def loopToThree : List (WaiterOp Bool) :=
  [.look none, .look none, .look none, .source true .notify]

end Sample

instance (x : Waiter ι) (op : WaiterOp ι) : Decidable (InWait x op) :=
  match op with
  | .source _ _ | .look _ => .isTrue trivial
  | .openNode _ _ _ | .closeNode _ | .select _ _ => .isFalse id

instance (x : Waiter ι) (set : EventsrcSet) (z : Waiter ι) : Decidable (WithinCount x set z) :=
  inferInstanceAs (Decidable (∀ d ∈ x.files, d.fd ∈ set.fds → _))

/-- The loop reads the next descriptor, without a failure. -/
def IsLook (_ : Waiter ι) (op : WaiterOp ι) : Prop :=
  op = .look none

/-- The loop reads the next member. -/
theorem Waiting.look (dev : ι → Device)
    (h : Waiting x (set.restrict (x.unread set)) z consumed) (hx : x.Sound cfg)
    (hz : z.Sound cfg) (hcount : WithinCount x set z) {fd : Nat} {todo : List Nat}
    (hphase : z.phase =
      .looping (set.restrict (x.unread set)) (fd :: todo) consumed.length consumed)
    (hfd : fd ∈ (set.restrict (x.unread set)).fds) :
    ∃ z', waiterExec cfg dev (.look none) z = some z' ∧ WithinCount x set z' ∧
      z'.phase = .looping (set.restrict (x.unread set)) todo (consumed.length + 1)
        (consumed ++ [fd]) := by
  rcases (Finset.mem_filter.1 (Finset.mem_inter.1 hfd).2).2 with ⟨d, hfind, _⟩
  rcases descriptor?_eq_some hfind with ⟨hd, rfl⟩
  have hfind' : z.descriptor? d.fd = some d := by
    rw [Waiter.descriptor?, h.files]
    exact hfind
  have hfresh : d.fd ∉ consumed := by
    intro hmem
    have horder := (set.restrict (x.unread set)).pairwise_members
    rw [(h.stands.of_looping hphase).2.2.2, List.filter_cons_of_pos (by simpa using hfd),
      List.pairwise_append] at horder
    exact absurd (horder.2.2 _ hmem _ List.mem_cons_self) (lt_irrefl _)
  have hopen := hz.opened d (h.files ▸ hd)
  have hreadable := h.readable hx hcount hd hfd hfresh
  let w : EventState :=
    { z.sources d.source with
      seen := Function.update (z.sources d.source).seen d.file (z.sources d.source).uioNotified
      readAt := Function.update (z.sources d.source).readAt d.file (z.sources d.source).events }
  have hexec : eventExec cfg (dev d.source) (.read d.file) (z.sources d.source) = some w :=
    if_pos ⟨hopen, hreadable⟩
  refine ⟨{ z.moved d.source w with
    phase := .looping (set.restrict (x.unread set)) todo (consumed.length + 1)
      (consumed ++ [d.fd]) }, ?_, ?_, rfl⟩
  · simp only [waiterExec, hphase, hfd, if_true, hfind', hexec]
    rfl
  · intro e he hset
    have hold := hcount e he hset
    by_cases hsource : e.source = d.source
    · by_cases hfile : e.file = d.file
      · simp [Waiter.moved, w, hsource, hfile]
      · rw [hsource] at hold
        simpa [Waiter.moved, w, hsource, hfile] using hold
    · simpa [Waiter.moved, hsource] using hold

/-- The loop, left alone, comes to its end. -/
theorem Waiting.completes (hdev : ∀ i, (dev i).Hooked cfg) (hx : x.Sound cfg) (todo : List Nat) :
    ∀ {z : Waiter ι} {consumed : List Nat},
      Waiting x (set.restrict (x.unread set)) z consumed → z.Sound cfg → WithinCount x set z →
      z.phase = .looping (set.restrict (x.unread set)) todo consumed.length consumed →
      ∃ t, Reachable (waiterExec cfg dev) IsLook z t ∧
        t.phase = .idle (some (.finished (set.restrict (x.unread set))
          (set.restrict (x.unread set)).members.length (set.restrict (x.unread set)).members)) := by
  -- induction on what is left of the loop
  induction todo with
  | nil =>
      intro z consumed h _ _ hphase
      have hmembers := (h.stands.of_looping hphase).2.2.2
      have hall : (set.restrict (x.unread set)).members = consumed := by simpa using hmembers
      have hnext : waiterExec cfg dev (.look none) z = some
          { z with phase := .idle (some (.finished (set.restrict (x.unread set))
            consumed.length consumed)) } := by
        simp only [waiterExec, hphase]
      refine ⟨_, Reachable.head rfl hnext (Reachable.refl _), ?_⟩
      rw [hall]
  | cons fd todo ih =>
      intro z consumed h hz hcount hphase
      have hwait : InWait z (.look none) := trivial
      by_cases hfd : fd ∈ (set.restrict (x.unread set)).fds
      · rcases Waiting.look dev h hx hz hcount hphase hfd with ⟨z', hnext, hcount', hphase'⟩
        have hstep := waiterExec_step hnext
        rcases h.step hz hwait hstep with ⟨consumed', h'⟩
        rcases h'.stands.of_looping hphase' with ⟨_, rfl, hlength, _⟩
        rw [hlength] at hphase'
        rcases ih h' (hz.step hdev hstep) hcount' hphase' with ⟨t, hrest, ht⟩
        exact ⟨t, Reachable.head rfl hnext hrest, ht⟩
      · have hnext : waiterExec cfg dev (.look none) z = some
            { z with
              phase := .looping (set.restrict (x.unread set)) todo consumed.length consumed } := by
          simp only [waiterExec, hphase, hfd, if_false]
        have hstep := waiterExec_step hnext
        rcases h.step hz hwait hstep with ⟨consumed', h'⟩
        rcases h'.stands.of_looping rfl with ⟨_, rfl, _, _⟩
        rcases ih h' (hz.step hdev hstep) hcount rfl with ⟨t, hrest, ht⟩
        exact ⟨t, Reachable.head rfl hnext hrest, ht⟩

/-- A wait whose reads have not failed returns whatever has happened so far, and if nothing more
does and the reads that are left do not fail either (`IsLook`): it reports all that was readable at
its `select`.  No read of its loop blocks, unless 2 ^ 32 notifications have come in since a
descriptor was last read.  Nobody else reads or closes the files of the process, as `waiterExec` has
it. -/
theorem setWait_completes (hdev : ∀ i, (dev i).HasInterrupt cfg)
    (hrun : WaiterRun cfg dev Waiter.start x)
    (hselect : waiterExec cfg dev (.select set none) x = some y)
    (hwait : Reachable (waiterExec cfg dev) InWait y z) {result : EventsrcSet}
    {todo consumed : List Nat} {n : Nat} (hphase : z.phase = .looping result todo n consumed)
    (hcount : WithinCount x set z) :
    ∃ t r, Reachable (waiterExec cfg dev) IsLook z t ∧ t.phase = .idle (some r) ∧
      r.result.fds = x.unread set ∧ (∀ fd, fd ∈ r.consumed ↔ fd ∈ x.unread set) ∧
      r.ret = if x.unread set = ∅ then -Errno.ETIMEDOUT else ((x.unread set).card : Int) := by
  have hhooked : ∀ i, (dev i).Hooked cfg := fun i => (hdev i).hooked
  have hx := sound_of_run hhooked hrun
  rcases waiting_of_run hhooked hrun hselect hwait with ⟨hz, consumed', hwaiting⟩
  rcases hwaiting.stands.of_looping hphase with ⟨rfl, rfl, rfl, _⟩
  rcases hwaiting.completes hhooked hx todo hz hcount hphase with ⟨t, hlooks, ht⟩
  have hfds : (set.restrict (x.unread set)).fds = x.unread set :=
    Finset.inter_eq_right.2 (Finset.filter_subset _ _)
  refine ⟨t, _, hlooks, ht, hfds, ?_, ?_⟩
  · intro fd
    have hmem : fd ∈ (set.restrict (x.unread set)).members ↔
        fd ∈ (set.restrict (x.unread set)).fds := EventsrcSet.mem_members
    rw [← hfds]
    simpa [WaitResult.finished, hfds] using hmem
  · simp only [WaitResult.finished, EventsrcSet.length_members, hfds, Finset.card_eq_zero]

end Main

/-- The loop has come to descriptor 3, and the second device has had an event. -/
theorem setWait_completes_lateEvent :
    ∃ (t : Waiter Bool) (r : WaitResult), t.phase = .idle (some r) ∧ r.result.fds = {3} ∧
      r.ret = 1 := by
  have hrun : ∃ x, WaiterRun Sample.config Sample.twoDevices Waiter.start x ∧
      (x.unread Sample.twoSources = {3} ∧
        (waiterExec Sample.config Sample.twoDevices (.select Sample.twoSources none) x).any fun y =>
          (run (waiterExec Sample.config Sample.twoDevices) InWait Sample.loopToThree y).any fun z =>
            decide (z.phase = .looping (Sample.twoSources.restrict {3}) [3, 4] 0 [] ∧
              WithinCount x Sample.twoSources z)) :=
    exists_reachable_of_run Sample.openTwo (by decide +kernel)
  rcases hrun with ⟨x, hreach, hunread, hrest⟩
  rcases (Option.any_eq_true _ _).1 hrest with ⟨y, hselect, hrest⟩
  rcases exists_reachable_of_run _ hrest with ⟨z, hwait, hphase, hcount⟩
  rcases setWait_completes Sample.twoDevices_hasInterrupt hreach hselect hwait hphase hcount with
    ⟨t, r, _, ht, hfds, _, hret⟩
  rw [hunread] at hfds hret
  exact ⟨t, r, ht, hfds, hret⟩

end Cuddl
