import Cuddl.Properties.RegisterAccess

/-!
# Shared regions

A mapped claim gives access to its region for as long as it is mapped, even after the claim has been
released and the device has been removed (`mapping_lasts`), and regions of plain memory are shared
by all who have mapped them: they keep what is written to them until something else is written there
(`written_value_is_read`).
-/

namespace Cuddl

open Foundation.Machine Foundation.Paging Foundation.Words

/-! ## Mappings last -/

/-- Where the word is that an access reaches. -/
def IoHost.place {D : Type} (cfg : Config) (x : IoHost D) (pid : Pid) (v : Nat) (w : Width)
    (offset : UInt64) : Option (Place Int) :=
  ((x.procs pid).regions v).bind fun r => User.deref cfg (x.procs pid).pages w (r.at offset)

/-- Byte `offset` of the region, as the driver has described it. -/
def Memregion.byte (m : Memregion) (offset : UInt64) : Place Int :=
  ⟨m.type, m.paAddr.toNat + m.startOffset.toNat + offset.toNat⟩

/-- Variable `v` of the process accesses the region `m`. -/
def IoHost.Accesses {D : Type} (cfg : Config) (x : IoHost D) (pid : Pid) (v : Nat)
    (m : Memregion) : Prop :=
  ∃ r, (x.procs pid).regions v = some r ∧ r.len = m.len ∧
    ∀ w offset, r.Within w offset → x.place cfg pid v w offset = some (m.byte offset)

/-- The action does not map into the variable, and does not unmap it. -/
def IoOp.Leaves (pid : Pid) (v : Nat) : IoOp → Prop
  | .map pid' v' _ _ _ | .unmap pid' v' _ => ¬ (pid' = pid ∧ v' = v)
  | _ => True

instance (pid : Pid) (v : Nat) : (a : IoOp) → Decidable (a.Leaves pid v)
  | .map pid' v' _ _ _ | .unmap pid' v' _ => inferInstanceAs (Decidable (¬ (pid' = pid ∧ v' = v)))
  | .kernel _ | .claim .. | .release .. | .read .. | .write .. => .isTrue trivial

/-- `mmap` maps to pages of the process that are free. -/
def IoOp.MapsFresh {D : Type} (cfg : Config) (pid : Pid) (x : IoHost D) : IoOp → Prop
  | .map pid' _ n _ out => pid' = pid → ∀ info r, (x.procs pid).infos[n]? = some info →
      (User.memregionMap info out).2 = some r → FreshMapping cfg (x.procs pid) r
  | _ => True

/-- Variable `v` shows the window, and the mappings of the process are on pages of their own. -/
structure Showing (cfg : Config) (p : IoProcess) (v : Nat) (win : Window) : Prop where
  apart : Apart cfg p
  shown : ∃ r, p.regions v = some r ∧ Shows cfg p.pages r win

section Lasting

variable {D : Type} {cfg : Config} {bus : Bus (Place Int) D} {x x' : IoHost D}
  {y : RegisterFile D} {pid : Pid} {v : Nat} {win : Window}

theorem IoPermitted.mapsFresh {a : IoOp} (h : IoPermitted cfg x a) (pid : Pid) :
    a.MapsFresh cfg pid x := by
  cases a with
  | map pid' v' n node out =>
      rintro rfl info r hinfo hr
      exact (h info r hinfo hr).2.2
  | _ => trivial

/-- Only the mappings and the pages count. -/
theorem Showing.congr {p p' : IoProcess} (h : Showing cfg p v win)
    (hregions : p'.regions = p.regions) (hpages : p'.pages = p.pages) : Showing cfg p' v win := by
  refine ⟨h.apart.congr hregions hpages, ?_⟩
  rw [hregions, hpages]
  exact h.shown

theorem Showing.map {p : IoProcess} (h : Showing cfg p v win) {r : User.Memregion} {v' : Nat}
    (hne : v' ≠ v) (hfresh : FreshMapping cfg p r) (place : Place Int) :
    Showing cfg
      { p with
        regions := Function.update p.regions v' (some r)
        pages := p.pages.map (2 ^ cfg.pageShift) r.paAddr.toNat r.paLen.toNat place } v win := by
  rcases h.shown with ⟨r', hr', hshows⟩
  refine ⟨h.apart.map hfresh v' place, r', ?_, hshows.map hfresh place⟩
  rw [← hr']
  exact Function.update_of_ne (Ne.symm hne) _ _

theorem Showing.unmap {p : IoProcess} (h : Showing cfg p v win) {r : User.Memregion} {v' : Nat}
    (hne : v' ≠ v) (hr : p.regions v' = some r) (done : Bool) :
    Showing cfg
      { p with
        regions := Function.update p.regions v' none
        pages :=
          if done then p.pages.unmap (2 ^ cfg.pageShift) r.paAddr.toNat r.paLen.toNat
          else p.pages } v win := by
  rcases h.shown with ⟨r', hr', hshows⟩
  refine ⟨h.apart.unmap hr done, r', ?_, hshows.unmap h.apart hr hr' (Ne.symm hne) done⟩
  rw [← hr']
  exact Function.update_of_ne (Ne.symm hne) _ _

/-- What is done to another process does not matter. -/
theorem Showing.put {s : KernelState} {n : Nodes} {d : D} {q : Pid} {p : IoProcess}
    (h : Showing cfg (x.procs pid) v win) (hp : q = pid → Showing cfg p v win) :
    Showing cfg
      (({ x with kernel := s, nodes := n, device := d }.put q p : IoHost D).procs pid) v win := by
  by_cases hq : pid = q
  · subst hq
    simpa [IoHost.put] using hp rfl
  · simpa [IoHost.put, hq] using h

/-- Nothing but a call for the variable takes its window away: not what happens to the claim or to
the device, and no other mapping. -/
theorem Showing.step {a : IoOp} (h : Showing cfg (x.procs pid) v win)
    (hfresh : a.MapsFresh cfg pid x) (hleaves : a.Leaves pid v)
    (hexec : hostExec cfg bus a x = some x') : Showing cfg (x'.procs pid) v win := by
  cases a with
  | kernel a =>
      rcases Option.bind_eq_some_iff.1 hexec with ⟨_, _, hrest⟩
      rcases Option.map_eq_some_iff.1 hrest with ⟨_, _, rfl⟩
      exact h
  | claim q rt id options io sys =>
      rcases Option.map_eq_some_iff.1 hexec with ⟨call, _, rfl⟩
      refine h.put ?_
      rintro rfl
      exact h.congr rfl rfl
  | release q n rt io sys =>
      rcases Option.bind_eq_some_iff.1 hexec with ⟨_, _, hrest⟩
      rcases Option.map_eq_some_iff.1 hrest with ⟨call, _, rfl⟩
      refine h.put ?_
      rintro rfl
      exact h.congr rfl rfl
  | map q v' n node out =>
      rcases Option.bind_eq_some_iff.1 hexec with ⟨info, hinfo, hrest⟩
      cases hr : (User.memregionMap info out).2 with
      | none =>
          rw [hr] at hrest
          cases hrest
          exact h
      | some r =>
          rw [hr] at hrest
          rcases Option.map_eq_some_iff.1 hrest with ⟨place, _, rfl⟩
          refine h.put ?_
          rintro rfl
          exact h.map (fun hv => hleaves ⟨rfl, hv⟩) (hfresh rfl info r hinfo hr) place
  | unmap q v' munmap =>
      rcases Option.map_eq_some_iff.1 hexec with ⟨r, hr, rfl⟩
      refine h.put ?_
      rintro rfl
      exact h.unmap (fun hv => hleaves ⟨rfl, hv⟩) hr munmap.isNone
  | read q v' w offset =>
      rcases Option.bind_eq_some_iff.1 hexec with ⟨_, _, hrest⟩
      rcases Option.map_eq_some_iff.1 hrest with ⟨⟨d, value⟩, _, rfl⟩
      refine h.put ?_
      rintro rfl
      exact h.congr rfl rfl
  | write q v' w offset value =>
      rcases Option.bind_eq_some_iff.1 hexec with ⟨_, _, hrest⟩
      rcases Option.map_eq_some_iff.1 hrest with ⟨d, _, rfl⟩
      exact h

theorem Showing.accesses {m : Memregion} (h : Showing cfg (x.procs pid) v m.window) :
    x.Accesses cfg pid v m := by
  rcases h.shown with ⟨r, hr, hshows⟩
  refine ⟨r, hr, UInt64.toNat_inj.1 hshows.len, ?_⟩
  intro w offset hwithin
  rw [IoHost.place, hr, Option.bind_some, hshows.deref hwithin]
  rfl

/-- A claim that is mapped shows the region that it names. -/
theorem showing_of_map (hpage : cfg.pageShift < 62) (h : Realizes cfg x y) {n : Nat}
    {node : NodeMap} {out : User.MapOutcome} {info : MemregionInfo}
    (hinfo : (x.procs pid).infos[n]? = some info) (hok : (User.memregionMap info out).1 = 0)
    (hp : IoPermitted cfg x (.map pid v n node out))
    (hmap : hostExec cfg bus (.map pid v n node out) x = some x') :
    ∃ p y', x.kernel.devices info.token.deviceIndex = some p ∧ Realizes cfg x' y' ∧
      Showing cfg (x'.procs pid) v ((x.kernel.heap p).mem info.token.resourceIndex).window := by
  rcases h.current pid info (List.mem_of_getElem? hinfo) with ⟨p, _, hdev, _⟩
  rcases h.step hpage hp hmap with ⟨y', hstep, h'⟩
  refine ⟨p, y', hdev, h', (h'.users pid).apart, ?_⟩
  have htoken : (y.users pid).held[n]? = some info.token := by
    rw [(h.users pid).held, List.getElem?_map, hinfo]
    rfl
  have hopened : User.AttachOutcome.fails (k := .memregion) out = false := by
    rcases out with ⟨opened, mmap⟩
    have hneg : ∀ e : SysErrno, -(e.val : Int) ≠ 0 := fun e => (neg_errno_lt e).ne
    cases opened with
    | error e => exact absurd hok (hneg e)
    | ok fd =>
        cases mmap with
        | error e => exact absurd hok (hneg e)
        | ok addr => rfl
  have hwindow : y.kernel.window info.token =
      some ((x.kernel.heap p).mem info.token.resourceIndex).window := by
    rw [h.kernel, KernelState.window, hdev, Option.map_some]
  simp only [registersExec, htoken, Option.bind_some, hopened, Bool.false_eq_true, if_false,
    hwindow, Option.map_some, Option.some.injEq] at hstep
  have hwin : (y'.users pid).windows v =
      some ((x.kernel.heap p).mem info.token.resourceIndex).window := by
    rw [← hstep]
    simp [RegisterFile.put]
  cases hr : (x'.procs pid).regions v with
  | none =>
      rw [(h'.users pid).no_window hr] at hwin
      cases hwin
  | some r =>
      rcases (h'.users pid).window hr with ⟨win', hwin', hshows⟩
      cases hwin.symm.trans hwin'
      exact ⟨r, rfl, hshows⟩

/-- The window stays, and the access with it. -/
theorem Showing.accesses_after {m : Memregion} (h : Showing cfg (x.procs pid) v m.window)
    {ops : List IoOp}
    (hrun : Runs (hostExec cfg bus) (fun x a => a.MapsFresh cfg pid x ∧ a.Leaves pid v) x ops x') :
    x'.Accesses cfg pid v m := by
  have hlast : Showing cfg (x'.procs pid) v m.window := by
    refine hrun.invariant (I := fun x => Showing cfg (x.procs pid) v m.window) h ?_
    rintro w w' a hw ⟨hfresh, hleaves⟩ hexec
    exact hw.step hfresh hleaves hexec
  exact hlast.accesses

end Lasting

/-- A claim that is mapped gives access to the region that it names, and does so until the variable
is unmapped or mapped again, whatever happens to the claim, to the device and to other mappings.
Until the claim is mapped, the run has to be one that `IoPermitted` admits; from then on all that is
asked for is that `mmap` does not map over pages that are taken. -/
theorem mapping_lasts {D : Type} (cfg : Config) (bus : Bus (Place Int) D)
    (hpage : cfg.pageShift < 62) {s₀ : KernelState} (hfresh : s₀.Fresh) {d : D}
    {ops ops' : List IoOp} {x x₁ x₂ : IoHost D} {pid : Pid} {v n : Nat} {node : NodeMap}
    {out : User.MapOutcome} {info : MemregionInfo}
    (hbefore : Runs (hostExec cfg bus) (IoPermitted cfg) (IoHost.start s₀ d) ops x)
    (hinfo : (x.procs pid).infos[n]? = some info) (hok : (User.memregionMap info out).1 = 0)
    (hp : IoPermitted cfg x (.map pid v n node out))
    (hmap : hostExec cfg bus (.map pid v n node out) x = some x₁)
    (hafter : Runs (hostExec cfg bus) (fun x a => a.MapsFresh cfg pid x ∧ a.Leaves pid v) x₁ ops'
      x₂) :
    ∃ p, x.kernel.devices info.token.deviceIndex = some p ∧
      x₂.Accesses cfg pid v ((x.kernel.heap p).mem info.token.resourceIndex) := by
  rcases Realizes.of_runs hpage hfresh hbefore with ⟨y, _, h⟩
  rcases showing_of_map hpage h hinfo hok hp hmap with ⟨p, _, hdev, _, hshowing⟩
  exact ⟨p, hdev, hshowing.accesses_after hafter⟩

instance {D : Type} (cfg : Config) (pid : Pid) (x : IoHost D) :
    (a : IoOp) → Decidable (a.MapsFresh cfg pid x)
  | .map pid' v n node out =>
      decidable_of_iff (pid' = pid → ((x.procs pid).infos[n]?.all fun info =>
          (User.memregionMap info out).2.all fun r =>
            decide (FreshMapping cfg (x.procs pid) r)) = true) <| by
        constructor
        · intro h hpid info r hinfo hr
          simpa [hinfo, hr] using h hpid
        · intro h hpid
          rw [Option.all_eq_true]
          intro info hinfo
          rw [Option.all_eq_true]
          intro r hr
          exact decide_eq_true (h hpid info r hinfo hr)
  | .kernel _ | .claim .. | .release .. | .unmap .. | .read .. | .write .. => .isTrue trivial

namespace Sample

/-- What is claimed first is mapped by `mapAt`, and byte 8 of it is at 8. -/
def mapsFirst (x : IoHost (Memory Int)) (pid : Pid) (base : UInt64) : Bool :=
  (x.procs pid).infos[0]?.any fun info =>
    decide ((User.memregionMap info ⟨.ok 3, .ok base⟩).1 = 0) &&
      (x.kernel.devices info.token.deviceIndex).any fun p =>
        decide (((x.kernel.heap p).mem info.token.resourceIndex).byte 8 = ⟨1, 8⟩)

theorem exists_of_mapsFirst {x : IoHost (Memory Int)} {pid : Pid} {base : UInt64}
    (h : mapsFirst x pid base = true) :
    ∃ info, (x.procs pid).infos[0]? = some info ∧
      (User.memregionMap info ⟨.ok 3, .ok base⟩).1 = 0 ∧
      ∀ p, x.kernel.devices info.token.deviceIndex = some p →
        ((x.kernel.heap p).mem info.token.resourceIndex).byte 8 = ⟨1, 8⟩ := by
  rcases (Option.any_eq_true _ _).1 h with ⟨info, hinfo, hrest⟩
  rcases Bool.and_eq_true_iff.1 hrest with ⟨hok, hany⟩
  rcases (Option.any_eq_true _ _).1 hany with ⟨p, hp, hbyte⟩
  refine ⟨info, hinfo, of_decide_eq_true hok, ?_⟩
  intro q hq
  cases hp.symm.trans hq
  exact of_decide_eq_true hbyte

end Sample

namespace Sample

/-- Process 1 gives its claim back, and its device is removed, while process 2 maps the region. -/
def removal : List IoOp :=
  [mapAt 2 131072, .release 1 0 false noFaults ⟨none, none⟩, .kernel (.release 0 registered)]

end Sample

theorem mapping_lasts_removal :
    ∃ (x₂ : IoHost (Memory Int)) (m : Memregion), x₂.kernel.devices 0 = none ∧
      (x₂.procs 1).infos.length = 0 ∧ x₂.Accesses Sample.config 1 0 m ∧ m.byte 8 = ⟨1, 8⟩ := by
  have hrun : (run Sample.ioExec (fun x a => Sample.allowed Sample.config x a = true)
      Sample.claimedTwice (IoHost.start Sample.kernel Sample.memory)).any (fun x =>
        Sample.mapsFirst x 1 65536 && Sample.allowed Sample.config x (Sample.mapAt 1 65536) &&
        ((Sample.ioExec (Sample.mapAt 1 65536) x).any fun x₁ =>
          (run Sample.ioExec (fun x a => a.MapsFresh Sample.config 1 x ∧ a.Leaves 1 0)
            Sample.removal x₁).any fun x₂ =>
              decide (x₂.kernel.devices 0 = none ∧ (x₂.procs 1).infos.length = 0))) = true := by
    decide +kernel
  rcases (Option.any_eq_true _ _).1 hrun with ⟨x, hx, hrest⟩
  simp only [Bool.and_eq_true] at hrest
  rcases hrest with ⟨⟨hfirst, hallowed⟩, hany⟩
  rcases (Option.any_eq_true _ _).1 hany with ⟨x₁, hx₁, hrest⟩
  rcases (Option.any_eq_true _ _).1 hrest with ⟨x₂, hx₂, hgone⟩
  rcases Sample.exists_of_mapsFirst hfirst with ⟨info, hinfo, hok, hbyte⟩
  rcases of_decide_eq_true hgone with ⟨hremoved, hreleased⟩
  rcases mapping_lasts Sample.config (memoryBus .little) (by decide) Sample.kernel_fresh
    (Sample.runs_of_allowed hx) hinfo hok (Sample.permitted_of_allowed hallowed) hx₁
    (runs_of_run hx₂) with ⟨p, hp, haccess⟩
  exact ⟨x₂, _, hremoved, hreleased, haccess, hbyte p hp⟩

/-! ## Regions of plain memory -/

/-- The action does not write to the `n` bytes from `z` on. -/
def IoOp.Spares {D : Type} (cfg : Config) (z : Place Int) (n : Nat) (x : IoHost D) : IoOp → Prop
  | .write pid v w offset _ =>
      ∀ z', x.place cfg pid v w offset = some z' → ∀ b, Among z n b → ¬ Among z' w.bytes b
  | _ => True

section Memory

variable {cfg : Config} {order : ByteOrder} {x x' : IoHost (Memory Int)} {z : Place Int} {n : Nat}

/-- A write is a store at the place of its word. -/
theorem hostExec_write {pid : Pid} {v : Nat} {w : Width} {offset : UInt64} {value : w.Word}
    (h : hostExec cfg (memoryBus order) (.write pid v w offset value) x = some x') :
    ∃ z, x.place cfg pid v w offset = some z ∧
      x' = { x with device := store order w z value x.device } := by
  rcases Option.bind_eq_some_iff.1 h with ⟨r, hr, hrest⟩
  rcases Option.map_eq_some_iff.1 hrest with ⟨d, hd, rfl⟩
  rw [User.memregionIowrite_eq, User.iowrite] at hd
  rcases Option.map_eq_some_iff.1 hd with ⟨z, hz, rfl⟩
  exact ⟨z, by simp [IoHost.place, hr, hz], rfl⟩

/-- A read is a load from the place of its word, and leaves the memory alone. -/
theorem hostExec_read {pid : Pid} {v : Nat} {w : Width} {offset : UInt64}
    (h : hostExec cfg (memoryBus order) (.read pid v w offset) x = some x') :
    ∃ z, x.place cfg pid v w offset = some z ∧ x'.device = x.device ∧
      (x'.procs pid).readings = ⟨w, load order w z x.device⟩ :: (x.procs pid).readings := by
  rcases Option.bind_eq_some_iff.1 h with ⟨r, hr, hrest⟩
  rcases Option.map_eq_some_iff.1 hrest with ⟨⟨d, value⟩, hd, rfl⟩
  rw [User.memregionIoread_eq, User.ioread] at hd
  rcases Option.map_eq_some_iff.1 hd with ⟨z, hz, heq⟩
  cases heq
  exact ⟨z, by simp [IoHost.place, hr, hz], rfl, by simp [IoHost.put]⟩

/-- The bytes that an action spares stay what they are. -/
theorem hostExec_memory {a : IoOp} (hspares : a.Spares cfg z n x)
    (h : hostExec cfg (memoryBus order) a x = some x') {b : Place Int} (hb : Among z n b) :
    x'.device b = x.device b := by
  cases a with
  | kernel a =>
      rcases Option.bind_eq_some_iff.1 h with ⟨_, _, hrest⟩
      rcases Option.map_eq_some_iff.1 hrest with ⟨_, _, rfl⟩
      rfl
  | claim q rt id options io sys =>
      rcases Option.map_eq_some_iff.1 h with ⟨_, _, rfl⟩
      rfl
  | release q i rt io sys =>
      rcases Option.bind_eq_some_iff.1 h with ⟨_, _, hrest⟩
      rcases Option.map_eq_some_iff.1 hrest with ⟨_, _, rfl⟩
      rfl
  | map q v i node out =>
      rcases Option.bind_eq_some_iff.1 h with ⟨_, _, hrest⟩
      split at hrest
      · cases hrest
        rfl
      · rcases Option.map_eq_some_iff.1 hrest with ⟨_, _, rfl⟩
        rfl
  | unmap q v munmap =>
      rcases Option.map_eq_some_iff.1 h with ⟨_, _, rfl⟩
      rfl
  | read q v w offset =>
      rcases hostExec_read h with ⟨_, _, hsame, _⟩
      rw [hsame]
  | write q v w offset value =>
      rcases hostExec_write h with ⟨z', hz', rfl⟩
      exact store_of_not_among (hspares z' hz' b hb)

end Memory

/-- What one process writes to a region of plain memory, every process reads that accesses the same
bytes, through whatever mapping, unless something has been written to them in between. -/
theorem written_value_is_read (cfg : Config) (order : ByteOrder) {m m' : Memregion}
    {x x₁ x₂ x₃ : IoHost (Memory Int)} {ops : List IoOp} {pid pid' : Pid} {v v' : Nat} {w : Width}
    {offset offset' : UInt64} {value : w.Word} (haccess : x.Accesses cfg pid v m)
    (hp : IoPermitted cfg x (.write pid v w offset value))
    (hwrite : hostExec cfg (memoryBus order) (.write pid v w offset value) x = some x₁)
    (hbetween : Runs (hostExec cfg (memoryBus order))
      (fun x a => a.Spares cfg (m.byte offset) w.bytes x) x₁ ops x₂)
    (haccess' : x₂.Accesses cfg pid' v' m') (hsame : m'.byte offset' = m.byte offset)
    (hp' : IoPermitted cfg x₂ (.read pid' v' w offset'))
    (hread : hostExec cfg (memoryBus order) (.read pid' v' w offset') x₂ = some x₃) :
    (x₃.procs pid').readings = ⟨w, value⟩ :: (x₂.procs pid').readings := by
  have hplace : ∀ {x : IoHost (Memory Int)} {pid : Pid} {v : Nat} {m : Memregion}
      {offset : UInt64}, x.Accesses cfg pid v m →
      (∃ r, (x.procs pid).regions v = some r ∧ r.Within w offset) →
      x.place cfg pid v w offset = some (m.byte offset) := by
    rintro x pid v m offset ⟨r, hr, _, hbytes⟩ ⟨r', hr', hwithin⟩
    cases hr.symm.trans hr'
    exact hbytes w offset hwithin
  -- both accesses are to the same place
  rcases hostExec_write hwrite with ⟨z, hz, rfl⟩
  cases (hplace haccess hp).symm.trans hz
  rcases hostExec_read hread with ⟨z', hz', _, hreadings⟩
  cases (hplace haccess' hp').symm.trans hz'
  -- the bytes are those that were stored
  have hkept : ∀ b, Among (m.byte offset) w.bytes b →
      x₂.device b = store order w (m.byte offset) value x.device b := by
    refine hbetween.invariant (I := fun y : IoHost (Memory Int) =>
      ∀ b, Among (m.byte offset) w.bytes b →
        y.device b = store order w (m.byte offset) value x.device b) (fun _ _ => rfl) ?_
    intro y y' a hy hspares hexec b hb
    rw [hostExec_memory hspares hexec hb]
    exact hy b hb
  have hload : load order w (m'.byte offset') x₂.device = value := by
    rw [hsame, load_congr hkept]
    exact load_store
  rw [hreadings, hload]

/-- Process 1 writes a word and unmaps the region, process 2 writes behind the word and reads it. -/
theorem written_value_is_read_sharedRun :
    ∃ x₂ x₃ : IoHost (Memory Int),
      (x₃.procs 2).readings = ⟨.word, 0xdeadbeef⟩ :: (x₂.procs 2).readings := by
  have hrun : (run Sample.ioExec (fun x a => Sample.allowed Sample.config x a = true)
      Sample.claimedTwice (IoHost.start Sample.kernel Sample.memory)).any (fun x =>
        Sample.mapsFirst x 1 65536 && Sample.allowed Sample.config x (Sample.mapAt 1 65536) &&
        ((Sample.ioExec (Sample.mapAt 1 65536) x).any fun y =>
          Sample.mapsFirst y 2 131072 && Sample.allowed Sample.config y (Sample.mapAt 2 131072) &&
          ((Sample.ioExec (Sample.mapAt 2 131072) y).any fun z =>
            Sample.allowed Sample.config z Sample.writeWord &&
            ((Sample.ioExec Sample.writeWord z).any fun z₁ =>
              ((Sample.ioExec (.unmap 1 0 none) z₁).any fun z₂ =>
                decide (z₂.place Sample.config 2 0 .half 12 = some ⟨1, 12⟩) &&
                Sample.allowed Sample.config z₂ (.write 2 0 .half 12 7) &&
                ((Sample.ioExec (.write 2 0 .half 12 7) z₂).any fun z₃ =>
                  Sample.allowed Sample.config z₃ Sample.readWord &&
                  (Sample.ioExec Sample.readWord z₃).isSome)))))) = true := by
    decide +kernel
  rcases (Option.any_eq_true _ _).1 hrun with ⟨x, hx, hrest⟩
  simp only [Bool.and_eq_true] at hrest
  rcases hrest with ⟨⟨hfirst, hallowed⟩, hany⟩
  rcases (Option.any_eq_true _ _).1 hany with ⟨y, hy, hrest⟩
  simp only [Bool.and_eq_true] at hrest
  rcases hrest with ⟨⟨hfirst', hallowed'⟩, hany⟩
  rcases (Option.any_eq_true _ _).1 hany with ⟨z, hz, hrest⟩
  simp only [Bool.and_eq_true] at hrest
  rcases hrest with ⟨hwrites, hany⟩
  rcases (Option.any_eq_true _ _).1 hany with ⟨z₁, hz₁, hany⟩
  rcases (Option.any_eq_true _ _).1 hany with ⟨z₂, hz₂, hrest⟩
  simp only [Bool.and_eq_true, decide_eq_true_eq] at hrest
  rcases hrest with ⟨⟨hplace, _⟩, hany⟩
  rcases (Option.any_eq_true _ _).1 hany with ⟨z₃, hz₃, hrest⟩
  simp only [Bool.and_eq_true] at hrest
  rcases hrest with ⟨hreads, hsome⟩
  rcases Option.isSome_iff_exists.1 hsome with ⟨z₄, hz₄⟩
  have hpage : Sample.config.pageShift < 62 := by decide
  -- both variables access the region
  rcases Realizes.of_runs hpage Sample.kernel_fresh (Sample.runs_of_allowed hx) with ⟨_, _, h⟩
  rcases Sample.exists_of_mapsFirst hfirst with ⟨info, hinfo, hok, hbyte⟩
  rcases showing_of_map hpage h hinfo hok (Sample.permitted_of_allowed hallowed) hy with
    ⟨p, _, hp, h₁, hshowing⟩
  rcases Sample.exists_of_mapsFirst hfirst' with ⟨info', hinfo', hok', hbyte'⟩
  rcases showing_of_map hpage h₁ hinfo' hok' (Sample.permitted_of_allowed hallowed') hz with
    ⟨p', _, hp', _, hshowing'⟩
  have haccess := hshowing.accesses_after
    (Runs.single ⟨(Sample.permitted_of_allowed hallowed').mapsFresh 1, by decide⟩ hz)
  have hafter : Runs Sample.ioExec
      (fun x a => a.MapsFresh Sample.config 2 x ∧ a.Leaves 2 0) z
      [Sample.writeWord, .unmap 1 0 none, .write 2 0 .half 12 7] z₃ :=
    Runs.cons ⟨trivial, trivial⟩ hz₁
      (Runs.cons ⟨trivial, by decide⟩ hz₂ (Runs.single ⟨trivial, trivial⟩ hz₃))
  have haccess' := hshowing'.accesses_after hafter
  -- what is written behind the word is not among its bytes
  have hspares : Runs Sample.ioExec (fun s a => a.Spares Sample.config
      (((x.kernel.heap p).mem info.token.resourceIndex).byte 8) Width.word.bytes s) z₁
      Sample.meanwhile z₃ := by
    rw [hbyte p hp]
    refine Runs.cons trivial hz₂ (Runs.single ?_ hz₃)
    intro place hother b hb hb'
    cases hplace.symm.trans hother
    have hbelow := (among_iff.1 hb).2.2
    have habove := (among_iff.1 hb').2.1
    exact absurd (lt_of_le_of_lt habove hbelow) (by decide)
  exact ⟨z₃, z₄, written_value_is_read Sample.config .little haccess
    (Sample.permitted_of_allowed hwrites) hz₁ hspares haccess' (by rw [hbyte p hp, hbyte' p' hp'])
    (Sample.permitted_of_allowed hreads) hz₄⟩

end Cuddl
