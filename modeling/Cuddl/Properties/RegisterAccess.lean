import Cuddl.Foundation.Refinement
import Cuddl.Properties.NodeRegions

/-!
# An access to a region is an access to the device

In the runs that `IoPermitted` admits, every access through a mapped region reaches the bytes of the
device that the driver has described, at the offset that is given: the system does what the
registers do without virtual addresses, page tables and nodes (`registers_refined`).  `IoPermitted`
leaves out regions that end behind their mappings, names that are cut off in the path of a node, and
the removal of a device that somebody has claimed.
-/

namespace Cuddl

open Foundation.Machine Foundation.Paging Foundation.Words

/-! ## Mappings show regions -/

/-- The mapped region `r` shows the window. -/
structure Shows (cfg : Config) (pages : PageTable Int) (r : User.Memregion) (win : Window) :
    Prop where
  len : r.len.toNat = win.len
  start_le : r.paAddr.toNat ≤ r.addr.toNat
  le_stop : r.addr.toNat + r.len.toNat ≤ r.paAddr.toNat + r.paLen.toNat
  fits : r.paAddr.toNat + r.paLen.toNat < 2 ^ 64
  shows : ∀ o < win.len,
    translate (2 ^ cfg.pageShift) pages (r.addr.toNat + o) = some (win.start.shift o)

/-- Page `i` is one of the pages of the mapping. -/
def User.Memregion.OnPage (cfg : Config) (r : User.Memregion) (i : Nat) : Prop :=
  Touches (2 ^ cfg.pageShift) r.paAddr.toNat r.paLen.toNat i

/-- The mappings of a process are mapped, each on pages of its own. -/
structure Apart (cfg : Config) (p : IoProcess) : Prop where
  mapped : ∀ {v r i}, p.regions v = some r → r.OnPage cfg i → p.pages i ≠ none
  apart : ∀ {v v' r r' i}, p.regions v = some r → p.regions v' = some r' → v ≠ v' →
    r.OnPage cfg i → ¬ r'.OnPage cfg i

/-- What a process has, and what it is for. -/
structure Uses (cfg : Config) (p : IoProcess) (u : RegisterUser) : Prop where
  readings : u.readings = p.readings
  held : u.held = p.infos.map MemregionInfo.token
  regions : ∀ v, Option.Rel (Shows cfg p.pages) (p.regions v) (u.windows v)
  apart : Apart cfg p

section Mappings

variable {cfg : Config} {p : IoProcess} {u : RegisterUser} {r : User.Memregion} {win : Window}
  {v : Nat}

theorem Uses.start (cfg : Config) : Uses cfg IoProcess.start RegisterUser.start where
  readings := rfl
  held := rfl
  regions := fun _ => Option.Rel.none
  apart := ⟨fun h => (nomatch h), fun h _ => (nomatch h)⟩

/-- Only the mappings and the pages count. -/
theorem Apart.congr {p' : IoProcess} (h : Apart cfg p) (hregions : p'.regions = p.regions)
    (hpages : p'.pages = p.pages) : Apart cfg p' := by
  refine ⟨?_, ?_⟩
  · rw [hregions, hpages]
    exact h.mapped
  · rw [hregions]
    exact h.apart

/-- A region of the window has its bytes on pages of the mapping. -/
theorem Shows.onPage {pages : PageTable Int} (h : Shows cfg pages r win) {o : Nat}
    (ho : o < win.len) : r.OnPage cfg ((r.addr.toNat + o) / 2 ^ cfg.pageShift) := by
  have hlen := h.len
  have hle := h.start_le
  have hstop := h.le_stop
  exact touches_of_mem (by omega) (by omega)

theorem Shows.congr {pages pages' : PageTable Int} (h : Shows cfg pages r win)
    (hsame : ∀ a x, translate (2 ^ cfg.pageShift) pages a = some x →
      r.OnPage cfg (a / 2 ^ cfg.pageShift) → translate (2 ^ cfg.pageShift) pages' a = some x) :
    Shows cfg pages' r win :=
  ⟨h.len, h.start_le, h.le_stop, h.fits,
    fun o ho => hsame _ _ (h.shows o ho) (h.onPage ho)⟩

theorem Uses.window (h : Uses cfg p u) (hr : p.regions v = some r) :
    ∃ win, u.windows v = some win ∧ Shows cfg p.pages r win := by
  have hrel := h.regions v
  rw [hr] at hrel
  cases hwin : u.windows v with
  | none =>
      rw [hwin] at hrel
      cases hrel
  | some win =>
      rw [hwin] at hrel
      cases hrel with
      | some hshows => exact ⟨win, rfl, hshows⟩

theorem Uses.no_window (h : Uses cfg p u) (hr : p.regions v = none) : u.windows v = none := by
  have hrel := h.regions v
  rw [hr] at hrel
  cases hwin : u.windows v with
  | none => rfl
  | some win =>
      rw [hwin] at hrel
      cases hrel

/-- The pages of a new mapping were free, so they are no pages of the others. -/
theorem Apart.not_onPage (h : Apart cfg p) (hfresh : FreshMapping cfg p r) {r' : User.Memregion}
    {i : Nat} (hr' : p.regions v = some r') (hi' : r'.OnPage cfg i) : ¬ r.OnPage cfg i := by
  intro hi
  exact h.mapped hr' hi' (hfresh.free.apply (Nat.two_pow_pos _) hfresh.aligned hi)

theorem Apart.map (h : Apart cfg p) (hfresh : FreshMapping cfg p r) (v : Nat) (place : Place Int) :
    Apart cfg
      { p with
        regions := Function.update p.regions v (some r)
        pages := p.pages.map (2 ^ cfg.pageShift) r.paAddr.toNat r.paLen.toNat place } := by
  refine ⟨?_, ?_⟩
  · intro v' r' i hr' hi'
    show p.pages.map (2 ^ cfg.pageShift) r.paAddr.toNat r.paLen.toNat place i ≠ none
    by_cases htouch : r.OnPage cfg i
    · rw [PageTable.map_of_touches htouch]
      exact Option.some_ne_none _
    · rw [PageTable.map_of_not_touches htouch]
      by_cases hv : v' = v
      · subst hv
        simp only [Function.update_self, Option.some.injEq] at hr'
        subst hr'
        exact absurd hi' htouch
      · simp only [Function.update_of_ne hv] at hr'
        exact h.mapped hr' hi'
  · intro v₁ v₂ r₁ r₂ i hr₁ hr₂ hne hi₁ hi₂
    simp only at hr₁ hr₂
    by_cases hv₁ : v₁ = v
    · subst hv₁
      simp only [Function.update_self, Option.some.injEq] at hr₁
      subst hr₁
      rw [Function.update_of_ne (Ne.symm hne)] at hr₂
      exact h.not_onPage hfresh hr₂ hi₂ hi₁
    · rw [Function.update_of_ne hv₁] at hr₁
      by_cases hv₂ : v₂ = v
      · subst hv₂
        simp only [Function.update_self, Option.some.injEq] at hr₂
        subst hr₂
        exact h.not_onPage hfresh hr₁ hi₁ hi₂
      · rw [Function.update_of_ne hv₂] at hr₂
        exact h.apart hr₁ hr₂ hne hi₁ hi₂

theorem Apart.unmap (h : Apart cfg p) (hr : p.regions v = some r) (done : Bool) :
    Apart cfg
      { p with
        regions := Function.update p.regions v none
        pages :=
          if done then p.pages.unmap (2 ^ cfg.pageShift) r.paAddr.toNat r.paLen.toNat
          else p.pages } := by
  refine ⟨?_, ?_⟩
  · intro v' r' i hr' hi'
    simp only at hr'
    by_cases hv : v' = v
    · subst hv
      simp at hr'
    · rw [Function.update_of_ne hv] at hr'
      have hmapped := h.mapped hr' hi'
      cases done with
      | false => exact hmapped
      | true =>
          show p.pages.unmap (2 ^ cfg.pageShift) r.paAddr.toNat r.paLen.toNat i ≠ none
          rwa [PageTable.unmap_of_not_touches (h.apart hr' hr hv hi')]
  · intro v₁ v₂ r₁ r₂ i hr₁ hr₂ hne hi₁
    simp only at hr₁ hr₂
    by_cases hv₁ : v₁ = v
    · subst hv₁
      simp at hr₁
    · by_cases hv₂ : v₂ = v
      · subst hv₂
        simp at hr₂
      · rw [Function.update_of_ne hv₁] at hr₁
        rw [Function.update_of_ne hv₂] at hr₂
        exact h.apart hr₁ hr₂ hne hi₁

/-- A new mapping does not concern the others. -/
theorem Shows.map {r' : User.Memregion} (h : Shows cfg p.pages r' win)
    (hfresh : FreshMapping cfg p r) (place : Place Int) :
    Shows cfg (p.pages.map (2 ^ cfg.pageShift) r.paAddr.toNat r.paLen.toNat place) r' win := by
  apply h.congr
  intro a x hx _
  exact translate_map_of_some hx hfresh.free (Nat.two_pow_pos _) hfresh.aligned

/-- An unmapping takes away the pages of one mapping, or none. -/
theorem Shows.unmap {v' : Nat} {r' : User.Memregion} (h : Shows cfg p.pages r' win)
    (hapart : Apart cfg p) (hr : p.regions v = some r) (hr' : p.regions v' = some r') (hne : v' ≠ v)
    (done : Bool) :
    Shows cfg
      (if done then p.pages.unmap (2 ^ cfg.pageShift) r.paAddr.toNat r.paLen.toNat else p.pages)
      r' win := by
  cases done with
  | false => exact h
  | true =>
      apply h.congr
      intro a x hx hi'
      simp only [if_true]
      rw [translate_unmap (hapart.apart hr' hr hne hi'), hx]

theorem Uses.map (h : Uses cfg p u) {place : Place Int} (hfresh : FreshMapping cfg p r)
    (hshows : Shows cfg
      (p.pages.map (2 ^ cfg.pageShift) r.paAddr.toNat r.paLen.toNat place) r win) :
    Uses cfg
      { p with
        regions := Function.update p.regions v (some r)
        pages := p.pages.map (2 ^ cfg.pageShift) r.paAddr.toNat r.paLen.toNat place }
      { u with windows := Function.update u.windows v (some win) } := by
  refine ⟨h.readings, h.held, ?_, h.apart.map hfresh v place⟩
  intro v'
  by_cases hv : v' = v
  · subst hv
    simp only [Function.update_self]
    exact Option.Rel.some hshows
  · simp only [Function.update_of_ne hv]
    cases hr' : p.regions v' with
    | none =>
        rw [h.no_window hr']
        exact Option.Rel.none
    | some r' =>
        rcases h.window hr' with ⟨win', hwin', hshows'⟩
        rw [hwin']
        exact Option.Rel.some (hshows'.map hfresh place)

theorem Uses.unmap (h : Uses cfg p u) (hr : p.regions v = some r) (done : Bool) :
    Uses cfg
      { p with
        regions := Function.update p.regions v none
        pages :=
          if done then p.pages.unmap (2 ^ cfg.pageShift) r.paAddr.toNat r.paLen.toNat
          else p.pages }
      { u with windows := Function.update u.windows v none } := by
  refine ⟨h.readings, h.held, ?_, h.apart.unmap hr done⟩
  intro v'
  by_cases hv : v' = v
  · subst hv
    simp only [Function.update_self]
    exact Option.Rel.none
  · simp only [Function.update_of_ne hv]
    cases hr' : p.regions v' with
    | none =>
        rw [h.no_window hr']
        exact Option.Rel.none
    | some r' =>
        rcases h.window hr' with ⟨win', hwin', hshows'⟩
        rw [hwin']
        exact Option.Rel.some (hshows'.unmap h.apart hr hr' hv done)

/-- A word of a region is where its window has it. -/
theorem Shows.deref {pages : PageTable Int} (h : Shows cfg pages r win) {w : Width}
    {offset : UInt64} (hwithin : r.Within w offset) :
    User.deref cfg pages w (r.at offset) = some (win.start.shift offset.toNat) := by
  rcases hwithin with ⟨hend, halign⟩
  have hpos := w.bytes_pos
  have hlen := h.len
  have hstop := h.le_stop
  have hfits := h.fits
  have haddr : (r.at offset).toNat = r.addr.toNat + offset.toNat := by
    show (r.addr + offset).toNat = _
    rw [UInt64.toNat_add]
    exact Nat.mod_eq_of_lt (by omega)
  rw [User.deref, if_pos halign, haddr]
  exact h.shows _ (by omega)

end Mappings

/-- What `cuddl_memregion_map` fills in, and when. -/
theorem memregionMap_cases (info : MemregionInfo) (out : User.MapOutcome) :
    (User.AttachOutcome.fails (k := .memregion) out = true ∧
        (User.memregionMap info out).2 = none) ∨
      (User.AttachOutcome.fails (k := .memregion) out = false ∧
        ∃ r, (User.memregionMap info out).2 = some r ∧ r.addr = r.paAddr + info.startOffset ∧
          r.len = info.len ∧ r.paLen = info.paLen) := by
  rcases out with ⟨opened, mmap⟩
  cases opened with
  | error e => exact Or.inl ⟨rfl, rfl⟩
  | ok fd =>
      cases mmap with
      | error e => exact Or.inl ⟨rfl, rfl⟩
      | ok addr => exact Or.inr ⟨rfl, _, rfl, rfl, rfl, rfl⟩

/-- A mapping of the node that a claim names shows the region that the claim names. -/
theorem shows_of_map {cfg : Config} {s : KernelState} {n : Nodes} {info : MemregionInfo}
    {r : User.Memregion} {p : IoProcess} (hwired : Wired cfg s n) (hpage : cfg.pageShift < 62)
    (hcur : Current cfg s info) (haddr : r.addr = r.paAddr + info.startOffset)
    (hlen : r.len = info.len) (hpaLen : r.paLen = info.paLen) (hfresh : FreshMapping cfg p r)
    {node : NodeMap} (hpath : node.path = info.deviceName)
    (hoffset : node.offset cfg = info.paMmapOffset) {place : Place Int}
    (hplace : n.place node = some place) :
    ∃ win, s.window info.token = some win ∧
      Shows cfg (p.pages.map (2 ^ cfg.pageShift) r.paAddr.toNat r.paLen.toNat place) r win := by
  rcases hcur with ⟨q, rt, hq, hinfo⟩
  have hplace' := place_of_current hwired hpage hq hinfo hpath hoffset hplace
  have hsized := (hwired.registered _ q hq).sized info.token.resourceIndex
  -- the sizes in the claim are those of the region
  let m := (s.heap q).mem info.token.resourceIndex
  have hstart : info.startOffset = m.startOffset := by rw [hinfo]; rfl
  have hlen' : r.len = m.len := by rw [hlen, hinfo]; rfl
  have hpaLen' : r.paLen = m.paLen := by rw [hpaLen, hinfo]; rfl
  have hsized' : m.startOffset.toNat + r.len.toNat ≤ r.paLen.toNat := by
    rw [hlen', hpaLen']
    exact hsized
  have hfits := hfresh.fits
  have haddr' : r.addr.toNat = r.paAddr.toNat + m.startOffset.toNat := by
    rw [haddr, hstart, UInt64.toNat_add]
    exact Nat.mod_eq_of_lt (by omega)
  refine ⟨m.window, by simp [KernelState.window, hq, m], ?_⟩
  refine ⟨by rw [hlen']; rfl, by omega, by omega, hfits, ?_⟩
  intro o ho
  have ho' : o < r.len.toNat := by
    rw [hlen']
    exact ho
  rw [translate_map hfresh.aligned (by omega) (by omega), hplace']
  -- the offset in the mapping is that of the region and that in the region
  have hinto : r.addr.toNat + o - r.paAddr.toNat = m.startOffset.toNat + o := by omega
  rw [hinto]
  simp [Place.shift, Memregion.window, m, Nat.add_assoc]

/-! ## The system does what the registers do -/

/-- The registers `y` are what the system `x` is for. -/
structure Realizes {D : Type} (cfg : Config) (x : IoHost D) (y : RegisterFile D) : Prop where
  kernel : y.kernel = x.kernel
  device : y.device = x.device
  wired : Wired cfg x.kernel x.nodes
  current : ∀ pid, ∀ info ∈ (x.procs pid).infos, Current cfg x.kernel info
  users : ∀ pid, Uses cfg (x.procs pid) (y.users pid)

section System

variable {D : Type} {cfg : Config} {bus : Bus (Place Int) D} {x x' : IoHost D} {y : RegisterFile D}
  {pid : Pid} {p : IoProcess} {u : RegisterUser}

theorem Realizes.start (cfg : Config) {s : KernelState} (hfresh : s.Fresh) (d : D) :
    Realizes cfg (IoHost.start s d) (RegisterFile.start s d) where
  kernel := rfl
  device := rfl
  wired := Wired.start hfresh
  current := fun _ _ h => by simp [IoHost.start, IoProcess.start] at h
  users := fun _ => Uses.start cfg

theorem Realizes.put (h : Realizes cfg x y) (huses : Uses cfg p u)
    (hcur : ∀ info ∈ p.infos, Current cfg x.kernel info) :
    Realizes cfg (x.put pid p) (y.put pid u) where
  kernel := h.kernel
  device := h.device
  wired := h.wired
  current := fun q => by
    by_cases hq : q = pid
    · subst hq
      simpa [IoHost.put] using hcur
    · simpa [IoHost.put, hq] using h.current q
  users := fun q => by
    by_cases hq : q = pid
    · subst hq
      simpa [IoHost.put, RegisterFile.put] using huses
    · simpa [IoHost.put, RegisterFile.put, hq] using h.users q

theorem Realizes.request (h : Realizes cfg x y) {s : KernelState} (hshape : SameShape x.kernel s) :
    Realizes cfg { x with kernel := s } { y with kernel := s } where
  kernel := rfl
  device := h.device
  wired := h.wired.sameShape hshape
  current := fun q info hinfo => (h.current q info hinfo).sameShape hshape
  users := h.users

theorem Realizes.access (h : Realizes cfg x y) (d : D) :
    Realizes cfg { x with device := d } { y with device := d } :=
  ⟨h.kernel, rfl, h.wired, h.current, h.users⟩

/-- An action of the system is matched by the registers. -/
theorem Realizes.step (hpage : cfg.pageShift < 62) (h : Realizes cfg x y) {a : IoOp}
    (hp : IoPermitted cfg x a) (hexec : hostExec cfg bus a x = some x') :
    ∃ y', registersExec cfg bus a y = some y' ∧ Realizes cfg x' y' := by
  rcases y with ⟨s, users, d⟩
  rcases h with ⟨rfl, rfl, hwired, hcurrent, husers⟩
  have h : Realizes cfg x ⟨x.kernel, users, x.device⟩ := ⟨rfl, rfl, hwired, hcurrent, husers⟩
  cases a with
  | kernel a =>
      rcases hp with ⟨hturn, hprepared, hkept⟩
      rcases Option.bind_eq_some_iff.1 hexec with ⟨s', hs', hrest⟩
      rcases Option.map_eq_some_iff.1 hrest with ⟨n', hn', rfl⟩
      refine ⟨⟨s', users, x.device⟩, by simp [registersExec, hs'], rfl, rfl, ?_, ?_, husers⟩
      · exact hwired.exec hturn hprepared hs' hn'
      · intro q info hinfo
        exact (hcurrent q info hinfo).exec hturn
          (fun p out ha => hkept p out ha q info hinfo) hs'
  | claim q rt id options io sys =>
      rcases Option.map_eq_some_iff.1 hexec with ⟨call, hcall, rfl⟩
      have hshape := sameShape_of_call hcall
      refine ⟨_, by simp only [registersExec, hcall, Option.map_some]; rfl, ?_⟩
      refine (h.request hshape).put ?_ ?_
      · have huses := husers q
        refine ⟨huses.readings, ?_, huses.regions, huses.apart.congr rfl rfl⟩
        show _ ++ (users q).held = _
        rw [huses.held, List.map_append]
        cases call.memregionInfo? <;> rfl
      · intro info hinfo
        rcases List.mem_append.1 hinfo with hnew | hold
        · exact current_of_claim hcall (Option.mem_toList.1 hnew)
        · exact (hcurrent q info hold).sameShape hshape
  | release q n rt io sys =>
      rcases Option.bind_eq_some_iff.1 hexec with ⟨info, hinfo, hrest⟩
      rcases Option.map_eq_some_iff.1 hrest with ⟨call, hcall, rfl⟩
      have hshape := sameShape_of_call hcall
      have huses := husers q
      have htoken : (users q).held[n]? = some info.token := by
        rw [huses.held, List.getElem?_map, hinfo]
        rfl
      refine ⟨_, by simp only [registersExec, htoken, Option.bind_some, hcall,
        Option.map_some]; rfl, ?_⟩
      refine (h.request hshape).put ?_ ?_
      · refine ⟨huses.readings, ?_, huses.regions, huses.apart.congr rfl rfl⟩
        show (users q).held.eraseIdx n = _
        rw [huses.held, List.eraseIdx_map]
      · intro info' hinfo'
        exact (hcurrent q info' (List.mem_of_mem_eraseIdx hinfo')).sameShape hshape
  | map q v n node out =>
      rcases Option.bind_eq_some_iff.1 hexec with ⟨info, hinfo, hrest⟩
      have huses := husers q
      have htoken : (users q).held[n]? = some info.token := by
        rw [huses.held, List.getElem?_map, hinfo]
        rfl
      rcases memregionMap_cases info out with
        ⟨hfails, hnone⟩ | ⟨hfails, r, hr, haddr, hlen, hpaLen⟩
      · rw [hnone] at hrest
        cases hrest
        exact ⟨_, by simp only [registersExec, htoken, Option.bind_some, hfails, if_true], h⟩
      · rw [hr] at hrest
        rcases Option.map_eq_some_iff.1 hrest with ⟨place, hplace, rfl⟩
        rcases hp info r hinfo hr with ⟨hpath, hoffset, hfresh⟩
        rcases shows_of_map hwired hpage (hcurrent q info (List.mem_of_getElem? hinfo)) haddr hlen
          hpaLen hfresh hpath hoffset hplace with ⟨win, hwin, hshows⟩
        refine ⟨_, by simp only [registersExec, htoken, Option.bind_some, hfails, hwin,
          Bool.false_eq_true, if_false, Option.map_some]; rfl, ?_⟩
        exact h.put (huses.map hfresh hshows) (hcurrent q)
  | unmap q v munmap =>
      rcases Option.map_eq_some_iff.1 hexec with ⟨r, hr, rfl⟩
      rcases (husers q).window hr with ⟨win, (hwin : (users q).windows v = some win), _⟩
      refine ⟨_, by simp only [registersExec, hwin, Option.map_some]; rfl, ?_⟩
      exact h.put ((husers q).unmap hr munmap.isNone) (hcurrent q)
  | read q v w offset =>
      rcases hp with ⟨r, hr, hwithin⟩
      rcases (husers q).window hr with ⟨win, (hwin : (users q).windows v = some win), hshows⟩
      simp only [hostExec, hr, Option.bind_some, User.memregionIoread_eq, User.ioread,
        hshows.deref hwithin, Option.map_some, Option.some.injEq] at hexec
      refine ⟨_, by simp only [registersExec, hwin, Option.map_some]; rfl, ?_⟩
      rw [← hexec]
      refine (h.access _).put ?_ (hcurrent q)
      have huses := husers q
      exact ⟨congrArg (List.cons _) huses.readings, huses.held, huses.regions,
        huses.apart.congr rfl rfl⟩
  | write q v w offset value =>
      rcases hp with ⟨r, hr, hwithin⟩
      rcases (husers q).window hr with ⟨win, (hwin : (users q).windows v = some win), hshows⟩
      simp only [hostExec, hr, Option.bind_some, User.memregionIowrite_eq, User.iowrite,
        hshows.deref hwithin, Option.map_some, Option.some.injEq] at hexec
      refine ⟨_, by simp only [registersExec, hwin, Option.map_some]; rfl, ?_⟩
      rw [← hexec]
      exact h.access _

theorem Realizes.of_runs (hpage : cfg.pageShift < 62) {s₀ : KernelState} (hfresh : s₀.Fresh)
    {d : D} {ops : List IoOp}
    (hrun : Runs (hostExec cfg bus) (IoPermitted cfg) (IoHost.start s₀ d) ops x) :
    ∃ y, Runs (registersExec cfg bus) (fun _ _ => True) (RegisterFile.start s₀ d) ops y ∧
      Realizes cfg x y := by
  refine hrun.refines (Realizes.start cfg hfresh d) ?_
  intro x x' y a h hp hexec
  rcases h.step hpage hp hexec with ⟨y', hstep, h'⟩
  exact ⟨trivial, y', hstep, h'⟩

/-- A permitted access does not fault. -/
theorem Realizes.no_fault (h : Realizes cfg x y) {v : Nat} {w : Width} {offset : UInt64}
    {r : User.Memregion} (hr : (x.procs pid).regions v = some r) (hwithin : r.Within w offset) :
    (hostExec cfg bus (.read pid v w offset) x).isSome ∧
      ∀ value, (hostExec cfg bus (.write pid v w offset value) x).isSome := by
  rcases (h.users pid).window hr with ⟨win, _, hshows⟩
  have hderef := hshows.deref hwithin
  refine ⟨?_, fun value => ?_⟩
  · simp [hostExec, hr, User.memregionIoread_eq, User.ioread, hderef]
  · simp [hostExec, hr, User.memregionIowrite_eq, User.iowrite, hderef]

end System

/-- As long as every region ends inside its mapping, unique names have at most 237 characters and no
device is removed that a process has claimed (`IoPermitted`), the accesses through mapped regions do
what accesses to the described regions of the devices do, in the same order and with the same
results; and none of them faults. -/
theorem registers_refined {D : Type} (cfg : Config) (bus : Bus (Place Int) D)
    (hpage : cfg.pageShift < 62) {s₀ : KernelState} (hfresh : s₀.Fresh) {d : D} {ops : List IoOp}
    {x : IoHost D}
    (hrun : Runs (hostExec cfg bus) (IoPermitted cfg) (IoHost.start s₀ d) ops x) :
    (∃ y, Runs (registersExec cfg bus) (fun _ _ => True) (RegisterFile.start s₀ d) ops y ∧
      y.kernel = x.kernel ∧ y.device = x.device ∧
      ∀ pid, (y.users pid).readings = (x.procs pid).readings) ∧
    ∀ pid v w offset r, (x.procs pid).regions v = some r → r.Within w offset →
      (hostExec cfg bus (.read pid v w offset) x).isSome ∧
        ∀ value, (hostExec cfg bus (.write pid v w offset value) x).isSome := by
  rcases Realizes.of_runs hpage hfresh hrun with ⟨y, hfile, h⟩
  refine ⟨⟨y, hfile, h.kernel, h.device, fun pid => (h.users pid).readings⟩, ?_⟩
  intro pid v w offset r hr hwithin
  exact h.no_fault hr hwithin

namespace Sample

/-- The actions that `IoPermitted` allows, as far as the runs below have them. -/
def allowed {D : Type} (cfg : Config) (x : IoHost D) : IoOp → Bool
  | .kernel (.manage p out) =>
      decide (InTurn x.kernel (.manage p out)) &&
        decide ((x.kernel.heap p).Sized cfg) &&
        decide (((deviceManage cfg x.kernel p out).state.heap p).uniqueNameD.length ≤ 237)
  | .kernel _ => false
  | .map pid _ n node out =>
      (x.procs pid).infos[n]?.all fun info =>
        (User.memregionMap info out).2.all fun r =>
          decide (node.path = info.deviceName ∧ node.offset cfg = info.paMmapOffset ∧
            FreshMapping cfg (x.procs pid) r)
  | .read pid v w offset => ((x.procs pid).regions v).any fun r => decide (r.Within w offset)
  | .write pid v w offset _ => ((x.procs pid).regions v).any fun r => decide (r.Within w offset)
  | _ => true

theorem permitted_of_allowed {D : Type} {cfg : Config} {x : IoHost D} {a : IoOp}
    (h : allowed cfg x a = true) : IoPermitted cfg x a := by
  have haccess : ∀ {pid v w offset}, (((x.procs pid).regions v).any fun r =>
      decide (r.Within w offset)) = true →
      ∃ r, (x.procs pid).regions v = some r ∧ r.Within w offset := by
    intro pid v w offset hany
    rcases (Option.any_eq_true _ _).1 hany with ⟨r, hr, hwithin⟩
    exact ⟨r, hr, of_decide_eq_true hwithin⟩
  cases a with
  | kernel a =>
      cases a with
      | manage p out =>
          simp only [allowed, Bool.and_eq_true, decide_eq_true_eq] at h
          refine ⟨h.1.1, ?_, fun _ _ ha => nomatch ha⟩
          rintro q out' ha
          cases ha
          exact ⟨h.1.2, h.2⟩
      | _ => cases h
  | map pid v n node out =>
      intro info r hinfo hr
      simp only [allowed, hinfo, hr, Option.all_some, decide_eq_true_eq] at h
      exact h
  | claim => trivial
  | release => trivial
  | unmap => trivial
  | read => exact haccess h
  | write => exact haccess h

/-- Zeroed memory behind every address. -/
def memory : Memory Int :=
  fun _ => 0

abbrev ioExec : IoOp → IoHost (Memory Int) → Option (IoHost (Memory Int)) :=
  hostExec config (memoryBus .little)

/-- Device 0 is managed, and processes 1 and 2 claim its region, the second one with force. -/
def claimedTwice : List IoOp :=
  [.kernel (.manage 0 registered), .claim 1 false ⟨[], [], [], 0⟩ 0 noFaults ⟨none, none⟩,
    .claim 2 false ⟨[], [], [], 0⟩ claimfHostile noFaults ⟨none, none⟩]

/-- Process `pid` maps its claim at `base`. -/
def mapAt (pid : Pid) (base : UInt64) : IoOp :=
  .map pid 0 0 (.uio 0 0) ⟨.ok 3, .ok base⟩

def writeWord : IoOp :=
  .write 1 0 .word 8 0xdeadbeef

/-- Process 1 unmaps the region, and process 2 writes elsewhere in it. -/
def meanwhile : List IoOp :=
  [.unmap 1 0 none, .write 2 0 .half 12 7]

def readWord : IoOp :=
  .read 2 0 .word 8

def sharedRun : List IoOp :=
  claimedTwice ++ [mapAt 1 65536, mapAt 2 131072, writeWord] ++ meanwhile ++ [readWord]

/-- A computed run is a permitted run. -/
theorem runs_of_allowed {ops : List IoOp} {x x' : IoHost (Memory Int)}
    (h : run ioExec (fun x a => allowed config x a = true) ops x = some x') :
    Runs ioExec (IoPermitted config) x ops x' :=
  (runs_of_run h).weaken fun _ _ => permitted_of_allowed

end Sample

theorem registers_refined_sharedRun :
    ∃ x y, Runs Sample.ioExec (IoPermitted Sample.config)
        (IoHost.start Sample.kernel Sample.memory) Sample.sharedRun x ∧
      Runs (registersExec Sample.config (memoryBus .little)) (fun _ _ => True)
        (RegisterFile.start Sample.kernel Sample.memory) Sample.sharedRun y ∧
      (y.users 2).readings = [⟨.word, 0xdeadbeef⟩] := by
  have hrun : (run Sample.ioExec (fun x a => Sample.allowed Sample.config x a = true)
      Sample.sharedRun (IoHost.start Sample.kernel Sample.memory)).any (fun x =>
        decide ((x.procs 2).readings = [⟨.word, 0xdeadbeef⟩])) = true := by
    decide +kernel
  rcases (Option.any_eq_true _ _).1 hrun with ⟨x, hx, hreadings⟩
  have hruns := Sample.runs_of_allowed hx
  rcases registers_refined Sample.config (memoryBus .little) (by decide) Sample.kernel_fresh hruns
    with ⟨⟨y, hy, _, _, hsame⟩, _⟩
  exact ⟨x, y, hruns, hy, (hsame 2).trans (of_decide_eq_true hreadings)⟩

end Cuddl
