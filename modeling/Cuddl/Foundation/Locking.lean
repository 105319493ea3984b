import Mathlib.Logic.Function.Basic
import Cuddl.Foundation.Machine
import Cuddl.Foundation.Programs

/-!
# Threads under one lock

Threads run programs of one critical section of the lock `g`, and interleave at every single access
(`World`, `stepWorld`).

* `Sim` relates such a world to one in which every call happens at once (`Atomic`);
  `simulates` is the refinement, with the same history of calls and returns.
* `reachable_shared` reads the atomic world as a run of the calls, so that an invariant of these
  runs holds whenever `g` is free (`reachable_of_free`).
* `progress` and `lock_is_released` say that the locks block nobody for ever.
-/

namespace Foundation
namespace Locking

open Machine

variable {L S T C R : Type*}

/-! ## Interleaved threads -/

/-- What an observer sees: who called what, and who got which answer. -/
inductive Event (T C R : Type*)
  | call (t : T) (c : C)
  | ret (t : T) (r : R)

/-- Shared memory, the locks, and for each thread the call it is in with the rest of its program. -/
structure World (L S T C R : Type*) where
  shared : S
  owner : L → Option T
  thread : T → Option (C × Prog L S R)
  history : List (Event T C R)

inductive Act (T C : Type*)
  | call (t : T) (c : C)
  /-- The thread makes its next access, or returns. -/
  | step (t : T)

def World.start (s : S) : World L S T C R :=
  ⟨s, fun _ => none, fun _ => none, []⟩

variable [DecidableEq L] [DecidableEq T]

def World.put (w : World L S T C R) (t : T) (x : Option (C × Prog L S R)) : World L S T C R :=
  { w with thread := Function.update w.thread t x }

/-- One step of a thread that is in a call; `none` when it has to wait, or has crashed. -/
def stepThread (w : World L S T C R) (t : T) (c : C) : Prog L S R → Option (World L S T C R)
  | .ret r => some { w.put t none with history := w.history ++ [.ret t r] }
  | .crash => none
  | .read k => some (w.put t (some (c, k w.shared)))
  | .write f k => some { w.put t (some (c, k)) with shared := f w.shared }
  | .lock l k =>
      if w.owner l = none then
        some { w.put t (some (c, k)) with owner := Function.update w.owner l (some t) }
      else none
  | .unlock l k =>
      if w.owner l = some t then
        some { w.put t (some (c, k)) with owner := Function.update w.owner l none }
      else none

def stepWorld (code : C → Prog L S R) : Act T C → World L S T C R → Option (World L S T C R)
  | .call t c, w =>
      if (w.thread t).isNone then
        some { w.put t (some (c, code c)) with history := w.history ++ [.call t c] }
      else none
  | .step t, w => (w.thread t).bind fun x => stepThread w t x.1 x.2

/-- The guard on a call is read at the moment at which it enters its critical section. -/
def Entering (g : L) (G : S → C → Prop) (w : World L S T C R) : Act T C → Prop
  | .call _ _ => True
  | .step t => ∀ c k, w.thread t = some (c, .lock g k) → G w.shared c

/-! ## Calls that happen at once -/

inductive Phase (C R : Type*)
  | called (c : C)
  | done (r : R)

structure Atomic (S T C R : Type*) where
  shared : S
  thread : T → Option (Phase C R)
  history : List (Event T C R)

inductive AtomicAct (T C : Type*)
  | call (t : T) (c : C)
  | execute (t : T)
  | ret (t : T)

def Atomic.start (s : S) : Atomic S T C R :=
  ⟨s, fun _ => none, []⟩

def Atomic.put (a : Atomic S T C R) (t : T) (x : Option (Phase C R)) : Atomic S T C R :=
  { a with thread := Function.update a.thread t x }

/-- `sem c s` is the answer of the call `c` in state `s`, and the state after it. -/
def stepAtomic (sem : C → S → Option (R × S)) : AtomicAct T C → Atomic S T C R →
    Option (Atomic S T C R)
  | .call t c, a =>
      match a.thread t with
      | none => some { a.put t (some (.called c)) with history := a.history ++ [.call t c] }
      | some _ => none
  | .execute t, a =>
      match a.thread t with
      | some (.called c) =>
          (sem c a.shared).map fun x => { a.put t (some (.done x.1)) with shared := x.2 }
      | _ => none
  | .ret t, a =>
      match a.thread t with
      | some (.done r) => some { a.put t none with history := a.history ++ [.ret t r] }
      | _ => none

/-- The call returns without looking at the state. -/
def Silent (sem : C → S → Option (R × S)) (c : C) : Prop :=
  ∃ r, ∀ s, sem c s = some (r, s)

/-- The guard on a call is read when the call happens. -/
def Executing (sem : C → S → Option (R × S)) (G : S → C → Prop) (a : Atomic S T C R) :
    AtomicAct T C → Prop
  | .execute t => ∀ c, a.thread t = some (.called c) → Silent sem c ∨ G a.shared c
  | _ => True

/-! ## The refinement -/

/-- What the calls do when they are run alone. -/
def meaning (code : C → Prog L S R) (c : C) : S → Option (R × S) :=
  (code c).run

/-- A thread outside the critical sections, and where its call stands in the atomic world. -/
inductive Outside (code : C → Prog L S R) :
    Option (C × Prog L S R) → Option (Phase C R) → Prop
  | idle : Outside code none none
  | waiting (c : C) : Outside code (some (c, code c)) (some (.called c))
  | left (c : C) (r : R) : Outside code (some (c, .ret r)) (some (.done r))

/-- Thread `t` holds `g` and has `p` left to run of its call `c`.  In the atomic world the call
has not happened yet. -/
structure Inside (g : L) (code : C → Prog L S R) (G : S → C → Prop) (w : World L S T C R)
    (a : Atomic S T C R) (t : T) (c : C) (p : Prog L S R) (held : List L) : Prop where
  thread : w.thread t = some (c, p)
  phase : a.thread t = some (.called c)
  guard : G a.shared c
  nested : Nested g (Leaves g) held p
  owner : ∀ l, l ≠ g → w.owner l = if l ∈ held then some t else none
  run : p.run w.shared = (code c).run a.shared

structure Sim (g : L) (code : C → Prog L S R) (G : S → C → Prop) (w : World L S T C R)
    (a : Atomic S T C R) : Prop where
  history : a.history = w.history
  outside : ∀ t, w.owner g ≠ some t → Outside code (w.thread t) (a.thread t)
  free : w.owner g = none → a.shared = w.shared ∧ ∀ l, w.owner l = none
  inside : ∀ t, w.owner g = some t → ∃ c p held, Inside g code G w a t c p held

/-- From `a` the atomic world can reach a world that stands for `w`. -/
def Follows (g : L) (code : C → Prog L S R) (G : S → C → Prop) (w : World L S T C R)
    (a : Atomic S T C R) : Prop :=
  ∃ a', Reachable (stepAtomic (meaning code)) (Executing (meaning code) G) a a' ∧
    Sim g code G w a'

variable {g : L} {code : C → Prog L S R} {G : S → C → Prop} {w w' : World L S T C R}
  {a : Atomic S T C R}

omit [DecidableEq T] in
theorem Sim.start (s : S) : Sim g code G (World.start s : World L S T C R) (Atomic.start s) where
  history := rfl
  outside := fun _ _ => .idle
  free := fun _ => ⟨rfl, fun _ => rfl⟩
  inside := fun t h => by cases h

/-- The threads other than `t` are where they were, and `t` is outside. -/
theorem Sim.outside_put (h : Sim g code G w a) {t : T} {x : Option (C × Prog L S R)}
    {y : Option (Phase C R)} (hxy : Outside code x y) (u : T)
    (hu : u ≠ t → w.owner g ≠ some u) :
    Outside code ((w.put t x).thread u) ((a.put t y).thread u) := by
  by_cases hut : u = t
  · subst hut
    simpa [World.put, Atomic.put] using hxy
  · simpa [World.put, Atomic.put, hut] using h.outside u (hu hut)

/-- A thread that is outside does something that is not a step into its critical section. -/
theorem Sim.put (h : Sim g code G w a) {t : T} {x : Option (C × Prog L S R)}
    {y : Option (Phase C R)} (hxy : Outside code x y) (ht : w.owner g ≠ some t)
    (e : List (Event T C R)) :
    Sim g code G { w.put t x with history := w.history ++ e }
      { a.put t y with history := a.history ++ e } where
  history := by simp [h.history]
  outside := fun u hu => h.outside_put hxy u fun _ => hu
  free := h.free
  inside := by
    intro u hu
    rcases h.inside u hu with ⟨c, p, held, hin⟩
    have hut : u ≠ t := by
      rintro rfl
      exact ht hu
    refine ⟨c, p, held, ?_, ?_, hin.guard, hin.nested, hin.owner, hin.run⟩
    · simpa [World.put, hut] using hin.thread
    · simpa [Atomic.put, hut] using hin.phase

omit [DecidableEq T] in
/-- The thread that holds `g` makes a step and keeps it. -/
theorem Sim.stay (h : Sim g code G w a) {t : T} {c : C} {p : Prog L S R} {held : List L}
    (ht : w.owner g = some t) (hhistory : w'.history = w.history)
    (hthread : ∀ u, u ≠ t → w'.thread u = w.thread u) (ht' : w'.owner g = some t)
    (hin : Inside g code G w' a t c p held) : Sim g code G w' a where
  history := h.history.trans hhistory.symm
  outside := by
    intro u hu
    have hut : u ≠ t := by
      rintro rfl
      exact hu ht'
    rw [hthread u hut]
    refine h.outside u ?_
    rw [ht]
    exact fun heq => hut (Option.some.inj heq).symm
  free := fun hfree => by simp [ht'] at hfree
  inside := by
    intro u hu
    have hut : u = t := Option.some.inj (hu.symm.trans ht')
    subst hut
    exact ⟨c, p, held, hin⟩

omit [DecidableEq L] [DecidableEq T] in
theorem Outside.thread_none {x : Option (C × Prog L S R)} {y : Option (Phase C R)}
    (h : Outside code x y) (hx : x = none) : y = none := by
  cases h with
  | idle => rfl
  | waiting c => cases hx
  | left c r => cases hx

omit [DecidableEq T] in
/-- A thread that is in no call does not hold `g`. -/
theorem Sim.not_owner (h : Sim g code G w a) {t : T} (ht : w.thread t = none) :
    w.owner g ≠ some t := by
  intro howner
  rcases h.inside t howner with ⟨c, p, held, hin⟩
  have hthread := hin.thread
  rw [ht] at hthread
  cases hthread

theorem simulates_call (h : Sim g code G w a) {t : T} {c : C}
    (hstep : stepWorld code (.call t c) w = some w') :
    Follows g code G w' a := by
  simp only [stepWorld] at hstep
  split at hstep
  · rename_i hnone
    have ht : w.thread t = none := Option.isNone_iff_eq_none.1 hnone
    have howner := h.not_owner ht
    have hphase : a.thread t = none := (h.outside t howner).thread_none ht
    cases hstep
    refine ⟨_, (Reachable.refl a).tail (a := .call t c) trivial ?_,
      h.put (.waiting c) howner [.call t c]⟩
    simp [stepAtomic, hphase]
  · cases hstep

/-- A thread outside returns, or enters its critical section. -/
theorem simulates_outside (hcode : ∀ c, OneSection g (code c)) (h : Sim g code G w a) {t : T}
    (ht : w.owner g ≠ some t) (hguard : Entering g G w (.step t))
    (hstep : stepWorld code (.step t) w = some w') :
    Follows g code G w' a := by
  have hout := h.outside t ht
  simp only [stepWorld] at hstep
  generalize hx : w.thread t = x at hout hstep
  generalize hy : a.thread t = y at hout
  cases hout with
  | idle => cases hstep
  | waiting c =>
      have hc := hcode c
      generalize hp : code c = p at hc hx hstep
      cases hc with
      | ret r =>
          -- the call touches nothing: it happens when it returns
          cases hstep
          have hsilent : ∀ s, meaning code c s = some (r, s) := by
            intro s
            rw [meaning, hp]
            rfl
          have hexecute : stepAtomic (meaning code) (.execute t) a =
              some (a.put t (some (.done r))) := by
            simp [stepAtomic, hy, hsilent a.shared, Atomic.put]
          have hret : stepAtomic (meaning code) (.ret t) (a.put t (some (.done r))) =
              some { a.put t none with history := a.history ++ [.ret t r] } := by
            simp [stepAtomic, Atomic.put]
          refine ⟨_, ((Reachable.refl a).tail ?_ hexecute).tail (a := .ret t) trivial hret,
            h.put .idle ht [.ret t r]⟩
          intro c' hc'
          rw [hy] at hc'
          cases hc'
          exact Or.inl ⟨r, hsilent⟩
      | @enter k hk =>
          simp only [Option.bind_some, stepThread] at hstep
          split at hstep
          · rename_i hfree
            cases hstep
            rcases h.free hfree with ⟨hshared, hlocks⟩
            have hin : Inside g code G { w.put t (some (c, k)) with
                owner := Function.update w.owner g (some t) } a t c k [] := by
              refine ⟨by simp [World.put], hy, ?_, hk, ?_, ?_⟩
              · rw [hshared]
                exact hguard c k hx
              · intro l hl
                simp [hl, hlocks l]
              · rw [hp, hshared]
                rfl
            refine ⟨a, Reachable.refl a, ?_, ?_, ?_, ?_⟩
            · exact h.history
            · intro u hu
              have hut : u ≠ t := by
                rintro rfl
                simp at hu
              simpa [World.put, hut] using h.outside u (by simp [hfree])
            · intro hnone
              simp at hnone
            · intro u hu
              have hut : t = u := by simpa using hu
              subst hut
              exact ⟨c, k, [], hin⟩
          · cases hstep
  | left c r =>
      cases hstep
      have hret : stepAtomic (meaning code) (.ret t) a =
          some { a.put t none with history := a.history ++ [.ret t r] } := by
        simp [stepAtomic, hy]
      exact ⟨_, (Reachable.refl a).tail (a := .ret t) trivial hret, h.put .idle ht [.ret t r]⟩

/-- The thread that holds `g` steps; the call happens when it releases `g`. -/
theorem simulates_inside (h : Sim g code G w a) {t : T} (ht : w.owner g = some t)
    (hstep : stepWorld code (.step t) w = some w') :
    Follows g code G w' a := by
  rcases h.inside t ht with ⟨c, p, held, hin⟩
  rcases hin with ⟨hthread, hphase, hG, hnested, howner, hrun⟩
  have hother : ∀ (x : Option (C × Prog L S R)) (u : T), u ≠ t → (w.put t x).thread u =
      w.thread u := by
    intro x u hu
    simp [World.put, hu]
  simp only [stepWorld, hthread, Option.bind_some] at hstep
  cases hnested with
  | done hleaves =>
      rcases hleaves with ⟨r, rfl⟩
      simp only [stepThread, ht, if_true] at hstep
      cases hstep
      -- the result of the whole call is the state that is left behind
      have hcall : meaning code c a.shared = some (r, w.shared) := hrun.symm
      have hexecute : stepAtomic (meaning code) (.execute t) a =
          some { a.put t (some (.done r)) with shared := w.shared } := by
        simp [stepAtomic, hphase, hcall]
      refine ⟨_, (Reachable.refl a).tail ?_ hexecute, h.history, ?_, ?_, ?_⟩
      · intro c' hc'
        rw [hphase] at hc'
        cases hc'
        exact Or.inr hG
      · intro u _
        refine h.outside_put (.left c r) u ?_
        intro hut hu
        exact hut (Option.some.inj (hu.symm.trans ht))
      · intro _
        refine ⟨rfl, ?_⟩
        intro l
        by_cases hl : l = g
        · simp [hl]
        · simpa [hl] using howner l hl
      · intro u hu
        simp at hu
  | crash => cases hstep
  | @read _ k hk =>
      cases hstep
      exact ⟨a, Reachable.refl a, h.stay ht rfl (hother _) ht
        ⟨by simp [World.put], hphase, hG, hk w.shared, howner, hrun⟩⟩
  | @write _ f k hk =>
      cases hstep
      exact ⟨a, Reachable.refl a, h.stay ht rfl (hother _) ht
        ⟨by simp [World.put], hphase, hG, hk, howner, hrun⟩⟩
  | @lock _ l k hne hfresh hk =>
      have hfree : w.owner l = none := by simp [howner l hne, hfresh]
      simp only [stepThread, hfree, if_true] at hstep
      cases hstep
      refine ⟨a, Reachable.refl a, h.stay ht rfl (hother _) (by simp [hne.symm, ht])
        ⟨by simp [World.put], hphase, hG, hk, ?_, hrun⟩⟩
      intro l' hl'
      by_cases hll : l' = l
      · simp [hll]
      · simpa [hll] using howner l' hl'
  | @unlock held l k hne hfresh hk =>
      have hmine : w.owner l = some t := by simp [howner l hne]
      simp only [stepThread, hmine, if_true] at hstep
      cases hstep
      refine ⟨a, Reachable.refl a, h.stay ht rfl (hother _) (by simp [hne.symm, ht])
        ⟨by simp [World.put], hphase, hG, hk, ?_, hrun⟩⟩
      intro l' hl'
      by_cases hll : l' = l
      · simp [hll, hfresh]
      · simpa [hll] using howner l' hl'

/-- Whatever the threads do, a world of calls that happen at once has the same history. -/
theorem simulates (hcode : ∀ c, OneSection g (code c)) {s : S}
    (hrun : Reachable (stepWorld code) (Entering g G) (World.start s) w) :
    Follows g code G w (Atomic.start s) := by
  refine hrun.invariant (I := fun w => Follows g code G w (Atomic.start s))
    ⟨_, Reachable.refl _, Sim.start s⟩ ?_
  rintro w w' act ⟨a, hreach, hsim⟩ hguard hstep
  have hnext : Follows g code G w' a := by
    cases act with
    | call t c => exact simulates_call hsim hstep
    | step t =>
        by_cases ht : w.owner g = some t
        · exact simulates_inside hsim ht hstep
        · exact simulates_outside hcode hsim ht hguard hstep
  rcases hnext with ⟨a', hsteps, hsim'⟩
  exact ⟨a', Relation.ReflTransGen.trans hreach hsteps, hsim'⟩

/-! ## Invariants of the calls -/

/-- What a call does to the state. -/
def effect (sem : C → S → Option (R × S)) (c : C) (s : S) : Option S :=
  (sem c s).map Prod.snd

/-- The shared state of the atomic world is reached by the calls that have happened. -/
theorem reachable_shared {sem : C → S → Option (R × S)} {s : S}
    (hrun : Reachable (stepAtomic sem) (Executing sem G) (Atomic.start s : Atomic S T C R) a) :
    Reachable (effect sem) G s a.shared := by
  refine hrun.invariant (I := fun a => Reachable (effect sem) G s a.shared)
    (Reachable.refl s) ?_
  intro a a' act hreach hguard hstep
  cases act with
  | call t c =>
      simp only [stepAtomic] at hstep
      split at hstep
      · cases hstep
        exact hreach
      · cases hstep
  | execute t =>
      simp only [stepAtomic] at hstep
      split at hstep
      · rename_i c hc
        rcases Option.map_eq_some_iff.1 hstep with ⟨⟨r, s'⟩, hcall, rfl⟩
        rcases hguard c hc with ⟨r', hsilent⟩ | hG
        · rw [hsilent a.shared] at hcall
          cases hcall
          exact hreach
        · refine hreach.tail hG ?_
          simp [effect, hcall]
      · cases hstep
  | ret t =>
      simp only [stepAtomic] at hstep
      split at hstep
      · cases hstep
        exact hreach
      · cases hstep

/-- When no thread is in its critical section, the state is one that the calls reach. -/
theorem reachable_of_free (hcode : ∀ c, OneSection g (code c)) {s : S}
    (hrun : Reachable (stepWorld code) (Entering g G) (World.start s) w)
    (hfree : w.owner g = none) : Reachable (effect (meaning code)) G s w.shared := by
  rcases simulates hcode hrun with ⟨a, hreach, hsim⟩
  rw [← (hsim.free hfree).1]
  exact reachable_shared hreach

/-- No thread crashes if no call crashes when it is run alone. -/
theorem no_crash (hcode : ∀ c, OneSection g (code c)) {s : S}
    (hsafe : ∀ s' c, Reachable (effect (meaning code)) G s s' → G s' c →
      meaning code c s' ≠ none)
    (hrun : Reachable (stepWorld code) (Entering g G) (World.start s) w) (t : T) (c : C) :
    w.thread t ≠ some (c, .crash) := by
  intro hthread
  rcases simulates hcode hrun with ⟨a, hreach, hsim⟩
  by_cases ht : w.owner g = some t
  · rcases hsim.inside t ht with ⟨c', p, held, hin⟩
    have heq := hin.thread
    rw [hthread] at heq
    cases heq
    -- the call that crashes here crashes in the atomic world too
    exact hsafe a.shared c (reachable_shared hreach) hin.guard hin.run.symm
  · have hout := hsim.outside t ht
    rw [hthread] at hout
    generalize a.thread t = y at hout
    generalize hx : some (c, Prog.crash) = x at hout
    cases hout with
    | idle => cases hx
    | waiting c' =>
        have hcrash : code c' = .crash := (Prod.mk.inj (Option.some.inj hx)).2.symm
        have hc := hcode c'
        rw [hcrash] at hc
        cases hc
    | left c' r => cases hx

/-! ## Waiting -/

/-- The thread can make its next step. -/
def CanStep (code : C → Prog L S R) (w : World L S T C R) (t : T) : Prop :=
  (stepWorld code (.step t) w).isSome

def Crashed (w : World L S T C R) (t : T) : Prop :=
  ∃ c, w.thread t = some (c, .crash)

/-- Only the thread that holds `g` holds other locks. -/
theorem owner_of_nested (hcode : ∀ c, OneSection g (code c)) {s : S}
    (hrun : Reachable (stepWorld code) (Entering g G) (World.start s) w) {l : L} {t : T}
    (hl : w.owner l = some t) : w.owner g = some t := by
  rcases simulates hcode hrun with ⟨a, _, hsim⟩
  by_cases hg : l = g
  · rwa [hg] at hl
  · cases howner : w.owner g with
    | none =>
        rw [(hsim.free howner).2 l] at hl
        cases hl
    | some u =>
        rcases hsim.inside u howner with ⟨c, p, held, hin⟩
        have hval := hin.owner l hg
        rw [hl] at hval
        split at hval
        · exact hval.symm
        · cases hval

/-- The thread that holds `g` never waits. -/
theorem owner_canStep (hcode : ∀ c, OneSection g (code c)) {s : S}
    (hrun : Reachable (stepWorld code) (Entering g G) (World.start s) w) {t : T}
    (ht : w.owner g = some t) : CanStep code w t ∨ Crashed w t := by
  rcases simulates hcode hrun with ⟨a, _, hsim⟩
  rcases hsim.inside t ht with ⟨c, p, held, hin⟩
  have hthread := hin.thread
  unfold CanStep
  simp only [stepWorld, hthread, Option.bind_some]
  cases hin.nested with
  | done hleaves =>
      rcases hleaves with ⟨r, rfl⟩
      simp [stepThread, ht]
  | crash => exact Or.inr ⟨c, hthread⟩
  | read hk => simp [stepThread]
  | write hk => simp [stepThread]
  | lock hne hfresh hk => simp [stepThread, hin.owner _ hne, hfresh]
  | unlock hne hfresh hk => simp [stepThread, hin.owner _ hne]

/-- As long as a thread is in a call, some thread can step. -/
theorem progress (hcode : ∀ c, OneSection g (code c)) {s : S}
    (hrun : Reachable (stepWorld code) (Entering g G) (World.start s) w) {t : T}
    (ht : w.thread t ≠ none) : ∃ u, CanStep code w u ∨ Crashed w u := by
  cases howner : w.owner g with
  | some u => exact ⟨u, owner_canStep hcode hrun howner⟩
  | none =>
      rcases simulates hcode hrun with ⟨a, _, hsim⟩
      refine ⟨t, Or.inl ?_⟩
      have hout := hsim.outside t (by simp [howner])
      unfold CanStep
      simp only [stepWorld]
      generalize w.thread t = x at hout ht
      generalize a.thread t = y at hout
      cases hout with
      | idle => exact absurd rfl ht
      | waiting c =>
          have hc := hcode c
          generalize code c = p at hc
          cases hc with
          | ret r => simp [stepThread]
          | enter hk => simp [stepThread, howner]
      | left c r => simp [stepThread]

/-- `w'` is reached by steps of the thread `t` alone. -/
def StepsAlone (code : C → Prog L S R) (t : T) : World L S T C R → World L S T C R → Prop :=
  Relation.ReflTransGen fun w w' => stepWorld code (.step t) w = some w'

theorem StepsAlone.head {t : T} {w₁ : World L S T C R}
    (hstep : stepWorld code (.step t) w = some w₁) (h : StepsAlone code t w₁ w') :
    StepsAlone code t w w' :=
  Relation.ReflTransGen.head hstep h

/-- What is left of a critical section runs to its end without help. -/
theorem Nested.leaves {held : List L} {p : Prog L S R} (hp : Nested g (Leaves g) held p) {t : T}
    {c : C} : ∀ {w : World L S T C R}, w.thread t = some (c, p) → w.owner g = some t →
      (∀ l, l ≠ g → w.owner l = if l ∈ held then some t else none) →
      ∃ w', StepsAlone code t w w' ∧ (w'.owner g = none ∨ Crashed w' t) := by
  induction hp with
  | done hleaves =>
      intro w hthread ht _
      rcases hleaves with ⟨r, rfl⟩
      have hstep : stepWorld code (.step t) w =
          some { w.put t (some (c, .ret r)) with owner := Function.update w.owner g none } := by
        simp [stepWorld, hthread, stepThread, ht]
      exact ⟨_, Relation.ReflTransGen.single hstep, Or.inl (by simp)⟩
  | crash =>
      intro w hthread _ _
      exact ⟨w, Relation.ReflTransGen.refl, Or.inr ⟨c, hthread⟩⟩
  | @read held k _ ih =>
      intro w hthread ht howner
      rcases ih w.shared (w := w.put t (some (c, k w.shared))) (by simp [World.put]) ht howner with
        ⟨w', hsteps, hend⟩
      exact ⟨w', hsteps.head (by simp [stepWorld, hthread, stepThread]), hend⟩
  | @write held f k _ ih =>
      intro w hthread ht howner
      rcases ih (w := { w.put t (some (c, k)) with shared := f w.shared }) (by simp [World.put]) ht
        howner with ⟨w', hsteps, hend⟩
      exact ⟨w', hsteps.head (by simp [stepWorld, hthread, stepThread]), hend⟩
  | @lock held l k hne hfresh _ ih =>
      intro w hthread ht howner
      have hfree : w.owner l = none := by simp [howner l hne, hfresh]
      rcases ih (w := { w.put t (some (c, k)) with owner := Function.update w.owner l (some t) })
        (by simp [World.put]) (by simp [hne.symm, ht]) (by
          intro l' hl'
          by_cases hll : l' = l
          · simp [hll]
          · simpa [hll] using howner l' hl') with ⟨w', hsteps, hend⟩
      exact ⟨w', hsteps.head (by simp [stepWorld, hthread, stepThread, hfree]), hend⟩
  | @unlock held l k hne hfresh _ ih =>
      intro w hthread ht howner
      have hmine : w.owner l = some t := by simp [howner l hne]
      rcases ih (w := { w.put t (some (c, k)) with owner := Function.update w.owner l none })
        (by simp [World.put]) (by simp [hne.symm, ht]) (by
          intro l' hl'
          by_cases hll : l' = l
          · simp [hll, hfresh]
          · simpa [hll] using howner l' hl') with ⟨w', hsteps, hend⟩
      exact ⟨w', hsteps.head (by simp [stepWorld, hthread, stepThread, hmine]), hend⟩

/-- The thread that holds `g` gives it back by its own steps, or crashes on the way. -/
theorem lock_is_released (hcode : ∀ c, OneSection g (code c)) {s : S}
    (hrun : Reachable (stepWorld code) (Entering g G) (World.start s) w) {t : T}
    (ht : w.owner g = some t) :
    ∃ w', StepsAlone code t w w' ∧ (w'.owner g = none ∨ Crashed w' t) := by
  rcases simulates hcode hrun with ⟨a, _, hsim⟩
  rcases hsim.inside t ht with ⟨c, p, held, hin⟩
  exact hin.nested.leaves hin.thread ht hin.owner

end Locking
end Foundation
