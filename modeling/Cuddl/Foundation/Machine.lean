import Mathlib.Logic.Relation

/-!
# Guarded machines and their runs

A machine is a partial transition function `exec : A → S → Option S`; `none` means that the
action crashes or is impossible.  A property of "all runs in which every action meets a
condition" is a property of the states that are `Reachable` under a guard `S → A → Prop`.

* `Reachable.invariant` is the induction principle every run theorem goes through.
* `track` adds a history variable that `exec` does not see (`Reachable.track_invariant`).
* `run` executes a list of actions and checks the guard on the way, so that a concrete run can
  be computed (`exists_reachable_of_run`).
-/

namespace Foundation
namespace Machine

variable {S A H : Type*}

/-- One allowed action. -/
def Step (exec : A → S → Option S) (Guard : S → A → Prop) (s s' : S) : Prop :=
  ∃ a, Guard s a ∧ exec a s = some s'

/-- `s` is reached from `s₀` by a run whose actions all meet the guard. -/
def Reachable (exec : A → S → Option S) (Guard : S → A → Prop) (s₀ s : S) : Prop :=
  Relation.ReflTransGen (Step exec Guard) s₀ s

variable {exec : A → S → Option S} {Guard : S → A → Prop} {s₀ s s' : S}

theorem Reachable.refl (s : S) : Reachable exec Guard s s :=
  Relation.ReflTransGen.refl

theorem Reachable.head {a : A} (hguard : Guard s₀ a) (hexec : exec a s₀ = some s)
    (h : Reachable exec Guard s s') : Reachable exec Guard s₀ s' :=
  Relation.ReflTransGen.head ⟨a, hguard, hexec⟩ h

theorem Reachable.tail {a : A} (h : Reachable exec Guard s₀ s) (hguard : Guard s a)
    (hexec : exec a s = some s') : Reachable exec Guard s₀ s' :=
  Relation.ReflTransGen.tail h ⟨a, hguard, hexec⟩

/-- What holds at the start and is kept by every allowed action holds in every reachable state. -/
theorem Reachable.invariant {I : S → Prop} (h : Reachable exec Guard s₀ s) (hinit : I s₀)
    (hstep : ∀ {s s' : S} {a : A}, I s → Guard s a → exec a s = some s' → I s') : I s := by
  induction h with
  | refl => exact hinit
  | tail _ hlast ih =>
      rcases hlast with ⟨a, hguard, hexec⟩
      exact hstep ih hguard hexec

/-! ## History variables -/

/-- `exec` with a history variable: `note` records what an action did. -/
def track (exec : A → S → Option S) (note : S → A → S → H → H) (a : A) (x : S × H) :
    Option (S × H) :=
  (exec a x.1).map fun s' => (s', note x.1 a s' x.2)

theorem track_eq_some_iff {note : S → A → S → H → H} {a : A} {x x' : S × H} :
    track exec note a x = some x' ↔ exec a x.1 = some x'.1 ∧ x'.2 = note x.1 a x'.1 x.2 := by
  rcases x' with ⟨s', h'⟩
  simp only [track, Option.map_eq_some_iff, Prod.mk.injEq]
  constructor
  · rintro ⟨t, ht, rfl, rfl⟩
    exact ⟨ht, rfl⟩
  · rintro ⟨ht, rfl⟩
    exact ⟨s', ht, rfl, rfl⟩

/-- The induction principle for a run with a history variable. -/
theorem Reachable.track_invariant {note : S → A → S → H → H} {Guard : S × H → A → Prop}
    {x₀ x : S × H} {I : S × H → Prop} (h : Reachable (track exec note) Guard x₀ x) (hinit : I x₀)
    (hstep : ∀ {s s' : S} {l : H} {a : A}, I (s, l) → Guard (s, l) a → exec a s = some s' →
      I (s', note s a s' l)) : I x := by
  refine h.invariant hinit ?_
  rintro ⟨s, l⟩ ⟨s', l'⟩ a hinv hguard htrack
  rcases track_eq_some_iff.1 htrack with ⟨hexec, hnote⟩
  have hnext := hstep hinv hguard hexec
  rwa [← hnote] at hnext

/-! ## Computed runs -/

/-- Execute a list of actions, stopping at the first one that breaks the guard. -/
def run (exec : A → S → Option S) (Guard : S → A → Prop) [∀ s a, Decidable (Guard s a)] :
    List A → S → Option S
  | [], s => some s
  | a :: as, s => if Guard s a then (exec a s).bind (run exec Guard as) else none

variable [∀ s a, Decidable (Guard s a)]

theorem reachable_of_run :
    ∀ {as : List A} {s₀ s : S}, run exec Guard as s₀ = some s → Reachable exec Guard s₀ s := by
  -- induction on the actions; the head is one step of the run
  intro as
  induction as with
  | nil =>
      intro s₀ s h
      cases h
      exact Reachable.refl s₀
  | cons a as ih =>
      intro s₀ s h
      by_cases hguard : Guard s₀ a
      · have hbind : (exec a s₀).bind (run exec Guard as) = some s := by
          simpa [run, hguard] using h
        rcases Option.bind_eq_some_iff.1 hbind with ⟨s₁, hexec, hrest⟩
        exact Reachable.head hguard hexec (ih hrest)
      · simp [run, hguard] at h

/-- A computed run that ends in a state with `P` reaches such a state. -/
theorem exists_reachable_of_run (as : List A) {P : S → Prop} [DecidablePred P]
    (h : (run exec Guard as s₀).any (fun s => decide (P s)) = true) :
    ∃ s, Reachable exec Guard s₀ s ∧ P s := by
  cases hrun : run exec Guard as s₀ with
  | none => simp [hrun] at h
  | some s => exact ⟨s, reachable_of_run hrun, by simpa [hrun] using h⟩

end Machine
end Foundation
