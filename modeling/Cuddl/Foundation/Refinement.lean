import Cuddl.Foundation.Machine

/-!
# Runs that share their actions

`Runs exec Guard s as t` says that the actions `as`, each of them allowed where it happens, lead
from `s` to `t`.  Two machines over one type of actions are compared action by action: if `R` holds
at the start and every allowed action of the first machine is matched by the second, then so is
every run, by the same actions (`Runs.refines`).
-/

namespace Foundation
namespace Machine

variable {S T A : Type*}

inductive Runs (exec : A → S → Option S) (Guard : S → A → Prop) : S → List A → S → Prop
  | nil (s : S) : Runs exec Guard s [] s
  | cons {s t u : S} {a : A} {as : List A} (guard : Guard s a) (step : exec a s = some t)
      (rest : Runs exec Guard t as u) : Runs exec Guard s (a :: as) u

variable {exec : A → S → Option S} {Guard : S → A → Prop} {s t u : S} {as bs : List A} {a : A}

theorem Runs.single (hguard : Guard s a) (hstep : exec a s = some t) :
    Runs exec Guard s [a] t :=
  Runs.cons hguard hstep (Runs.nil t)

/-- What every allowed action keeps is kept by a run. -/
theorem Runs.invariant {I : S → Prop} (h : Runs exec Guard s as t) (hinit : I s)
    (hstep : ∀ {s s' : S} {a : A}, I s → Guard s a → exec a s = some s' → I s') : I t := by
  induction h with
  | nil _ => exact hinit
  | cons hguard hexec _ ih => exact ih (hstep hinit hguard hexec)

/-- A guard may be weakened along the states that a run passes. -/
theorem Runs.weaken {Guard' : S → A → Prop} (h : Runs exec Guard s as t)
    (hguard : ∀ s a, Guard s a → Guard' s a) : Runs exec Guard' s as t := by
  induction h with
  | nil _ => exact Runs.nil _
  | cons hallowed hstep _ ih => exact Runs.cons (hguard _ _ hallowed) hstep ih

/-- Every action of the first machine, matched by the second, matches its runs. -/
theorem Runs.refines {exec' : A → T → Option T} {Guard' : T → A → Prop} {R : S → T → Prop}
    {x : T} (h : Runs exec Guard s as t) (hinit : R s x)
    (hmatch : ∀ {s s' : S} {x : T} {a : A}, R s x → Guard s a → exec a s = some s' →
      Guard' x a ∧ ∃ x', exec' a x = some x' ∧ R s' x') :
    ∃ y, Runs exec' Guard' x as y ∧ R t y := by
  induction h generalizing x with
  | nil _ => exact ⟨x, Runs.nil x, hinit⟩
  | cons hguard hstep _ ih =>
      rcases hmatch hinit hguard hstep with ⟨hguard', x', hstep', hrel⟩
      rcases ih hrel with ⟨y, hrest, hend⟩
      exact ⟨y, Runs.cons hguard' hstep' hrest, hend⟩

/-- A computed run is a run. -/
theorem runs_of_run [∀ s a, Decidable (Guard s a)] (h : run exec Guard as s = some t) :
    Runs exec Guard s as t := by
  induction as generalizing s with
  | nil =>
      cases h
      exact Runs.nil _
  | cons a as ih =>
      by_cases hguard : Guard s a
      · have hbind : (exec a s).bind (run exec Guard as) = some t := by
          simpa [run, hguard] using h
        rcases Option.bind_eq_some_iff.1 hbind with ⟨s₁, hexec, hrest⟩
        exact Runs.cons hguard hexec (ih hrest)
      · simp [run, hguard] at h

end Machine
end Foundation
