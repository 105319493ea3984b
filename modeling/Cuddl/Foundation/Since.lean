import Mathlib.Data.List.Induction

/-!
# Since

`Since P Q as`: an event of the kind `P` happened in the history `as`, and none of the kind `Q` has
happened since.  It is the value of a flag that `P` sets and `Q` clears (`since_iff_foldl`).
-/

namespace Foundation

variable {A S : Type*} {P Q : A → Prop}

def Since (P Q : A → Prop) (as : List A) : Prop :=
  ∃ before a after, as = before ++ a :: after ∧ P a ∧ ∀ b ∈ after, ¬ Q b

theorem not_since_nil : ¬ Since P Q [] := by
  rintro ⟨before, a, after, has, -⟩
  simp at has

theorem Since.of_last {as : List A} {a : A} (h : P a) : Since P Q (as ++ [a]) :=
  ⟨as, a, [], rfl, h, by simp⟩

theorem Since.concat {as : List A} {a : A} (h : Since P Q as) (ha : ¬ Q a) :
    Since P Q (as ++ [a]) := by
  rcases h with ⟨before, b, after, rfl, hb, hafter⟩
  refine ⟨before, b, after ++ [a], by simp, hb, ?_⟩
  intro c hc
  rcases List.mem_append.1 hc with hc | hc
  · exact hafter c hc
  · rwa [List.mem_singleton.1 hc]

/-- The last event decides, or leaves it to those before. -/
theorem since_concat {as : List A} {a : A} :
    Since P Q (as ++ [a]) ↔ P a ∨ Since P Q as ∧ ¬ Q a := by
  constructor
  · rintro ⟨before, b, after, has, hb, hafter⟩
    rcases List.eq_nil_or_concat after with rfl | ⟨after, last, rfl⟩
    · have hlast : [a] = [b] := (List.append_inj' has rfl).2
      rw [List.singleton_inj.1 hlast]
      exact Or.inl hb
    · have hassoc : as ++ [a] = (before ++ b :: after) ++ [last] := by simpa using has
      rcases List.append_inj' hassoc rfl with ⟨rfl, hlast⟩
      rw [List.singleton_inj.1 hlast]
      refine Or.inr ⟨⟨before, b, after, rfl, hb, ?_⟩, ?_⟩
      · intro c hc
        exact hafter c (by simp [hc])
      · exact hafter last (by simp)
  · rintro (ha | ⟨hsince, ha⟩)
    · exact Since.of_last ha
    · exact hsince.concat ha

/-- A flag that `P` sets and `Q` clears, over a run. -/
theorem since_iff_foldl {f : S → A → S} (holds : S → Prop) {s₀ : S} (hinit : ¬ holds s₀)
    (hstep : ∀ s a, holds (f s a) ↔ P a ∨ holds s ∧ ¬ Q a) (as : List A) :
    holds (as.foldl f s₀) ↔ Since P Q as := by
  induction as using List.reverseRecOn with
  | nil => exact iff_of_false hinit not_since_nil
  | append_singleton as a ih =>
      rw [List.foldl_append, List.foldl_cons, List.foldl_nil, hstep, ih, since_concat]

end Foundation
