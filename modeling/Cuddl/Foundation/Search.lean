import Mathlib.Data.Prod.Lex
import Mathlib.Order.Fin.Basic
import Mathlib.Order.Bounds.Basic

/-!
# Bounded linear search

A `for` loop over an array of `n` slots that stops at the first slot passing a test, and two
such loops in a row where the second one looks inside the slot the first one found.

`ReturnsLeast res S` says that `res` is the least element of `S`, or `none` when `S` is empty.
It is the specification of one loop (`searchFrom_returnsLeast`); for two loops in a row,
`searchPair_returnsLeast_iff` says exactly when they find the lexicographically first pair.
-/

namespace Foundation
namespace Search

/-- `res` is the least element of `S`, or `none` if there is no element at all. -/
def ReturnsLeast {α : Type*} [Preorder α] (res : Option α) (S : Set α) : Prop :=
  (∀ x, res = some x → IsLeast S x) ∧ (res = none ↔ S = ∅)

section Loop

variable {n : Nat}

/-- The loop with `fuel` slots left to visit, the next one being `i`. -/
def searchLoop (p : Fin n → Bool) : Nat → Nat → Option (Fin n)
  | 0, _ => none
  | fuel + 1, i =>
      if h : i < n then
        if p ⟨i, h⟩ then some ⟨i, h⟩ else searchLoop p fuel (i + 1)
      else
        none

/-- `for (i = start; i < n; i++) if (p(i)) break;` -/
def searchFrom (p : Fin n → Bool) (start : Nat) : Option (Fin n) :=
  searchLoop p (n - start) start

theorem searchLoop_some {p : Fin n → Bool} :
    ∀ {fuel i : Nat} {x : Fin n}, searchLoop p fuel i = some x →
      i ≤ x ∧ p x = true ∧ ∀ j : Fin n, i ≤ j → j < x → p j = false := by
  -- induction on the slots that are left; a slot that is passed over joins the failures
  intro fuel
  induction fuel with
  | zero =>
      intro i x h
      simp [searchLoop] at h
  | succ fuel ih =>
      intro i x h
      by_cases hi : i < n
      · by_cases hp : p ⟨i, hi⟩ = true
        · have hx : (⟨i, hi⟩ : Fin n) = x := by
            simpa [searchLoop, hi, hp] using h
          subst hx
          refine ⟨Nat.le_refl _, hp, ?_⟩
          intro j hij hji
          exact absurd hij (Nat.not_le.2 hji)
        · have hrest : searchLoop p fuel (i + 1) = some x := by
            simpa [searchLoop, hi, hp] using h
          rcases ih hrest with ⟨hle, hpx, hmin⟩
          refine ⟨by omega, hpx, ?_⟩
          intro j hij hjx
          rcases Nat.eq_or_lt_of_le hij with heq | hlt
          · subst heq
            simpa using hp
          · exact hmin j hlt hjx
      · simp [searchLoop, hi] at h

theorem searchLoop_none {p : Fin n → Bool} :
    ∀ {fuel i : Nat}, n ≤ i + fuel → searchLoop p fuel i = none →
      ∀ j : Fin n, i ≤ j → p j = false := by
  intro fuel
  induction fuel with
  | zero =>
      intro i hfuel _ j hij
      exact absurd j.isLt (by omega)
  | succ fuel ih =>
      intro i hfuel h j hij
      have hi : i < n := Nat.lt_of_le_of_lt hij j.isLt
      by_cases hp : p ⟨i, hi⟩ = true
      · simp [searchLoop, hi, hp] at h
      · have hrest : searchLoop p fuel (i + 1) = none := by
          simpa [searchLoop, hi, hp] using h
        rcases Nat.eq_or_lt_of_le hij with heq | hlt
        · subst heq
          simpa using hp
        · exact ih (by omega) hrest j hlt

variable {p : Fin n → Bool} {start : Nat} {x : Fin n}

/-- A search succeeds with `x` exactly when `x` is the first slot from `start` on that passes. -/
theorem searchFrom_eq_some_iff :
    searchFrom p start = some x ↔
      start ≤ x ∧ p x = true ∧ ∀ j : Fin n, start ≤ j → j < x → p j = false := by
  constructor
  · intro h
    exact searchLoop_some h
  · rintro ⟨hle, hpx, hmin⟩
    cases h : searchFrom p start with
    | none =>
        have hno := searchLoop_none (by omega) h x hle
        simp [hpx] at hno
    | some y =>
        rcases searchLoop_some h with ⟨hley, hpy, hminy⟩
        -- two first slots: neither can come before the other
        rcases lt_trichotomy x y with hxy | hxy | hxy
        · simp [hminy x hle hxy] at hpx
        · rw [hxy]
        · simp [hmin y hley hxy] at hpy

/-- A search fails exactly when no slot from `start` on passes. -/
theorem searchFrom_eq_none_iff :
    searchFrom p start = none ↔ ∀ j : Fin n, start ≤ j → p j = false := by
  constructor
  · intro h
    exact searchLoop_none (by omega) h
  · intro h
    cases hres : searchFrom p start with
    | none => rfl
    | some y =>
        rcases searchFrom_eq_some_iff.1 hres with ⟨hle, hpy, _⟩
        simp [h y hle] at hpy

/-- A search succeeds when some slot passes. -/
theorem exists_searchFrom_of_pass (hle : start ≤ x) (hx : p x = true) :
    ∃ y, searchFrom p start = some y := by
  cases h : searchFrom p start with
  | none =>
      have hno := searchFrom_eq_none_iff.1 h x hle
      simp [hx] at hno
  | some y => exact ⟨y, rfl⟩

/-- A search finds the only slot that passes. -/
theorem searchFrom_of_unique (hx : p x = true) (hunique : ∀ y, p y = true → y = x) :
    searchFrom p 0 = some x := by
  refine searchFrom_eq_some_iff.2 ⟨Nat.zero_le _, hx, ?_⟩
  intro y _ hlt
  by_contra hy
  exact hlt.ne (hunique y (by simpa using hy))

theorem searchFrom_returnsLeast {s : Set (Fin n)}
    (hs : ∀ i : Fin n, start ≤ i ∧ p i = true ↔ i ∈ s) : ReturnsLeast (searchFrom p start) s := by
  constructor
  · intro y hy
    rcases searchFrom_eq_some_iff.1 hy with ⟨hle, hpy, hmin⟩
    refine ⟨(hs y).1 ⟨hle, hpy⟩, ?_⟩
    intro j hjs
    rcases (hs j).2 hjs with ⟨hj, hpj⟩
    by_contra hlt
    simp [hmin j hj (not_le.1 hlt)] at hpj
  · rw [searchFrom_eq_none_iff, Set.eq_empty_iff_forall_notMem]
    constructor
    · intro h j hjs
      rcases (hs j).2 hjs with ⟨hj, hpj⟩
      simp [h j hj] at hpj
    · intro h j hj
      by_contra hpj
      exact h j ((hs j).1 ⟨hj, by simpa using hpj⟩)

end Loop

section Pair

variable {n m : Nat}

/-- Search the outer array with `a`, then the slots inside the slot that was found with `b`. -/
def searchPair (a : Fin n → Bool) (b : Fin n → Fin m → Bool) : Option (Fin n ×ₗ Fin m) :=
  (searchFrom a 0).bind fun i => (searchFrom (b i) 0).map fun j => toLex (i, j)

variable {a : Fin n → Bool} {b : Fin n → Fin m → Bool} {P : Fin n → Prop}

/-- The pairs whose outer slot satisfies `P` and whose inner slot passes `b`. -/
def pairs (P : Fin n → Prop) (b : Fin n → Fin m → Bool) : Set (Fin n ×ₗ Fin m) :=
  {x | P (ofLex x).1 ∧ b (ofLex x).1 (ofLex x).2 = true}

theorem searchPair_eq_some_iff {i : Fin n} {j : Fin m} :
    searchPair a b = some (toLex (i, j)) ↔
      searchFrom a 0 = some i ∧ searchFrom (b i) 0 = some j := by
  simp only [searchPair, Option.bind_eq_some_iff, Option.map_eq_some_iff]
  constructor
  · rintro ⟨i', hi, j', hj, heq⟩
    cases heq
    exact ⟨hi, hj⟩
  · rintro ⟨hi, hj⟩
    exact ⟨i, hi, j, hj, rfl⟩

/-- The two searches succeed when some inner slot passes where the outer search stops. -/
theorem searchPair_isSome_iff :
    (searchPair a b).isSome ↔ ∃ i, searchFrom a 0 = some i ∧ ∃ j, b i j = true := by
  constructor
  · intro h
    rcases Option.isSome_iff_exists.1 h with ⟨⟨i, j⟩, hpair⟩
    rcases searchPair_eq_some_iff.1 hpair with ⟨hi, hj⟩
    exact ⟨i, hi, j, (searchFrom_eq_some_iff.1 hj).2.1⟩
  · rintro ⟨i, hi, j, hj⟩
    rcases exists_searchFrom_of_pass (Nat.zero_le _) hj with ⟨j', hj'⟩
    exact Option.isSome_iff_exists.2 ⟨_, searchPair_eq_some_iff.2 ⟨hi, hj'⟩⟩

/-- When the inner search succeeds in the slot the outer search stops at, the two searches find
the lexicographically first pair. -/
theorem searchPair_isLeast {i : Fin n} {j : Fin m}
    (hsound : ∀ i, a i = true → P i)
    (hcomplete : ∀ i j, P i → b i j = true → a i = true)
    (hi : searchFrom a 0 = some i) (hj : searchFrom (b i) 0 = some j) :
    IsLeast (pairs P b) (toLex (i, j)) := by
  rcases searchFrom_eq_some_iff.1 hi with ⟨_, hai, hmini⟩
  rcases searchFrom_eq_some_iff.1 hj with ⟨_, hbj, hminj⟩
  refine ⟨⟨hsound i hai, hbj⟩, ?_⟩
  rintro ⟨i', j'⟩ ⟨hP, hb⟩
  have hP' : P i' := hP
  have hb' : b i' j' = true := hb
  -- a pair of the set has an outer slot that the outer search does not skip
  have hai' : a i' = true := hcomplete i' j' hP' hb'
  have hle : i ≤ i' := by
    by_contra hlt
    simp [hmini i' (Nat.zero_le _) (not_le.1 hlt)] at hai'
  refine Prod.Lex.toLex_le_toLex.2 ?_
  rcases lt_or_eq_of_le hle with hlt | heq
  · exact Or.inl hlt
  · refine Or.inr ⟨heq, ?_⟩
    subst heq
    by_contra hlt
    have hno : b i j' = false := hminj j' (Nat.zero_le _) (not_le.1 hlt)
    simp [hno] at hb'

/-- Two searches in a row find the lexicographically first pair exactly when the slot the outer
search stops at is not a dead end, or there is no pair to find anyway. -/
theorem searchPair_returnsLeast_iff
    (hsound : ∀ i, a i = true → P i)
    (hcomplete : ∀ i j, P i → b i j = true → a i = true) :
    ReturnsLeast (searchPair a b) (pairs P b) ↔
      (∀ i, searchFrom a 0 = some i → ∃ j, b i j = true) ∨ pairs P b = ∅ := by
  cases hi : searchFrom a 0 with
  | none =>
      have hempty : pairs P b = ∅ := by
        rw [Set.eq_empty_iff_forall_notMem]
        rintro ⟨i, j⟩ ⟨hP, hb⟩
        have hai := hcomplete i j hP hb
        simp [searchFrom_eq_none_iff.1 hi i (Nat.zero_le _)] at hai
      simp [ReturnsLeast, searchPair, hi, hempty]
  | some i =>
      cases hj : searchFrom (b i) 0 with
      | none =>
          -- the outer search stops at a slot that the inner search cannot use
          have hdead : ∀ j, b i j = false := fun j =>
            searchFrom_eq_none_iff.1 hj j (Nat.zero_le _)
          simp [ReturnsLeast, searchPair, hi, hj, hdead]
      | some j =>
          have hleast := searchPair_isLeast hsound hcomplete hi hj
          have hb : b i j = true := (searchFrom_eq_some_iff.1 hj).2.1
          constructor
          · intro _
            left
            intro i' hi'
            cases hi'
            exact ⟨j, hb⟩
          · intro _
            refine ⟨?_, ?_⟩
            · intro x hx
              have hx' : toLex (i, j) = x := by
                simpa [searchPair, hi, hj] using hx
              rw [← hx']
              exact hleast
            · have hne : pairs P b ≠ ∅ := Set.nonempty_iff_ne_empty.1 ⟨_, hleast.1⟩
              simpa [searchPair, hi, hj] using hne

end Pair

end Search
end Foundation
