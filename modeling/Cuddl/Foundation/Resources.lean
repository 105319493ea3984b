import Mathlib.Algebra.Order.Group.Multiset
import Mathlib.Data.Multiset.Bind

/-!
# Taking and giving back

Programs that take resources and give them back: blocks of memory, registrations, descriptors.  An
identity is never used twice, and giving back what is not held is a crash, so a program that runs
through gives nothing back twice, and what it leaves in the store is what it has not given back.

`Spec pre x Q` is a total triple with its frame built in: wherever `pre` is held, among whatever
else, `x` runs through and leaves the rest alone; `Q` says what it returns and what is held in the
place of `pre`.
-/

namespace Foundation.Resources

variable {K α β : Type}

/-- Something that has been taken: its identity, and what it is. -/
structure Item (K : Type) where
  id : Nat
  kind : K
  deriving DecidableEq

/-- What is held; the identities from `next` on are unused. -/
structure Store (K : Type) where
  next : Nat
  held : Multiset (Item K)
  used : ∀ x ∈ held, x.id < next
  nodup : held.Nodup

def Store.empty : Store K :=
  { next := 0, held := 0, used := by simp, nodup := Multiset.nodup_zero }

/-- `none` is a crash. -/
abbrev Prog (K : Type) := StateT (Store K) Option

/-- The identity of what has been taken. -/
def acquire (k : K) : Prog K Nat := fun s =>
  let x : Item K := ⟨s.next, k⟩
  some (s.next,
    { next := s.next + 1
      held := x ::ₘ s.held
      used := by
        intro y hy
        rcases Multiset.mem_cons.1 hy with rfl | hold
        · exact Nat.lt_succ_self _
        · exact Nat.lt_succ_of_lt (s.used y hold)
      nodup := by
        refine Multiset.nodup_cons.2 ⟨?_, s.nodup⟩
        intro hx
        exact Nat.lt_irrefl _ (s.used _ hx) })

/-- A call that can fail; a failure takes nothing. -/
def tryAcquire (k : K) (fails : Bool) : Prog K (Option Nat) :=
  if fails then pure none else some <$> acquire k

def release [DecidableEq K] (x : Item K) : Prog K Unit := fun s =>
  if x ∈ s.held then
    some ((),
      { next := s.next
        held := s.held.erase x
        used := fun y hy => s.used y (Multiset.mem_of_mem_erase hy)
        nodup := s.nodup.erase x })
  else none

def releaseAll [DecidableEq K] : List (Item K) → Prog K Unit
  | [] => pure ()
  | x :: rest => do
      release x
      releaseAll rest

/-- Take what is listed, in order; `got` is what has been taken, newest first.  The first failure
gives all of it back, newest first, and is returned. -/
def acquireAll [DecidableEq K] (outcome : K → Int) :
    List K → List (Item K) → Prog K (Int × List (Item K))
  | [], got => pure (0, got)
  | k :: rest, got => do
      if outcome k < 0 then
        releaseAll got
        return (outcome k, [])
      else
        let id ← acquire k
        acquireAll outcome rest (⟨id, k⟩ :: got)

/-! ## Triples -/

def Spec (pre : Multiset (Item K)) (x : Prog K α) (Q : α → Multiset (Item K) → Prop) : Prop :=
  ∀ (s : Store K) (frame : Multiset (Item K)), s.held = pre + frame →
    ∃ a s' post, x.run s = some (a, s') ∧ s'.held = post + frame ∧ Q a post

variable {pre post rest : Multiset (Item K)} {x : Prog K α} {f : α → Prog K β}
  {Q Q' : α → Multiset (Item K) → Prop} {R : β → Multiset (Item K) → Prop}

theorem Spec.pure {a : α} (h : Q a pre) : Spec pre (pure a) Q := by
  intro s frame hs
  exact ⟨a, s, pre, rfl, hs, h⟩

theorem Spec.bind (hx : Spec pre x Q) (hf : ∀ a m, Q a m → Spec m (f a) R) :
    Spec pre (x >>= f) R := by
  intro s frame hs
  rcases hx s frame hs with ⟨a, s₁, m, hrun, hheld, hQ⟩
  rcases hf a m hQ s₁ frame hheld with ⟨b, s₂, post, hrun', hheld', hR⟩
  refine ⟨b, s₂, post, ?_, hheld', hR⟩
  rw [StateT.run_bind, hrun]
  exact hrun'

theorem Spec.map {g : α → β} (hx : Spec pre x Q) (h : ∀ a m, Q a m → R (g a) m) :
    Spec pre (g <$> x) R := by
  rw [← bind_pure_comp]
  exact Spec.bind hx fun a m hQ => Spec.pure (h a m hQ)

theorem Spec.mono (hx : Spec pre x Q) (h : ∀ a m, Q a m → Q' a m) : Spec pre x Q' := by
  intro s frame hs
  rcases hx s frame hs with ⟨a, s', m, hrun, hheld, hQ⟩
  exact ⟨a, s', m, hrun, hheld, h a m hQ⟩

/-- What else is held stays held. -/
theorem Spec.frame (hx : Spec pre x Q) :
    Spec (pre + rest) x fun a m => ∃ m', m = m' + rest ∧ Q a m' := by
  intro s frame hs
  rcases hx s (rest + frame) (by rw [hs, add_assoc]) with ⟨a, s', m, hrun, hheld, hQ⟩
  exact ⟨a, s', m + rest, hrun, by rw [hheld, add_assoc], m, rfl, hQ⟩

theorem Spec.acquire (k : K) :
    Spec pre (acquire k) fun id m => m = ⟨id, k⟩ ::ₘ pre := by
  intro s frame hs
  refine ⟨s.next, _, ⟨s.next, k⟩ ::ₘ pre, rfl, ?_, rfl⟩
  simp [hs]

theorem Spec.tryAcquire (k : K) (fails : Bool) :
    Spec pre (tryAcquire k fails) fun x m =>
      (fails = true ∧ x = none ∧ m = pre) ∨
        (fails = false ∧ ∃ id, x = some id ∧ m = ⟨id, k⟩ ::ₘ pre) := by
  cases fails with
  | true => exact Spec.pure (Or.inl ⟨rfl, rfl, rfl⟩)
  | false =>
      refine Spec.map (Spec.acquire k) ?_
      rintro id m rfl
      exact Or.inr ⟨rfl, id, rfl, rfl⟩

section Release

variable [DecidableEq K]

theorem Spec.release (y : Item K) : Spec (y ::ₘ pre) (release y) fun _ m => m = pre := by
  intro s frame hs
  have hmem : y ∈ s.held := by simp [hs]
  refine ⟨(), _, pre, if_pos hmem, ?_, rfl⟩
  simp [hs]

theorem Spec.releaseAll (l : List (Item K)) :
    Spec ((l : Multiset (Item K)) + pre) (releaseAll l) fun _ m => m = pre := by
  induction l with
  | nil => exact Spec.pure (by simp)
  | cons y rest ih =>
      have hcons : ((y :: rest : List (Item K)) : Multiset (Item K)) + pre =
          y ::ₘ (rest + pre) := by
        rw [← Multiset.cons_coe, Multiset.cons_add]
      rw [hcons]
      refine Spec.bind (Spec.release y) ?_
      rintro _ m rfl
      exact ih

/-- Either everything listed has been taken, or nothing is left of what was. -/
theorem Spec.acquireAll (outcome : K → Int) (l : List K) (got : List (Item K)) :
    Spec ((got : Multiset (Item K)) + pre) (acquireAll outcome l got) fun r m =>
      ((∀ k ∈ l, 0 ≤ outcome k) ∧ r.1 = 0 ∧ m = (r.2 : Multiset (Item K)) + pre ∧
          r.2.map Item.kind = l.reverse ++ got.map Item.kind) ∨
        (∃ k ∈ l, outcome k < 0 ∧ r = (outcome k, []) ∧ m = pre) := by
  induction l generalizing got with
  | nil => exact Spec.pure (Or.inl ⟨by simp, rfl, rfl, rfl⟩)
  | cons k rest ih =>
      unfold Resources.acquireAll
      by_cases hfail : outcome k < 0
      · -- what was taken before is given back
        simp only [hfail, if_true]
        refine Spec.bind (Spec.releaseAll got) ?_
        rintro _ m rfl
        exact Spec.pure (Or.inr ⟨k, by simp, hfail, rfl, rfl⟩)
      · simp only [hfail, if_false]
        refine Spec.bind (Spec.acquire k) ?_
        rintro id m rfl
        have hcons : (⟨id, k⟩ : Item K) ::ₘ ((got : Multiset (Item K)) + pre) =
            (⟨id, k⟩ :: got : List (Item K)) + pre := by
          rw [← Multiset.cons_coe, Multiset.cons_add]
        rw [hcons]
        refine (ih (⟨id, k⟩ :: got)).mono ?_
        rintro r m (⟨hall, hret, hm, hkinds⟩ | ⟨k', hmem, hneg, hr, hm⟩)
        · refine Or.inl ⟨?_, hret, hm, ?_⟩
          · intro k' hk'
            rcases List.mem_cons.1 hk' with rfl | hrest
            · exact not_lt.1 hfail
            · exact hall k' hrest
          · rw [hkinds, List.map_cons, List.reverse_cons, List.append_assoc]
            rfl
        · exact Or.inr ⟨k', List.mem_cons_of_mem _ hmem, hneg, hr, hm⟩

end Release

/-! ## Crashes -/

/-- Wherever `pre` is held, `x` does not run through. -/
def Crashes (pre : Multiset (Item K)) (x : Prog K α) : Prop :=
  ∀ (s : Store K) (frame : Multiset (Item K)), s.held = pre + frame → x.run s = none

theorem Crashes.failure : Crashes pre (failure : Prog K α) :=
  fun _ _ _ => rfl

theorem Crashes.bind (hx : Crashes pre x) (f : α → Prog K β) : Crashes pre (x >>= f) := by
  intro s frame hs
  rw [StateT.run_bind, hx s frame hs]
  rfl

/-- The crash may come later. -/
theorem Crashes.after (hx : Spec pre x Q) (hf : ∀ a m, Q a m → Crashes m (f a)) :
    Crashes pre (x >>= f) := by
  intro s frame hs
  rcases hx s frame hs with ⟨a, s₁, m, hrun, hheld, hQ⟩
  rw [StateT.run_bind, hrun]
  exact hf a m hQ s₁ frame hheld

end Foundation.Resources
