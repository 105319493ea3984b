import Mathlib.Order.Notation
import Cuddl.Foundation.Search

/-!
# Programs with locks

A `Prog` reads and writes a shared state one access at a time, and takes and releases locks.
`Prog.run` is what it does when nothing else runs.

`OneSection g` is the discipline of a program that touches the state only in one critical section of
the lock `g`.  Inside, it may take other locks, last taken first released (`Nested`).  The lemmas
of `Body` and `Plain` build such programs up from their parts.
-/

namespace Foundation
namespace Locking

open Search

/-! ## Programs -/

/-- One `read` or `write` is one access: a read-modify-write is a `read` and then a `write`. -/
inductive Prog (L S R : Type*)
  | ret (r : R)
  | crash
  | read (k : S → Prog L S R)
  | write (f : S → S) (k : Prog L S R)
  | lock (l : L) (k : Prog L S R)
  | unlock (l : L) (k : Prog L S R)

variable {L S R : Type*}

namespace Prog

def bind {R' : Type*} (f : R → Prog L S R') : Prog L S R → Prog L S R'
  | ret r => f r
  | crash => crash
  | read k => read fun s => (k s).bind f
  | write u k => write u (k.bind f)
  | lock l k => lock l (k.bind f)
  | unlock l k => unlock l (k.bind f)

instance : Monad (Prog L S) where
  pure := ret
  bind p f := p.bind f

/-- Read a part of the state. -/
def load {α : Type*} (f : S → α) : Prog L S α :=
  read fun s => ret (f s)

def store (f : S → S) : Prog L S Unit :=
  write f (ret ())

/-- Run a program with a lock held. -/
def locked (l : L) (p : Prog L S R) : Prog L S R :=
  lock l (p.bind fun r => unlock l (ret r))

/-- What the program does when nothing else runs; `none` is a crash. -/
def run : Prog L S R → S → Option (R × S)
  | ret r, s => some (r, s)
  | crash, _ => none
  | read k, s => (k s).run s
  | write f k, s => k.run (f s)
  | lock _ k, s => k.run s
  | unlock _ k, s => k.run s

@[simp] theorem run_pure (r : R) (s : S) : (pure r : Prog L S R).run s = some (r, s) := rfl

@[simp] theorem run_crash (s : S) : (crash : Prog L S R).run s = none := rfl

@[simp] theorem run_load {α : Type*} (f : S → α) (s : S) :
    (load f : Prog L S α).run s = some (f s, s) := rfl

@[simp] theorem run_store (f : S → S) (s : S) :
    (store f : Prog L S Unit).run s = some ((), f s) := rfl

theorem run_bind' {R' : Type*} (p : Prog L S R) (f : R → Prog L S R') (s : S) :
    (p.bind f).run s = (p.run s).bind fun x => (f x.1).run x.2 := by
  induction p generalizing s with
  | ret r => rfl
  | crash => rfl
  | read k ih => exact ih s s
  | write u k ih => exact ih (u s)
  | lock l k ih => exact ih s
  | unlock l k ih => exact ih s

@[simp] theorem run_bind {R R' : Type _} (p : Prog L S R) (f : R → Prog L S R') (s : S) :
    (p >>= f).run s = (p.run s).bind fun x => (f x.1).run x.2 :=
  run_bind' p f s

@[simp] theorem run_locked (l : L) (p : Prog L S R) (s : S) :
    (locked l p).run s = p.run s := by
  change (p.bind fun r => unlock l (ret r)).run s = p.run s
  rw [run_bind']
  cases p.run s with
  | none => rfl
  | some x => rfl

end Prog

/-! ## Critical sections -/

/-- A program without locks. -/
inductive Plain : Prog L S R → Prop
  | ret (r : R) : Plain (.ret r)
  | crash : Plain .crash
  | read {k : S → Prog L S R} : (∀ s, Plain (k s)) → Plain (.read k)
  | write {f : S → S} {k : Prog L S R} : Plain k → Plain (.write f k)

/-- What is left to run under the lock `g`, with the locks `held` taken inside; `Fin` says how the
program ends once these are released. -/
inductive Nested (g : L) (Fin : Prog L S R → Prop) : List L → Prog L S R → Prop
  | done {p : Prog L S R} : Fin p → Nested g Fin [] p
  | crash {held : List L} : Nested g Fin held .crash
  | read {held : List L} {k : S → Prog L S R} :
      (∀ s, Nested g Fin held (k s)) → Nested g Fin held (.read k)
  | write {held : List L} {f : S → S} {k : Prog L S R} :
      Nested g Fin held k → Nested g Fin held (.write f k)
  | lock {held : List L} {l : L} {k : Prog L S R} :
      l ≠ g → l ∉ held → Nested g Fin (l :: held) k → Nested g Fin held (.lock l k)
  | unlock {held : List L} {l : L} {k : Prog L S R} :
      l ≠ g → l ∉ held → Nested g Fin held k → Nested g Fin (l :: held) (.unlock l k)

def IsRet (p : Prog L S R) : Prop :=
  ∃ r, p = .ret r

/-- The program releases `g` and returns. -/
def Leaves (g : L) (p : Prog L S R) : Prop :=
  ∃ r, p = .unlock g (.ret r)

/-- The body of a critical section of `g`. -/
abbrev Body (g : L) (p : Prog L S R) : Prop :=
  Nested g IsRet [] p

/-- The program returns at once, or is one critical section of `g`. -/
inductive OneSection (g : L) : Prog L S R → Prop
  | ret (r : R) : OneSection g (.ret r)
  | enter {k : Prog L S R} : Nested g (Leaves g) [] k → OneSection g (.lock g k)

section Composition

variable {R' : Type*} {g : L} {Fin : Prog L S R' → Prop}

theorem Plain.nested_bind {held : List L} {p : Prog L S R} {f : R → Prog L S R'} (hp : Plain p)
    (hf : ∀ r, Nested g Fin held (f r)) : Nested g Fin held (p.bind f) := by
  induction hp with
  | ret r => exact hf r
  | crash => exact .crash
  | read _ ih => exact .read ih
  | write _ ih => exact .write ih

theorem Nested.bind {held : List L} {p : Prog L S R} {f : R → Prog L S R'}
    (hp : Nested g IsRet held p) (hf : ∀ r, Nested g Fin [] (f r)) :
    Nested g Fin held (p.bind f) := by
  induction hp with
  | done hret =>
      rcases hret with ⟨r, rfl⟩
      exact hf r
  | crash => exact .crash
  | read _ ih => exact .read ih
  | write _ ih => exact .write ih
  | lock hne hfresh _ ih => exact .lock hne hfresh ih
  | unlock hne hfresh _ ih => exact .unlock hne hfresh ih

theorem Body.bind {R R' : Type _} {p : Prog L S R} {f : R → Prog L S R'} (hp : Body g p)
    (hf : ∀ r, Body g (f r)) : Body g (p >>= f) :=
  Nested.bind hp hf

theorem Body.pure (r : R) : Body g (pure r : Prog L S R) :=
  .done ⟨r, rfl⟩

theorem Plain.body {p : Prog L S R} (hp : Plain p) : Body g p := by
  induction hp with
  | ret r => exact .done ⟨r, rfl⟩
  | crash => exact .crash
  | read _ ih => exact .read ih
  | write _ ih => exact .write ih

/-- A program without locks, run under a second lock. -/
theorem Plain.locked {l : L} {p : Prog L S R} (hp : Plain p) (hne : l ≠ g) :
    Body g (p.locked l) :=
  .lock hne List.not_mem_nil
    (hp.nested_bind fun r => .unlock hne List.not_mem_nil (.done ⟨r, rfl⟩))

theorem Body.oneSection {p : Prog L S R} (hp : Body g p) : OneSection g (p.locked g) :=
  .enter (Nested.bind hp fun r => .done ⟨r, rfl⟩)

/-- What a program does with its result after the critical section. -/
theorem OneSection.map {p : Prog L S R} (hp : OneSection g p) (f : R → R') :
    OneSection g (p.bind fun r => .ret (f r)) := by
  have hend : ∀ {held : List L} {q : Prog L S R}, Nested g (Leaves g) held q →
      Nested g (Leaves g) held (q.bind fun r => .ret (f r)) := by
    intro held q hq
    induction hq with
    | done hleaves =>
        rcases hleaves with ⟨r, rfl⟩
        exact .done ⟨f r, rfl⟩
    | crash => exact .crash
    | read _ ih => exact .read ih
    | write _ ih => exact .write ih
    | lock hne hfresh _ ih => exact .lock hne hfresh ih
    | unlock hne hfresh _ ih => exact .unlock hne hfresh ih
  cases hp with
  | ret r => exact .ret (f r)
  | enter hk => exact .enter (hend hk)

theorem Plain.bind {R R' : Type _} {p : Prog L S R} {f : R → Prog L S R'} (hp : Plain p)
    (hf : ∀ r, Plain (f r)) : Plain (p >>= f) := by
  change Plain (p.bind f)
  induction hp with
  | ret r => exact hf r
  | crash => exact .crash
  | read _ ih => exact .read ih
  | write _ ih => exact .write ih

theorem Plain.load {α : Type*} (f : S → α) : Plain (Prog.load f : Prog L S α) :=
  .read fun _ => .ret _

theorem Plain.store (f : S → S) : Plain (Prog.store f : Prog L S Unit) :=
  .write (.ret ())

end Composition

/-! ## Searches -/

section Scan

variable {n : Nat} {g : L}

/-- A search that looks at one slot at a time. -/
def scan (p : Fin n → S → Bool) : Nat → Nat → Prog L S (Option (Fin n))
  | 0, _ => pure none
  | fuel + 1, i =>
      if h : i < n then do
        if ← Prog.load (p ⟨i, h⟩) then pure (some ⟨i, h⟩) else scan p fuel (i + 1)
      else
        pure none

def scanFrom (p : Fin n → S → Bool) (start : Nat) : Prog L S (Option (Fin n)) :=
  scan p (n - start) start

theorem run_scan (p : Fin n → S → Bool) (fuel i : Nat) (s : S) :
    (scan p fuel i : Prog L S _).run s = some (searchLoop (fun j => p j s) fuel i, s) := by
  induction fuel generalizing i with
  | zero => rfl
  | succ fuel ih =>
      by_cases hi : i < n
      · by_cases hp : p ⟨i, hi⟩ s = true
        · simp [scan, searchLoop, hi, hp]
        · simp [scan, searchLoop, hi, hp, ih]
      · simp [scan, searchLoop, hi]

@[simp] theorem run_scanFrom (p : Fin n → S → Bool) (start : Nat) (s : S) :
    (scanFrom p start : Prog L S _).run s = some (searchFrom (fun j => p j s) start, s) :=
  run_scan p _ _ s

theorem plain_scan (p : Fin n → S → Bool) (fuel i : Nat) :
    Plain (scan p fuel i : Prog L S _) := by
  induction fuel generalizing i with
  | zero => exact .ret none
  | succ fuel ih =>
      unfold scan
      split
      · refine (Plain.load _).bind fun b => ?_
        split
        · exact .ret _
        · exact ih _
      · exact .ret none

theorem body_scanFrom (p : Fin n → S → Bool) (start : Nat) :
    Body g (scanFrom p start : Prog L S _) :=
  (plain_scan p _ _).body

end Scan

end Locking
end Foundation
