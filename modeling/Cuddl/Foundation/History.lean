import Cuddl.Foundation.Ledger

/-!
# Dropped counts and newer claims

A ledger whose counter can be dropped from outside holds claims that the counter no longer pays
for.  A `History` is a book of the claims on record, newest first, that remembers which of them are
newer than the last drop of their resource, and how often the resource has been dropped since it
last had no older claim.

`Covers` says that every counter pays for the newer claims of its resource, and that all claims are
paid for by the counter and the drops together.  A drop always keeps it.  Striking an older claim
takes away a count that may have been dropped already: that is safe when no newer claim of the
resource is left, or at least as many older ones as there were drops (`Spares`).
-/

namespace Foundation

structure Entry (R P : Type*) where
  resource : R
  holder : P
  newer : Bool

structure History (R P : Type*) where
  /-- The newest claim comes first. -/
  book : List (Entry R P)
  drops : R → Nat

namespace History

variable {R P : Type*} [DecidableEq R]

def empty : History R P :=
  { book := [], drops := fun _ => 0 }

def claims (h : History R P) : Multiset (R × P) :=
  (h.book.map fun e => (e.resource, e.holder) : List (R × P))

def newer (h : History R P) (r : R) : Nat :=
  h.book.countP fun e => e.resource = r ∧ e.newer = true

def older (h : History R P) (r : R) : Nat :=
  h.book.countP fun e => e.resource = r ∧ e.newer = false

def claim (h : History R P) (r : R) (p : P) : History R P :=
  { h with book := ⟨r, p, true⟩ :: h.book }

def Entry.age (r : R) (e : Entry R P) : Entry R P :=
  if e.resource = r then { e with newer := false } else e

def drop (h : History R P) (r : R) : History R P :=
  { book := h.book.map (Entry.age r)
    drops := Function.update h.drops r (h.drops r + 1) }

/-- The book after some claims have been struck. -/
def strike (h : History R P) (book : List (Entry R P)) : History R P :=
  { book := book
    drops := fun r =>
      if (book.countP fun e => e.resource = r ∧ e.newer = false) = 0 then 0 else h.drops r }

variable [DecidableEq P]

/-- The newest claim of `p` on `r` is struck. -/
def release (h : History R P) (r : R) (p : P) : History R P :=
  h.strike (h.book.eraseP fun e => e.resource = r ∧ e.holder = p)

def cleanup (h : History R P) (p : P) : History R P :=
  h.strike (h.book.filter fun e => e.holder ≠ p)

def apply (h : History R P) : Ledger.Action R P → History R P
  | .idle => h
  | .claim r p => h.claim r p
  | .drop r => h.drop r
  | .release r p => h.release r p
  | .cleanup p => h.cleanup p

end History

open History

variable {R P : Type*} [DecidableEq R]

/-- Where an older claim was struck, no newer claim is left or enough older ones. -/
def History.Spares (h h' : History R P) : Prop :=
  ∀ e ∈ h.book, h'.older e.resource < h.older e.resource →
    h'.newer e.resource = 0 ∨ h.drops e.resource ≤ h'.older e.resource

structure Covers (h : History R P) (l : Ledger R P) : Prop where
  claims : h.claims = l.held
  newer_le : ∀ r, h.newer r ≤ l.count r
  entries_le : ∀ r, h.newer r + h.older r ≤ l.count r + h.drops r

/-! ## Newer and older claims are all claims -/

theorem countP_claims (h : History R P) (r : R) :
    (h.claims.countP fun x => x.1 = r) = h.newer r + h.older r := by
  unfold History.claims History.newer History.older
  induction h.book with
  | nil => rfl
  | cons e book ih =>
      rw [List.map_cons, ← Multiset.cons_coe, Multiset.countP_cons, ih, List.countP_cons,
        List.countP_cons]
      by_cases hr : e.resource = r
      · cases hn : e.newer with
        | true => simp [hr]; omega
        | false => simp [hr]; omega
      · simp [hr]

theorem Covers.entries_eq {h : History R P} {l : Ledger R P} (hc : Covers h l) (r : R) :
    l.entries r = h.newer r + h.older r := by
  rw [← countP_claims, hc.claims]
  rfl

theorem Covers.of_empty {l : Ledger R P} (hheld : l.held = 0) : Covers History.empty l := by
  refine ⟨hheld.symm, ?_, ?_⟩
  · intro r
    exact Nat.zero_le _
  · intro r
    exact Nat.zero_le _

/-! ## Claims and drops -/

theorem Covers.claim {h : History R P} {l : Ledger R P} (hc : Covers h l) (r : R) (p : P) :
    Covers (h.claim r p) (l.claim r p) := by
  have hnewer : ∀ r', (h.claim r p).newer r' = h.newer r' + if r = r' then 1 else 0 := by
    intro r'
    simp [History.claim, History.newer, List.countP_cons]
  have holder : ∀ r', (h.claim r p).older r' = h.older r' := by
    intro r'
    simp [History.claim, History.older]
  have hcount : ∀ r', (l.claim r p).count r' = l.count r' + if r = r' then 1 else 0 := by
    intro r'
    by_cases hr : r = r'
    · subst hr
      simp [Ledger.claim]
    · have hr' : r' ≠ r := fun heq => hr heq.symm
      simp [Ledger.claim, hr, hr']
  refine ⟨?_, ?_, ?_⟩
  · have hold := hc.claims
    show _ = (r, p) ::ₘ l.held
    rw [← hold]
    rfl
  · intro r'
    have hle := hc.newer_le r'
    rw [hnewer, hcount]
    omega
  · intro r'
    have hle := hc.entries_le r'
    have hdrops : (h.claim r p).drops r' = h.drops r' := rfl
    rw [hnewer, holder, hcount, hdrops]
    omega

/-- Ageing the claims of a resource leaves those of another one as they are. -/
theorem countP_map_age_of_ne {r r' : R} (hr : r' ≠ r) (newer : Bool) (book : List (Entry R P)) :
    ((book.map (Entry.age r)).countP fun e => e.resource = r' ∧ e.newer = newer) =
      book.countP fun e => e.resource = r' ∧ e.newer = newer := by
  rw [List.countP_map]
  refine List.countP_congr ?_
  intro e _
  by_cases he : e.resource = r
  · have hne : r ≠ r' := fun heq => hr heq.symm
    simp [Entry.age, he, hne]
  · simp [Entry.age, he]

theorem newer_drop (h : History R P) (r r' : R) :
    (h.drop r).newer r' = if r' = r then 0 else h.newer r' := by
  unfold History.drop History.newer
  by_cases hr : r' = r
  · subst hr
    rw [if_pos rfl, List.countP_map, List.countP_eq_zero]
    intro e _
    by_cases he : e.resource = r'
    · simp [Entry.age, he]
    · simp [Entry.age, he]
  · rw [if_neg hr]
    exact countP_map_age_of_ne hr true h.book

theorem older_drop (h : History R P) (r r' : R) :
    (h.drop r).older r' = if r' = r then h.newer r' + h.older r' else h.older r' := by
  by_cases hr : r' = r
  · subst hr
    rw [if_pos rfl, ← countP_claims]
    unfold History.drop History.older History.claims
    rw [List.countP_map, Multiset.coe_countP, List.countP_map]
    refine List.countP_congr ?_
    intro e _
    by_cases he : e.resource = r'
    · simp [Entry.age, he]
    · simp [Entry.age, he]
  · rw [if_neg hr]
    exact countP_map_age_of_ne hr false h.book

/-- Dropping a counter that is not zero makes all claims of the resource older ones. -/
theorem Covers.drop {h : History R P} {l : Ledger R P} (hc : Covers h l) {r : R}
    (hpos : 0 < l.count r) : Covers (h.drop r) (l.drop r) := by
  refine ⟨?_, ?_, ?_⟩
  · -- a drop ages the claims of `r` and strikes none
    have hsame : (h.drop r).claims = h.claims := by
      unfold History.claims History.drop
      rw [List.map_map]
      refine congrArg _ (List.map_congr_left ?_)
      intro e _
      by_cases he : e.resource = r
      · simp [Entry.age, he]
      · simp [Entry.age, he]
    rw [hsame, hc.claims]
    rfl
  · intro r'
    have hle := hc.newer_le r'
    rw [newer_drop]
    by_cases hr : r' = r
    · rw [if_pos hr]
      exact Nat.zero_le _
    · rwa [if_neg hr, Ledger.drop_count_of_ne hr]
  · intro r'
    have hle := hc.entries_le r'
    rw [newer_drop, older_drop]
    by_cases hr : r' = r
    · subst hr
      have hdrops : (h.drop r').drops r' = h.drops r' + 1 := by
        simp [History.drop]
      rw [if_pos rfl, if_pos rfl, Ledger.drop_count_self, hdrops]
      omega
    · have hdrops : (h.drop r).drops r' = h.drops r' := by
        simp [History.drop, hr]
      rwa [if_neg hr, if_neg hr, Ledger.drop_count_of_ne hr, hdrops]

/-! ## Striking claims -/

/-- Striking claims keeps the cover when each struck claim costs one count at most and the strike
spares the newer claims. -/
theorem Covers.strike {h : History R P} {l l' : Ledger R P} (hc : Covers h l)
    {book : List (Entry R P)} (hsub : book.Sublist h.book)
    (hclaims : (h.strike book).claims = l'.held)
    (hcost : ∀ r, l.count r + l'.entries r ≤ l'.count r + l.entries r)
    (hspares : h.Spares (h.strike book)) : Covers (h.strike book) l' := by
  have hnewer : ∀ r, (h.strike book).newer r ≤ h.newer r := fun r => hsub.countP_le
  have holder : ∀ r, (h.strike book).older r ≤ h.older r := fun r => hsub.countP_le
  have hentries : ∀ r, l'.entries r = (h.strike book).newer r + (h.strike book).older r := by
    intro r
    rw [← countP_claims, hclaims]
    rfl
  -- the newer claims stay paid: where nothing older was struck, the cost fell on them alone
  have hle : ∀ r, (h.strike book).newer r ≤ l'.count r := by
    intro r
    have hbefore := hc.newer_le r
    have hpaid := hc.entries_le r
    have hcost' := hcost r
    rw [hc.entries_eq, hentries] at hcost'
    have hmono := hnewer r
    by_cases hstruck : (h.strike book).older r < h.older r
    · -- an older claim of `r` was in the book, so the condition speaks about `r`
      have hpos : 0 < h.older r := Nat.lt_of_le_of_lt (Nat.zero_le _) hstruck
      rcases List.countP_pos_iff.1 hpos with ⟨e, he, hmatch⟩
      have heq : e.resource = r := (of_decide_eq_true hmatch).1
      have hsafe := hspares e he
      rw [heq] at hsafe
      rcases hsafe hstruck with hzero | henough
      · omega
      · omega
    · omega
  refine ⟨hclaims, hle, ?_⟩
  intro r
  have hpaid := hc.entries_le r
  have hcost' := hcost r
  rw [hc.entries_eq, hentries] at hcost'
  by_cases hzero : (h.strike book).older r = 0
  · rw [hzero]
    have hnow := hle r
    omega
  · have hdrops : (h.strike book).drops r = h.drops r := if_neg hzero
    rw [hdrops]
    omega

variable [DecidableEq P]

theorem claims_release (h : History R P) (r : R) (p : P) :
    (h.release r p).claims = h.claims.erase (r, p) := by
  -- the first entry that matches is the one that `erase` takes
  unfold History.release History.claims History.strike
  induction h.book with
  | nil => rfl
  | cons e book ih =>
      rw [List.map_cons, ← Multiset.cons_coe]
      by_cases he : e.resource = r ∧ e.holder = p
      · rw [List.eraseP_cons_of_pos (by simpa using he), he.1, he.2, Multiset.erase_cons_head]
      · have hne : (e.resource, e.holder) ≠ (r, p) := fun heq =>
          he ⟨congrArg Prod.fst heq, congrArg Prod.snd heq⟩
        rw [List.eraseP_cons_of_neg (by simpa using he), Multiset.erase_cons_tail _ hne, ← ih,
          List.map_cons, ← Multiset.cons_coe]

theorem Covers.release {h : History R P} {l : Ledger R P} (hc : Covers h l) {r : R} {p : P}
    (hmem : (r, p) ∈ l.held) (hspares : h.Spares (h.release r p)) :
    Covers (h.release r p) (l.release r p) := by
  refine hc.strike List.eraseP_sublist ?_ ?_ hspares
  · show (h.release r p).claims = l.held.erase (r, p)
    rw [claims_release, hc.claims]
  · intro r'
    have hone := Ledger.entries_erase_add hmem r'
    by_cases hr : r' = r
    · subst hr
      have hcount : (l.release r' p).count r' = l.count r' - 1 := l.drop_count_self r'
      simp only [if_true] at hone
      omega
    · have hne : r ≠ r' := fun heq => hr heq.symm
      have hcount : (l.release r p).count r' = l.count r' := Ledger.drop_count_of_ne hr
      simp only [hne, if_false] at hone
      omega

theorem Covers.cleanup {h : History R P} {l : Ledger R P} (hc : Covers h l) {p : P}
    (hspares : h.Spares (h.cleanup p)) : Covers (h.cleanup p) (l.cleanup p) := by
  refine hc.strike List.filter_sublist ?_ ?_ hspares
  · show _ = l.held.filter fun x => x.2 ≠ p
    rw [← hc.claims]
    unfold History.claims History.strike
    rw [Multiset.filter_coe, List.filter_map]
    rfl
  · intro r
    have hadd := l.entries_cleanup_add p r
    have hcount : (l.cleanup p).count r = l.count r - l.held.count (r, p) := rfl
    omega

/-- What may happen to a ledger that covers its history. -/
def History.Admits (h : History R P) (l : Ledger R P) : Ledger.Action R P → Prop
  | .idle | .claim _ _ => True
  | .drop r => 0 < l.count r
  | .release r p => (r, p) ∈ l.held ∧ h.Spares (h.release r p)
  | .cleanup p => h.Spares (h.cleanup p)

theorem Covers.apply {h : History R P} {l : Ledger R P} (hc : Covers h l)
    {a : Ledger.Action R P} (ha : h.Admits l a) : Covers (h.apply a) (l.apply a) := by
  cases a with
  | idle => exact hc
  | claim r p => exact hc.claim r p
  | drop r => exact hc.drop ha
  | release r p => exact hc.release ha.1 ha.2
  | cleanup p => exact hc.cleanup ha

end Foundation
