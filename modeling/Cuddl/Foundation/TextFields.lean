import Mathlib.Data.List.TakeWhile

/-!
# Fields and numbers in text

`cut` splits a text at the first separator.  `parseInt` reads a number the way `strtol` does in
base ten: white space, a sign, and digits up to the first character that is none (`SpellsInt`,
`parseInt_eq_some_iff`).  It reads back what `digits` has written (`parseInt_digits`,
`parseInt_minus_digits`).
-/

namespace Foundation
namespace TextFields

/-! ## Fields -/

section Cut

variable {α : Type*} [DecidableEq α] {sep : α}

/-- The text before the first separator, and the text behind it, if there is a separator. -/
def cut (sep : α) : List α → List α × Option (List α)
  | [] => ([], none)
  | c :: cs => if c = sep then ([], some cs) else (c :: (cut sep cs).1, (cut sep cs).2)

theorem cut_append {rest : List α} :
    ∀ {field : List α}, sep ∉ field → cut sep (field ++ sep :: rest) = (field, some rest)
  | [], _ => by simp [cut]
  | c :: cs, h => by
      have hc : c ≠ sep := fun heq => h (heq ▸ List.mem_cons_self)
      have hrest : cut sep (cs ++ sep :: rest) = (cs, some rest) :=
        cut_append fun hmem => h (List.mem_cons_of_mem c hmem)
      simp [cut, hc, hrest]

theorem cut_of_not_mem : ∀ {l : List α}, sep ∉ l → cut sep l = (l, none)
  | [], _ => rfl
  | c :: cs, h => by
      have hc : c ≠ sep := fun heq => h (heq ▸ List.mem_cons_self)
      have hrest : cut sep cs = (cs, none) :=
        cut_of_not_mem fun hmem => h (List.mem_cons_of_mem c hmem)
      simp [cut, hc, hrest]

theorem cut_eq_none {l field : List α} (h : cut sep l = (field, none)) : l = field ∧ sep ∉ l := by
  by_cases hmem : sep ∈ l
  · rcases List.eq_append_cons_of_mem hmem with ⟨a, b, rfl, ha⟩
    rw [cut_append ha] at h
    cases h
  · rw [cut_of_not_mem hmem] at h
    cases h
    exact ⟨rfl, hmem⟩

theorem cut_eq_some {l field rest : List α} (h : cut sep l = (field, some rest)) :
    l = field ++ sep :: rest ∧ sep ∉ field := by
  by_cases hmem : sep ∈ l
  · rcases List.eq_append_cons_of_mem hmem with ⟨a, b, rfl, ha⟩
    rw [cut_append ha] at h
    cases h
    exact ⟨rfl, ha⟩
  · rw [cut_of_not_mem hmem] at h
    cases h

end Cut

section Separators

variable {α : Type*} {sep : α} {a a' b b' : List α}

/-- Two texts with a separator in them are the same text when the separators stand in the same
place, or when each separator is also a character of a field of the other text. -/
theorem append_sep_eq_iff :
    a ++ sep :: b = a' ++ sep :: b' ↔
      (a = a' ∧ b = b') ∨ (∃ m, a' = a ++ sep :: m ∧ b = m ++ sep :: b') ∨
        ∃ m, a = a' ++ sep :: m ∧ b' = m ++ sep :: b := by
  constructor
  · intro h
    rcases List.append_eq_append_iff.1 h with ⟨m, ha, hb⟩ | ⟨m, ha, hb⟩
    · cases m with
      | nil => exact Or.inl ⟨by simpa using ha.symm, by simpa using hb⟩
      | cons c m =>
          rw [List.cons_append, List.cons.injEq] at hb
          rcases hb with ⟨rfl, hb⟩
          exact Or.inr (Or.inl ⟨m, ha, hb⟩)
    · cases m with
      | nil => exact Or.inl ⟨by simpa using ha, by simpa using hb.symm⟩
      | cons c m =>
          rw [List.cons_append, List.cons.injEq] at hb
          rcases hb with ⟨rfl, hb⟩
          exact Or.inr (Or.inr ⟨m, ha, hb⟩)
  · rintro (⟨rfl, rfl⟩ | ⟨m, rfl, rfl⟩ | ⟨m, rfl, rfl⟩)
    · rfl
    · simp
    · simp

/-- A text can be split at the last separator in one way. -/
theorem append_sep_inj (hb : sep ∉ b) (hb' : sep ∉ b') :
    a ++ sep :: b = a' ++ sep :: b' ↔ a = a' ∧ b = b' := by
  rw [append_sep_eq_iff]
  constructor
  · rintro (h | ⟨m, _, rfl⟩ | ⟨m, _, rfl⟩)
    · exact h
    · exact absurd (by simp) hb
    · exact absurd (by simp) hb'
  · exact Or.inl

end Separators

/-! ## Numbers -/

def isDigit (c : UInt8) : Bool :=
  48 ≤ c && c ≤ 57

def isSpace (c : UInt8) : Bool :=
  c == 32 || (9 ≤ c && c ≤ 13)

/-- The digits of `n`. -/
def digits (n : Nat) : List UInt8 :=
  (Nat.toDigits 10 n).map fun c => c.toNat.toUInt8

/-- The number that a string of digits stands for. -/
def value (l : List UInt8) : Nat :=
  l.foldl (fun n c => 10 * n + (c.toNat - 48)) 0

/-- The digits at the start of `l`, as a number. -/
def parseNat (l : List UInt8) : Option Nat :=
  match l.takeWhile isDigit with
  | [] => none
  | c :: cs => some (value (c :: cs))

/-- `strtol` in base ten, without a limit; `none` when there is nothing to read. -/
def parseInt (l : List UInt8) : Option Int :=
  match l.dropWhile isSpace with
  | 45 :: cs => (parseNat cs).map fun n => -(n : Int)
  | 43 :: cs => (parseNat cs).map Int.ofNat
  | cs => (parseNat cs).map Int.ofNat

theorem toNat_of_isDigit {c : Char} (h : c.isDigit = true) : c.toNat.toUInt8.toNat = c.toNat := by
  have hle : c.toNat ≤ 57 := (Char.isDigit_iff_toNat.1 h).2
  simp only [Nat.toUInt8_eq, UInt8.toNat_ofNat']
  omega

theorem isDigit_of_mem_digits {n : Nat} {c : UInt8} (h : c ∈ digits n) : isDigit c = true := by
  rcases List.mem_map.1 h with ⟨d, hd, rfl⟩
  have hdigit : d.isDigit = true := Nat.isDigit_of_mem_toDigits (by decide) (by decide) hd
  have hval := toNat_of_isDigit hdigit
  have hrange : 48 ≤ d.toNat ∧ d.toNat ≤ 57 := Char.isDigit_iff_toNat.1 hdigit
  simp only [isDigit, Bool.and_eq_true, decide_eq_true_eq, UInt8.le_iff_toNat_le]
  rw [hval]
  exact hrange

theorem digits_ne_nil (n : Nat) : digits n ≠ [] := by
  simp [digits, Nat.toDigits_ne_nil]

/-- What the digits of a number stand for is the number. -/
theorem value_digits (n : Nat) : value (digits n) = n := by
  have hfold : ∀ (l : List Char) (m : Nat), (∀ c ∈ l, c.isDigit = true) →
      (l.map fun c => c.toNat.toUInt8).foldl (fun n c => 10 * n + (c.toNat - 48)) m =
        Nat.ofDigitChars 10 l m := by
    intro l
    induction l with
    | nil =>
        intro m _
        simp
    | cons c cs ih =>
        intro m hl
        have hc := toNat_of_isDigit (hl c List.mem_cons_self)
        rw [Nat.ofDigitChars_cons, List.map_cons, List.foldl_cons, hc]
        exact ih _ fun d hd => hl d (List.mem_cons_of_mem c hd)
  have hdigits : ∀ c ∈ Nat.toDigits 10 n, c.isDigit = true := by
    intro c hc
    exact Nat.isDigit_of_mem_toDigits (by decide) (by decide) hc
  calc
    value (digits n) = Nat.ofDigitChars 10 (Nat.toDigits 10 n) 0 := hfold _ 0 hdigits
    _ = n := Nat.ofDigitChars_ten_toDigits

theorem parseNat_digits (n : Nat) : parseNat (digits n) = some n := by
  have htake : (digits n).takeWhile isDigit = digits n :=
    List.takeWhile_eq_self_iff.2 fun c hc => isDigit_of_mem_digits hc
  rcases hd : digits n with _ | ⟨c, cs⟩
  · exact absurd hd (digits_ne_nil n)
  · rw [hd] at htake
    simp only [parseNat, htake]
    rw [← hd, value_digits]

/-! ## The grammar of numbers -/

/-- The text starts with a number without a sign: digits, up to a character that is none. -/
def SpellsNat (l : List UInt8) (n : Nat) : Prop :=
  ∃ ds rest, l = ds ++ rest ∧ ds ≠ [] ∧ (∀ c ∈ ds, isDigit c = true) ∧
    (∀ c ∈ rest.head?, isDigit c = false) ∧ value ds = n

/-- The text starts with a number, after any white space and at most one sign. -/
inductive SpellsInt : List UInt8 → Int → Prop
  | space {c : UInt8} {l : List UInt8} {n : Int} (hc : isSpace c = true) (h : SpellsInt l n) :
      SpellsInt (c :: l) n
  | minus {l : List UInt8} {n : Nat} (h : SpellsNat l n) : SpellsInt (45 :: l) (-(n : Int))
  | plus {l : List UInt8} {n : Nat} (h : SpellsNat l n) : SpellsInt (43 :: l) n
  | unsigned {l : List UInt8} {n : Nat} (h : SpellsNat l n) : SpellsInt l n

theorem parseNat_of_spells {l : List UInt8} {n : Nat} (h : SpellsNat l n) :
    parseNat l = some n := by
  rcases h with ⟨ds, rest, rfl, hne, hds, hrest, rfl⟩
  have hstop : rest.takeWhile isDigit = [] := by
    cases rest with
    | nil => rfl
    | cons c cs => simp [hrest c rfl]
  have htake : (ds ++ rest).takeWhile isDigit = ds := by
    rw [List.takeWhile_append_of_pos hds, hstop, List.append_nil]
  rcases ds with _ | ⟨d, ds⟩
  · exact absurd rfl hne
  · simp only [parseNat, htake]

theorem spells_of_parseNat {l : List UInt8} {n : Nat} (h : parseNat l = some n) :
    SpellsNat l n := by
  refine ⟨l.takeWhile isDigit, l.dropWhile isDigit, List.takeWhile_append_dropWhile.symm, ?_,
    fun c hc => List.mem_takeWhile_imp hc, ?_, ?_⟩
  · intro hnil
    simp [parseNat, hnil] at h
  · intro c hc
    have hnot := List.head?_dropWhile_not isDigit l
    rw [Option.mem_def.1 hc] at hnot
    simpa using hnot
  · unfold parseNat at h
    split at h
    · cases h
    · rename_i heq
      rw [heq]
      exact Option.some.inj h

theorem not_isSpace_of_isDigit {c : UInt8} (h : isDigit c = true) : isSpace c = false := by
  simp only [isDigit, Bool.and_eq_true, decide_eq_true_eq] at h
  have hne : c ≠ 32 := by
    rintro rfl
    exact absurd h.1 (by decide)
  have hgt : ¬ c ≤ 13 := fun hle => absurd (UInt8.le_trans h.1 hle) (by decide)
  simp [isSpace, hne, hgt]

/-- A number without a sign starts with a digit. -/
theorem SpellsNat.head_isDigit {l : List UInt8} {n : Nat} (h : SpellsNat l n) :
    ∃ c cs, l = c :: cs ∧ isDigit c = true := by
  rcases h with ⟨ds, rest, rfl, hne, hds, _, _⟩
  rcases ds with _ | ⟨d, ds⟩
  · exact absurd rfl hne
  · exact ⟨d, ds ++ rest, rfl, hds d List.mem_cons_self⟩

theorem parseInt_of_spells {l : List UInt8} {n : Int} (h : SpellsInt l n) :
    parseInt l = some n := by
  induction h with
  | space hc _ ih => simpa [parseInt, hc] using ih
  | @minus l n h =>
      have hdrop : (45 :: l).dropWhile isSpace = 45 :: l := rfl
      simp [parseInt, hdrop, parseNat_of_spells h]
  | @plus l n h =>
      have hdrop : (43 :: l).dropWhile isSpace = 43 :: l := rfl
      simp [parseInt, hdrop, parseNat_of_spells h]
  | unsigned h =>
      have hparse := parseNat_of_spells h
      rcases h.head_isDigit with ⟨c, cs, rfl, hc⟩
      -- the first digit is neither a space nor a sign
      have hdrop : (c :: cs).dropWhile isSpace = c :: cs := by
        simp [not_isSpace_of_isDigit hc]
      unfold parseInt
      rw [hdrop]
      split
      · rename_i heq
        cases heq
        exact absurd hc (by decide)
      · rename_i heq
        cases heq
        exact absurd hc (by decide)
      · rw [hparse]
        rfl

theorem spells_of_parseInt {l : List UInt8} {n : Int} (h : parseInt l = some n) :
    SpellsInt l n := by
  induction l with
  | nil => cases h
  | cons c cs ih =>
      cases hc : isSpace c with
      | true =>
          refine SpellsInt.space hc (ih ?_)
          simpa [parseInt, hc] using h
      | false =>
          have hdrop : (c :: cs).dropWhile isSpace = c :: cs := by
            simp [hc]
          unfold parseInt at h
          rw [hdrop] at h
          split at h
          · rename_i heq
            cases heq
            cases hm : parseNat cs with
            | none =>
                rw [hm] at h
                cases h
            | some m =>
                rw [hm] at h
                cases h
                exact SpellsInt.minus (spells_of_parseNat hm)
          · rename_i heq
            cases heq
            rcases Option.map_eq_some_iff.1 h with ⟨m, hm, rfl⟩
            exact SpellsInt.plus (spells_of_parseNat hm)
          · rcases Option.map_eq_some_iff.1 h with ⟨m, hm, rfl⟩
            exact SpellsInt.unsigned (spells_of_parseNat hm)

/-- `parseInt` reads what the grammar says. -/
theorem parseInt_eq_some_iff {l : List UInt8} {n : Int} : parseInt l = some n ↔ SpellsInt l n :=
  ⟨spells_of_parseInt, parseInt_of_spells⟩

theorem spellsNat_digits (n : Nat) : SpellsNat (digits n) n :=
  spells_of_parseNat (parseNat_digits n)

theorem parseInt_minus_digits (n : Nat) : parseInt (45 :: digits n) = some (-(n : Int)) :=
  parseInt_of_spells (SpellsInt.minus (spellsNat_digits n))

theorem parseInt_digits (n : Nat) : parseInt (digits n) = some (n : Int) :=
  parseInt_of_spells (SpellsInt.unsigned (spellsNat_digits n))

end TextFields
end Foundation
