import Mathlib.Data.List.TakeWhile

/-!
# C strings in byte buffers

A `const char *` is the list of bytes found there; a byte past the end of the list reads as the
terminator.  `text n l` is the C string that a function bounded by `n` sees in `l`: at most `n`
bytes, up to the first NUL.  `strnlen` and `strncmp` are the library loops, and both are
characterised by `text` (`strnlen_eq_length_text`, `strncmp_eq_zero_iff`), so that "equal under
`strncmp`" is an equivalence without any argument about loops.
-/

namespace Foundation
namespace CString

/-- The C string that a reader bounded by `n` sees in `l`. -/
def text : Nat → List UInt8 → List UInt8
  | 0, _ => []
  | _ + 1, [] => []
  | n + 1, c :: cs => if c = 0 then [] else c :: text n cs

theorem length_text_le : ∀ (n : Nat) (l : List UInt8), (text n l).length ≤ n
  | 0, _ => by simp [text]
  | _ + 1, [] => by simp [text]
  | n + 1, c :: cs => by
      have hrest := length_text_le n cs
      by_cases hc : c = 0
      · simp [text, hc]
      · simpa [text, hc] using hrest

/-- A reader that meets no NUL sees everything up to its bound. -/
theorem text_eq_take :
    ∀ {l : List UInt8} {n : Nat}, (∀ c ∈ l, c ≠ 0) → text n l = l.take n
  | _, 0, _ => by simp [text]
  | [], _ + 1, _ => by simp [text]
  | c :: cs, n + 1, hnz => by
      have hc : c ≠ 0 := hnz c List.mem_cons_self
      have hrest : text n cs = cs.take n :=
        text_eq_take fun d hd => hnz d (List.mem_cons_of_mem c hd)
      simp [text, hc, hrest]

/-- A string that is not longer than the bound is seen as a whole. -/
theorem text_eq_self {l : List UInt8} {n : Nat} (hnz : ∀ c ∈ l, c ≠ 0) (hn : l.length ≤ n) :
    text n l = l := by
  rw [text_eq_take hnz, List.take_of_length_le hn]

/-- The terminator hides what lies behind it. -/
theorem text_append_nul {r : List UInt8} :
    ∀ {l : List UInt8} {n : Nat}, (∀ c ∈ l, c ≠ 0) → l.length < n → text n (l ++ 0 :: r) = l
  | [], _ + 1, _, _ => by simp [text]
  | c :: cs, n + 1, hnz, hn => by
      have hc : c ≠ 0 := hnz c List.mem_cons_self
      have hrest : text n (cs ++ 0 :: r) = cs :=
        text_append_nul (fun d hd => hnz d (List.mem_cons_of_mem c hd)) (Nat.lt_of_succ_lt_succ hn)
      simp [text, hc, hrest]

/-- Padding is not seen. -/
theorem text_append_replicate {l : List UInt8} (hnz : ∀ c ∈ l, c ≠ 0) (n j : Nat) :
    text n (l ++ List.replicate j 0) = l.take n := by
  rcases Nat.lt_or_ge l.length n with hlt | hge
  · rw [List.take_of_length_le hlt.le]
    cases j with
    | zero => rw [List.replicate_zero, List.append_nil, text_eq_self hnz hlt.le]
    | succ j => rw [List.replicate_succ, text_append_nul hnz hlt]
  · -- the bound comes before the padding
    have hsame : ∀ {l r : List UInt8} {n : Nat}, n ≤ l.length → text n (l ++ r) = text n l := by
      intro l
      induction l with
      | nil =>
          intro r n hn
          rw [Nat.le_zero.1 hn]
          simp [text]
      | cons c cs ih =>
          intro r n hn
          cases n with
          | zero => simp [text]
          | succ n => simp [text, ih (Nat.le_of_succ_le_succ hn)]
    rw [hsame hge, text_eq_take hnz]

/-- A terminator splits a buffer in one way. -/
theorem append_nul_inj {a b x y : List UInt8} (ha : ∀ c ∈ a, c ≠ 0) (hb : ∀ c ∈ b, c ≠ 0)
    (h : a ++ 0 :: x = b ++ 0 :: y) : a = b := by
  have hta : text (a.length + b.length + 1) (a ++ 0 :: x) = a := text_append_nul ha (by omega)
  have htb : text (a.length + b.length + 1) (b ++ 0 :: y) = b := text_append_nul hb (by omega)
  rw [← hta, h, htb]

def strnlen : List UInt8 → Nat → Nat
  | _, 0 => 0
  | [], _ + 1 => 0
  | c :: cs, n + 1 => if c = 0 then 0 else strnlen cs n + 1

/-- `strncmp`: the first pair of differing bytes decides, a common NUL or the bound ends the
comparison. -/
def strncmp : List UInt8 → List UInt8 → Nat → Int
  | _, _, 0 => 0
  | [], [], _ + 1 => 0
  | [], d :: _, _ + 1 => if d = 0 then 0 else -1
  | c :: _, [], _ + 1 => if c = 0 then 0 else 1
  | c :: cs, d :: ds, n + 1 =>
      if c = d then
        if c = 0 then 0 else strncmp cs ds n
      else if c < d then -1 else 1

theorem strnlen_eq_length_text : ∀ (l : List UInt8) (n : Nat), strnlen l n = (text n l).length
  | [], 0 => rfl
  | _ :: _, 0 => rfl
  | [], _ + 1 => rfl
  | c :: cs, n + 1 => by
      by_cases hc : c = 0
      · simp [strnlen, text, hc]
      · simp [strnlen, text, hc, strnlen_eq_length_text cs n]

/-- A bounded reader finds something in `l` exactly when `l` is not empty as a C string. -/
theorem strnlen_pos_iff {l : List UInt8} {n : Nat} : 0 < strnlen l n ↔ text n l ≠ [] := by
  rw [strnlen_eq_length_text, List.length_pos_iff]

theorem strncmp_eq_zero_iff :
    ∀ {a b : List UInt8} {n : Nat}, strncmp a b n = 0 ↔ text n a = text n b
  | [], [], 0 => by simp [strncmp]
  | [], _ :: _, 0 => by simp [strncmp, text]
  | _ :: _, [], 0 => by simp [strncmp, text]
  | _ :: _, _ :: _, 0 => by simp [strncmp, text]
  | [], [], _ + 1 => by simp [strncmp]
  | [], d :: _, _ + 1 => by
      by_cases hd : d = 0
      · simp [strncmp, text, hd]
      · simp [strncmp, text, hd]
  | c :: _, [], _ + 1 => by
      by_cases hc : c = 0
      · simp [strncmp, text, hc]
      · simp [strncmp, text, hc]
  | c :: cs, d :: ds, n + 1 => by
      by_cases hcd : c = d
      · subst hcd
        by_cases hc : c = 0
        · -- a common NUL ends both strings, otherwise the rests decide
          simp [strncmp, text, hc]
        · simpa [strncmp, text, hc] using strncmp_eq_zero_iff (a := cs) (b := ds) (n := n)
      · -- the first differing pair decides, and it also tells the two strings apart
        have hleft : strncmp (c :: cs) (d :: ds) (n + 1) ≠ 0 := by
          by_cases hlt : c < d
          · simp [strncmp, hcd, hlt]
          · simp [strncmp, hcd, hlt]
        have hright : text (n + 1) (c :: cs) ≠ text (n + 1) (d :: ds) := by
          by_cases hc : c = 0
          · by_cases hd : d = 0
            · exact absurd (hc.trans hd.symm) hcd
            · simp [text, hc, hd]
          · by_cases hd : d = 0
            · simp [text, hc, hd]
            · simp [text, hc, hd, hcd]
        exact iff_of_false hleft hright

/-! ## Copies that may lack a terminator -/

/-- What is seen of `a` after a copy of `n` characters in front of a byte that is not written: a
copy that fills its room goes on with that byte. -/
def copied (n : Nat) (a : List UInt8) (last : UInt8) : List UInt8 :=
  a.take n ++ if a.length < n ∨ last = 0 then [] else [last]

theorem copied_of_short {n : Nat} {a : List UInt8} (h : a.length < n) (last : UInt8) :
    copied n a last = a := by
  rw [copied, if_pos (Or.inl h), List.append_nil, List.take_of_length_le h.le]

theorem copied_eq_nil_iff {n : Nat} {a : List UInt8} {last : UInt8} (hn : 0 < n) :
    copied n a last = [] ↔ a = [] := by
  constructor
  · intro h
    have htake := (List.append_eq_nil_iff.1 h).1
    rcases List.take_eq_nil_iff.1 htake with hzero | hnil
    · omega
    · exact hnil
  · rintro rfl
    exact copied_of_short hn last

/-- `strncpy` of `n` characters into `n` bytes that a last one follows. -/
theorem text_padded {n : Nat} {a : List UInt8} (hnz : ∀ c ∈ a, c ≠ 0) (last : UInt8) :
    text (n + 1) (a.take n ++ List.replicate (n - (a.take n).length) 0 ++ [last]) =
      copied n a last := by
  have hnz' : ∀ c ∈ a.take n, c ≠ 0 := fun c hc => hnz c (List.mem_of_mem_take hc)
  by_cases hshort : a.length < n
  · -- the copy is padded, at least by the terminator
    rcases Nat.exists_eq_add_of_lt hshort with ⟨m, rfl⟩
    have hpad : a.length + m + 1 - a.length = m + 1 := by omega
    rw [copied_of_short hshort, List.take_of_length_le hshort.le, hpad, List.replicate_succ,
      List.append_assoc, List.cons_append, text_append_nul hnz (by omega)]
  · have hlen : (a.take n).length = n := by
      rw [List.length_take, min_eq_left (not_lt.1 hshort)]
    rw [hlen, Nat.sub_self, List.replicate_zero, List.append_nil, copied]
    by_cases hzero : last = 0
    · rw [if_pos (Or.inr hzero), hzero, text_append_nul hnz' (by omega), List.append_nil]
    · have hall : ∀ c ∈ a.take n ++ [last], c ≠ 0 := by
        intro c hc
        rcases List.mem_append.1 hc with hc | hc
        · exact hnz' c hc
        · rw [List.mem_singleton.1 hc]
          exact hzero
      have hno : ¬ (a.length < n ∨ last = 0) := by
        rintro (hlt | heq)
        · exact hshort hlt
        · exact hzero heq
      rw [if_neg hno, text_eq_self hall (by rw [List.length_append, hlen, List.length_singleton])]

/-- Behind `n` characters, a string goes on with its next character or ends. -/
theorem take_succ_eq_copied {n : Nat} {f : List UInt8} (hnz : ∀ c ∈ f, c ≠ 0) :
    f.take (n + 1) = copied n f (f.getD n 0) := by
  rw [List.take_add_one, copied, List.getD_eq_getElem?_getD]
  cases hc : f[n]? with
  | none => simp
  | some c =>
      have hne : c ≠ 0 := hnz c (List.mem_of_getElem? hc)
      have hlen : ¬ f.length < n := by
        have hlt := (List.getElem?_eq_some_iff.1 hc).1
        omega
      simp [hne, hlen]

/-- A string reads like a copy when it has the characters that were copied and the byte behind
them goes on as it does. -/
theorem take_succ_eq_copied_iff {n : Nat} {f a : List UInt8} {last : UInt8}
    (hnz : ∀ c ∈ f, c ≠ 0) :
    f.take (n + 1) = copied n a last ↔
      f.take n = a.take n ∧ (a.length < n ∨ last = f.getD n 0) := by
  by_cases hshort : a.length < n
  · rw [copied_of_short hshort, List.take_of_length_le hshort.le]
    constructor
    · intro h
      have htake := congrArg (List.take n) h
      rw [List.take_take, min_eq_left (Nat.le_succ n), List.take_of_length_le hshort.le] at htake
      exact ⟨htake, Or.inl hshort⟩
    · rintro ⟨h, _⟩
      -- the string is as short as the copied one
      have hlen := congrArg List.length h
      rw [List.length_take] at hlen
      have hf : f.length ≤ n := by omega
      rw [List.take_of_length_le hf] at h
      rw [List.take_of_length_le (by omega), h]
  · have hlen : (a.take n).length = n := by
      rw [List.length_take, min_eq_left (not_lt.1 hshort)]
    constructor
    · intro h
      have htake := congrArg (List.take n) h
      rw [List.take_take, min_eq_left (Nat.le_succ n), copied,
        List.take_append_of_le_length hlen.ge, List.take_take, min_self] at htake
      refine ⟨htake, Or.inr ?_⟩
      have hf : ¬ f.length < n := by
        have hlen' := congrArg List.length htake
        rw [hlen, List.length_take] at hlen'
        omega
      rw [take_succ_eq_copied hnz, copied, copied, htake, List.append_cancel_left_eq] at h
      simp only [hf, hshort, false_or] at h
      by_cases hchar : f.getD n 0 = 0
      · by_cases hzero : last = 0
        · rw [hzero, hchar]
        · rw [if_pos hchar, if_neg hzero] at h
          cases h
      · by_cases hzero : last = 0
        · rw [if_neg hchar, if_pos hzero] at h
          cases h
        · rw [if_neg hchar, if_neg hzero] at h
          exact (List.cons.inj h).1.symm
    · rintro ⟨h, hlast⟩
      have hf : ¬ f.length < n := by
        have hlen' := congrArg List.length h
        rw [hlen, List.length_take] at hlen'
        omega
      rw [take_succ_eq_copied hnz, copied, copied, h, hlast.resolve_left hshort]
      simp only [hf, hshort]

end CString
end Foundation
