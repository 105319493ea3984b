import Cuddl.Properties.FullNames

/-!
# The grammar of full names

`full_name` takes up to three slashes as separators; what is behind the third is the instance.  It
leaves that text to `stoi`, which reads a number at its start and does not say that something is
left: the instance is what the text spells, or `-1`, except where `stoi` reads a number from a text
that is not the decimal form of it (`nameParser_iff`).
-/

namespace Cuddl
namespace User

open Foundation.CString Foundation.TextFields

/-! ## The grammar -/

/-- The parts of a full name; a name with less than three slashes has no instance part. -/
structure NameParts where
  group : List UInt8
  device : List UInt8
  resource : List UInt8
  instanceStr : Option (List UInt8)

/-- `s` consists of these parts. -/
inductive HasParts : List UInt8 → NameParts → Prop
  | device {d : List UInt8} (hd : slash ∉ d) : HasParts d ⟨[], d, [], none⟩
  | groupDevice {g d : List UInt8} (hg : slash ∉ g) (hd : slash ∉ d) :
      HasParts (g ++ slash :: d) ⟨g, d, [], none⟩
  | groupDeviceResource {g d r : List UInt8} (hg : slash ∉ g) (hd : slash ∉ d) (hr : slash ∉ r) :
      HasParts (g ++ slash :: (d ++ slash :: r)) ⟨g, d, r, none⟩
  | full {g d r t : List UInt8} (hg : slash ∉ g) (hd : slash ∉ d) (hr : slash ∉ r) :
      HasParts (g ++ slash :: (d ++ slash :: (r ++ slash :: t))) ⟨g, d, r, some t⟩

def IsInt (n : Int) : Prop :=
  -2147483648 ≤ n ∧ n ≤ 2147483647

/-- The instance that an instance part stands for: the number whose decimal form it is, zero when
there is nothing, and -1 for any other text. -/
inductive StandsFor : Option (List UInt8) → Int → Prop
  | absent : StandsFor none 0
  | empty : StandsFor (some []) 0
  | number {n : Int} (hn : IsInt n) : StandsFor (some (decimal n)) n
  | other {t : List UInt8} (ht : t ≠ []) (hno : ∀ n, IsInt n → t ≠ decimal n) :
      StandsFor (some t) (-1)

/-- The parts before the instance fit into the fields of an id. -/
structure NameParts.Fit (parts : NameParts) : Prop where
  group : parts.group.length < maxStrLen
  device : parts.device.length < maxStrLen
  resource : parts.resource.length < maxStrLen

/-- The getters of the id return the parts. -/
structure ReadAs (id : ResourceId) (parts : NameParts) : Prop where
  group : text maxStrLen id.group = parts.group
  device : text maxStrLen id.device = parts.device
  resource : text maxStrLen id.resource = parts.resource
  instanceId : StandsFor parts.instanceStr id.instanceId

/-- An instance part that starts with an `int` is the decimal form of it, or the `int` is -1. -/
def NameParts.Strict (parts : NameParts) : Prop :=
  ∀ t, parts.instanceStr = some t → ∀ n, IsInt n → SpellsInt t n → t = decimal n ∨ n = -1

/-! ## Splitting a name -/

/-- The three searches of `full_name` for a slash. -/
def partsOf (name : List UInt8) : NameParts :=
  match cut slash name with
  | (device, none) => ⟨[], device, [], none⟩
  | (group, some rest) =>
      match cut slash rest with
      | (device, none) => ⟨group, device, [], none⟩
      | (device, some rest) =>
          match cut slash rest with
          | (resource, none) => ⟨group, device, resource, none⟩
          | (resource, some instanceStr) => ⟨group, device, resource, some instanceStr⟩

theorem hasParts_partsOf (name : List UInt8) : HasParts name (partsOf name) := by
  unfold partsOf
  split
  · rename_i device hcut
    rcases cut_eq_none hcut with ⟨rfl, hd⟩
    exact HasParts.device hd
  · rename_i group rest hcut
    rcases cut_eq_some hcut with ⟨rfl, hg⟩
    split
    · rename_i device hcut
      rcases cut_eq_none hcut with ⟨rfl, hd⟩
      exact HasParts.groupDevice hg hd
    · rename_i device rest hcut
      rcases cut_eq_some hcut with ⟨rfl, hd⟩
      split
      · rename_i resource hcut
        rcases cut_eq_none hcut with ⟨rfl, hr⟩
        exact HasParts.groupDeviceResource hg hd hr
      · rename_i resource instanceStr hcut
        rcases cut_eq_some hcut with ⟨rfl, hr⟩
        exact HasParts.full hg hd hr

theorem HasParts.partsOf_eq {name : List UInt8} {parts : NameParts} (h : HasParts name parts) :
    partsOf name = parts := by
  cases h with
  | device hd => simp only [partsOf, cut_of_not_mem hd]
  | groupDevice hg hd => simp only [partsOf, cut_append hg, cut_of_not_mem hd]
  | groupDeviceResource hg hd hr =>
      simp only [partsOf, cut_append hg, cut_append hd, cut_of_not_mem hr]
  | full hg hd hr => simp only [partsOf, cut_append hg, cut_append hd, cut_append hr]

/-- The grammar is unambiguous, and every text is in it. -/
theorem existsUnique_parts (name : List UInt8) : ∃! parts, HasParts name parts :=
  ⟨partsOf name, hasParts_partsOf name, fun _ h => h.partsOf_eq.symm⟩

/-- What `full_name` does with the parts. -/
def assign (parts : NameParts) : ResourceId :=
  ResourceID.setInstanceStr
    (ResourceID.setResource
      (ResourceID.setDevice (ResourceID.setGroup ResourceID.zeroed parts.group) parts.device)
      parts.resource)
    (parts.instanceStr.getD [])

theorem strncpy_cleared_nil :
    strncpy (List.replicate maxStrLen 0) [] (maxStrLen - 1) = List.replicate maxStrLen 0 := by
  decide +kernel

/-- A part that is not there leaves its field cleared. -/
theorem HasParts.ofFullName_eq {name : List UInt8} {parts : NameParts} (h : HasParts name parts) :
    ResourceID.ofFullName name = assign parts := by
  have hgroup : ResourceID.setGroup ResourceID.zeroed [] = ResourceID.zeroed := by
    rw [ResourceID.setGroup, ResourceID.zeroed, strncpy_cleared_nil]
  have hresource : ∀ id : ResourceId, id.resource = List.replicate maxStrLen 0 →
      ResourceID.setResource id [] = id := by
    intro id hid
    rw [ResourceID.setResource, hid, strncpy_cleared_nil, ← hid]
  cases h with
  | device hd =>
      simp only [ResourceID.ofFullName, cut_of_not_mem hd, assign, hgroup, Option.getD_none]
      rw [hresource _ rfl]
      rfl
  | groupDevice hg hd =>
      simp only [ResourceID.ofFullName, cut_append hg, cut_of_not_mem hd, assign, Option.getD_none]
      rw [hresource _ rfl]
      rfl
  | groupDeviceResource hg hd hr =>
      simp only [ResourceID.ofFullName, cut_append hg, cut_append hd, cut_of_not_mem hr]
      rfl
  | full hg hd hr =>
      simp only [ResourceID.ofFullName, cut_append hg, cut_append hd, cut_append hr]
      rfl

/-! ## The instance -/

theorem stoi_eq_some_iff {t : List UInt8} {n : Int} :
    stoi t = some n ↔ SpellsInt t n ∧ IsInt n := by
  rw [stoi, Option.filter_eq_some_iff, parseInt_eq_some_iff]
  simp [IsInt]

/-- Setting the instance leaves the copied parts as they are. -/
theorem assign_fields (parts : NameParts) :
    (assign parts).group =
        strncpy (List.replicate maxStrLen 0) parts.group (maxStrLen - 1) ∧
      (assign parts).device =
        strncpy (List.replicate maxStrLen 0) parts.device (maxStrLen - 1) ∧
      (assign parts).resource =
        strncpy (List.replicate maxStrLen 0) parts.resource (maxStrLen - 1) := by
  unfold assign ResourceID.setInstanceStr
  split
  · exact ⟨rfl, rfl, rfl⟩
  · exact ⟨rfl, rfl, rfl⟩

theorem assign_instanceId (parts : NameParts) :
    (assign parts).instanceId =
      if 0 < (parts.instanceStr.getD []).length then (stoi (parts.instanceStr.getD [])).getD (-1)
      else 0 := by
  unfold assign ResourceID.setInstanceStr
  split
  · rfl
  · rfl

theorem StandsFor.eq_decimal {t : List UInt8} {i : Int} (h : StandsFor (some t) i) (ht : t ≠ []) :
    t = decimal i ∨ i = -1 := by
  generalize hsome : some t = part at h
  cases h with
  | absent => cases hsome
  | empty => exact absurd (Option.some.inj hsome) ht
  | number => exact Or.inl (Option.some.inj hsome)
  | other => exact Or.inr rfl

/-- What `stoi` makes of a text is what the text stands for exactly when the text is strict. -/
theorem standsFor_stoi_iff {t : List UInt8} (ht : t ≠ []) :
    StandsFor (some t) ((stoi t).getD (-1)) ↔
      ∀ n, IsInt n → SpellsInt t n → t = decimal n ∨ n = -1 := by
  have hread : ∀ {n}, IsInt n → SpellsInt t n → stoi t = some n := fun hn hspells =>
    stoi_eq_some_iff.2 ⟨hspells, hn⟩
  have hdecimal : ∀ {n}, IsInt n → t = decimal n → stoi t = some n := by
    rintro n hn rfl
    exact stoi_decimal hn
  cases hstoi : stoi t with
  | none =>
      -- an exception: the text is not the decimal form of anything either
      refine iff_of_true (StandsFor.other ht ?_) ?_
      · intro n hn heq
        cases hstoi.symm.trans (hdecimal hn heq)
      · intro n hn hspells
        cases hstoi.symm.trans (hread hn hspells)
  | some m =>
      rcases stoi_eq_some_iff.1 hstoi with ⟨hspells, hm⟩
      constructor
      · intro hstands n hn hspells'
        cases hstoi.symm.trans (hread hn hspells')
        exact hstands.eq_decimal ht
      · intro hstrict
        by_cases heq : t = decimal m
        · rw [heq]
          exact StandsFor.number hm
        · -- the -1 of the text is the -1 of the exception handler
          have hneg : m = -1 := (hstrict m hm hspells).resolve_left heq
          rw [hneg]
          refine StandsFor.other ht ?_
          intro n hn hform
          cases hstoi.symm.trans (hdecimal hn hform)
          exact heq hform

theorem standsFor_assign_iff (parts : NameParts) :
    StandsFor parts.instanceStr (assign parts).instanceId ↔ parts.Strict := by
  rw [assign_instanceId, NameParts.Strict]
  cases parts.instanceStr with
  | none =>
      refine iff_of_true StandsFor.absent ?_
      rintro t ⟨⟩
  | some t =>
      by_cases ht : t = []
      · rw [ht]
        refine iff_of_true StandsFor.empty ?_
        rintro _ ⟨⟩ n _ hspells
        cases parseInt_of_spells hspells
      · have hlen : 0 < t.length := List.length_pos_iff.2 ht
        simp only [Option.getD_some, hlen, if_true, standsFor_stoi_iff ht]
        constructor
        · rintro h _ ⟨⟩
          exact h
        · intro h
          exact h t rfl

/-! ## What the parser accepts -/

/-- The parts before the instance are parts of the text. -/
theorem HasParts.mem_of_mem {name : List UInt8} {parts : NameParts} (h : HasParts name parts)
    {c : UInt8} (hc : c ∈ parts.group ∨ c ∈ parts.device ∨ c ∈ parts.resource) : c ∈ name := by
  cases h with
  | device => simpa using hc
  | groupDevice =>
      rcases hc with hc | hc | hc
      · simp [hc]
      · simp [hc]
      · simp at hc
  | groupDeviceResource =>
      rcases hc with hc | hc | hc
      · simp [hc]
      · simp [hc]
      · simp [hc]
  | full =>
      rcases hc with hc | hc | hc
      · simp [hc]
      · simp [hc]
      · simp [hc]

/-- Every text without NUL has parts in one way, and parts that fit are read as they are, exactly
when the instance part is strict. -/
theorem nameParser_iff {name : List UInt8} (hnul : 0 ∉ name) :
    (∃! parts, HasParts name parts) ∧
      ∀ parts, HasParts name parts → parts.Fit →
        (ReadAs (ResourceID.ofFullName name) parts ↔ parts.Strict) := by
  refine ⟨existsUnique_parts name, ?_⟩
  intro parts hparts hfit
  have hne : ∀ c, c ∈ parts.group ∨ c ∈ parts.device ∨ c ∈ parts.resource → c ≠ 0 := by
    rintro c hc rfl
    exact hnul (hparts.mem_of_mem hc)
  have hid := hparts.ofFullName_eq
  rw [hid, ← standsFor_assign_iff]
  constructor
  · exact ReadAs.instanceId
  · intro hstands
    rcases assign_fields parts with ⟨hgroup, hdevice, hresource⟩
    refine ⟨?_, ?_, ?_, hstands⟩
    · rw [hgroup]
      exact text_strncpy_cleared hfit.group fun c hc => hne c (Or.inl hc)
    · rw [hdevice]
      exact text_strncpy_cleared hfit.device fun c hc => hne c (Or.inr (Or.inl hc))
    · rw [hresource]
      exact text_strncpy_cleared hfit.resource fun c hc => hne c (Or.inr (Or.inr hc))

theorem nameParser_plain :
    (∃! parts, HasParts (ascii "g/x/bar/7") parts) ∧
      ∀ parts, HasParts (ascii "g/x/bar/7") parts → parts.Fit →
        (ReadAs (ResourceID.ofFullName (ascii "g/x/bar/7")) parts ↔ parts.Strict) :=
  nameParser_iff (by decide +kernel)

/-- `1x` is not a number, and is read as 1. -/
theorem trailing_text_accepted :
    HasParts (ascii "g/x/bar/1x") ⟨ascii "g", ascii "x", ascii "bar", some (ascii "1x")⟩ ∧
      NameParts.Fit ⟨ascii "g", ascii "x", ascii "bar", some (ascii "1x")⟩ ∧
      (ResourceID.ofFullName (ascii "g/x/bar/1x")).instanceId = 1 ∧
      ¬ ReadAs (ResourceID.ofFullName (ascii "g/x/bar/1x"))
        ⟨ascii "g", ascii "x", ascii "bar", some (ascii "1x")⟩ := by
  have hsplit : ascii "g/x/bar/1x" =
      ascii "g" ++ slash :: (ascii "x" ++ slash :: (ascii "bar" ++ slash :: ascii "1x")) := by
    decide +kernel
  have hread : (ResourceID.ofFullName (ascii "g/x/bar/1x")).instanceId = 1 := by decide +kernel
  refine ⟨?_, ⟨by decide +kernel, by decide +kernel, by decide +kernel⟩, hread, ?_⟩
  · rw [hsplit]
    exact HasParts.full (by decide +kernel) (by decide +kernel) (by decide +kernel)
  · intro h
    have hstands := h.instanceId
    rw [hread] at hstands
    rcases hstands.eq_decimal (by decide +kernel) with heq | heq
    · exact absurd heq (by decide +kernel)
    · exact absurd heq (by decide)

end User
end Cuddl
