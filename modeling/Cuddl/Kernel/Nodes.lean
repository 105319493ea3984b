import Cuddl.Foundation.Paging
import Cuddl.Kernel.System

/-!
# Device nodes

What `cuddlk_device_register` tells UIO and UDD about the memory regions of a device, and the nodes
that lead there.  UIO and UDD are not part of this repository; of their work the model has two
tables, one of the numbers and one of the names that are registered.  A number that UIO assigns is
not in use, and UDD refuses a name that is.
-/

namespace Cuddl

open Foundation.Paging

/-- `struct uio_mem` -/
structure UioMem where
  name : Option KStr
  addr : UInt64
  offs : UInt64
  size : UInt64
  memtype : Int

/-- `struct udd_memregion` -/
structure UddMemregion where
  name : Option KStr
  addr : UInt64
  len : UInt64
  type : Int

/-- What the registration loop writes to `uio->mem[i]`.  The bound of that array is the number of
regions of a device, and so is that of the next one. -/
def Memregion.uioMem (m : Memregion) : UioMem :=
  { name := m.name
    addr := m.paAddr
    offs := m.startOffset
    size := m.paLen
    memtype := m.type }

/-- What the registration loop writes to `udd->mem_regions[i]`. -/
def Memregion.uddMemregion (m : Memregion) : UddMemregion :=
  { name := m.name
    addr := m.paAddr
    len := m.paLen
    type := m.type }

/-- `UIO_MAX_DEVICES` -/
def uioMaxDevices : Nat := 2 ^ 20

/-- What is registered with UIO, by minor number, and with UDD, by device name. -/
structure Nodes where
  uio : Nat → Option (Fin (ResourceKind.max .memregion) → UioMem)
  udd : List UInt8 → Option (Fin (ResourceKind.max .memregion) → UddMemregion)

def Nodes.empty : Nodes :=
  { uio := fun _ => none
    udd := fun _ => none }

def Device.minor (dev : Device) : Nat :=
  (dev.priv.uio.uioDev.map UioDevice.minor).getD 0

def Device.uniqueNameD (dev : Device) : List UInt8 :=
  dev.priv.uniqueName.getD []

def Device.uioMems (dev : Device) : Fin (ResourceKind.max .memregion) → UioMem :=
  fun i => (dev.mem i).uioMem

def Device.uddMemregions (dev : Device) : Fin (ResourceKind.max .memregion) → UddMemregion :=
  fun i => (dev.mem i).uddMemregion

/-- One call for the device `dev`; `none` is an outcome that UIO and UDD do not have. -/
def RegCall.onNodes (dev : Device) : RegCall → Nodes → Option Nodes
  | .uioRegister ret, n =>
      if ret ≠ 0 then some n
      else if n.uio dev.minor = none ∧ dev.minor < uioMaxDevices then
        some { n with uio := Function.update n.uio dev.minor (some dev.uioMems) }
      else none
  | .uioUnregister, n => some { n with uio := Function.update n.uio dev.minor none }
  | .uddRegister ret, n =>
      if ret ≠ 0 then some n
      else if n.udd dev.uniqueNameD = none then
        some { n with udd := Function.update n.udd dev.uniqueNameD (some dev.uddMemregions) }
      else none
  | .uddUnregister ret, n =>
      if ret ≠ 0 then some n
      else some { n with udd := Function.update n.udd dev.uniqueNameD none }
  | .kasprintf _, n | .kfree _, n => some n

def onNodes (dev : Device) : List RegCall → Nodes → Option Nodes
  | [], n => some n
  | c :: cs, n => (c.onNodes dev n).bind (onNodes dev cs)

/-- What an action of the manager does to the nodes. -/
def nodesExec (cfg : Config) (a : Op) (s : KernelState) (n : Nodes) : Option Nodes :=
  match a with
  | .manage p out =>
      let managed := deviceManage cfg s p out
      onNodes (managed.state.heap p) managed.calls n
  | .release p out => onNodes (s.heap p) (deviceRelease cfg s p out).calls n
  | _ => some n

/-! ## Opening and mapping -/

/-- An open file with the region that an offset selects in it. -/
inductive NodeMap
  | uio (minor : Nat) (i : Fin (ResourceKind.max .memregion))
  | udd (name : List UInt8) (i : Fin (ResourceKind.max .memregion))

/-- The path of the node. -/
def NodeMap.path : NodeMap → List UInt8
  | .uio minor _ => ascii "/dev/uio" ++ decimal minor
  | .udd name i => ascii "/dev/rtdm/" ++ name ++ ascii ",mapper" ++ decimal i

/-- The `offset` argument of the `mmap`: UIO takes the number of the region from it. -/
def NodeMap.offset (cfg : Config) : NodeMap → UInt64
  | .uio _ i => UInt64.ofNat i * cfg.pageSize
  | .udd _ _ => 0

/-- The start of what a mapping shows: an address in the kind of memory that the driver named. -/
def Nodes.place (n : Nodes) : NodeMap → Option (Place Int)
  | .uio minor i => (n.uio minor).map fun mems => ⟨(mems i).memtype, (mems i).addr.toNat⟩
  | .udd name i => (n.udd name).map fun mems => ⟨(mems i).type, (mems i).addr.toNat⟩

/-! ## What the calls of the manager do -/

/-- What is registered in `n` is registered in `n'`. -/
structure Nodes.Keeps (cfg : Config) (n n' : Nodes) : Prop where
  uio : ∀ {minor mems}, n.uio minor = some mems → n'.uio minor = some mems
  udd : ∀ {name mems}, n.udd name = some mems → n'.udd name = some mems
  udd_same : cfg.useUdd = false → n'.udd = n.udd

theorem Nodes.Keeps.refl (cfg : Config) (n : Nodes) : n.Keeps cfg n :=
  ⟨id, id, fun _ => rfl⟩

/-- The device has been registered where nothing was. -/
structure Nodes.Added (cfg : Config) (n n' : Nodes) (dev : Device) : Prop where
  minor_free : n.uio dev.minor = none
  minor_lt : dev.minor < uioMaxDevices
  uio : n'.uio = Function.update n.uio dev.minor (some dev.uioMems)
  name_free : cfg.useUdd = true → n.udd dev.uniqueNameD = none
  udd : cfg.useUdd = true →
    n'.udd = Function.update n.udd dev.uniqueNameD (some dev.uddMemregions)
  udd_same : cfg.useUdd = false → n'.udd = n.udd

theorem Nodes.Added.keeps {cfg : Config} {n n' : Nodes} {dev : Device} (h : n.Added cfg n' dev) :
    n.Keeps cfg n' := by
  refine ⟨?_, ?_, h.udd_same⟩
  · intro minor mems hmems
    have hne : minor ≠ dev.minor := by
      rintro rfl
      rw [h.minor_free] at hmems
      cases hmems
    rw [h.uio, Function.update_of_ne hne, hmems]
  · intro name mems hmems
    cases hcfg : cfg.useUdd with
    | false => rw [h.udd_same hcfg, hmems]
    | true =>
        have hne : name ≠ dev.uniqueNameD := by
          rintro rfl
          rw [h.name_free hcfg] at hmems
          cases hmems
        rw [h.udd hcfg, Function.update_of_ne hne, hmems]

theorem onNodes_append (dev : Device) (cs ds : List RegCall) (n : Nodes) :
    onNodes dev (cs ++ ds) n = (onNodes dev cs n).bind (onNodes dev ds) := by
  induction cs generalizing n with
  | nil => rfl
  | cons c cs ih =>
      cases hc : c.onNodes dev n with
      | none => simp [onNodes, hc]
      | some n₁ => simp [onNodes, hc, ih]

section Calls

variable {cfg : Config} {dev d : Device} {out : RegOutcome} {n n' : Nodes}

theorem onNodes_register_udd (h : onNodes dev [.uddRegister 0] n = some n') :
    n.udd dev.uniqueNameD = none ∧ n'.uio = n.uio ∧
      n'.udd = Function.update n.udd dev.uniqueNameD (some dev.uddMemregions) := by
  by_cases hfree : n.udd dev.uniqueNameD = none
  · simp only [onNodes, RegCall.onNodes, hfree, ne_eq, not_true_eq_false, if_false, if_true,
      Option.bind_some, Option.some.injEq] at h
    cases h
    exact ⟨hfree, rfl, rfl⟩
  · simp [onNodes, RegCall.onNodes, hfree] at h

theorem onNodes_register_uio {cs : List RegCall}
    (h : onNodes dev (.uioRegister 0 :: cs) n = some n') :
    n.uio dev.minor = none ∧ dev.minor < uioMaxDevices ∧
      onNodes dev cs { n with uio := Function.update n.uio dev.minor (some dev.uioMems) } =
        some n' := by
  by_cases hfree : n.uio dev.minor = none ∧ dev.minor < uioMaxDevices
  · simp only [onNodes, RegCall.onNodes, hfree, ne_eq, not_true_eq_false, if_false, and_self,
      if_true, Option.bind_some] at h
    exact ⟨hfree.1, hfree.2, h⟩
  · simp [onNodes, RegCall.onNodes, hfree] at h

/-- The calls of a registration, up to the one that fails, and what takes them back. -/
inductive RegisterCalls (cfg : Config) : Int → List RegCall → Prop
  | early {ret : Int} (fails : ret ≠ 0) : RegisterCalls cfg ret []
  | uio {ret : Int} {unique : List UInt8} {freed : Option (List UInt8)} (fails : ret ≠ 0) :
      RegisterCalls cfg ret [.kasprintf unique, .uioRegister ret, .kfree freed]
  | udd {ret : Int} {unique : List UInt8} {freed : Option (List UInt8)} (fails : ret ≠ 0) :
      RegisterCalls cfg ret
        [.kasprintf unique, .uioRegister 0, .uddRegister ret, .uioUnregister, .kfree freed]
  | withUdd {unique : List UInt8} (built : cfg.useUdd = true) :
      RegisterCalls cfg 0 [.kasprintf unique, .uioRegister 0, .uddRegister 0]
  | plain {unique : List UInt8} (built : cfg.useUdd = false) :
      RegisterCalls cfg 0 [.kasprintf unique, .uioRegister 0]

theorem registerCalls (cfg : Config) (d : Device) (out : RegOutcome) :
    RegisterCalls cfg (deviceRegister cfg d out).ret (deviceRegister cfg d out).calls := by
  -- the cases follow the error exits of the code, from the first to the last
  unfold deviceRegister
  split
  · exact RegisterCalls.early (by simp [Errno.EINVAL])
  · exact RegisterCalls.early (by simp [Errno.EINVAL])
  · split
    · exact RegisterCalls.early (by simp [Errno.ENOMEM])
    · dsimp only
      split
      · rename_i huio
        exact RegisterCalls.uio huio
      · rename_i huio
        rw [not_not] at huio
        rw [huio]
        split
        · rename_i hcfg
          split
          · rename_i hudd
            exact RegisterCalls.udd hudd
          · rename_i hudd
            rw [not_not] at hudd
            rw [hudd]
            exact RegisterCalls.withUdd hcfg
        · rename_i hcfg
          exact RegisterCalls.plain (by simpa using hcfg)

/-- A registration that succeeds has added the device, one that fails has left everything that was
there. -/
theorem RegisterCalls.onNodes {ret : Int} {cs : List RegCall} (hcalls : RegisterCalls cfg ret cs)
    (h : onNodes dev cs n = some n') :
    (ret = 0 → n.Added cfg n' dev) ∧ (ret ≠ 0 → n.Keeps cfg n') := by
  cases hcalls with
  | early hfails =>
      cases h
      exact ⟨fun hret => absurd hret hfails, fun _ => Nodes.Keeps.refl cfg n⟩
  | uio hfails =>
      simp only [Cuddl.onNodes, RegCall.onNodes, hfails, ne_eq, not_false_eq_true, if_true,
        Option.bind_some, Option.some.injEq] at h
      cases h
      exact ⟨fun hret => absurd hret hfails, fun _ => Nodes.Keeps.refl cfg n⟩
  | udd hfails =>
      -- the registration with UIO is taken back
      rcases onNodes_register_uio h with ⟨hfree, _, hrest⟩
      simp only [Cuddl.onNodes, RegCall.onNodes, hfails, ne_eq, not_false_eq_true, if_true,
        Option.bind_some, Option.some.injEq, Function.update_idem] at hrest
      rw [← hfree, Function.update_eq_self] at hrest
      cases hrest
      exact ⟨fun hret => absurd hret hfails, fun _ => Nodes.Keeps.refl cfg n⟩
  | withUdd hcfg =>
      refine ⟨fun _ => ?_, fun hret => absurd rfl hret⟩
      rcases onNodes_register_uio h with ⟨hfree, hlt, hrest⟩
      rcases onNodes_register_udd hrest with ⟨hname, huio, hudd⟩
      exact ⟨hfree, hlt, huio, fun _ => hname, fun _ => hudd, by simp [hcfg]⟩
  | plain hcfg =>
      refine ⟨fun _ => ?_, fun hret => absurd rfl hret⟩
      rcases onNodes_register_uio h with ⟨hfree, hlt, hrest⟩
      cases hrest
      exact ⟨hfree, hlt, rfl, by simp [hcfg], by simp [hcfg], fun _ => rfl⟩

/-- Only what is registered for the device can go. -/
theorem onNodes_deviceUnregister
    (h : onNodes dev (deviceUnregister cfg d out).2 n = some n') :
    n'.uio = Function.update n.uio dev.minor none ∧
      (n'.udd = n.udd ∨
        cfg.useUdd = true ∧ n'.udd = Function.update n.udd dev.uniqueNameD none) := by
  unfold deviceUnregister cleanup at h
  by_cases hcfg : cfg.useUdd = true
  · by_cases hret : out.uddUnregister = 0
    · simp only [hcfg, hret, if_true, onNodes, RegCall.onNodes, ne_eq, not_true_eq_false, if_false,
        Option.bind_some, Option.some.injEq] at h
      cases h
      exact ⟨rfl, Or.inr ⟨hcfg, rfl⟩⟩
    · simp only [hcfg, hret, if_true, onNodes, RegCall.onNodes, ne_eq, not_false_eq_true,
        Option.bind_some, Option.some.injEq] at h
      cases h
      exact ⟨rfl, Or.inl rfl⟩
  · simp only [hcfg, onNodes, RegCall.onNodes, Bool.false_eq_true, if_false, Option.bind_some,
      Option.some.injEq] at h
    cases h
    exact ⟨rfl, Or.inl rfl⟩

/-- A manage call fails early, or in the registration, or registers the device and takes that back,
or succeeds. -/
theorem manageCalls (cfg : Config) (s : KernelState) (p : DevPtr) (out : RegOutcome) :
    ((deviceManage cfg s p out).ret ≠ 0 ∧
        ∃ e, e ≠ 0 ∧ RegisterCalls cfg e (deviceManage cfg s p out).calls) ∨
      ((deviceManage cfg s p out).ret ≠ 0 ∧ ∃ cs, RegisterCalls cfg 0 cs ∧
        (deviceManage cfg s p out).calls =
          cs ++ (deviceUnregister cfg ((deviceManage cfg s p out).state.heap p) out).2) ∨
      ((deviceManage cfg s p out).ret = 0 ∧
        RegisterCalls cfg 0 (deviceManage cfg s p out).calls) := by
  have hearly : ∀ ret : Int, ret ≠ 0 → ∃ e, e ≠ 0 ∧ RegisterCalls cfg e [] :=
    fun ret hret => ⟨ret, hret, RegisterCalls.early hret⟩
  unfold deviceManage
  dsimp only
  split
  · exact Or.inl ⟨by simp [Errno.EINVAL], hearly 1 (by decide)⟩
  · split
    · exact Or.inl ⟨by simp [Errno.EINVAL], hearly 1 (by decide)⟩
    · split
      · rename_i e herr
        exact Or.inl ⟨(assignInstance_error herr).ne, hearly 1 (by decide)⟩
      · rename_i dev hok
        have hcalls := registerCalls cfg dev out
        split
        · rename_i hret
          exact Or.inl ⟨hret, _, hret, hcalls⟩
        · rename_i hret
          rw [not_not] at hret
          rw [hret] at hcalls
          cases hslot : managerFindEmptySlot s with
          | none =>
              refine Or.inr (Or.inl ?_)
              simp only [managerAddDevice, managerFindEmptySlot_setDevice, hslot]
              exact ⟨by simp [Errno.ENOMEM], _, hcalls, by simp [Errno.ENOMEM]⟩
          | some d =>
              refine Or.inr (Or.inr ?_)
              simp only [managerAddDevice, managerFindEmptySlot_setDevice, hslot]
              exact ⟨rfl, hcalls⟩

theorem Nodes.Added.keeps_of_removed {n₁ : Nodes} (hadded : n.Added cfg n₁ dev)
    (h : onNodes dev (deviceUnregister cfg d out).2 n₁ = some n') : n.Keeps cfg n' := by
  rcases onNodes_deviceUnregister h with ⟨huio, hudd⟩
  refine ⟨?_, ?_, ?_⟩
  · intro minor mems hmems
    have hback : n'.uio = n.uio := by
      rw [huio, hadded.uio, Function.update_idem, ← hadded.minor_free, Function.update_eq_self]
    rw [hback, hmems]
  · intro name mems hmems
    rcases hudd with hsame | ⟨hcfg, hgone⟩
    · rw [hsame]
      exact hadded.keeps.udd hmems
    · have hback : n'.udd = n.udd := by
        rw [hgone, hadded.udd hcfg, Function.update_idem, ← hadded.name_free hcfg,
          Function.update_eq_self]
      rw [hback, hmems]
  · intro hcfg
    rcases hudd with hsame | ⟨hcfg', _⟩
    · rw [hsame, hadded.udd_same hcfg]
    · simp [hcfg] at hcfg'

/-- What a manage call registers stays registered exactly when the call succeeds. -/
theorem nodesExec_manage {s : KernelState} {p : DevPtr}
    (h : nodesExec cfg (.manage p out) s n = some n') :
    ((deviceManage cfg s p out).ret = 0 →
        n.Added cfg n' ((deviceManage cfg s p out).state.heap p)) ∧
      ((deviceManage cfg s p out).ret ≠ 0 → n.Keeps cfg n') := by
  unfold nodesExec at h
  dsimp only at h
  rcases manageCalls cfg s p out with
    ⟨hret, e, he, hcalls⟩ | ⟨hret, cs, hcalls, heq⟩ | ⟨hret, hcalls⟩
  · exact ⟨fun h₀ => absurd h₀ hret, fun _ => (hcalls.onNodes h).2 he⟩
  · refine ⟨fun h₀ => absurd h₀ hret, fun _ => ?_⟩
    -- no slot was free: everything is taken back, but for what UDD does not give up
    rw [heq, onNodes_append] at h
    rcases Option.bind_eq_some_iff.1 h with ⟨n₁, hreg, hun⟩
    exact ((hcalls.onNodes hreg).1 rfl).keeps_of_removed hun
  · exact ⟨fun _ => (hcalls.onNodes h).1 rfl, fun h₀ => absurd hret h₀⟩

end Calls

end Cuddl
