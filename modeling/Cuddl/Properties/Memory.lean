import Cuddl.Kernel.Allocation
import Cuddl.Properties.Balance

/-!
# Memory of the modules

Whatever is loaded, unloaded, claimed, released and closed, in any order and with any call failing:
no block is freed that is not held, and what is held is one block for each list entry and each
registered file, what the loaded modules need, and one block for each registration that has
overwritten another one on its file (`memory_accounted`).  While the manager stays loaded, its state
runs as it does without blocks (`reachable_of_modules`), so what is proved about the manager holds
of the modules: in orderly runs every counted reference has an entry in a block of its own
(`references_have_blocks`).
-/

namespace Cuddl

open Foundation Foundation.Machine Foundation.Resources

/-- Nothing is loaded; the drivers' devices and the kernel modules are there. -/
def Modules.start (s : KernelState) : Modules :=
  { manager :=
      { kernel := { s with devices := fun _ => none, refs := fun _ => [] }
        entries := fun _ => [] }
    managerLoaded := false
    managerVars := { globalManagerPtr := none, char := .zeroed }
    janitorLoaded := false
    janitorVars := .zeroed
    files := ∅
    privateData := fun _ => none
    lost := 0
    store := .empty }

namespace Modules

/-- The blocks that the open janitor files name. -/
def fileBlocks (w : Modules) : Multiset (Item Block) :=
  ∑ f ∈ w.files, dataBlocks (w.privateData f)

/-- The open janitor files with a registered pid. -/
def registered (w : Modules) : Finset JanitorId :=
  w.files.filter fun f => (w.privateData f).isSome

/-- What the modules should hold between two calls. -/
def inventory (w : Modules) : Multiset Block :=
  Multiset.replicate (w.manager.kernel.refs .memregion).length (.ref .memregion) +
    Multiset.replicate (w.manager.kernel.refs .eventsrc).length (.ref .eventsrc) +
    Multiset.replicate (w.registered.card + w.lost) .pid +
    (if w.managerLoaded then managerBlocks else 0) +
    (if w.janitorLoaded then CharDevice.janitor.blocks else 0)

end Modules

/-- What is held, and by what. -/
structure Accounted (w : Modules) : Prop where
  linked : w.manager.Linked
  held : ∃ mgr jan lost : Multiset (Item Block),
    w.store.held = w.manager.blocks + (w.fileBlocks + (mgr + (jan + lost))) ∧
    (w.managerLoaded = true → w.managerVars.Holds mgr) ∧ (w.managerLoaded = false → mgr = 0) ∧
    (w.janitorLoaded = true → w.janitorVars.Holds .janitor .noFailure jan) ∧
    (w.janitorLoaded = false → jan = 0) ∧
    lost.map Item.kind = Multiset.replicate w.lost .pid
  emptied : w.managerLoaded = false → ∀ k, w.manager.entries k = []
  janitorNeedsManager : w.janitorLoaded = true → w.managerLoaded = true
  filesNeedJanitor : w.files.Nonempty → w.janitorLoaded = true

/-- The action of the manager that an action of the modules is, if it is one. -/
def ModulesOp.managerOp? (w : Modules) : ModulesOp → Option Op
  | .fill p dev => some (.fill p dev)
  | .manage p out => some (.manage p out)
  | .release p out => some (.release p out)
  | .ioctl req io refused => some (.ioctl req (io.withBuffers refused))
  | .janitorRelease f => (w.privateData f).map fun d => .freeRefs d.pid
  | _ => none

/-! ## What is held -/

theorem Accounted.start (s : KernelState) : Accounted (Modules.start s) where
  linked := fun _ => rfl
  held := ⟨0, 0, 0, rfl, by simp [Modules.start], fun _ => rfl, by simp [Modules.start],
    fun _ => rfl, rfl⟩
  emptied := fun _ _ => rfl
  janitorNeedsManager := by simp [Modules.start]
  filesNeedJanitor := by simp [Modules.start]

theorem map_kind_dataBlocks (F : Finset JanitorId) (data : JanitorId → Option PrivateData) :
    (∑ f ∈ F, dataBlocks (data f)).map Item.kind =
      Multiset.replicate (F.filter fun f => (data f).isSome).card .pid := by
  induction F using Finset.induction_on with
  | empty => rfl
  | insert f F hf ih =>
      rw [Finset.sum_insert hf, Multiset.map_add, ih, Finset.filter_insert]
      cases hdata : data f with
      | none => simp [dataBlocks]
      | some d =>
          have hnew : f ∉ F.filter fun f => (data f).isSome := fun h => hf (Finset.mem_filter.1 h).1
          simp [dataBlocks, hnew, Multiset.replicate_succ, PrivateData.block]

theorem Accounted.inventory {w : Modules} (h : Accounted w) :
    w.store.held.map Item.kind = w.inventory := by
  rcases h.held with ⟨mgr, jan, lost, hheld, hmgr, hmgr', hjan, hjan', hlost⟩
  have hmanager : mgr.map Item.kind = if w.managerLoaded then managerBlocks else 0 := by
    cases hloaded : w.managerLoaded with
    | true => simpa using (hmgr hloaded).kinds
    | false => simp [hmgr' hloaded]
  have hjanitor : jan.map Item.kind = if w.janitorLoaded then CharDevice.janitor.blocks else 0 := by
    cases hloaded : w.janitorLoaded with
    | true => simpa using (hjan hloaded).kinds
    | false => simp [hjan' hloaded]
  have hlength : ∀ k, (w.manager.entries k).length = (w.manager.kernel.refs k).length := by
    intro k
    rw [h.linked k, List.length_map]
  simp only [hheld, ManagerState.blocks, Modules.fileBlocks, Multiset.map_add, map_kind_blocksOf,
    map_kind_dataBlocks, hmanager, hjanitor, hlost, hlength, Modules.inventory,
    Modules.registered, Multiset.replicate_add]
  ac_rfl

/-- One file is looked at, the others stay. -/
theorem fileBlocks_split {F : Finset JanitorId} {f : JanitorId} (hf : f ∈ F)
    (data : JanitorId → Option PrivateData) :
    ∃ rest, (∑ g ∈ F, dataBlocks (data g)) = dataBlocks (data f) + rest ∧
      (∀ new, (∑ g ∈ F, dataBlocks (Function.update data f new g)) = dataBlocks new + rest) ∧
      ∀ new, (∑ g ∈ F.erase f, dataBlocks (Function.update data f new g)) = rest := by
  have hothers : ∀ new, (∑ g ∈ F.erase f, dataBlocks (Function.update data f new g)) =
      ∑ g ∈ F.erase f, dataBlocks (data g) := by
    intro new
    refine Finset.sum_congr rfl ?_
    intro g hg
    rw [Function.update_of_ne (Finset.ne_of_mem_erase hg)]
  refine ⟨∑ g ∈ F.erase f, dataBlocks (data g), ?_, ?_, hothers⟩
  · exact (Finset.add_sum_erase F _ hf).symm
  · intro new
    rw [← Finset.add_sum_erase F _ hf, hothers, Function.update_self]

/-! ## One action -/

/-- The manager's functions are loaded or unloaded. -/
def ModulesOp.Reloads : ModulesOp → Prop
  | .managerInit _ | .managerExit => True
  | _ => False

/-- An action crashes only where the manager's action does; otherwise everything stays accounted
for, and the manager's state is the one without blocks. -/
def Outcome (cfg : Config) (op : ModulesOp) (w : Modules) : Prop :=
  (modulesExec cfg op w = none ∧
      ∃ a, op.managerOp? w = some a ∧ exec cfg a w.manager.kernel = none) ∨
    ∃ w', modulesExec cfg op w = some w' ∧ Accounted w' ∧
      (∀ a, op.managerOp? w = some a → exec cfg a w.manager.kernel = some w'.manager.kernel) ∧
      (op.managerOp? w = none → ¬ op.Reloads → w'.manager.kernel = w.manager.kernel)

section Actions

variable {cfg : Config} {w : Modules} {op : ModulesOp} {α : Type} {x : Prog Block α}
  {k : α → Modules} {pre rest : Multiset (Item Block)}

/-- A program that does what its triple says leaves everything accounted for. -/
theorem Outcome.of_spec {Q : α → Multiset (Item Block) → Prop}
    (hexec : modulesExec cfg op w = w.runProg x k) (hx : Spec pre x Q)
    (hheld : w.store.held = pre + rest)
    (hnext : ∀ r s post, s.held = post + rest → Q r post →
      Accounted { k r with store := s } ∧
      (∀ a, op.managerOp? w = some a → exec cfg a w.manager.kernel = some (k r).manager.kernel) ∧
      (op.managerOp? w = none → ¬ op.Reloads → (k r).manager.kernel = w.manager.kernel)) :
    Outcome cfg op w := by
  rcases hx w.store rest hheld with ⟨r, s, post, hrun, hpost, hQ⟩
  exact Or.inr ⟨{ k r with store := s }, by rw [hexec, Modules.runProg, hrun]; rfl,
    hnext r s post hpost hQ⟩

theorem Outcome.of_crashes {a : Op} (hexec : modulesExec cfg op w = w.runProg x k)
    (hx : Crashes pre x) (hheld : w.store.held = pre + rest) (hop : op.managerOp? w = some a)
    (hnone : exec cfg a w.manager.kernel = none) : Outcome cfg op w := by
  refine Or.inl ⟨?_, a, hop, hnone⟩
  rw [hexec, Modules.runProg, hx w.store rest hheld]
  rfl

theorem Accounted.managerInit (h : Accounted w) (out : InitOutcome)
    (hp : Permitted w (.managerInit out)) : Outcome cfg (.managerInit out) w := by
  have hunloaded : w.managerLoaded = false := hp
  rcases h.held with ⟨mgr, jan, lost, hheld, _, hmgr, hjan, hjan', hlost⟩
  refine Outcome.of_spec (by unfold modulesExec; rfl) (spec_managerInit out w.managerVars)
    (zero_add _).symm ?_
  rintro r s post hpost (⟨hret, rfl⟩ | ⟨hret, taken, rfl, hholds⟩)
  · -- nothing has changed but the variables
    have hne : r.1 ≠ 0 := by omega
    simp only [hne, if_false]
    refine ⟨⟨h.linked, ⟨mgr, jan, lost, ?_, by simp [hunloaded], hmgr, hjan, hjan', hlost⟩,
      h.emptied, h.janitorNeedsManager, h.filesNeedJanitor⟩, by simp [ModulesOp.managerOp?],
      by simp [ModulesOp.Reloads]⟩
    rw [hpost, zero_add, hheld]
    rfl
  · simp only [hret, if_true]
    have hblocks : w.manager.blocks = 0 := by
      simp [ManagerState.blocks, h.emptied hunloaded]
    refine ⟨⟨fun _ => rfl, ⟨taken, jan, lost, ?_, fun _ => hholds, by simp, hjan, hjan', hlost⟩,
      by simp, by simp, h.filesNeedJanitor⟩, by simp [ModulesOp.managerOp?],
      by simp [ModulesOp.Reloads]⟩
    have hmgr' := hmgr hunloaded
    subst hmgr'
    rw [hpost, hheld, hblocks]
    simp only [ManagerState.blocks, blocksOf_nil, zero_add, add_zero]
    exact add_left_comm _ _ _

theorem Accounted.managerExit (h : Accounted w) (hp : Permitted w .managerExit) :
    Outcome cfg .managerExit w := by
  rcases hp with ⟨hloaded, hjanitor⟩
  rcases h.held with ⟨mgr, jan, lost, hheld, hmgr, _, hjan, hjan', hlost⟩
  rw [add_left_comm w.fileBlocks] at hheld
  refine Outcome.of_spec (by unfold modulesExec; rfl) (spec_managerExit (hmgr hloaded))
    (hheld.trans (add_zero _).symm) ?_
  rintro vars s post hpost rfl
  refine ⟨⟨fun _ => rfl, ⟨0, jan, lost, ?_, by simp, fun _ => rfl, hjan, hjan', hlost⟩,
    fun _ _ => rfl, by simp [hjanitor], h.filesNeedJanitor⟩, by simp [ModulesOp.managerOp?],
    by simp [ModulesOp.Reloads]⟩
  rw [hpost]
  simp [ManagerState.blocks, Modules.fileBlocks]

/-- An action of a driver, which allocates nothing that is kept track of here. -/
theorem Accounted.ofDriver (h : Accounted w) {a : Op} {s : KernelState}
    (hexec : modulesExec cfg op w = some { w with manager := { w.manager with kernel := s } })
    (hop : op.managerOp? w = some a) (hrun : exec cfg a w.manager.kernel = some s)
    (hrefs : s.refs = w.manager.kernel.refs) : Outcome cfg op w := by
  refine Or.inr ⟨_, hexec, ⟨?_, h.held, h.emptied, h.janitorNeedsManager, h.filesNeedJanitor⟩,
    ?_, by simp [hop]⟩
  · intro k
    exact (congrFun hrefs k).trans (h.linked k)
  · intro a' ha'
    cases hop.symm.trans ha'
    exact hrun

theorem Accounted.ioctl (h : Accounted w) (req : Request) (io : IoFaults)
    (refused : Buffer → Bool) (hp : Permitted w (.ioctl req io refused)) :
    Outcome cfg (.ioctl req io refused) w := by
  have hloaded : w.managerLoaded = true := hp
  rcases h.held with ⟨mgr, jan, lost, hheld, hrest⟩
  cases hres : managerIoctl cfg w.manager.kernel req (io.withBuffers refused) with
  | none =>
      exact Outcome.of_crashes (by unfold modulesExec; rfl) (crashes_managerIoctlEntries hres)
        hheld rfl (by simp [exec, hres])
  | some res =>
      refine Outcome.of_spec (by unfold modulesExec; rfl)
        (spec_managerIoctlEntries h.linked hres) (hheld.trans (add_zero _).symm) ?_
      rintro ⟨res', m⟩ s post hpost ⟨rfl, hsame, hkernel, hlinked⟩
      refine ⟨⟨hlinked, ⟨mgr, jan, lost, ?_, hrest⟩, by simp [hloaded], h.janitorNeedsManager,
        h.filesNeedJanitor⟩, ?_, by simp [ModulesOp.managerOp?]⟩
      · rw [hpost, add_zero]
        rfl
      · rintro a ha
        cases ha
        simp only [exec, hres, Option.map_some, hsame]
        exact congrArg some hkernel.symm

theorem Accounted.janitorInit (h : Accounted w) (out : InitOutcome)
    (hp : Permitted w (.janitorInit out)) : Outcome cfg (.janitorInit out) w := by
  rcases hp with ⟨hloaded, hjanitor⟩
  rcases h.held with ⟨mgr, jan, lost, hheld, hmgr, hmgr', _, hjan, hlost⟩
  refine Outcome.of_spec (by unfold modulesExec; rfl) (spec_janitorInit out w.janitorVars)
    (zero_add _).symm ?_
  rintro r s post hpost (⟨hret, rfl⟩ | ⟨hret, taken, rfl, hholds⟩)
  · have hne : r.1 ≠ 0 := by omega
    refine ⟨⟨h.linked, ⟨mgr, jan, lost, ?_, hmgr, hmgr', by simp [hne], fun _ => hjan hjanitor,
      hlost⟩, h.emptied, fun _ => hloaded, ?_⟩, by simp [ModulesOp.managerOp?], fun _ _ => rfl⟩
    · rw [hpost, zero_add, hheld]
      rfl
    · intro hfiles
      exact absurd (h.filesNeedJanitor hfiles) (by simp [hjanitor])
  · have hjan' := hjan hjanitor
    subst hjan'
    refine ⟨⟨h.linked, ⟨mgr, taken, lost, ?_, hmgr, hmgr', fun _ => hholds, by simp [hret],
      hlost⟩, h.emptied, fun _ => hloaded, by simp [hret]⟩, by simp [ModulesOp.managerOp?],
      fun _ _ => rfl⟩
    rw [hpost, hheld, add_zero, zero_add]
    simp only [Modules.fileBlocks]
    ac_rfl

theorem Accounted.janitorExit (h : Accounted w) (hp : Permitted w .janitorExit) :
    Outcome cfg .janitorExit w := by
  rcases hp with ⟨hjanitor, hfiles⟩
  rcases h.held with ⟨mgr, jan, lost, hheld, hmgr, hmgr', hjan, _, hlost⟩
  have hheld' : w.store.held = jan + (w.manager.blocks + (w.fileBlocks + (mgr + lost))) := by
    rw [hheld]
    ac_rfl
  refine Outcome.of_spec (by unfold modulesExec; rfl) (spec_charDeviceCleanup (hjan hjanitor))
    (hheld'.trans (add_zero _).symm) ?_
  rintro _ s post hpost rfl
  refine ⟨⟨h.linked, ⟨mgr, 0, lost, ?_, hmgr, hmgr', by simp, fun _ => rfl, hlost⟩, h.emptied,
    by simp, by simp [hfiles]⟩, by simp [ModulesOp.managerOp?], fun _ _ => rfl⟩
  rw [hpost, add_zero, zero_add]
  rfl

theorem Accounted.janitorOpen (h : Accounted w) (f : JanitorId)
    (hp : Permitted w (.janitorOpen f)) : Outcome cfg (.janitorOpen f) w := by
  rcases hp with ⟨hjanitor, hnew⟩
  refine Or.inr ⟨_, rfl, ⟨h.linked, ?_, h.emptied, h.janitorNeedsManager, fun _ => hjanitor⟩,
    by simp [ModulesOp.managerOp?], fun _ _ => rfl⟩
  have hsum : (∑ g ∈ insert f w.files, dataBlocks (Function.update w.privateData f none g)) =
      w.fileBlocks := by
    rw [Finset.sum_insert hnew, Function.update_self, dataBlocks, zero_add]
    refine Finset.sum_congr rfl ?_
    intro g hg
    have hne : g ≠ f := fun heq => hnew (heq ▸ hg)
    rw [Function.update_of_ne hne]
  rcases h.held with ⟨mgr, jan, lost, hheld, hrest⟩
  refine ⟨mgr, jan, lost, ?_, hrest⟩
  rw [hheld]
  simp only [Modules.fileBlocks, hsum]

theorem Accounted.janitorIoctl (h : Accounted w) (f : JanitorId) (register : Bool) (pid : Pid)
    (faults : JanitorFaults) (hp : Permitted w (.janitorIoctl f register pid faults)) :
    Outcome cfg (.janitorIoctl f register pid faults) w := by
  have hf : f ∈ w.files := hp
  rcases fileBlocks_split hf w.privateData with ⟨rest, hsplit, hupdate, _⟩
  rcases h.held with ⟨mgr, jan, lost, hheld, hmgr, hmgr', hjan, hjan', hlost⟩
  have hheld' : w.store.held = dataBlocks (w.privateData f) +
      (w.manager.blocks + (rest + (mgr + (jan + lost)))) := by
    rw [hheld, Modules.fileBlocks, hsplit]
    ac_rfl
  refine Outcome.of_spec (by unfold modulesExec; rfl)
    (spec_janitorIoctlData register pid faults (w.privateData f))
    (hheld'.trans (add_zero _).symm) ?_
  rintro r s post hpost ⟨_, rfl⟩
  refine ⟨⟨h.linked, ⟨mgr, jan, overwritten register faults (w.privateData f) + lost, ?_, hmgr,
    hmgr', hjan, hjan', ?_⟩, h.emptied, h.janitorNeedsManager, h.filesNeedJanitor⟩,
    by simp [ModulesOp.managerOp?], fun _ _ => rfl⟩
  · rw [hpost, add_zero]
    simp only [Modules.fileBlocks, hupdate]
    ac_rfl
  · -- a block is lost exactly when its name is overwritten
    rw [Multiset.map_add, hlost, map_kind_overwritten, Multiset.replicate_add, add_comm]

theorem Accounted.janitorRelease (h : Accounted w) (f : JanitorId)
    (hp : Permitted w (.janitorRelease f)) : Outcome cfg (.janitorRelease f) w := by
  have hf : f ∈ w.files := hp
  rcases fileBlocks_split hf w.privateData with ⟨rest, hsplit, _, herase⟩
  rcases h.held with ⟨mgr, jan, lost, hheld, hrest⟩
  have hheld' : w.store.held = w.manager.blocks +
      (dataBlocks (w.privateData f) + (rest + (mgr + (jan + lost)))) := by
    rw [hheld, Modules.fileBlocks, hsplit, add_assoc]
  have hjanitor := h.filesNeedJanitor ⟨f, hf⟩
  have hloaded := h.janitorNeedsManager hjanitor
  cases hres : Cuddl.janitorRelease ((w.privateData f).map PrivateData.pid) w.manager.kernel with
  | none =>
      have hcrash : ∀ {pre}, Crashes (w.manager.blocks + (dataBlocks (w.privateData f) + pre))
          (janitorReleaseData (w.privateData f) w.manager) :=
        crashes_janitorReleaseData h.linked hres
      cases hdata : w.privateData f with
      | none =>
          rw [hdata] at hres
          cases hres
      | some d =>
          have hnone : exec cfg (.freeRefs d.pid) w.manager.kernel = none := by
            rw [hdata] at hres
            exact hres
          exact Outcome.of_crashes (by unfold modulesExec; rfl) hcrash
            (hheld'.trans (add_zero _).symm) (by simp [ModulesOp.managerOp?, hdata]) hnone
  | some s' =>
      refine Outcome.of_spec (by unfold modulesExec; rfl)
        (spec_janitorReleaseData h.linked hres) (hheld'.trans (add_zero _).symm) ?_
      rintro m s post hpost ⟨rfl, hkernel, hlinked⟩
      refine ⟨⟨hlinked, ⟨mgr, jan, lost, ?_, hrest⟩, by simp [hloaded], h.janitorNeedsManager,
        fun _ => hjanitor⟩, ?_, ?_⟩
      · rw [hpost, add_zero]
        simp only [Modules.fileBlocks, herase]
      · intro a ha
        cases hdata : w.privateData f with
        | none => simp [ModulesOp.managerOp?, hdata] at ha
        | some d =>
            simp only [ModulesOp.managerOp?, hdata, Option.map_some, Option.some.injEq] at ha
            subst ha
            rw [hdata] at hres
            rw [hkernel]
            exact hres
      · intro hop _
        cases hdata : w.privateData f with
        | none =>
            rw [hdata] at hres
            cases hres
            exact hkernel
        | some d => simp [ModulesOp.managerOp?, hdata] at hop

theorem Accounted.outcome (cfg : Config) (h : Accounted w) (hp : Permitted w op) :
    Outcome cfg op w := by
  cases op with
  | managerInit out => exact h.managerInit out hp
  | managerExit => exact h.managerExit hp
  | fill p dev => exact h.ofDriver rfl rfl rfl rfl
  | manage p out =>
      refine h.ofDriver rfl rfl rfl ?_
      rcases deviceManage_cases cfg w.manager.kernel p out with
        ⟨_, _, ⟨_, hst⟩ | ⟨_, _, _, _, _, _, _, hst⟩⟩
      · rw [hst]
        rfl
      · rw [hst]
        rfl
  | release p out =>
      refine h.ofDriver rfl rfl rfl ?_
      rcases deviceRelease_cases cfg w.manager.kernel p out with ⟨_, hst⟩ | ⟨_, _, _, hst⟩
      · rw [hst]
      · rw [hst]
        rfl
  | ioctl req io refused => exact h.ioctl req io refused hp
  | janitorInit out => exact h.janitorInit out hp
  | janitorExit => exact h.janitorExit hp
  | janitorOpen f => exact h.janitorOpen f hp
  | janitorIoctl f register pid faults => exact h.janitorIoctl f register pid faults hp
  | janitorRelease f => exact h.janitorRelease f hp

end Actions

/-! ## Runs -/

theorem Accounted.step {cfg : Config} {w w' : Modules} {op : ModulesOp} (h : Accounted w)
    (hp : Permitted w op) (hexec : modulesExec cfg op w = some w') : Accounted w' := by
  rcases h.outcome cfg hp with ⟨hnone, _⟩ | ⟨w₁, hsome, hacc, _⟩
  · rw [hnone] at hexec
    cases hexec
  · cases hsome.symm.trans hexec
    exact hacc

theorem accounted_of_run {cfg : Config} {s₀ : KernelState} {w : Modules}
    (hrun : Reachable (modulesExec cfg) Permitted (Modules.start s₀) w) : Accounted w :=
  hrun.invariant (Accounted.start s₀) fun h hp hexec => h.step hp hexec

instance (w : Modules) : (op : ModulesOp) → Decidable (Permitted w op)
  | .managerInit _ => inferInstanceAs (Decidable (_ = _))
  | .managerExit => inferInstanceAs (Decidable (_ ∧ _))
  | .fill _ _ => .isTrue trivial
  | .manage _ _ | .release _ _ | .ioctl _ _ _ => inferInstanceAs (Decidable (_ = _))
  | .janitorInit _ => inferInstanceAs (Decidable (_ ∧ _))
  | .janitorExit => inferInstanceAs (Decidable (_ ∧ _))
  | .janitorOpen _ => inferInstanceAs (Decidable (_ ∧ _))
  | .janitorIoctl _ _ _ _ | .janitorRelease _ => inferInstanceAs (Decidable (_ ∈ _))

/-- In every run of the modules, from loading to unloading and with any call failing, what is held
between two calls is the inventory, and nothing is left of an unloaded manager but the blocks whose
names have been overwritten; no call frees what is not held, so it crashes only where the manager
dereferences an empty slot or a missing name. -/
theorem memory_accounted (cfg : Config) (s₀ : KernelState) {w : Modules}
    (hrun : Reachable (modulesExec cfg) Permitted (Modules.start s₀) w) :
    w.store.held.map Item.kind = w.inventory ∧
    (w.managerLoaded = false → w.store.held.map Item.kind = Multiset.replicate w.lost .pid) ∧
    ∀ op, Permitted w op → modulesExec cfg op w = none →
      ∃ a, op.managerOp? w = some a ∧ exec cfg a w.manager.kernel = none := by
  have h := accounted_of_run hrun
  refine ⟨h.inventory, ?_, ?_⟩
  · intro hunloaded
    -- nothing is listed, and no file can be open
    have hjanitor : w.janitorLoaded = false := by
      by_contra hloaded
      simp [h.janitorNeedsManager (by simpa using hloaded)] at hunloaded
    have hfiles : w.files = ∅ := by
      by_contra hopen
      simp [h.filesNeedJanitor (Finset.nonempty_iff_ne_empty.2 hopen)] at hjanitor
    have hrefs : ∀ k, w.manager.kernel.refs k = [] := by
      intro k
      rw [h.linked k, h.emptied hunloaded k, List.map_nil]
    rw [h.inventory]
    simp [Modules.inventory, Modules.registered, hunloaded, hjanitor, hfiles, hrefs]
  · intro op hp hnone
    rcases h.outcome cfg hp with ⟨_, hcrash⟩ | ⟨w', hsome, _⟩
    · exact hcrash
    · rw [hsome] at hnone
      cases hnone

namespace Sample

def initialised : InitOutcome :=
  { kzallocFails := false, allocChrdevRegion := 0, cdevAdd := 0, classCreateFails := false
    deviceCreateFails := false }

def janitorOk : JanitorFaults :=
  { copyFromUserFails := false, kzallocFails := false }

end Sample

/-- Two failing loads, one that succeeds, a claim, and a file on which two pids are registered, one
after the other; in the end everything is unloaded. -/
def reloadRun : List ModulesOp :=
  [ .managerInit { Sample.initialised with classCreateFails := true }
  , .managerInit Sample.initialised
  , .janitorInit { Sample.initialised with cdevAdd := -12 }
  , .janitorInit Sample.initialised
  , .manage 0 Sample.registered
  , .janitorOpen 3
  , .janitorIoctl 3 true 7 Sample.janitorOk
  , .ioctl (Sample.claimAny 7 0) Sample.noFaults fun b => b = .voidData
  , .ioctl (Sample.claimAny 7 0) Sample.noFaults fun _ => false
  , .janitorIoctl 3 true 8 Sample.janitorOk
  , .janitorRelease 3
  , .janitorExit
  , .managerExit ]

theorem memory_accounted_reloadRun :
    ∃ w : Modules, w.managerLoaded = false ∧ w.lost = 1 ∧
      w.store.held.map Item.kind = Multiset.replicate w.lost .pid := by
  have hrun : ∃ w, Reachable (modulesExec Sample.config) Permitted (Modules.start Sample.kernel) w ∧
      (w.managerLoaded = false ∧ w.lost = 1) :=
    exists_reachable_of_run reloadRun (by decide +kernel)
  rcases hrun with ⟨w, hreach, hunloaded, hlost⟩
  exact ⟨w, hunloaded, hlost, (memory_accounted Sample.config Sample.kernel hreach).2.1 hunloaded⟩

/-! ## The manager while it is loaded -/

/-- The manager is neither loaded nor unloaded, and its actions meet a guard. -/
def Running (G : KernelState → Op → Prop) (w : Modules) (op : ModulesOp) : Prop :=
  Permitted w op ∧ ¬ op.Reloads ∧ ∀ a, op.managerOp? w = some a → G w.manager.kernel a

/-- A run of the modules is a run of the manager. -/
theorem reachable_of_modules {cfg : Config} {G : KernelState → Op → Prop} {w₁ w : Modules}
    (hacc : Accounted w₁) (hrun : Reachable (modulesExec cfg) (Running G) w₁ w) :
    Accounted w ∧ Reachable (exec cfg) G w₁.manager.kernel w.manager.kernel := by
  refine hrun.invariant
    (I := fun w => Accounted w ∧ Reachable (exec cfg) G w₁.manager.kernel w.manager.kernel)
    ⟨hacc, Reachable.refl _⟩ ?_
  rintro v v' op ⟨h, hreach⟩ ⟨hp, hloaded, hguard⟩ hexec
  rcases h.outcome cfg hp with ⟨hnone, _⟩ | ⟨v₁, hsome, hacc', hop, hkept⟩
  · rw [hnone] at hexec
    cases hexec
  · cases hsome.symm.trans hexec
    refine ⟨hacc', ?_⟩
    cases hmanager : op.managerOp? v with
    | none =>
        rw [hkept hmanager hloaded]
        exact hreach
    | some a => exact hreach.tail (hguard a hmanager) (hop a hmanager)

theorem Accounted.blocks_le {w : Modules} (h : Accounted w) :
    w.manager.blocks ≤ w.store.held := by
  rcases h.held with ⟨mgr, jan, lost, hheld, _⟩
  rw [hheld]
  exact Multiset.le_add_right _ _

/-- What a successful `cuddlk_manager_init` leaves. -/
theorem fresh_of_managerInit {cfg : Config} {w w' : Modules} {out : InitOutcome}
    (hexec : modulesExec cfg (.managerInit out) w = some w') (hbefore : w.managerLoaded = false)
    (hloaded : w'.managerLoaded = true) : w'.manager.kernel.Fresh := by
  rcases Option.map_eq_some_iff.1 hexec with ⟨⟨r, s⟩, _, rfl⟩
  dsimp only at hloaded ⊢
  split at hloaded
  · rename_i hret
    simp only [hret, if_true]
    exact ⟨fun _ => rfl, fun _ => rfl⟩
  · exact absurd (hbefore.symm.trans hloaded) Bool.false_ne_true

/-- From loading the manager on, through any orderly run and whatever the allocations and the
janitor's files do, nothing crashes, and the code with its allocations is in a state of the plain
manager, after an orderly run of that.  The lists are those of the entries that are allocated, each
in a block of its own that has not been freed, and every counted reference to a managed device is
one of these entries. -/
theorem references_have_blocks (cfg : Config) (s₀ : KernelState) {w₀ w₁ w : Modules}
    (hbefore : Reachable (modulesExec cfg) Permitted (Modules.start s₀) w₀) {out : InitOutcome}
    (hp : Permitted w₀ (.managerInit out))
    (hinit : modulesExec cfg (.managerInit out) w₀ = some w₁) (hloaded : w₁.managerLoaded = true)
    (hrun : Reachable (modulesExec cfg) (Running (Orderly cfg)) w₁ w) :
    (∀ op, Running (Orderly cfg) w op → (modulesExec cfg op w).isSome) ∧
    (w₁.manager.kernel.Fresh ∧
      Reachable (exec cfg) (Orderly cfg) w₁.manager.kernel w.manager.kernel) ∧
    (∀ k, w.manager.kernel.refs k = (w.manager.entries k).map Entry.ref) ∧
    (w.manager.blocks.Nodup ∧ ∀ x ∈ w.manager.blocks, x ∈ w.store.held) ∧
    ∀ (d : Slot) (p : DevPtr) (k : ResourceKind) (i : Fin k.max),
      w.manager.kernel.devices d = some p →
      (w.manager.kernel.heap p).refCount ⟨k, i⟩ =
        (w.manager.entries k).countP fun e => e.ref.token = ⟨d, i⟩ := by
  have hacc₁ := (accounted_of_run hbefore).step hp hinit
  have hfresh := fresh_of_managerInit hinit hp hloaded
  rcases reachable_of_modules hacc₁ hrun with ⟨hacc, hreach⟩
  have hbal := balanced_of_reachable hfresh hreach
  have hle := hacc.blocks_le
  refine ⟨?_, ⟨hfresh, hreach⟩, hacc.linked, ⟨?_, ?_⟩, ?_⟩
  · rintro op ⟨hpop, _, hguard⟩
    rcases hacc.outcome cfg hpop with ⟨_, a, ha, hnone⟩ | ⟨w', hsome, _⟩
    · have hexec := hbal.exec_isSome (hguard a ha)
      simp [hnone] at hexec
    · simp [hsome]
  · exact Multiset.nodup_of_le hle w.store.nodup
  · intro x hx
    exact Multiset.mem_of_le hle hx
  · intro d p k i hd
    -- the entries are as many as the references on the list
    rw [countsEntries_of_balancedAt hbal.balancedAt d p k i hd, hacc.linked k, List.countP_map]
    rfl

instance (cfg : Config) (w : Modules) (op : ModulesOp) :
    Decidable (Running (Orderly cfg) w op) :=
  haveI : Decidable op.Reloads :=
    match op with
    | .managerInit _ | .managerExit => .isTrue trivial
    | .fill _ _ | .manage _ _ | .release _ _ | .ioctl _ _ _ | .janitorInit _ | .janitorExit
    | .janitorOpen _ | .janitorIoctl _ _ _ _ | .janitorRelease _ => .isFalse id
  haveI : Decidable (∀ a, op.managerOp? w = some a → Orderly cfg w.manager.kernel a) :=
    match op.managerOp? w with
    | none => .isTrue (by simp)
    | some a => decidable_of_iff (Orderly cfg w.manager.kernel a) (by simp)
  inferInstanceAs (Decidable (_ ∧ _ ∧ _))

/-- A claim that cannot list its entry, and two that can. -/
def hostileClaims : List ModulesOp :=
  [ .manage 0 Sample.registered
  , .ioctl (Sample.claimAny 7 0) { Sample.noFaults with refAllocFails := true } fun _ => false
  , .ioctl (Sample.claimAny 7 0) Sample.noFaults fun _ => false
  , .ioctl (Sample.claimAny 8 claimfHostile) Sample.noFaults fun _ => false ]

theorem references_have_blocks_hostileClaims :
    ∃ w : Modules, (w.manager.kernel.heap 0).refCount ⟨.memregion, 0⟩ = 2 ∧
      ((w.manager.entries .memregion).countP fun e => e.ref.token = ⟨0, 0⟩) = 2 ∧
      w.manager.blocks.Nodup ∧ ∀ x ∈ w.manager.blocks, x ∈ w.store.held := by
  have hload : ∃ w₁, modulesExec Sample.config (.managerInit Sample.initialised)
      (Modules.start Sample.kernel) = some w₁ ∧ (w₁.managerLoaded = true ∧
        (run (modulesExec Sample.config) (Running (Orderly Sample.config)) hostileClaims w₁).any
          fun w => decide (w.manager.kernel.devices 0 = some 0 ∧
            (w.manager.kernel.heap 0).refCount ⟨.memregion, 0⟩ = 2)) := by
    refine ⟨_, rfl, ?_⟩
    decide +kernel
  rcases hload with ⟨w₁, hinit, hloaded, hrest⟩
  rcases exists_reachable_of_run _ hrest with ⟨w, hrun, hdev, hcount⟩
  rcases references_have_blocks Sample.config Sample.kernel (Reachable.refl _) rfl hinit hloaded
    hrun with ⟨_, _, _, ⟨hnodup, hheld⟩, hentries⟩
  exact ⟨w, hcount, (hentries 0 0 .memregion 0 hdev).symm.trans hcount, hnodup, hheld⟩

end Cuddl
