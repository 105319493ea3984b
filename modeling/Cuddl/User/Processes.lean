import Cuddl.Kernel.Janitor
import Cuddl.User.Claims

/-!
# Processes and the janitor

A process that loads the library opens a file of the janitor device and registers its pid on it
(`cuddli_open_janitor`, run by `cuddl_startup`).  `fork` copies the descriptors of the parent and
runs no constructor, so a child shares the files of its parent and registers nothing.  A process
that exits makes no further calls; its descriptors are closed one by one, in any order and among the
calls of other processes, and the last close of a file runs `cuddlk_janitor_release`.  The
destructor `cuddl_cleanup` closes a descriptor that the exit would close.
-/

namespace Cuddl

/-- A file of the janitor device that is still open. -/
structure JanitorFile where
  privateData : Option Pid
  /-- The processes that have a descriptor of it. -/
  holders : List Pid

/-- What the calls made by `cuddli_open_janitor` return. -/
structure JanitorOutcome where
  opened : Except SysErrno Int
  faults : JanitorFaults

/-- `cuddli_open_janitor`: its return value, and the file that stays open.  It stays open when the
registration fails. -/
def openJanitor (pid : Pid) (out : JanitorOutcome) : Int × Option JanitorFile :=
  match out.opened with
  | .error e => (-(e.val : Int), none)
  | .ok fd =>
      -- a failing registration is reported, but the file is not closed
      let registered := janitorIoctl true pid out.faults none
      let file := { privateData := registered.2, holders := [pid] }
      (if registered.1 = 0 then fd else registered.1, some file)

structure Processes where
  kernel : KernelState
  running : List Pid
  files : List JanitorFile

/-- A pid is taken until the last descriptor of its process is closed. -/
def Processes.InUse (x : Processes) (p : Pid) : Prop :=
  p ∈ x.running ∨ ∃ f ∈ x.files, p ∈ f.holders

instance (x : Processes) (p : Pid) : Decidable (x.InUse p) :=
  inferInstanceAs (Decidable (p ∈ x.running ∨ ∃ f ∈ x.files, p ∈ f.holders))

inductive ProcOp
  /-- A process without descriptors of the janitor. -/
  | start (p : Pid)
  | load (p : Pid) (out : JanitorOutcome)
  | fork (p child : Pid)
  | claim (p : Pid) (k : ResourceKind) (rt : Bool) (id : ResourceId) (options : BitVec 32)
      (io : IoFaults) (sys : SysFaults)
  | release (p : Pid) (k : ResourceKind) (rt : Bool) (token : Token k) (io : IoFaults)
      (sys : SysFaults)
  | exit (p : Pid)
  /-- The exit of `p` closes its descriptor of file number `i`. -/
  | close (p : Pid) (i : Nat)

/-- The child of `p` has the descriptors that `p` has. -/
def JanitorFile.inherit (p child : Pid) (f : JanitorFile) : JanitorFile :=
  if p ∈ f.holders then { f with holders := child :: f.holders } else f

/-- `none` is a kernel crash, or an action that is impossible. -/
def procExec (cfg : Config) : ProcOp → Processes → Option Processes
  | .start p, x =>
      if x.InUse p then none else some { x with running := p :: x.running }
  | .load p out, x =>
      if p ∈ x.running then
        some { x with files := (openJanitor p out).2.toList ++ x.files }
      else none
  | .fork p child, x =>
      if p ∈ x.running ∧ ¬ x.InUse child then
        some
          { x with
            running := child :: x.running
            files := x.files.map (JanitorFile.inherit p child) }
      else none
  | .claim p k rt id options io sys, x =>
      if p ∈ x.running then
        (User.resourceClaim cfg k rt p id options io sys x.kernel).map fun r =>
          { x with kernel := r.state }
      else none
  | .release p k rt token io sys, x =>
      if p ∈ x.running then
        (User.resourceReleaseByToken cfg k rt p token io sys x.kernel).map fun r =>
          { x with kernel := r.state }
      else none
  | .exit p, x =>
      if p ∈ x.running then some { x with running := x.running.filter (· ≠ p) } else none
  | .close p i, x =>
      match x.files[i]? with
      | none => none
      | some f =>
          if p ∈ x.running ∨ p ∉ f.holders then none
          else
            let holders := f.holders.filter (· ≠ p)
            -- the last close runs the clean-up
            if holders = [] then
              (janitorRelease f.privateData x.kernel).map fun s =>
                { x with kernel := s, files := x.files.eraseIdx i }
            else
              some { x with files := x.files.set i { f with holders := holders } }

/-- Nobody runs, and every descriptor has been closed. -/
structure Processes.Terminated (x : Processes) : Prop where
  running : x.running = []
  files : ∀ f ∈ x.files, f.holders = []

end Cuddl
