import Cuddl.Kernel.Events
import Cuddl.User.EventsrcSet

/-!
# A process that waits

`cuddl_eventsrcset_timed_wait`, one system call at a time, in a process that has opened the event
sources of any number of devices.  Between its `select` and its reads, and from one read to the
next, interrupts happen, signals are delivered, and other processes open, read and close files of
their own.  No other process has a descriptor of a file that this one has opened.
-/

namespace Cuddl

/-- The file that an action reads or closes. -/
def EventOp.file? : EventOp → Option FileId
  | .read f | .uioRelease f => some f
  | _ => none

namespace User

deriving instance DecidableEq for EventsrcSet, WaitResult

/-- A descriptor of the process, with the event source and the file that it is open on. -/
structure Descriptor (ι : Type) where
  fd : Nat
  source : ι
  file : FileId

inductive WaitPhase
  /-- No wait is under way; what the last one has returned. -/
  | idle (last : Option WaitResult)
  /-- `select` has left `result`; the loop has counted `n` descriptors, and stands before `todo`. -/
  | looping (result : EventsrcSet) (todo : List Nat) (n : Nat) (consumed : List Nat)
  deriving DecidableEq

structure Waiter (ι : Type) where
  sources : ι → EventState
  files : List (Descriptor ι)
  phase : WaitPhase

/-- Nothing has happened, and nothing is open. -/
def Waiter.start {ι : Type} : Waiter ι :=
  { sources := fun _ => EventState.start, files := [], phase := .idle none }

inductive WaiterOp (ι : Type)
  /-- Something happens at an event source, or another process does something there. -/
  | source (i : ι) (op : EventOp)
  /-- An `open` of the node of `i` returns `fd`. -/
  | openNode (fd : Nat) (i : ι) (f : FileId)
  | closeNode (fd : Nat)
  /-- The `select` of a wait returns, early or at its timeout. -/
  | select (set : EventsrcSet) (failure : Option SysErrno)
  /-- The loop comes to the next descriptor, or to its end. -/
  | look (failure : Option SysErrno)

namespace Waiter

variable {ι : Type} [DecidableEq ι]

/-- The open descriptor with this number. -/
def descriptor? (x : Waiter ι) (fd : Nat) : Option (Descriptor ι) :=
  x.files.find? fun d => decide (d.fd = fd)

/-- The process has opened the file. -/
def Owns (x : Waiter ι) (i : ι) (f : FileId) : Prop :=
  ∃ d ∈ x.files, d.source = i ∧ d.file = f

instance (x : Waiter ι) (i : ι) (f : FileId) : Decidable (x.Owns i f) :=
  inferInstanceAs (Decidable (∃ d ∈ x.files, d.source = i ∧ d.file = f))

/-- The descriptor has something to read. -/
def Unread (x : Waiter ι) (fd : Nat) : Prop :=
  ∃ d ∈ x.descriptor? fd, (x.sources d.source).Readable d.file

instance (x : Waiter ι) (fd : Nat) : Decidable (x.Unread fd) :=
  inferInstanceAs (Decidable (∃ d ∈ x.descriptor? fd, (x.sources d.source).Readable d.file))

/-- What `select` finds readable in a set. -/
def unread (x : Waiter ι) (set : EventsrcSet) : Finset Nat :=
  set.fds.filter x.Unread

end Waiter

/-- The end of the loop. -/
def WaitResult.finished (result : EventsrcSet) (n : Nat) (consumed : List Nat) : WaitResult :=
  { ret := if n = 0 then -Errno.ETIMEDOUT else n
    result := result
    consumed := consumed }

/-- One step; `none` is impossible, or blocks.  A process that waits opens and closes nothing, and
no other process reads or closes its files. -/
def waiterExec {ι : Type} [DecidableEq ι] (cfg : Config) (dev : ι → Device) :
    WaiterOp ι → Waiter ι → Option (Waiter ι)
  | .source i op, x =>
      if op.file?.any (fun f => decide (x.Owns i f)) then none
      else
        (eventExec cfg (dev i) op (x.sources i)).map fun w =>
          { x with sources := Function.update x.sources i w }
  | .openNode fd i f, x =>
      match x.phase with
      | .looping _ _ _ _ => none
      | .idle _ =>
          if (x.descriptor? fd).isSome then none
          else
            (eventExec cfg (dev i) (.uioOpen f) (x.sources i)).map fun w =>
              { x with
                sources := Function.update x.sources i w
                files := ⟨fd, i, f⟩ :: x.files }
  | .closeNode fd, x =>
      match x.phase, x.descriptor? fd with
      | .idle _, some d =>
          (eventExec cfg (dev d.source) (.uioRelease d.file) (x.sources d.source)).map fun w =>
            { x with
              sources := Function.update x.sources d.source w
              files := x.files.filter fun d => decide (d.fd ≠ fd) }
      | _, _ => none
  | .select set failure, x =>
      match x.phase, failure with
      | .looping _ _ _ _, _ => none
      | .idle _, some e =>
          some { x with phase := .idle (some ⟨-(e.val : Int), set, []⟩) }
      | .idle _, none =>
          -- with a descriptor in the set that is not open, `select` fails
          if ∀ fd ∈ set.fds, (x.descriptor? fd).isSome then
            some
              { x with
                phase := .looping (set.restrict (x.unread set)) (List.range (set.maxFd + 1)) 0 [] }
          else none
  | .look failure, x =>
      match x.phase with
      | .idle _ => none
      | .looping result [] n consumed =>
          some { x with phase := .idle (some (.finished result n consumed)) }
      | .looping result (fd :: todo) n consumed =>
          if fd ∈ result.fds then
            match failure, x.descriptor? fd with
            | some e, _ => some { x with phase := .idle (some ⟨-(e.val : Int), result, consumed⟩) }
            | none, none => none -- not reached: the members are open
            | none, some d =>
                (eventExec cfg (dev d.source) (.read d.file) (x.sources d.source)).map fun w =>
                  { x with
                    sources := Function.update x.sources d.source w
                    phase := .looping result todo (n + 1) (consumed ++ [fd]) }
          else
            some { x with phase := .looping result todo n consumed }

/-- A run of the process. -/
abbrev WaiterRun {ι : Type} [DecidableEq ι] (cfg : Config) (dev : ι → Device) :
    Waiter ι → Waiter ι → Prop :=
  Foundation.Machine.Reachable (waiterExec cfg dev) fun _ _ => True

/-! ## What a step does -/

section Steps

variable {ι : Type} [DecidableEq ι]

/-- Something has happened at the event source `i`. -/
def Waiter.moved (x : Waiter ι) (i : ι) (w : EventState) : Waiter ι :=
  { x with sources := Function.update x.sources i w }

inductive WaiterStep (cfg : Config) (dev : ι → Device) (x : Waiter ι) :
    WaiterOp ι → Waiter ι → Prop
  | source {i : ι} {op : EventOp} {w : EventState}
      (hforeign : ∀ f, op.file? = some f → ¬ x.Owns i f)
      (hexec : eventExec cfg (dev i) op (x.sources i) = some w) :
      WaiterStep cfg dev x (.source i op) (x.moved i w)
  | openNode {fd : Nat} {i : ι} {f : FileId} {w : EventState} {last : Option WaitResult}
      (hphase : x.phase = .idle last) (hnew : x.descriptor? fd = none)
      (hexec : eventExec cfg (dev i) (.uioOpen f) (x.sources i) = some w) :
      WaiterStep cfg dev x (.openNode fd i f) { x.moved i w with files := ⟨fd, i, f⟩ :: x.files }
  | closeNode {fd : Nat} {d : Descriptor ι} {w : EventState} {last : Option WaitResult}
      (hphase : x.phase = .idle last) (hd : x.descriptor? fd = some d)
      (hexec : eventExec cfg (dev d.source) (.uioRelease d.file) (x.sources d.source) = some w) :
      WaiterStep cfg dev x (.closeNode fd)
        { x.moved d.source w with files := x.files.filter fun d => decide (d.fd ≠ fd) }
  | selectFails {set : EventsrcSet} {e : SysErrno} {last : Option WaitResult}
      (hphase : x.phase = .idle last) :
      WaiterStep cfg dev x (.select set (some e))
        { x with phase := .idle (some ⟨-(e.val : Int), set, []⟩) }
  | select {set : EventsrcSet} {last : Option WaitResult} (hphase : x.phase = .idle last)
      (hopen : ∀ fd ∈ set.fds, (x.descriptor? fd).isSome) :
      WaiterStep cfg dev x (.select set none)
        { x with
          phase := .looping (set.restrict (x.unread set)) (List.range (set.maxFd + 1)) 0 [] }
  | finish {failure : Option SysErrno} {result : EventsrcSet} {n : Nat} {consumed : List Nat}
      (hphase : x.phase = .looping result [] n consumed) :
      WaiterStep cfg dev x (.look failure)
        { x with phase := .idle (some (.finished result n consumed)) }
  | fail {e : SysErrno} {result : EventsrcSet} {fd : Nat} {todo : List Nat} {n : Nat}
      {consumed : List Nat} (hphase : x.phase = .looping result (fd :: todo) n consumed)
      (hfd : fd ∈ result.fds) :
      WaiterStep cfg dev x (.look (some e))
        { x with phase := .idle (some ⟨-(e.val : Int), result, consumed⟩) }
  | read {result : EventsrcSet} {fd : Nat} {todo : List Nat} {n : Nat} {consumed : List Nat}
      {d : Descriptor ι} {w : EventState}
      (hphase : x.phase = .looping result (fd :: todo) n consumed) (hfd : fd ∈ result.fds)
      (hd : x.descriptor? fd = some d)
      (hexec : eventExec cfg (dev d.source) (.read d.file) (x.sources d.source) = some w) :
      WaiterStep cfg dev x (.look none)
        { x.moved d.source w with phase := .looping result todo (n + 1) (consumed ++ [fd]) }
  | pass {failure : Option SysErrno} {result : EventsrcSet} {fd : Nat} {todo : List Nat} {n : Nat}
      {consumed : List Nat} (hphase : x.phase = .looping result (fd :: todo) n consumed)
      (hfd : fd ∉ result.fds) :
      WaiterStep cfg dev x (.look failure) { x with phase := .looping result todo n consumed }

theorem waiterExec_step {cfg : Config} {dev : ι → Device} {op : WaiterOp ι} {x y : Waiter ι}
    (h : waiterExec cfg dev op x = some y) : WaiterStep cfg dev x op y := by
  cases op with
  | source i op =>
      simp only [waiterExec] at h
      split at h
      · cases h
      · rename_i hforeign
        rcases Option.map_eq_some_iff.1 h with ⟨w, hw, rfl⟩
        refine .source ?_ hw
        intro f hf howns
        simp [hf, howns] at hforeign
  | openNode fd i f =>
      simp only [waiterExec] at h
      split at h
      · cases h
      · rename_i last hphase
        split at h
        · cases h
        · rename_i hnew
          rcases Option.map_eq_some_iff.1 h with ⟨w, hw, rfl⟩
          exact .openNode hphase (by simpa using hnew) hw
  | closeNode fd =>
      simp only [waiterExec] at h
      split at h
      · rename_i last d hphase hd
        rcases Option.map_eq_some_iff.1 h with ⟨w, hw, rfl⟩
        exact .closeNode hphase hd hw
      · cases h
  | select set failure =>
      simp only [waiterExec] at h
      split at h
      · cases h
      · rename_i last e hphase
        cases h
        exact .selectFails hphase
      · rename_i last hphase
        split at h
        · rename_i hopen
          cases h
          exact .select hphase hopen
        · cases h
  | look failure =>
      simp only [waiterExec] at h
      split at h
      · cases h
      · rename_i result n consumed hphase
        cases h
        exact .finish hphase
      · rename_i result fd todo n consumed hphase
        split at h
        · rename_i hfd
          split at h
          · cases h
            exact .fail hphase hfd
          · cases h
          · rename_i d hd
            rcases Option.map_eq_some_iff.1 h with ⟨w, hw, rfl⟩
            exact .read hphase hfd hd hw
        · rename_i hfd
          cases h
          exact .pass hphase hfd

end Steps

end User
end Cuddl
