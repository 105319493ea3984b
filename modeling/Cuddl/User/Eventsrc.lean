import Cuddl.User.Claims

/-!
# Event sources in user space

`cuddl_eventsrc_open`, `cuddl_eventsrc_close` and the three functions that wait for events.  What
`open`, `close`, `select` and `read` return is an argument.
-/

namespace Cuddl

def Errno.ETIMEDOUT : Int := 110

namespace User

/-- `struct cuddl_eventsrc` with its private part. -/
structure Eventsrc where
  flags : BitVec 32
  fd : Int
  token : Token .eventsrc

/-- `cuddl_eventsrc_open`.  It disables the interrupt and takes a pending event before it returns,
and looks at the result of neither. -/
def eventsrcOpen (eventinfo : EventsrcInfo) (opened : Except SysErrno Int) :
    Int × Option Eventsrc :=
  match opened with
  | .error e => (-(e.val : Int), none)
  | .ok fd => (0, some { flags := eventinfo.flags, fd := fd, token := eventinfo.token })

/-- `cuddl_eventsrc_close` -/
def eventsrcClose (closed : Option SysErrno) : Int :=
  match closed with
  | some e => -(e.val : Int)
  | none => 0

/-! ## Waiting for events -/

/-- `struct cuddl_timespec` -/
structure Timespec where
  sec : Int
  nsec : Int

/-- `struct timeval` -/
structure Timeval where
  sec : Int
  usec : Int

/-- The `read` of the event count: a `uint32_t` that is returned as an `int`. -/
def readCount (read : Except SysErrno UInt32) : Int :=
  match read with
  | .error e => -(e.val : Int)
  | .ok count => count.toInt32.toInt

/-- `cuddl_eventsrc_wait` -/
def eventsrcWait (read : Except SysErrno UInt32) : Int :=
  readCount read

/-- `cuddl_eventsrc_timed_wait`; `select` says whether the descriptor is readable in time. -/
def eventsrcTimedWait (timeout : Timespec) (select : Timeval → Except SysErrno Bool)
    (read : Except SysErrno UInt32) : Int :=
  match select { sec := timeout.sec, usec := timeout.nsec.tdiv 1000 } with
  | .error e => -(e.val : Int)
  | .ok false => -Errno.ETIMEDOUT
  | .ok true => readCount read

/-- `cuddl_eventsrc_try_wait` -/
def eventsrcTryWait (select : Timeval → Except SysErrno Bool) (read : Except SysErrno UInt32) :
    Int :=
  eventsrcTimedWait { sec := 0, nsec := 0 } select read

end User
end Cuddl
