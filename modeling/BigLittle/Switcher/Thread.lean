import Mathlib.Logic.Function.Basic
import BigLittle.Lib.Run

/-!
# Requests to the switcher thread of a CPU

A request puts the cluster and a completer into the `bL_thread` of the CPU, from where the thread
takes them. Enabling the switcher creates the thread and disabling it stops the thread, and may
run another one that takes the CPU back to its original cluster. `t->lock` makes each of its
sections one step; `t->task` is read and written outside it, and a call reads it twice before it
takes the lock.
-/

namespace BigLittle.SwitchRequest

inductive Task
  | null
  | err (code : Int)
  | thread
deriving DecidableEq

/-- Where the thread is in `bL_switcher_thread`: not yet run, in `wait_event_interruptible`, before the
lock, in `bL_switch_to`, before the completer, in it, and before `kthread_should_stop`. -/
inductive Thread
  | gone
  | created
  | waiting
  | taking
  | switching (completer : Option Nat) (cookie : Nat)
  | calling (completer cookie : Nat)
  | inside (cookie : Nat)
  | checking
deriving DecidableEq

/-- A call that has not been made, has found no error in `t->task`, has found it set, or is over. -/
inductive Caller
  | idle
  | noError
  | ready
  | returned (ret : Int)
deriving DecidableEq

/-- Where `bL_switcher_enable` and `bL_switcher_disable` are with this CPU. -/
inductive Manager
  | off
  | preparing
  | created
  | on
  | cleared
  | stopping
  | restoring
  | recreated
  | restopping
deriving DecidableEq

/-- What has happened to a request: a detach call for its completer has returned, its completer has
been called, and so on. -/
inductive Mark
  | accepted
  | detached
  | invoked
  | returned
  | disabled
deriving DecidableEq

/-- The arguments of all calls that are ever made. The cookie of a request is its number. -/
structure Program where
  completer : Nat → Option Nat
  cluster : Nat → BitVec 32
  detached : Nat → Nat

structure State where
  task : Task := .null
  wanted : Int := 0
  completer : Option Nat := none
  cookie : Nat := 0
  started : Bool := false
  shouldStop : Bool := false
  thread : Thread := .gone
  manager : Manager := .off
  request : Nat → Caller := fun _ => .idle
  detach : Nat → Caller := fun _ => .idle
  history : Nat → List Mark := fun _ => []

structure Answers where
  create : Int := 0
  home : Bool := true
  original : Nat := 0
deriving DecidableEq

inductive Op
  | request (r : Nat)
  | detach (d : Nat)
  | thread
  | interrupt
  | manage (answers : Answers)
deriving DecidableEq

def ebusy : Int := -16

def esrch : Int := -3

namespace State

variable (prog : Program) (s : State) (r : Nat)

def setRequest (caller : Caller) : State :=
  { s with request := Function.update s.request r caller }

def setDetach (d : Nat) (caller : Caller) : State :=
  { s with detach := Function.update s.detach d caller }

def mark (m : Mark) : State :=
  { s with history := Function.update s.history r (s.history r ++ [m]) }

/-- The same for all accepted requests of a kind. -/
def markAll (kind : Nat → Bool) (m : Mark) : State :=
  { s with history := fun r => if kind r ∧ .accepted ∈ s.history r then s.history r ++ [m] else s.history r }

/-- The locked section of `bL_switch_request_cb` -/
def store : State :=
  if s.completer.isSome then s.setRequest r (.returned ebusy)
  else
    State.mark (State.setRequest
        { s with completer := prog.completer r, cookie := r, wanted := (prog.cluster r).toInt } r (.returned 0))
      r .accepted

/-- `bL_switch_request_cb` -/
def stepRequest : State :=
  match s.request r with
  | .idle =>
    match s.task with
    | .err code => s.setRequest r (.returned code)
    | _ => s.setRequest r .noError
  | .noError =>
    match s.task with
    | .null => s.setRequest r (.returned esrch)
    | _ => s.setRequest r .ready
  | .ready => s.store prog r
  | .returned _ => s

def endDetach (d : Nat) : State :=
  (s.setDetach d (.returned 0)).markAll (fun r => prog.completer r = some (prog.detached d)) .detached

/-- `bL_switch_request_detach` -/
def stepDetach (d : Nat) : State :=
  match s.detach d with
  | .idle =>
    match s.task with
    | .err _ => s.endDetach prog d
    | _ => s.setDetach d .noError
  | .noError =>
    match s.task with
    | .null => s.endDetach prog d
    | _ => s.setDetach d .ready
  | .ready =>
    if s.completer = some (prog.detached d) then State.endDetach prog { s with completer := none } d
    else s.endDetach prog d
  | .returned _ => s

/-- The locked section of `bL_switcher_thread` -/
def take : State :=
  { s with
    wanted := -1
    completer := none
    thread := if s.wanted ≠ -1 then .switching s.completer s.cookie else .checking }

/-- `bL_switcher_thread`; `kthread` does not call it if the thread is to stop by then. -/
def stepThread : State :=
  match s.thread with
  | .gone => s
  | .created => if s.shouldStop then { s with thread := .gone } else { s with thread := .waiting, started := true }
  | .waiting => if s.wanted ≠ -1 ∨ s.shouldStop = true then { s with thread := .taking } else s
  | .taking => s.take
  | .switching none _ => { s with thread := .checking }
  | .switching (some completer) cookie => { s with thread := .calling completer cookie }
  | .calling _ cookie => State.mark { s with thread := .inside cookie } cookie .invoked
  | .inside cookie => State.mark { s with thread := .checking } cookie .returned
  | .checking => if s.shouldStop then { s with thread := .gone } else { s with thread := .waiting }

/-- A signal ends `wait_event_interruptible`. -/
def stepInterrupt : State :=
  if s.thread = .waiting then { s with thread := .taking } else s

/-- The thread of a CPU is done with, which is all of `bL_switcher_disable` for it. -/
def finish : State :=
  State.markAll { s with manager := .off } (fun _ => true) .disabled

/-- `bL_switcher_enable` and `bL_switcher_disable`. `kthread_stop` is one step that tells the thread
to stop and another one that waits for it. -/
def stepManage (answers : Answers) : State :=
  match s.manager with
  | .off => { s with wanted := -1, started := false, manager := .preparing }
  | .preparing =>
    if answers.create = 0 then { s with thread := .created, shouldStop := false, manager := .created }
    else { s with task := .err answers.create, manager := .on }
  | .created => { s with task := .thread, manager := .on }
  | .on =>
    if s.task = .thread then { s with task := .null, manager := .cleared }
    else State.finish { s with task := .null }
  | .cleared => { s with shouldStop := true, manager := .stopping }
  | .stopping =>
    if s.thread ≠ .gone then s
    else if answers.home then s.finish
    else { s with started := false, wanted := answers.original, manager := .restoring }
  | .restoring =>
    if answers.create = 0 then { s with thread := .created, shouldStop := false, manager := .recreated }
    else s.finish
  | .recreated => if s.started then { s with shouldStop := true, manager := .restopping } else s
  | .restopping => if s.thread ≠ .gone then s else s.finish

end State

def step (prog : Program) (s : State) : Op → State
  | .request r => s.stepRequest prog r
  | .detach d => s.stepDetach prog d
  | .thread => s.stepThread
  | .interrupt => s.stepInterrupt
  | .manage answers => s.stepManage answers

/-- The switcher has never been enabled. -/
def init : State := {}

/-- The switcher has just been enabled, and the thread of the CPU is there. -/
def enabled : State := { task := .thread, wanted := -1, thread := .created, manager := .on }

end BigLittle.SwitchRequest
