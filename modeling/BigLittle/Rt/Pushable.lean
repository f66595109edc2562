import Mathlib.Data.Finset.Card
import Mathlib.Data.Fintype.Basic
import BigLittle.Lib.PriorityList
import BigLittle.Lib.Run

/-!
# What a run queue knows about its real-time tasks

A run queue counts its real-time tasks and those that may run elsewhere, keeps the ones
that could be pushed away in a list in priority order, with the priority of the first,
and tells its root domain when it is overloaded. Queueing, scheduling and changes of the
affinity each maintain a part of this, under the lock of the run queue.

A task's priority changes only while the task is off the queue, so the priority of its
node in the list is that of the task. Group entities take no part in the counts and are
left out. Which task is picked is an input.
-/

namespace BigLittle.Rt

open scoped Finset

def maxRtPrio : Nat := 100

/-- What matters of a `struct task_struct`; `onRtRq` says whether its entity is queued
here. -/
structure TaskRt where
  prio : Nat
  nrCpusAllowed : Nat
  onRtRq : Bool := false

/-- What matters of `struct rq` and its `struct rt_rq`, with the CPU's bits in the masks
of the root domains and its part of their counts. -/
structure RunQueue (T Rd : Type*) where
  task : T → TaskRt
  curr : T
  pushableTasks : List T := []
  highestPrioNext : Nat := maxRtPrio
  rtNrTotal : Nat := 0
  rtNrMigratory : Nat := 0
  overloaded : Bool := false
  online : Bool := false
  rd : Rd
  rtoMask : Rd → Bool := fun _ => false
  rtoCount : Rd → Int := fun _ => 0

variable {T Rd : Type*} [DecidableEq T] [DecidableEq Rd]

namespace RunQueue

variable (rq : RunQueue T Rd) (p : T)

def prio : Nat := (rq.task p).prio

def setTask (t : TaskRt) : RunQueue T Rd := { rq with task := Function.update rq.task p t }

def rtSetOverload : RunQueue T Rd :=
  if !rq.online then rq
  else
    { rq with
      rtoMask := Function.update rq.rtoMask rq.rd true
      rtoCount := Function.update rq.rtoCount rq.rd (rq.rtoCount rq.rd + 1) }

def rtClearOverload : RunQueue T Rd :=
  if !rq.online then rq
  else
    { rq with
      rtoCount := Function.update rq.rtoCount rq.rd (rq.rtoCount rq.rd - 1)
      rtoMask := Function.update rq.rtoMask rq.rd false }

def updateRtMigration : RunQueue T Rd :=
  if rq.rtNrMigratory ≠ 0 ∧ 1 < rq.rtNrTotal then
    if !rq.overloaded then { rq.rtSetOverload with overloaded := true } else rq
  else if rq.overloaded then { rq.rtClearOverload with overloaded := false }
  else rq

/-- `inc_rt_migration` of a task's entity. -/
def incRtMigration : RunQueue T Rd :=
  let rq := { rq with rtNrTotal := rq.rtNrTotal + 1 }
  let rq := if 1 < (rq.task p).nrCpusAllowed then { rq with rtNrMigratory := rq.rtNrMigratory + 1 } else rq
  rq.updateRtMigration

/-- `dec_rt_migration` of a task's entity. -/
def decRtMigration : RunQueue T Rd :=
  let rq := { rq with rtNrTotal := rq.rtNrTotal - 1 }
  let rq := if 1 < (rq.task p).nrCpusAllowed then { rq with rtNrMigratory := rq.rtNrMigratory - 1 } else rq
  rq.updateRtMigration

def enqueuePushableTask : RunQueue T Rd :=
  { rq with
    pushableTasks := PriorityList.insert rq.prio p (rq.pushableTasks.erase p)
    highestPrioNext := if rq.prio p < rq.highestPrioNext then rq.prio p else rq.highestPrioNext }

def dequeuePushableTask : RunQueue T Rd :=
  let left := rq.pushableTasks.erase p
  { rq with
    pushableTasks := left
    highestPrioNext := PriorityList.first rq.prio maxRtPrio left }

/-- `__enqueue_rt_entity` -/
def enqueueEntity : RunQueue T Rd :=
  (rq.setTask p { rq.task p with onRtRq := true }).incRtMigration p

/-- `dequeue_rt_stack`, with `__dequeue_rt_entity` -/
def dequeueRtStack : RunQueue T Rd :=
  if (rq.task p).onRtRq then (rq.setTask p { rq.task p with onRtRq := false }).decRtMigration p else rq

def enqueueTaskRt : RunQueue T Rd :=
  let rq := (rq.dequeueRtStack p).enqueueEntity p
  if p ≠ rq.curr ∧ 1 < (rq.task p).nrCpusAllowed then rq.enqueuePushableTask p else rq

def dequeueTaskRt : RunQueue T Rd := (rq.dequeueRtStack p).dequeuePushableTask p

def putPrevTaskRt : RunQueue T Rd :=
  if (rq.task p).onRtRq ∧ 1 < (rq.task p).nrCpusAllowed then rq.enqueuePushableTask p else rq

/-- `pick_next_task_rt` when it picks `p`; `set_curr_task_rt` does the same. -/
def pickNextTaskRt : RunQueue T Rd := rq.dequeuePushableTask p

/-- In `__schedule`: the current task is put back and another becomes current. A task that
is not queued here is picked by another class. -/
def contextSwitch (next : T) : RunQueue T Rd :=
  let rq := rq.putPrevTaskRt rq.curr
  let rq := if (rq.task next).onRtRq then rq.pickNextTaskRt next else rq
  { rq with curr := next }

def setCpusAllowedRt (weight : Nat) : RunQueue T Rd :=
  if !(rq.task p).onRtRq then rq
  else if (1 < (rq.task p).nrCpusAllowed) = (1 < weight) then rq
  else
    let rq :=
      if weight ≤ 1 then
        let rq := if p ≠ rq.curr then rq.dequeuePushableTask p else rq
        { rq with rtNrMigratory := rq.rtNrMigratory - 1 }
      else
        let rq := if p ≠ rq.curr then rq.enqueuePushableTask p else rq
        { rq with rtNrMigratory := rq.rtNrMigratory + 1 }
    rq.updateRtMigration

def doSetCpusAllowed (weight : Nat) : RunQueue T Rd :=
  let rq := rq.setCpusAllowedRt p weight
  rq.setTask p { rq.task p with nrCpusAllowed := weight }

/-- `set_rq_online` with `rq_online_rt` -/
def setRqOnline : RunQueue T Rd :=
  if !rq.online then
    let rq := { rq with online := true }
    if rq.overloaded then rq.rtSetOverload else rq
  else rq

/-- `set_rq_offline` with `rq_offline_rt` -/
def setRqOffline : RunQueue T Rd :=
  if rq.online then { (if rq.overloaded then rq.rtClearOverload else rq) with online := false } else rq

def rqAttachRoot (rd : Rd) (active : Bool) : RunQueue T Rd :=
  let rq := { rq.setRqOffline with rd := rd }
  if active then rq.setRqOnline else rq

end RunQueue

inductive QueueOp (T Rd : Type*) where
  | enqueueTask (p : T)
  | dequeueTask (p : T)
  | contextSwitch (next : T)
  /-- in `__sched_setscheduler` and `sched_move_task`, where the current task is off the
  queue -/
  | putPrevTask
  | setCurrTask
  | setPrio (p : T) (prio : Nat)
  | setCpusAllowed (p : T) (weight : Nat)
  | online
  | offline
  | attachRoot (rd : Rd) (active : Bool)

namespace RunQueue

def step (rq : RunQueue T Rd) : QueueOp T Rd → RunQueue T Rd
  | .enqueueTask p => rq.enqueueTaskRt p
  | .dequeueTask p => rq.dequeueTaskRt p
  | .contextSwitch next => rq.contextSwitch next
  | .putPrevTask => rq.putPrevTaskRt rq.curr
  | .setCurrTask => rq.pickNextTaskRt rq.curr
  | .setPrio p prio => rq.setTask p { rq.task p with prio := prio }
  | .setCpusAllowed p weight => rq.doSetCpusAllowed p weight
  | .online => rq.setRqOnline
  | .offline => rq.setRqOffline
  | .attachRoot rd active => rq.rqAttachRoot rd active

end RunQueue

/-- What the callers guarantee: tasks of the class have a real-time priority, which changes
off the queue only. -/
def QueueOp.Allowed (rq : RunQueue T Rd) : QueueOp T Rd → Prop
  | .enqueueTask p => rq.prio p < maxRtPrio
  | .setPrio p _ => (rq.task p).onRtRq = false
  | .putPrevTask => (rq.task rq.curr).onRtRq = false
  | _ => True

instance QueueOp.decidableAllowed (rq : RunQueue T Rd) (op : QueueOp T Rd) : Decidable (op.Allowed rq) := by
  cases op <;> dsimp only [QueueOp.Allowed] <;> infer_instance

end BigLittle.Rt
