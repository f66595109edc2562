import BigLittle.Cfs.Entity

/-!
# Task-level operations of the fair class

The scheduling-class hooks walk from a task's entity to the root. A loop that
can stop half-way returns the entities it has not dealt with, starting with the
one it stopped at, because a second loop continues from there.
-/

namespace BigLittle.Cfs

open Sched

variable {T G C : Type*} [DecidableEq T] [DecidableEq G] [DecidableEq C]

namespace State

variable (cfg : Config G C) (s : State T G C) (t : T)

/-- The entities `for_each_sched_entity` visits from a task on. -/
def entities : List (Entity T G C) :=
  .task t :: (cfg.path (s.taskQueue t).tg).map fun g => .group g (s.taskQueue t).cpu

/-- First loop of `enqueue_task_fair`: enqueue until an entity is already queued
or a throttled queue is met. -/
def enqueueLoop (spent : QueueId G C → Bool) : List (Entity T G C) → State T G C → Bool →
      State T G C × List (Entity T G C)
  | [], s, _ => (s, [])
  | e :: rest, s, wakeup =>
    if (s.se e).onRq then (s, e :: rest)
    else
      let q := s.cfsRqOf cfg e
      let s := s.enqueueEntity cfg e wakeup spent
      if s.cfsRqThrottled cfg q then (s, e :: rest)
      else enqueueLoop spent rest (s.addHNrRunning q 1) true

/-- First loop of `dequeue_task_fair`: dequeue until a queue still has weight or
is throttled. -/
def dequeueLoop : List (Entity T G C) → State T G C → Bool → State T G C × List (Entity T G C)
  | [], s, _ => (s, [])
  | e :: rest, s, sleep =>
    let q := s.cfsRqOf cfg e
    let s := s.dequeueEntity cfg e sleep
    if s.cfsRqThrottled cfg q then (s, e :: rest)
    else
      let s := s.subHNrRunning q 1
      if (s.cfs q).loadWeight ≠ 0 then (s, rest) else dequeueLoop rest s true

/-- Second loop of `enqueue_task_fair` and `dequeue_task_fair`: count the task in
the queues above by `count` and refresh shares and loads there. The flag of the
result says that the root was reached. -/
def refreshLoop (count : State T G C → QueueId G C → State T G C) :
    List (Entity T G C) → State T G C → State T G C × Bool
  | [], s => (s, true)
  | e :: rest, s =>
    let q := s.cfsRqOf cfg e
    let s := count s q
    if s.cfsRqThrottled cfg q then (s, false)
    else refreshLoop count rest ((s.updateCfsShares cfg q).updateEntityLoadAvg cfg e true)

def enqueueTaskFair (wakeup : Bool) (spent : QueueId G C → Bool) : State T G C :=
  let cpu := (s.taskQueue t).cpu
  let (s, rest) := enqueueLoop cfg spent (s.entities cfg t) s wakeup
  let (s, toRoot) := refreshLoop cfg (fun s q => s.addHNrRunning q 1) rest s
  if toRoot then
    (s.updateRqRunnableAvg cfg cpu (decide ((s.rq cpu).nrRunning ≠ 0))).modifyRq cpu fun r =>
      { r with nrRunning := Word.add 32 r.nrRunning 1 }
  else s

def dequeueTaskFair (sleep : Bool) : State T G C :=
  let cpu := (s.taskQueue t).cpu
  let (s, rest) := dequeueLoop cfg (s.entities cfg t) s sleep
  let (s, toRoot) := refreshLoop cfg (fun s q => s.subHNrRunning q 1) rest s
  if toRoot then
    (s.modifyRq cpu fun r =>
      { r with nrRunning := Word.sub 32 r.nrRunning 1 }).updateRqRunnableAvg cfg cpu true
  else s

def taskTickFair : State T G C :=
  let cpu := (s.taskQueue t).cpu
  ((s.entities cfg t).foldl (fun s e => s.entityTick cfg e) s).updateRqRunnableAvg cfg cpu true

/-- `pick_next_task_fair` once the task is chosen: from the root down. -/
def pickNextTaskFair : State T G C :=
  (s.entities cfg t).reverse.foldl (fun s e => s.setNextEntity cfg e) s

def putPrevTaskFair (spent : QueueId G C → Bool) : State T G C :=
  (s.entities cfg t).foldl (fun s e => s.putPrevEntity cfg e spent) s

end State

inductive ClassOp (T G C : Type*) where
  | enqueue (t : T) (wakeup : Bool) (spent : QueueId G C → Bool)
  | dequeue (t : T) (sleep : Bool)
  | tick (t : T)
  | pickNext (t : T)
  | putPrev (t : T) (spent : QueueId G C → Bool)
  | migrate (t : T) (cpu : C) (nohz : Option Nat)
  | clock (cpu : C) (clockTask : Nat)
  | idle (cpu : C) (entering : Bool)
  | throttle (q : QueueId G C)
  | unthrottle (q : QueueId G C) (spent : QueueId G C → Bool)

def State.classStep (cfg : Config G C) (s : State T G C) : ClassOp T G C → State T G C
  | .enqueue t wakeup spent => s.enqueueTaskFair cfg t wakeup spent
  | .dequeue t sleep => s.dequeueTaskFair cfg t sleep
  | .tick t => s.taskTickFair cfg t
  | .pickNext t => s.pickNextTaskFair cfg t
  | .putPrev t spent => s.putPrevTaskFair cfg t spent
  | .migrate t cpu nohz => s.migrateTask t cpu nohz
  | .clock cpu clockTask => s.updateRqClock cpu clockTask
  | .idle cpu entering => s.updateRqRunnableAvg cfg cpu entering
  | .throttle q => s.throttleCfsRq cfg q
  | .unthrottle q spent => s.unthrottleCfsRq cfg q spent

end BigLittle.Cfs
