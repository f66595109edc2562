import BigLittle.Cfs.Load

/-!
# Queueing entities

`enqueue_entity`, `dequeue_entity`, the context-switch and tick operations on
one entity, and throttling. Whether a queue has used up its runtime is decided
by the bandwidth pools, so the operations that ask for it take the answer for
each queue as an argument.

Throttling walks the subtree of a group; the visitors touch only the queue they
are called on, and each group is visited once, so the walk is written as one
change of every queue below the group.
-/

namespace BigLittle.Cfs

open Sched
open Word (add mul sub toSigned)

variable {T G C : Type*} [DecidableEq T] [DecidableEq G] [DecidableEq C]

def minShares : Nat := 2

namespace State

variable (cfg : Config G C) (s : State T G C) (q : QueueId G C) (e : Entity T G C)

/-- `account_entity_enqueue` and `account_entity_dequeue`, by the arithmetic they count
with; without the task list. -/
def accountEntity (count : Nat → Nat → Nat → Nat) : State T G C :=
  let q := s.cfsRqOf cfg e
  let weight := (s.se e).weight
  let s := s.modifyCfs q fun c =>
    { c with
      loadWeight := count 64 c.loadWeight weight
      nrRunning := count 32 c.nrRunning 1 }
  if q.tg = none then
    s.modifyRq q.cpu fun r => { r with loadWeight := count 64 r.loadWeight weight }
  else s

abbrev accountEntityEnqueue : State T G C := s.accountEntity cfg e add

abbrev accountEntityDequeue : State T G C := s.accountEntity cfg e sub

def reweightEntity (weight : Nat) : State T G C :=
  if (s.se e).onRq then
    ((s.accountEntityDequeue cfg e).modifySe e fun se =>
      { se with weight := weight }).accountEntityEnqueue cfg e
  else s.modifySe e fun se => { se with weight := weight }

/-- `calc_cfs_shares`, with `calc_tg_weight`. The division is signed, the two
comparisons are not. -/
def calcCfsShares : Nat :=
  let c := s.cfs q
  let g := s.tg q.tg
  let tgWeight := add 64 (sub 64 g.loadAvg c.tgLoadContrib) c.loadWeight
  let shares := mul 64 g.shares c.loadWeight
  let shares :=
    if tgWeight ≠ 0 then
      Word.ofInt 64 (Int.tdiv (toSigned 64 shares) (toSigned 64 tgWeight))
    else shares
  let shares := if shares < minShares then minShares else shares
  if g.shares < shares then g.shares else shares

def throttledHierarchy : Bool :=
  cfg.bandwidthUsed && decide ((s.cfs q).throttleCount ≠ 0)

def cfsRqThrottled : Bool := cfg.bandwidthUsed && (s.cfs q).throttled

def updateCfsShares : State T G C :=
  match q.tg with
  | none => s
  | some g =>
    if s.throttledHierarchy cfg q then s
    else s.reweightEntity cfg (.group g q.cpu) (s.calcCfsShares q)

def dequeueEntity (sleep : Bool) : State T G C :=
  let q := s.cfsRqOf cfg e
  let s := s.dequeueEntityLoadAvg cfg e sleep
  let s := s.modifySe e fun se => { se with onRq := false }
  (s.accountEntityDequeue cfg e).updateCfsShares cfg q

/-- `tg_throttle_down` on one queue. -/
def tgThrottleDown (c : CfsRq T G C) (clockTask : Nat) : CfsRq T G C :=
  { c with
    throttledClockTask := if c.throttleCount = 0 then clockTask else c.throttledClockTask
    throttleCount := c.throttleCount + 1 }

/-- `tg_unthrottle_up` on one queue. -/
def tgUnthrottleUp (c : CfsRq T G C) (clockTask : Nat) : CfsRq T G C :=
  { c with
    throttleCount := c.throttleCount - 1
    throttledClockTaskTime :=
      if c.throttleCount - 1 = 0 then
        add 64 c.throttledClockTaskTime (sub 64 clockTask c.throttledClockTask)
      else c.throttledClockTaskTime }

/-- Whether the queue `r` belongs to the subtree of the group of `q`, on the
same CPU. -/
def below (q r : QueueId G C) : Bool :=
  decide (r.cpu = q.cpu) &&
    match q.tg with
    | none => true
    | some g => decide (g ∈ cfg.path r.tg)

/-- `walk_tg_tree_from` the group of `q`, on the CPU of `q`. -/
def walkTgTreeFrom (visit : CfsRq T G C → Nat → CfsRq T G C) : State T G C :=
  { s with cfs := fun r =>
      if below cfg q r then visit (s.cfs r) (s.rq q.cpu).clockTask else s.cfs r }

def addHNrRunning (delta : Nat) : State T G C :=
  s.modifyCfs q fun c => { c with hNrRunning := add 32 c.hNrRunning delta }

def subHNrRunning (delta : Nat) : State T G C :=
  s.modifyCfs q fun c => { c with hNrRunning := sub 32 c.hNrRunning delta }

/-- One round of the loop in `throttle_cfs_rq`, for a queued entity. -/
def throttleEntity (taskDelta : Nat) (dequeue : Bool) : State T G C :=
  let q := s.cfsRqOf cfg e
  let s := if dequeue then s.dequeueEntity cfg e true else s
  s.subHNrRunning q taskDelta

/-- The loop of `throttle_cfs_rq` over the entities above the throttled queue;
the flag of the result says that it ran to the root. -/
def throttleLoop (cpu : C) (taskDelta : Nat) : List G → State T G C → Bool → State T G C × Bool
  | [], s, _ => (s, true)
  | g :: rest, s, dequeue =>
    let e : Entity T G C := .group g cpu
    let q := s.cfsRqOf cfg e
    if (s.se e).onRq then
      let s := s.throttleEntity cfg e taskDelta dequeue
      throttleLoop cpu taskDelta rest s (dequeue && decide ((s.cfs q).loadWeight = 0))
    else (s, false)

def throttleCfsRq : State T G C :=
  let s := s.walkTgTreeFrom cfg q tgThrottleDown
  let taskDelta := (s.cfs q).hNrRunning
  let (s, toRoot) := throttleLoop cfg q.cpu taskDelta (cfg.path q.tg) s true
  let s :=
    if toRoot then s.modifyRq q.cpu fun r => { r with nrRunning := sub 32 r.nrRunning taskDelta }
    else s
  s.modifyCfs q fun c => { c with throttled := true }

variable (spent : QueueId G C → Bool) (t : T)

/-- `check_enqueue_throttle`; `spent` tells for which queues no runtime is
left after the accounting. -/
def checkEnqueueThrottle : State T G C :=
  let c := s.cfs q
  if cfg.bandwidthUsed ∧ c.runtimeEnabled ∧ c.curr = none ∧ c.throttled = false ∧ spent q then
    s.throttleCfsRq cfg q
  else s

def checkCfsRqRuntime : State T G C :=
  let c := s.cfs q
  if cfg.bandwidthUsed ∧ c.runtimeEnabled ∧ spent q ∧ c.throttled = false then
    s.throttleCfsRq cfg q
  else s

def enqueueEntity (wakeup : Bool) (spent : QueueId G C → Bool) : State T G C :=
  let q := s.cfsRqOf cfg e
  let s := ((s.enqueueEntityLoadAvg cfg e wakeup).accountEntityEnqueue cfg e).updateCfsShares cfg q
  let s := s.modifySe e fun se => { se with onRq := true }
  if (s.cfs q).nrRunning = 1 then s.checkEnqueueThrottle cfg q spent else s

def unthrottleEntity (taskDelta : Nat) (enqueue : Bool) (spent : QueueId G C → Bool) : State T G C :=
  let q := s.cfsRqOf cfg e
  let s := if enqueue then s.enqueueEntity cfg e true spent else s
  s.addHNrRunning q taskDelta

/-- The loop of `unthrottle_cfs_rq`; from the first queued entity on it only
counts. -/
def unthrottleLoop (cpu : C) (taskDelta : Nat) (spent : QueueId G C → Bool) :
    List G → State T G C → Bool → State T G C × Bool
  | [], s, _ => (s, true)
  | g :: rest, s, enqueue =>
    let e : Entity T G C := .group g cpu
    let q := s.cfsRqOf cfg e
    let enqueue := enqueue && !(s.se e).onRq
    let s := s.unthrottleEntity cfg e taskDelta enqueue spent
    if s.cfsRqThrottled cfg q then (s, false)
    else unthrottleLoop cpu taskDelta spent rest s enqueue

def unthrottleCfsRq : State T G C :=
  let s := s.modifyCfs q fun c => { c with throttled := false }
  let s := s.walkTgTreeFrom cfg q tgUnthrottleUp
  if (s.cfs q).loadWeight = 0 then s
  else
    let taskDelta := (s.cfs q).hNrRunning
    let (s, toRoot) := unthrottleLoop cfg q.cpu taskDelta spent (cfg.path q.tg) s true
    if toRoot then s.modifyRq q.cpu fun r => { r with nrRunning := add 32 r.nrRunning taskDelta }
    else s

def setNextEntity : State T G C :=
  let q := s.cfsRqOf cfg e
  let s := if (s.se e).onRq then s.updateEntityLoadAvg cfg e true else s
  s.modifyCfs q fun c => { c with curr := some e }

def putPrevEntity : State T G C :=
  let q := s.cfsRqOf cfg e
  let s := s.checkCfsRqRuntime cfg q spent
  let s := if (s.se e).onRq then s.updateEntityLoadAvg cfg e true else s
  s.modifyCfs q fun c => { c with curr := none }

def entityTick : State T G C :=
  let q := s.cfsRqOf cfg e
  ((s.updateEntityLoadAvg cfg e true).updateCfsRqBlockedLoad q true).updateCfsShares cfg q

/-- `update_rq_clock`, up to the clock source. -/
def updateRqClock (cpu : C) (clockTask : Nat) : State T G C :=
  s.modifyRq cpu fun r => { r with clockTask := clockTask }

/-- When the tick of a sleeping task's CPU is stopped, its clock and its decay
counter are brought up to date before the task leaves. -/
def refreshNohz (nohz : Option Nat) : State T G C :=
  let q := s.taskQueue t
  match nohz with
  | some clockTask =>
    if (s.se (.task t)).onRq then s
    else (s.updateRqClock q.cpu clockTask).updateCfsRqBlockedLoad q false
  | none => s

/-- A sleeping task takes its decays along and leaves its contribution in
`removed_load` of its old queue. -/
def removeTaskLoad : State T G C :=
  let q := s.taskQueue t
  let s := s.modifyAvg (.task t) fun sa => sa.migrateTaskRq (s.cfs q).decayCounter
  s.modifyCfs q fun c =>
    { c with removedLoad := add 64 c.removedLoad (s.se (.task t)).avg.loadAvgContrib }

/-- `migrate_task_rq_fair`; `nohz` is the clock of the task's CPU if the tick is
stopped there. -/
def migrateTaskRqFair (nohz : Option Nat) : State T G C :=
  if (s.se (.task t)).avg.decayCount ≠ 0 then (s.refreshNohz t nohz).removeTaskLoad t else s

/-- `set_task_cpu` for a task that is not queued: `migrate_task_rq_fair` if the
CPU is another one, then `set_task_rq` to the queue of its group there. -/
def migrateTask (cpu : C) (nohz : Option Nat) : State T G C :=
  let s := if (s.taskQueue t).cpu = cpu then s else s.migrateTaskRqFair t nohz
  { s with taskQueue := Function.update s.taskQueue t ⟨(s.taskQueue t).tg, cpu⟩ }

end State

/-- The operations between which the state can be observed. Besides the entity
operations these are the updates that the task-level loops make on entities that
stay queued, the clock, and a migration. -/
inductive Op (T G C : Type*) where
  | enqueueEntity (e : Entity T G C) (wakeup : Bool)
      (spent : QueueId G C → Bool)
  | dequeueEntity (e : Entity T G C) (sleep : Bool)
  | setNextEntity (e : Entity T G C)
  | putPrevEntity (e : Entity T G C) (spent : QueueId G C → Bool)
  | entityTick (e : Entity T G C)
  | throttleCfsRq (q : QueueId G C)
  | unthrottleCfsRq (q : QueueId G C) (spent : QueueId G C → Bool)
  | updateEntityLoadAvg (e : Entity T G C)
  | updateCfsShares (q : QueueId G C)
  | updateRqRunnableAvg (cpu : C) (runnable : Bool)
  | updateRqClock (cpu : C) (clockTask : Nat)
  | migrateTask (t : T) (cpu : C) (nohz : Option Nat)

def State.step (cfg : Config G C) (s : State T G C) : Op T G C → State T G C
  | .enqueueEntity e wakeup spent => s.enqueueEntity cfg e wakeup spent
  | .dequeueEntity e sleep => s.dequeueEntity cfg e sleep
  | .setNextEntity e => s.setNextEntity cfg e
  | .putPrevEntity e spent => s.putPrevEntity cfg e spent
  | .entityTick e => s.entityTick cfg e
  | .throttleCfsRq q => s.throttleCfsRq cfg q
  | .unthrottleCfsRq q spent => s.unthrottleCfsRq cfg q spent
  | .updateEntityLoadAvg e => s.updateEntityLoadAvg cfg e true
  | .updateCfsShares q => s.updateCfsShares cfg q
  | .updateRqRunnableAvg cpu runnable => s.updateRqRunnableAvg cfg cpu runnable
  | .updateRqClock cpu clockTask => s.updateRqClock cpu clockTask
  | .migrateTask t cpu nohz => s.migrateTask t cpu nohz

/-- What the callers guarantee: `enqueue_task_fair` and `unthrottle_cfs_rq` test
`on_rq` before they enqueue, `dequeue_task` and `throttle_cfs_rq` dequeue what is
queued, and `set_task_cpu` is called for tasks that are off the queue. -/
def Op.Allowed (s : State T G C) : Op T G C → Prop
  | .enqueueEntity e _ _ => (s.se e).onRq = false
  | .dequeueEntity e _ => (s.se e).onRq = true
  | .migrateTask t _ _ => (s.se (.task t)).onRq = false
  | _ => True

instance (s : State T G C) (op : Op T G C) : Decidable (op.Allowed s) := by
  cases op <;> dsimp only [Op.Allowed] <;> infer_instance

/-- What a machine starts with: where each task belongs, and the records that come
from outside. -/
structure Start (T G C : Type*) where
  taskQueue : T → QueueId G C
  prio : Entity T G C → Int := fun _ => 120
  tasks : T → SchedEntity := fun _ => {}
  groups : Option G → TaskGroup := fun _ => {}
  runtimeEnabled : QueueId G C → Bool := fun _ => false

/-- The state before anything is queued: zeroed queues and group entities, tasks
with any weight and any record. -/
def State.boot (start : Start T G C) : State T G C where
  taskQueue := start.taskQueue
  prio := start.prio
  se
    | .task t => { start.tasks t with onRq := false }
    | .group _ _ => {}
  cfs := fun q => { runtimeEnabled := start.runtimeEnabled q }
  rq := fun _ => {}
  tg := start.groups

omit [DecidableEq T] [DecidableEq G] [DecidableEq C] in
lemma State.boot_onRq (start : Start T G C) (e : Entity T G C) : ((boot start).se e).onRq = false := by
  cases e <;> rfl

end BigLittle.Cfs
