import BigLittle.Cfs.Counted
import BigLittle.Cfs.Timeline

/-!
# Buddies

Each queue may name an entity to run next, one that ran last and one to skip. The
pointers are set for an entity and everything above it at once, and cleared level by
level as long as a level names the entity. The operations are written again here with
what they do to the pointers; what they do to the state is what they did before.

Virtual time only decides which entity is preferred. It can change to any value at any
time here, and so can the policies of tasks. The granularity in an entity's own time is
a function of its weight.
-/

namespace BigLittle.Cfs

variable {T G C : Type*} [DecidableEq T] [DecidableEq G] [DecidableEq C]

inductive Policy where
  | normal
  | batch
  | idle
deriving DecidableEq

structure BuddyEnv where
  nextBuddy : Bool
  lastBuddy : Bool
  wakeupPreemption : Bool
  schedNrLatency : Nat
  wakeupGranularity : Nat
  /-- `calc_delta_fair` of a time, for a weight -/
  calcDeltaFair : Nat → Nat → Nat

/-- One of the three pointers, for all queues. -/
abbrev Pointer (T G C : Type*) := QueueId G C → Option (Entity T G C)

/-- What `for_each_sched_entity` visits from an entity on. -/
def State.forEach (cfg : Config G C) (s : State T G C) (e : Entity T G C) : List (Entity T G C) :=
  e :: chain cfg (s.cfsRqOf cfg e).cpu (s.cfsRqOf cfg e).tg

namespace Pointer

variable (cfg : Config G C) (s : State T G C)

/-- The loop of `__clear_buddies_last`, `__clear_buddies_next` and
`__clear_buddies_skip`. -/
def clearLoop : List (Entity T G C) → Pointer T G C → Pointer T G C
  | [], p => p
  | e :: rest, p =>
    if p (s.cfsRqOf cfg e) = some e then
      clearLoop rest (Function.update p (s.cfsRqOf cfg e) none)
    else p

/-- The loop of `set_last_buddy`, `set_next_buddy` and `set_skip_buddy`. -/
def setLoop : List (Entity T G C) → Pointer T G C → Pointer T G C
  | [], p => p
  | e :: rest, p => setLoop rest (Function.update p (s.cfsRqOf cfg e) (some e))

/-- One test of `clear_buddies`, with the loop it calls. -/
def clear (p : Pointer T G C) (e : Entity T G C) : Pointer T G C :=
  if p (s.cfsRqOf cfg e) = some e then clearLoop cfg s (s.forEach cfg e) p else p

def set (p : Pointer T G C) (e : Entity T G C) : Pointer T G C :=
  setLoop cfg s (s.forEach cfg e) p

end Pointer

structure BuddyState (T G C : Type*) where
  state : State T G C
  next : Pointer T G C
  last : Pointer T G C
  skip : Pointer T G C
  policy : T → Policy
  vruntime : Entity T G C → Nat

namespace BuddyState

variable (cfg : Config G C) (env : BuddyEnv) (b : BuddyState T G C) (e : Entity T G C)

def clearBuddies : BuddyState T G C :=
  { b with
    last := Pointer.clear cfg b.state b.last e
    next := Pointer.clear cfg b.state b.next e
    skip := Pointer.clear cfg b.state b.skip e }

/-- `entity_is_task(se) && task_of(se)->policy == SCHED_IDLE` -/
def isIdleTask : Entity T G C → Bool
  | .task t => decide (b.policy t = .idle)
  | .group _ _ => false

def setLastBuddy : BuddyState T G C :=
  if b.isIdleTask e then b else { b with last := Pointer.set cfg b.state b.last e }

def setNextBuddy : BuddyState T G C :=
  if b.isIdleTask e then b else { b with next := Pointer.set cfg b.state b.next e }

def setSkipBuddy : BuddyState T G C :=
  { b with skip := Pointer.set cfg b.state b.skip e }

/-- What does not concern the pointers. -/
def onState (f : State T G C → State T G C) : BuddyState T G C :=
  { b with state := f b.state }

def dequeueEntity (sleep : Bool) : BuddyState T G C :=
  (b.clearBuddies cfg e).onState fun s => s.dequeueEntity cfg e sleep

def throttleLoop (cpu : C) (taskDelta : Nat) : List G → BuddyState T G C → Bool → BuddyState T G C × Bool
  | [], b, _ => (b, true)
  | g :: rest, b, dequeue =>
    let e : Entity T G C := .group g cpu
    let q := b.state.cfsRqOf cfg e
    if (b.state.se e).onRq then
      let b := if dequeue then b.dequeueEntity cfg e true else b
      let b := b.onState fun s => s.subHNrRunning q taskDelta
      throttleLoop cpu taskDelta rest b (dequeue && decide ((b.state.cfs q).loadWeight = 0))
    else (b, false)

variable (q : QueueId G C)

def throttleCfsRq : BuddyState T G C :=
  let b := b.onState fun s => s.walkTgTreeFrom cfg q State.tgThrottleDown
  let taskDelta := (b.state.cfs q).hNrRunning
  let (b, toRoot) := throttleLoop cfg q.cpu taskDelta (cfg.path q.tg) b true
  let b :=
    if toRoot then
      b.onState fun s => s.modifyRq q.cpu fun r => { r with nrRunning := Word.sub 32 r.nrRunning taskDelta }
    else b
  b.onState fun s => s.modifyCfs q fun c => { c with throttled := true }

def checkEnqueueThrottle (spent : QueueId G C → Bool) : BuddyState T G C :=
  let c := b.state.cfs q
  if cfg.bandwidthUsed ∧ c.runtimeEnabled ∧ c.curr = none ∧ c.throttled = false ∧ spent q then
    b.throttleCfsRq cfg q
  else b

def checkCfsRqRuntime (spent : QueueId G C → Bool) : BuddyState T G C :=
  let c := b.state.cfs q
  if cfg.bandwidthUsed ∧ c.runtimeEnabled ∧ spent q ∧ c.throttled = false then
    b.throttleCfsRq cfg q
  else b

def enqueueEntity (wakeup : Bool) (spent : QueueId G C → Bool) : BuddyState T G C :=
  let q := b.state.cfsRqOf cfg e
  let b := b.onState fun s => s.enqueued cfg e wakeup
  if (b.state.cfs q).nrRunning = 1 then b.checkEnqueueThrottle cfg q spent else b

/-- One round of the loop in `unthrottle_cfs_rq`. -/
def unthrottleEntity (taskDelta : Nat) (enqueue : Bool) (spent : QueueId G C → Bool) : BuddyState T G C :=
  let q := b.state.cfsRqOf cfg e
  let b := if enqueue then b.enqueueEntity cfg e true spent else b
  b.onState fun s => s.addHNrRunning q taskDelta

def unthrottleLoop (cpu : C) (taskDelta : Nat) (spent : QueueId G C → Bool) :
    List G → BuddyState T G C → Bool → BuddyState T G C × Bool
  | [], b, _ => (b, true)
  | g :: rest, b, enqueue =>
    let e : Entity T G C := .group g cpu
    let q := b.state.cfsRqOf cfg e
    let enqueue := enqueue && !(b.state.se e).onRq
    let b := b.unthrottleEntity cfg e taskDelta enqueue spent
    if b.state.cfsRqThrottled cfg q then (b, false)
    else unthrottleLoop cpu taskDelta spent rest b enqueue

def unthrottleCfsRq (spent : QueueId G C → Bool) : BuddyState T G C :=
  let b := b.onState fun s =>
    (s.modifyCfs q fun c => { c with throttled := false }).walkTgTreeFrom cfg q State.tgUnthrottleUp
  if (b.state.cfs q).loadWeight = 0 then b
  else
    let taskDelta := (b.state.cfs q).hNrRunning
    let (b, toRoot) := unthrottleLoop cfg q.cpu taskDelta spent (cfg.path q.tg) b true
    if toRoot then
      b.onState fun s => s.modifyRq q.cpu fun r => { r with nrRunning := Word.add 32 r.nrRunning taskDelta }
    else b

/-- First loop of `enqueue_task_fair`. -/
def enqueueLoop (spent : QueueId G C → Bool) : List (Entity T G C) → BuddyState T G C → Bool →
      BuddyState T G C × List (Entity T G C)
  | [], b, _ => (b, [])
  | e :: rest, b, wakeup =>
    if (b.state.se e).onRq then (b, e :: rest)
    else
      let q := b.state.cfsRqOf cfg e
      let b := b.enqueueEntity cfg e wakeup spent
      if b.state.cfsRqThrottled cfg q then (b, e :: rest)
      else enqueueLoop spent rest (b.onState fun s => s.addHNrRunning q 1) true

/-- First loop of `dequeue_task_fair`. A queue that keeps entities when a task goes to
sleep is favoured: its owner becomes the next buddy all the way up. `taskSleep` is the
flag of the call, `sleep` that of the round. -/
def dequeueLoop (taskSleep : Bool) : List (Entity T G C) → BuddyState T G C → Bool →
      BuddyState T G C × List (Entity T G C)
  | [], b, _ => (b, [])
  | e :: rest, b, sleep =>
    let q := b.state.cfsRqOf cfg e
    let b := b.dequeueEntity cfg e sleep
    if b.state.cfsRqThrottled cfg q then (b, e :: rest)
    else
      let b := b.onState fun s => s.subHNrRunning q 1
      if (b.state.cfs q).loadWeight ≠ 0 then
        match taskSleep, rest with
        | true, parent :: _ => (b.setNextBuddy cfg parent, rest)
        | _, _ => (b, rest)
      else dequeueLoop taskSleep rest b true

def enqueueTaskFair (t : T) (wakeup : Bool) (spent : QueueId G C → Bool) : BuddyState T G C :=
  let cpu := (b.state.taskQueue t).cpu
  let (b, rest) := enqueueLoop cfg spent (b.state.entities cfg t) b wakeup
  b.onState fun s =>
    let (s, toRoot) := State.refreshLoop cfg (fun s q => s.addHNrRunning q 1) rest s
    if toRoot then
      (s.updateRqRunnableAvg cfg cpu (decide ((s.rq cpu).nrRunning ≠ 0))).modifyRq cpu fun r =>
        { r with nrRunning := Word.add 32 r.nrRunning 1 }
    else s

def dequeueTaskFair (t : T) (sleep : Bool) : BuddyState T G C :=
  let cpu := (b.state.taskQueue t).cpu
  let (b, rest) := dequeueLoop cfg sleep (b.state.entities cfg t) b sleep
  b.onState fun s =>
    let (s, toRoot) := State.refreshLoop cfg (fun s q => s.subHNrRunning q 1) rest s
    if toRoot then
      (s.modifyRq cpu fun r =>
        { r with nrRunning := Word.sub 32 r.nrRunning 1 }).updateRqRunnableAvg cfg cpu true
    else s

def putPrevEntity (spent : QueueId G C → Bool) : BuddyState T G C :=
  let q := b.state.cfsRqOf cfg e
  (b.checkCfsRqRuntime cfg q spent).onState fun s =>
    let s := if (s.se e).onRq then s.updateEntityLoadAvg cfg e true else s
    s.modifyCfs q fun c => { c with curr := none }

/-- `entity_tick`; `ranLong` says whether `check_preempt_tick` finds that the entity has
had its slice. -/
def entityTick (ranLong : Bool) : BuddyState T G C :=
  let b := b.onState fun s => s.entityTick cfg e
  if 1 < (b.state.cfs (b.state.cfsRqOf cfg e)).nrRunning ∧ ranLong then b.clearBuddies cfg e else b

def wakeupPreemptEntity (curr se : Entity T G C) : Int :=
  let vdiff := Word.toSigned 64 (Word.sub 64 (b.vruntime curr) (b.vruntime se))
  if vdiff ≤ 0 then -1
  else
    let gran := Word.toSigned 64 (env.calcDeltaFair env.wakeupGranularity (b.state.se se).weight)
    if gran < vdiff then 1 else 0

/-- The last loop of `find_matching_se`. -/
def climb : List (Entity T G C) → List (Entity T G C) → Option (Entity T G C × Entity T G C)
  | e :: rest, e' :: rest' =>
    if b.state.cfsRqOf cfg e = b.state.cfsRqOf cfg e' then some (e, e') else climb rest rest'
  | _, _ => none

/-- `find_matching_se`; its first two loops bring both entities to the same depth. -/
def findMatchingSe (curr p : T) : Option (Entity T G C × Entity T G C) :=
  let se := b.state.entities cfg curr
  let pse := b.state.entities cfg p
  b.climb cfg (se.drop (se.length - pse.length)) (pse.drop (pse.length - se.length))

/-- `check_preempt_wakeup` from its label `preempt` on; `idle` says that the current
task is `rq->idle`. -/
def preempt (se : Entity T G C) (scale idle : Bool) : BuddyState T G C :=
  if (b.state.se se).onRq = false ∨ idle then b
  else
    match se with
    | .task t => if env.lastBuddy && scale then b.setLastBuddy cfg (.task t) else b
    | .group _ _ => b

def checkPreemptWakeup (curr p : T) (fork needResched idle : Bool) : BuddyState T G C :=
  if curr = p then b
  else if b.state.throttledHierarchy cfg (b.state.taskQueue p) then b
  else
    let scale := decide (env.schedNrLatency ≤ (b.state.cfs (b.state.taskQueue curr)).nrRunning)
    let marked := env.nextBuddy && scale && !fork
    let b := if marked then b.setNextBuddy cfg (.task p) else b
    if needResched then b
    else if b.policy curr = .idle ∧ b.policy p ≠ .idle then b.preempt cfg env (.task curr) scale idle
    else if b.policy p ≠ .normal ∨ env.wakeupPreemption = false then b
    else
      match b.findMatchingSe cfg curr p with
      | none => b
      | some (se, pse) =>
        if b.wakeupPreemptEntity env se pse = 1 then
          let b := if marked then b else b.setNextBuddy cfg pse
          b.preempt cfg env se scale idle
        else b

/-- `yield_task_fair`; `alone` says that `rq->nr_running` is 1. -/
def yieldTaskFair (curr : T) (alone : Bool) : BuddyState T G C :=
  if alone then b else (b.clearBuddies cfg (.task curr)).setSkipBuddy cfg (.task curr)

def yieldToTaskFair (curr p : T) (alone : Bool) : BuddyState T G C :=
  if (b.state.se (.task p)).onRq = false ∨ b.state.throttledHierarchy cfg (b.state.taskQueue p) then b
  else (b.setNextBuddy cfg (.task p)).yieldTaskFair cfg curr alone

/-- A test of `pick_next_entity`: the candidate is taken instead of `se` if there is one
and it is not too far behind the leftmost entity. -/
def prefer (left : Entity T G C) (candidate : Option (Entity T G C)) (se : Entity T G C) : Entity T G C :=
  match candidate with
  | some e => if b.wakeupPreemptEntity env e left < 1 then e else se
  | none => se

/-- The choice of `pick_next_entity` in a queue with this timeline. There is none if the
timeline is empty; the source would follow a null pointer. -/
def pickNextEntity (timeline : Timeline (Entity T G C)) : Option (Entity T G C) :=
  timeline.rbLeftmost.map fun left =>
    let second := (RbTree.find left [] timeline.tasksTimeline).bind RbTree.Focus.next
    let se := if b.skip q = some left then b.prefer env left second left else left
    let se := b.prefer env left (b.last q) se
    b.prefer env left (b.next q) se

/-- One round of `pick_next_task_fair`. -/
def pickAndSet (timeline : Timeline (Entity T G C)) : BuddyState T G C :=
  match b.pickNextEntity env q timeline with
  | some se => (b.clearBuddies cfg se).onState fun s => s.setNextEntity cfg se
  | none => b

end BuddyState

inductive BuddyOp (T G C : Type*) where
  | enqueue (t : T) (wakeup : Bool) (spent : QueueId G C → Bool)
  | dequeue (t : T) (sleep : Bool)
  | throttle (q : QueueId G C)
  | unthrottle (q : QueueId G C) (spent : QueueId G C → Bool)
  | tick (t : T) (ranLong : Entity T G C → Bool)
  | putPrev (t : T) (spent : QueueId G C → Bool)
  | pickNextEntity (q : QueueId G C) (timeline : Timeline (Entity T G C))
  | setCurrTask (t : T)
  | checkPreemptWakeup (curr p : T) (fork needResched idle : Bool)
  | yieldTask (curr : T) (alone : Bool)
  | yieldToTask (curr p : T) (alone : Bool)
  | migrate (t : T) (cpu : C) (nohz : Option Nat)
  | clock (cpu : C) (clockTask : Nat)
  | idle (cpu : C) (entering : Bool)
  | setPolicy (t : T) (policy : Policy)
  | setVruntime (e : Entity T G C) (vruntime : Nat)

def BuddyState.step (cfg : Config G C) (env : BuddyEnv) (b : BuddyState T G C) : BuddyOp T G C → BuddyState T G C
  | .enqueue t wakeup spent => b.enqueueTaskFair cfg t wakeup spent
  | .dequeue t sleep => b.dequeueTaskFair cfg t sleep
  | .throttle q => b.throttleCfsRq cfg q
  | .unthrottle q spent => b.unthrottleCfsRq cfg q spent
  | .tick t ranLong =>
    ((b.state.entities cfg t).foldl (fun b e => b.entityTick cfg e (ranLong e)) b).onState fun s =>
      s.updateRqRunnableAvg cfg (b.state.taskQueue t).cpu true
  | .putPrev t spent =>
    (b.state.entities cfg t).foldl (fun b e => b.putPrevEntity cfg e spent) b
  | .pickNextEntity q timeline => b.pickAndSet cfg env q timeline
  | .setCurrTask t =>
    (b.state.entities cfg t).foldl (fun b e => b.onState fun s => s.setNextEntity cfg e) b
  | .checkPreemptWakeup curr p fork needResched idle =>
    b.checkPreemptWakeup cfg env curr p fork needResched idle
  | .yieldTask curr alone => b.yieldTaskFair cfg curr alone
  | .yieldToTask curr p alone => b.yieldToTaskFair cfg curr p alone
  | .migrate t cpu nohz => b.onState fun s => s.migrateTask t cpu nohz
  | .clock cpu clockTask => b.onState fun s => s.updateRqClock cpu clockTask
  | .idle cpu entering => b.onState fun s => s.updateRqRunnableAvg cfg cpu entering
  | .setPolicy t policy => { b with policy := Function.update b.policy t policy }
  | .setVruntime e vruntime => { b with vruntime := Function.update b.vruntime e vruntime }

end BigLittle.Cfs
