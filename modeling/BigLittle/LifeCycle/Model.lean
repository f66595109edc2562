import Mathlib.Algebra.Group.Pi.Basic
import BigLittle.Cfs.State
import BigLittle.Cfs.Timeline

/-!
# The life of a task in and out of the fair class

A task is forked, woken, put to sleep, and moved between CPUs, groups and scheduling
classes. Its `vruntime` includes the `min_vruntime` of a queue or not, and its load
contribution is part of the blocked load of a queue or not. Neither is recorded; the
code infers both from the state of the task, the second through the sign of
`decay_count`. The ledgers `base` and `included` record them where the source adds and
subtracts, and nothing reads the ledgers.

Group entities and the rest of the queue are left out. What other tasks do to
`min_vruntime`, and the clock to `decay_counter`, are operations of their own, and a
load update may set the contribution to any value. `decay_counter` counts milliseconds
and does not come near the end of its 64 bits.
-/

namespace BigLittle.LifeCycle

open Sched Cfs
open Function (update update_of_ne update_self)

/-- `p->state` -/
inductive RunState where
  | running
  | sleeping
  | waking
deriving DecidableEq

structure Queue where
  minVruntime : Nat := 0
  decayCounter : Nat := 1
  blockedLoadAvg : Nat := 0
  removedLoad : Nat := 0

/-- What matters of `struct task_struct`, and first what decides about the form of `vruntime`.
`queue` names the `cfs_rq` of the entity; `migrating` marks the time between the dequeue and the
enqueue of a migration, with both run queues locked. -/
structure Form (G C : Type*) where
  born : Bool := false
  state : RunState := .running
  onRq : Bool := false
  migrating : Bool := false
  fair : Bool := true
  queue : QueueId G C
  sumExecRuntime : Nat := 0
  /-- how often the `min_vruntime` of a queue is included in `vruntime` -/
  base : QueueId G C → Int := 0

structure Life (G C : Type*) extends form : Form G C where
  seOnRq : Bool := false
  vruntime : Nat := 0
  decayCount : Int := 0
  loadAvgContrib : Nat := 0
  /-- how often the contribution is included in the blocked load of a queue -/
  included : QueueId G C → Int := 0

structure View (G C : Type*) where
  task : Life G C
  cfs : Queue

variable {T G C : Type*}

namespace View

variable [DecidableEq G] [DecidableEq C] (v : View G C)

def addMinVruntime : View G C :=
  { v with task := { v.task with
      vruntime := Word.add 64 v.task.vruntime v.cfs.minVruntime
      base := v.task.base + Pi.single v.task.queue 1 } }

def subMinVruntime : View G C :=
  { v with task := { v.task with
      vruntime := Word.sub 64 v.task.vruntime v.cfs.minVruntime
      base := v.task.base - Pi.single v.task.queue 1 } }

/-- `place_entity` of a task that slept. -/
def placeEntity (thresh : Nat) : View G C :=
  { v with task := { v.task with
      vruntime := maxVruntime v.task.vruntime (Word.sub 64 v.cfs.minVruntime thresh) } }

def updateEntityLoadAvg (contrib : Nat) : View G C :=
  { v with task := { v.task with loadAvgContrib := contrib } }

/-- How far the counter of the queue is ahead of the task's. -/
def decays : Int := v.cfs.decayCounter - v.task.decayCount

/-- `__synchronize_entity_decay` -/
def synchronizeEntityDecay : View G C :=
  { v with task := { v.task with
      loadAvgContrib :=
        if v.decays ≠ 0 then decayLoad v.task.loadAvgContrib v.decays.toNat else v.task.loadAvgContrib
      decayCount := 0 } }

/-- `cfs_rq->blocked_load_avg += se->avg.load_avg_contrib` with
`se->avg.decay_count = decay_counter` -/
def addBlocked : View G C :=
  { task := { v.task with
      decayCount := v.cfs.decayCounter
      included := v.task.included + Pi.single v.task.queue 1 }
    cfs := { v.cfs with blockedLoadAvg := Word.add 64 v.cfs.blockedLoadAvg v.task.loadAvgContrib } }

/-- `subtract_blocked_load_contrib` of the task's contribution. -/
def subtractBlocked : View G C :=
  { task := { v.task with included := v.task.included - Pi.single v.task.queue 1 }
    cfs := { v.cfs with blockedLoadAvg :=
      if v.task.loadAvgContrib < v.cfs.blockedLoadAvg then
        v.cfs.blockedLoadAvg - v.task.loadAvgContrib
      else 0 } }

def enqueueEntityLoadAvg (wakeup : Bool) (contrib : Nat) : View G C :=
  if v.task.decayCount ≤ 0 then
    if v.task.decayCount ≠ 0 then
      { v with task := { v.task with loadAvgContrib := contrib, decayCount := 0 } }
    else v
  else
    let v := v.synchronizeEntityDecay
    if wakeup then v.subtractBlocked.updateEntityLoadAvg contrib else v

/-- `enqueue_entity` of a task's entity. -/
def enqueueEntity (wakeup waking : Bool) (thresh contrib : Nat) : View G C :=
  let v := if !wakeup || waking then v.addMinVruntime else v
  let v := v.enqueueEntityLoadAvg wakeup contrib
  let v := if wakeup then v.placeEntity thresh else v
  { v with task := { v.task with seOnRq := true } }

/-- `dequeue_entity` of a task's entity. -/
def dequeueEntity (sleep : Bool) (contrib : Nat) : View G C :=
  let v := v.updateEntityLoadAvg contrib
  let v := if sleep then v.addBlocked else v
  let v := { v with task := { v.task with seOnRq := false } }
  if !sleep then v.subMinVruntime else v

/-- `migrate_task_rq_fair`, without the refresh of a queue whose tick is stopped. -/
def migrateTaskRqFair : View G C :=
  if v.task.decayCount ≠ 0 then
    let decays := v.decays
    let v := v.synchronizeEntityDecay
    { task := { v.task with
        decayCount := -decays
        included := v.task.included - Pi.single v.task.queue 1 }
      cfs := { v.cfs with removedLoad := Word.add 64 v.cfs.removedLoad v.task.loadAvgContrib } }
  else v

def switchedFromFair (thresh : Nat) : View G C :=
  let v :=
    if v.task.onRq = false ∧ v.task.state ≠ .running then (v.placeEntity thresh).subMinVruntime else v
  if v.task.decayCount ≠ 0 then v.synchronizeEntityDecay.subtractBlocked else v

end View

/-- `update_cfs_rq_blocked_load` -/
def Queue.updateBlockedLoad (c : Queue) (decays : Nat) : Queue :=
  { c with
    blockedLoadAvg :=
      decayLoad (if c.removedLoad < c.blockedLoadAvg then c.blockedLoadAvg - c.removedLoad else 0) decays
    decayCounter := c.decayCounter + decays
    removedLoad := 0 }

structure State (T G C : Type*) where
  task : T → Life G C
  cfs : QueueId G C → Queue

variable {s s' : State T G C} {t : T}

/-- Only the record of `t` may differ, and no clock moves. -/
structure State.Frame (t : T) (s s' : State T G C) : Prop where
  task : ∀ u, u ≠ t → s'.task u = s.task u
  counter : ∀ q, (s'.cfs q).decayCounter = (s.cfs q).decayCounter

namespace State.Frame

lemma refl (t : T) (s : State T G C) : Frame t s s := ⟨fun _ _ => rfl, fun _ => rfl⟩

lemma trans {s'' : State T G C} (h : Frame t s s') (h' : Frame t s' s'') : Frame t s s'' :=
  ⟨fun u hu => (h'.task u hu).trans (h.task u hu), fun q => (h'.counter q).trans (h.counter q)⟩

lemma ite {c : Prop} [Decidable c] (h : Frame t s s') : Frame t s (if c then s' else s) := by
  split
  · exact h
  · exact refl t s

end State.Frame

variable [DecidableEq T] [DecidableEq G] [DecidableEq C]

namespace State

variable (s t) (cpu : C) (contrib : Nat)

def view : View G C := ⟨s.task t, s.cfs (s.task t).queue⟩

/-- What happens to a task and the queue it is on. -/
def on (f : View G C → View G C) : State T G C where
  task := update s.task t (f (s.view t)).task
  cfs := update s.cfs (s.task t).queue (f (s.view t)).cfs

def setTask (f : Life G C → Life G C) : State T G C :=
  { s with task := update s.task t (f (s.task t)) }

/-- `set_task_cpu`; only the fair class has a `migrate_task_rq`. -/
def setTaskCpu : State T G C :=
  let s :=
    if (s.task t).queue.cpu ≠ cpu ∧ (s.task t).fair then s.on t View.migrateTaskRqFair else s
  s.setTask t fun p => { p with queue := ⟨p.queue.tg, cpu⟩ }

def enqueueTask (wakeup waking : Bool) (thresh contrib : Nat) : State T G C :=
  if (s.task t).fair then s.on t fun v => v.enqueueEntity wakeup waking thresh contrib else s

def dequeueTask (sleep : Bool) (contrib : Nat) : State T G C :=
  if (s.task t).fair then s.on t fun v => v.dequeueEntity sleep contrib else s

/-- `sched_fork` with `task_fork_fair`: the record is a copy of the parent's, and
`vruntime` the place of the child in the parent's queue. -/
def schedFork (parent : T) (fair : Bool) (tg : Option G) (vruntime : Nat) : State T G C :=
  let p := s.task parent
  let child : Life G C :=
    { born := true
      fair := fair
      queue := ⟨tg, p.queue.cpu⟩
      decayCount := p.decayCount
      loadAvgContrib := p.loadAvgContrib
      included := 0 }
  s.setTask t fun _ =>
    if fair then
      { child with
        vruntime := Word.sub 64 vruntime (s.cfs p.queue).minVruntime
        base := Pi.single p.queue 1 - Pi.single p.queue 1 }
    else child

def wakeUpNewTask : State T G C :=
  ((s.setTaskCpu t cpu).enqueueTask t false false 0 contrib).setTask t fun p => { p with onRq := true }

/-- `deactivate_task` of a task that goes to sleep, in `__schedule`. -/
def schedule : State T G C :=
  (s.dequeueTask t true contrib).setTask t fun p => { p with onRq := false }

/-- `try_to_wake_up` up to `ttwu_queue`. -/
def tryToWakeUp : State T G C :=
  let s := s.setTask t fun p => { p with state := .waking }
  let s := if (s.task t).fair then s.on t View.subMinVruntime else s
  if (s.task t).queue.cpu ≠ cpu then s.setTaskCpu t cpu else s

def ttwuDoActivate (thresh contrib : Nat) : State T G C :=
  (s.enqueueTask t true true thresh contrib).setTask t fun p => { p with onRq := true, state := .running }

def tryToWakeUpLocal (thresh contrib : Nat) : State T G C :=
  (s.enqueueTask t true false thresh contrib).setTask t fun p => { p with onRq := true, state := .running }

/-- `__sched_setscheduler` and `rt_mutex_setprio`, as far as the class is concerned. -/
def setScheduler (fair : Bool) (thresh contrib : Nat) : State T G C :=
  let onRq := (s.task t).onRq
  let wasFair := (s.task t).fair
  let s := if onRq then s.dequeueTask t false contrib else s
  let s := s.setTask t fun p => { p with fair := fair }
  let s := if onRq then s.enqueueTask t false false thresh contrib else s
  if wasFair && !fair then s.on t fun v => v.switchedFromFair thresh else s

def setTaskRq (tg : Option G) : State T G C :=
  s.setTask t fun p => { p with queue := ⟨tg, p.queue.cpu⟩ }

def taskMoveGroupFair (onRq : Bool) (tg : Option G) : State T G C :=
  let onRq := onRq || decide ((s.task t).sumExecRuntime = 0 ∨ (s.task t).state = .waking)
  let s := if !onRq then s.on t View.subMinVruntime else s
  let s := s.setTaskRq t tg
  if !onRq then s.on t fun v => v.addMinVruntime.addBlocked else s

def schedMoveTask (tg : Option G) (contrib : Nat) : State T G C :=
  let onRq := (s.task t).onRq
  let s := if onRq then s.dequeueTask t false contrib else s
  let s := if (s.task t).fair then s.taskMoveGroupFair t onRq tg else s.setTaskRq t tg
  if onRq then s.enqueueTask t false false 0 contrib else s

/-- The first half of a migration. -/
def deactivateTask : State T G C :=
  (s.dequeueTask t false contrib).setTask t fun p => { p with migrating := true }

/-- The second half. -/
def activateTask : State T G C :=
  ((s.setTaskCpu t cpu).enqueueTask t false false 0 contrib).setTask t fun p =>
    { p with migrating := false }

end State

/-- The first tasks, and where and how far they are. -/
structure Start (T G C : Type*) where
  first : T → Bool
  queue : T → QueueId G C
  vruntime : T → Nat
  minVruntime : QueueId G C → Nat

/-- The first tasks are queued in the fair class. -/
def boot (start : Start T G C) : State T G C where
  task t :=
    { born := start.first t
      onRq := true
      seOnRq := true
      queue := start.queue t
      vruntime := start.vruntime t
      base := Pi.single (start.queue t) 1 }
  cfs q := { minVruntime := start.minVruntime q }

/-- Two CPUs and one group; the first task is queued in the root group. -/
def oneTask : State Bool Unit Bool := boot ⟨fun t => !t, fun _ => ⟨none, false⟩, fun _ => 5000, fun _ => 4000⟩

/-- The steps of a machine, each under the locks the source holds. -/
inductive Op (T G C : Type*) where
  | fork (t parent : T) (fair : Bool) (tg : Option G) (vruntime : Nat)
  | wakeUpNewTask (t : T) (cpu : C) (contrib : Nat)
  | setState (t : T) (asleep : Bool)
  | schedule (t : T) (contrib : Nat)
  | tryToWakeUp (t : T) (cpu : C)
  | ttwuDoActivate (t : T) (thresh contrib : Nat)
  | tryToWakeUpLocal (t : T) (thresh contrib : Nat)
  | setScheduler (t : T) (fair : Bool) (thresh contrib : Nat)
  | schedMoveTask (t : T) (tg : Option G) (contrib : Nat)
  | deactivateTask (t : T) (contrib : Nat)
  | activateTask (t : T) (cpu : C) (contrib : Nat)
  | updateCurr (t : T) (deltaExec deltaVruntime contrib : Nat)
  | updateMinVruntime (q : QueueId G C) (minVruntime : Nat)
  | updateBlockedLoad (q : QueueId G C) (decays : Nat)

def State.step (s : State T G C) : Op T G C → State T G C
  | .fork t parent fair tg vruntime => s.schedFork t parent fair tg vruntime
  | .wakeUpNewTask t cpu contrib => s.wakeUpNewTask t cpu contrib
  | .setState t asleep => s.setTask t fun p => { p with state := if asleep then .sleeping else .running }
  | .schedule t contrib => s.schedule t contrib
  | .tryToWakeUp t cpu => s.tryToWakeUp t cpu
  | .ttwuDoActivate t thresh contrib => s.ttwuDoActivate t thresh contrib
  | .tryToWakeUpLocal t thresh contrib => s.tryToWakeUpLocal t thresh contrib
  | .setScheduler t fair thresh contrib => s.setScheduler t fair thresh contrib
  | .schedMoveTask t tg contrib => s.schedMoveTask t tg contrib
  | .deactivateTask t contrib => s.deactivateTask t contrib
  | .activateTask t cpu contrib => s.activateTask t cpu contrib
  | .updateCurr t deltaExec deltaVruntime contrib =>
    s.setTask t fun p =>
      { p with
        sumExecRuntime := p.sumExecRuntime + deltaExec
        vruntime := if p.fair then Word.add 64 p.vruntime deltaVruntime else p.vruntime
        loadAvgContrib := if p.fair then contrib else p.loadAvgContrib }
  | .updateMinVruntime q minVruntime =>
    { s with cfs := update s.cfs q { s.cfs q with minVruntime := minVruntime } }
  | .updateBlockedLoad q decays =>
    { s with cfs := update s.cfs q ((s.cfs q).updateBlockedLoad decays) }

namespace Form

variable (p : Form G C)

/-- Between `sched_fork` and `wake_up_new_task`. -/
def NewlyForked : Prop := p.onRq = false ∧ p.state = .running
  deriving Decidable

/-- Blocked, and not being woken. -/
def Asleep : Prop := p.onRq = false ∧ p.state = .sleeping
  deriving Decidable

end Form

def Op.target : Op T G C → Option T
  | .fork t _ _ _ _ | .wakeUpNewTask t _ _ | .setState t _ | .schedule t _ | .tryToWakeUp t _
  | .ttwuDoActivate t _ _ | .tryToWakeUpLocal t _ _ | .setScheduler t _ _ _ | .schedMoveTask t _ _
  | .deactivateTask t _ | .activateTask t _ _ | .updateCurr t _ _ _ => some t
  | .updateMinVruntime _ _ | .updateBlockedLoad _ _ => none

/-- What the callers guarantee. A task in the middle of a migration is locked, forking
and executing are what a queued task does, and only a sleeping task is woken. -/
def Op.Allowed (s : State T G C) : Op T G C → Prop
  | .fork t parent _ _ _ =>
    (s.task t).born = false ∧ (s.task parent).born = true ∧ (s.task parent).onRq = true
  | .wakeUpNewTask t _ _ => (s.task t).born = true ∧ (s.task t).NewlyForked
  | .setState t _ => (s.task t).born = true ∧ (s.task t).onRq = true
  | .schedule t _ =>
    (s.task t).born = true ∧ (s.task t).onRq = true ∧ (s.task t).migrating = false ∧ (s.task t).state = .sleeping
  | .tryToWakeUp t _ => (s.task t).born = true ∧ (s.task t).Asleep
  | .ttwuDoActivate t _ _ => (s.task t).born = true ∧ (s.task t).state = .waking
  | .tryToWakeUpLocal t _ _ => (s.task t).born = true ∧ (s.task t).Asleep
  | .setScheduler t _ _ _ => (s.task t).born = true ∧ (s.task t).migrating = false
  | .schedMoveTask t _ _ => (s.task t).born = true ∧ (s.task t).migrating = false
  | .deactivateTask t _ =>
    (s.task t).born = true ∧ (s.task t).onRq = true ∧ (s.task t).migrating = false
  | .activateTask t _ _ => (s.task t).born = true ∧ (s.task t).migrating = true
  | .updateCurr t _ _ _ => (s.task t).born = true ∧ (s.task t).onRq = true
  | .updateMinVruntime _ _ => True
  | .updateBlockedLoad _ _ => True

instance (s : State T G C) (op : Op T G C) : Decidable (op.Allowed s) := by
  cases op <;> dsimp only [Op.Allowed] <;> infer_instance

section Frame

/-- Nothing that happens to a task moves the clock of its queue. -/
def View.KeepsCounter (f : View G C → View G C) : Prop :=
  ∀ v, (f v).cfs.decayCounter = v.cfs.decayCounter

namespace View.KeepsCounter

lemma enqueueEntity (wakeup waking : Bool) (thresh contrib : Nat) :
    KeepsCounter fun v : View G C => v.enqueueEntity wakeup waking thresh contrib := by
  intro v
  have hload : ∀ u : View G C, (u.enqueueEntityLoadAvg wakeup contrib).cfs.decayCounter = u.cfs.decayCounter := by
    intro u
    rw [View.enqueueEntityLoadAvg]
    dsimp only
    split
    · split <;> rfl
    · split <;> rfl
  have hplaced : (v.enqueueEntity wakeup waking thresh contrib).cfs.decayCounter =
      ((if !wakeup || waking then v.addMinVruntime else v).enqueueEntityLoadAvg wakeup contrib).cfs.decayCounter := by
    rw [View.enqueueEntity]
    dsimp only
    split <;> rfl
  rw [hplaced, hload]
  split <;> rfl

lemma dequeueEntity (sleep : Bool) (contrib : Nat) :
    KeepsCounter fun v : View G C => v.dequeueEntity sleep contrib := by
  intro v
  cases sleep <;> rfl

lemma migrateTaskRqFair : KeepsCounter fun v : View G C => v.migrateTaskRqFair := by
  intro v
  change v.migrateTaskRqFair.cfs.decayCounter = _
  rw [View.migrateTaskRqFair]
  split <;> rfl

lemma switchedFromFair (thresh : Nat) : KeepsCounter fun v : View G C => v.switchedFromFair thresh := by
  intro v
  have hforgets : ∀ u : View G C, (if u.task.decayCount ≠ 0 then
      u.synchronizeEntityDecay.subtractBlocked else u).cfs.decayCounter = u.cfs.decayCounter := by
    intro u
    split <;> rfl
  change (v.switchedFromFair thresh).cfs.decayCounter = _
  rw [View.switchedFromFair, hforgets]
  split <;> rfl

lemma subMinVruntime : KeepsCounter fun v : View G C => v.subMinVruntime := fun _ => rfl

lemma addBlocked : KeepsCounter fun v : View G C => v.addMinVruntime.addBlocked := fun _ => rfl

end View.KeepsCounter

namespace State.Frame

lemma on (s : State T G C) (t : T) {f : View G C → View G C} (hf : View.KeepsCounter f) : Frame t s (s.on t f) where
  task _ hu := update_of_ne hu _ _
  counter q := by
    by_cases hq : q = (s.task t).queue
    · rw [hq]
      exact (congrArg Queue.decayCounter (update_self _ _ _)).trans (hf _)
    · exact congrArg Queue.decayCounter (update_of_ne hq _ _)

omit [DecidableEq G] [DecidableEq C] in
lemma setTask (s : State T G C) (t : T) (f : Life G C → Life G C) : Frame t s (s.setTask t f) :=
  ⟨fun _ hu => update_of_ne hu _ _, fun _ => rfl⟩

section

variable (s t)

lemma setTaskCpu (cpu : C) : Frame t s (s.setTaskCpu t cpu) := by
  rw [State.setTaskCpu]
  exact (ite (on s t View.KeepsCounter.migrateTaskRqFair)).trans (setTask _ t _)

lemma enqueueTask (wakeup waking : Bool) (thresh contrib : Nat) :
    Frame t s (s.enqueueTask t wakeup waking thresh contrib) :=
  ite (on s t (.enqueueEntity wakeup waking thresh contrib))

lemma dequeueTask (sleep : Bool) (contrib : Nat) :
    Frame t s (s.dequeueTask t sleep contrib) := ite (on s t (.dequeueEntity sleep contrib))

lemma tryToWakeUp (cpu : C) : Frame t s (s.tryToWakeUp t cpu) := by
  rw [State.tryToWakeUp]
  exact ((setTask s t _).trans (ite (on _ t .subMinVruntime))).trans (ite (setTaskCpu _ t cpu))

lemma setScheduler (fair : Bool) (thresh contrib : Nat) : Frame t s (s.setScheduler t fair thresh contrib) := by
  rw [State.setScheduler]
  have hleft := (ite (c := (s.task t).onRq = true) (dequeueTask s t false contrib)).trans
    (setTask _ t fun p => { p with fair := fair })
  exact (hleft.trans (ite (enqueueTask _ t false false thresh contrib))).trans (ite (on _ t (.switchedFromFair thresh)))

lemma taskMoveGroupFair (onRq : Bool) (tg : Option G) : Frame t s (s.taskMoveGroupFair t onRq tg) := by
  rw [State.taskMoveGroupFair]
  exact ((ite (on s t .subMinVruntime)).trans (setTask _ t _)).trans (ite (on _ t .addBlocked))

lemma schedMoveTask (tg : Option G) (contrib : Nat) : Frame t s (s.schedMoveTask t tg contrib) := by
  have hmove : ∀ left : State T G C, Frame t left
      (if (left.task t).fair then left.taskMoveGroupFair t (s.task t).onRq tg else left.setTaskRq t tg) := by
    intro left
    split
    · exact taskMoveGroupFair left t _ tg
    · exact setTask left t _
  rw [State.schedMoveTask]
  exact ((ite (dequeueTask s t false contrib)).trans (hmove _)).trans (ite (enqueueTask _ t false false 0 contrib))

end

/-- A step about a task is about no other, and moves no clock. -/
lemma step (s : State T G C) (op : Op T G C) : op.target.elim True fun t => Frame t s (s.step op) := by
  cases op with dsimp only [Op.target, Option.elim, State.step, State.schedFork, State.wakeUpNewTask,
    State.schedule, State.ttwuDoActivate, State.tryToWakeUpLocal, State.deactivateTask, State.activateTask]
  | fork t parent fair tg vruntime => exact setTask s t _
  | setState t asleep | updateCurr t deltaExec deltaVruntime contrib => exact setTask s t _
  | wakeUpNewTask t cpu contrib | activateTask t cpu contrib =>
    exact ((setTaskCpu s t cpu).trans (enqueueTask _ t false false 0 contrib)).trans (setTask _ t _)
  | schedule t contrib => exact (dequeueTask s t true contrib).trans (setTask _ t _)
  | tryToWakeUp t cpu => exact tryToWakeUp s t cpu
  | ttwuDoActivate t thresh contrib =>
    exact (enqueueTask s t true true thresh contrib).trans (setTask _ t _)
  | tryToWakeUpLocal t thresh contrib =>
    exact (enqueueTask s t true false thresh contrib).trans (setTask _ t _)
  | setScheduler t fair thresh contrib => exact setScheduler s t fair thresh contrib
  | schedMoveTask t tg contrib => exact schedMoveTask s t tg contrib
  | deactivateTask t contrib => exact (dequeueTask s t false contrib).trans (setTask _ t _)

lemma of_target {op : Op T G C} (ht : op.target = some t) : Frame t s (s.step op) := by
  have h := step s op
  rwa [ht] at h

end State.Frame

end Frame

end BigLittle.LifeCycle
