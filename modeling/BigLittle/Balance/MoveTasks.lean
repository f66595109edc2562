import BigLittle.Cfs.Weights
import BigLittle.Lib.Loop
import Mathlib.Data.List.Rotate

/-!
# Pulling tasks

`move_tasks` goes round the list of tasks of the busiest CPU. The first task is moved to the destination, or to the
end of its own list; the number of rounds is bounded by `loop_max`, with a break after every 32 of them. A task is
moved if `can_migrate_task` allows it and half its load is not more than what is left of the imbalance, so that the
imbalance ends at most as far below zero as it was above.

The queues are those of `Cfs.TaskLists`, whose lists hold the queued tasks. What the clocks, the runtime pools and the
cache-hot test contribute to a round is part of the `Round`.
-/

open Function (update update_of_ne update_self)

namespace BigLittle.Cfs.TaskLists

variable {T G C : Type*} [DecidableEq C] (cfg : Config G C) (x : TaskLists T G C) (cpu : C)

def updateRqClock (clockTask : Nat) : TaskLists T G C :=
  ⟨x.state.updateRqClock cpu clockTask, x.cfsTasks⟩

/-- `list_move_tail` of the first task. -/
def moveTail : TaskLists T G C :=
  ⟨x.state, update x.cfsTasks cpu ((x.cfsTasks cpu).rotate 1)⟩

variable {x}

lemma Exact.updateRqClock (hx : x.Exact) (cpu : C) (clockTask : Nat) : (x.updateRqClock cpu clockTask).Exact :=
  hx.congr (sameTasks_of_roster rfl)

lemma mem_moveTail (cpu cpu' : C) (task : T) : task ∈ (x.moveTail cpu).cfsTasks cpu' ↔ task ∈ x.cfsTasks cpu' := by
  dsimp only [TaskLists.moveTail]
  by_cases h : cpu' = cpu
  · rw [h, update_self, List.mem_rotate]
  · rw [update_of_ne h]

lemma Exact.moveTail (hx : x.Exact) (cpu : C) : (x.moveTail cpu).Exact := by
  intro cpu'
  refine ⟨?_, fun task => (mem_moveTail cpu cpu' task).trans ((hx cpu').2 task)⟩
  dsimp only [TaskLists.moveTail]
  by_cases h : cpu' = cpu
  · rw [h, update_self, List.nodup_rotate]
    exact (hx cpu).1
  · rw [update_of_ne h]
    exact (hx cpu').1

variable [DecidableEq T] [DecidableEq G] (x)

/-- `deactivate_task(rq, p, 0)` for a task of the class. -/
def deactivateTask (p : T) (clockTask : Nat) : TaskLists T G C :=
  let x := x.updateRqClock cpu clockTask
  ⟨x.state.dequeueTaskFair cfg p false, x.listDelInit p⟩

def setTaskCpu (p : T) (cpu : C) (nohz : Option Nat) : TaskLists T G C :=
  ⟨x.state.migrateTask p cpu nohz, x.cfsTasks⟩

/-- `activate_task(rq, p, 0)` for a task of the class. -/
def activateTask (p : T) (clockTask : Nat) (exhausted : QueueId G C → Bool) : TaskLists T G C :=
  let x := x.updateRqClock cpu clockTask
  ⟨x.state.enqueueTaskFair cfg p false exhausted, x.listAdd p⟩

lemma deactivateTask_onRq (p : T) (clockTask : Nat) :
    ((x.deactivateTask cfg cpu p clockTask).state.se (.task p)).onRq = false := by
  obtain ⟨rest, hevents, hdrops⟩ := dequeueTaskFair_performs cfg (x.updateRqClock cpu clockTask).state p false
  exact (hevents.onRq_of_first hdrops.inGroups p).trans (update_self _ _ _)

lemma setTaskCpu_cpu (p : T) (cpu : C) (nohz : Option Nat) :
    ((x.setTaskCpu p cpu nohz).state.taskQueue p).cpu = cpu := by
  simp [TaskLists.setTaskCpu, State.migrateTask]

variable {cfg x}

lemma Exact.deactivateTask (hx : x.Exact) (cpu : C) (p : T) (clockTask : Nat) :
    (x.deactivateTask cfg cpu p clockTask).Exact := by
  obtain ⟨rest, hevents, hdrops⟩ := dequeueTaskFair_performs cfg (x.updateRqClock cpu clockTask).state p false
  exact (hx.updateRqClock cpu clockTask).listDelInit hevents.taskQueue (hevents.onRq_of_first hdrops.inGroups)

lemma Exact.setTaskCpu (hx : x.Exact) (cfg : Config G C) {p : T} (hoff : (x.state.se (.task p)).onRq = false)
    (cpu : C) (nohz : Option Nat) : (x.setTaskCpu p cpu nohz).Exact := by
  have hstep : (x.step cfg (.entityOp (.migrateTask p cpu nohz))).Exact := hx.entityOp hoff
  exact hstep

lemma setTaskCpu_onRq (p : T) (cpu : C) (nohz : Option Nat) :
    ((x.setTaskCpu p cpu nohz).state.se (.task p)).onRq = (x.state.se (.task p)).onRq :=
  (congrArg (fun r => r.onRq (.task p)) (migrateTask_roster x.state p cpu nohz) :)

lemma Exact.activateTask (hx : x.Exact) {p : T} (hoff : (x.state.se (.task p)).onRq = false) (cpu : C)
    (clockTask : Nat) (exhausted : QueueId G C → Bool) : (x.activateTask cfg cpu p clockTask exhausted).Exact := by
  obtain ⟨events, hevents, hshape⟩ :=
    enqueueTaskFair_performs cfg (x.updateRqClock cpu clockTask).state p false exhausted
  have hoff' : ((x.updateRqClock cpu clockTask).state.se (.task p)).onRq = false := hoff
  rw [hoff', if_neg Bool.false_ne_true] at hshape
  obtain ⟨rest, rfl, hgroups⟩ := hshape
  exact (hx.updateRqClock cpu clockTask).listAdd hoff hevents.taskQueue (hevents.onRq_of_first hgroups)

end BigLittle.Cfs.TaskLists

namespace BigLittle.Balance

open Cfs Word List

inductive CpuIdleType where
  | idle
  | notIdle
  | newlyIdle
deriving DecidableEq

def schedNrMigrateBreak : Nat := 32

/-- `struct lb_env`, with its flags one by one. -/
structure LbEnv (n : Nat) where
  srcCpu : Fin n
  dstCpu : Fin n
  /-- `none` for `NULL` -/
  dstGrpmask : Option (Finset (Fin n))
  newDstCpu : Fin n
  idle : CpuIdleType
  imbalance : Int
  cpus : Finset (Fin n)
  allPinned : Bool := false
  needBreak : Bool := false
  somePinned : Bool := false
  loop : Nat := 0
  loopBreak : Nat := schedNrMigrateBreak
  loopMax : Nat := 0
  /-- `loop` is an `unsigned int` and would never pass a larger bound. -/
  loopMax_lt : loopMax < 2 ^ 32 - 1 := by decide

structure Call (T G : Type*) (n : Nat) where
  cfg : Config G (Fin n)
  cpusAllowed : T → Finset (Fin n)
  running : T → Bool
  /-- `h_load` of the queues -/
  hLoad : QueueId G (Fin n) → Nat
  nrBalanceFailed : Nat := 0
  cacheNiceTries : Nat := 1
  lbMin : Bool := false
  preempt : Bool := true

structure Round (G : Type*) (n : Nat) where
  lazyBalance : Bool := false
  /-- `task_hot` -/
  cacheHot : Bool := false
  srcClock : Nat := 0
  dstClock : Nat := 0
  nohz : Option Nat := none
  exhausted : QueueId G (Fin n) → Bool := fun _ => false

variable {T G : Type*} {n : Nat}

namespace LbEnv

variable (env : LbEnv n)

/-- In `can_migrate_task`: a CPU of the own group to which a task could go that may not go to `dst_cpu`. -/
def notePinned (allowed : Finset (Fin n)) : LbEnv n :=
  match env.dstGrpmask with
  | none => env
  | some mask =>
    if env.somePinned then env
    else
      match (finRange n).find? fun cpu => cpu ∈ mask ∧ cpu ∈ env.cpus ∧ cpu ∈ allowed with
      | none => env
      | some cpu => { env with somePinned := true, newDstCpu := cpu }

/-- `env->loop++`. -/
def countRound : LbEnv n := { env with loop := add 32 env.loop 1 }

/-- The break after `loop_break` rounds. -/
def takeBreak : LbEnv n :=
  { env with loopBreak := add 32 env.loopBreak schedNrMigrateBreak, needBreak := true }

/-- `env->imbalance -= load`, where the load is an `unsigned long`. -/
def lower (load : Nat) : LbEnv n :=
  { env with imbalance := toSigned 64 (sub 64 (ofInt 64 env.imbalance) load) }

end LbEnv

/-- Only the flags for pinned tasks differ, and a new destination is one of `cpus`. -/
structure LbEnv.Flags (env env' : LbEnv n) : Prop where
  eq : env' = { env with
    allPinned := env'.allPinned, somePinned := env'.somePinned, newDstCpu := env'.newDstCpu }
  pinned : env'.somePinned = env.somePinned ∧ env'.newDstCpu = env.newDstCpu ∨
    env'.somePinned = true ∧ env'.newDstCpu ∈ env.cpus

lemma LbEnv.notePinned_flags (env : LbEnv n) (allowed : Finset (Fin n)) : env.Flags (env.notePinned allowed) := by
  rw [LbEnv.notePinned]
  split
  next => exact ⟨rfl, .inl ⟨rfl, rfl⟩⟩
  next mask _ =>
    split
    next => exact ⟨rfl, .inl ⟨rfl, rfl⟩⟩
    next =>
      split
      next => exact ⟨rfl, .inl ⟨rfl, rfl⟩⟩
      next cpu hcpu =>
        have hmem := find?_some hcpu
        exact ⟨rfl, .inr ⟨rfl, (of_decide_eq_true hmem).2.1⟩⟩

namespace Call

variable (c : Call T G n)

def throttledLbPair (s : State T G (Fin n)) (tg : Option G) (src dst : Fin n) : Bool :=
  s.throttledHierarchy c.cfg ⟨tg, src⟩ || s.throttledHierarchy c.cfg ⟨tg, dst⟩

def canMigrateTask (cacheHot : Bool) (s : State T G (Fin n)) (p : T) (env : LbEnv n) : Bool × LbEnv n :=
  if c.throttledLbPair s (s.taskQueue p).tg env.srcCpu env.dstCpu then (false, env)
  else if env.dstCpu ∉ c.cpusAllowed p then (false, env.notePinned (c.cpusAllowed p))
  else
    (!c.running p && (!cacheHot || decide (c.cacheNiceTries < c.nrBalanceFailed)), { env with allPinned := false })

/-- `task_h_load`. The divisor of `div_u64` is a `u32`. -/
def taskHLoad (s : State T G (Fin n)) (p : T) : Nat :=
  mul 64 (s.se (.task p)).weight (c.hLoad (s.taskQueue p)) / wrap 32 ((s.cfs (s.taskQueue p)).loadWeight + 1)

/-- The tests of the load in `move_tasks`. The imbalance is compared as an `unsigned long`. -/
def fits (s : State T G (Fin n)) (p : T) (env : LbEnv n) : Bool :=
  !(c.lbMin && decide (c.taskHLoad s p < 16) && c.nrBalanceFailed == 0) &&
    !decide (ofInt 64 env.imbalance < c.taskHLoad s p / 2)

/-- Whether `p` is moved, with the flags of `can_migrate_task`. -/
def examine (r : Round G n) (s : State T G (Fin n)) (p : T) (env : LbEnv n) : Bool × LbEnv n :=
  if r.lazyBalance then (false, env)
  else
    let (can, env) := c.canMigrateTask r.cacheHot s p env
    (can && c.fits s p env, env)

variable {c} {s : State T G (Fin n)} {env : LbEnv n} {p : T}

lemma canMigrateTask_flags (cacheHot : Bool) : env.Flags (c.canMigrateTask cacheHot s p env).2 := by
  rw [canMigrateTask]
  split
  next => exact ⟨rfl, .inl ⟨rfl, rfl⟩⟩
  next =>
    split
    next => exact env.notePinned_flags _
    next => exact ⟨rfl, .inl ⟨rfl, rfl⟩⟩

lemma examine_flags (r : Round G n) : env.Flags (c.examine r s p env).2 := by
  rw [examine]
  split
  next => exact ⟨rfl, .inl ⟨rfl, rfl⟩⟩
  next => exact canMigrateTask_flags r.cacheHot

structure Movable (c : Call T G n) (s : State T G (Fin n)) (p : T) (src dst : Fin n) : Prop where
  allowed : dst ∈ c.cpusAllowed p
  not_running : c.running p = false
  not_throttled : ∀ cpu, cpu = src ∨ cpu = dst → s.throttledHierarchy c.cfg ⟨(s.taskQueue p).tg, cpu⟩ = false

lemma movable_of_canMigrateTask {cacheHot : Bool} (h : (c.canMigrateTask cacheHot s p env).1 = true) :
    c.Movable s p env.srcCpu env.dstCpu := by
  rw [canMigrateTask] at h
  split at h
  next => cases h
  next hpair =>
    split at h
    next => cases h
    next hallowed =>
      rw [throttledLbPair, Bool.or_eq_true, not_or, Bool.not_eq_true, Bool.not_eq_true] at hpair
      refine ⟨not_not.mp hallowed, ?_, ?_⟩
      · rw [Bool.and_eq_true, Bool.not_eq_true'] at h
        exact h.1
      · rintro cpu (rfl | rfl)
        · exact hpair.1
        · exact hpair.2

/-- A task that is moved is movable, and half its load is not more than the imbalance. -/
lemma examine_moves {r : Round G n} (h : (c.examine r s p env).1 = true) :
    c.Movable s p env.srcCpu env.dstCpu ∧ c.taskHLoad s p / 2 ≤ ofInt 64 env.imbalance := by
  rw [examine] at h
  split at h
  next => cases h
  next =>
    obtain ⟨hcan, hfits⟩ := Bool.and_eq_true_iff.mp h
    refine ⟨movable_of_canMigrateTask hcan, ?_⟩
    have hflags : env.Flags (c.canMigrateTask r.cacheHot s p env).2 := canMigrateTask_flags r.cacheHot
    have hle := (Bool.and_eq_true_iff.mp hfits).2
    rw [Bool.not_eq_true', decide_eq_false_iff_not, not_lt] at hle
    exact hle.trans_eq (congrArg (fun e => ofInt 64 e.imbalance) hflags.eq)

end Call

variable [DecidableEq T] [DecidableEq G]

/-- Queues whose lists hold the queued tasks. -/
structure Queues (T G : Type*) [DecidableEq T] [DecidableEq G] (n : Nat) extends
    TaskLists T G (Fin n) where
  listed : toTaskLists.Exact

namespace Queues

variable (q : Queues T G n)

def moveTask (cfg : Config G (Fin n)) (r : Round G n) (src dst : Fin n) (p : T) : Queues T G n where
  toTaskLists :=
    ((q.deactivateTask cfg src p r.srcClock).setTaskCpu p dst r.nohz).activateTask cfg dst p r.dstClock r.exhausted
  listed := by
    have hoff := q.deactivateTask_onRq cfg src p r.srcClock
    refine ((q.listed.deactivateTask src p r.srcClock).setTaskCpu cfg hoff dst r.nohz).activateTask ?_ _ _ _
    rw [TaskLists.setTaskCpu_onRq]
    exact hoff

/-- `list_move_tail` at the label `next`. -/
def moveTail (cpu : Fin n) : Queues T G n where
  toTaskLists := q.toTaskLists.moveTail cpu
  listed := q.listed.moveTail cpu

variable {q}

lemma mem_moveTask {cfg : Config G (Fin n)} {r : Round G n} {src dst cpu : Fin n} {p task : T} :
    task ∈ (q.moveTask cfg r src dst p).cfsTasks cpu ↔ task = p ∧ dst = cpu ∨ task ≠ p ∧ task ∈ q.cfsTasks cpu := by
  have hcpu := (q.deactivateTask cfg src p r.srcClock).setTaskCpu_cpu p dst r.nohz
  refine TaskLists.mem_listAdd.trans (or_congr (and_congr_right' ?_) (q.listed cpu).1.mem_erase_iff)
  exact Eq.congr_left hcpu

lemma moveTask_cfsTasks_of_ne {cfg : Config G (Fin n)} {r : Round G n} {src dst cpu : Fin n} {p : T}
    (hnot : p ∉ q.cfsTasks cpu) (hdst : cpu ≠ dst) : (q.moveTask cfg r src dst p).cfsTasks cpu = q.cfsTasks cpu := by
  have hcpu := (q.deactivateTask cfg src p r.srcClock).setTaskCpu_cpu p dst r.nohz
  refine Eq.trans (update_of_ne ?_ _ _) (erase_of_not_mem hnot)
  rwa [← hcpu] at hdst

/-- A task is on the list of one CPU only. -/
lemma eq_of_mem {task : T} {cpu cpu' : Fin n} (h : task ∈ q.cfsTasks cpu) (h' : task ∈ q.cfsTasks cpu') : cpu = cpu' :=
  (((q.listed cpu).2 task).mp h).2.symm.trans (((q.listed cpu').2 task).mp h').2

end Queues

/-- A task that has been moved, with its load and the queues as they were. -/
structure Pull (T G : Type*) [DecidableEq T] [DecidableEq G] (n : Nat) where
  task : T
  load : Nat
  queues : Queues T G n

/-- The state of `move_tasks`. `pulled` is the length of `pulls`, which has the last one first. -/
structure Moving (T G : Type*) [DecidableEq T] [DecidableEq G] (n : Nat) where
  env : LbEnv n
  queues : Queues T G n
  pulls : List (Pull T G n) := []
  /-- the rounds so far -/
  round : Nat := 0

namespace Call

variable (c : Call T G n)

/-- `p` is moved. -/
def pull (r : Round G n) (m : Moving T G n) (env : LbEnv n) (p : T) : Moving T G n :=
  let load := c.taskHLoad m.queues.state p
  { m with
    env := env.lower load
    queues := m.queues.moveTask c.cfg r env.srcCpu env.dstCpu p
    pulls := ⟨p, load, m.queues⟩ :: m.pulls }

def moveRound (rounds : Nat → Round G n) (m : Moving T G n) : Moving T G n ⊕ Moving T G n :=
  match m.queues.cfsTasks m.env.srcCpu with
  | [] => .inr m
  | p :: _ =>
    let r := rounds m.round
    let m := { m with env := m.env.countRound, round := m.round + 1 }
    if m.env.loopMax < m.env.loop then .inr m
    else if m.env.loopBreak < m.env.loop then .inr { m with env := m.env.takeBreak }
    else
      let (moves, env) := c.examine r m.queues.state p m.env
      if moves then
        let m := c.pull r m env p
        if c.preempt && m.env.idle = .newlyIdle || m.env.imbalance ≤ 0 then .inr m else .inl m
      else .inl { m with env := env, queues := m.queues.moveTail env.srcCpu }

/-- `move_tasks`, in at most `fuel` rounds. -/
def moveTasks (rounds : Nat → Round G n) (fuel : Nat) (m : Moving T G n) : Option (Moving T G n) :=
  if m.env.imbalance ≤ 0 then some m else Loop.run (c.moveRound rounds) fuel m

end Call

namespace Moving

/-- The counters at the beginning of a round. -/
def counted (m : Moving T G n) : Moving T G n :=
  { m with env := m.env.countRound, round := m.round + 1 }

/-- How a round can end: with the end of the loop, or with the next round. -/
inductive After (c : Call T G n) (r : Round G n) (m : Moving T G n) :
    Moving T G n ⊕ Moving T G n → Prop where
  | empty : After c r m (.inr m)
  | bound : After c r m (.inr m.counted)
  | pause (hloop : m.counted.env.loop ≤ m.env.loopMax) :
      After c r m (.inr { m.counted with env := m.counted.env.takeBreak })
  | next {env : LbEnv n} (hloop : m.counted.env.loop ≤ m.env.loopMax) (hflags : m.counted.env.Flags env) :
      After c r m (.inl { m.counted with env := env, queues := m.queues.moveTail env.srcCpu })
  | last {env : LbEnv n} {p : T} (hflags : m.counted.env.Flags env)
      (hp : p ∈ m.queues.cfsTasks m.env.srcCpu) (hmovable : c.Movable m.queues.state p m.env.srcCpu m.env.dstCpu)
      (hload : c.taskHLoad m.queues.state p / 2 ≤ ofInt 64 m.env.imbalance) :
      After c r m (.inr (c.pull r m.counted env p))
  | more {env : LbEnv n} {p : T} (hloop : m.counted.env.loop ≤ m.env.loopMax) (hflags : m.counted.env.Flags env)
      (hp : p ∈ m.queues.cfsTasks m.env.srcCpu) (hmovable : c.Movable m.queues.state p m.env.srcCpu m.env.dstCpu)
      (hload : c.taskHLoad m.queues.state p / 2 ≤ ofInt 64 m.env.imbalance)
      (hleft : 0 < (c.pull r m.counted env p).env.imbalance) :
      After c r m (.inl (c.pull r m.counted env p))

end Moving

lemma Call.moveRound_after (c : Call T G n) (rounds : Nat → Round G n) (m : Moving T G n) :
    m.After c (rounds m.round) (c.moveRound rounds m) := by
  rw [Call.moveRound]
  split
  next => exact .empty
  next p rest hlist =>
    have hp : p ∈ m.queues.cfsTasks m.env.srcCpu := hlist ▸ mem_cons_self
    dsimp only
    split
    next => exact .bound
    next hbound =>
      have hloop : m.counted.env.loop ≤ m.env.loopMax := not_lt.mp hbound
      split
      next => exact .pause hloop
      next =>
        have hflags : m.counted.env.Flags (c.examine (rounds m.round) m.queues.state p m.counted.env).2 :=
          c.examine_flags _
        split
        next hmoves =>
          obtain ⟨hmovable, hload⟩ := Call.examine_moves hmoves
          split
          next => exact .last hflags hp hmovable hload
          next hgoes =>
            rw [Bool.or_eq_true, not_or, decide_eq_true_iff, not_le] at hgoes
            exact .more hloop hflags hp hmovable hload hgoes.2
        next => exact .next hloop hflags

def LbEnv.roundsLeft (env : LbEnv n) : Nat :=
  if env.loop ≤ env.loopMax then env.loopMax - env.loop else env.loopMax + 1

/-- A round that is within the bound uses one of them up. -/
lemma LbEnv.roundsLeft_countRound_lt (env : LbEnv n) (hloop : env.countRound.loop ≤ env.loopMax) :
    env.countRound.roundsLeft < env.roundsLeft := by
  have hcounted : env.countRound.roundsLeft = env.loopMax - env.countRound.loop := if_pos hloop
  rw [hcounted, LbEnv.roundsLeft]
  split
  next hle =>
    have hmax := env.loopMax_lt
    have hnext : env.countRound.loop = env.loop + 1 := add_of_lt (by omega)
    omega
  next => omega

/-- With half the load at most the imbalance the subtraction is exact. -/
lemma LbEnv.lower_imbalance (env : LbEnv n) {load : Nat} (hpos : 0 < env.imbalance) (hlt : env.imbalance < 2 ^ 63)
    (hload : load / 2 ≤ ofInt 64 env.imbalance) :
    load ≤ 2 * env.imbalance + 1 ∧ (env.lower load).imbalance = env.imbalance - load := by
  have himbalance : (ofInt 64 env.imbalance : Int) = env.imbalance := by
    rw [ofInt]
    omega
  have hle : load ≤ 2 * env.imbalance + 1 := by omega
  refine ⟨hle, ?_⟩
  dsimp only [LbEnv.lower]
  rw [toSigned, sub, wrap, wrap]
  split <;> omega

def Moving.movedLoad (m : Moving T G n) : Nat := (m.pulls.map Pull.load).sum

/-- What `move_tasks` has done since it was called: the tasks of the two queues are the same, those that have come to
the destination were taken from the source while they could be moved, each once, and the imbalance is lower by their
loads. -/
structure Moves (c : Call T G n) (env : LbEnv n) (queues : Queues T G n) (m : Moving T G n) :
    Prop where
  srcCpu : m.env.srcCpu = env.srcCpu
  dstCpu : m.env.dstCpu = env.dstCpu
  union : ∀ task, task ∈ m.queues.cfsTasks env.srcCpu ∨ task ∈ m.queues.cfsTasks env.dstCpu ↔
    task ∈ queues.cfsTasks env.srcCpu ∨ task ∈ queues.cfsTasks env.dstCpu
  others : ∀ cpu, cpu ≠ env.srcCpu → cpu ≠ env.dstCpu → m.queues.cfsTasks cpu = queues.cfsTasks cpu
  moved : ∀ task ∈ m.queues.cfsTasks env.dstCpu, task ∈ queues.cfsTasks env.dstCpu ∨
    ∃ pull ∈ m.pulls, pull.task = task
  arrived : ∀ pull ∈ m.pulls, pull.task ∈ m.queues.cfsTasks env.dstCpu ∧
    (env.srcCpu ≠ env.dstCpu → pull.task ∉ m.queues.cfsTasks env.srcCpu)
  once : env.srcCpu ≠ env.dstCpu → (m.pulls.map Pull.task).Nodup
  movable : ∀ pull ∈ m.pulls, pull.task ∈ pull.queues.cfsTasks env.srcCpu ∧
    c.Movable pull.queues.state pull.task env.srcCpu env.dstCpu ∧
    pull.load = c.taskHLoad pull.queues.state pull.task
  imbalance : m.env.imbalance = env.imbalance - m.movedLoad

namespace Moves

variable {c : Call T G n} {env env' : LbEnv n} {queues : Queues T G n} {m : Moving T G n}

lemma start (c : Call T G n) (env : LbEnv n) (queues : Queues T G n) : Moves c env queues { env, queues } where
  srcCpu := rfl
  dstCpu := rfl
  union _ := Iff.rfl
  others _ _ _ := rfl
  moved _ htask := .inl htask
  arrived := nofun
  once _ := nodup_nil
  movable := nofun
  imbalance := (sub_zero _).symm

variable (h : Moves c env queues m)
include h

/-- A change of counters and flags. -/
lemma setEnv (env' : LbEnv n) (hsrc : env'.srcCpu = m.env.srcCpu) (hdst : env'.dstCpu = m.env.dstCpu)
    (himbalance : env'.imbalance = m.env.imbalance) (round : Nat) : Moves c env queues { m with env := env', round } :=
  { h with
    srcCpu := hsrc.trans h.srcCpu
    dstCpu := hdst.trans h.dstCpu
    imbalance := himbalance.trans h.imbalance }

lemma counted : Moves c env queues m.counted :=
  h.setEnv m.env.countRound rfl rfl rfl _

lemma flags (hflags : m.env.Flags env') : Moves c env queues { m with env := env' } :=
  h.setEnv env' (congrArg LbEnv.srcCpu hflags.eq :) (congrArg LbEnv.dstCpu hflags.eq :)
    (congrArg LbEnv.imbalance hflags.eq :) _

lemma next : Moves c env queues { m with queues := m.queues.moveTail m.env.srcCpu } where
  srcCpu := h.srcCpu
  dstCpu := h.dstCpu
  union task := (or_congr (TaskLists.mem_moveTail _ _ task) (TaskLists.mem_moveTail _ _ task)).trans (h.union task)
  others cpu hsrc hdst := by
    refine Eq.trans (update_of_ne ?_ _ _) (h.others cpu hsrc hdst)
    rwa [h.srcCpu]
  moved task htask := h.moved task ((TaskLists.mem_moveTail _ _ task).mp htask)
  arrived pull hpull := (h.arrived pull hpull).imp (TaskLists.mem_moveTail _ _ _).mpr
    fun hnot hne => mt (TaskLists.mem_moveTail _ _ _).mp (hnot hne)
  once := h.once
  movable := h.movable
  imbalance := h.imbalance

lemma pull (r : Round G n) {p : T} (hp : p ∈ m.queues.cfsTasks m.env.srcCpu)
    (hmovable : c.Movable m.queues.state p m.env.srcCpu m.env.dstCpu)
    (himbalance : (m.env.lower (c.taskHLoad m.queues.state p)).imbalance =
      m.env.imbalance - c.taskHLoad m.queues.state p) :
    Moves c env queues (c.pull r m m.env p) := by
  rw [h.srcCpu] at hp hmovable
  rw [h.dstCpu] at hmovable
  refine ⟨h.srcCpu, h.dstCpu, fun task => ?_, fun cpu hsrc hdst => ?_, fun task htask => ?_, fun pull hpull => ?_,
    fun hne => ?_, ?_, ?_⟩
  · refine Iff.trans ?_ (h.union task)
    refine (or_congr Queues.mem_moveTask Queues.mem_moveTask).trans ?_
    by_cases htask : task = p
    · subst htask
      simp [hp, h.dstCpu]
    · simp [htask]
  · rw [← h.others cpu hsrc hdst]
    have hnot : p ∉ m.queues.cfsTasks cpu := fun hmem => hsrc (Queues.eq_of_mem hmem hp)
    exact m.queues.moveTask_cfsTasks_of_ne hnot (h.dstCpu ▸ hdst)
  · obtain ⟨rfl, -⟩ | ⟨-, htask⟩ := Queues.mem_moveTask.mp htask
    · exact .inr ⟨_, mem_cons_self, rfl⟩
    · obtain hthere | ⟨pull, hpull, heq⟩ := h.moved task htask
      · exact .inl hthere
      · exact .inr ⟨pull, mem_cons_of_mem _ hpull, heq⟩
  · have hdst : pull.task ∈ (c.pull r m m.env p).queues.cfsTasks env.dstCpu := by
      refine Queues.mem_moveTask.mpr ((eq_or_ne pull.task p).imp (⟨·, h.dstCpu⟩) fun hother => ⟨hother, ?_⟩)
      obtain rfl | hpull := mem_cons.mp hpull
      · exact absurd rfl hother
      · exact (h.arrived pull hpull).1
    exact ⟨hdst, fun hne hsrc => hne (Queues.eq_of_mem hsrc hdst)⟩
  · refine nodup_cons.mpr ⟨fun hmem => ?_, h.once hne⟩
    obtain ⟨pull, hpull, rfl⟩ := mem_map.mp hmem
    exact (h.arrived pull hpull).2 hne hp
  · exact forall_mem_cons.mpr ⟨⟨hp, hmovable, rfl⟩, h.movable⟩
  · have hsum : (c.pull r m m.env p).movedLoad = c.taskHLoad m.queues.state p + m.movedLoad := sum_cons
    refine himbalance.trans ?_
    rw [hsum, h.imbalance]
    omega

end Moves

/-- What holds before every round: there is something left of the imbalance. -/
structure Unfinished (c : Call T G n) (env : LbEnv n) (queues : Queues T G n)
    (m : Moving T G n) : Prop extends Moves c env queues m where
  left : 0 < m.env.imbalance

namespace Unfinished

variable {c : Call T G n} {env env' : LbEnv n} {queues : Queues T G n} {m : Moving T G n}
variable (h : Unfinished c env queues m) (hlt : env.imbalance < 2 ^ 63)
include h hlt

/-- The load of a task that is moved is taken off exactly, and is not more than twice the rest and one. -/
lemma pull (r : Round G n) {p : T} (hflags : m.counted.env.Flags env') (hp : p ∈ m.queues.cfsTasks m.env.srcCpu)
    (hmovable : c.Movable m.queues.state p m.env.srcCpu m.env.dstCpu)
    (hload : c.taskHLoad m.queues.state p / 2 ≤ ofInt 64 m.env.imbalance) :
    Moves c env queues (c.pull r m.counted env' p) ∧ (c.pull r m.counted env' p).movedLoad ≤ 2 * env.imbalance + 1 := by
  have hmoves : Moves c env queues { m.counted with env := env' } := h.toMoves.counted.flags hflags
  have hsrc : env'.srcCpu = m.env.srcCpu := hmoves.srcCpu.trans h.srcCpu.symm
  have hdst : env'.dstCpu = m.env.dstCpu := hmoves.dstCpu.trans h.dstCpu.symm
  have himbalance : env'.imbalance = m.env.imbalance := hmoves.imbalance.trans h.imbalance.symm
  have hleft := h.left
  have hrest := h.imbalance
  rw [← himbalance] at hload
  obtain ⟨hle, hexact⟩ := env'.lower_imbalance (by omega) (by omega) hload
  refine ⟨hmoves.pull r (hsrc ▸ hp) (hsrc ▸ hdst ▸ hmovable) hexact, ?_⟩
  have hsum : (c.pull r m.counted env' p).movedLoad = c.taskHLoad m.queues.state p + m.movedLoad := sum_cons
  omega

lemma moveRound_next {rounds : Nat → Round G n} {m' : Moving T G n} (hround : c.moveRound rounds m = .inl m') :
    Unfinished c env queues m' ∧ m'.env.roundsLeft < m.env.roundsLeft := by
  have hafter := c.moveRound_after rounds m
  rw [hround] at hafter
  cases hafter with
  | next hloop hflags =>
    refine ⟨⟨(h.toMoves.counted.flags hflags).next, ?_⟩, ?_⟩
    · exact h.left.trans_eq (congrArg LbEnv.imbalance hflags.eq).symm
    · exact (congrArg LbEnv.roundsLeft hflags.eq :).trans_lt (m.env.roundsLeft_countRound_lt hloop)
  | more hloop hflags hp hmovable hload hleft =>
    refine ⟨⟨(h.pull hlt _ hflags hp hmovable hload).1, hleft⟩, ?_⟩
    exact (congrArg LbEnv.roundsLeft hflags.eq :).trans_lt (m.env.roundsLeft_countRound_lt hloop)

lemma moveRound_exit {rounds : Nat → Round G n} {m' : Moving T G n} (hround : c.moveRound rounds m = .inr m') :
    Moves c env queues m' ∧ m'.movedLoad ≤ 2 * env.imbalance + 1 := by
  have hafter := c.moveRound_after rounds m
  rw [hround] at hafter
  have hleft := h.left
  have hrest := h.imbalance
  have hmoved : m.movedLoad ≤ 2 * env.imbalance + 1 := by omega
  cases hafter with
  | empty => exact ⟨h.toMoves, hmoved⟩
  | bound => exact ⟨h.toMoves.counted, hmoved⟩
  | pause _ => exact ⟨h.toMoves.counted.setEnv m.counted.env.takeBreak rfl rfl rfl _, hmoved⟩
  | last hflags hp hmovable hload => exact h.pull hlt _ hflags hp hmovable hload

end Unfinished

/-- `move_tasks` returns; the tasks of the two queues together are the same as before, those that were moved were
allowed on the destination, not running and not in a throttled hierarchy, and the imbalance is lower by exactly
their loads, which are together at most twice the imbalance and one. -/
theorem moveTasks_moves (c : Call T G n) (rounds : Nat → Round G n) (env : LbEnv n) (queues : Queues T G n)
    (hpos : 0 < env.imbalance) (hlt : env.imbalance < 2 ^ 63) : ∃ fuel m,
    c.moveTasks rounds fuel { env, queues } = some m ∧ Moves c env queues m ∧ m.movedLoad ≤ 2 * env.imbalance + 1 := by
  obtain ⟨m, ⟨fuel, hrun⟩, hmoves, hload⟩ := Loop.returns_of_variant (c.moveRound rounds)
    (fun m => m.env.roundsLeft) (fun m m' h => h.moveRound_next hlt) (fun m m' h => h.moveRound_exit hlt)
    (show Unfinished c env queues { env, queues } from ⟨.start c env queues, hpos⟩)
  refine ⟨fuel, m, ?_, hmoves, hload⟩
  rwa [Call.moveTasks, if_neg (not_le.mpr hpos)]

/-- Three tasks on the first of two CPUs. -/
def threeTasks : Queues (Fin 3) Empty 2 where
  state :=
    { taskQueue := fun _ => ⟨none, 0⟩, se := fun _ => { onRq := true }
      cfs := fun q => if q.cpu = 0 then { loadWeight := 3072, nrRunning := 3, hNrRunning := 3 } else {}
      rq := fun cpu => if cpu = 0 then { loadWeight := 3072, nrRunning := 3 } else {} }
  cfsTasks := fun cpu => if cpu = 0 then [2, 1, 0] else []
  listed := by
    unfold TaskLists.Exact
    decide

/-- Of the three, one is running and one may not leave its CPU. -/
def threeTasksCall : Call (Fin 3) Empty 2 where
  cfg := { cpuId := fun cpu => cpu }
  cpusAllowed := fun p => if p = 1 then {0} else {0, 1}
  running := fun p => p = 2
  hLoad := fun _ => 3072

def threeTasksEnv : LbEnv 2 where
  srcCpu := 0
  dstCpu := 1
  dstGrpmask := none
  newDstCpu := 0
  idle := .idle
  imbalance := 600
  cpus := {0, 1}
  loopMax := 3

theorem moveTasks_moves_three_tasks :
    ∃ fuel m, threeTasksCall.moveTasks (fun _ => {}) fuel { env := threeTasksEnv, queues := threeTasks } = some m ∧
      Moves threeTasksCall threeTasksEnv threeTasks m ∧ m.movedLoad ≤ 2 * threeTasksEnv.imbalance + 1 :=
  moveTasks_moves threeTasksCall (fun _ => {}) threeTasksEnv threeTasks (by decide) (by decide)

end BigLittle.Balance
