import BigLittle.Cfs.LoadInvariant
import BigLittle.Cfs.Roster

/-!
# Weights, counts and the task list

`load.weight` and `nr_running` of a queue and `load.weight` of a CPU are ledgers over
the queued entities, in the words they are kept in. `cfs_tasks` of a CPU is the list of
its queued tasks; it is written where the weights are, and rides along with the state.

Between `account_entity_enqueue` and `on_rq = 1` the queue already counts an entity that
is not yet queued, and `update_cfs_shares` reweights the entity of the queue's group
just then. That is another entity, so the two can be exchanged.
-/

namespace BigLittle.Cfs

open Function (update update_comm update_of_ne update_self)
open Sched Tally
open State (cfsRqOf_congr boot boot_onRq modifyCfs_rq)
open Word (add cast_add cast_sub sub wrap wrap_lt)

variable {T G C : Type*} {cfg : Config G C} {s t : State T G C} {e : Entity T G C}
variable {groups : List G} {cpu : C} {task : T} {events : List (QueueEvent T G C)}

def maxShares : Nat := 2 ^ 18

/-- Besides the operations on entities: a change of weight, which is also what
`set_load_weight` does to a task that is off its queue, and the two parts of
`sched_group_set_shares`. -/
inductive WeightOp (T G C : Type*) where
  | entityOp (op : Op T G C)
  | reweightEntity (e : Entity T G C) (weight : Nat)
  | setShares (g : G) (shares : Nat)
  | propagateShares (g : G) (cpu : C)

/-- `cfs_tasks` of each CPU next to the state. -/
structure TaskLists (T G C : Type*) where
  state : State T G C
  cfsTasks : C → List T

section Model

variable [DecidableEq T] [DecidableEq G] [DecidableEq C]

namespace State

variable (cfg s)

/-- In `sched_group_set_shares`: the write of `tg->shares`. -/
def setShares (g : G) (shares : Nat) : State T G C :=
  s.modifyTg (some g) fun tg => { tg with shares := min (max shares minShares) maxShares }

/-- In `sched_group_set_shares`: the round of the loop for one CPU. -/
def propagateShares (g : G) (cpu : C) : State T G C :=
  (cfg.path (some g)).foldl (fun s g => s.updateCfsShares cfg ⟨some g, cpu⟩) s

def weightStep : WeightOp T G C → State T G C
  | .entityOp op => s.step cfg op
  | .reweightEntity e weight => s.reweightEntity cfg e weight
  | .setShares g shares => s.setShares g shares
  | .propagateShares g cpu => s.propagateShares cfg g cpu

end State

namespace TaskLists

variable (x : TaskLists T G C)

/-- `list_add` in `account_entity_enqueue`. -/
def listAdd (t : T) : C → List T :=
  update x.cfsTasks (x.state.taskQueue t).cpu (t :: x.cfsTasks (x.state.taskQueue t).cpu)

/-- `list_del_init` in `account_entity_dequeue`, from whatever list the task is on. -/
def listDelInit (t : T) : C → List T := fun cpu => (x.cfsTasks cpu).erase t

/-- The lists after an operation. Throttling and shares concern group entities. -/
def nextTasks : WeightOp T G C → C → List T
  | .entityOp (.enqueueEntity (.task t) _ _) => x.listAdd t
  | .entityOp (.dequeueEntity (.task t) _) => x.listDelInit t
  | .reweightEntity (.task t) _ =>
    if (x.state.se (.task t)).onRq then { x with cfsTasks := x.listDelInit t }.listAdd t
    else x.cfsTasks
  | _ => x.cfsTasks

end TaskLists

def TaskLists.step (cfg : Config G C) (x : TaskLists T G C) (op : WeightOp T G C) : TaskLists T G C :=
  ⟨x.state.weightStep cfg op, x.nextTasks op⟩

/-- Only the operations on entities have preconditions. -/
def WeightOp.Allowed (s : State T G C) : WeightOp T G C → Prop
  | .entityOp op => op.Allowed s
  | _ => True

instance (s : State T G C) (op : WeightOp T G C) : Decidable (op.Allowed s) :=
  match op with
  | .entityOp op => inferInstanceAs (Decidable (op.Allowed s))
  | .reweightEntity _ _ | .setShares _ _ | .propagateShares _ _ => isTrue trivial

end Model

section Ledgers

variable (cfg s)

def State.weightLedger : Ledger (Entity T G C) (QueueId G C) (ZMod (2 ^ 64)) where
  home := s.cfsRqOf cfg
  present := fun e => (s.se e).onRq
  value := fun e => ((s.se e).weight : ZMod (2 ^ 64))
  total := fun q => ((s.cfs q).loadWeight : ZMod (2 ^ 64))

def State.countLedger : Ledger (Entity T G C) (QueueId G C) (ZMod (2 ^ 32)) where
  home := s.cfsRqOf cfg
  present := fun e => (s.se e).onRq
  value := fun _ => 1
  total := fun q => ((s.cfs q).nrRunning : ZMod (2 ^ 32))

/-- Only top-level entities count for the CPU. -/
def State.rqLedger : Ledger (Entity T G C) C (ZMod (2 ^ 64)) where
  home := fun e => (s.cfsRqOf cfg e).cpu
  present := fun e => (s.se e).onRq && (s.cfsRqOf cfg e).tg.isNone
  value := fun e => ((s.se e).weight : ZMod (2 ^ 64))
  total := fun cpu => ((s.rq cpu).loadWeight : ZMod (2 ^ 64))

structure InRange : Prop where
  loadWeight : ∀ q, (s.cfs q).loadWeight < 2 ^ 64
  nrRunning : ∀ q, (s.cfs q).nrRunning < 2 ^ 32
  rqWeight : ∀ cpu, (s.rq cpu).loadWeight < 2 ^ 64

end Ledgers

lemma bare_ledgers (cfg : Config G C) (s : State T G C) : s.bare.weightLedger cfg = s.weightLedger cfg ∧
    s.bare.countLedger cfg = s.countLedger cfg ∧ s.bare.rqLedger cfg = s.rqLedger cfg := by
  have hhome : s.bare.cfsRqOf cfg = s.cfsRqOf cfg := State.cfsRqOf_of_bare rfl cfg
  simp only [State.weightLedger, State.countLedger, State.rqLedger, hhome]
  exact ⟨rfl, rfl, rfl⟩

lemma InRange.of_bare (hs : InRange s) (h : t.bare = s.bare) : InRange t where
  loadWeight q := (congrArg CfsRq.loadWeight (State.cfs_of_bare h q) :).trans_lt (hs.loadWeight q)
  nrRunning q := (congrArg CfsRq.nrRunning (State.cfs_of_bare h q) :).trans_lt (hs.nrRunning q)
  rqWeight cpu := (congrArg Rq.loadWeight (State.rq_of_bare h cpu) :).trans_lt (hs.rqWeight cpu)

/-- An entity is not the one of the group it is queued in. -/
lemma group_ne_of_cfsRqOf {g : G} (h : (s.cfsRqOf cfg e).tg = some g) (cpu : C) :
    (Entity.group g cpu : Entity T G C) ≠ e := by
  rintro rfl
  exact absurd (cfg.depth_parent h) (Nat.lt_irrefl _)

/-- The tasks that are queued below each CPU are the same, and tasks that are queued
stay on their CPU. -/
def SameTasks (s t : State T G C) : Prop :=
  ∀ task, (t.se (.task task)).onRq = (s.se (.task task)).onRq ∧
    ((s.se (.task task)).onRq = true → (t.taskQueue task).cpu = (s.taskQueue task).cpu)

lemma sameTasks_of_roster (h : t.roster = s.roster) : SameTasks s t := fun task =>
  ⟨(congrArg (fun r => r.onRq (.task task)) h :), fun _ =>
    (congrArg (fun r => (r.taskQueue task).cpu) h :)⟩

/-- Each list holds exactly the tasks that are queued below its CPU, each once. -/
def TaskLists.Exact (x : TaskLists T G C) : Prop :=
  ∀ cpu, (x.cfsTasks cpu).Nodup ∧ ∀ task, task ∈ x.cfsTasks cpu ↔
    (x.state.se (.task task)).onRq = true ∧ (x.state.taskQueue task).cpu = cpu

lemma TaskLists.Exact.congr {x : TaskLists T G C} (hx : x.Exact) (h : SameTasks x.state s) :
    TaskLists.Exact ⟨s, x.cfsTasks⟩ := by
  intro cpu
  refine ⟨(hx cpu).1, fun task => ((hx cpu).2 task).trans ?_⟩
  obtain ⟨honRq, hcpu⟩ := h task
  rw [honRq]
  exact and_congr_right fun hon => by rw [hcpu hon]

variable [DecidableEq G] [DecidableEq C]

/-- The three ledgers follow a change of `e`. -/
structure Reweighs (cfg : Config G C) (e : Entity T G C) (s t : State T G C) : Prop where
  weight : Ledger.Adjusts e (s.weightLedger cfg) (t.weightLedger cfg)
  count : Ledger.Adjusts e (s.countLedger cfg) (t.countLedger cfg)
  rq : Ledger.Adjusts e (s.rqLedger cfg) (t.rqLedger cfg)

structure WeightsBalanced [Fintype (Entity T G C)] (cfg : Config G C) (s : State T G C) : Prop where
  weight : (s.weightLedger cfg).Balanced
  count : (s.countLedger cfg).Balanced
  rq : (s.rqLedger cfg).Balanced
  range : InRange s

section Bare

variable [Fintype (Entity T G C)]

/-- Load tracking keeps the ledgers. -/
lemma WeightsBalanced.of_bare (hs : WeightsBalanced cfg s) (h : t.bare = s.bare) : WeightsBalanced cfg t := by
  obtain ⟨hweight, hcount, hrq⟩ := bare_ledgers cfg s
  obtain ⟨hweight', hcount', hrq'⟩ := bare_ledgers cfg t
  rw [h] at hweight' hcount' hrq'
  exact ⟨hweight' ▸ hweight ▸ hs.weight, hcount' ▸ hcount ▸ hs.count, hrq' ▸ hrq ▸ hs.rq, hs.range.of_bare h⟩

/-- What the ledgers are made of does not change. -/
lemma WeightsBalanced.congr (hs : WeightsBalanced cfg s) (hqueue : t.taskQueue = s.taskQueue) (hse : t.se = s.se)
    (hcfs : ∀ q, (t.cfs q).loadWeight = (s.cfs q).loadWeight ∧ (t.cfs q).nrRunning = (s.cfs q).nrRunning)
    (hrq : ∀ cpu, (t.rq cpu).loadWeight = (s.rq cpu).loadWeight) : WeightsBalanced cfg t := by
  have hhome := cfsRqOf_congr hqueue cfg
  have hweight : t.weightLedger cfg = s.weightLedger cfg := by
    simp only [State.weightLedger, hhome, hse, (hcfs _).1]
  have hcount : t.countLedger cfg = s.countLedger cfg := by
    simp only [State.countLedger, hhome, hse, (hcfs _).2]
  have hcpu : t.rqLedger cfg = s.rqLedger cfg := by
    simp only [State.rqLedger, hhome, hse, hrq]
  refine ⟨hweight ▸ hs.weight, hcount ▸ hs.count, hcpu ▸ hs.rq, fun q => ?_, fun q => ?_, fun cpu => ?_⟩
  · exact (hcfs q).1.trans_lt (hs.range.loadWeight q)
  · exact (hcfs q).2.trans_lt (hs.range.nrRunning q)
  · exact (hrq cpu).trans_lt (hs.range.rqWeight cpu)

end Bare

section Lookup

variable (cfg s e) (count : Nat → Nat → Nat → Nat)

@[simp] lemma accountEntity_se : (s.accountEntity cfg e count).se = s.se := by
  dsimp only [State.accountEntity]
  split
  · rfl
  · rfl

@[simp] lemma accountEntity_taskQueue : (s.accountEntity cfg e count).taskQueue = s.taskQueue := by
  dsimp only [State.accountEntity]
  split
  · rfl
  · rfl

lemma accountEntity_cfs (q : QueueId G C) : (s.accountEntity cfg e count).cfs q = if s.cfsRqOf cfg e = q then
    { s.cfs q with
      loadWeight := count 64 (s.cfs q).loadWeight (s.se e).weight
      nrRunning := count 32 (s.cfs q).nrRunning 1 } else s.cfs q := by
  dsimp only [State.accountEntity]
  rw [apply_ite State.cfs, State.modifyRq_cfs, ite_self]
  by_cases h : s.cfsRqOf cfg e = q
  · rw [if_pos h, h, State.modifyCfs_cfs_self]
  · rw [if_neg h, State.modifyCfs_cfs_of_ne _ (Ne.symm h)]

lemma accountEntity_rq (cpu : C) : (s.accountEntity cfg e count).rq cpu =
    if (s.cfsRqOf cfg e).tg = none ∧ (s.cfsRqOf cfg e).cpu = cpu then
      { s.rq cpu with loadWeight := count 64 (s.rq cpu).loadWeight (s.se e).weight } else s.rq cpu := by
  dsimp only [State.accountEntity]
  by_cases htop : (s.cfsRqOf cfg e).tg = none
  · rw [if_pos htop]
    by_cases h : (s.cfsRqOf cfg e).cpu = cpu
    · rw [if_pos ⟨htop, h⟩, h, State.modifyRq_rq_self, modifyCfs_rq]
    · rw [if_neg fun hand => h hand.2, State.modifyRq_rq_of_ne _ (Ne.symm h), modifyCfs_rq]
  · rw [if_neg htop, if_neg fun hand => htop hand.1, modifyCfs_rq]

end Lookup

lemma InRange.accountEntity {count : Nat → Nat → Nat → Nat} (hs : InRange s) (hcount : ∀ w a b, count w a b < 2 ^ w) :
    InRange (s.accountEntity cfg e count) where
  loadWeight q := by
    rw [accountEntity_cfs]
    split
    · exact hcount _ _ _
    · exact hs.loadWeight q
  nrRunning q := by
    rw [accountEntity_cfs]
    split
    · exact hcount _ _ _
    · exact hs.nrRunning q
  rqWeight cpu := by
    rw [accountEntity_rq]
    split
    · exact hcount _ _ _
    · exact hs.rqWeight cpu

lemma InRange.accountEntityEnqueue (hs : InRange s) : InRange (s.accountEntityEnqueue cfg e) :=
  hs.accountEntity fun w _ _ => wrap_lt w _

lemma InRange.accountEntityDequeue (hs : InRange s) : InRange (s.accountEntityDequeue cfg e) :=
  hs.accountEntity fun w _ _ => wrap_lt w _

/-- How far a step of `e` moves the three totals; the entities stay as they are,
but for the weight and the flag of `e`. -/
structure Shifts (cfg : Config G C) (e : Entity T G C) (w : ZMod (2 ^ 64)) (n : ZMod (2 ^ 32))
    (s t : State T G C) : Prop where
  taskQueue : t.taskQueue = s.taskQueue
  se : ∀ e', e' ≠ e → t.se e' = s.se e'
  loadWeight : ∀ q, ((t.cfs q).loadWeight : ZMod (2 ^ 64)) =
    (s.cfs q).loadWeight + if s.cfsRqOf cfg e = q then w else 0
  nrRunning : ∀ q, ((t.cfs q).nrRunning : ZMod (2 ^ 32)) =
    (s.cfs q).nrRunning + if s.cfsRqOf cfg e = q then n else 0
  rqWeight : ∀ cpu, ((t.rq cpu).loadWeight : ZMod (2 ^ 64)) = (s.rq cpu).loadWeight +
    if (s.cfsRqOf cfg e).tg = none ∧ (s.cfsRqOf cfg e).cpu = cpu then w else 0

namespace Shifts

variable {u : State T G C} {w w' : ZMod (2 ^ 64)} {n n' : ZMod (2 ^ 32)}

lemma cfsRqOf (h : Shifts cfg e w n s t) : t.cfsRqOf cfg = s.cfsRqOf cfg := cfsRqOf_congr h.taskQueue cfg

lemma trans (h : Shifts cfg e w n s t) (h' : Shifts cfg e w' n' t u) : Shifts cfg e (w + w') (n + n') s u where
  taskQueue := h'.taskQueue.trans h.taskQueue
  se e' he := (h'.se e' he).trans (h.se e' he)
  loadWeight q := by
    rw [h'.loadWeight, h.loadWeight, h.cfsRqOf, add_assoc]
    split
    · rfl
    · rw [add_zero]
  nrRunning q := by
    rw [h'.nrRunning, h.nrRunning, h.cfsRqOf, add_assoc]
    split
    · rfl
    · rw [add_zero]
  rqWeight cpu := by
    rw [h'.rqWeight, h.rqWeight, h.cfsRqOf, add_assoc]
    split
    · rfl
    · rw [add_zero]

/-- The totals have moved by what the entity counts for now and did not before. -/
lemma reweighs (h : Shifts cfg e w n s t) (hw : w = (if (t.se e).onRq then ((t.se e).weight : ZMod (2 ^ 64)) else 0) -
      if (s.se e).onRq then ((s.se e).weight : ZMod (2 ^ 64)) else 0)
    (hn : n = (if (t.se e).onRq then 1 else 0) - if (s.se e).onRq then 1 else 0) :
    Reweighs cfg e s t := by
  have hhome : t.cfsRqOf cfg = s.cfsRqOf cfg := h.cfsRqOf
  have honRq : ∀ e', e' ≠ e → (t.se e').onRq = (s.se e').onRq :=
    fun e' he => congrArg SchedEntity.onRq (h.se e' he)
  have hvalue : ∀ e', e' ≠ e → ((t.se e').weight : ZMod (2 ^ 64)) = (s.se e').weight :=
    fun e' he => congrArg (fun se => ((se.weight : Nat) : ZMod (2 ^ 64))) (h.se e' he)
  refine ⟨?_, ?_, ?_⟩
  · refine Ledger.adjusts_of_difference (fun e' _ => congrFun hhome e') honRq hvalue (congrFun hhome e) fun q => ?_
    exact (h.loadWeight q).trans (by rw [hw]; rfl)
  · refine Ledger.adjusts_of_difference (fun e' _ => congrFun hhome e') honRq (fun _ _ => rfl)
      (congrFun hhome e) fun q => ?_
    exact (h.nrRunning q).trans (by rw [hn]; rfl)
  · refine Ledger.adjusts_of_difference (fun e' _ => congrArg QueueId.cpu (congrFun hhome e'))
      (fun e' he => ?_) hvalue (congrArg QueueId.cpu (congrFun hhome e)) fun cpu => ?_
    · simp only [State.rqLedger, hhome, honRq e' he]
    · simp only [State.rqLedger, Ledger.counted, h.rqWeight cpu, hw, hhome]
      by_cases htop : (s.cfsRqOf cfg e).tg = none
      · simp [htop]
      · simp [htop, Option.isNone_iff_eq_none]

end Shifts

section Account

variable (cfg s e)

lemma accountEntity_shifts (count : Nat → Nat → Nat → Nat) (sign : Int)
    (hcount : ∀ w a b, ((count w a b : Nat) : ZMod (2 ^ w)) = a + sign * b) :
    Shifts cfg e (sign * (s.se e).weight) sign s (s.accountEntity cfg e count) := by
  refine ⟨accountEntity_taskQueue .., fun e' _ => congrFun (accountEntity_se ..) e', fun q => ?_, fun q => ?_,
    fun cpu => ?_⟩
  · rw [accountEntity_cfs]
    split
    · exact hcount _ _ _
    · simp
  · rw [accountEntity_cfs]
    split
    · exact (hcount 32 _ 1).trans (by rw [Nat.cast_one, mul_one])
    · simp
  · rw [accountEntity_rq]
    split
    · exact hcount _ _ _
    · simp

lemma accountEntityEnqueue_shifts : Shifts cfg e (s.se e).weight 1 s (s.accountEntityEnqueue cfg e) := by
  simpa using accountEntity_shifts cfg s e add 1 (by simp)

lemma accountEntityDequeue_shifts : Shifts cfg e (-(s.se e).weight) (-1) s (s.accountEntityDequeue cfg e) := by
  simpa using accountEntity_shifts cfg s e sub (-1) (by simp [sub_eq_add_neg])

variable [DecidableEq T]

/-- The weight and the flag of the entity itself do not move any total. -/
lemma modifySe_shifts (f : SchedEntity → SchedEntity) : Shifts cfg e 0 0 s (s.modifySe e f) :=
  ⟨rfl, fun _ he => State.modifySe_se_of_ne f he, fun _ => by simp, fun _ => by simp, fun _ => by simp⟩

lemma reweightEntity_reweighs (weight : Nat) : Reweighs cfg e s (s.reweightEntity cfg e weight) := by
  rw [State.reweightEntity]
  split
  next hon =>
    have hshift := ((accountEntityDequeue_shifts cfg s e).trans (modifySe_shifts cfg _ e _)).trans
      (accountEntityEnqueue_shifts cfg
        ((s.accountEntityDequeue cfg e).modifySe e fun se => { se with weight := weight }) e)
    have hse : ((((s.accountEntityDequeue cfg e).modifySe e fun se =>
        { se with weight := weight }).accountEntityEnqueue cfg e).se e) =
          { s.se e with weight := weight } := by
      simp
    have hmid : (((s.accountEntityDequeue cfg e).modifySe e fun se =>
        { se with weight := weight }).se e).weight = weight := by simp
    refine hshift.reweighs ?_ ?_
    · rw [hse, hmid, if_pos hon, if_pos hon]
      abel
    · rw [hse, if_pos hon]
      abel
  next hoff =>
    refine (modifySe_shifts cfg s e _).reweighs ?_ ?_
    · simp [hoff]
    · simp [hoff]

def State.join : State T G C :=
  (s.accountEntityEnqueue cfg e).modifySe e fun se => { se with onRq := true }

def State.leave : State T G C :=
  (s.modifySe e fun se => { se with onRq := false }).accountEntityDequeue cfg e

lemma join_reweighs (hoff : (s.se e).onRq = false) : Reweighs cfg e s (s.join cfg e) := by
  refine ((accountEntityEnqueue_shifts cfg s e).trans (modifySe_shifts cfg _ e _)).reweighs ?_ ?_
  · simp [hoff]
  · simp [hoff]

lemma leave_reweighs (hon : (s.se e).onRq = true) : Reweighs cfg e s (s.leave cfg e) := by
  refine ((modifySe_shifts cfg s e _).trans (accountEntityDequeue_shifts cfg _ e)).reweighs ?_ ?_
  · simp [hon]
  · simp [hon]

end Account

variable [DecidableEq T]

lemma InRange.modifySe (hs : InRange s) (f : SchedEntity → SchedEntity) :
    InRange (s.modifySe e f) := ⟨hs.loadWeight, hs.nrRunning, hs.rqWeight⟩

lemma InRange.reweightEntity (hs : InRange s) (weight : Nat) : InRange (s.reweightEntity cfg e weight) := by
  rw [State.reweightEntity]
  split
  · exact (hs.accountEntityDequeue.modifySe _).accountEntityEnqueue
  · exact hs.modifySe _

section Exchange

variable (cfg s) {x : Entity T G C} (f : SchedEntity → SchedEntity)

lemma modifySe_comm (hx : x ≠ e) (g : SchedEntity → SchedEntity) :
    (s.modifySe e f).modifySe x g = (s.modifySe x g).modifySe e f := by
  have hse : (s.modifySe e f |>.modifySe x g).se = (s.modifySe x g |>.modifySe e f).se := by
    dsimp only [State.modifySe]
    rw [update_of_ne hx, update_of_ne (Ne.symm hx), update_comm (Ne.symm hx)]
  exact congrArg (fun se => { s with se := se }) hse

lemma accountEntity_modifySe (hx : x ≠ e) (count : Nat → Nat → Nat → Nat) :
    (s.modifySe e f).accountEntity cfg x count = (s.accountEntity cfg x count).modifySe e f := by
  dsimp only [State.accountEntity]
  rw [cfsRqOf_congr (s := s) (t := s.modifySe e f) rfl, State.modifySe_se_of_ne f hx]
  split
  · rfl
  · rfl

lemma reweightEntity_modifySe (hx : x ≠ e) (weight : Nat) : (s.modifySe e f).reweightEntity cfg x weight =
    (s.reweightEntity cfg x weight).modifySe e f := by
  rw [State.reweightEntity, State.reweightEntity, State.modifySe_se_of_ne f hx]
  split
  · simp only [accountEntity_modifySe cfg _ f hx, modifySe_comm _ f hx]
  · exact modifySe_comm s f hx _

lemma updateCfsShares_modifySe {q : QueueId G C} (hq : ∀ g, q.tg = some g → (Entity.group g q.cpu : Entity T G C) ≠ e) :
    (s.modifySe e f).updateCfsShares cfg q = (s.updateCfsShares cfg q).modifySe e f := by
  obtain ⟨tg, cpu⟩ := q
  cases tg with
  | none => rfl
  | some g =>
    dsimp only [State.updateCfsShares]
    have hthrottled : (s.modifySe e f).throttledHierarchy cfg ⟨some g, cpu⟩ =
        s.throttledHierarchy cfg ⟨some g, cpu⟩ := rfl
    rw [hthrottled]
    split
    · rfl
    · exact reweightEntity_modifySe cfg s f (hq g rfl) _

/-- Up to the exchange, `enqueue_entity` lets the entity join and then updates the
shares of the group. -/
lemma enqueued_eq_join (e : Entity T G C) (wakeup : Bool) : s.enqueued cfg e wakeup =
    ((s.enqueueEntityLoadAvg cfg e wakeup).join cfg e).updateCfsShares cfg (s.cfsRqOf cfg e) :=
  (updateCfsShares_modifySe cfg _ _ fun _ h => group_ne_of_cfsRqOf h _).symm

end Exchange

section Balanced

variable [Fintype (Entity T G C)]

lemma Reweighs.balanced (h : Reweighs cfg e s t) (ht : InRange t)
    (hs : WeightsBalanced cfg s) : WeightsBalanced cfg t :=
  ⟨h.weight.balanced hs.weight, h.count.balanced hs.count, h.rq.balanced hs.rq, ht⟩

section

variable (hs : WeightsBalanced cfg s)
include hs

lemma WeightsBalanced.reweightEntity (e : Entity T G C)
    (weight : Nat) : WeightsBalanced cfg (s.reweightEntity cfg e weight) :=
  (reweightEntity_reweighs cfg s e weight).balanced (hs.range.reweightEntity weight) hs

lemma WeightsBalanced.updateCfsShares (q : QueueId G C) : WeightsBalanced cfg (s.updateCfsShares cfg q) := by
  rw [State.updateCfsShares]
  split
  · exact hs
  · split
    · exact hs
    · exact hs.reweightEntity _ _

lemma WeightsBalanced.enqueued (hoff : (s.se e).onRq = false) (wakeup : Bool) :
    WeightsBalanced cfg (s.enqueued cfg e wakeup) := by
  have hload : (s.enqueueEntityLoadAvg cfg e wakeup).bare = s.bare :=
    enqueueEntityLoadAvg_bare cfg s e wakeup
  have htracked := hs.of_bare hload
  have hoff' : ((s.enqueueEntityLoadAvg cfg e wakeup).se e).onRq = false :=
    (State.onRq_of_bare hload e).trans hoff
  rw [enqueued_eq_join]
  refine WeightsBalanced.updateCfsShares ?_ _
  exact (join_reweighs cfg _ e hoff').balanced (htracked.range.accountEntityEnqueue.modifySe _) htracked

lemma WeightsBalanced.dequeueEntity (hon : (s.se e).onRq = true) (sleep : Bool) :
    WeightsBalanced cfg (s.dequeueEntity cfg e sleep) := by
  have hload : (s.dequeueEntityLoadAvg cfg e sleep).bare = s.bare :=
    dequeueEntityLoadAvg_bare cfg s e sleep
  have htracked := hs.of_bare hload
  have hon' : ((s.dequeueEntityLoadAvg cfg e sleep).se e).onRq = true :=
    (State.onRq_of_bare hload e).trans hon
  refine WeightsBalanced.updateCfsShares ?_ _
  exact (leave_reweighs cfg _ e hon').balanced (htracked.range.modifySe _).accountEntityDequeue htracked

/-- A task that is off its queue may get another one. -/
lemma WeightsBalanced.setTaskQueue (hoff : (s.se (.task task)).onRq = false) (q : QueueId G C) :
    WeightsBalanced cfg { s with taskQueue := update s.taskQueue task q } := by
  have hhome := s.cfsRqOf_setTaskQueue cfg task q
  refine Reweighs.balanced (e := .task task) ⟨?_, ?_, ?_⟩ ⟨hs.range.1, hs.range.2, hs.range.3⟩ hs
  · exact Ledger.adjusts_of_absent hhome (fun _ _ => rfl) (fun _ _ => rfl) hoff hoff fun _ => rfl
  · exact Ledger.adjusts_of_absent hhome (fun _ _ => rfl) (fun _ _ => rfl) hoff hoff fun _ => rfl
  · refine Ledger.adjusts_of_absent (fun e he => congrArg QueueId.cpu (hhome e he))
      (fun e he => ?_) (fun _ _ => rfl) ?_ ?_ fun _ => rfl
    · simp only [State.rqLedger, hhome e he]
    · simp only [State.rqLedger, hoff, Bool.false_and]
    · simp only [State.rqLedger, hoff, Bool.false_and]

lemma WeightsBalanced.migrateTask (hoff : (s.se (.task task)).onRq = false) (cpu : C)
    (nohz : Option Nat) : WeightsBalanced cfg (s.migrateTask task cpu nohz) := by
  have hleft : WeightsBalanced cfg (s.migrateTaskRqFair task nohz) ∧
      ((s.migrateTaskRqFair task nohz).se (.task task)).onRq = false := by
    obtain hbare | ⟨clockTask, -, hbare⟩ := migrateTaskRqFair_bare s task nohz
    · exact ⟨hs.of_bare hbare, (State.onRq_of_bare hbare _).trans hoff⟩
    · refine ⟨WeightsBalanced.of_bare ?_ hbare, (State.onRq_of_bare hbare _).trans hoff⟩
      exact hs.congr rfl rfl (fun _ => ⟨rfl, rfl⟩) (State.modifyRq_keeps Rq.loadWeight rfl)
  rw [State.migrateTask]
  split
  · exact hs.setTaskQueue hoff _
  · exact hleft.1.setTaskQueue hleft.2 _

end

lemma weightsBalanced_keeps (cfg : Config G C) : Keeps cfg fun s : State T G C => WeightsBalanced cfg s where
  enqueued s e wakeup hoff hs := hs.enqueued hoff wakeup
  dequeueEntity s e sleep hon hs := hs.dequeueEntity hon sleep
  toTracks := .of_quiet (fun h hs => hs.of_bare h.bare) fun _ q hs => hs.updateCfsShares q
  migrateTask s t cpu nohz hoff hs := hs.migrateTask hoff cpu nohz
  modifyCfs s q f hf hs :=
    hs.congr rfl rfl (fun r => ⟨State.modifyCfs_keeps CfsRq.loadWeight
      (CfsRq.loadWeight_of_accounts (hf.accounts _)) r, State.modifyCfs_keeps CfsRq.nrRunning
      (CfsRq.nrRunning_of_accounts (hf.accounts _)) r⟩) fun _ => rfl
  walkTgTreeFrom s q visit hvisit hs := by
    refine hs.congr rfl rfl (fun r => ?_) fun _ => rfl
    dsimp only [State.walkTgTreeFrom]
    split
    · exact ⟨CfsRq.loadWeight_of_accounts ((hvisit _).accounts _), CfsRq.nrRunning_of_accounts ((hvisit _).accounts _)⟩
    · exact ⟨rfl, rfl⟩
  modifyRq s cpu f hf hs :=
    hs.congr rfl rfl (fun _ => ⟨rfl, rfl⟩) (State.modifyRq_keeps Rq.loadWeight (hf.loadWeight _))

lemma WeightsBalanced.weightStep (hs : WeightsBalanced cfg s) {op : WeightOp T G C}
    (hop : op.Allowed s) : WeightsBalanced cfg (s.weightStep cfg op) := by
  cases op with
  | entityOp op => exact (weightsBalanced_keeps cfg).step op hs hop
  | reweightEntity e weight => exact hs.reweightEntity e weight
  | setShares g shares => exact hs.congr rfl rfl (fun _ => ⟨rfl, rfl⟩) fun _ => rfl
  | propagateShares g cpu =>
    rw [State.weightStep, State.propagateShares]
    exact Run.foldl_of_step (P := fun t => WeightsBalanced cfg t)
      (fun _ _ ht => WeightsBalanced.updateCfsShares ht _) hs

end Balanced

section Lists

/-- Events of group entities do not concern tasks. -/
lemma InGroups.foldl_onRq (h : InGroups groups cpu events) (r : Roster T G C) (task : T) :
    (events.foldl (Roster.apply cfg) r).onRq (.task task) = r.onRq (.task task) := by
  induction events generalizing r with
  | nil => rfl
  | cons ev rest ih =>
    rw [List.foldl_cons, ih fun ev' hev' => h ev' (List.mem_cons_of_mem _ hev')]
    obtain ⟨g, -, hev⟩ := h ev List.mem_cons_self
    have hne : (Entity.task task : Entity T G C) ≠ ev.entity := by simp [hev]
    cases ev with
    | enqueue e | dequeue e => exact update_of_ne hne _ _

lemma Performs.onRq_task (h : Performs cfg s events t) (hin : InGroups groups cpu events) (task : T) :
    (t.se (.task task)).onRq = (s.se (.task task)).onRq :=
  (congrArg (fun r => r.onRq (.task task)) h :).trans (hin.foldl_onRq s.roster task)

lemma Performs.sameTasks (h : Performs cfg s events t) (hin : InGroups groups cpu events) : SameTasks s t := fun task =>
  ⟨h.onRq_task hin task, fun _ => by rw [h.taskQueue]⟩

/-- After an enqueue or dequeue of a task, that task alone has changed its flag. -/
lemma Performs.onRq_of_first {ev : QueueEvent T G C} (h : Performs cfg s (ev :: events) t)
    (hin : InGroups groups cpu events) (task : T) : (t.se (.task task)).onRq =
    update (fun e => (s.se e).onRq) ev.entity ev.isEnqueue (.task task) := by
  have honRq : (t.se (.task task)).onRq = (Roster.apply cfg s.roster ev).onRq (.task task) :=
    (congrArg (fun r => r.onRq (.task task)) h :).trans (hin.foldl_onRq _ task)
  rw [honRq]
  cases ev with
  | enqueue e => rfl
  | dequeue e => rfl

namespace TaskLists

variable {x : TaskLists T G C}

omit [DecidableEq T] [DecidableEq G] in
lemma mem_listAdd {task task' : T} : task' ∈ x.listAdd task cpu ↔ task' = task ∧
    (x.state.taskQueue task).cpu = cpu ∨ task' ∈ x.cfsTasks cpu := by
  rw [TaskLists.listAdd]
  by_cases h : cpu = (x.state.taskQueue task).cpu
  · simp [h]
  · simp [update_of_ne h, Ne.symm h]

variable (hx : x.Exact)
include hx

/-- A task that was off its queue is added to the list of its CPU. -/
lemma Exact.listAdd (hoff : (x.state.se (.task task)).onRq = false)
    (hqueue : s.taskQueue = x.state.taskQueue) (honRq : ∀ task', (s.se (.task task')).onRq =
      update (fun e => (x.state.se e).onRq) (.task task) true (.task task')) :
    Exact ⟨s, x.listAdd task⟩ := by
  intro cpu
  have hnot : ∀ cpu, task ∉ x.cfsTasks cpu := by
    intro cpu
    rw [(hx cpu).2, hoff]
    simp
  refine ⟨?_, fun task' => ?_⟩
  · dsimp only [TaskLists.listAdd]
    by_cases h : cpu = (x.state.taskQueue task).cpu
    · rw [h, update_self]
      exact List.nodup_cons.mpr ⟨hnot _, (hx _).1⟩
    · rw [update_of_ne h]
      exact (hx cpu).1
  · dsimp only
    rw [mem_listAdd, (hx cpu).2, hqueue, honRq]
    by_cases htask : task' = task
    · simp [htask, hoff]
    · simp [htask]

/-- A task is taken off the list it is on. -/
lemma Exact.listDelInit (hqueue : s.taskQueue = x.state.taskQueue) (honRq : ∀ task', (s.se (.task task')).onRq =
      update (fun e => (x.state.se e).onRq) (.task task) false (.task task')) :
    Exact ⟨s, x.listDelInit task⟩ := by
  intro cpu
  refine ⟨(hx cpu).1.erase task, fun task' => ?_⟩
  dsimp only [TaskLists.listDelInit]
  rw [(hx cpu).1.mem_erase_iff, (hx cpu).2, hqueue, honRq]
  by_cases htask : task' = task
  · simp [htask]
  · simp [htask]

/-- A queued task that is reweighted leaves its list and joins it again. -/
lemma Exact.reweightEntity (e : Entity T G C) (weight : Nat) : (x.step cfg (.reweightEntity e weight)).Exact := by
  have hquiet : SameTasks x.state (x.state.reweightEntity cfg e weight) :=
    sameTasks_of_roster (reweightEntity_still cfg x.state e weight).roster
  cases e with
  | group g cpu => exact hx.congr hquiet
  | task task =>
    dsimp only [TaskLists.step, TaskLists.nextTasks, State.weightStep]
    split
    next hon =>
      -- between the two the task is on no list
      have hdel : Exact ⟨x.state.modifySe (.task task) fun se => { se with onRq := false },
          x.listDelInit task⟩ :=
        hx.listDelInit rfl fun task' => congrFun (Function.comp_update SchedEntity.onRq x.state.se
          (.task task) _) (.task task')
      have hqueue : (x.state.reweightEntity cfg (.task task) weight).taskQueue = x.state.taskQueue :=
        (congrArg Roster.taskQueue (reweightEntity_still cfg x.state (.task task) weight).roster :)
      refine hdel.listAdd (by simp) hqueue fun task' => ?_
      rw [(hquiet task').1]
      by_cases htask : task' = task
      · simp [htask, hon]
      · have hne : (Entity.task task' : Entity T G C) ≠ .task task := by simpa using htask
        simp [hne, State.modifySe_se_of_ne _ hne]
    next => exact hx.congr hquiet

lemma Exact.enqueueEntity (hoff : (x.state.se e).onRq = false) (wakeup : Bool)
    (spent : QueueId G C → Bool) : (x.step cfg (.entityOp (.enqueueEntity e wakeup spent))).Exact := by
  obtain ⟨events, hevents, hdrops⟩ := enqueueEntity_performs cfg x.state e wakeup spent
  cases e with
  | task task => exact hx.listAdd hoff hevents.taskQueue (hevents.onRq_of_first hdrops.inGroups)
  | group g cpu =>
    exact hx.congr fun task => ⟨hevents.onRq_of_first hdrops.inGroups task, fun _ =>
      congrArg QueueId.cpu (congrFun hevents.taskQueue task)⟩

lemma Exact.dequeueEntity (e : Entity T G C) (sleep : Bool) :
    (x.step cfg (.entityOp (.dequeueEntity e sleep))).Exact := by
  have hevents := dequeueEntity_performs cfg x.state e sleep
  have hnone : InGroups [] (x.state.cfsRqOf cfg e).cpu ([] : List (QueueEvent T G C)) := nofun
  cases e with
  | task task => exact hx.listDelInit hevents.taskQueue (hevents.onRq_of_first hnone)
  | group g cpu =>
    exact hx.congr fun task => ⟨hevents.onRq_of_first hnone task, fun _ =>
      congrArg QueueId.cpu (congrFun hevents.taskQueue task)⟩

lemma Exact.entityOp {op : Op T G C} (hop : op.Allowed x.state) : (x.step cfg (.entityOp op)).Exact := by
  cases op with
  | enqueueEntity e wakeup spent => exact hx.enqueueEntity hop wakeup spent
  | dequeueEntity e sleep => exact hx.dequeueEntity e sleep
  | setNextEntity e => exact hx.congr (sameTasks_of_roster (setNextEntity_roster cfg _ e))
  | putPrevEntity e spent =>
    obtain ⟨events, hevents, hdrops⟩ := putPrevEntity_performs cfg x.state e spent
    exact hx.congr (hevents.sameTasks hdrops.inGroups)
  | entityTick e => exact hx.congr (sameTasks_of_roster (entityTick_roster cfg _ e))
  | throttleCfsRq q =>
    obtain ⟨events, hevents, hdrops⟩ := throttleCfsRq_performs cfg x.state q
    exact hx.congr (hevents.sameTasks hdrops.inGroups)
  | unthrottleCfsRq q spent =>
    obtain ⟨events, hevents, hin, -⟩ := unthrottleCfsRq_performs cfg x.state q spent
    exact hx.congr (hevents.sameTasks hin)
  | updateEntityLoadAvg e =>
    exact hx.congr (sameTasks_of_roster (updateEntityLoadAvg_quiet cfg _ e true).roster)
  | updateCfsShares q => exact hx.congr (sameTasks_of_roster (updateCfsShares_still cfg _ q).roster)
  | updateRqRunnableAvg cpu runnable =>
    exact hx.congr (sameTasks_of_roster (updateRqRunnableAvg_quiet cfg _ cpu runnable).roster)
  | updateRqClock cpu clockTask =>
    exact hx.congr (sameTasks_of_roster rfl)
  | migrateTask task cpu nohz =>
    have hroster := migrateTask_roster x.state task cpu nohz
    refine hx.congr fun task' => ⟨(congrArg (fun r => r.onRq (.task task')) hroster :), fun hon => ?_⟩
    have hne : task' ≠ task := by
      rintro rfl
      exact Bool.false_ne_true (hop.symm.trans hon)
    have hqueue : (x.state.migrateTask task cpu nohz).taskQueue task' = x.state.taskQueue task' :=
      (congrArg (fun r => r.taskQueue task') hroster :).trans (update_of_ne hne _ _)
    exact congrArg QueueId.cpu hqueue

lemma Exact.step {op : WeightOp T G C} (hop : op.Allowed x.state) : (x.step cfg op).Exact := by
  cases op with
  | entityOp op => exact hx.entityOp hop
  | reweightEntity e weight => exact hx.reweightEntity e weight
  | setShares g shares => exact hx.congr (sameTasks_of_roster rfl)
  | propagateShares g cpu =>
    refine hx.congr (sameTasks_of_roster ?_)
    exact Run.foldl_of_step (P := fun t : State T G C => t.roster = x.state.roster)
      (fun t g ht => (updateCfsShares_still cfg t _).roster.trans ht) rfl

end TaskLists

end Lists

section Sums

variable [Fintype T] [Fintype G] [Fintype C]

/-- Each word is the sum it stands for, kept in its width: the weights and the
number of the entities on a queue, and the weights of those at the top of a CPU. -/
structure WeightsAreSums (cfg : Config G C) (s : State T G C) : Prop where
  loadWeight : ∀ q, (s.cfs q).loadWeight =
    wrap 64 (∑ e with (s.se e).onRq = true ∧ s.cfsRqOf cfg e = q, (s.se e).weight)
  nrRunning : ∀ q, (s.cfs q).nrRunning =
    wrap 32 (Finset.card {e | (s.se e).onRq = true ∧ s.cfsRqOf cfg e = q})
  rqWeight : ∀ cpu, (s.rq cpu).loadWeight = wrap 64
    (∑ e with (s.se e).onRq = true ∧ s.cfsRqOf cfg e = ⟨none, cpu⟩, (s.se e).weight)

/-- A word that is congruent to a number is that number kept in its width. -/
lemma eq_wrap_of_cast {w a n : Nat} (ha : a < 2 ^ w)
    (h : ((a : Nat) : ZMod (2 ^ w)) = (n : ZMod (2 ^ w))) : a = wrap w n := by
  rwa [ZMod.natCast_eq_natCast_iff', Nat.mod_eq_of_lt ha] at h

omit [DecidableEq T] in
lemma WeightsBalanced.sums (hs : WeightsBalanced cfg s) : WeightsAreSums cfg s where
  loadWeight q := by
    apply eq_wrap_of_cast (hs.range.loadWeight q)
    rw [Nat.cast_sum]
    exact hs.weight q
  nrRunning q := by
    apply eq_wrap_of_cast (hs.range.nrRunning q)
    rw [Finset.card_eq_sum_ones, Nat.cast_sum]
    refine (hs.count q).trans (Finset.sum_congr rfl fun _ _ => ?_)
    exact Nat.cast_one.symm
  rqWeight cpu := by
    apply eq_wrap_of_cast (hs.range.rqWeight cpu)
    rw [Nat.cast_sum]
    refine (hs.rq cpu).trans (Finset.sum_congr (Finset.filter_congr fun e _ => ?_) fun _ _ => rfl)
    dsimp only [State.rqLedger]
    cases s.cfsRqOf cfg e
    simp [and_assoc]

omit [DecidableEq T] in
lemma boot_weightsBalanced (cfg : Config G C) (start : Start T G C) : WeightsBalanced cfg (boot start) := by
  refine ⟨fun q => ?_, fun q => ?_, fun cpu => ?_,
    ⟨fun _ => Nat.two_pow_pos 64, fun _ => Nat.two_pow_pos 32, fun _ => Nat.two_pow_pos 64⟩⟩
  · simp [State.weightLedger, boot_onRq]
    rfl
  · simp [State.countLedger, boot_onRq]
    rfl
  · simp [State.rqLedger, boot_onRq]
    rfl

/-- For every hierarchy and every sequence of operations that the callers allow,
weights, counts and lists are those of the queued entities between operations. -/
theorem weights_are_sums (cfg : Config G C) (start : Start T G C) (ops : List (WeightOp T G C))
    (hallowed : Run.Each (TaskLists.step cfg) (fun x op => op.Allowed x.state)
      ⟨boot start, fun _ => []⟩ ops) :
    Run.Always (TaskLists.step cfg) (fun x => WeightsAreSums cfg x.state ∧ x.Exact)
      ⟨boot start, fun _ => []⟩ ops := by
  have hempty : TaskLists.Exact ⟨boot start, fun _ => []⟩ :=
    fun cpu => ⟨List.nodup_nil, fun task => by simp [boot]⟩
  have hinv := Run.always_of_each (P := fun x : TaskLists T G C => WeightsBalanced cfg x.state ∧ x.Exact)
    (fun x op hx hop => ⟨hx.1.weightStep hop, hx.2.step hop⟩)
    ⟨boot_weightsBalanced cfg start, hempty⟩ hallowed
  exact hinv.mono fun x hx => ⟨hx.1.sums, hx.2⟩

/-- A task of a group is queued with its group and reweighted; the group gets other
shares and is throttled and unthrottled. -/
theorem weights_are_sums_one_task :
    let cfg : Config Unit Unit := { cpuId := fun _ => 0, bandwidthUsed := true }
    let task : Entity Unit Unit Unit := .task ()
    let group : Entity Unit Unit Unit := .group () ()
    Run.Always (TaskLists.step cfg) (fun x => WeightsAreSums cfg x.state ∧ x.Exact)
      ⟨boot { taskQueue := fun _ => ⟨some (), ()⟩ }, fun _ => []⟩
      [.entityOp (.enqueueEntity task false fun _ => false),
       .entityOp (.enqueueEntity group true fun _ => false), .reweightEntity task 88761,
       .setShares () 2048, .propagateShares () (), .entityOp (.throttleCfsRq ⟨some (), ()⟩),
       .entityOp (.unthrottleCfsRq ⟨some (), ()⟩ fun _ => false)] :=
  weights_are_sums _ _ _ (by decide +kernel)

end Sums

end BigLittle.Cfs
