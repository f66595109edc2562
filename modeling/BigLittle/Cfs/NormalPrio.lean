import Mathlib.Algebra.BigOperators.Ring.Finset
import BigLittle.Lib.Run
import BigLittle.Lib.Tally
import BigLittle.Cfs.Roster

/-!
# The count of normal-priority tasks

Every CPU counts the queued tasks of normal priority, those that
`task_low_priority` does not hold of. The counter is kept where an entity is
enqueued or dequeued, and the test for a task is commented out there: for a group
entity `task_of(se)->prio` is foreign memory, and the group counts as one more task
if a normal priority is read from it.

The tasks form a ledger whose totals are the counters. An event of a task adjusts
it, and an event of a group leaves it alone as long as a low priority is read.
-/

namespace BigLittle.Cfs

open Sched Tally State List
open State (boot)
open Function (update update_of_ne update_self)

variable {T G C : Type*}

lemma Entity.task_ne_group (t : T) (g : G) (cpu : C) : (.task t : Entity T G C) ≠ .group g cpu := nofun

variable [DecidableEq T] [DecidableEq G] [DecidableEq C]

/-- What can happen to the counters: an operation of the class, a change of the
priority of a task, and a change of the memory that is read as the priority of a
group. -/
inductive PrioOp (T G C : Type*) where
  | fair (op : ClassOp T G C)
  | setUserNice (t : T) (prio : Int) (weight : Nat) (spent : QueueId G C → Bool)
  | setPrio (t : T) (prio : Int) (weight : Nat)
  | groupMemory (g : G) (cpu : C) (prio : Int)

namespace State

variable (cfg : Config G C) (s : State T G C)

/-- Priority and weight of a task that is off the queue. -/
def setPrio (t : T) (prio : Int) (weight : Nat) : State T G C :=
  { s.modifySe (.task t) fun se => { se with weight := weight } with
    prio := update s.prio (.task t) prio }

/-- `set_user_nice`, with the priority and the weight that the nice value gives. -/
def setUserNice (t : T) (prio : Int) (weight : Nat) (spent : QueueId G C → Bool) : State T G C :=
  if (s.se (.task t)).onRq then
    ((s.dequeueTaskFair cfg t false).setPrio t prio weight).enqueueTaskFair cfg t false spent
  else s.setPrio t prio weight

def prioStep (s : State T G C) : PrioOp T G C → State T G C
  | .fair op => s.classStep cfg op
  | .setUserNice t prio weight spent => s.setUserNice cfg t prio weight spent
  | .setPrio t prio weight => s.setPrio t prio weight
  | .groupMemory g cpu prio => { s with prio := update s.prio (.group g cpu) prio }

/-- The counter of every CPU is the number of queued tasks of normal priority. -/
def NormalPrioCounted [Fintype T] : Prop :=
  ∀ cpu, (s.cfs ⟨none, cpu⟩).avg.nrNormalPrio = Word.wrap 32 (Finset.univ.filter fun t => (s.se (.task t)).onRq = true ∧
      (s.taskQueue t).cpu = cpu ∧ s.lowPriority cfg (.task t) = false).card

/-- The groups from the queue to the root are read as of low priority. -/
def ReadsLow (q : QueueId G C) : Prop :=
  ∀ g ∈ cfg.path q.tg, s.lowPriority cfg (.group g q.cpu) = true
  deriving Decidable

instance [Fintype T] [Fintype C] : Decidable (s.NormalPrioCounted cfg) :=
  inferInstanceAs (Decidable (∀ _, _ = _))

end State

namespace PrioOp

variable (cfg : Config G C) (s : State T G C)

/-- What the core scheduler guarantees: it dequeues what is queued, and it moves a
task or writes its priority only while the task is off the queue. -/
def Allowed : PrioOp T G C → Prop
  | .fair (.dequeue t _) => (s.se (.task t)).onRq = true
  | .fair (.migrate t _ _) | .setPrio t _ _ => (s.se (.task t)).onRq = false
  | _ => True

/-- The groups that the operation can enqueue or dequeue are read as of low
priority. -/
def GroupsLow : PrioOp T G C → Prop
  | .fair (.enqueue t _ _) | .fair (.dequeue t _) | .fair (.putPrev t _)
  | .setUserNice t _ _ _ => s.ReadsLow cfg (s.taskQueue t)
  | .fair (.throttle q) | .fair (.unthrottle q _) => s.ReadsLow cfg q
  | _ => True

instance (op : PrioOp T G C) : Decidable (op.Allowed s) := by
  unfold PrioOp.Allowed
  split <;> infer_instance

instance (op : PrioOp T G C) : Decidable (op.GroupsLow cfg s) := by
  unfold PrioOp.GroupsLow
  split <;> infer_instance

end PrioOp

namespace Roster

variable (cfg : Config G C) (r : Roster T G C)

/-- The queued tasks of normal priority, and the counters as their totals. -/
def normal : Ledger T C (ZMod (2 ^ 32)) where
  home := fun t => (r.taskQueue t).cpu
  present := fun t => r.onRq (.task t)
  value := fun t => if r.low cfg (.task t) then 0 else 1
  total := fun cpu => ((r.record ⟨none, cpu⟩).nrNormalPrio : ZMod (2 ^ 32))

def CountersFit : Prop := ∀ cpu, (r.record ⟨none, cpu⟩).nrNormalPrio < 2 ^ 32

structure Counted [Fintype T] : Prop where
  balanced : (r.normal cfg).Balanced
  fit : r.CountersFit

def setPrio (e : Entity T G C) (prio : Int) : Roster T G C :=
  { r with prio := update r.prio e prio }

end Roster

section Ledger

variable (cfg : Config G C) {r : Roster T G C}

omit [DecidableEq T] in
lemma modifyRecord_counter (cpu cpu' : C) (f : SchedAvg → SchedAvg) :
    ((r.modifyRecord cpu f).record ⟨none, cpu'⟩).nrNormalPrio = if cpu =
    cpu' then (f (r.record ⟨none, cpu⟩)).nrNormalPrio else (r.record ⟨none, cpu'⟩).nrNormalPrio := by
  rw [Roster.modifyRecord_record, apply_ite SchedAvg.nrNormalPrio]

lemma countEnqueue_counter (low : Bool) (sa : SchedAvg) : ((countEnqueue low sa).nrNormalPrio : ZMod (2 ^ 32)) =
    sa.nrNormalPrio + if low then 0 else 1 := by
  dsimp only [countEnqueue]
  split
  · rw [add_zero]
  · rw [Word.cast_add, Nat.cast_one]

lemma countDequeue_counter (low : Bool) (sa : SchedAvg) : ((countDequeue low sa).nrNormalPrio : ZMod (2 ^ 32)) =
    sa.nrNormalPrio - if low then 0 else 1 := by
  dsimp only [countDequeue]
  split
  · rw [sub_zero]
  · rw [Word.cast_sub, Nat.cast_one]

lemma apply_fit (ev : QueueEvent T G C) (h : r.CountersFit) : (r.apply cfg ev).CountersFit := by
  intro cpu
  cases ev with
  | enqueue e =>
    change ((r.modifyRecord _ _).record ⟨none, cpu⟩).nrNormalPrio < _
    rw [modifyRecord_counter]
    split
    · dsimp only [countEnqueue]
      split
      · exact h _
      · exact Word.wrap_lt 32 _
    · exact h cpu
  | dequeue e =>
    change ((r.modifyRecord _ _).record ⟨none, cpu⟩).nrNormalPrio < _
    rw [modifyRecord_counter]
    split
    · dsimp only [countDequeue]
      split
      · exact h _
      · exact Word.wrap_lt 32 _
    · exact h cpu

/-- A task that comes or goes adjusts the ledger if its counter takes the
difference. -/
lemma taskEvent_adjusts {t : T} {f : SchedAvg → SchedAvg} {on : Bool}
    (hf : ∀ sa, ((f sa).nrNormalPrio : ZMod (2 ^ 32)) =
      sa.nrNormalPrio + ((if on = true then (r.normal cfg).value t else 0) -
        (r.normal cfg).counted t)) : Ledger.Adjusts t (r.normal cfg)
      (((r.modifyRecord (r.cpuOf (.task t)) f).setOnRq (.task t) on).normal cfg) := by
  set r' := (r.modifyRecord (r.cpuOf (.task t)) f).setOnRq (.task t) on with hr'
  have hpresent : (r'.normal cfg).present t = on := update_self ..
  apply Ledger.adjusts_of_difference
  · exact fun _ _ => rfl
  · intro t' ht'
    exact update_of_ne (fun h => ht' (Entity.task.inj h)) _ _
  · exact fun _ _ => rfl
  · rfl
  · intro cpu
    rw [Ledger.counted, hpresent]
    change (((r.modifyRecord _ f).record ⟨none, cpu⟩).nrNormalPrio : ZMod (2 ^ 32)) =
      ((r.record ⟨none, cpu⟩).nrNormalPrio : ZMod (2 ^ 32)) +
        if r.cpuOf (.task t) = cpu then
          (if on = true then (r.normal cfg).value t else 0) - (r.normal cfg).counted t
        else 0
    rw [modifyRecord_counter]
    split
    next h => rw [hf, h]
    · exact (add_zero _).symm

lemma enqueueTask_adjusts {t : T} (hoff : r.onRq (.task t) = false) :
    Ledger.Adjusts t (r.normal cfg) ((r.apply cfg (.enqueue (.task t))).normal cfg) := by
  apply taskEvent_adjusts
  intro sa
  have hcounted : (r.normal cfg).counted t = 0 := if_neg (Bool.eq_false_iff.mp hoff)
  rw [countEnqueue_counter, hcounted, if_pos rfl, sub_zero]
  rfl

lemma dequeueTask_adjusts {t : T} (hon : r.onRq (.task t) = true) :
    Ledger.Adjusts t (r.normal cfg) ((r.apply cfg (.dequeue (.task t))).normal cfg) := by
  apply taskEvent_adjusts
  intro sa
  have hcounted : (r.normal cfg).counted t = (r.normal cfg).value t := if_pos hon
  rw [countDequeue_counter, hcounted, if_neg Bool.false_ne_true, zero_sub, ← sub_eq_add_neg]
  rfl

/-- An event of a group that is read as of low priority counts for nothing. -/
lemma apply_group_normal {ev : QueueEvent T G C} {g : G} {cpu : C} (hev : ev.entity = .group g cpu)
    (hlow : r.low cfg (.group g cpu) = true) : (r.apply cfg ev).normal cfg = r.normal cfg := by
  have hkeeps : ∀ (f : SchedAvg → SchedAvg) (on : Bool), (∀ sa, (f sa).nrNormalPrio = sa.nrNormalPrio) →
      ((r.modifyRecord cpu f).setOnRq (.group g cpu) on).normal cfg = r.normal cfg := by
    intro f on hf
    ext
    · rfl
    · next t =>
      exact update_of_ne (Entity.task_ne_group t g cpu) on r.onRq
    · rfl
    · next cpu' =>
      change (((r.modifyRecord cpu f).record ⟨none, cpu'⟩).nrNormalPrio : ZMod (2 ^ 32)) =
        ((r.record ⟨none, cpu'⟩).nrNormalPrio : ZMod (2 ^ 32))
      rw [modifyRecord_counter]
      split
      next h => rw [hf, h]
      · rfl
  obtain e | e := ev
  · obtain rfl : e = .group g cpu := hev
    rw [Roster.apply, hlow]
    exact hkeeps _ _ fun _ => rfl
  · obtain rfl : e = .group g cpu := hev
    rw [Roster.apply, hlow]
    exact hkeeps _ _ fun _ => rfl

lemma apply_prio (ev : QueueEvent T G C) : (r.apply cfg ev).prio = r.prio := by
  cases ev <;> rfl

lemma low_setPrio {e e' : Entity T G C} (hne : e' ≠ e) {prio : Int} : (r.setPrio e prio).low cfg e' = r.low cfg e' := by
  have hprio : (r.setPrio e prio).prio e' = r.prio e' := by
    dsimp only [Roster.setPrio]
    rw [update_of_ne hne]
  rw [Roster.low, hprio, Roster.low]

variable [Fintype T]

lemma foldl_groups_counted {groups : List G} {cpu : C} {events : List (QueueEvent T G C)}
    (hevents : InGroups groups cpu events) (hlow : ∀ g ∈ groups, r.low cfg (.group g cpu) = true)
    (hr : r.Counted cfg) : (events.foldl (Roster.apply cfg) r).Counted cfg := by
  induction events generalizing r with
  | nil => exact hr
  | cons ev rest ih =>
    obtain ⟨g, hg, hev⟩ := hevents ev mem_cons_self
    rw [foldl_cons]
    refine ih (fun ev' hev' => hevents ev' (mem_cons_of_mem _ hev')) ?_ ?_
    · intro g' hg'
      rw [Roster.low, apply_prio]
      exact hlow g' hg'
    · refine ⟨?_, apply_fit cfg ev hr.fit⟩
      rw [apply_group_normal cfg hev (hlow g hg)]
      exact hr.balanced

omit [DecidableEq G] in
variable {cfg} in
lemma Roster.Counted.adjust {r' : Roster T G C} {t : T} (hr : r.Counted cfg)
    (h : Ledger.Adjusts t (r.normal cfg) (r'.normal cfg)) (hfit : r'.CountersFit) :
    r'.Counted cfg := ⟨h.balanced hr.balanced, hfit⟩

/-- A task event followed by events of groups that are read as of low priority. -/
lemma foldl_task_counted {groups : List G} {cpu : C} {t : T} {ev : QueueEvent T G C}
    {rest : List (QueueEvent T G C)} (htask : Ledger.Adjusts t (r.normal cfg) ((r.apply cfg ev).normal cfg))
    (hrest : InGroups groups cpu rest) (hlow : ∀ g ∈ groups, r.low cfg (.group g cpu) = true) (hr : r.Counted cfg) :
    ((ev :: rest).foldl (Roster.apply cfg) r).Counted cfg := by
  rw [foldl_cons]
  apply foldl_groups_counted cfg hrest
  · intro g hg
    rw [Roster.low, apply_prio]
    exact hlow g hg
  · exact hr.adjust htask (apply_fit cfg ev hr.fit)

omit [DecidableEq G] in
/-- A task that is off the queue can be moved. -/
lemma relocate_counted {t : T} (hoff : r.onRq (.task t) = false) (cpu : C)
    (hr : r.Counted cfg) : (r.relocate t cpu).Counted cfg := by
  have hadjusts : Ledger.Adjusts t (r.normal cfg) ((r.relocate t cpu).normal cfg) := by
    apply Ledger.adjusts_of_absent
    · intro t' ht'
      exact congrArg QueueId.cpu (update_of_ne ht' _ _)
    · exact fun _ _ => rfl
    · exact fun _ _ => rfl
    · exact hoff
    · exact hoff
    · exact fun _ => rfl
  exact hr.adjust hadjusts hr.fit

/-- A task that is off the queue can change its priority. -/
lemma setPrio_counted {t : T} (hoff : r.onRq (.task t) = false) (prio : Int)
    (hr : r.Counted cfg) : (r.setPrio (.task t) prio).Counted cfg := by
  have hadjusts : Ledger.Adjusts t (r.normal cfg) ((r.setPrio (.task t) prio).normal cfg) := by
    apply Ledger.adjusts_of_absent
    · exact fun _ _ => rfl
    · exact fun _ _ => rfl
    · intro t' ht'
      dsimp only [Roster.normal]
      rw [low_setPrio cfg fun h => ht' (Entity.task.inj h)]
    · exact hoff
    · exact hoff
    · exact fun _ => rfl
  exact hr.adjust hadjusts hr.fit

lemma groupMemory_counted (g : G) (cpu : C) (prio : Int) (hr : r.Counted cfg) :
    (r.setPrio (.group g cpu) prio).Counted cfg := by
  have hnormal : (r.setPrio (.group g cpu) prio).normal cfg = r.normal cfg := by
    have hlow : ∀ t, (r.setPrio (.group g cpu) prio).low cfg (.task t) = r.low cfg (.task t) :=
      fun t => low_setPrio cfg (Entity.task_ne_group t g cpu)
    simp only [Roster.normal, hlow]
    rfl
  refine ⟨?_, hr.fit⟩
  rw [hnormal]
  exact hr.balanced

end Ledger

section Steps

variable {cfg : Config G C} {s : State T G C}

lemma Performs.onRq_task_of_drops {t : State T G C} {task : T} {groups : List G} {cpu : C}
    {rest : List (QueueEvent T G C)} (h : Performs cfg s (.dequeue (.task task) :: rest) t)
    (hrest : Drops groups cpu rest) : (t.se (.task task)).onRq = false := by
  have hfold : ∀ (events : List (QueueEvent T G C)) (r : Roster T G C), Drops groups cpu events →
      (events.foldl (Roster.apply cfg) r).onRq (.task task) = r.onRq (.task task) := by
    intro events
    induction events with
    | nil => exact fun _ _ => rfl
    | cons ev events ih =>
      intro r hevents
      obtain ⟨g, -, rfl⟩ := hevents ev mem_cons_self
      rw [foldl_cons, ih _ fun ev' hev' => hevents ev' (mem_cons_of_mem _ hev')]
      exact update_of_ne (Entity.task_ne_group task g cpu) false r.onRq
  have honRq := congrArg (fun r => r.onRq (.task task)) h
  exact honRq.trans ((hfold rest _ hrest).trans (update_self ..))

lemma foldl_apply_prio (events : List (QueueEvent T G C)) (r : Roster T G C) :
    (events.foldl (Roster.apply cfg) r).prio = r.prio := by
  induction events generalizing r with
  | nil => rfl
  | cons ev rest ih => rw [foldl_cons, ih, apply_prio]

lemma State.setPrio_roster (t : T) (prio : Int) (weight : Nat) :
    (s.setPrio t prio weight).roster = s.roster.setPrio (.task t) prio :=
  congrArg (fun r => r.setPrio (.task t) prio) ((modifySe_calm s (.task t) rfl).roster)

/-- The groups are read the same after events and a change of a task's priority. -/
lemma ReadsLow.setPrio {off : State T G C} {events : List (QueueEvent T G C)}
    {q : QueueId G C} (hlow : s.ReadsLow cfg q) (h : Performs cfg s events off) (t : T)
    (prio : Int) (weight : Nat) : (off.setPrio t prio weight).ReadsLow cfg q := by
  intro g hg
  change (off.setPrio t prio weight).roster.low cfg (.group g q.cpu) = true
  rw [setPrio_roster, low_setPrio cfg (Entity.task_ne_group t g q.cpu).symm, Roster.low, h, foldl_apply_prio]
  exact hlow g hg

variable [Fintype T]

lemma classStep_counted (op : ClassOp T G C)
    (hallowed : (PrioOp.fair op).Allowed s) (hlow : (PrioOp.fair op).GroupsLow cfg s)
    (hs : s.roster.Counted cfg) : (s.classStep cfg op).roster.Counted cfg := by
  obtain ⟨events, hperforms, hshape⟩ := classStep_performs cfg s op
  rw [hperforms]
  cases op with
  | enqueue t wakeup spent =>
    dsimp only [ClassOp.Shape] at hshape
    split at hshape
    · rwa [hshape]
    next hoff =>
      obtain ⟨rest, rfl, hrest⟩ := hshape
      exact foldl_task_counted cfg (enqueueTask_adjusts cfg (Bool.eq_false_iff.mpr hoff)) hrest hlow hs
  | dequeue t sleep =>
    obtain ⟨rest, rfl, hrest⟩ := hshape
    exact foldl_task_counted cfg (dequeueTask_adjusts cfg hallowed) hrest.inGroups hlow hs
  | putPrev t spent | throttle q =>
    exact foldl_groups_counted cfg (Drops.inGroups hshape) hlow hs
  | unthrottle q spent => exact foldl_groups_counted cfg hshape.1 hlow hs
  | migrate t cpu nohz =>
    obtain rfl : events = [] := hshape
    exact relocate_counted (r := s.roster) (t := t) cfg hallowed cpu hs
  | tick t | pickNext t | clock cpu clockTask | idle cpu entering =>
    obtain rfl : events = [] := hshape
    exact hs

/-- A queued task is taken off, gets its priority and is put back. -/
lemma setUserNice_counted {t : T} {prio : Int} {weight : Nat}
    {spent : QueueId G C → Bool} (hlow : s.ReadsLow cfg (s.taskQueue t))
    (hs : s.roster.Counted cfg) : (s.setUserNice cfg t prio weight spent).roster.Counted cfg := by
  rw [setUserNice]
  split
  next hon =>
    obtain ⟨rest, hperforms, hdrops⟩ := dequeueTaskFair_performs cfg s t false
    have hcounted := classStep_counted (.dequeue t false) hon hlow hs
    have hoff := hperforms.onRq_task_of_drops hdrops
    have hreads := ReadsLow.setPrio hlow hperforms t prio weight
    rw [← hperforms.taskQueue] at hreads
    refine classStep_counted (.enqueue t false spent) trivial hreads ?_
    rw [setPrio_roster]
    exact setPrio_counted cfg hoff prio hcounted
  next hoff =>
    rw [setPrio_roster]
    exact setPrio_counted cfg (Bool.eq_false_iff.mpr hoff) prio hs

lemma prioStep_counted {op : PrioOp T G C} (hallowed : op.Allowed s) (hlow : op.GroupsLow cfg s)
    (hs : s.roster.Counted cfg) : (s.prioStep cfg op).roster.Counted cfg := by
  cases op with
  | fair op => exact classStep_counted op hallowed hlow hs
  | setUserNice t prio weight spent => exact setUserNice_counted hlow hs
  | setPrio t prio weight =>
    rw [prioStep, setPrio_roster]
    exact setPrio_counted (r := s.roster) (t := t) cfg hallowed prio hs
  | groupMemory g cpu prio => exact groupMemory_counted cfg g cpu prio hs

omit [DecidableEq T] [DecidableEq G] in
/-- A balanced ledger of counters that fit is the count itself. -/
lemma Roster.Counted.normalPrioCounted (hs : s.roster.Counted cfg) : s.NormalPrioCounted cfg := by
  intro cpu
  have hsum := hs.balanced cpu
  have hvalue : ∀ t, (s.roster.normal cfg).value t =
      if s.lowPriority cfg (.task t) = false then 1 else 0 := by
    intro t
    change (if s.lowPriority cfg (.task t) = true then 0 else 1) = _
    cases s.lowPriority cfg (.task t) with
    | true => rw [if_pos rfl, if_neg Bool.true_eq_false.mp]
    | false => rw [if_neg Bool.false_ne_true, if_pos rfl]
  rw [Finset.sum_congr rfl fun t _ => hvalue t, Finset.sum_boole, Finset.filter_filter] at hsum
  have hmod := (ZMod.natCast_eq_natCast_iff' _ _ _).mp hsum
  rw [Nat.mod_eq_of_lt (hs.fit cpu)] at hmod
  simp only [and_assoc] at hmod
  exact hmod

omit [DecidableEq T] [DecidableEq G] in
lemma boot_counted (start : Start T G C) : (boot start).roster.Counted cfg := by
  refine ⟨?_, ?_⟩
  · intro cpu
    refine Nat.cast_zero.trans (Finset.sum_eq_zero fun t ht => ?_).symm
    exact absurd (Finset.mem_filter.mp ht).2.1 Bool.false_ne_true
  · intro cpu
    exact Nat.two_pow_pos 32

/-- As long as the groups that are enqueued and dequeued are read as of low priority, every counter
is the number of queued tasks of normal priority. -/
theorem normal_prio_counted (cfg : Config G C) (start : Start T G C) (ops : List (PrioOp T G C))
    (hops : Run.Each (prioStep cfg) (fun s op => op.Allowed s ∧ op.GroupsLow cfg s) (boot start) ops) :
    Run.Always (prioStep cfg) (fun s => s.NormalPrioCounted cfg) (boot start) ops := by
  have hinv : Run.Always (prioStep cfg) (fun s => s.roster.Counted cfg) (boot start) ops :=
    Run.always_of_each (fun s op hs hop => prioStep_counted hop.1 hop.2 hs) (boot_counted start) hops
  exact hinv.mono fun s hs => hs.normalPrioCounted

/-- A normal and a low task in a group that reads as low: they are queued, the group
is throttled and unthrottled, both change their priority and the first one sleeps. -/
theorem normal_prio_counted_two_tasks :
    let cfg : Config Unit Unit := { cpuId := fun _ => 0, bandwidthUsed := true }
    Run.Always (prioStep cfg) (fun s => s.NormalPrioCounted cfg)
      (boot { taskQueue := fun _ : Bool => ⟨some (), ()⟩, prio := fun e => if e = .task true then 120 else 130 })
      [.fair (.clock () 5000000), .fair (.enqueue true true fun _ => false),
       .fair (.enqueue false true fun _ => false), .fair (.throttle ⟨some (), ()⟩),
       .setUserNice false 110 4096 fun _ => false,
       .fair (.unthrottle ⟨some (), ()⟩ fun _ => false),
       .setUserNice true 139 15 fun _ => false, .groupMemory () () 139, .fair (.dequeue true true)] :=
  normal_prio_counted _ _ _ (by decide +kernel)

/-- A single task of normal priority in a group. The word that is read as the
priority of the group is zero, and the counter becomes two. -/
theorem normal_prio_counts_group :
    let cfg : Config Unit Unit := { cpuId := fun _ => 0 }
    let s : State Unit Unit Unit := [PrioOp.fair (.enqueue () true fun _ => false)].foldl
      (prioStep cfg) (boot { taskQueue := fun _ => ⟨some (), ()⟩, prio := fun e => if e = .task () then 120 else 0 })
    (s.cfs ⟨none, ()⟩).avg.nrNormalPrio = 2 ∧ ¬ s.NormalPrioCounted cfg := by
  decide +kernel

end Steps

end BigLittle.Cfs
