import BigLittle.Cfs.CountWalks

/-!
# `h_nr_running` over whole runs

Between operations of the fair class the counts are right everywhere, so the walks
of all operations can start. The counts are words, and right in the ring of their
words at first; a queue never counts more tasks than there are below it, so they are
right as numbers too.
-/

namespace BigLittle.Cfs

open Finset State

variable {T G C : Type*} {cfg : Config G C} {s t : State T G C} {place : Place G C}

/-- What the callers guarantee. `enqueue_task` and `dequeue_task` follow `p->on_rq`,
`set_task_cpu` is called for tasks off the queue, `throttle_cfs_rq` after the tests of
`check_cfs_rq_runtime`, and `unthrottle_cfs_rq` for throttled queues. -/
def ClassOp.Allowed (cfg : Config G C) (s : State T G C) : ClassOp T G C → Prop
  | .enqueue t _ _ => (s.se (.task t)).onRq = false
  | .dequeue t _ => (s.se (.task t)).onRq = true
  | .migrate t _ _ => (s.se (.task t)).onRq = false
  | .throttle q =>
    cfg.bandwidthUsed = true ∧ (s.cfs q).runtimeEnabled = true ∧ (s.cfs q).throttled = false
  | .unthrottle q _ => (s.cfs q).throttled = true
  | _ => True

instance (cfg : Config G C) (s : State T G C) (op : ClassOp T G C) : Decidable (op.Allowed cfg s) := by
  cases op <;> dsimp only [ClassOp.Allowed] <;> infer_instance

variable [Fintype T] [DecidableEq G] [DecidableEq C]

/-- The tasks of the group of a queue and of the groups below, on its CPU. -/
def State.tasksBelow (cfg : Config G C) (s : State T G C) (q : QueueId G C) :
    Finset T := {t | below cfg q (s.taskQueue t) = true}

lemma mem_tasksBelow {tg : Option G} {cpu : C} {task : T} : task ∈ s.tasksBelow cfg ⟨tg, cpu⟩ ↔
    (s.taskQueue task).cpu = cpu ∧ ∀ g, tg = some g → g ∈ cfg.path (s.taskQueue task).tg := by
  rw [tasksBelow, mem_filter_univ, below, Bool.and_eq_true, decide_eq_true_iff]
  cases tg with
  | none => simp
  | some g => simp

lemma mem_tasksBelow_self {task : T} {q : QueueId G C} (htask : s.taskQueue task = q) : task ∈ s.tasksBelow cfg q := by
  obtain ⟨tg, cpu⟩ := q
  rw [mem_tasksBelow, htask]
  refine ⟨rfl, ?_⟩
  rintro g rfl
  rw [cfg.path_some]
  exact List.mem_cons_self

/-- The tasks below a child are below the group. -/
lemma tasksBelow_subset (g : G) (cpu : C) : s.tasksBelow cfg ⟨some g, cpu⟩ ⊆ s.tasksBelow cfg ⟨cfg.parent g, cpu⟩ := by
  intro task htask
  rw [mem_tasksBelow] at htask ⊢
  exact ⟨htask.1, fun p hp => cfg.parent_mem_path (htask.2 g rfl) hp⟩

/-- They are not tasks of the group itself. -/
lemma taskQueue_ne_of_mem_tasksBelow {g : G} {cpu : C} {task : T}
    (htask : task ∈ s.tasksBelow cfg ⟨some g, cpu⟩) : s.taskQueue task ≠ ⟨cfg.parent g, cpu⟩ := by
  intro heq
  rw [mem_tasksBelow, heq] at htask
  refine cfg.not_mem_ancestors_self (cfg.parent g) ?_
  rw [Hierarchy.ancestors, List.mem_map]
  exact ⟨g, htask.2 g rfl, rfl⟩

/-- The subtrees of siblings have no task in common. -/
lemma tasksBelow_disjoint {g g' : G} (cpu : C) (hparent : cfg.parent g = cfg.parent g')
    (hne : g ≠ g') : Disjoint (s.tasksBelow cfg ⟨some g, cpu⟩) (s.tasksBelow cfg ⟨some g', cpu⟩) := by
  rw [disjoint_left]
  intro task htask htask'
  rw [mem_tasksBelow] at htask htask'
  exact hne (cfg.eq_of_parent_eq (htask.2 g rfl) (htask'.2 g' rfl) hparent)

variable [Fintype G]

/-- What a queue should count: the tasks queued on it, and what the queues of the group
entities queued on it count. -/
def State.queuedTasks (cfg : Config G C) (s : State T G C) (q : QueueId G C) : Nat :=
  ({t | (s.se (.task t)).onRq = true ∧ s.taskQueue t = q} : Finset T).card +
    ∑ g with (s.se (.group g q.cpu)).onRq = true ∧ cfg.parent g = q.tg, (s.cfs ⟨some g, q.cpu⟩).hNrRunning

variable [DecidableEq T] in
/-- If no queue counts more than it should, none counts more than the tasks below it. -/
lemma queuedTasks_le (hle : ∀ q, (s.cfs q).hNrRunning ≤ s.queuedTasks cfg q)
    (q : QueueId G C) : s.queuedTasks cfg q ≤ (s.tasksBelow cfg q).card := by
  obtain ⟨tg, cpu⟩ := q
  induction tg using cfg.downInduction with
  | step tg ih =>
    let direct : Finset T := {t | (s.se (.task t)).onRq = true ∧ s.taskQueue t = ⟨tg, cpu⟩}
    let children : Finset G := {g | (s.se (.group g cpu)).onRq = true ∧ cfg.parent g = tg}
    let below : Finset T := children.biUnion fun g => s.tasksBelow cfg ⟨some g, cpu⟩
    have hparent : ∀ g ∈ children, cfg.parent g = tg := fun g hg => (mem_filter_univ g |>.mp hg).2
    have hsum : ∑ g ∈ children, (s.cfs ⟨some g, cpu⟩).hNrRunning ≤ below.card := by
      rw [card_biUnion fun g hg g' hg' hne =>
        tasksBelow_disjoint cpu ((hparent g hg).trans (hparent g' hg').symm) hne]
      exact sum_le_sum fun g hg => (hle _).trans (ih g (hparent g hg))
    have hdisjoint : Disjoint direct below := by
      rw [disjoint_left]
      intro task hdirect hbelow
      obtain ⟨g, hg, htask⟩ := mem_biUnion.mp hbelow
      refine taskQueue_ne_of_mem_tasksBelow htask ?_
      rw [hparent g hg]
      exact (mem_filter_univ task |>.mp hdirect).2
    have hsubset : direct ∪ below ⊆ s.tasksBelow cfg ⟨tg, cpu⟩ := by
      refine union_subset (fun task hdirect => ?_) (biUnion_subset.mpr fun g hg => ?_)
      · exact mem_tasksBelow_self (mem_filter_univ task |>.mp hdirect).2
      · rw [← hparent g hg]
        exact tasksBelow_subset g cpu
    calc s.queuedTasks cfg ⟨tg, cpu⟩ = direct.card + ∑ g ∈ children, (s.cfs ⟨some g, cpu⟩).hNrRunning := rfl
      _ ≤ direct.card + below.card := Nat.add_le_add_left hsum _
      _ = (direct ∪ below).card := (card_union_of_disjoint hdisjoint).symm
      _ ≤ (s.tasksBelow cfg ⟨tg, cpu⟩).card := card_le_card hsubset

/-- The counts are those of the tasks, and a throttled queue is not counted above. -/
structure TasksCounted (cfg : Config G C) (s : State T G C) : Prop where
  hNrRunning : ∀ q, (s.cfs q).hNrRunning = s.queuedTasks cfg q
  throttled : ∀ g cpu, (s.cfs ⟨some g, cpu⟩).throttled = true → (s.se (.group g cpu)).onRq = false
  nrRunning : ∀ cpu, (s.rq cpu).nrRunning = (s.cfs ⟨none, cpu⟩).hNrRunning

variable [Fintype C]

lemma queued_roll (cfg : Config G C) (s : State T G C) (q : QueueId G C) :
    s.roll.queued cfg.toHierarchy q = ((s.queuedTasks cfg q : Nat) : ZMod (2 ^ 32)) := by
  obtain ⟨tg, cpu⟩ := q
  rw [Roll.queued_eq, Entity.sum_eq, queuedTasks, Nat.cast_add, natCast_card_filter,
    Nat.cast_sum, sum_filter, Fintype.sum_prod_type]
  congr 1
  refine sum_congr rfl fun g _ => ?_
  rw [sum_eq_single cpu]
  · refine if_congr (and_congr_right fun _ => ?_) rfl rfl
    simp [Roll.queueOf]
  · intro cpu' _ hne
    refine if_neg fun h => hne ?_
    exact congrArg QueueId.cpu h.2
  · exact fun h => absurd (mem_univ cpu) h

/-- A machine as it starts: weights and shares in their range, no limit on the root
group, and no more entities than an `unsigned int` counts. -/
structure Boot (T G C : Type*) [Fintype T] [Fintype G] [Fintype C] extends Start T G C where
  weight : ∀ t, 0 < (tasks t).weight ∧ (tasks t).weight ≤ maxShares
  shares : ∀ g, 0 < (groups g).shares ∧ (groups g).shares ≤ maxShares
  root : ∀ cpu, runtimeEnabled ⟨none, cpu⟩ = false
  few : Few T G C

def Boot.state (boot : Boot T G C) : State T G C := .boot boot.toStart

lemma Boot.counted (cfg : Config G C) (boot : Boot T G C) (place : Place G C) : Counted cfg boot.state [] place 0 := by
  have hoff : ∀ e, boot.state.roll.onRq e = false := State.boot_onRq boot.toStart
  have hplain : Plain boot.state := by
    refine ⟨fun e => ?_, boot.shares, boot.root, fun _ => Nat.two_pow_pos 32, fun _ => Nat.two_pow_pos 32⟩
    cases e with
    | task t => exact boot.weight t
    | group g cpu =>
      have hweight : (boot.state.se (.group g cpu)).weight = 1024 := rfl
      rw [hweight]
      decide
  have hempty : ∀ q, ¬ boot.state.roll.Occupied cfg.toHierarchy q := by
    rintro q ⟨e, hon, -⟩
    exact Bool.false_ne_true ((hoff e).symm.trans hon)
  refine ⟨⟨boot_weightsBalanced .., hplain⟩, fun g cpu _ => ?_, ?_, fun _ => rfl, fun _ => nofun⟩
  · rw [Roll.SettledAt, hoff]
    exact iff_of_false Bool.false_ne_true fun h => hempty _ h.1
  · rw [Pi.single_zero]
    funext place
    cases place with
    | queue q =>
      rw [Roll.gap, Roll.queued_of_not_occupied (hempty q), sub_zero]
      exact Nat.cast_zero
    | cpu cpu => exact sub_self _

variable [DecidableEq T]

lemma Counted.tasksCounted (hs : ∀ place, Counted cfg s [] place 0) (hfew : Few T G C) : TasksCounted cfg s := by
  have hgap : ∀ place, s.roll.gap cfg.toHierarchy place = 0 := by
    intro place
    rw [(hs place).gap, Pi.single_zero]
    rfl
  have hwrap : ∀ q, (s.cfs q).hNrRunning = Word.wrap 32 (s.queuedTasks cfg q) := by
    intro q
    refine eq_wrap_of_cast ((hs (.queue q)).sane.2.hNrRunning q) ?_
    rw [← queued_roll]
    exact Roll.hNrRunning_of_gap (hgap (.queue q))
  have hle := queuedTasks_le fun q => (hwrap q).trans_le (Word.wrap_le 32 _)
  refine ⟨fun q => ?_, fun g cpu hthrottled => ?_, fun cpu => ?_⟩
  · rw [hwrap q]
    exact Word.wrap_of_lt ((hle q).trans_lt ((card_le_univ _).trans_lt hfew.card_task))
  · exact (hs (.cpu cpu)).carried_of_throttled hthrottled
  · have hcast : (((s.rq cpu).nrRunning : Nat) : ZMod (2 ^ 32)) =
        (((s.cfs ⟨none, cpu⟩).hNrRunning : Nat) : ZMod (2 ^ 32)) := sub_eq_zero.mp (hgap (.cpu cpu))
    rw [eq_wrap_of_cast ((hs (.cpu cpu)).sane.2.nrRunning cpu) hcast]
    exact Word.wrap_of_lt ((hs (.cpu cpu)).sane.2.hNrRunning _)

section

variable (hs : Counted cfg s [] place 0)
include hs

lemma Counted.checkCfsRqRuntime (hfew : Few T G C) (q : QueueId G C) (spent : QueueId G C → Bool) :
    Counted cfg (s.checkCfsRqRuntime cfg q spent) [] place 0 := by
  dsimp only [State.checkCfsRqRuntime]
  split
  next hguard =>
    obtain ⟨tg, cpu⟩ := q
    cases tg with
    | none => exact absurd ((hs.sane.2.root cpu).symm.trans hguard.2.1) Bool.false_ne_true
    | some g => exact hs.throttleCfsRq hfew g cpu hguard.1
  next => exact hs

lemma Counted.updateEntityLoadAvg (e : Entity T G C) : Counted cfg (s.updateEntityLoadAvg cfg e true) [] place 0 :=
  hs.quiet ((sane_keeps cfg).updateEntityLoadAvg s e hs.sane)
    (roll_of_bare (updateEntityLoadAvg_quiet cfg s e true).bare)

lemma Counted.setCurr (q : QueueId G C) (curr : Option (Entity T G C)) :
    Counted cfg (s.modifyCfs q fun c => { c with curr := curr }) [] place 0 :=
  hs.quiet ((sane_keeps cfg).walks.setCurr _ q curr hs.sane) (modifyCfs_roll s q rfl rfl)

lemma Counted.entityTick (e : Entity T G C) : Counted cfg (s.entityTick cfg e) [] place 0 := by
  refine hs.quiet ((sane_keeps cfg).walks.entityTick e hs.sane) ?_
  rw [State.entityTick, updateCfsShares_roll, roll_of_bare (updateCfsRqBlockedLoad_quiet ..).bare,
    roll_of_bare (updateEntityLoadAvg_quiet ..).bare]

lemma Counted.setNextEntity (e : Entity T G C) : Counted cfg (s.setNextEntity cfg e) [] place 0 := by
  rw [State.setNextEntity]
  refine Counted.setCurr ?_ _ _
  split
  · exact hs.updateEntityLoadAvg e
  · exact hs

lemma Counted.putPrevEntity (hfew : Few T G C) (e : Entity T G C) (spent : QueueId G C → Bool) :
    Counted cfg (s.putPrevEntity cfg e spent) [] place 0 := by
  have hchecked := hs.checkCfsRqRuntime hfew (s.cfsRqOf cfg e) spent
  rw [State.putPrevEntity]
  refine Counted.setCurr ?_ _ _
  split
  · exact hchecked.updateEntityLoadAvg e
  · exact hchecked

lemma Counted.updateRqClock (cpu : C) (clockTask : Nat) : Counted cfg (s.updateRqClock cpu clockTask) [] place 0 := by
  refine hs.quiet ((sane_keeps cfg).updateRqClock cpu clockTask hs.sane) ?_
  exact roll_congr rfl (fun _ => rfl) (fun _ => ⟨rfl, rfl⟩) (modifyRq_keeps Rq.nrRunning rfl)

end

lemma Counted.migrateTask (hs : Counted cfg s [] place 0) {task : T} (hoff : (s.se (.task task)).onRq = false)
    (cpu : C) (nohz : Option Nat) : Counted cfg (s.migrateTask task cpu nohz) [] place 0 := by
  have hroll := migrateTask_roll s task cpu nohz
  refine ⟨(sane_keeps cfg).migrateTask s task cpu nohz hoff hs.sane, ?_, ?_, ?_, ?_⟩
  all_goals rw [hroll]
  · exact hs.settled.setTaskQueue hoff _
  · rw [Roll.gap_setTaskQueue hoff, hs.gap]
  · exact hs.root
  · exact hs.limited

/-- Every operation of the class keeps the counts. -/
lemma Counted.classStep (hs : Counted cfg s [] place 0) (hfew : Few T G C) {op : ClassOp T G C}
    (hop : op.Allowed cfg s) : Counted cfg (s.classStep cfg op) [] place 0 := by
  cases op with
  | enqueue task wakeup spent => exact hs.enqueueTaskFair hfew hop wakeup spent
  | dequeue task sleep => exact hs.dequeueTaskFair hfew hop sleep
  | tick task =>
    refine Counted.updateRqRunnableAvg ?_ _ _
    exact Run.foldl_of_step (P := fun s => Counted cfg s [] place 0) (fun _ e hs => hs.entityTick e) hs
  | pickNext task =>
    exact Run.foldl_of_step (P := fun s => Counted cfg s [] place 0) (fun _ e hs => hs.setNextEntity e) hs
  | putPrev task spent =>
    exact Run.foldl_of_step (P := fun s => Counted cfg s [] place 0) (fun _ e hs => hs.putPrevEntity hfew e spent) hs
  | migrate task cpu nohz => exact hs.migrateTask hop cpu nohz
  | clock cpu clockTask => exact hs.updateRqClock cpu clockTask
  | idle cpu entering => exact hs.updateRqRunnableAvg cpu entering
  | throttle q =>
    obtain ⟨tg, cpu⟩ := q
    cases tg with
    | none => exact absurd ((hs.sane.2.root cpu).symm.trans hop.2.1) Bool.false_ne_true
    | some g => exact hs.throttleCfsRq hfew g cpu hop.1
  | unthrottle q spent => exact hs.unthrottleCfsRq hfew hop spent

/-- Between operations every queue counts the tasks queued on it and below it, a throttled queue's
entity is off, and every CPU counts what its root queue counts. -/
theorem tasks_counted (cfg : Config G C) (boot : Boot T G C) (ops : List (ClassOp T G C))
    (hallowed : Run.Each (classStep cfg) (ClassOp.Allowed cfg) boot.state ops) :
    Run.Always (classStep cfg) (TasksCounted cfg) boot.state ops := by
  have hinv := Run.always_of_each (P := fun s : State T G C => ∀ place, Counted cfg s [] place 0)
    (fun s op hs hop place => (hs place).classStep boot.few hop) (boot.counted cfg) hallowed
  exact hinv.mono fun s hs => Counted.tasksCounted hs boot.few

/-- One task in the inner of two groups that both have a limit. -/
def nestedBoot : Boot Unit Bool Unit where
  taskQueue _ := ⟨some true, ()⟩
  runtimeEnabled q := q.tg.isSome
  weight := by decide
  shares := by decide
  root _ := rfl
  few := by
    rw [Few]
    decide

/-- The inner group is throttled, the task is queued behind it, comes up when the group
is unthrottled, and leaves. -/
theorem tasks_counted_nested_groups :
    Run.Always (classStep nestedGroups) (TasksCounted nestedGroups) nestedBoot.state
      [.throttle ⟨some true, ()⟩, .enqueue () false fun _ => false,
        .unthrottle ⟨some true, ()⟩ fun _ => false, .dequeue () true] :=
  tasks_counted nestedGroups nestedBoot _ (by decide +kernel)

end BigLittle.Cfs
