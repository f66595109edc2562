import BigLittle.Sched.Bounds

/-!
# The record of a newly forked task

`__sched_fork` finds a copy of the parent's record in the child and resets part
of it. What it does not reset is the parent's `usage_avg_sum`, `load_avg_ratio`
and `load_avg_contrib`, unless the fork boost overwrites them.

Afterwards the record is changed by four operations: a load update, an enqueue
(which stamps or synchronises it first), a dequeue and a migration while asleep.
`wake_up_new_task` is a migration, when it picks another CPU, and an enqueue.
-/

namespace BigLittle.Sched

open Word (add add_of_lt mul mul_le wrap wrap_le)

/-- `prio_to_weight`, from nice -20 to nice 19. -/
def prioToWeight : List Nat :=
  [88761, 71755, 56483, 46273, 36291, 29154, 23254, 18705, 14949, 11916,
   9548, 7620, 6100, 4904, 3906, 3121, 2501, 1991, 1586, 1277,
   1024, 820, 655, 526, 423, 335, 272, 215, 172, 137,
   110, 87, 70, 56, 45, 36, 29, 23, 18, 15]

/-- `hmp_task_should_forkboost`, from the PID of the task's parent if it has one. -/
def hmpTaskShouldForkboost (parentPid : Option Int) : Bool :=
  match parentPid with
  | none => false
  | some pid => decide (2 < pid)

variable (sa : SchedAvg)

/-- The load-tracking part of `__sched_fork`. `sa` is the copy of the parent's
record and `weight` the load weight copied with it. -/
def schedFork (parentPid : Option Int) (weight : Nat) : SchedAvg :=
  let sa := { sa with
    runnableAvgPeriod := 0
    runnableAvgSum := 0
    hmpLastUpMigration := 0
    hmpLastDownMigration := 0 }
  if hmpTaskShouldForkboost parentPid then
    { sa with
      loadAvgRatio := 1023
      loadAvgContrib := mul 64 1023 weight
      runnableAvgPeriod := loadAvgMax
      runnableAvgSum := loadAvgMax
      usageAvgSum := loadAvgMax }
  else sa

def hmpTaskStarvation : Nat :=
  wrap 32 (mul 64 sa.usageAvgSum nice0Load) / add 32 sa.runnableAvgSum 1

/-- `update_entity_load_avg` on a task's record: contribution and ratio are
re-estimated only when a period boundary was crossed. -/
def SchedAvg.updateTask (weight : Nat) (u : LoadUpdate) : SchedAvg :=
  let (sa, decayed) := updateEntityRunnableAvg u.env u.now sa u.runnable u.running u.cpu
  if decayed then (sa.updateTaskEntityContrib weight).updateTaskEntityRatio else sa

/-- The operations on a task's record. An enqueue reads the clock and the decay
counter of its queue, and its update finds the entity off the queue. -/
inductive TaskOp where
  | load (u : LoadUpdate)
  | enqueue (clock decayCounter : Nat) (wakeup : Bool) (u : LoadUpdate)
  | dequeue (decayCounter : Nat) (sleep : Bool) (u : LoadUpdate)
  | migrate (decayCounter : Nat)

/-- The record part of `enqueue_entity_load_avg`. -/
def SchedAvg.enqueueTask (weight clock decayCounter : Nat) (wakeup : Bool) (u : LoadUpdate) : SchedAvg :=
  if sa.decayCount ≤ 0 then
    let stamped := sa.enqueueStamp clock
    if sa.decayCount ≠ 0 then { stamped.updateTask weight u with decayCount := 0 } else stamped
  else
    let synchronized := (sa.synchronizeEntityDecay decayCounter).1
    if wakeup then synchronized.updateTask weight u else synchronized

/-- The record part of `dequeue_entity_load_avg`. -/
def SchedAvg.dequeueTask (weight decayCounter : Nat) (sleep : Bool) (u : LoadUpdate) : SchedAvg :=
  let sa := sa.updateTask weight u
  if sleep then { sa with decayCount := Word.toSigned 64 (wrap 64 decayCounter) } else sa

def SchedAvg.taskStep (weight : Nat) (sa : SchedAvg) : TaskOp → SchedAvg
  | .load u => sa.updateTask weight u
  | .enqueue clock decayCounter wakeup u =>
    sa.enqueueTask weight clock decayCounter wakeup u
  | .dequeue decayCounter sleep u => sa.dequeueTask weight decayCounter sleep u
  | .migrate decayCounter => sa.migrateTaskRq decayCounter

/-- The load update an operation performs, with the record it performs it on. -/
def SchedAvg.taskUpdate : TaskOp → Option (SchedAvg × LoadUpdate)
  | .load u => some (sa, u)
  | .enqueue clock decayCounter wakeup u =>
    if sa.decayCount ≤ 0 then
      if sa.decayCount ≠ 0 then some (sa.enqueueStamp clock, u) else none
    else if wakeup then some ((sa.synchronizeEntityDecay decayCounter).1, u) else none
  | .dequeue _ _ u => some (sa, u)
  | .migrate _ => none

/-- Whether that update crosses a period boundary, so that the contribution and
the ratio are computed anew. -/
def SchedAvg.reestimates (op : TaskOp) : Bool :=
  match sa.taskUpdate op with
  | none => false
  | some (before, u) =>
    (updateEntityRunnableAvg u.env u.now before u.runnable u.running u.cpu).2

section Usage

variable {sa : SchedAvg} {env : LoadEnv} {runnable running : Bool} {cpu : Int} {delta : Nat}

/-- Time spent running is also charged as runnable, and both sums decay alike. -/
lemma elapse_usage_le_sum (hord : sa.Ordered) (hscale : ∀ scale, env.currScale cpu = some scale → scale ≤ 1024)
    (hflags : running = true → runnable = true) (h : sa.usageAvgSum ≤ sa.runnableAvgSum) :
    (sa.elapse env runnable running cpu delta).1.usageAvgSum ≤
    (sa.elapse env runnable running cpu delta).1.runnableAvgSum := by
  have hfits : ∀ a ∈ sa.accruals env runnable running cpu delta, a.before.runnableAvgSum + a.scaled < 2 ^ 32 := by
    intro a ha
    obtain ⟨hsum, hscaled, hle⟩ := hord.accrual hscale ha
    omega
  by_cases hcross : sa.crosses delta = true
  · rw [SchedAvg.accruals, if_pos hcross] at hfits
    rw [SchedAvg.elapse, if_pos hcross]
    simp only [List.forall_mem_cons] at hfits
    obtain ⟨hfirst, hsecond, hthird, _⟩ := hfits
    have hage : (sa.age env runnable running cpu delta).usageAvgSum ≤
        (sa.age env runnable running cpu delta).runnableAvgSum :=
      decay_usage_le_sum (accrue_usage_le_sum h hflags hfirst) (accrue_sum_lt hfirst)
    exact accrue_usage_le_sum (accrue_usage_le_sum hage hflags hsecond) hflags hthird
  · rw [SchedAvg.accruals, if_neg hcross, List.forall_mem_singleton] at hfits
    rw [SchedAvg.elapse, if_neg hcross]
    exact accrue_usage_le_sum h hflags hfits

end Usage

/-- What an update can do to a task's record: move the time stamp, or account
the elapsed time and, past a boundary, estimate anew. -/
lemma updateTask_cases (sa : SchedAvg) (weight : Nat) (u : LoadUpdate) :
    ((updateEntityRunnableAvg u.env u.now sa u.runnable u.running u.cpu).2 = false ∧
      sa.updateTask weight u = sa.update u) ∨
    ((updateEntityRunnableAvg u.env u.now sa u.runnable u.running u.cpu).2 = true ∧ sa.updateTask weight u =
        ((sa.update u).updateTaskEntityContrib weight).updateTaskEntityRatio) := by
  unfold SchedAvg.updateTask SchedAvg.update
  cases h : (updateEntityRunnableAvg u.env u.now sa u.runnable u.running u.cpu).2 with
  | false => exact .inl ⟨rfl, by simp [h]⟩
  | true => exact .inr ⟨rfl, by simp [h]⟩

/-- `b` has the sums and the ratio of `a`, and no larger contribution. -/
structure SchedAvg.Keeps (a b : SchedAvg) : Prop where
  sum : b.runnableAvgSum = a.runnableAvgSum
  period : b.runnableAvgPeriod = a.runnableAvgPeriod
  usage : b.usageAvgSum = a.usageAvgSum
  ratio : b.loadAvgRatio = a.loadAvgRatio
  contrib_le : b.loadAvgContrib ≤ a.loadAvgContrib

namespace SchedAvg.Keeps

variable (sa : SchedAvg)

lemma refl : sa.Keeps sa := ⟨rfl, rfl, rfl, rfl, Nat.le_refl _⟩

lemma stamp (time : Nat) : sa.Keeps (sa.stamp time) :=
  ⟨rfl, rfl, rfl, rfl, Nat.le_refl _⟩

lemma enqueueStamp (clock : Nat) : sa.Keeps (sa.enqueueStamp clock) := by
  obtain ⟨time, heq⟩ := enqueueStamp_eq sa clock
  rw [heq]
  exact stamp sa time

lemma synchronize (decayCounter : Nat) : sa.Keeps (sa.synchronizeEntityDecay decayCounter).1 := by
  refine ⟨rfl, rfl, rfl, rfl, ?_⟩
  unfold SchedAvg.synchronizeEntityDecay
  dsimp only
  split
  · exact decayLoad_le _ _
  · exact Nat.le_refl _

lemma migrate (decayCounter : Nat) : sa.Keeps (sa.migrateTaskRq decayCounter) := by
  unfold SchedAvg.migrateTaskRq
  split
  · exact ⟨rfl, rfl, rfl, rfl, (synchronize sa decayCounter).contrib_le⟩
  · exact refl sa

lemma ordered {a b : SchedAvg} (h : a.Keeps b) (ha : a.Ordered) : b.Ordered :=
  ⟨by rw [h.sum, h.period]; exact ha.sum_le, by rw [h.period]; exact ha.period_lt⟩

lemma usage_le {a b : SchedAvg} (h : a.Keeps b) (ha : a.usageAvgSum ≤ a.runnableAvgSum) :
    b.usageAvgSum ≤ b.runnableAvgSum := by
  rwa [h.usage, h.sum]

end SchedAvg.Keeps

/-- An operation without a load update keeps the record's sums. -/
lemma taskStep_of_none {sa : SchedAvg} {op : TaskOp} (weight : Nat)
    (h : sa.taskUpdate op = none) : sa.Keeps (sa.taskStep weight op) := by
  cases op with
  | load u => cases h
  | dequeue decayCounter sleep u => cases h
  | migrate decayCounter => exact .migrate sa decayCounter
  | enqueue clock decayCounter wakeup u =>
    simp only [SchedAvg.taskUpdate] at h
    simp only [SchedAvg.taskStep, SchedAvg.enqueueTask]
    split at h
    next hle =>
      rw [if_pos hle]
      split at h
      · cases h
      next hzero =>
        rw [if_neg hzero]
        exact .enqueueStamp sa clock
    next hpos =>
      rw [if_neg hpos]
      split at h
      · cases h
      next hwake =>
        rw [if_neg hwake]
        exact .synchronize sa decayCounter

/-- Any other operation prepares the record, updates it, and may set the decay
count. -/
lemma taskStep_of_some {sa before : SchedAvg} {op : TaskOp} {u : LoadUpdate} (weight : Nat)
    (h : sa.taskUpdate op = some (before, u)) : sa.Keeps before ∧ ∃ count,
    sa.taskStep weight op = { before.updateTask weight u with decayCount := count } := by
  cases op with
  | load v =>
    cases h
    exact ⟨.refl sa, _, rfl⟩
  | dequeue decayCounter sleep v =>
    cases h
    refine ⟨.refl sa, ?_⟩
    cases sleep with
    | false | true => exact ⟨_, rfl⟩
  | migrate decayCounter => cases h
  | enqueue clock decayCounter wakeup v =>
    simp only [SchedAvg.taskUpdate] at h
    simp only [SchedAvg.taskStep, SchedAvg.enqueueTask]
    split at h
    next hle =>
      rw [if_pos hle]
      split at h
      next hzero =>
        cases h
        rw [if_pos hzero]
        exact ⟨.enqueueStamp sa clock, _, rfl⟩
      · cases h
    next hpos =>
      rw [if_neg hpos]
      split at h
      next hwake =>
        cases h
        rw [if_pos hwake]
        exact ⟨.synchronize sa decayCounter, _, rfl⟩
      · cases h

lemma update_usage_le_sum {sa : SchedAvg} (u : LoadUpdate) (hord : sa.Ordered)
    (h : sa.usageAvgSum ≤ sa.runnableAvgSum) : (sa.update u).usageAvgSum ≤ (sa.update u).runnableAvgSum := by
  obtain ⟨_, time, heq⟩ | ⟨delta, _, heq⟩ := u.update_cases sa
  · rwa [heq]
  · rw [heq]
    exact elapse_usage_le_sum (hord.stamp u.now) u.scale_le u.running_runnable h

/-- The re-estimated contribution is the weight times a fraction below one. -/
lemma SchedAvg.Ordered.contrib_le {sa : SchedAvg} (h : sa.Ordered) (weight : Nat) :
    (sa.updateTaskEntityContrib weight).loadAvgContrib ≤ weight := by
  have hlt := h.period_lt
  change wrap 32 (mul 64 sa.runnableAvgSum weight) / add 32 _ 1 ≤ weight
  rw [add_of_lt (by omega)]
  apply Nat.div_le_of_le_mul
  calc
    wrap 32 (mul 64 sa.runnableAvgSum weight) ≤ sa.runnableAvgSum * weight := Nat.le_trans (wrap_le _ _) (mul_le _ _ _)
    _ ≤ (sa.runnableAvgPeriod + 1) * weight :=
      Nat.mul_le_mul_right _ (Nat.le_succ_of_le h.sum_le)

/-- No truncation in the ratio: the 32-bit product has room for the period. -/
lemma SchedAvg.Ordered.ratio_eq {sa : SchedAvg} (h : sa.Ordered) :
    sa.updateTaskEntityRatio.loadAvgRatio = sa.runnableAvgSum * 1024 / (sa.runnableAvgPeriod + 1) := by
  have hsum := h.sum_le
  have hlt := h.period_lt
  change wrap 32 (mul 64 sa.runnableAvgSum 1024) / add 32 _ 1 = _
  rw [add_of_lt (by omega), Word.mul_of_lt (by omega), Word.wrap_of_lt (by omega)]

lemma SchedAvg.Ordered.starvation_lt {sa : SchedAvg} (h : sa.Ordered)
    (husage : sa.usageAvgSum ≤ sa.runnableAvgSum) : hmpTaskStarvation sa < 1024 := by
  have hsum := h.sum_le
  have hlt := h.period_lt
  have hprod : wrap 32 (mul 64 sa.usageAvgSum nice0Load) ≤ sa.usageAvgSum * 1024 :=
    Nat.le_trans (wrap_le _ _) (mul_le _ _ _)
  unfold hmpTaskStarvation
  rw [add_of_lt (by omega)]
  apply Nat.div_lt_of_lt_mul
  omega

section Step

variable {sa : SchedAvg} (weight : Nat) (op : TaskOp)

lemma updateTask_ordered (u : LoadUpdate) (h : sa.Ordered) : (sa.updateTask weight u).Ordered := by
  have hnext := u.update_ordered h
  obtain ⟨_, heq⟩ | ⟨_, heq⟩ := updateTask_cases sa weight u
  · rwa [heq]
  · rw [heq]
    exact ⟨hnext.sum_le, hnext.period_lt⟩

lemma taskStep_ordered (h : sa.Ordered) : (sa.taskStep weight op).Ordered := by
  cases hop : sa.taskUpdate op with
  | none => exact (taskStep_of_none weight hop).ordered h
  | some pair =>
    obtain ⟨hkeep, count, heq⟩ := taskStep_of_some weight hop
    have hnext := updateTask_ordered weight pair.2 (hkeep.ordered h)
    rw [heq]
    exact ⟨hnext.sum_le, hnext.period_lt⟩

lemma taskStep_usage_le_sum (hord : sa.Ordered) (h : sa.usageAvgSum ≤ sa.runnableAvgSum) :
    (sa.taskStep weight op).usageAvgSum ≤ (sa.taskStep weight op).runnableAvgSum := by
  cases hop : sa.taskUpdate op with
  | none => exact (taskStep_of_none weight hop).usage_le h
  | some pair =>
    obtain ⟨hkeep, count, heq⟩ := taskStep_of_some weight hop
    have hnext := update_usage_le_sum pair.2 (hkeep.ordered hord) (hkeep.usage_le h)
    rw [heq]
    obtain ⟨_, htask⟩ | ⟨_, htask⟩ := updateTask_cases pair.1 weight pair.2
    · rwa [htask]
    · rwa [htask]

/-- Past a boundary both estimates are fresh; otherwise the ratio stays and the
contribution can only be decayed. -/
lemma taskStep_estimates (h : sa.Ordered) :
    if sa.reestimates op then
      (sa.taskStep weight op).loadAvgRatio = (sa.taskStep weight op).runnableAvgSum * 1024 /
        ((sa.taskStep weight op).runnableAvgPeriod + 1) ∧
      (sa.taskStep weight op).loadAvgContrib ≤ weight
    else (sa.taskStep weight op).loadAvgRatio = sa.loadAvgRatio ∧
      (sa.taskStep weight op).loadAvgContrib ≤ sa.loadAvgContrib := by
  cases hop : sa.taskUpdate op with
  | none =>
    have hkeep := taskStep_of_none weight hop
    have hfresh : sa.reestimates op = false := by rw [SchedAvg.reestimates, hop]
    rw [hfresh]
    exact ⟨hkeep.ratio, hkeep.contrib_le⟩
  | some pair =>
    obtain ⟨before, u⟩ := pair
    obtain ⟨hkeep, count, heq⟩ := taskStep_of_some weight hop
    have hfresh : sa.reestimates op = (updateEntityRunnableAvg u.env u.now before u.runnable u.running u.cpu).2 := by
      rw [SchedAvg.reestimates, hop]
    rw [hfresh, heq]
    have hnext := u.update_ordered (hkeep.ordered h)
    obtain ⟨hcross, htask⟩ | ⟨hcross, htask⟩ := updateTask_cases before weight u
    · obtain ⟨hcontrib, hratio⟩ := updateEntityRunnableAvg_estimates u.env u.now before u.runnable u.running u.cpu
      rw [hcross, htask]
      exact ⟨hratio.trans hkeep.ratio, Nat.le_trans (Nat.le_of_eq hcontrib) hkeep.contrib_le⟩
    · rw [hcross, htask]
      exact ⟨hnext.ratio_eq, hnext.contrib_le weight⟩

end Step

/-- A boosted fork starts with full sums, any other with empty ones and the usage
of its parent. -/
lemma schedFork_cases (parent : SchedAvg) (parentPid : Option Int) (weight : Nat) :
    let t := schedFork parent parentPid weight
    (hmpTaskShouldForkboost parentPid = true ∧ t.runnableAvgSum = loadAvgMax ∧
      t.runnableAvgPeriod = loadAvgMax ∧ t.usageAvgSum = loadAvgMax ∧ t.loadAvgRatio = 1023) ∨
    (¬ hmpTaskShouldForkboost parentPid = true ∧ t.runnableAvgSum = 0 ∧
      t.runnableAvgPeriod = 0 ∧ t.usageAvgSum = parent.usageAvgSum) := by
  dsimp only [schedFork]
  split
  next hboost => exact .inl ⟨hboost, rfl, rfl, rfl, rfl⟩
  next hboost => exact .inr ⟨hboost, rfl, rfl, rfl⟩

lemma schedFork_ordered (parent : SchedAvg) (parentPid : Option Int) (weight : Nat) :
    (schedFork parent parentPid weight).Ordered := by
  obtain ⟨_, hsum, hperiod, _⟩ | ⟨_, hsum, hperiod, _⟩ := schedFork_cases parent parentPid weight
  · exact ⟨Nat.le_of_eq (hsum.trans hperiod.symm), by rw [hperiod]; decide⟩
  · exact ⟨Nat.le_of_eq (hsum.trans hperiod.symm), by rw [hperiod]; decide⟩

lemma schedFork_usage_le_sum {parent : SchedAvg} {parentPid : Option Int} (weight : Nat)
    (h : hmpTaskShouldForkboost parentPid = true ∨ parent.usageAvgSum = 0) :
    (schedFork parent parentPid weight).usageAvgSum ≤ (schedFork parent parentPid weight).runnableAvgSum := by
  obtain ⟨_, hsum, _, husage, _⟩ | ⟨hboost, _, _, husage⟩ :=
    schedFork_cases parent parentPid weight
  · exact Nat.le_of_eq (husage.trans hsum.symm)
  · obtain hb | hzero := h
    · exact absurd hb hboost
    · rw [husage, hzero]
      exact Nat.zero_le _

/-- Over every parent record and every later sequence of operations the sums are ordered; with the
boost, or if the parent never ran, so is the usage, which bounds the starvation. An operation that
crosses a period boundary leaves the exact ratio and a contribution within the weight, and the
others leave the estimates alone. -/
theorem forked_task_load (parent : SchedAvg) (parentPid : Option Int) (forkWeight weight : Nat) (ops : List TaskOp) :
    Run.Always (SchedAvg.taskStep weight) (fun t => t.runnableAvgSum ≤ t.runnableAvgPeriod ∧
        (hmpTaskShouldForkboost parentPid = true ∨ parent.usageAvgSum = 0 →
          t.usageAvgSum ≤ t.runnableAvgSum ∧ hmpTaskStarvation t ≤ 1024))
      (schedFork parent parentPid forkWeight) ops ∧
    Run.Each (SchedAvg.taskStep weight) (fun t op =>
        if t.reestimates op then
          (t.taskStep weight op).loadAvgRatio = (t.taskStep weight op).runnableAvgSum * 1024 /
            ((t.taskStep weight op).runnableAvgPeriod + 1) ∧
          (t.taskStep weight op).loadAvgContrib ≤ weight
        else (t.taskStep weight op).loadAvgRatio = t.loadAvgRatio ∧
          (t.taskStep weight op).loadAvgContrib ≤ t.loadAvgContrib)
      (schedFork parent parentPid forkWeight) ops ∧
    (hmpTaskShouldForkboost parentPid = true → (schedFork parent parentPid forkWeight).loadAvgRatio =
        (schedFork parent parentPid forkWeight).runnableAvgSum * 1024 /
          ((schedFork parent parentPid forkWeight).runnableAvgPeriod + 1)) := by
  have hstart := schedFork_ordered parent parentPid forkWeight
  have hordered : Run.Always (SchedAvg.taskStep weight) SchedAvg.Ordered (schedFork parent parentPid forkWeight) ops :=
    Run.always_of_step (fun t op ht => taskStep_ordered weight op ht) hstart
  have husage : Run.Always (SchedAvg.taskStep weight) (fun t => t.Ordered ∧
        (hmpTaskShouldForkboost parentPid = true ∨ parent.usageAvgSum = 0 →
          t.usageAvgSum ≤ t.runnableAvgSum)) (schedFork parent parentPid forkWeight) ops := by
    refine Run.always_of_step (fun t op ht => ?_) ⟨hstart, fun hclean => schedFork_usage_le_sum forkWeight hclean⟩
    exact ⟨taskStep_ordered weight op ht.1, fun hclean => taskStep_usage_le_sum weight op ht.1 (ht.2 hclean)⟩
  refine ⟨husage.mono ?_, hordered.each fun t op ht => taskStep_estimates weight op ht, ?_⟩
  · intro t ht
    refine ⟨ht.1.sum_le, fun hclean => ⟨ht.2 hclean, ?_⟩⟩
    exact Nat.le_of_lt (ht.1.starvation_lt (ht.2 hclean))
  · intro hboost
    obtain ⟨_, hsum, hperiod, _, hratio⟩ | ⟨hnot, _⟩ :=
      schedFork_cases parent parentPid forkWeight
    · rw [hsum, hperiod, hratio]
      decide
    · exact absurd hboost hnot

/-- Five microseconds after an unboosted fork the ratio is still the parent's,
here zero, because no boundary was crossed. If that parent has run, its usage
exceeds the child's sums from the start. -/
theorem forked_task_stale :
    let u : LoadUpdate := ⟨{}, 5 * 1024, true, true, -1, by decide, by simp [LoadEnv.currScale]⟩
    let child := (schedFork {} none 1024).taskStep 1024 (.load u)
    let inherited := schedFork { usageAvgSum := 20000 } none 1024
    child.loadAvgRatio = 0 ∧ child.runnableAvgSum * 1024 / (child.runnableAvgPeriod + 1) = 853 ∧
      ¬ inherited.usageAvgSum ≤ inherited.runnableAvgSum ∧
      hmpTaskStarvation inherited = 20480000 := by
  decide +kernel

end BigLittle.Sched
