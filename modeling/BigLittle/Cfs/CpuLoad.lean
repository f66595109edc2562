import BigLittle.Cfs.LoadInvariant
import BigLittle.Cfs.Roster

/-!
# The CPU load that the HMP decisions read

`cfs_load(cpu)` reads `load_avg_ratio` of the record embedded in the CPU's root
queue. The code that enqueues, dequeues and updates entities keeps the total of
the ratios in another record, `rq->avg`, and writes the record of the queue only
through the HMP counters. So `cfs_load` keeps the value it was zeroed with.
-/

namespace BigLittle.Cfs

open Sched Tally State

variable {T G C : Type*}

def State.cfsLoad (s : State T G C) (cpu : C) : Nat :=
  (s.cfs ⟨none, cpu⟩).avg.loadAvgRatio

/-- No queue's own record changed its estimate or its migration times. -/
def KeepsQueueRecord (s t : State T G C) : Prop :=
  ∀ q, hmpRecord (t.cfs q).avg = hmpRecord (s.cfs q).avg

lemma KeepsQueueRecord.refl (s : State T G C) : KeepsQueueRecord s s := fun _ => rfl

section Operations

variable [DecidableEq T] [DecidableEq G] [DecidableEq C] (cfg : Config G C) (s : State T G C)

omit [DecidableEq T] in
lemma modifyCpuAvg_keepsQueueRecord (cpu : C) {f : SchedAvg → SchedAvg}
    (h : ∀ sa, hmpRecord (f sa) = hmpRecord sa) : KeepsQueueRecord s (s.modifyCpuAvg cpu f) :=
  modifyCfs_keeps (fun c => hmpRecord c.avg) (h _)

/-- An event changes counters only. -/
lemma apply_hmpRecord (r : Roster T G C) (ev : QueueEvent T G C)
    (q : QueueId G C) : hmpRecord ((r.apply cfg ev).record q) = hmpRecord (r.record q) := by
  cases ev with
  | enqueue e => exact r.modifyRecord_keeps _ (countEnqueue _) hmpRecord (fun _ => rfl) q
  | dequeue e => exact r.modifyRecord_keeps _ (countDequeue _) hmpRecord (fun _ => rfl) q

lemma foldl_apply_hmpRecord (r : Roster T G C) (events : List (QueueEvent T G C)) (q : QueueId G C) :
    hmpRecord ((events.foldl (Roster.apply cfg) r).record q) = hmpRecord (r.record q) :=
  Run.foldl_of_step (f := Roster.apply cfg)
    (P := fun r' : Roster T G C => hmpRecord (r'.record q) = hmpRecord (r.record q))
    (fun r' ev h => (apply_hmpRecord cfg r' ev q).trans h) rfl

/-- The class writes the records of the queues only through the events. -/
lemma classStep_keeps (op : ClassOp T G C) : KeepsQueueRecord s (s.classStep cfg op) := by
  intro q
  obtain ⟨events, hroster, -⟩ := classStep_performs cfg s op
  have hrecord := congrArg (fun r => hmpRecord (r.record q)) hroster
  refine hrecord.trans ((foldl_apply_hmpRecord cfg _ events q).trans ?_)
  cases op <;> rfl

end Operations

section Runs

variable [DecidableEq T] [DecidableEq G] [DecidableEq C] [Fintype T]

/-- The sum `cfs_load` is meant to be. -/
def State.queuedRatio (s : State T G C) (cpu : C) : Nat :=
  ∑ t with (s.se (.task t)).onRq = true ∧ (s.taskQueue t).cpu = cpu, (s.se (.task t)).avg.loadAvgRatio

/-- In every state of every run, `cfs_load` of a CPU is the sum of the ratios of
the tasks queued there exactly if all those ratios are zero. -/
theorem cfsLoad_eq_queuedRatio_iff (cfg : Config G C) (start : Start T G C) (ops : List (ClassOp T G C)) :
    Run.Always (classStep cfg) (fun s => ∀ cpu, s.cfsLoad cpu = s.queuedRatio cpu ↔
        ∀ t, (s.se (.task t)).onRq = true → (s.taskQueue t).cpu = cpu → (s.se (.task t)).avg.loadAvgRatio = 0)
      (boot start) ops := by
  have hzero : Run.Always (classStep cfg) (fun s : State T G C => ∀ q, hmpRecord (s.cfs q).avg = (0, 0, 0))
      (boot start) ops :=
    Run.always_of_step (fun s op hs q => (classStep_keeps cfg s op q).trans (hs q)) fun _ => rfl
  refine hzero.mono fun s hs cpu => ?_
  have hload : s.cfsLoad cpu = 0 := congrArg Prod.fst (hs ⟨none, cpu⟩)
  rw [hload, eq_comm, queuedRatio, Finset.sum_eq_zero_iff]
  constructor
  · intro h t hon hcpu
    exact h t (Finset.mem_filter.mpr ⟨Finset.mem_univ t, hon, hcpu⟩)
  · intro h t ht
    obtain ⟨_, hon, hcpu⟩ := Finset.mem_filter.mp ht
    exact h t hon hcpu

/-- A boosted new task is put on an idle CPU: its ratio is 1023, and `cfs_load`
still says that the CPU has no load. -/
theorem cfsLoad_of_boosted_task :
    let cfg : Config Unit Unit := { cpuId := fun _ => 0 }
    let boosted : SchedAvg :=
      { runnableAvgSum := 47742, runnableAvgPeriod := 47742, usageAvgSum := 47742,
        loadAvgRatio := 1023, loadAvgContrib := 1047552 }
    let start : State Unit Unit Unit :=
      .boot { taskQueue := fun _ => ⟨none, ()⟩, tasks := fun _ => { avg := boosted } }
    let s := start.classStep cfg (.enqueue () false fun _ => false)
    s.cfsLoad () = 0 ∧ s.queuedRatio () = 1023 := by
  decide +kernel

end Runs

end BigLittle.Cfs
