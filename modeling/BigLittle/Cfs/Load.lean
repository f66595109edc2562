import BigLittle.Cfs.State

/-!
# Load tracking of entities and queues

The functions between `__update_cfs_rq_tg_load_contrib` and
`dequeue_entity_load_avg`, with the weight accounting and the share computation
they are interleaved with. A `long` difference that is added to an unsigned
total is the two's complement word of that difference.
-/

namespace BigLittle.Cfs

open Sched
open Word (mul ofInt sub)

variable {T G C : Type*}

namespace CfsRq

/-- `subtract_blocked_load_contrib`; the signed argument is compared unsigned. -/
def subtractBlockedLoadContrib (c : CfsRq T G C) (loadContrib : Nat) : CfsRq T G C :=
  { c with
    blockedLoadAvg :=
      if loadContrib < c.blockedLoadAvg then c.blockedLoadAvg - loadContrib else 0 }

/-- The part of `update_cfs_rq_blocked_load` that ages the blocked load. -/
def decayBlockedLoad (c : CfsRq T G C) (now : Nat) : CfsRq T G C :=
  let decays := sub 64 now c.lastDecay
  let c :=
    if c.removedLoad ≠ 0 then { c.subtractBlockedLoadContrib c.removedLoad with removedLoad := 0 }
    else c
  if decays ≠ 0 then
    { c with
      blockedLoadAvg := decayLoad c.blockedLoadAvg decays
      decayCounter := Word.add 64 c.decayCounter decays
      lastDecay := now }
  else c

/-- Only the blocked load and what it is aged by change. -/
lemma decayBlockedLoad_eq (c : CfsRq T G C) (now : Nat) : ∃ blocked counter last removed, c.decayBlockedLoad now =
    { c with blockedLoadAvg := blocked, decayCounter := counter, lastDecay := last, removedLoad := removed } := by
  dsimp only [decayBlockedLoad]
  repeat' split
  all_goals exact ⟨_, _, _, _, rfl⟩

end CfsRq

variable [DecidableEq T] [DecidableEq G] [DecidableEq C]

/-- The magnitude of a word read as signed. -/
def abs64 (word : Nat) : Nat := if Word.isNegative 64 word then sub 64 0 word else word

namespace State

variable (cfg : Config G C) (s : State T G C) (e : Entity T G C) (q : QueueId G C)

/-- `cfs_rq_clock_task`: the CPU's task clock without the time spent throttled. -/
def cfsRqClockTask : Nat :=
  let c := s.cfs q
  if c.throttleCount ≠ 0 then c.throttledClockTask
  else sub 64 (s.rq q.cpu).clockTask c.throttledClockTaskTime

/-- `__update_cfs_rq_tg_load_contrib`. -/
def updateCfsRqTgLoadContrib (force : Bool) : State T G C :=
  let c := s.cfs q
  let tgContrib := sub 64 (Word.add 64 c.runnableLoadAvg c.blockedLoadAvg) c.tgLoadContrib
  if force ∨ c.tgLoadContrib / 8 < abs64 tgContrib then
    (s.modifyTg q.tg fun g => { g with loadAvg := Word.add 64 g.loadAvg tgContrib }).modifyCfs q
      fun c => { c with tgLoadContrib := Word.add 64 c.tgLoadContrib tgContrib }
  else s

def updateCfsRqBlockedLoad (force : Bool) : State T G C :=
  let now := s.cfsRqClockTask q >>> 20
  if sub 64 now (s.cfs q).lastDecay = 0 ∧ force = false then s
  else (s.modifyCfs q fun c => c.decayBlockedLoad now).updateCfsRqTgLoadContrib q force

/-- `__update_tg_runnable_avg`: fold the change of a record's runnable and usage
fractions into the group, when it is substantive. -/
def updateTgRunnableAvg (sa : SchedAvg) (q : QueueId G C) : State T G C :=
  let c := s.cfs q
  let fraction (sum : Nat) : Int :=
    (Word.wrap 32 (sum <<< nice0Shift) / Word.add 32 sa.runnableAvgPeriod 1 : Nat)
  let contrib := fraction sa.runnableAvgSum - c.tgRunnableContrib
  let usageContrib := fraction sa.usageAvgSum - c.tgUsageContrib
  if c.tgRunnableContrib / 64 < contrib.natAbs ∨ c.tgUsageContrib / 64 < usageContrib.natAbs then
    (s.modifyTg q.tg fun g =>
      { g with
        runnableAvg := Word.add 32 g.runnableAvg (ofInt 32 contrib)
        usageAvg := Word.add 32 g.usageAvg (ofInt 32 usageContrib) }).modifyCfs q fun c =>
      { c with
        tgRunnableContrib := Word.add 32 c.tgRunnableContrib (ofInt 32 contrib)
        tgUsageContrib := Word.add 32 c.tgUsageContrib (ofInt 32 usageContrib) }
  else s

/-- The value `__update_group_entity_contrib` gives the entity that owns `q`. -/
def groupEntityContrib : Nat :=
  let g := s.tg q.tg
  let contrib := mul 64 (s.cfs q).tgLoadContrib g.shares / Word.add 64 g.loadAvg 1
  let runnableAvg := Word.toSigned 32 g.runnableAvg
  if runnableAvg < nice0Load then
    mul 64 contrib (ofInt 64 runnableAvg) >>> nice0Shift
  else contrib

/-- `__update_entity_load_avg_contrib`, followed by `__update_task_entity_ratio`
for a task. The ratio of a group entity is never written. -/
def updateEntityLoadAvgContrib : State T G C :=
  match e with
  | .task _ =>
    s.modifySe e fun se =>
      { se with avg := (se.avg.updateTaskEntityContrib se.weight).updateTaskEntityRatio }
  | .group g cpu =>
    let s := s.updateTgRunnableAvg (s.se e).avg ⟨some g, cpu⟩
    s.modifyAvg e fun sa => { sa with loadAvgContrib := s.groupEntityContrib ⟨some g, cpu⟩ }

/-- The clock `update_entity_load_avg` reads: a group entity uses its own queue's,
in case it is the parent of a throttled hierarchy. -/
def entityClock : Nat :=
  match e with
  | .task t => s.cfsRqClockTask (s.taskQueue t)
  | .group g cpu => s.cfsRqClockTask ⟨some g, cpu⟩

/-- `__update_entity_runnable_avg` applied to an entity's record. -/
def runnableAvgUpdate : SchedAvg × Bool :=
  let q := s.cfsRqOf cfg e
  updateEntityRunnableAvg cfg.load (s.entityClock e) (s.se e).avg (s.se e).onRq
    (decide ((s.cfs q).curr = some e)) (cfg.cpuId q.cpu)

/-- The last part of `update_entity_load_avg`: hand the entity's new estimates
to its queue and its CPU, or to the blocked load. `before` holds the old ones. -/
def propagateLoad (before : SchedAvg) : State T G C :=
  let q := s.cfsRqOf cfg e
  let after := (s.se e).avg
  let contribDelta := sub 64 after.loadAvgContrib before.loadAvgContrib
  let ratioDelta := sub 64 after.loadAvgRatio before.loadAvgRatio
  if (s.se e).onRq then
    (s.modifyCfs q fun c =>
      { c with runnableLoadAvg := Word.add 64 c.runnableLoadAvg contribDelta }).modifyRq q.cpu
      fun r =>
        { r with avg := { r.avg with
            loadAvgRatio := Word.add 64 r.avg.loadAvgRatio ratioDelta
            loadAvgContrib := Word.add 64 r.avg.loadAvgContrib contribDelta } }
  else s.modifyCfs q fun c => c.subtractBlockedLoadContrib (sub 64 0 contribDelta)

def updateEntityLoadAvg (updateCfsRq : Bool) : State T G C :=
  let before := (s.se e).avg
  let (sa, decayed) := s.runnableAvgUpdate cfg e
  let s := s.modifyAvg e fun _ => sa
  if decayed then
    let s := s.updateEntityLoadAvgContrib e
    if updateCfsRq then s.propagateLoad cfg e before else s
  else s

def updateRqRunnableAvg (cpu : C) (runnable : Bool) : State T G C :=
  let r := s.rq cpu
  let sa := (updateEntityRunnableAvg cfg.load r.clockTask r.avg runnable runnable (cfg.cpuId cpu)).1
  (s.modifyRq cpu fun r => { r with avg := sa }).updateTgRunnableAvg sa ⟨none, cpu⟩

/-- `task_low_priority`; `hmp_up_prio` is unsigned, so the priority is compared as a word. -/
def lowPriority : Bool := decide (cfg.hmpUpPrio ≤ ofInt 32 (s.prio e))

/-- Write the HMP counters, which live in the record of the CPU's root queue. -/
def modifyCpuAvg (cpu : C) (f : SchedAvg → SchedAvg) : State T G C :=
  s.modifyCfs ⟨none, cpu⟩ fun c => { c with avg := f c.avg }

/-- First half of `enqueue_entity_load_avg`: bring the record up to date. A
migrated entity did not contribute to this queue's blocked load. -/
def prepareEnqueue (wakeup : Bool) : State T G C :=
  let q := s.cfsRqOf cfg e
  if (s.se e).avg.decayCount ≤ 0 then
    let migrated : Bool := decide ((s.se e).avg.decayCount ≠ 0)
    let s := s.modifyAvg e fun sa => sa.enqueueStamp (s.rq q.cpu).clockTask
    if migrated then
      (s.updateEntityLoadAvg cfg e false).modifyAvg e fun sa => { sa with decayCount := 0 }
    else s
  else
    let s := s.modifyAvg e fun sa => (sa.synchronizeEntityDecay (s.cfs q).decayCounter).1
    if wakeup then
      (s.modifyCfs q fun c =>
        c.subtractBlockedLoadContrib (s.se e).avg.loadAvgContrib).updateEntityLoadAvg cfg e false
    else s

def addEntityLoad : State T G C :=
  let q := s.cfsRqOf cfg e
  let sa := (s.se e).avg
  (s.modifyCfs q fun c =>
    { c with runnableLoadAvg := Word.add 64 c.runnableLoadAvg sa.loadAvgContrib }).modifyRq q.cpu
    fun r =>
      { r with avg := { r.avg with
          loadAvgRatio := Word.add 64 r.avg.loadAvgRatio sa.loadAvgRatio } }

def enqueueEntityLoadAvg (wakeup : Bool) : State T G C :=
  let q := s.cfsRqOf cfg e
  -- the branch that finds a migrated entity clears `wakeup`
  let stillWakeup := wakeup && decide (0 < (s.se e).avg.decayCount)
  let s := (s.prepareEnqueue cfg e wakeup).addEntityLoad cfg e
  let s := s.modifyCpuAvg q.cpu fun sa =>
    { sa with
      nrPending := 0
      pendingLoad := 0
      nrNormalPrio :=
        if s.lowPriority cfg e then sa.nrNormalPrio else Word.add 32 sa.nrNormalPrio 1 }
  s.updateCfsRqBlockedLoad q (!stillWakeup)

def subEntityLoad : State T G C :=
  let q := s.cfsRqOf cfg e
  let sa := (s.se e).avg
  (s.modifyCfs q fun c =>
    { c with runnableLoadAvg := sub 64 c.runnableLoadAvg sa.loadAvgContrib }).modifyRq q.cpu
    fun r =>
      { r with avg := { r.avg with
          loadAvgRatio := sub 64 r.avg.loadAvgRatio sa.loadAvgRatio } }

def dequeueEntityLoadAvg (sleep : Bool) : State T G C :=
  let q := s.cfsRqOf cfg e
  let s := (s.updateEntityLoadAvg cfg e true).updateCfsRqBlockedLoad q (!sleep)
  let s := s.subEntityLoad cfg e
  let s := s.modifyCpuAvg q.cpu fun sa =>
    { sa with
      nrDequeuingLowPrio := 0
      nrNormalPrio :=
        if s.lowPriority cfg e then sa.nrNormalPrio else sub 32 sa.nrNormalPrio 1 }
  if sleep then
    (s.modifyCfs q fun c =>
      { c with blockedLoadAvg :=
          Word.add 64 c.blockedLoadAvg (s.se e).avg.loadAvgContrib }).modifyAvg e
      fun sa => { sa with decayCount := Word.toSigned 64 (s.cfs q).decayCounter }
  else s

end State

end BigLittle.Cfs
