import BigLittle.Cfs.Entity

/-!
# What load tracking leaves alone

Queueing, weights, task counts and throttling read the load averages only to
compute the shares of a group, and load tracking writes none of theirs. The bare
state is the state without the averages. Every function of load tracking is quiet:
it keeps the bare state, who is queued, and the times of the HMP migrations, which
are noted in the record of a CPU. So a fact about these carries over such a function
by one rewrite.
-/

namespace BigLittle.Cfs

open Sched State

variable {T G C : Type*} (s : State T G C)

def SchedEntity.bare (se : SchedEntity) : SchedEntity := { se with avg := {} }

def CfsRq.bare (c : CfsRq T G C) : CfsRq T G C :=
  { c with
    avg := {}, runnableLoadAvg := 0, blockedLoadAvg := 0, decayCounter := 0, removedLoad := 0,
    lastDecay := 0, tgRunnableContrib := 0, tgUsageContrib := 0, tgLoadContrib := 0 }

def Rq.bare (r : Rq) : Rq := { r with avg := {} }

def TaskGroup.bare (g : TaskGroup) : TaskGroup :=
  { g with loadAvg := 0, runnableAvg := 0, usageAvg := 0 }

def State.bare : State T G C where
  taskQueue := s.taskQueue
  prio := s.prio
  se := fun e => (s.se e).bare
  cfs := fun q => (s.cfs q).bare
  rq := fun cpu => (s.rq cpu).bare
  tg := fun g => (s.tg g).bare

/-- Who is queued, with what priority, and the records of the queues. -/
structure Roster (T G C : Type*) where
  taskQueue : T → QueueId G C
  prio : Entity T G C → Int
  onRq : Entity T G C → Bool
  record : QueueId G C → SchedAvg

def State.roster : Roster T G C where
  taskQueue := s.taskQueue
  prio := s.prio
  onRq := fun e => (s.se e).onRq
  record := fun q => (s.cfs q).avg

/-- The times of the last HMP migrations up and down in a record. -/
def migrationTimes (sa : SchedAvg) : Nat × Nat := (sa.hmpLastUpMigration, sa.hmpLastDownMigration)

/-- The migration times noted for each CPU. -/
def State.stamps (cpu : C) : Nat × Nat := migrationTimes (s.rq cpu).avg

structure Gate where
  throttled : Bool
  throttleCount : Int
  throttledClockTask : Nat
  throttledClockTaskTime : Nat

def CfsRq.gate (c : CfsRq T G C) : Gate :=
  ⟨c.throttled, c.throttleCount, c.throttledClockTask, c.throttledClockTaskTime⟩

structure Gates (G C : Type*) where
  gate : QueueId G C → Gate
  clockTask : C → Nat

def State.gates : Gates G C where
  gate q := (s.cfs q).gate
  clockTask cpu := (s.rq cpu).clockTask

/-- Nobody has been queued or dequeued, and no migration has been noted. -/
structure Calm (s t : State T G C) : Prop where
  roster : t.roster = s.roster
  stamps : t.stamps = s.stamps

/-- Nor has anything been throttled, and no clock has moved. -/
structure Still (s t : State T G C) : Prop extends Calm s t where
  gates : t.gates = s.gates

/-- Nothing but averages has changed. -/
structure Quiet (s t : State T G C) : Prop extends Calm s t where
  bare : t.bare = s.bare

section Fields

variable {s t : State T G C} (h : t.bare = s.bare)
include h

lemma State.taskQueue_of_bare : t.taskQueue = s.taskQueue :=
  (congrArg taskQueue h : t.bare.taskQueue = s.bare.taskQueue)

lemma State.se_of_bare (e : Entity T G C) : (t.se e).bare = (s.se e).bare :=
  congrArg (fun u : State T G C => u.se e) h

lemma State.cfs_of_bare (q : QueueId G C) : (t.cfs q).bare = (s.cfs q).bare :=
  congrArg (fun u : State T G C => u.cfs q) h

lemma State.rq_of_bare (cpu : C) : (t.rq cpu).bare = (s.rq cpu).bare :=
  congrArg (fun u : State T G C => u.rq cpu) h

lemma State.cfsRqOf_of_bare (cfg : Config G C) : t.cfsRqOf cfg = s.cfsRqOf cfg :=
  cfsRqOf_congr (taskQueue_of_bare h) cfg

lemma State.onRq_of_bare (e : Entity T G C) : (t.se e).onRq = (s.se e).onRq :=
  (congrArg SchedEntity.onRq (se_of_bare h e) : (t.se e).bare.onRq = (s.se e).bare.onRq)

end Fields

section Compose

variable {s t u : State T G C}

lemma Calm.refl (s : State T G C) : Calm s s := ⟨rfl, rfl⟩

lemma Calm.trans (h : Calm s t) (h' : Calm t u) : Calm s u :=
  ⟨h'.roster.trans h.roster, h'.stamps.trans h.stamps⟩

lemma Still.refl (s : State T G C) : Still s s := ⟨.refl s, rfl⟩

lemma Still.trans (h : Still s t) (h' : Still t u) : Still s u :=
  ⟨h.toCalm.trans h'.toCalm, h'.gates.trans h.gates⟩

lemma Quiet.still (h : Quiet s t) : Still s t := ⟨h.toCalm, (congrArg gates h.bare :)⟩

lemma Quiet.refl (s : State T G C) : Quiet s s := ⟨.refl s, rfl⟩

lemma Quiet.trans (h : Quiet s t) (h' : Quiet t u) : Quiet s u :=
  ⟨h.toCalm.trans h'.toCalm, h'.bare.trans h.bare⟩

end Compose

lemma updateEntityRunnableAvg_migrationTimes (env : LoadEnv) (now : Nat) (sa : SchedAvg) (runnable running : Bool)
    (cpu : Int) : migrationTimes (updateEntityRunnableAvg env now sa runnable running cpu).1 = migrationTimes sa := by
  dsimp only [updateEntityRunnableAvg, SchedAvg.elapse]
  repeat' split
  all_goals rfl

section Quiet

variable [DecidableEq C] (cfg : Config G C) (s : State T G C) (e : Entity T G C) (q : QueueId G C)

lemma modifyRq_bare (cpu : C) {f : Rq → Rq} (h : (f (s.rq cpu)).bare = (s.rq cpu).bare) :
    (s.modifyRq cpu f).bare = s.bare := by
  have hrq := modifyRq_keeps Rq.bare h
  simp only [bare, hrq]
  rfl

lemma modifyRq_calm (cpu : C) {f : Rq → Rq}
    (h : migrationTimes (f (s.rq cpu)).avg = migrationTimes (s.rq cpu).avg) : Calm s (s.modifyRq cpu f) :=
  ⟨rfl, funext (modifyRq_keeps (fun r => migrationTimes r.avg) h)⟩

lemma modifyRq_still (cpu : C) {f : Rq → Rq} (h : (f (s.rq cpu)).avg = (s.rq cpu).avg)
    (hclock : (f (s.rq cpu)).clockTask = (s.rq cpu).clockTask) : Still s (s.modifyRq cpu f) := by
  refine ⟨modifyRq_calm s cpu (congrArg migrationTimes h), ?_⟩
  simp only [gates, modifyRq_keeps Rq.clockTask hclock]
  rfl

lemma modifyRq_quiet (cpu : C) {f : Rq → Rq} (h : (f (s.rq cpu)).bare = (s.rq cpu).bare)
    (htimes : migrationTimes (f (s.rq cpu)).avg = migrationTimes (s.rq cpu).avg) : Quiet s (s.modifyRq cpu f) :=
  ⟨modifyRq_calm s cpu htimes, modifyRq_bare s cpu h⟩

variable [DecidableEq G]

lemma modifyCfs_bare {f : CfsRq T G C → CfsRq T G C}
    (h : (f (s.cfs q)).bare = (s.cfs q).bare) : (s.modifyCfs q f).bare = s.bare := by
  have hcfs := modifyCfs_keeps CfsRq.bare h
  simp only [bare, hcfs]
  rfl

omit [DecidableEq C] in
lemma modifyTg_bare (g : Option G) {f : TaskGroup → TaskGroup}
    (h : (f (s.tg g)).bare = (s.tg g).bare) : (s.modifyTg g f).bare = s.bare := by
  have htg : ∀ g', ((s.modifyTg g f).tg g').bare = (s.tg g').bare :=
    update_keeps TaskGroup.bare h
  simp only [bare, htg]
  rfl

lemma modifyCpuAvg_bare (cpu : C) (f : SchedAvg → SchedAvg) :
    (s.modifyCpuAvg cpu f).bare = s.bare := modifyCfs_bare s _ rfl

lemma modifyCfs_calm {f : CfsRq T G C → CfsRq T G C}
    (h : (f (s.cfs q)).avg = (s.cfs q).avg) : Calm s (s.modifyCfs q f) := by
  have hrecord := modifyCfs_keeps (fun c => c.avg) h
  constructor
  · simp only [roster, hrecord]
    rfl
  · rfl

lemma modifyCfs_still {f : CfsRq T G C → CfsRq T G C} (h : (f (s.cfs q)).avg = (s.cfs q).avg)
    (hgate : (f (s.cfs q)).gate = (s.cfs q).gate) : Still s (s.modifyCfs q f) := by
  refine ⟨modifyCfs_calm s q h, ?_⟩
  simp only [gates, modifyCfs_keeps CfsRq.gate hgate]
  rfl

lemma modifyCfs_quiet {f : CfsRq T G C → CfsRq T G C}
    (h : (f (s.cfs q)).bare = (s.cfs q).bare) (havg : (f (s.cfs q)).avg = (s.cfs q).avg) :
    Quiet s (s.modifyCfs q f) := ⟨modifyCfs_calm s q havg, modifyCfs_bare s q h⟩

omit [DecidableEq C] in
lemma modifyTg_quiet (g : Option G) {f : TaskGroup → TaskGroup}
    (h : (f (s.tg g)).bare = (s.tg g).bare) : Quiet s (s.modifyTg g f) := ⟨⟨rfl, rfl⟩, modifyTg_bare s g h⟩

lemma updateCfsRqTgLoadContrib_quiet (force : Bool) : Quiet s (s.updateCfsRqTgLoadContrib q force) := by
  dsimp only [updateCfsRqTgLoadContrib]
  split
  · exact (modifyTg_quiet s _ rfl).trans (modifyCfs_quiet _ q rfl rfl)
  · exact .refl s

lemma updateCfsRqBlockedLoad_quiet (force : Bool) : Quiet s (s.updateCfsRqBlockedLoad q force) := by
  dsimp only [updateCfsRqBlockedLoad]
  split
  · exact .refl s
  · obtain ⟨_, _, _, _, h⟩ := (s.cfs q).decayBlockedLoad_eq (s.cfsRqClockTask q >>> 20)
    exact (modifyCfs_quiet s q (h ▸ rfl) (h ▸ rfl)).trans (updateCfsRqTgLoadContrib_quiet _ q force)

lemma updateTgRunnableAvg_quiet (sa : SchedAvg) : Quiet s (s.updateTgRunnableAvg sa q) := by
  dsimp only [updateTgRunnableAvg]
  split
  · exact (modifyTg_quiet s _ rfl).trans (modifyCfs_quiet _ q rfl rfl)
  · exact .refl s

lemma propagateLoad_quiet (before : SchedAvg) : Quiet s (s.propagateLoad cfg e before) := by
  dsimp only [propagateLoad]
  split
  · exact (modifyCfs_quiet s _ rfl rfl).trans (modifyRq_quiet _ _ rfl rfl)
  · exact modifyCfs_quiet s _ rfl rfl

lemma updateRqRunnableAvg_quiet (cpu : C) (runnable : Bool) : Quiet s (s.updateRqRunnableAvg cfg cpu runnable) :=
  (modifyRq_quiet s cpu rfl (updateEntityRunnableAvg_migrationTimes _ _ _ _ _ _)).trans
    (updateTgRunnableAvg_quiet _ _ _)

lemma accountEntity_still (count : Nat → Nat → Nat → Nat) : Still s (s.accountEntity cfg e count) := by
  dsimp only [accountEntity]
  split
  · exact (modifyCfs_still s _ rfl rfl).trans (modifyRq_still _ _ rfl rfl)
  · exact modifyCfs_still s _ rfl rfl

variable [DecidableEq T]

lemma modifySe_bare {f : SchedEntity → SchedEntity} (h : (f (s.se e)).bare = (s.se e).bare) :
    (s.modifySe e f).bare = s.bare := by
  have hse := modifySe_keeps SchedEntity.bare h
  simp only [bare, hse]
  rfl

lemma modifySe_calm {f : SchedEntity → SchedEntity} (h : (f (s.se e)).onRq = (s.se e).onRq) :
    Calm s (s.modifySe e f) := by
  have honRq := modifySe_keeps (fun se => se.onRq) h
  constructor
  · simp only [roster, honRq]
    rfl
  · rfl

lemma modifySe_still {f : SchedEntity → SchedEntity} (h : (f (s.se e)).onRq = (s.se e).onRq) :
    Still s (s.modifySe e f) := ⟨modifySe_calm s e h, rfl⟩

lemma modifyAvg_quiet (f : SchedAvg → SchedAvg) : Quiet s (s.modifyAvg e f) :=
  ⟨modifySe_calm s e rfl, modifySe_bare s e rfl⟩

lemma updateEntityLoadAvgContrib_quiet : Quiet s (s.updateEntityLoadAvgContrib e) := by
  rw [updateEntityLoadAvgContrib.eq_def]
  split
  · exact ⟨modifySe_calm s _ rfl, modifySe_bare s _ rfl⟩
  · exact (updateTgRunnableAvg_quiet s _ _).trans (modifyAvg_quiet _ _ _)

lemma updateEntityLoadAvg_quiet (updateCfsRq : Bool) : Quiet s (s.updateEntityLoadAvg cfg e updateCfsRq) := by
  have havg := modifyAvg_quiet s e fun _ => (s.runnableAvgUpdate cfg e).1
  dsimp only [updateEntityLoadAvg]
  split
  · have hcontrib := havg.trans (updateEntityLoadAvgContrib_quiet _ e)
    split
    · exact hcontrib.trans (propagateLoad_quiet cfg _ e _)
    · exact hcontrib
  · exact havg

lemma prepareEnqueue_quiet (wakeup : Bool) : Quiet s (s.prepareEnqueue cfg e wakeup) := by
  dsimp only [prepareEnqueue]
  split
  · split
    · exact ((modifyAvg_quiet s e _).trans (updateEntityLoadAvg_quiet cfg _ e false)).trans (modifyAvg_quiet _ e _)
    · exact modifyAvg_quiet s e _
  · split
    · exact ((modifyAvg_quiet s e _).trans (modifyCfs_quiet _ _ rfl rfl)).trans
        (updateEntityLoadAvg_quiet cfg _ e false)
    · exact modifyAvg_quiet s e _

/-- What `enqueue_entity_load_avg` does before it counts the entity. -/
lemma addEntityLoad_quiet (wakeup : Bool) : Quiet s ((s.prepareEnqueue cfg e wakeup).addEntityLoad cfg e) := by
  rw [addEntityLoad]
  exact ((prepareEnqueue_quiet cfg s e wakeup).trans (modifyCfs_quiet _ _ rfl rfl)).trans (modifyRq_quiet _ _ rfl rfl)

/-- What `dequeue_entity_load_avg` does before it counts the entity. -/
lemma subEntityLoad_quiet (force : Bool) :
    Quiet s (((s.updateEntityLoadAvg cfg e true).updateCfsRqBlockedLoad q force).subEntityLoad cfg e) := by
  rw [subEntityLoad]
  exact (((updateEntityLoadAvg_quiet cfg s e true).trans (updateCfsRqBlockedLoad_quiet _ q force)).trans
    (modifyCfs_quiet _ _ rfl rfl)).trans (modifyRq_quiet _ _ rfl rfl)

lemma enqueueEntityLoadAvg_bare (wakeup : Bool) : (s.enqueueEntityLoadAvg cfg e wakeup).bare = s.bare :=
  (updateCfsRqBlockedLoad_quiet _ _ _).bare.trans
    ((modifyCpuAvg_bare _ _ _).trans (addEntityLoad_quiet cfg s e wakeup).bare)

lemma dequeueEntityLoadAvg_bare (sleep : Bool) : (s.dequeueEntityLoadAvg cfg e sleep).bare = s.bare := by
  dsimp only [dequeueEntityLoadAvg]
  split
  · refine ((modifyCfs_quiet _ _ rfl rfl).trans (modifyAvg_quiet _ e _)).bare.trans ?_
    exact (modifyCpuAvg_bare _ _ _).trans (subEntityLoad_quiet ..).bare
  · exact (modifyCpuAvg_bare _ _ _).trans (subEntityLoad_quiet ..).bare

lemma removeTaskLoad_quiet (t : T) : Quiet s (s.removeTaskLoad t) := by
  rw [removeTaskLoad]
  exact (modifyAvg_quiet s _ _).trans (modifyCfs_quiet _ _ rfl rfl)

lemma reweightEntity_still (weight : Nat) : Still s (s.reweightEntity cfg e weight) := by
  dsimp only [reweightEntity]
  split
  · exact ((accountEntity_still cfg s e _).trans (modifySe_still _ e rfl)).trans (accountEntity_still cfg _ e _)
  · exact modifySe_still s e rfl

lemma updateCfsShares_still : Still s (s.updateCfsShares cfg q) := by
  dsimp only [updateCfsShares]
  split
  · exact .refl s
  · split
    · exact .refl s
    · exact reweightEntity_still cfg s _ _

lemma migrateTaskRqFair_calm (t : T) (nohz : Option Nat) : Calm s (s.migrateTaskRqFair t nohz) := by
  dsimp only [migrateTaskRqFair, refreshNohz]
  split
  · refine Calm.trans ?_ (removeTaskLoad_quiet _ t).toCalm
    split
    · split
      · exact .refl s
      · exact (modifyRq_calm s _ rfl).trans (updateCfsRqBlockedLoad_quiet _ _ false).toCalm
    · exact .refl s
  · exact .refl s

/-- A migration may bring the clock of the old CPU up to date. -/
lemma migrateTaskRqFair_bare (t : T) (nohz : Option Nat) : (s.migrateTaskRqFair t nohz).bare = s.bare ∨
    ∃ clockTask, nohz = some clockTask ∧ (s.migrateTaskRqFair t nohz).bare =
    (s.updateRqClock (s.taskQueue t).cpu clockTask).bare := by
  rw [migrateTaskRqFair]
  split
  · rw [(removeTaskLoad_quiet _ t).bare]
    dsimp only [refreshNohz]
    split
    · split
      · exact .inl rfl
      · exact .inr ⟨_, rfl, (updateCfsRqBlockedLoad_quiet _ _ _).bare⟩
    · exact .inl rfl
  · exact .inl rfl

end Quiet

end BigLittle.Cfs
