import BigLittle.Cfs.Entity
import BigLittle.Lib.Tally

/-!
# What the operations leave alone

Load tracking keeps two running totals: `runnable_load_avg` of each queue and
`avg.load_avg_ratio` of each CPU. Most of the code between two updates of these
totals does not touch them, nor the estimates and `on_rq` flags they sum up.
`SameLoads` says so for a whole operation; `Reestimates` allows the estimates of
one entity to change.
-/

namespace BigLittle.Cfs

open Sched State

variable {T G C : Type*}

/-- The estimate and the migration times of a record. -/
def hmpRecord (sa : SchedAvg) : Nat × Nat × Nat :=
  (sa.loadAvgRatio, sa.hmpLastUpMigration, sa.hmpLastDownMigration)

/-- The flags, the totals and what only the HMP decisions read of a queue are the same. -/
structure SameTotals (s t : State T G C) : Prop where
  onRq : ∀ e, (t.se e).onRq = (s.se e).onRq := by exact fun _ => rfl
  runnable : ∀ q, (t.cfs q).runnableLoadAvg = (s.cfs q).runnableLoadAvg := by exact fun _ => rfl
  cpuRatio : ∀ cpu, (t.rq cpu).avg.loadAvgRatio = (s.rq cpu).avg.loadAvgRatio := by exact fun _ => rfl
  queueRecord : ∀ q, hmpRecord (t.cfs q).avg = hmpRecord (s.cfs q).avg := by exact fun _ => rfl

/-- Nothing that the totals depend on has changed. -/
structure SameLoads (s t : State T G C) : Prop extends SameTotals s t where
  taskQueue : t.taskQueue = s.taskQueue := by exact rfl
  contrib : ∀ e, (t.se e).avg.loadAvgContrib = (s.se e).avg.loadAvgContrib := by exact fun _ => rfl
  ratio : ∀ e, (t.se e).avg.loadAvgRatio = (s.se e).avg.loadAvgRatio := by exact fun _ => rfl

/-- The estimates of all entities but `e`; a group entity keeps its ratio. -/
structure Others (e : Entity T G C) (s t : State T G C) : Prop where
  taskQueue : t.taskQueue = s.taskQueue := by exact rfl
  contrib : ∀ e', e' ≠ e → (t.se e').avg.loadAvgContrib = (s.se e').avg.loadAvgContrib := by exact fun _ _ => rfl
  ratio : ∀ e', e' ≠ e → (t.se e').avg.loadAvgRatio = (s.se e').avg.loadAvgRatio := by exact fun _ _ => rfl
  groupRatio : ∀ g cpu, (t.se (.group g cpu)).avg.loadAvgRatio =
    (s.se (.group g cpu)).avg.loadAvgRatio := by exact fun _ _ => rfl

/-- Only the estimates of `e` may have changed. -/
structure Reestimates (e : Entity T G C) (s t : State T G C) : Prop extends SameTotals s t, Others e s t

section Composition

variable {s t u : State T G C} {e : Entity T G C}

lemma SameTotals.trans (h : SameTotals s t) (h' : SameTotals t u) : SameTotals s u :=
  ⟨fun e => (h'.onRq e).trans (h.onRq e), fun q => (h'.runnable q).trans (h.runnable q),
    fun cpu => (h'.cpuRatio cpu).trans (h.cpuRatio cpu), fun q => (h'.queueRecord q).trans (h.queueRecord q)⟩

lemma SameLoads.refl (s : State T G C) : SameLoads s s := {}

lemma SameLoads.trans (h : SameLoads s t) (h' : SameLoads t u) : SameLoads s u :=
  ⟨h.toSameTotals.trans h'.toSameTotals, h'.taskQueue.trans h.taskQueue,
    fun e => (h'.contrib e).trans (h.contrib e), fun e => (h'.ratio e).trans (h.ratio e)⟩

lemma SameLoads.reestimates (h : SameLoads s t) (e : Entity T G C) : Reestimates e s t :=
  ⟨h.toSameTotals, h.taskQueue, fun e' _ => h.contrib e', fun e' _ => h.ratio e', fun g cpu => h.ratio (.group g cpu)⟩

lemma Others.trans (h : Others e s t) (h' : Others e t u) : Others e s u :=
  ⟨h'.taskQueue.trans h.taskQueue, fun e' he => (h'.contrib e' he).trans (h.contrib e' he),
    fun e' he => (h'.ratio e' he).trans (h.ratio e' he),
    fun g cpu => (h'.groupRatio g cpu).trans (h.groupRatio g cpu)⟩

lemma Reestimates.trans (h : Reestimates e s t) (h' : Reestimates e t u) : Reestimates e s u :=
  ⟨h.toSameTotals.trans h'.toSameTotals, h.toOthers.trans h'.toOthers⟩

end Composition

section Frame

variable [DecidableEq C] (cfg : Config G C) (s : State T G C) (e : Entity T G C) (cpu : C) (q : QueueId G C)

lemma modifyRq_sameLoads {f : Rq → Rq} (hratio : (f (s.rq cpu)).avg.loadAvgRatio = (s.rq cpu).avg.loadAvgRatio) :
    SameLoads s (s.modifyRq cpu f) := { cpuRatio := modifyRq_keeps (fun r => r.avg.loadAvgRatio) hratio }

lemma updateRqClock_sameLoads (clockTask : Nat) : SameLoads s (s.updateRqClock cpu clockTask) := by
  unfold updateRqClock
  exact modifyRq_sameLoads s cpu rfl

variable [DecidableEq G]

lemma modifyCfs_sameLoads {f : CfsRq T G C → CfsRq T G C}
    (hrunnable : (f (s.cfs q)).runnableLoadAvg = (s.cfs q).runnableLoadAvg)
    (hrecord : hmpRecord (f (s.cfs q)).avg = hmpRecord (s.cfs q).avg) : SameLoads s (s.modifyCfs q f) :=
  { runnable := modifyCfs_keeps (fun c => c.runnableLoadAvg) hrunnable
    queueRecord := modifyCfs_keeps (fun c => hmpRecord c.avg) hrecord }

omit [DecidableEq C] in
lemma modifyTg_sameLoads (g : Option G) (f : TaskGroup → TaskGroup) : SameLoads s (s.modifyTg g f) := {}

lemma updateCfsRqTgLoadContrib_sameLoads (force : Bool) : SameLoads s (s.updateCfsRqTgLoadContrib q force) := by
  unfold updateCfsRqTgLoadContrib
  dsimp only
  split
  · exact (modifyTg_sameLoads s _ _).trans (modifyCfs_sameLoads _ q rfl rfl)
  · exact .refl s

lemma updateCfsRqBlockedLoad_sameLoads (force : Bool) : SameLoads s (s.updateCfsRqBlockedLoad q force) := by
  unfold updateCfsRqBlockedLoad
  dsimp only
  split
  · exact .refl s
  · obtain ⟨_, _, _, _, h⟩ := (s.cfs q).decayBlockedLoad_eq (s.cfsRqClockTask q >>> 20)
    exact (modifyCfs_sameLoads s q (h ▸ rfl) (h ▸ rfl)).trans (updateCfsRqTgLoadContrib_sameLoads _ q force)

lemma updateTgRunnableAvg_sameLoads (sa : SchedAvg) (q : QueueId G C) : SameLoads s (s.updateTgRunnableAvg sa q) := by
  unfold updateTgRunnableAvg
  dsimp only
  split
  · exact (modifyTg_sameLoads s _ _).trans (modifyCfs_sameLoads _ q rfl rfl)
  · exact .refl s

lemma updateRqRunnableAvg_sameLoads (runnable : Bool) : SameLoads s (s.updateRqRunnableAvg cfg cpu runnable) := by
  have hkeep := (updateEntityRunnableAvg_estimates cfg.load (s.rq cpu).clockTask (s.rq cpu).avg
    runnable runnable (cfg.cpuId cpu)).2
  exact (modifyRq_sameLoads s cpu hkeep).trans (updateTgRunnableAvg_sameLoads _ _ _)

lemma accountEntity_sameLoads (count : Nat → Nat → Nat → Nat) : SameLoads s (s.accountEntity cfg e count) := by
  unfold accountEntity
  dsimp only
  split
  · exact (modifyCfs_sameLoads s _ rfl rfl).trans (modifyRq_sameLoads _ _ rfl)
  · exact modifyCfs_sameLoads s _ rfl rfl

lemma walkTgTreeFrom_sameLoads (visit : CfsRq T G C → Nat → CfsRq T G C)
    (hrunnable : ∀ c clock, (visit c clock).runnableLoadAvg = c.runnableLoadAvg)
    (havg : ∀ c clock, (visit c clock).avg = c.avg) : SameLoads s (s.walkTgTreeFrom cfg q visit) := by
  refine { runnable := fun r => ?_, queueRecord := fun r => ?_ }
  · change (if below cfg q r then _ else _ : CfsRq T G C).runnableLoadAvg = _
    split
    · exact hrunnable _ _
    · rfl
  · change hmpRecord (if below cfg q r then _ else _ : CfsRq T G C).avg = _
    split
    · rw [havg]
    · rfl

variable [DecidableEq T]

lemma modifySe_sameLoads {f : SchedEntity → SchedEntity} (honRq : (f (s.se e)).onRq = (s.se e).onRq)
    (hcontrib : (f (s.se e)).avg.loadAvgContrib = (s.se e).avg.loadAvgContrib)
    (hratio : (f (s.se e)).avg.loadAvgRatio = (s.se e).avg.loadAvgRatio) : SameLoads s (s.modifySe e f) :=
  { onRq := modifySe_keeps (fun se => se.onRq) honRq
    contrib := modifySe_keeps (fun se => se.avg.loadAvgContrib) hcontrib
    ratio := modifySe_keeps (fun se => se.avg.loadAvgRatio) hratio }

lemma reweightEntity_sameLoads (weight : Nat) : SameLoads s (s.reweightEntity cfg e weight) := by
  unfold reweightEntity
  split
  · exact ((accountEntity_sameLoads cfg s e _).trans (modifySe_sameLoads _ e rfl rfl rfl)).trans
      (accountEntity_sameLoads cfg _ e _)
  · exact modifySe_sameLoads s e rfl rfl rfl

lemma updateCfsShares_sameLoads : SameLoads s (s.updateCfsShares cfg q) := by
  unfold updateCfsShares
  split
  · exact .refl s
  · split
    · exact .refl s
    · exact reweightEntity_sameLoads cfg s _ _

end Frame

end BigLittle.Cfs
