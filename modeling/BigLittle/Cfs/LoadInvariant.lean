import Mathlib.Data.Fintype.BigOperators
import Mathlib.Algebra.BigOperators.Ring.Finset
import BigLittle.Cfs.Keeps
import BigLittle.Cfs.LoadLedger
import BigLittle.Lib.Run

/-!
# The load totals are the sums they stand for

Between operations, modulo `2^64`, `runnable_load_avg` of a queue is the sum of the
contributions of the entities queued on it, and `avg.load_avg_ratio` of a CPU the sum of
the ratios of the tasks queued anywhere below it.

An operation on an entity adjusts both ledgers for that entity alone, and throttling is
a sequence of such operations up the tree. The callers enqueue only entities that are
not queued and dequeue only queued ones; `Op.Allowed` states this.
-/

namespace BigLittle.Cfs

open Sched Tally State

variable {T G C : Type*} [DecidableEq G] [DecidableEq C] {cfg : Config G C} {s : State T G C}

section Operations

variable (cfg s) (e : Entity T G C)

lemma modifyCpuAvg_sameLoads (cpu : C) {f : SchedAvg → SchedAvg}
    (hrecord : ∀ sa, hmpRecord (f sa) = hmpRecord sa) : SameLoads s (s.modifyCpuAvg cpu f) :=
  modifyCfs_sameLoads s _ rfl (hrecord _)

lemma refreshNohz_sameLoads (t : T) (nohz : Option Nat) : SameLoads s (s.refreshNohz t nohz) := by
  cases nohz with
  | none => exact .refl s
  | some clockTask =>
    unfold refreshNohz
    dsimp only
    split
    · exact .refl s
    · exact (updateRqClock_sameLoads s _ _).trans (updateCfsRqBlockedLoad_sameLoads _ _ _)

variable [DecidableEq T]

/-- After the additions, nothing up to the end of `enqueue_entity` touches the
loads but the flag. -/
lemma enqueued_eq (wakeup : Bool) : ∃ t, SameLoads ((s.prepareEnqueue cfg e wakeup).addEntityLoad cfg e) t ∧
    s.enqueued cfg e wakeup = t.modifySe e fun se => { se with onRq := true } := by
  refine ⟨_, ?_, rfl⟩
  refine .trans ?_ (updateCfsShares_sameLoads cfg _ _)
  refine .trans ?_ (accountEntity_sameLoads cfg _ e _)
  refine .trans ?_ (updateCfsRqBlockedLoad_sameLoads _ _ _)
  exact modifyCpuAvg_sameLoads _ _ fun sa => rfl

lemma enqueued_adjusts (wakeup : Bool) (hoff : (s.se e).onRq = false) : Adjusts cfg e s (s.enqueued cfg e wakeup) := by
  obtain ⟨t, hsame, heq⟩ := enqueued_eq cfg s e wakeup
  have hon : ((s.enqueued cfg e wakeup).se e).onRq = true := by
    rw [heq, modifySe_se_self]
  have hcontrib : ((s.enqueued cfg e wakeup).se e).avg.loadAvgContrib =
      ((s.prepareEnqueue cfg e wakeup).se e).avg.loadAvgContrib := by
    rw [heq, modifySe_se_self]
    exact hsame.contrib e
  have hratio : ((s.enqueued cfg e wakeup).se e).avg.loadAvgRatio =
      ((s.prepareEnqueue cfg e wakeup).se e).avg.loadAvgRatio := by
    rw [heq, modifySe_se_self]
    exact hsame.ratio e
  have hmoves := (((prepareEnqueue_reestimates cfg s e wakeup).moves.trans
    (addEntityLoad_moves cfg _ e)).trans hsame.moves).trans
    (modifySe_moves t e (f := fun se => { se with onRq := true }) rfl)
  rw [← heq] at hmoves
  refine hmoves.adjusts ?_ ?_
  · rw [contrib_counted cfg hon, contrib_counted_off cfg hoff, hcontrib]
    simp
  · rw [ratio_counted cfg hon, ratio_counted_off cfg hoff, hratio]
    simp

/-- `dequeue_entity` after the update of the entity's own load. -/
lemma dequeueEntity_eq (sleep : Bool) : ∃ t u, SameLoads (s.updateEntityLoadAvg cfg e true) t ∧
      SameLoads (t.subEntityLoad cfg e) u ∧
      SameLoads (u.modifySe e fun se => { se with onRq := false })
        (s.dequeueEntity cfg e sleep) := by
  refine ⟨_, _, updateCfsRqBlockedLoad_sameLoads _ (s.cfsRqOf cfg e) (!sleep), ?_,
    (accountEntity_sameLoads cfg _ e _).trans (updateCfsShares_sameLoads cfg _ _)⟩
  unfold dequeueEntityLoadAvg
  dsimp only
  split
  · refine .trans (modifyCpuAvg_sameLoads _ _ ?_)
      ((modifyCfs_sameLoads _ _ rfl rfl).trans (modifySe_sameLoads _ e rfl rfl rfl))
    exact fun sa => rfl
  · exact modifyCpuAvg_sameLoads _ _ fun sa => rfl

lemma dequeueEntity_adjusts (sleep : Bool) (hon : (s.se e).onRq = true) :
    Adjusts cfg e s (s.dequeueEntity cfg e sleep) := by
  obtain ⟨t, u, hbefore, hafter, hdone⟩ := dequeueEntity_eq cfg s e sleep
  have hupdate := updateEntityLoadAvg_adjusts cfg s e
  have hont : (t.se e).onRq = true :=
    (hbefore.onRq e).trans ((updateEntityLoadAvg_onRq cfg s e e).trans hon)
  have hoff : ((s.dequeueEntity cfg e sleep).se e).onRq = false := by
    rw [hdone.onRq e, modifySe_se_self]
  have hmoves := (((subEntityLoad_moves cfg t e).trans hafter.moves).trans
    (modifySe_moves u e (f := fun se => { se with onRq := false }) rfl)).trans hdone.moves
  refine (hupdate.trans (hbefore.adjusts e)).trans (hmoves.adjusts ?_ ?_)
  · rw [contrib_counted cfg hont, contrib_counted_off cfg hoff]
    simp
  · rw [ratio_counted cfg hont, ratio_counted_off cfg hoff]
    simp

lemma removeTaskLoad_reestimates (t : T) : Reestimates (.task t) s (s.removeTaskLoad t) := by
  unfold removeTaskLoad
  refine .trans (modifySe_reestimates s (.task t) rfl ?_) ((modifyCfs_sameLoads _ _ rfl rfl).reestimates _)
  intro g cpu hgroup
  cases hgroup

lemma migrateTaskRqFair_reestimates (t : T) (nohz : Option Nat) :
    Reestimates (.task t) s (s.migrateTaskRqFair t nohz) := by
  unfold migrateTaskRqFair
  split
  · exact ((refreshNohz_sameLoads s t nohz).reestimates _).trans (removeTaskLoad_reestimates _ t)
  · exact (SameLoads.refl s).reestimates _

/-- An absent task may change its queue. -/
lemma setTaskQueue_adjusts (t : T) (q : QueueId G C) (hoff : (s.se (.task t)).onRq = false) :
    Adjusts cfg (.task t) s { s with taskQueue := Function.update s.taskQueue t q } := by
  have hhome := s.cfsRqOf_setTaskQueue cfg t q
  exact ⟨Ledger.adjusts_of_absent hhome (fun _ _ => rfl) (fun _ _ => rfl) hoff hoff (fun _ => rfl),
    Ledger.adjusts_of_absent (fun e he => congrArg QueueId.cpu (hhome e he)) (fun _ _ => rfl)
      (fun _ _ => rfl) hoff hoff (fun _ => rfl),
    fun _ _ => rfl⟩

end Operations

section Consistency

variable [DecidableEq T] [Fintype (Entity T G C)]

lemma migrateTask_consistent (t : T) (cpu : C) (nohz : Option Nat) (hoff : (s.se (.task t)).onRq = false)
    (hs : LoadConsistent cfg s) : LoadConsistent cfg (s.migrateTask t cpu nohz) := by
  have hest := migrateTaskRqFair_reestimates s t nohz
  have hleft : Adjusts cfg (.task t) s (s.migrateTaskRqFair t nohz) := hest.adjusts_of_off hoff
  unfold migrateTask
  dsimp only
  split
  · exact (setTaskQueue_adjusts cfg s t _ hoff).consistent hs
  · exact (setTaskQueue_adjusts cfg _ t _ ((hest.onRq _).trans hoff)).consistent (hleft.consistent hs)

lemma loadConsistent_keeps (cfg : Config G C) : Keeps cfg fun s : State T G C => LoadConsistent cfg s where
  enqueued s e wakeup hoff hs := (enqueued_adjusts cfg s e wakeup hoff).consistent hs
  dequeueEntity s e sleep hon hs := (dequeueEntity_adjusts cfg s e sleep hon).consistent hs
  updateCfsShares s q hs := (updateCfsShares_sameLoads cfg s q).consistent hs
  updateEntityLoadAvg s e hs := (updateEntityLoadAvg_adjusts cfg s e).consistent hs
  updateCfsRqBlockedLoad s q force hs := (updateCfsRqBlockedLoad_sameLoads s q force).consistent hs
  updateRqRunnableAvg s cpu runnable hs :=
    (updateRqRunnableAvg_sameLoads cfg s cpu runnable).consistent hs
  migrateTask _ t cpu nohz hoff hs := migrateTask_consistent t cpu nohz hoff hs
  modifyCfs s q _ hf hs :=
    (modifyCfs_sameLoads s q (CfsRq.runnableLoadAvg_of_accounts (hf.accounts _))
      (congrArg hmpRecord (CfsRq.avg_of_accounts (hf.accounts _)))).consistent hs
  walkTgTreeFrom s q visit hvisit hs :=
    (walkTgTreeFrom_sameLoads cfg s q visit
      (fun c clock => CfsRq.runnableLoadAvg_of_accounts ((hvisit clock).accounts c))
      (fun c clock => CfsRq.avg_of_accounts ((hvisit clock).accounts c))).consistent hs
  modifyRq s cpu _ hf hs :=
    (modifyRq_sameLoads s cpu (congrArg SchedAvg.loadAvgRatio (hf.avg (s.rq cpu)))).consistent hs

end Consistency

section Sums

variable [Fintype T] [Fintype G] [Fintype C]

def Entity.equivSum : Entity T G C ≃ T ⊕ G × C where
  toFun
    | .task t => .inl t
    | .group g cpu => .inr (g, cpu)
  invFun
    | .inl t => .task t
    | .inr (g, cpu) => .group g cpu
  left_inv e := by cases e <;> rfl
  right_inv x := by cases x <;> rfl

instance : Fintype (Entity T G C) := Fintype.ofEquiv _ Entity.equivSum.symm

omit [DecidableEq G] [DecidableEq C] in
lemma Entity.sum_eq {M : Type*} [AddCommMonoid M] (f : Entity T G C → M) :
    ∑ e, f e = ∑ t, f (.task t) + ∑ p : G × C, f (.group p.1 p.2) := by
  rw [← Equiv.sum_comp Entity.equivSum.symm, Fintype.sum_sum_type]
  rfl

/-- The queue's total is the sum of the contributions queued on it. -/
def RunnableIsSum (cfg : Config G C) (s : State T G C) : Prop :=
  ∀ q, (s.cfs q).runnableLoadAvg ≡
    ∑ e with (s.se e).onRq = true ∧ s.cfsRqOf cfg e = q, (s.se e).avg.loadAvgContrib [MOD 2 ^ 64]

/-- The CPU's total is the sum of the ratios of the tasks queued below it. -/
def CpuRatioIsSum (s : State T G C) : Prop :=
  ∀ cpu, (s.rq cpu).avg.loadAvgRatio ≡ ∑ t with (s.se (.task t)).onRq = true ∧ (s.taskQueue t).cpu = cpu,
      (s.se (.task t)).avg.loadAvgRatio [MOD 2 ^ 64]

lemma LoadConsistent.runnableIsSum (hs : LoadConsistent cfg s) : RunnableIsSum cfg s := by
  intro q
  rw [← ZMod.natCast_eq_natCast_iff, Nat.cast_sum]
  exact hs.contrib q

lemma LoadConsistent.cpuRatioIsSum (hs : LoadConsistent cfg s) : CpuRatioIsSum s := by
  intro cpu
  rw [← ZMod.natCast_eq_natCast_iff, Nat.cast_sum]
  have hbalance := (Ledger.balanced_iff _).mp hs.ratio cpu
  have hgroups : ∀ p : G × C, (s.ratioLedger cfg).share (.group p.1 p.2) cpu = 0 := by
    intro p
    have hzero : (s.ratioLedger cfg).counted (.group p.1 p.2) = 0 := by
      change (if _ then ((s.se (.group p.1 p.2)).avg.loadAvgRatio : ZMod (2 ^ 64)) else 0) = 0
      rw [hs.groupRatio]
      simp
    rw [Ledger.share, hzero]
    simp
  rw [Entity.sum_eq, Finset.sum_congr rfl fun p _ => hgroups p, Finset.sum_const_zero, add_zero] at hbalance
  refine hbalance.trans ?_
  rw [Finset.sum_filter]
  exact Finset.sum_congr rfl fun t _ => Ledger.share_eq _ _ _

lemma boot_consistent (cfg : Config G C) (start : Start T G C) : LoadConsistent cfg (boot start) := by
  refine ⟨?_, ?_, fun g cpu => rfl⟩
  · rw [Ledger.balanced_iff]
    intro q
    refine Eq.symm (Eq.trans (Finset.sum_eq_zero fun e _ => ?_) Nat.cast_zero.symm)
    rw [Ledger.share, contrib_counted_off cfg (boot_onRq start e)]
    simp
  · rw [Ledger.balanced_iff]
    intro cpu
    refine Eq.symm (Eq.trans (Finset.sum_eq_zero fun e _ => ?_) Nat.cast_zero.symm)
    rw [Ledger.share, ratio_counted_off cfg (boot_onRq start e)]
    simp

variable [DecidableEq T]

/-- For every hierarchy and every sequence of operations that the callers allow,
both totals are the sums they stand for at every point between operations. -/
theorem load_totals_are_sums (cfg : Config G C) (start : Start T G C) (ops : List (Op T G C))
    (hallowed : Run.Each (step cfg) Op.Allowed (boot start) ops) :
    Run.Always (step cfg) (fun s => RunnableIsSum cfg s ∧ CpuRatioIsSum s) (boot start) ops := by
  have hinv := Run.always_of_each (fun s op => (loadConsistent_keeps cfg).step op)
    (boot_consistent cfg start) hallowed
  exact hinv.mono fun s hs => ⟨hs.runnableIsSum, hs.cpuRatioIsSum⟩

/-- One task in one group on one CPU: it is enqueued with its group, runs, is
ticked, and its group is throttled and unthrottled before it sleeps. -/
theorem load_totals_are_sums_one_task :
    let cfg : Config Unit Unit := { cpuId := fun _ => 0, bandwidthUsed := true }
    let task : Entity Unit Unit Unit := .task ()
    let group : Entity Unit Unit Unit := .group () ()
    Run.Always (step cfg) (fun s => RunnableIsSum cfg s ∧ CpuRatioIsSum s)
      (boot { taskQueue := fun _ => ⟨some (), ()⟩ })
      [.updateRqClock () 5000000, .enqueueEntity task false fun _ => false,
       .enqueueEntity group true fun _ => false, .setNextEntity group, .setNextEntity task,
       .updateRqClock () 9000000, .entityTick task, .entityTick group,
       .throttleCfsRq ⟨some (), ()⟩, .unthrottleCfsRq ⟨some (), ()⟩ fun _ => false,
       .dequeueEntity task true] :=
  load_totals_are_sums _ _ _ (by decide +kernel)

end Sums

end BigLittle.Cfs
