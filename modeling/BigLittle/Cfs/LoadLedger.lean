import BigLittle.Cfs.LoadFrame

/-!
# The two load totals as ledgers

`runnable_load_avg` of a queue and `avg.load_avg_ratio` of a CPU are ledgers over
the same entities, with values modulo `2^64`. `Moves` records how far an
operation has moved the totals of an entity's queue and CPU; it composes along
the source's sequence of small steps, some of which leave the ledgers unbalanced
in between. Once the totals have moved by what the entity counts for, the
operation as a whole `Adjusts` both ledgers.
-/

namespace BigLittle.Cfs

open Sched Tally State Word

variable {T G C : Type*} {cfg : Config G C} {s t u : State T G C} {e : Entity T G C}

/-- `runnable_load_avg` of each queue against the contributions on it. -/
def State.contribLedger (cfg : Config G C) (s : State T G C) : Ledger (Entity T G C) (QueueId G C) (ZMod (2 ^ 64)) where
  home := s.cfsRqOf cfg
  present := fun e => (s.se e).onRq
  value := fun e => ((s.se e).avg.loadAvgContrib : ZMod (2 ^ 64))
  total := fun q => ((s.cfs q).runnableLoadAvg : ZMod (2 ^ 64))

/-- `avg.load_avg_ratio` of each CPU against the ratios on it. -/
def State.ratioLedger (cfg : Config G C) (s : State T G C) : Ledger (Entity T G C) C (ZMod (2 ^ 64)) where
  home := fun e => (s.cfsRqOf cfg e).cpu
  present := fun e => (s.se e).onRq
  value := fun e => ((s.se e).avg.loadAvgRatio : ZMod (2 ^ 64))
  total := fun cpu => ((s.rq cpu).avg.loadAvgRatio : ZMod (2 ^ 64))

lemma SameLoads.contribLedger_eq (h : SameLoads s t) (cfg : Config G C) :
    t.contribLedger cfg = s.contribLedger cfg := by
  apply Ledger.ext
  · funext e
    exact congrFun (cfsRqOf_congr h.taskQueue cfg) e
  · funext e
    exact h.onRq e
  · funext e
    exact congrArg Nat.cast (h.contrib e)
  · funext q
    exact congrArg Nat.cast (h.runnable q)

lemma SameLoads.ratioLedger_eq (h : SameLoads s t) (cfg : Config G C) : t.ratioLedger cfg = s.ratioLedger cfg := by
  apply Ledger.ext
  · funext e
    exact congrArg QueueId.cpu (congrFun (cfsRqOf_congr h.taskQueue cfg) e)
  · funext e
    exact h.onRq e
  · funext e
    exact congrArg Nat.cast (h.ratio e)
  · funext cpu
    exact congrArg Nat.cast (h.cpuRatio cpu)

lemma contrib_counted (cfg : Config G C) (hon : (s.se e).onRq = true) :
    (s.contribLedger cfg).counted e = (s.se e).avg.loadAvgContrib := if_pos hon

lemma contrib_counted_off (cfg : Config G C) (hoff : (s.se e).onRq = false) : (s.contribLedger cfg).counted e = 0 :=
  if_neg (ne_of_eq_of_ne hoff Bool.false_ne_true)

lemma ratio_counted (cfg : Config G C) (hon : (s.se e).onRq = true) :
    (s.ratioLedger cfg).counted e = (s.se e).avg.loadAvgRatio := if_pos hon

lemma ratio_counted_off (cfg : Config G C) (hoff : (s.se e).onRq = false) : (s.ratioLedger cfg).counted e = 0 :=
  if_neg (ne_of_eq_of_ne hoff Bool.false_ne_true)

variable [DecidableEq G] [DecidableEq C]

/-- Both ledgers follow a change of `e`, and no group entity gains a ratio. -/
structure Adjusts (cfg : Config G C) (e : Entity T G C)
    (s t : State T G C) : Prop where
  contrib : Ledger.Adjusts e (s.contribLedger cfg) (t.contribLedger cfg)
  ratio : Ledger.Adjusts e (s.ratioLedger cfg) (t.ratioLedger cfg)
  groupRatio : ∀ g cpu, (t.se (.group g cpu)).avg.loadAvgRatio =
    (s.se (.group g cpu)).avg.loadAvgRatio

/-- The invariant: both ledgers are balanced and group entities have no ratio. -/
structure LoadConsistent [Fintype (Entity T G C)] (cfg : Config G C)
    (s : State T G C) : Prop where
  contrib : (s.contribLedger cfg).Balanced
  ratio : (s.ratioLedger cfg).Balanced
  groupRatio : ∀ g cpu, (s.se (.group g cpu)).avg.loadAvgRatio = 0

variable [DecidableEq T] in
lemma Adjusts.consistent [Fintype (Entity T G C)] (h : Adjusts cfg e s t) (hs : LoadConsistent cfg s) :
    LoadConsistent cfg t :=
  ⟨h.contrib.balanced hs.contrib, h.ratio.balanced hs.ratio,
    fun g cpu => (h.groupRatio g cpu).trans (hs.groupRatio g cpu)⟩

lemma Adjusts.trans (h : Adjusts cfg e s t) (h' : Adjusts cfg e t u) : Adjusts cfg e s u :=
  ⟨h.contrib.trans h'.contrib, h.ratio.trans h'.ratio, fun g cpu => (h'.groupRatio g cpu).trans (h.groupRatio g cpu)⟩

lemma SameLoads.consistent [Fintype (Entity T G C)] (h : SameLoads s t)
    (hs : LoadConsistent cfg s) : LoadConsistent cfg t := by
  refine ⟨?_, ?_, fun g cpu => (h.ratio _).trans (hs.groupRatio g cpu)⟩
  · rw [h.contribLedger_eq cfg]
    exact hs.contrib
  · rw [h.ratioLedger_eq cfg]
    exact hs.ratio

/-- Among the entities only `e` has changed, and the totals of its queue and its
CPU have moved by `c` and `r`. -/
structure Moves (cfg : Config G C) (e : Entity T G C) (c r : ZMod (2 ^ 64))
    (s t : State T G C) : Prop extends Others e s t where
  onRq : ∀ e', e' ≠ e → (t.se e').onRq = (s.se e').onRq
  runnable : ∀ q, ((t.cfs q).runnableLoadAvg : ZMod (2 ^ 64)) =
    (s.cfs q).runnableLoadAvg + if s.cfsRqOf cfg e = q then c else 0
  cpuRatio : ∀ cpu, ((t.rq cpu).avg.loadAvgRatio : ZMod (2 ^ 64)) =
    (s.rq cpu).avg.loadAvgRatio + if (s.cfsRqOf cfg e).cpu = cpu then r else 0

section Moves

variable {c c' r r' : ZMod (2 ^ 64)}

lemma Reestimates.moves (h : Reestimates e s t) : Moves cfg e 0 0 s t := by
  refine ⟨h.toOthers, fun e' _ => h.onRq e', ?_, ?_⟩
  · intro q
    simp [h.runnable q]
  · intro cpu
    simp [h.cpuRatio cpu]

lemma SameLoads.moves (h : SameLoads s t) : Moves cfg e 0 0 s t := (h.reestimates e).moves

lemma Moves.trans (h : Moves cfg e c r s t) (h' : Moves cfg e c' r' t u) : Moves cfg e (c + c') (r + r') s u := by
  have hhome := cfsRqOf_congr h.taskQueue cfg
  refine ⟨h.toOthers.trans h'.toOthers, fun e' he => (h'.onRq e' he).trans (h.onRq e' he), ?_, ?_⟩
  · intro q
    rw [h'.runnable q, h.runnable q, hhome]
    split
    · rw [add_assoc]
    · rw [add_zero, add_zero]
  · intro cpu
    rw [h'.cpuRatio cpu, h.cpuRatio cpu, hhome]
    split
    · rw [add_assoc]
    · rw [add_zero, add_zero]

/-- Totals that moved by what the entity now counts for, less what it counted
for before. -/
lemma Moves.adjusts (h : Moves cfg e c r s t)
    (hc : c = (t.contribLedger cfg).counted e - (s.contribLedger cfg).counted e)
    (hr : r = (t.ratioLedger cfg).counted e - (s.ratioLedger cfg).counted e) : Adjusts cfg e s t := by
  have hhome := congrFun (cfsRqOf_congr h.taskQueue cfg)
  refine ⟨Ledger.adjusts_of_difference (fun e' _ => hhome e') h.onRq
      (fun e' he => congrArg Nat.cast (h.contrib e' he)) (hhome e) ?_,
    Ledger.adjusts_of_difference (fun e' _ => congrArg QueueId.cpu (hhome e')) h.onRq
      (fun e' he => congrArg Nat.cast (h.ratio e' he)) (congrArg QueueId.cpu (hhome e)) ?_,
    h.groupRatio⟩
  · intro q
    rw [← hc]
    exact h.runnable q
  · intro cpu
    rw [← hr]
    exact h.cpuRatio cpu

lemma SameLoads.adjusts (h : SameLoads s t) (e : Entity T G C) : Adjusts cfg e s t := by
  refine h.moves.adjusts ?_ ?_
  · rw [h.contribLedger_eq cfg, sub_self]
  · rw [h.ratioLedger_eq cfg, sub_self]

/-- New estimates for an entity that is not queued need no change of a total. -/
lemma Reestimates.adjusts_of_off (h : Reestimates e s t) (hoff : (s.se e).onRq = false) : Adjusts cfg e s t := by
  have hoff' : (t.se e).onRq = false := (h.onRq e).trans hoff
  refine h.moves.adjusts ?_ ?_
  · rw [contrib_counted_off cfg hoff, contrib_counted_off cfg hoff', sub_self]
  · rw [ratio_counted_off cfg hoff, ratio_counted_off cfg hoff', sub_self]

variable (cfg s e)

/-- Write the totals of the entity's queue and CPU. -/
lemma modifyTotals_moves {f : CfsRq T G C → CfsRq T G C} {g : Rq → Rq}
    (hf : ((f (s.cfs (s.cfsRqOf cfg e))).runnableLoadAvg : ZMod (2 ^ 64)) =
      (s.cfs (s.cfsRqOf cfg e)).runnableLoadAvg + c)
    (hg : ((g (s.rq (s.cfsRqOf cfg e).cpu)).avg.loadAvgRatio : ZMod (2 ^ 64)) =
      (s.rq (s.cfsRqOf cfg e).cpu).avg.loadAvgRatio + r) : Moves cfg e c r s
      ((s.modifyCfs (s.cfsRqOf cfg e) f).modifyRq (s.cfsRqOf cfg e).cpu g) := by
  refine ⟨{}, fun _ _ => rfl, ?_, ?_⟩
  · intro q
    by_cases hq : s.cfsRqOf cfg e = q
    · subst hq
      simp [hf]
    · rw [modifyRq_cfs, modifyCfs_cfs_of_ne f (Ne.symm hq), if_neg hq, add_zero]
  · intro cpu
    by_cases hcpu : (s.cfsRqOf cfg e).cpu = cpu
    · subst hcpu
      simp [hg]
    · rw [modifyRq_rq_of_ne g (Ne.symm hcpu), modifyCfs_rq, if_neg hcpu, add_zero]

lemma addEntityLoad_moves :
    Moves cfg e (s.se e).avg.loadAvgContrib (s.se e).avg.loadAvgRatio s (s.addEntityLoad cfg e) := by
  unfold addEntityLoad
  exact modifyTotals_moves cfg s e (cast_add _ _ _) (cast_add _ _ _)

lemma subEntityLoad_moves :
    Moves cfg e (-(s.se e).avg.loadAvgContrib) (-(s.se e).avg.loadAvgRatio) s (s.subEntityLoad cfg e) := by
  unfold subEntityLoad
  exact modifyTotals_moves cfg s e ((cast_sub _ _ _).trans (sub_eq_add_neg _ _))
    ((cast_sub _ _ _).trans (sub_eq_add_neg _ _))

lemma propagateLoad_moves (before : SchedAvg) (hon : (s.se e).onRq = true) :
    Moves cfg e ((s.se e).avg.loadAvgContrib - before.loadAvgContrib)
      ((s.se e).avg.loadAvgRatio - before.loadAvgRatio) s (s.propagateLoad cfg e before) := by
  unfold propagateLoad
  rw [if_pos hon]
  exact modifyTotals_moves cfg s e (by rw [cast_add, cast_sub]) (by rw [cast_add, cast_sub])

lemma propagateLoad_se (before : SchedAvg) : (s.propagateLoad cfg e before).se = s.se := by
  unfold propagateLoad
  dsimp only
  split
  · rfl
  · rfl

variable [DecidableEq T]

lemma modifySe_others {f : SchedEntity → SchedEntity}
    (hratio : ∀ g cpu, e = .group g cpu → (f (s.se e)).avg.loadAvgRatio = (s.se e).avg.loadAvgRatio) :
    Others e s (s.modifySe e f) := by
  refine ⟨rfl, fun e' he => ?_, fun e' he => ?_, fun g cpu => ?_⟩
  · rw [modifySe_se_of_ne f he]
  · rw [modifySe_se_of_ne f he]
  · by_cases he : (.group g cpu : Entity T G C) = e
    · rw [he, modifySe_se_self, hratio g cpu he.symm]
    · rw [modifySe_se_of_ne f he]

variable {cfg} in
lemma modifySe_moves {f : SchedEntity → SchedEntity}
    (hratio : (f (s.se e)).avg.loadAvgRatio = (s.se e).avg.loadAvgRatio) : Moves cfg e 0 0 s (s.modifySe e f) := by
  refine ⟨modifySe_others s e fun _ _ _ => hratio, fun e' he => ?_, fun q => ?_, fun cpu => ?_⟩
  · rw [modifySe_se_of_ne f he]
  · simp
  · simp

end Moves

section Estimates

variable [DecidableEq T] (cfg s e)

lemma modifySe_reestimates {f : SchedEntity → SchedEntity} (honRq : (f (s.se e)).onRq = (s.se e).onRq)
    (hratio : ∀ g cpu, e = .group g cpu → (f (s.se e)).avg.loadAvgRatio = (s.se e).avg.loadAvgRatio) :
    Reestimates e s (s.modifySe e f) :=
  ⟨{ onRq := modifySe_keeps (fun se => se.onRq) honRq }, modifySe_others s e hratio⟩

lemma modifyAvg_reestimates {f : SchedAvg → SchedAvg}
    (hratio : (f (s.se e).avg).loadAvgRatio = (s.se e).avg.loadAvgRatio) : Reestimates e s (s.modifyAvg e f) :=
  modifySe_reestimates s e rfl fun _ _ _ => hratio

lemma updateEntityLoadAvgContrib_reestimates : Reestimates e s (s.updateEntityLoadAvgContrib e) := by
  unfold updateEntityLoadAvgContrib
  cases e with
  | task t =>
    refine modifySe_reestimates s (.task t) rfl ?_
    intro g cpu he
    cases he
  | group g cpu =>
    exact ((updateTgRunnableAvg_sameLoads s _ _).reestimates _).trans (modifyAvg_reestimates _ _ rfl)

/-- The part of `update_entity_load_avg` before the totals are touched. -/
lemma estimate_reestimates (sa : SchedAvg) (hratio : sa.loadAvgRatio = (s.se e).avg.loadAvgRatio) :
    Reestimates e s ((s.modifyAvg e fun _ => sa).updateEntityLoadAvgContrib e) :=
  (modifyAvg_reestimates s e hratio).trans (updateEntityLoadAvgContrib_reestimates _ e)

lemma updateEntityLoadAvg_false_reestimates : Reestimates e s (s.updateEntityLoadAvg cfg e false) := by
  have hratio : (s.runnableAvgUpdate cfg e).1.loadAvgRatio = (s.se e).avg.loadAvgRatio :=
    (updateEntityRunnableAvg_estimates _ _ _ _ _ _).2
  unfold updateEntityLoadAvg
  dsimp only
  split
  · exact estimate_reestimates s e _ hratio
  · exact modifyAvg_reestimates s e hratio

/-- With the totals: first the estimates change, then a queued entity moves the
totals by the difference. -/
lemma updateEntityLoadAvg_true_cases : SameLoads s (s.updateEntityLoadAvg cfg e true) ∨ ∃ t, Reestimates e s t ∧
    s.updateEntityLoadAvg cfg e true = t.propagateLoad cfg e (s.se e).avg := by
  obtain ⟨hcontrib, hratio⟩ : (s.runnableAvgUpdate cfg e).1.loadAvgContrib = (s.se e).avg.loadAvgContrib ∧
      (s.runnableAvgUpdate cfg e).1.loadAvgRatio = (s.se e).avg.loadAvgRatio :=
    updateEntityRunnableAvg_estimates _ _ _ _ _ _
  unfold updateEntityLoadAvg
  dsimp only
  split
  · exact .inr ⟨_, estimate_reestimates s e _ hratio, rfl⟩
  · exact .inl (modifySe_sameLoads s e rfl hcontrib hratio)

lemma updateEntityLoadAvg_onRq (e e' : Entity T G C) :
    ((s.updateEntityLoadAvg cfg e true).se e').onRq = (s.se e').onRq := by
  obtain hsame | ⟨t, hest, heq⟩ := updateEntityLoadAvg_true_cases cfg s e
  · exact hsame.onRq e'
  · rw [heq, propagateLoad_se]
    exact hest.onRq e'

lemma updateEntityLoadAvg_adjusts : Adjusts cfg e s (s.updateEntityLoadAvg cfg e true) := by
  obtain hsame | ⟨t, hest, heq⟩ := updateEntityLoadAvg_true_cases cfg s e
  · exact hsame.adjusts e
  · rw [heq]
    have hse := propagateLoad_se cfg t e (s.se e).avg
    cases hon : (s.se e).onRq with
    | true =>
      have hon' : (t.se e).onRq = true := (hest.onRq e).trans hon
      have hon'' : ((t.propagateLoad cfg e (s.se e).avg).se e).onRq = true := by
        rwa [hse]
      refine (hest.moves.trans (propagateLoad_moves cfg t e _ hon')).adjusts ?_ ?_
      · rw [contrib_counted cfg hon, contrib_counted cfg hon'', hse, zero_add]
      · rw [ratio_counted cfg hon, ratio_counted cfg hon'', hse, zero_add]
    | false =>
      have hoff : (t.se e).onRq = false := (hest.onRq e).trans hon
      refine (hest.trans ?_).adjusts_of_off hon
      unfold propagateLoad
      rw [if_neg (ne_of_eq_of_ne hoff Bool.false_ne_true)]
      exact (modifyCfs_sameLoads t _ rfl rfl).reestimates e

lemma prepareEnqueue_reestimates (wakeup : Bool) : Reestimates e s (s.prepareEnqueue cfg e wakeup) := by
  unfold prepareEnqueue
  dsimp only
  split
  · have hstamp : Reestimates e s (s.modifyAvg e fun sa =>
        sa.enqueueStamp (s.rq (s.cfsRqOf cfg e).cpu).clockTask) := by
      refine modifyAvg_reestimates s e ?_
      obtain ⟨time, heq⟩ := enqueueStamp_eq (s.se e).avg (s.rq (s.cfsRqOf cfg e).cpu).clockTask
      rw [heq]
      rfl
    split
    · exact (hstamp.trans (updateEntityLoadAvg_false_reestimates cfg _ e)).trans (modifyAvg_reestimates _ e rfl)
    · exact hstamp
  · have hsync : Reestimates e s (s.modifyAvg e fun sa =>
        (sa.synchronizeEntityDecay (s.cfs (s.cfsRqOf cfg e)).decayCounter).1) :=
      modifyAvg_reestimates s e rfl
    split
    · exact (hsync.trans ((modifyCfs_sameLoads _ _ rfl rfl).reestimates e)).trans
        (updateEntityLoadAvg_false_reestimates cfg _ e)
    · exact hsync

end Estimates

end BigLittle.Cfs
