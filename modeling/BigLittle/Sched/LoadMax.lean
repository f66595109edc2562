import BigLittle.Sched.Fork

/-!
# `LOAD_AVG_MAX` as a bound

`LOAD_AVG_MAX` is the limit of the decayed series at a period boundary. The sums of a
running task can pass it: by the part of a period accumulated after the boundary, and by
a whole period when an update spans 345 periods or more, because such an update adds the
limit itself.

`HasRoom` is a condition on the time that an update accounts, with which it stays within the
constant: how many whole periods it spans, and how far past its last boundary it ends. Without it the
bound that does hold is 49151, where the 32-bit product of `__update_task_entity_contrib` is no longer
exact.
-/

namespace BigLittle.Sched

open SchedAvg (crosses elapse update)

/-- An update of `delta` microseconds that crosses a boundary spans less than 345 whole periods and ends at most 646
microseconds past its last boundary; or, if less than 46 periods are accumulated, at most 1001, or anywhere if it spans
less than 157 whole periods. One that stays inside the current period finds less than 46 periods accumulated, or ends at
most 638 microseconds into it. -/
def SchedAvg.HasRoom (sa : SchedAvg) (delta : Nat) : Prop :=
  let rest := (delta - sa.toBoundary) % 1024
  if sa.crosses delta then
    sa.wholePeriods delta < loadAvgMaxN ∧
      (rest ≤ 646 ∨ sa.runnableAvgPeriod < 46 * 1024 ∧ (rest ≤ 1001 ∨ sa.wholePeriods delta < 157))
  else sa.runnableAvgPeriod < 46 * 1024 ∨ sa.runnableAvgPeriod % 1024 + delta ≤ 638
  deriving Decidable

def LoadUpdate.HasRoom (u : LoadUpdate) (sa : SchedAvg) : Prop := ∀ delta ∈ u.elapsed sa, sa.HasRoom delta
  deriving Decidable

/-- `__update_task_entity_contrib` computes the exact quotient for every
priority. -/
def SchedAvg.ContribExact (sa : SchedAvg) : Prop :=
  ∀ weight ∈ prioToWeight, (sa.updateTaskEntityContrib weight).loadAvgContrib =
    sa.runnableAvgSum * weight / (sa.runnableAvgPeriod + 1)

structure SchedAvg.WithinMax (sa : SchedAvg) : Prop where
  sum_le : sa.runnableAvgSum ≤ loadAvgMax
  period_le : sa.runnableAvgPeriod ≤ loadAvgMax
  contrib : sa.ContribExact

lemma prioToWeight_le {weight : Nat} (h : weight ∈ prioToWeight) : weight ≤ 88761 :=
  (by decide : ∀ w ∈ prioToWeight, w ≤ 88761) weight h

/-- Up to 48388 the product with the largest weight fits in 32 bits. -/
lemma contribExact_of_le {sa : SchedAvg} (hord : sa.Ordered) (h : sa.runnableAvgSum ≤ 48388) : sa.ContribExact := by
  intro weight hweight
  have hlt := hord.period_lt
  have hprod : sa.runnableAvgSum * weight < 2 ^ 32 :=
    Nat.lt_of_le_of_lt (Nat.mul_le_mul h (prioToWeight_le hweight)) (by decide)
  change Word.wrap 32 (Word.mul 64 sa.runnableAvgSum weight) / Word.add 32 _ 1 = _
  rw [Word.add_of_lt (by omega), Word.mul_of_lt (Nat.lt_trans hprod (by decide)), Word.wrap_of_lt hprod]

lemma withinMax_of_period_le {sa : SchedAvg} (hord : sa.Ordered) (h : sa.runnableAvgPeriod ≤ loadAvgMax) :
    sa.WithinMax := by
  have hsum : sa.runnableAvgSum ≤ loadAvgMax := Nat.le_trans hord.sum_le h
  exact ⟨hsum, h, contribExact_of_le hord (Nat.le_trans hsum (by decide))⟩

/-- What is left of 47 periods with up to 344 whole ones after them, and of 46 periods. -/
lemma decay_contrib_le_of_short {val k : Nat} (hval : val ≤ 47 * 1024) (hk : k < loadAvgMaxN) :
    decayLoad val (k + 1) + computeRunnableContrib k ≤ 47096 ∧
    (val ≤ 46 * 1024 → decayLoad val (k + 1) + computeRunnableContrib k ≤ if k < 157 then 46719 else 46741) := by
  have hbounds : ∀ k < loadAvgMaxN, decayLoad (47 * 1024) (k + 1) + computeRunnableContrib k ≤ 47096 ∧
      decayLoad (46 * 1024) (k + 1) + computeRunnableContrib k ≤ if k < 157 then 46719 else 46741 := by decide +kernel
  refine ⟨?_, fun hlow => ?_⟩
  · exact Nat.le_trans (Nat.add_le_add_right (decayLoad_mono hval (by decide) _) _) (hbounds k hk).1
  · exact Nat.le_trans (Nat.add_le_add_right (decayLoad_mono hlow (by decide) _) _) (hbounds k hk).2

section Period

variable {sa : SchedAvg} {env : LoadEnv} {runnable running : Bool} {cpu : Int} {delta : Nat}

/-- The period after a crossing. -/
lemma elapse_period_of_crosses (hord : sa.Ordered) (h : sa.crosses delta = true) :
    (sa.elapse env runnable running cpu delta).1.runnableAvgPeriod =
    decayLoad (sa.runnableAvgPeriod + sa.toBoundary) (sa.wholePeriods delta + 1) +
    computeRunnableContrib (sa.wholePeriods delta) + (delta - sa.toBoundary) % 1024 := by
  have hle := decay_contrib_le hord.boundary_le (sa.wholePeriods delta)
  rw [elapse, if_pos h]
  change ((sa.rollOver env runnable running cpu delta).accrue _ _ _ _).runnableAvgPeriod = _
  rw [accrue_period (by rw [hord.rollOver_period]; omega), hord.rollOver_period]

lemma elapse_period_of_within (hord : sa.Ordered) (h : ¬ sa.crosses delta = true) :
    (sa.elapse env runnable running cpu delta).1.runnableAvgPeriod = sa.runnableAvgPeriod + delta := by
  have hlt := hord.period_lt
  rw [elapse, if_neg h]
  simp only [crosses, decide_eq_true_eq] at h
  exact accrue_period (by omega)

lemma elapse_period_le (hord : sa.Ordered) (hmax : sa.runnableAvgPeriod ≤ loadAvgMax) (hroom : sa.HasRoom delta) :
    (sa.elapse env runnable running cpu delta).1.runnableAvgPeriod ≤ loadAvgMax := by
  rw [loadAvgMax] at hmax ⊢
  unfold SchedAvg.HasRoom at hroom
  dsimp only at hroom
  split at hroom
  next hcross =>
    obtain ⟨hshort, hrest⟩ := hroom
    have hboundary : sa.runnableAvgPeriod + sa.toBoundary = (sa.runnableAvgPeriod / 1024 + 1) * 1024 := by
      rw [SchedAvg.toBoundary]
      omega
    rw [elapse_period_of_crosses hord hcross]
    -- the period is at most 47 boundaries high, and 46 if less than that many are accumulated
    obtain ⟨hle, hlow⟩ :=
      decay_contrib_le_of_short (show sa.runnableAvgPeriod + sa.toBoundary ≤ 47 * 1024 by omega) hshort
    have hmod := Nat.mod_lt (delta - sa.toBoundary) (show 0 < 1024 by decide)
    obtain hrest | ⟨hsmall, hrest⟩ := hrest
    · omega
    · have hsum := hlow (by omega)
      split at hsum <;> omega
  next hwithin =>
    rw [elapse_period_of_within hord hwithin]
    simp only [crosses, decide_eq_true_eq] at hwithin
    omega

end Period

lemma schedFork_period_le (parent : SchedAvg) (parentPid : Option Int) (weight : Nat) :
    (schedFork parent parentPid weight).runnableAvgPeriod ≤ loadAvgMax := by
  obtain ⟨_, _, hperiod, _⟩ | ⟨_, _, hperiod, _⟩ := schedFork_cases parent parentPid weight
  · exact Nat.le_of_eq hperiod
  · rw [hperiod]
    exact Nat.zero_le _

lemma update_withinMax {sa : SchedAvg} (u : LoadUpdate) (hord : sa.Ordered) (h : sa.WithinMax) (hroom : u.HasRoom sa) :
    (sa.update u).WithinMax := by
  refine withinMax_of_period_le (u.update_ordered hord) ?_
  obtain ⟨-, time, heq⟩ | ⟨delta, hsome, heq⟩ := u.update_cases sa
  · rw [heq]
    exact h.period_le
  · rw [heq]
    exact elapse_period_le (hord.stamp u.now) h.period_le (hroom delta hsome)

/-- From a fresh fork, boosted or not, the sums stay within `LOAD_AVG_MAX` and every contribution is exact in the runs
whose updates all have room. -/
theorem forked_load_withinMax (parent : SchedAvg) (parentPid : Option Int) (weight : Nat) (updates : List LoadUpdate)
    (h : Run.Each update (fun t u => u.HasRoom t) (schedFork parent parentPid weight) updates) :
    Run.Always update SchedAvg.WithinMax (schedFork parent parentPid weight) updates := by
  have hord := schedFork_ordered parent parentPid weight
  have hstart := withinMax_of_period_le hord (schedFork_period_le parent parentPid weight)
  have hboth : Run.Always update (fun t => t.Ordered ∧ t.WithinMax) (schedFork parent parentPid weight) updates :=
    Run.always_of_each (fun t u ht hroom => ⟨u.update_ordered ht.1, update_withinMax u ht.1 ht.2 hroom⟩)
      ⟨hord, hstart⟩ h
  exact hboth.mono fun t ht => ht.2

/-- A new task runs for 100 periods and a half, sleeps for as long and runs again; its load is accounted every time. -/
theorem forked_load_withinMax_half_periods :
    let u : Nat → Bool → LoadUpdate := fun half runnable => ⟨{}, half * 512 * 1024, runnable, runnable, -1, id,
      by simp [LoadEnv.currScale]⟩
    Run.Always update SchedAvg.WithinMax (schedFork {} none 1024) [u 201 true, u 402 false, u 603 true] :=
  forked_load_withinMax {} none 1024 _ (by decide +kernel)

/-- A new task that waits for the CPU is charged one period, 345 more whole ones
and 1023 microseconds by its first update: both sums pass the constant, and for
the highest priority the product no longer fits in 32 bits. -/
theorem forked_load_exceeds_max :
    let u : LoadUpdate := ⟨{}, (346 * 1024 + 1023) * 1024, true, false, -1, by decide,
      by simp [LoadEnv.currScale]⟩
    let t := (schedFork {} none 1024).update u
    t.runnableAvgSum = 48765 ∧ t.runnableAvgPeriod = 48765 ∧ ¬ t.runnableAvgPeriod ≤ loadAvgMax ∧
      (t.updateTaskEntityContrib 88761).loadAvgContrib = 686 ∧
      t.runnableAvgSum * 88761 / (t.runnableAvgPeriod + 1) = 88759 := by
  decide +kernel

end BigLittle.Sched
