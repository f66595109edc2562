import BigLittle.Lib.Run
import BigLittle.Sched.Decay

/-!
# Ranges of the tracked sums over whole runs

An update charges time to the record in up to three places. `updateAccruals` lists them
with the record each one finds, so that "no sum wraps" is a statement about the
additions the code performs and not about their results.

The order `runnable_avg_sum <= runnable_avg_period` is carried through the rounding by
the monotonicity of `decay_load`. The period is bounded by 48 full periods in every run,
and by 47 where no update spans 345 or more whole periods; `LOAD_AVG_MAX` lies below
both.
-/

namespace BigLittle.Sched

open List
open Word (add add_of_lt mul mul_le sub wrap wrap_le)

/-- One call of `__update_entity_runnable_avg`. A running entity is runnable,
and a frequency scale is at most its unit. -/
structure LoadUpdate where
  env : LoadEnv
  now : Nat
  runnable : Bool
  running : Bool
  cpu : Int
  running_runnable : running = true → runnable = true
  scale_le : ∀ scale, env.currScale cpu = some scale → scale ≤ 1024

namespace LoadUpdate

/-- The elapsed time in units of 1024 ns; `none` when the update returns
before accounting anything. -/
def elapsed (u : LoadUpdate) (sa : SchedAvg) : Option Nat :=
  let delta := hmpVariableScaleConvert u.env (sub 64 u.now sa.lastRunnableUpdate)
  if Word.isNegative 64 delta then none
  else if delta >>> 10 = 0 then none
  else some (delta >>> 10)

end LoadUpdate

def SchedAvg.update (sa : SchedAvg) (u : LoadUpdate) : SchedAvg :=
  (updateEntityRunnableAvg u.env u.now sa u.runnable u.running u.cpu).1

/-- One addition to the sums: the record it finds, the time charged to the
period and the scaled time charged to the sums. -/
structure Accrual where
  before : SchedAvg
  amount : Nat
  scaled : Nat

/-- The additions that `elapse` performs, in order. -/
def SchedAvg.accruals (sa : SchedAvg) (env : LoadEnv) (runnable running : Bool)
    (cpu : Int) (delta : Nat) : List Accrual :=
  if sa.crosses delta then
    let contrib := computeRunnableContrib (sa.wholePeriods delta)
    let rest := (delta - sa.toBoundary) % 1024
    [⟨sa, sa.toBoundary, env.scaled cpu 32 sa.toBoundary⟩,
     ⟨sa.age env runnable running cpu delta, contrib, env.scaled cpu 32 contrib⟩,
     ⟨sa.rollOver env runnable running cpu delta, rest, env.scaled cpu 64 rest⟩]
  else [⟨sa, delta, env.scaled cpu 64 delta⟩]

/-- The additions one update performs. -/
def LoadUpdate.accruals (u : LoadUpdate) (sa : SchedAvg) : List Accrual :=
  match u.elapsed sa with
  | none => []
  | some delta =>
    (sa.stamp u.now).accruals u.env u.runnable u.running u.cpu delta

/-- The addition to `runnable_avg_sum` and `runnable_avg_period` is exact. -/
def Accrual.SumsFit (a : Accrual) : Prop :=
  a.before.runnableAvgSum + a.scaled < 2 ^ 32 ∧ a.before.runnableAvgPeriod + a.amount < 2 ^ 32

/-- The addition to `usage_avg_sum` is exact. -/
def Accrual.UsageFits (a : Accrual) : Prop := a.before.usageAvgSum + a.scaled < 2 ^ 32

/-- The record an addition leaves. -/
def Accrual.perform (a : Accrual) (runnable running : Bool) : SchedAvg :=
  a.before.accrue runnable running a.amount a.scaled

section Elapse

variable {sa : SchedAvg} {env : LoadEnv} {runnable running : Bool} {cpu : Int} {amount scaled delta n : Nat}

lemma scaled_le (hscale : ∀ scale, env.currScale cpu = some scale → scale ≤ 1024)
    (w amount : Nat) : env.scaled cpu w amount ≤ amount := by
  unfold LoadEnv.scaled
  cases hc : env.currScale cpu with
  | none => exact Nat.le_refl _
  | some scale =>
    have hprod : mul w amount scale ≤ amount * 1024 :=
      Nat.le_trans (mul_le _ _ _) (Nat.mul_le_mul_left _ (hscale scale hc))
    simp only [freqScaleShift, Nat.shiftRight_eq_div_pow]
    omega

lemma accrue_period (hfit : sa.runnableAvgPeriod + amount < 2 ^ 32) :
    (sa.accrue runnable running amount scaled).runnableAvgPeriod = sa.runnableAvgPeriod + amount := add_of_lt hfit

lemma accrue_sum_le (horder : sa.runnableAvgSum ≤ sa.runnableAvgPeriod) (hscaled : scaled ≤ amount)
    (hfit : sa.runnableAvgPeriod + amount < 2 ^ 32) : (sa.accrue runnable running amount scaled).runnableAvgSum ≤
    (sa.accrue runnable running amount scaled).runnableAvgPeriod := by
  rw [accrue_period hfit]
  change (if runnable then _ else _) ≤ _
  split
  · rw [add_of_lt (by omega)]
    omega
  · omega

lemma accrue_sum_lt (hfit : sa.runnableAvgSum + scaled < 2 ^ 32) :
    (sa.accrue runnable running amount scaled).runnableAvgSum < 2 ^ 32 := by
  change (if runnable then _ else _) < _
  split
  · exact Word.wrap_lt _ _
  · omega

lemma accrue_usage_le (sa : SchedAvg) (runnable running : Bool) (amount scaled : Nat) :
    (sa.accrue runnable running amount scaled).usageAvgSum ≤ sa.usageAvgSum + scaled := by
  change (if running then _ else _) ≤ _
  split
  · exact wrap_le _ _
  · omega

lemma accrue_usage_le_sum (horder : sa.usageAvgSum ≤ sa.runnableAvgSum) (hflags : running = true → runnable = true)
    (hfit : sa.runnableAvgSum + scaled < 2 ^ 32) : (sa.accrue runnable running amount scaled).usageAvgSum ≤
    (sa.accrue runnable running amount scaled).runnableAvgSum := by
  change (if running then _ else _) ≤ (if runnable then _ else _)
  cases running with
  | false =>
    cases runnable with
    | false => exact horder
    | true =>
      rw [if_neg (by decide), if_pos rfl, add_of_lt hfit]
      omega
  | true =>
    rw [if_pos rfl, if_pos (hflags rfl), add_of_lt hfit, add_of_lt (by omega)]
    omega

lemma decay_period (h : sa.runnableAvgPeriod < 2 ^ 32) :
    (sa.decay n).runnableAvgPeriod = decayLoad sa.runnableAvgPeriod n :=
  Word.wrap_of_lt (Nat.lt_of_le_of_lt (decayLoad_le _ _) h)

lemma decay_sum_le (horder : sa.runnableAvgSum ≤ sa.runnableAvgPeriod) (h : sa.runnableAvgPeriod < 2 ^ 32) :
    (sa.decay n).runnableAvgSum ≤ (sa.decay n).runnableAvgPeriod := by
  rw [decay_period h]
  exact Nat.le_trans (wrap_le _ _) (decayLoad_mono horder h n)

lemma decay_usage_le_sum (horder : sa.usageAvgSum ≤ sa.runnableAvgSum)
    (h : sa.runnableAvgSum < 2 ^ 32) : (sa.decay n).usageAvgSum ≤ (sa.decay n).runnableAvgSum := by
  have hsum : (sa.decay n).runnableAvgSum = decayLoad sa.runnableAvgSum n :=
    Word.wrap_of_lt (Nat.lt_of_le_of_lt (decayLoad_le _ _) h)
  rw [hsum]
  exact Nat.le_trans (wrap_le _ _) (decayLoad_mono horder h n)

/-- The listed additions are the ones made: an update ends with the last. -/
lemma elapse_eq_perform (sa : SchedAvg) (env : LoadEnv) (runnable running : Bool) (cpu : Int) (delta : Nat) :
    ∃ a, (sa.accruals env runnable running cpu delta).getLast? = some a ∧
    (sa.elapse env runnable running cpu delta).1 = a.perform runnable running := by
  unfold SchedAvg.accruals SchedAvg.elapse
  split
  · exact ⟨_, rfl, rfl⟩
  · exact ⟨_, rfl, rfl⟩

/-- An update that crosses a boundary makes three additions, any other makes one. -/
lemma mem_accruals {a : Accrual} (ha : a ∈ sa.accruals env runnable running cpu delta) :
    (sa.crosses delta = true ∧ (a = ⟨sa, sa.toBoundary, env.scaled cpu 32 sa.toBoundary⟩ ∨
        a = ⟨sa.age env runnable running cpu delta, computeRunnableContrib (sa.wholePeriods delta),
          env.scaled cpu 32 (computeRunnableContrib (sa.wholePeriods delta))⟩ ∨
        a = ⟨sa.rollOver env runnable running cpu delta, (delta - sa.toBoundary) % 1024,
          env.scaled cpu 64 ((delta - sa.toBoundary) % 1024)⟩)) ∨
    (¬ sa.crosses delta = true ∧ a = ⟨sa, delta, env.scaled cpu 64 delta⟩) := by
  rw [SchedAvg.accruals] at ha
  split at ha
  next hcross =>
    simp only [mem_cons, not_mem_nil, or_false] at ha
    exact .inl ⟨hcross, ha⟩
  next hcross => exact .inr ⟨hcross, mem_singleton.mp ha⟩

end Elapse

/-- The two sums are ordered and the period has not reached its 48th boundary. -/
structure SchedAvg.Ordered (sa : SchedAvg) : Prop where
  sum_le : sa.runnableAvgSum ≤ sa.runnableAvgPeriod
  period_lt : sa.runnableAvgPeriod < 49152

namespace SchedAvg.Ordered

variable {sa : SchedAvg} {env : LoadEnv} {runnable running : Bool} {cpu : Int} {delta : Nat}

lemma stamp (h : sa.Ordered) (time : Nat) : (sa.stamp time).Ordered :=
  ⟨h.sum_le, h.period_lt⟩

/-- Completing the current period lands on a boundary, at most the 48th. -/
lemma boundary_le (h : sa.Ordered) : sa.runnableAvgPeriod + sa.toBoundary ≤ 49152 := by
  have hlt := h.period_lt
  unfold toBoundary
  omega

lemma age_period (h : sa.Ordered) : (sa.age env runnable running cpu delta).runnableAvgPeriod =
    decayLoad (sa.runnableAvgPeriod + sa.toBoundary) (sa.wholePeriods delta + 1) := by
  have hfit : sa.runnableAvgPeriod + sa.toBoundary < 2 ^ 32 :=
    Nat.lt_of_le_of_lt h.boundary_le (by decide)
  rw [age, decay_period (by rw [accrue_period hfit]; exact hfit), accrue_period hfit]

lemma rollOver_period (h : sa.Ordered) : (sa.rollOver env runnable running cpu delta).runnableAvgPeriod =
    decayLoad (sa.runnableAvgPeriod + sa.toBoundary) (sa.wholePeriods delta + 1) +
    computeRunnableContrib (sa.wholePeriods delta) := by
  have hle := decay_contrib_le h.boundary_le (sa.wholePeriods delta)
  rw [rollOver, accrue_period (by rw [h.age_period]; omega), h.age_period]

/-- The last addition charges less than what completes a period. -/
lemma last_accrual_lt (h : sa.Ordered) {a : Accrual}
    (ha : (sa.accruals env runnable running cpu delta).getLast? = some a) :
    a.before.runnableAvgPeriod + a.amount < 49152 := by
  unfold accruals at ha
  split at ha
  · have hle := decay_contrib_le h.boundary_le (sa.wholePeriods delta)
    simp only [getLast?_cons_cons, getLast?_singleton, Option.some.injEq] at ha
    subst ha
    simp only [h.rollOver_period]
    omega
  next hcross =>
    have hlt := h.period_lt
    simp only [crosses, decide_eq_true_eq] at hcross
    simp only [getLast?_singleton, Option.some.injEq] at ha
    subst ha
    simp only
    omega

variable (hscale : ∀ scale, env.currScale cpu = some scale → scale ≤ 1024)

include hscale

lemma age_sum_le (h : sa.Ordered) : (sa.age env runnable running cpu delta).runnableAvgSum ≤
    (sa.age env runnable running cpu delta).runnableAvgPeriod := by
  have hfit : sa.runnableAvgPeriod + sa.toBoundary < 2 ^ 32 :=
    Nat.lt_of_le_of_lt h.boundary_le (by decide)
  exact decay_sum_le (accrue_sum_le h.sum_le (scaled_le hscale 32 _) hfit) (by rw [accrue_period hfit]; exact hfit)

lemma rollOver_sum_le (h : sa.Ordered) : (sa.rollOver env runnable running cpu delta).runnableAvgSum ≤
    (sa.rollOver env runnable running cpu delta).runnableAvgPeriod := by
  have hle := decay_contrib_le h.boundary_le (sa.wholePeriods delta)
  exact accrue_sum_le (h.age_sum_le hscale) (scaled_le hscale 32 _) (by rw [h.age_period]; omega)

/-- Every addition finds ordered sums, charges them no more than the period,
and stays below the 48th boundary or on it. -/
lemma accrual (h : sa.Ordered) {a : Accrual} (ha : a ∈ sa.accruals env runnable running cpu delta) :
    a.before.runnableAvgSum ≤ a.before.runnableAvgPeriod ∧ a.scaled ≤ a.amount ∧
    a.before.runnableAvgPeriod + a.amount ≤ 49152 := by
  have hle := decay_contrib_le h.boundary_le (sa.wholePeriods delta)
  obtain ⟨_, rfl | rfl | rfl⟩ | ⟨hcross, rfl⟩ := mem_accruals ha
  · exact ⟨h.sum_le, scaled_le hscale 32 _, h.boundary_le⟩
  · refine ⟨h.age_sum_le hscale, scaled_le hscale 32 _, ?_⟩
    simp only [h.age_period]
    omega
  · refine ⟨h.rollOver_sum_le hscale, scaled_le hscale 64 _, ?_⟩
    simp only [h.rollOver_period]
    omega
  · have hlt := h.period_lt
    simp only [crosses, decide_eq_true_eq] at hcross
    refine ⟨h.sum_le, scaled_le hscale 64 _, ?_⟩
    simp only
    omega

lemma elapse (h : sa.Ordered) : (sa.elapse env runnable running cpu delta).1.Ordered := by
  obtain ⟨a, ha, heq⟩ := elapse_eq_perform sa env runnable running cpu delta
  obtain ⟨hsum, hscaled, _⟩ := h.accrual hscale (mem_of_getLast? ha)
  have hlt := h.last_accrual_lt ha
  have hfit : a.before.runnableAvgPeriod + a.amount < 2 ^ 32 := by omega
  rw [heq]
  refine ⟨accrue_sum_le hsum hscaled hfit, ?_⟩
  rwa [Accrual.perform, accrue_period hfit]

end SchedAvg.Ordered

/-- `usage_avg_sum` would stay within `bound` up to the next period boundary. -/
def SchedAvg.UsageWithin (bound : Nat) (sa : SchedAvg) : Prop :=
  sa.usageAvgSum + sa.toBoundary ≤ bound

namespace SchedAvg.UsageWithin

variable {sa : SchedAvg} {env : LoadEnv} {cpu : Int} {bound : Nat}

lemma stamp (h : sa.UsageWithin bound) (time : Nat) : (sa.stamp time).UsageWithin bound := h

variable (hlow : 101024 ≤ bound) (hbound : bound < 2 ^ 32)
variable (hscale : ∀ scale, env.currScale cpu = some scale → scale ≤ 1024)

include hlow hbound hscale

lemma age_usage_le (h : sa.UsageWithin bound) (runnable running : Bool) (delta : Nat) :
    (sa.age env runnable running cpu delta).usageAvgSum + computeRunnableContrib (sa.wholePeriods delta) + 2048 ≤
    bound := by
  have hacc : (sa.accrue runnable running sa.toBoundary (env.scaled cpu 32 sa.toBoundary)).usageAvgSum ≤ bound :=
    calc
      _ ≤ sa.usageAvgSum + env.scaled cpu 32 sa.toBoundary := accrue_usage_le _ _ _ _ _
      _ ≤ sa.usageAvgSum + sa.toBoundary := Nat.add_le_add_left (scaled_le hscale 32 _) _
      _ ≤ bound := h
  have hmax := decay_contrib_le_max hacc hlow hbound (sa.wholePeriods delta)
  have hwrap := wrap_le 32 (decayLoad (sa.accrue runnable running sa.toBoundary
    (env.scaled cpu 32 sa.toBoundary)).usageAvgSum (sa.wholePeriods delta + 1))
  change wrap 32 _ + _ + 2048 ≤ bound
  omega

lemma rollOver_usage_le (h : sa.UsageWithin bound) (runnable running : Bool) (delta : Nat) :
    (sa.rollOver env runnable running cpu delta).usageAvgSum + 2048 ≤ bound := by
  have hage := h.age_usage_le hlow hbound hscale runnable running delta
  have hacc := accrue_usage_le (sa.age env runnable running cpu delta) runnable running
    (computeRunnableContrib (sa.wholePeriods delta))
    (env.scaled cpu 32 (computeRunnableContrib (sa.wholePeriods delta)))
  have hscaled := scaled_le hscale 32 (computeRunnableContrib (sa.wholePeriods delta))
  change (SchedAvg.accrue _ _ _ _ _).usageAvgSum + 2048 ≤ bound
  omega

lemma accrual (h : sa.UsageWithin bound) {runnable running : Bool} {delta : Nat} {a : Accrual}
    (ha : a ∈ sa.accruals env runnable running cpu delta) : a.before.usageAvgSum + a.scaled ≤ bound := by
  have hwithin : sa.usageAvgSum + sa.toBoundary ≤ bound := h
  obtain ⟨_, rfl | rfl | rfl⟩ | ⟨hcross, rfl⟩ := mem_accruals ha
  · have hscaled := scaled_le hscale 32 sa.toBoundary
    simp only
    omega
  · have hscaled := scaled_le hscale 32 (computeRunnableContrib (sa.wholePeriods delta))
    have hage := h.age_usage_le hlow hbound hscale runnable running delta
    simp only
    omega
  · have hscaled := scaled_le hscale 64 ((delta - sa.toBoundary) % 1024)
    have hroll := h.rollOver_usage_le hlow hbound hscale runnable running delta
    simp only
    omega
  · have hscaled := scaled_le hscale 64 delta
    simp only [crosses, decide_eq_true_eq] at hcross
    simp only [toBoundary] at hwithin ⊢
    omega

lemma elapse (h : sa.UsageWithin bound) (hord : sa.Ordered) (runnable running : Bool)
    (delta : Nat) : (sa.elapse env runnable running cpu delta).1.UsageWithin bound := by
  unfold SchedAvg.elapse
  split
  · have hroll := h.rollOver_usage_le hlow hbound hscale runnable running delta
    have hscaled := scaled_le hscale 64 ((delta - sa.toBoundary) % 1024)
    have hacc := accrue_usage_le (sa.rollOver env runnable running cpu delta) runnable running
      ((delta - sa.toBoundary) % 1024) (env.scaled cpu 64 ((delta - sa.toBoundary) % 1024))
    change (SchedAvg.accrue _ _ _ _ _).usageAvgSum + (1024 - _) ≤ bound
    omega
  next hcross =>
    have hwithin : sa.usageAvgSum + sa.toBoundary ≤ bound := h
    have hscaled := scaled_le hscale 64 delta
    have hlt := hord.period_lt
    have hacc := accrue_usage_le sa runnable running delta (env.scaled cpu 64 delta)
    simp only [crosses, decide_eq_true_eq] at hcross
    have hperiod : (sa.accrue runnable running delta
        (env.scaled cpu 64 delta)).runnableAvgPeriod = sa.runnableAvgPeriod + delta :=
      accrue_period (by omega)
    simp only [UsageWithin, toBoundary, hperiod] at hwithin ⊢
    omega

end SchedAvg.UsageWithin

namespace LoadUpdate

/-- An update only moves the time stamp, or accounts the elapsed time. -/
lemma update_cases (u : LoadUpdate) (sa : SchedAvg) :
    (u.elapsed sa = none ∧ ∃ time, sa.update u = sa.stamp time) ∨ ∃ delta, u.elapsed sa = some delta ∧
    sa.update u = ((sa.stamp u.now).elapse u.env u.runnable u.running u.cpu delta).1 := by
  unfold elapsed SchedAvg.update updateEntityRunnableAvg
  dsimp only
  split
  · exact .inl ⟨rfl, u.now, rfl⟩
  · split
    · exact .inl ⟨rfl, sa.lastRunnableUpdate, rfl⟩
    · exact .inr ⟨_, rfl, rfl⟩

variable {sa : SchedAvg} {bound : Nat}

lemma update_ordered (u : LoadUpdate) (h : sa.Ordered) : (sa.update u).Ordered := by
  obtain ⟨_, time, heq⟩ | ⟨delta, _, heq⟩ := u.update_cases sa
  · rw [heq]
    exact h.stamp time
  · rw [heq]
    exact (h.stamp u.now).elapse u.scale_le

/-- The additions of an update are those of the time it accounts. -/
lemma exists_mem_accruals {u : LoadUpdate} {a : Accrual} (ha : a ∈ u.accruals sa) :
    ∃ delta, a ∈ (sa.stamp u.now).accruals u.env u.runnable u.running u.cpu delta := by
  rw [accruals] at ha
  split at ha
  · exact absurd ha not_mem_nil
  · exact ⟨_, ha⟩

lemma sumsFit (u : LoadUpdate) (h : sa.Ordered) : ∀ a ∈ u.accruals sa, a.SumsFit := by
  intro a ha
  obtain ⟨delta, ha⟩ := exists_mem_accruals ha
  obtain ⟨hsum, hscaled, hle⟩ := (h.stamp u.now).accrual u.scale_le ha
  exact ⟨by omega, by omega⟩

lemma update_usageWithin (u : LoadUpdate) (hlow : 101024 ≤ bound) (hbound : bound < 2 ^ 32)
    (hord : sa.Ordered) (h : sa.UsageWithin bound) : (sa.update u).UsageWithin bound := by
  obtain ⟨_, time, heq⟩ | ⟨delta, _, heq⟩ := u.update_cases sa
  · rw [heq]
    exact h.stamp time
  · rw [heq]
    exact (h.stamp u.now).elapse hlow hbound u.scale_le (hord.stamp u.now) _ _ _

lemma usageFits (u : LoadUpdate) (hlow : 101024 ≤ bound) (hbound : bound < 2 ^ 32)
    (h : sa.UsageWithin bound) : ∀ a ∈ u.accruals sa, a.UsageFits := by
  intro a ha
  obtain ⟨delta, ha⟩ := exists_mem_accruals ha
  exact Nat.lt_of_le_of_lt ((h.stamp u.now).accrual hlow hbound u.scale_le ha) hbound

end LoadUpdate

/-- Ordered sums give a ratio below one, in units of `NICE_0_LOAD`. -/
lemma SchedAvg.Ordered.ratio_le {sa : SchedAvg} (h : sa.Ordered) : sa.updateTaskEntityRatio.loadAvgRatio ≤ 1023 := by
  have hsum := h.sum_le
  have hlt := h.period_lt
  have hprod : wrap 32 (mul 64 sa.runnableAvgSum nice0Load) ≤
      sa.runnableAvgSum * 1024 := Nat.le_trans (wrap_le _ _) (mul_le _ _ _)
  change _ / add 32 sa.runnableAvgPeriod 1 ≤ 1023
  rw [add_of_lt (by omega)]
  apply Nat.le_of_lt_succ
  apply Nat.div_lt_of_lt_mul
  omega

/-- In every state of a run the sums are ordered and the ratio is at most 1023, and no addition of
any update wraps. The usage sum is only known not to wrap when it starts with one period of space
left. -/
theorem load_updates_ordered (sa : SchedAvg) (updates : List LoadUpdate)
    (horder : sa.runnableAvgSum ≤ sa.runnableAvgPeriod) (hmax : sa.runnableAvgPeriod ≤ loadAvgMax) :
    Run.Always SchedAvg.update (fun t => t.runnableAvgSum ≤ t.runnableAvgPeriod ∧
        t.updateTaskEntityRatio.loadAvgRatio ≤ 1023) sa updates ∧
      Run.Each SchedAvg.update (fun t u => ∀ a ∈ u.accruals t, a.SumsFit) sa updates ∧
      (sa.usageAvgSum + 1024 < 2 ^ 32 →
        Run.Each SchedAvg.update (fun t u => ∀ a ∈ u.accruals t, a.UsageFits) sa updates) := by
  have hstart : sa.Ordered := ⟨horder, Nat.lt_of_le_of_lt hmax (by decide)⟩
  have halways : Run.Always SchedAvg.update SchedAvg.Ordered sa updates :=
    Run.always_of_step (fun t u ht => u.update_ordered ht) hstart
  refine ⟨halways.mono fun t ht => ⟨ht.sum_le, ht.ratio_le⟩, halways.each fun t u ht => u.sumsFit ht, ?_⟩
  intro husage
  -- One bound serves the whole run: the start plus a period, or the level to
  -- which any larger sum decays.
  have hlow : 101024 ≤ max (sa.usageAvgSum + 1024) 101024 := Nat.le_max_right _ _
  have hbound : max (sa.usageAvgSum + 1024) 101024 < 2 ^ 32 :=
    Nat.max_lt.mpr ⟨husage, by decide⟩
  have hwithin : sa.UsageWithin (max (sa.usageAvgSum + 1024) 101024) :=
    Nat.le_trans (Nat.add_le_add_left (Nat.sub_le _ _) _) (Nat.le_max_left _ _)
  have hboth : Run.Always SchedAvg.update
      (fun t => t.Ordered ∧ t.UsageWithin (max (sa.usageAvgSum + 1024) 101024)) sa updates :=
    Run.always_of_step (fun t u ht =>
      ⟨u.update_ordered ht.1, u.update_usageWithin hlow hbound ht.1 ht.2⟩) ⟨hstart, hwithin⟩
  exact hboth.each fun t u ht => u.usageFits hlow hbound ht.2

/-- A half-loaded record is idle for ten seconds, then reads a clock from before
its last update, then runs for one period. -/
theorem load_updates_ordered_after_idle : Run.Always SchedAvg.update (fun t => t.runnableAvgSum ≤ t.runnableAvgPeriod ∧
        t.updateTaskEntityRatio.loadAvgRatio ≤ 1023)
      { runnableAvgSum := 23871, runnableAvgPeriod := 47742, usageAvgSum := 9000 }
      [⟨{}, 10000000000, false, false, -1, by decide, by simp [LoadEnv.currScale]⟩,
       ⟨{}, 9999000000, true, false, -1, by decide, by simp [LoadEnv.currScale]⟩,
       ⟨{}, 10000048576, true, true, -1, by decide, by simp [LoadEnv.currScale]⟩] :=
  (load_updates_ordered _ _ (by decide) (by decide)).1

end BigLittle.Sched
