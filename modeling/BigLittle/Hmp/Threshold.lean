import Mathlib.Algebra.Order.Ring.Int
import Mathlib.Tactic.Linarith
import Mathlib.Tactic.MkIffOfInductiveProp
import BigLittle.Lib.Calc
import BigLittle.Hmp.Migration

/-!
# Cluster statistics and the dynamic thresholds

`collect_cluster_stats` adds up what the CPUs of a cluster report and derives the spare
capacity of the target CPU; `adj_threshold` turns the spare capacities of the two
targets into the up and the down threshold.

The statistics are `int`s. A step whose operands are `unsigned long` is evaluated modulo
the word and converted back when it is stored, so it is exact if the `int` holds the
difference or product itself. The totals over a cluster are accumulated modulo `2 ^ 32`:
neither threshold reads them.
-/

namespace BigLittle.Hmp

open Sched Cfs
open Calc (div signed)

def hmpMaxLoad : Int := nice0Load - 1

/-- What is read of `struct cpufreq_extents`. The scales are quotients of
frequencies in units of 1024 kHz; frequencies are below `2 ^ 31` kHz. -/
structure FreqExtents where
  currScale : Nat := 1024
  max : Nat := 1024
  throttling : Bool := false
  currScale_lt : currScale < 2 ^ 21 := by decide
  max_lt : max < 2 ^ 21 := by decide

/-- The capacities the architecture reports for a CPU, in the range of CPU powers. -/
structure ArchCapacity where
  capacity : Nat := 1024
  maxCapacity : Nat := 1024
  throttling : Bool := false
  capacity_le : capacity ≤ 1536 := by decide
  maxCapacity_le : maxCapacity ≤ 1536 := by decide

/-- How the build scales the capacity of a CPU: not at all, by
`CONFIG_HMP_FREQUENCY_INVARIANT_SCALE`, or by
`CONFIG_ARCH_SCALE_INVARIANT_CPU_CAPACITY`; the latter two have a switch. -/
inductive CapacityScaling (n : Nat) where
  | off
  | freqInvariant (enabled : Bool) (freqScale : Fin n → FreqExtents)
  | archCapacity (enabled : Bool) (topology : Fin n → ArchCapacity)

/-- The tunables `hmp_up_threshold` and `hmp_down_threshold` with their defaults; under `CONFIG_HMP_DYNAMIC_THRESHOLD`
these are 1023 and 0. -/
structure LoadLimits where
  up : Nat := 700
  down : Nat := 512

structure Platform (n : Nat) where
  /-- `arch_scale_freq_power` -/
  cpuPower : Fin n → Nat
  scaling : CapacityScaling n := .off

structure ClusterStats extends ClbStats where
  loadAvg : Int := 0
  cpuPower : Int := 0
  scaledAcap : Int := 0
  scaledAtask : Int := 0

/-- The part of `struct clb_env` that the statistics use. A target that is
`NR_CPUS` is `none`. -/
structure ClusterEnv (n : Nat) where
  bstats : ClusterStats := {}
  lstats : ClusterStats := {}
  btarget : Option (Fin n)
  ltarget : Option (Fin n)
  bcpus : CpuMask n
  lcpus : CpuMask n

def hmpScaleDown (w : Int) : Int := w >>> (4 : Nat)

def positive (x : Int) : Int := if x < 0 then 0 else x

/-- The factor a capacity is multiplied by, if it is scaled. -/
def CapacityScaling.factor {n : Nat} (scaling : CapacityScaling n) (cpu : Fin n) : Option Nat :=
  match scaling with
  | .off => none
  | .freqInvariant enabled freqScale =>
    let extents := freqScale cpu
    if enabled then some (if extents.throttling then extents.currScale else extents.max) else none
  | .archCapacity enabled topology =>
    let arch := topology cpu
    if enabled then some (if arch.throttling then arch.capacity else arch.maxCapacity) else none

/-- `clbs->cpu_capacity`; `cpu` is `cpumask_any(cluster_cpus)`. -/
def cpuCapacity {n : Nat} (scaling : CapacityScaling n) (cpu : Fin n) : Calc Int :=
  match scaling.factor cpu with
  | none => pure hmpMaxLoad
  | some factor => do
      let scaled ← signed 32 (hmpMaxLoad * factor)
      pure (min hmpMaxLoad (scaled >>> (10 : Nat)))

/-- What `adj_threshold` computes from before the thresholds: the spare capacity
and the spare room for tasks of both targets. -/
structure Spare where
  bNacap : Int
  bNatask : Int
  lNacap : Int
  lNatask : Int
deriving DecidableEq

namespace Spare

variable (sp : Spare)

/-- `HMP_MAX_LOAD * nacap * natask / ((b_nacap + l_nacap) * (b_natask + l_natask) + 1)` -/
def share (nacap natask : Int) : Calc Int := do
  let acap ← signed 32 (sp.bNacap + sp.lNacap)
  let atask ← signed 32 (sp.bNatask + sp.lNatask)
  let product ← signed 32 (acap * atask)
  let divisor ← signed 32 (product + 1)
  let part ← signed 64 (hmpMaxLoad * nacap)
  let dividend ← signed 64 (part * natask)
  div 64 dividend divisor

def bThreshold : Calc Int := do
  let share ← sp.share sp.bNacap sp.bNatask
  signed 32 (hmpMaxLoad - share)

def lThreshold : Calc Int := do
  let share ← sp.share sp.lNacap sp.lNatask
  signed 32 share

end Spare

namespace State

variable {T G : Type*} {n : Nat} (pf : Platform n) (s : State T G n) (cluster : CpuMask n) (env : ClusterEnv n)

/-- `cfs.avg.load_avg_ratio` of the CPU's root queue. -/
def ratio (cpu : Fin n) : Int := (s.cfs ⟨none, cpu⟩).avg.loadAvgRatio

/-- `cfs.h_nr_running` of the CPU's root queue. -/
def queued (cpu : Fin n) : Int := (s.cfs ⟨none, cpu⟩).hNrRunning

/-- `int += unsigned`, once per online CPU of the cluster. -/
def clusterTotal (f : Fin n → Int) : Int :=
  Int.bmod (∑ cpu ∈ cluster ∩ s.online.cpus, f cpu) (2 ^ 32)

def clusterTotals : ClusterStats where
  ncpu := (cluster ∩ s.online.cpus).card
  ntask := s.clusterTotal cluster s.queued
  loadAvg := s.clusterTotal cluster s.ratio
  nrNormalPrioTask := s.clusterTotal cluster fun cpu => (s.cfs ⟨none, cpu⟩).avg.nrNormalPrio
  nrDequeuingLowPrio := s.clusterTotal cluster fun cpu => (s.cfs ⟨none, cpu⟩).avg.nrDequeuingLowPrio

/-- `collect_cluster_stats` on zeroed statistics, as every caller passes them. -/
def collectClusterStats (target : Option (Fin n)) : Calc ClusterStats :=
  let clbs := s.clusterTotals cluster
  match target with
  | none => pure clbs
  | some target =>
    if h : clbs.ncpu ≠ 0 ∧ target ∈ cluster then do
      let cpuPower ← signed 32 (pf.cpuPower target)
      let capacity ← cpuCapacity pf.scaling (cluster.min' ⟨target, h.2⟩)
      let loadAvg ← div 32 clbs.loadAvg clbs.ncpu
      let acap ← signed 32 (capacity - s.ratio target)
      let atask ← signed 32 (s.queued target * s.ratio target)
      let atask ← signed 32 (capacity - atask)
      pure { clbs with
        cpuPower := cpuPower
        cpuCapacity := capacity
        loadAvg := loadAvg
        acap := acap
        scaledAcap := hmpScaleDown acap
        scaledAtask := hmpScaleDown atask }
    else pure clbs

/-- `x * b_power / (l_power + 1)` -/
def weighByPower (x bPower lPower : Int) : Calc Int := do
  let product ← signed 32 (x * bPower)
  let divisor ← signed 32 (lPower + 1)
  div 32 product divisor

/-- `POSITIVE(cap - load)` and `POSITIVE(cap - ((task * load) >> TSKLD_SHIFT))` of a
target; a target that is no CPU counts as all zero. -/
def archSpare (topology : Fin n → ArchCapacity) (target : Option (Fin n)) : Calc (Int × Int) :=
  match target with
  | none => pure (0, 0)
  | some cpu => do
      let cap : Int := (topology cpu).capacity
      let nacap ← signed 32 (cap - s.ratio cpu)
      let product ← Calc.unsigned 64 (s.queued cpu * s.ratio cpu)
      let natask ← signed 32 (cap - product >>> (2 : Nat))
      pure (positive nacap, positive natask)

/-- The spare capacities as the build computes them. Without architecture
capacities, `l_natask` is taken from the big cluster's statistics, as in the
source. -/
def spare : Calc Spare :=
  match pf.scaling with
  | .archCapacity _ topology => do
      let big ← s.archSpare topology env.btarget
      let little ← s.archSpare topology env.ltarget
      pure ⟨big.1, big.2, little.1, little.2⟩
  | _ => do
      let B := env.bstats
      let L := env.lstats
      let bNacap ← weighByPower B.scaledAcap B.cpuPower L.cpuPower
      let bNatask ← weighByPower B.scaledAtask B.cpuPower L.cpuPower
      pure ⟨positive bNacap, positive bNatask, positive L.scaledAcap, positive B.scaledAtask⟩

/-- `adj_threshold`. `USE_HMP_DYNAMIC_THRESHOLD` is not defined, so the thresholds
do not depend on the tunables `hmp_up_threshold` and `hmp_down_threshold`. -/
def adjThreshold : Calc (ClusterEnv n) := do
  let sp ← s.spare pf env
  let bThreshold ← sp.bThreshold
  let lThreshold ← sp.lThreshold
  pure { env with
    bstats := { env.bstats with threshold := bThreshold }
    lstats := { env.lstats with threshold := lThreshold } }

def schedUpdateClbstats : Calc (ClusterEnv n) := do
  let bstats ← s.collectClusterStats pf env.bcpus env.btarget
  let lstats ← s.collectClusterStats pf env.lcpus env.ltarget
  s.adjThreshold pf { env with bstats := bstats, lstats := lstats }

/-- An online CPU of the cluster whose load, load times tasks and power are in
range. -/
@[mk_iff] structure ValidTarget (cluster : CpuMask n) (cpu : Fin n) : Prop where
  mem : cpu ∈ cluster
  online : cpu ∈ s.online.cpus
  ratio_lt : s.ratio cpu < 2 ^ 24
  product_lt : s.queued cpu * s.ratio cpu < 2 ^ 24
  power_ge : 96 ≤ pf.cpuPower cpu
  power_le : pf.cpuPower cpu ≤ 1536

instance (cluster : CpuMask n) (cpu : Fin n) : Decidable (s.ValidTarget pf cluster cpu) :=
  decidable_of_iff' _ (validTarget_iff ..)

/-- What a target of the cluster has left: its capacity less its load, in units of 16. -/
def acap (cpu : Fin n) (h : cpu ∈ cluster) : Int :=
  hmpScaleDown ((cpuCapacity pf.scaling (cluster.min' ⟨cpu, h⟩)).value - s.ratio cpu)

/-- Its room for tasks: its capacity less its tasks times its load. -/
def atask (cpu : Fin n) (h : cpu ∈ cluster) : Int :=
  hmpScaleDown ((cpuCapacity pf.scaling (cluster.min' ⟨cpu, h⟩)).value - s.queued cpu * s.ratio cpu)

/-- The statistics of a cluster with a valid target. -/
structure Collected (cpu : Fin n) (h : cpu ∈ cluster) (st : ClusterStats) : Prop where
  power : st.cpuPower = pf.cpuPower cpu
  acap_eq : st.scaledAcap = s.acap pf cluster cpu h
  atask_eq : st.scaledAtask = s.atask pf cluster cpu h
  acap_between : -2 ^ 20 ≤ st.scaledAcap ∧ st.scaledAcap ≤ 63
  atask_between : -2 ^ 20 ≤ st.scaledAtask ∧ st.scaledAtask ≤ 63

end State

section Arithmetic

lemma positive_nonneg (x : Int) : 0 ≤ positive x := by
  rw [positive]
  split <;> omega

lemma positive_eq_zero_iff {x : Int} : positive x = 0 ↔ x ≤ 0 := by
  rw [positive]
  split <;> omega

lemma positive_le {x bound : Int} (hbound : 0 ≤ bound) (hx : x ≤ bound) : positive x ≤ bound := by
  rw [positive]
  split <;> omega

/-- The least and the greatest scaled value of a difference `capacity - load`. -/
lemma hmpScaleDown_between {x : Int} (hlow : -2 ^ 24 ≤ x) (hhigh : x ≤ 1023) :
    -2 ^ 20 ≤ hmpScaleDown x ∧ hmpScaleDown x ≤ 63 := by
  rw [hmpScaleDown, Int.shiftRight_eq_div_pow]
  omega

lemma CapacityScaling.factor_lt {n : Nat} {scaling : CapacityScaling n} {cpu : Fin n}
    {factor : Nat} (h : scaling.factor cpu = some factor) : factor < 2 ^ 21 := by
  cases scaling with
  | off => cases h
  | freqInvariant enabled freqScale =>
    have hcurr := (freqScale cpu).currScale_lt
    have hmax := (freqScale cpu).max_lt
    simp only [CapacityScaling.factor] at h
    split at h
    · cases h
      split <;> assumption
    · cases h
  | archCapacity enabled topology =>
    have hcurr := (topology cpu).capacity_le
    have hmax := (topology cpu).maxCapacity_le
    simp only [CapacityScaling.factor] at h
    split at h
    · cases h
      split <;> omega
    · cases h

lemma cpuCapacity_ensures {n : Nat} (scaling : CapacityScaling n) (cpu : Fin n) :
    (cpuCapacity scaling cpu).Ensures fun capacity => 0 ≤ capacity ∧ capacity ≤ 1023 := by
  rw [cpuCapacity]
  split
  · exact .pure (by decide)
  next factor hfactor =>
    have hlt : (factor : Int) < 2 ^ 21 := by
      exact_mod_cast CapacityScaling.factor_lt hfactor
    have hmax : hmpMaxLoad = 1023 := rfl
    refine .bind (.signed (Q := fun v => 0 ≤ v) ?_ ?_) fun scaled hscaled => .pure ?_
    · rw [hmax]
      exact ⟨by omega, by omega⟩
    · rw [hmax]
      omega
    · rw [hmax, Int.shiftRight_eq_div_pow]
      omega

/-- A spare capacity of the big target, weighed by the powers of the two. The
bound is `63 * 1536 / 97`. -/
lemma weighByPower_ensures {x bPower lPower : Int} (hx : -2 ^ 20 ≤ x ∧ x ≤ 63) (hb : 96 ≤ bPower ∧ bPower ≤ 1536)
    (hl : 96 ≤ lPower ∧ lPower ≤ 1536) :
    (State.weighByPower x bPower lPower).Ensures fun q => q = (x * bPower).tdiv (lPower + 1) ∧ q ≤ 997 := by
  have hlow : -2 ^ 20 * 1536 ≤ x * bPower := by nlinarith
  have hhigh : x * bPower ≤ 63 * 1536 := by nlinarith
  refine .bind (.signed (Q := fun v => v = x * bPower) ?_ rfl) fun product hproduct => ?_
  · exact ⟨by omega, by omega⟩
  refine .bind (.signed (Q := fun v => v = lPower + 1) ?_ rfl) fun divisor hdivisor => ?_
  · exact ⟨by omega, by omega⟩
  subst hproduct hdivisor
  refine .div ⟨by omega, by omega⟩ (by omega) ⟨rfl, ?_⟩
  obtain hneg | hnonneg := Int.lt_or_le (x * bPower) 0
  · have := (Calc.tdiv_between (a := x * bPower) (b := lPower + 1) (by omega)).2
    omega
  · rw [Int.tdiv_eq_ediv_of_nonneg hnonneg]
    have hle : x * bPower / (lPower + 1) < 998 := Int.ediv_lt_of_lt_mul (by omega) (by omega)
    omega

/-- The spare values are nonnegative and small enough for the product of their
sums. -/
structure Spare.InRange (sp : Spare) : Prop where
  bNacap_nonneg : 0 ≤ sp.bNacap
  bNatask_nonneg : 0 ≤ sp.bNatask
  lNacap_nonneg : 0 ≤ sp.lNacap
  lNatask_nonneg : 0 ≤ sp.lNatask
  acap_le : sp.bNacap + sp.lNacap ≤ 46340
  atask_le : sp.bNatask + sp.lNatask ≤ 46340

namespace Spare

variable {sp : Spare}

/-- The divisor of both thresholds. -/
def divisor (sp : Spare) : Int := (sp.bNacap + sp.lNacap) * (sp.bNatask + sp.lNatask) + 1

/-- What the big target takes off the greatest threshold. -/
def bShare (sp : Spare) : Int := 1023 * (sp.bNacap * sp.bNatask) / sp.divisor

/-- What the little target adds to the least threshold. -/
def lShare (sp : Spare) : Int := 1023 * (sp.lNacap * sp.lNatask) / sp.divisor

namespace InRange

variable (h : sp.InRange)
include h

lemma divisor_pos : 0 < sp.divisor := by
  have hprod : 0 ≤ (sp.bNacap + sp.lNacap) * (sp.bNatask + sp.lNatask) :=
    Int.mul_nonneg (Int.add_nonneg h.bNacap_nonneg h.lNacap_nonneg) (Int.add_nonneg h.bNatask_nonneg h.lNatask_nonneg)
  rw [divisor]
  omega

lemma bShare_nonneg : 0 ≤ sp.bShare := by
  apply Int.ediv_nonneg _ (Int.le_of_lt h.divisor_pos)
  exact Int.mul_nonneg (by decide) (Int.mul_nonneg h.bNacap_nonneg h.bNatask_nonneg)

lemma lShare_nonneg : 0 ≤ sp.lShare := by
  apply Int.ediv_nonneg _ (Int.le_of_lt h.divisor_pos)
  exact Int.mul_nonneg (by decide) (Int.mul_nonneg h.lNacap_nonneg h.lNatask_nonneg)

lemma shares_le : sp.bShare + sp.lShare ≤ 1023 := by
  have hpos := h.divisor_pos
  have hbig : sp.bShare * sp.divisor ≤ 1023 * (sp.bNacap * sp.bNatask) :=
    Int.ediv_mul_le _ (Int.ne_of_gt hpos)
  have hlittle : sp.lShare * sp.divisor ≤ 1023 * (sp.lNacap * sp.lNatask) :=
    Int.ediv_mul_le _ (Int.ne_of_gt hpos)
  -- the cross products are what the divisor has beyond the two dividends
  have hcross : sp.bNacap * sp.bNatask + sp.lNacap * sp.lNatask ≤ sp.divisor := by
    have hbl : 0 ≤ sp.bNacap * sp.lNatask := Int.mul_nonneg h.bNacap_nonneg h.lNatask_nonneg
    have hlb : 0 ≤ sp.lNacap * sp.bNatask := Int.mul_nonneg h.lNacap_nonneg h.bNatask_nonneg
    rw [divisor, Int.add_mul, Int.mul_add, Int.mul_add]
    omega
  apply Int.le_of_mul_le_mul_right ?_ hpos
  rw [Int.add_mul]
  omega

lemma share_ensures {nacap natask : Int} (hcap : 0 ≤ nacap) (hcap' : nacap ≤ 46340) (htask : 0 ≤ natask)
    (htask' : natask ≤ 46340) : (sp.share nacap natask).Ensures fun v => v = 1023 * (nacap * natask) / sp.divisor := by
  have hdivisor := h.divisor_pos
  obtain ⟨hb, hbt, hl, hlt, hacap, hatask⟩ := h
  have hmax : hmpMaxLoad = 1023 := rfl
  have hprod : (sp.bNacap + sp.lNacap) * (sp.bNatask + sp.lNatask) ≤ 46340 * 46340 :=
    Int.mul_le_mul hacap hatask (by omega) (by decide)
  have hdividend : 0 ≤ nacap * natask := Int.mul_nonneg hcap htask
  have hdividend' : nacap * natask ≤ 46340 * 46340 :=
    Int.mul_le_mul hcap' htask' htask (by decide)
  rw [divisor] at hdivisor
  rw [share, hmax]
  refine .bind (.signed (Q := fun v => v = sp.bNacap + sp.lNacap) ⟨by omega, by omega⟩ rfl) ?_
  rintro _ rfl
  refine .bind (.signed (Q := fun v => v = sp.bNatask + sp.lNatask) ⟨by omega, by omega⟩ rfl) ?_
  rintro _ rfl
  refine .bind (.signed ⟨by omega, by omega⟩ rfl) ?_
  rintro _ rfl
  refine .bind (.signed (Q := fun v => v = sp.divisor) ⟨by omega, by omega⟩ rfl) ?_
  rintro _ rfl
  refine .bind (.signed (Q := fun v => v = 1023 * nacap) ⟨by omega, by omega⟩ rfl) ?_
  rintro _ rfl
  rw [Int.mul_assoc]
  refine .bind (.signed (Q := fun v => v = 1023 * (nacap * natask)) ⟨by omega, by omega⟩ rfl) ?_
  rintro _ rfl
  refine .div ⟨by omega, by omega⟩ hdivisor ?_
  exact Int.tdiv_eq_ediv_of_nonneg (by omega)

lemma thresholds_ensure : sp.bThreshold.Ensures (fun threshold => threshold = 1023 - sp.bShare) ∧
    sp.lThreshold.Ensures fun threshold => threshold = sp.lShare := by
  have hshares := h.shares_le
  have hbshare := h.bShare_nonneg
  have hlshare := h.lShare_nonneg
  have hacap := h.acap_le
  have hatask := h.atask_le
  have hb := h.bNacap_nonneg
  have hbt := h.bNatask_nonneg
  have hl := h.lNacap_nonneg
  have hlt := h.lNatask_nonneg
  refine ⟨.bind (h.share_ensures hb (by omega) hbt (by omega)) ?_,
    .bind (h.share_ensures hl (by omega) hlt (by omega)) ?_⟩
  · rintro _ rfl
    change (signed 32 (1023 - sp.bShare)).Ensures _
    exact .signed ⟨by omega, by omega⟩ rfl
  · rintro _ rfl
    change (signed 32 sp.lShare).Ensures _
    exact .signed ⟨by omega, by omega⟩ rfl

end InRange

end Spare

end Arithmetic

section Clusters

variable {T G : Type*} {n : Nat} {pf : Platform n} {s : State T G n} {cluster : CpuMask n} {cpu : Fin n}

namespace State

lemma ratio_nonneg (cpu : Fin n) : 0 ≤ s.ratio cpu := Int.natCast_nonneg _

lemma queued_nonneg (cpu : Fin n) : 0 ≤ s.queued cpu := Int.natCast_nonneg _

lemma ValidTarget.ncpu_pos (h : s.ValidTarget pf cluster cpu) : 0 < (s.clusterTotals cluster).ncpu := by
  have hmem : cpu ∈ cluster ∩ s.online.cpus := Finset.mem_inter.mpr ⟨h.mem, h.online⟩
  exact Int.natCast_pos.mpr (Finset.card_pos.mpr ⟨cpu, hmem⟩)

/-- The statistics of a cluster with a valid target are computed exactly. -/
lemma ValidTarget.collect_ensures (h : s.ValidTarget pf cluster cpu) :
    (s.collectClusterStats pf cluster (some cpu)).Ensures (s.Collected pf cluster cpu h.mem) := by
  have hncpu := h.ncpu_pos
  obtain ⟨hmem, -, hratio, hproduct, -, hpower⟩ := h
  obtain ⟨hexact, hcapacity0, hcapacity⟩ := cpuCapacity_ensures pf.scaling (cluster.min' ⟨cpu, hmem⟩)
  have hratio0 : 0 ≤ s.ratio cpu := s.ratio_nonneg cpu
  have hproduct0 : 0 ≤ s.queued cpu * s.ratio cpu := Int.mul_nonneg (s.queued_nonneg cpu) hratio0
  simp only [collectClusterStats, dif_pos (And.intro (Int.ne_of_gt hncpu) hmem)]
  refine .bind (.signed (Q := fun v => v = pf.cpuPower cpu) ⟨by omega, by omega⟩ rfl) ?_
  rintro _ rfl
  refine .bind (P := (· = (cpuCapacity pf.scaling (cluster.min' ⟨cpu, hmem⟩)).value)) ⟨hexact, rfl⟩ ?_
  rintro _ rfl
  have hacap : s.acap pf cluster cpu hmem = hmpScaleDown (_ - _) := rfl
  have hatask : s.atask pf cluster cpu hmem = hmpScaleDown (_ - _) := rfl
  generalize (cpuCapacity pf.scaling (cluster.min' ⟨cpu, hmem⟩)).value = capacity at hcapacity0 hcapacity hacap hatask ⊢
  refine .bind (.div (Q := fun _ => True) (Calc.fits_bmod 32 _) hncpu trivial) ?_
  rintro loadAvg -
  refine .bind (.signed (Q := fun v => v = capacity - s.ratio cpu) ⟨by omega, by omega⟩ rfl) ?_
  rintro _ rfl
  refine .bind (.signed (Q := fun v => v = s.queued cpu * s.ratio cpu) ⟨by omega, by omega⟩ rfl) ?_
  rintro _ rfl
  refine .bind (.signed (Q := fun v => v = capacity - s.queued cpu * s.ratio cpu) ⟨by omega, by omega⟩ rfl) ?_
  rintro _ rfl
  refine .pure ⟨rfl, hacap.symm, hatask.symm, ?_, ?_⟩
  · exact hmpScaleDown_between (by omega) (by omega)
  · exact hmpScaleDown_between (by omega) (by omega)

lemma ValidTarget.archSpare_ensures (h : s.ValidTarget pf cluster cpu) (topology : Fin n → ArchCapacity) :
    (s.archSpare topology (some cpu)).Ensures fun spare => (0 ≤ spare.1 ∧ spare.1 ≤ 1536) ∧ (0 ≤ spare.2 ∧
    spare.2 ≤ 1536) ∧ (1536 ≤ s.ratio cpu → spare.1 = 0) := by
  obtain ⟨-, -, hratio, hproduct, -, -⟩ := h
  have hratio0 : 0 ≤ s.ratio cpu := s.ratio_nonneg cpu
  have hproduct0 : 0 ≤ s.queued cpu * s.ratio cpu := Int.mul_nonneg (s.queued_nonneg cpu) hratio0
  have hcap : ((topology cpu).capacity : Int) ≤ 1536 := by
    exact_mod_cast (topology cpu).capacity_le
  rw [archSpare]
  refine .bind (.signed (Q := fun v => v ≤ 1536 ∧ (1536 ≤ s.ratio cpu → v ≤ 0)) ⟨by omega, by omega⟩ (by omega)) ?_
  rintro nacap ⟨hnacap, hloaded⟩
  refine .bind (.unsigned (Q := fun v => 0 ≤ v ∧ v < 2 ^ 24) hproduct0 (by omega) ⟨hproduct0, hproduct⟩) ?_
  rintro product ⟨hlow, hhigh⟩
  have hshift : 0 ≤ product >>> (2 : Nat) ∧ product >>> (2 : Nat) < 2 ^ 22 := by
    rw [Int.shiftRight_eq_div_pow]
    omega
  refine .bind (.signed (Q := fun v => v ≤ 1536) ⟨by omega, by omega⟩ (by omega)) ?_
  intro natask hnatask
  refine .pure ⟨⟨positive_nonneg _, ?_⟩, ⟨positive_nonneg _, ?_⟩, fun h => positive_eq_zero_iff.mpr (hloaded h)⟩
  · exact positive_le (by decide) hnacap
  · exact positive_le (by decide) hnatask

variable (pf) in
/-- A target with a load of 1536 or more has nothing left. -/
lemma acap_neg (h : cpu ∈ cluster) (hloaded : 1536 ≤ s.ratio cpu) : s.acap pf cluster cpu h < 0 := by
  have hcapacity := (cpuCapacity_ensures pf.scaling (cluster.min' ⟨cpu, h⟩)).2.2
  rw [acap, hmpScaleDown, Int.shiftRight_eq_div_pow]
  omega

/-- Whichever way the build computes them, the spare capacities are in range. -/
lemma spare_ensures {env : ClusterEnv n} {b l : Fin n}
    (hb : s.ValidTarget pf env.bcpus b) (hl : s.ValidTarget pf env.lcpus l)
    (hbtarget : env.btarget = some b) (hltarget : env.ltarget = some l)
    (hbstats : s.Collected pf env.bcpus b hb.mem env.bstats) (hlstats : s.Collected pf env.lcpus l hl.mem env.lstats) :
    (s.spare pf env).Ensures fun sp => sp.InRange ∧ (1536 ≤ s.ratio b → sp.bNacap = 0) ∧
      (1536 ≤ s.ratio l → sp.lNacap = 0) := by
  rw [spare]
  split
  next enabled topology _ =>
    rw [hbtarget, hltarget]
    refine .bind (hb.archSpare_ensures topology) ?_
    rintro ⟨bNacap, bNatask⟩ ⟨⟨hbn, hbn'⟩, ⟨hbt, hbt'⟩, hbloaded⟩
    refine .bind (hl.archSpare_ensures topology) ?_
    rintro ⟨lNacap, lNatask⟩ ⟨⟨hln, hln'⟩, ⟨hlt, hlt'⟩, hlloaded⟩
    dsimp only at hbn' hbt' hln' hlt'
    exact .pure ⟨⟨hbn, hbt, hln, hlt, by dsimp only; omega, by dsimp only; omega⟩, hbloaded, hlloaded⟩
  · have hbrange := And.intro hb.power_ge hb.power_le
    have hlrange := And.intro hl.power_ge hl.power_le
    have hbpower := hbstats.power
    have hlpower := hlstats.power
    refine .bind (weighByPower_ensures hbstats.acap_between (by omega) (by omega)) ?_
    rintro bNacap ⟨hbNacap, hbNacap'⟩
    refine .bind (weighByPower_ensures hbstats.atask_between (by omega) (by omega)) ?_
    rintro bNatask ⟨-, hbNatask⟩
    have hbn := positive_le (by decide) hbNacap'
    have hbt := positive_le (by decide) hbNatask
    have hln := positive_le (by decide) hlstats.acap_between.2
    have hlt := positive_le (by decide) hbstats.atask_between.2
    refine .pure ⟨⟨positive_nonneg _, positive_nonneg _, positive_nonneg _, positive_nonneg _,
      by dsimp only; omega, by dsimp only; omega⟩, fun hloaded => ?_, fun hloaded => ?_⟩
    · have hneg := acap_neg pf hb.mem hloaded
      rw [← hbstats.acap_eq] at hneg
      have hproduct := Int.mul_nonpos_of_nonpos_of_nonneg hneg.le (b := env.bstats.cpuPower) (by omega)
      rw [positive_eq_zero_iff, hbNacap]
      exact (Calc.tdiv_between (by omega)).2.trans (max_le hproduct le_rfl)
    · have hneg := acap_neg pf hl.mem hloaded
      rw [positive_eq_zero_iff, hlstats.acap_eq]
      exact hneg.le

/-- For valid targets the thresholds are those of the spare capacities, which are in range. -/
lemma schedUpdateClbstats_ensures {env : ClusterEnv n} {b l : Fin n}
    (hb : s.ValidTarget pf env.bcpus b) (hl : s.ValidTarget pf env.lcpus l)
    (hbtarget : env.btarget = some b) (hltarget : env.ltarget = some l) :
    (s.schedUpdateClbstats pf env).Ensures fun env' =>
      (∃ sp : Spare, (s.spare pf env').value = sp ∧ sp.InRange ∧
        (1536 ≤ s.ratio b → sp.bNacap = 0) ∧ (1536 ≤ s.ratio l → sp.lNacap = 0) ∧
        env'.bstats.threshold = 1023 - sp.bShare ∧ env'.lstats.threshold = sp.lShare) ∧
      s.Collected pf env.bcpus b hb.mem env'.bstats ∧ s.Collected pf env.lcpus l hl.mem env'.lstats := by
  rw [schedUpdateClbstats, hbtarget, hltarget]
  refine .bind hb.collect_ensures ?_
  intro bstats hbstats
  refine .bind hl.collect_ensures ?_
  intro lstats hlstats
  let env' := { env with bstats := bstats, lstats := lstats, btarget := some b, ltarget := some l }
  obtain ⟨hexact, hsp, hbloaded, hlloaded⟩ : (s.spare pf env').Ensures _ :=
    spare_ensures hb hl rfl rfl hbstats hlstats
  refine .bind (P := (· = _)) ⟨hexact, rfl⟩ ?_
  rintro _ rfl
  refine .bind hsp.thresholds_ensure.1 ?_
  intro bThreshold hbThreshold
  refine .bind hsp.thresholds_ensure.2 ?_
  intro lThreshold hlThreshold
  obtain ⟨hbp, hba, hbt, hba', hbt'⟩ := hbstats
  obtain ⟨hlp, hla, hlt, hla', hlt'⟩ := hlstats
  exact .pure ⟨⟨_, rfl, hsp, hbloaded, hlloaded, hbThreshold, hlThreshold⟩, ⟨hbp, hba, hbt, hba', hbt'⟩,
    ⟨hlp, hla, hlt, hla', hlt'⟩⟩

end State

/-- For a valid big and a valid little target the thresholds are in order, and
neither the statistics nor the thresholds overflow or divide by zero. -/
theorem thresholds_ordered {env : ClusterEnv n} {b l : Fin n} (hb : s.ValidTarget pf env.bcpus b)
    (hl : s.ValidTarget pf env.lcpus l) (hbtarget : env.btarget = some b) (hltarget : env.ltarget = some l) :
    (s.schedUpdateClbstats pf env).Ensures fun env' => 0 ≤ env'.lstats.threshold ∧
    env'.lstats.threshold ≤ env'.bstats.threshold ∧ env'.bstats.threshold ≤ 1023 := by
  refine (State.schedUpdateClbstats_ensures hb hl hbtarget hltarget).mono ?_
  rintro env' ⟨⟨sp, -, hsp, -, -, hbThreshold, hlThreshold⟩, -⟩
  have hshares := hsp.shares_le
  have hbshare := hsp.bShare_nonneg
  have hlshare := hsp.lShare_nonneg
  rw [hbThreshold, hlThreshold]
  refine ⟨hlshare, ?_, ?_⟩ <;> omega

/-- A little and a big CPU, both idle. -/
def idlePair : State Bool Unit 2 := { taskQueue := fun _ => ⟨none, 0⟩, online := ⟨{0, 1}, by decide⟩ }

def pairEnv : ClusterEnv 2 := { btarget := some 1, ltarget := some 0, bcpus := {1}, lcpus := {0} }

/-- Two tasks of load 300 on the big CPU, three of load 700 on the little one. -/
theorem thresholds_ordered_busy_pair :
    let pf : Platform 2 := { cpuPower := fun cpu => if cpu = 1 then 1535 else 606 }
    let s : State Bool Unit 2 :=
      { idlePair with
        cfs := fun q =>
          if q.cpu = 1 then { hNrRunning := 2, avg := { loadAvgRatio := 300 } }
          else { hNrRunning := 3, avg := { loadAvgRatio := 700 } } }
    (s.schedUpdateClbstats pf pairEnv).Ensures fun env' =>
      0 ≤ env'.lstats.threshold ∧ env'.lstats.threshold ≤ env'.bstats.threshold ∧ env'.bstats.threshold ≤ 1023 :=
  thresholds_ordered (b := 1) (l := 0) (by decide) (by decide) rfl rfl

end Clusters

end BigLittle.Hmp
