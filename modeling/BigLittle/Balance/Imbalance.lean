import BigLittle.Balance.MoveTasks

/-!
# How much load a balance moves

`find_busiest_group` compares the local group of a domain with the busiest one, and `calculate_imbalance` says how much
load to pull so that neither passes the average. Two jumps to `force_balance` skip the test that the local group is
below the average. The difference of the two loads then wraps and no longer bounds what is pulled.
-/

namespace BigLittle.Balance

open Word

structure SchedGroup where
  /-- `sched_group_cpus`, in ascending order -/
  cpus : List Nat
  power : Nat
deriving DecidableEq

/-- `group_first_cpu`. -/
def SchedGroup.firstCpu (g : SchedGroup) : Nat := g.cpus.headD 0

/-- `struct sg_lb_stats`, what `update_sg_lb_stats` sums up for a group. -/
structure SgLbStats where
  (avgLoad groupLoad sumNrRunning sumWeightedLoad groupCapacity idleCpus groupWeight : Nat)
  (groupImb groupHasCapacity : Bool)

structure SdLbStats where
  (busiest this : Option SchedGroup := none)
  (totalLoad totalPwr avgLoad : Nat := 0)
  (thisLoad thisLoadPerTask thisNrRunning : Nat := 0)
  thisHasCapacity : Bool := false
  (thisIdleCpus busiestIdleCpus maxLoad busiestLoadPerTask busiestNrRunning busiestGroupCapacity : Nat := 0)
  busiestHasCapacity : Bool := false
  busiestGroupWeight : Nat := 0
  groupImb : Bool := false

/-- What is read of `struct lb_env` and its domain. -/
structure DomainEnv where
  dstCpu : Nat
  idle : CpuIdleType
  asymPacking : Bool := false
  /-- `SD_PREFER_SIBLING` of the child -/
  preferSibling : Bool := false
  imbalancePct : Nat := 125
  /-- `cpu_avg_load_per_task` of the destination -/
  cpuAvgLoadPerTask : Nat := 0

namespace SdLbStats

variable (w : Nat) (env : DomainEnv) (sds : SdLbStats)

def thisPower : Nat := sds.this.elim 0 SchedGroup.power

def busiestPower : Nat := sds.busiest.elim 0 SchedGroup.power

def updateSdPickBusiest (sg : SchedGroup) (sgs : SgLbStats) : Bool :=
  if sgs.avgLoad ≤ sds.maxLoad then false
  else if sgs.groupCapacity < sgs.sumNrRunning then true
  else if sgs.groupImb then true
  else env.asymPacking && decide (sgs.sumNrRunning ≠ 0) && decide (env.dstCpu < sg.firstCpu) &&
    sds.busiest.elim true fun busiest => decide (sg.firstCpu < busiest.firstCpu)

def addGroup (sds : SdLbStats) (group : SchedGroup × SgLbStats) : SdLbStats :=
  let (sg, sgs) := group
  let sds := { sds with totalLoad := add w sds.totalLoad sgs.groupLoad, totalPwr := add w sds.totalPwr sg.power }
  if env.dstCpu ∈ sg.cpus then
    { sds with
      thisLoad := sgs.avgLoad, this := some sg, thisNrRunning := sgs.sumNrRunning
      thisLoadPerTask := sgs.sumWeightedLoad, thisHasCapacity := sgs.groupHasCapacity
      thisIdleCpus := sgs.idleCpus }
  else
    let sgs := if env.preferSibling && sds.thisHasCapacity then
      { sgs with groupCapacity := min sgs.groupCapacity 1 } else sgs
    if sds.updateSdPickBusiest env sg sgs then
      { sds with
        maxLoad := sgs.avgLoad, busiest := some sg, busiestNrRunning := sgs.sumNrRunning
        busiestIdleCpus := sgs.idleCpus, busiestGroupCapacity := sgs.groupCapacity
        busiestLoadPerTask := sgs.sumWeightedLoad, busiestHasCapacity := sgs.groupHasCapacity
        busiestGroupWeight := sgs.groupWeight, groupImb := sgs.groupImb }
    else sds

/-- `update_sd_lb_stats`, unless another CPU is to balance. -/
def updateSdLbStats (groups : List (SchedGroup × SgLbStats)) : SdLbStats := groups.foldl (addGroup w env) {}

/-- `check_asym_packing`, with the imbalance it sets. -/
def checkAsymPacking : Option Nat :=
  if env.asymPacking then
    sds.busiest.bind fun busiest =>
      if busiest.firstCpu < env.dstCpu then none
      else some (add w (mul w sds.maxLoad busiest.power) 512 / 1024)
  else none

def fixSmallImbalance (imbalance : Nat) : Nat :=
  let perTask := sds.busiestLoadPerTask
  let thisLoadPerTask :=
    if sds.thisNrRunning = 0 then env.cpuAvgLoadPerTask else sds.thisLoadPerTask / sds.thisNrRunning
  let imbn := if sds.thisNrRunning ≠ 0 ∧ thisLoadPerTask < perTask then 1 else 2
  let scaled := mul w perTask 1024 / sds.busiestPower
  if mul w scaled imbn ≤ add w (sub w sds.maxLoad sds.thisLoad) scaled then perTask
  else
    let pwrNow := add w (mul w sds.busiestPower (min perTask sds.maxLoad))
      (mul w sds.thisPower (min thisLoadPerTask sds.thisLoad)) / 1024
    -- The load taken from the busiest group, and the load added to the local one.
    let taken :=
      if scaled < sds.maxLoad then mul w sds.busiestPower (min perTask (sds.maxLoad - scaled)) else 0
    let added := min (mul w sds.maxLoad sds.busiestPower) (mul w perTask 1024) / sds.thisPower
    let pwrMove := add w taken (mul w sds.thisPower (min thisLoadPerTask (add w sds.thisLoad added))) / 1024
    if pwrNow < pwrMove then perTask else imbalance

/-- `busiest_load_per_task` as `calculate_imbalance` sets it. -/
def loadPerTask : Nat :=
  let perTask := sds.busiestLoadPerTask / sds.busiestNrRunning
  if sds.groupImb then min perTask sds.avgLoad else perTask

/-- The most to pull from the busiest group. -/
def maxPull : Nat :=
  min (sub w sds.maxLoad sds.avgLoad) (if sds.groupImb then 2 ^ w - 1
    else mul w (sub w sds.busiestNrRunning sds.busiestGroupCapacity) (2 ^ 20) / sds.busiestPower)

/-- The load that makes the groups equal. -/
def pull : Nat :=
  min (mul w (sds.maxPull w) sds.busiestPower) (mul w (sub w sds.avgLoad sds.thisLoad) sds.thisPower) / 1024

/-- The operands of the subtractions in `maxPull` and `pull`. -/
def differences : List (Nat × Nat) :=
  (if sds.groupImb then [] else [(sds.busiestNrRunning, sds.busiestGroupCapacity)]) ++
    [(sds.maxLoad, sds.avgLoad), (sds.avgLoad, sds.thisLoad)]

/-- What `calculate_imbalance` sets, whether by `fix_small_imbalance`, and the operands of its own subtractions. -/
structure Imbalance where
  imbalance : Nat
  fixed : Bool
  differences : List (Nat × Nat)
deriving DecidableEq

def calculateImbalance : Imbalance :=
  let sds := { sds with busiestLoadPerTask := sds.loadPerTask }
  if sds.maxLoad < sds.avgLoad then ⟨sds.fixSmallImbalance w env 0, true, []⟩
  else if sds.pull w < sds.busiestLoadPerTask then
    ⟨sds.fixSmallImbalance w env (sds.pull w), true, sds.differences⟩
  else ⟨sds.pull w, false, sds.differences⟩

/-- What `find_busiest_group` finds: nothing, a group to pack, or a group to pull from. -/
inductive Found where
  | balanced
  | packed (imbalance : Nat)
  | pulled (imbalance : Imbalance)
deriving DecidableEq

def average : Nat := mul w 1024 sds.totalLoad / sds.totalPwr

/-- `find_busiest_group` from its statistics on. -/
def findBusiestGroup (balance : Bool) : Found :=
  if !balance then .balanced
  else
    match if env.idle = .notIdle then none else sds.checkAsymPacking w env with
    | some imbalance => .packed imbalance
    | none =>
      if sds.busiest.isNone || sds.busiestNrRunning = 0 then .balanced
      else
        let sds := { sds with avgLoad := sds.average w }
        if sds.groupImb then .pulled (sds.calculateImbalance w env)
        else if env.idle = .newlyIdle && sds.thisHasCapacity && !sds.busiestHasCapacity then
          .pulled (sds.calculateImbalance w env)
        else if sds.maxLoad ≤ sds.thisLoad then .balanced
        else if sds.avgLoad ≤ sds.thisLoad then .balanced
        else if
            if env.idle = .idle then sds.thisIdleCpus ≤ add 32 sds.busiestIdleCpus 1 ∧
              sds.busiestNrRunning ≤ sds.busiestGroupWeight
            else mul w 100 sds.maxLoad ≤ mul w env.imbalancePct sds.thisLoad then .balanced
        else .pulled (sds.calculateImbalance w env)

/-- Nothing wraps, and unless `fix_small_imbalance` set the imbalance, moving it leaves the local group at most at the
average and the busiest one at least there. -/
def Imbalance.Fair (r : Imbalance) : Prop :=
  (∀ d ∈ r.differences, d.2 ≤ d.1) ∧ (r.fixed = false →
    sds.thisLoad * sds.thisPower + r.imbalance * 1024 ≤ sds.average w * sds.thisPower ∧
      sds.average w * sds.busiestPower + r.imbalance * 1024 ≤ sds.maxLoad * sds.busiestPower)

variable {w env sds}

lemma calculateImbalance_of_pulled {balance : Bool} {r : Imbalance}
    (h : sds.findBusiestGroup w env balance = .pulled r) :
    r = { sds with avgLoad := sds.average w }.calculateImbalance w env := by
  dsimp only [findBusiestGroup] at h
  repeat' split at h
  all_goals cases h
  all_goals rfl

lemma forall_differences_iff : (∀ d ∈ sds.differences, d.2 ≤ d.1) ↔
    (sds.groupImb = true ∨ sds.busiestGroupCapacity ≤ sds.busiestNrRunning) ∧ sds.avgLoad ≤ sds.maxLoad ∧
    sds.thisLoad ≤ sds.avgLoad := by
  cases h : sds.groupImb <;> simp [differences, h]

section

variable (w env sds) (hmax : sds.avgLoad ≤ sds.maxLoad)
include hmax

lemma calculateImbalance_spec : (sds.calculateImbalance w env).differences = sds.differences ∧
    ((sds.calculateImbalance w env).fixed = false → (sds.calculateImbalance w env).imbalance = sds.pull w) := by
  dsimp only [calculateImbalance]
  rw [if_neg (Nat.not_lt.mpr hmax)]
  split
  · exact ⟨rfl, nofun⟩
  · exact ⟨rfl, fun _ => rfl⟩

/-- The differences bound the load when they do not wrap; that the products wrap makes it only smaller. -/
lemma pull_le (hthis : sds.thisLoad ≤ sds.avgLoad) (hword : sds.avgLoad < 2 ^ w) :
    sds.pull w * 1024 ≤ (sds.maxLoad - sds.avgLoad) * sds.busiestPower ∧
    sds.pull w * 1024 ≤ (sds.avgLoad - sds.thisLoad) * sds.thisPower := by
  have hmost : sds.maxPull w ≤ sds.maxLoad - sds.avgLoad := (Nat.min_le_left _ _).trans (sub_le hmax hword)
  have hpull := Nat.div_mul_le_self (min (mul w (sds.maxPull w) sds.busiestPower)
    (mul w (sub w sds.avgLoad sds.thisLoad) sds.thisPower)) 1024
  refine ⟨hpull.trans ((Nat.min_le_left _ _).trans ?_), hpull.trans ((Nat.min_le_right _ _).trans ?_)⟩
  · exact (mul_le ..).trans (Nat.mul_le_mul_right _ hmost)
  · exact (mul_le ..).trans (Nat.mul_le_mul_right _ (sub_le hthis (hthis.trans_lt hword)))

end

/-- For all statistics with which load is to be pulled. -/
theorem imbalance_fair_iff {balance : Bool} {r : Imbalance} (h : sds.findBusiestGroup w env balance = .pulled r) :
    r.Fair w sds ↔ sds.maxLoad < sds.average w ∨ sds.thisLoad ≤ sds.average w ∧
    (sds.groupImb = true ∨ sds.busiestGroupCapacity ≤ sds.busiestNrRunning) := by
  rw [calculateImbalance_of_pulled h]
  by_cases hmax : sds.maxLoad < sds.average w
  · refine iff_of_true ?_ (.inl hmax)
    simp [Imbalance.Fair, calculateImbalance, hmax]
  · rw [or_iff_right hmax]
    rw [Nat.not_lt] at hmax
    obtain ⟨hdifferences, hpull⟩ := calculateImbalance_spec w env { sds with avgLoad := sds.average w } hmax
    rw [Imbalance.Fair, hdifferences, forall_differences_iff]
    constructor
    · rintro ⟨⟨hcapacity, -, hthis⟩, -⟩
      exact ⟨hthis, hcapacity⟩
    · rintro ⟨hthis, hcapacity⟩
      refine ⟨⟨hcapacity, hmax, hthis⟩, fun hfixed => ?_⟩
      have hword : sds.average w < 2 ^ w := (Nat.div_le_self _ _).trans_lt (wrap_lt w _)
      obtain ⟨hbusiest, hlocal⟩ := pull_le w { sds with avgLoad := sds.average w } hmax hthis hword
      rw [hpull hfixed]
      have hsum : ∀ {a b power : Nat}, a ≤ b → a * power + (b - a) * power = b * power := fun h => by
        rw [← Nat.add_mul, Nat.add_sub_cancel' h]
      exact ⟨(Nat.add_le_add_left hlocal _).trans_eq (hsum hthis),
        (Nat.add_le_add_left hbusiest _).trans_eq (hsum hmax)⟩

end SdLbStats

/-- The local group, seven pinned tasks on one CPU of the next, and two idle CPUs. -/
def pinnedStats (cpuIdle : CpuIdleType) (here : SgLbStats) : SdLbStats :=
  .updateSdLbStats 32 { dstCpu := 0, idle := cpuIdle } [(⟨[0, 1], 2048⟩, here),
    (⟨[2, 3], 2048⟩, ⟨3584, 7168, 7, 7168, 2, 1, 2, true, false⟩),
    (⟨[4, 5], 2048⟩, ⟨0, 0, 0, 0, 2, 2, 2, false, true⟩)]

theorem imbalance_fair_light : SdLbStats.Imbalance.Fair 32
    (pinnedStats .idle ⟨512, 1024, 1, 1024, 2, 1, 2, false, true⟩)
    ⟨1706, false, [(3584, 1365), (1365, 512)]⟩ := by
  have h : (pinnedStats .idle ⟨512, 1024, 1, 1024, 2, 1, 2, false, true⟩).findBusiestGroup 32
      { dstCpu := 0, idle := .idle } true = .pulled ⟨1706, false, [(3584, 1365), (1365, 512)]⟩ := by
    decide +kernel
  exact (SdLbStats.imbalance_fair_iff h).mpr (.inr (by decide +kernel))

/-- The busiest group is imbalanced, so that nobody looks whether the local group is above the average of 2218. -/
theorem imbalance_unfair : (pinnedStats .notIdle ⟨3072, 6144, 6, 6144, 2, 0, 2, false, false⟩).findBusiestGroup 32
        { dstCpu := 0, idle := .notIdle } true = .pulled ⟨2732, false, [(3584, 2218), (2218, 3072)]⟩ ∧
      ¬SdLbStats.Imbalance.Fair 32 (pinnedStats .notIdle ⟨3072, 6144, 6, 6144, 2, 0, 2, false, false⟩)
        ⟨2732, false, [(3584, 2218), (2218, 3072)]⟩ := by
  refine ⟨by decide +kernel, fun h => ?_⟩
  exact absurd (h.1 (2218, 3072) (by decide)) (by decide)

end BigLittle.Balance
