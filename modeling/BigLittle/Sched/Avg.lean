import BigLittle.Lib.Word

/-!
# Per-entity load tracking

The record `struct sched_avg` and the functions of `kernel/sched/fair.c` that
age it: `decay_load`, `__compute_runnable_contrib`,
`__update_entity_runnable_avg` and the two functions that turn the sums into a
load contribution and a load ratio.

Sums and periods are 32-bit, clocks and loads 64-bit; every truncation the C
types perform is written out. The accumulation step that the source repeats
three times in one update is the single definition `accrue`.
-/

namespace BigLittle.Sched

open Word (add mul ofInt sub wrap)

def loadAvgPeriod : Nat := 32
def loadAvgMax : Nat := 47742
def loadAvgMaxN : Nat := 345

/-- `NICE_0_LOAD`; with `SCHED_LOAD_RESOLUTION` zero, `scale_load` and
`scale_load_down` are the identity. -/
def nice0Load : Nat := 1024

def nice0Shift : Nat := 10

/-- `SCHED_FREQSCALE_SHIFT` and `CPUPOWER_FREQSCALE_SHIFT`. -/
def freqScaleShift : Nat := 10

def runnableAvgYNInv : List Nat :=
  [0xffffffff, 0xfa83b2da, 0xf5257d14, 0xefe4b99a, 0xeac0c6e6, 0xe5b906e6,
   0xe0ccdeeb, 0xdbfbb796, 0xd744fcc9, 0xd2a81d91, 0xce248c14, 0xc9b9bd85,
   0xc5672a10, 0xc12c4cc9, 0xbd08a39e, 0xb8fbaf46, 0xb504f333, 0xb123f581,
   0xad583ee9, 0xa9a15ab4, 0xa5fed6a9, 0xa2704302, 0x9ef5325f, 0x9b8d39b9,
   0x9837f050, 0x94f4efa8, 0x91c3d373, 0x8ea4398a, 0x8b95c1e3, 0x88980e80,
   0x85aac367, 0x82cd8698]

def runnableAvgYNSum : List Nat :=
  [0, 1002, 1982, 2941, 3880, 4798, 5697, 6576, 7437, 8279, 9103,
   9909, 10698, 11470, 12226, 12966, 13690, 14398, 15091, 15769, 16433, 17082,
   17718, 18340, 18949, 19545, 20128, 20698, 21256, 21802, 22336, 22859, 23371]

/-- `struct sched_avg`, as configured with the HMP priority filter. -/
structure SchedAvg where
  runnableAvgSum : Nat := 0
  runnableAvgPeriod : Nat := 0
  lastRunnableUpdate : Nat := 0
  decayCount : Int := 0
  loadAvgContrib : Nat := 0
  loadAvgRatio : Nat := 0
  pendingLoad : Nat := 0
  nrPending : Nat := 0
  nrDequeuingLowPrio : Nat := 0
  nrNormalPrio : Nat := 0
  hmpLastUpMigration : Nat := 0
  hmpLastDownMigration : Nat := 0
  usageAvgSum : Nat := 0
deriving DecidableEq, Repr

/-- `val * y^n` with `y^32 = 1/2`, rounded down. -/
def decayLoad (val n : Nat) : Nat :=
  if n = 0 then val
  else if loadAvgPeriod * 63 < n then 0
  else
    -- Below 32 periods both the shift and the remainder leave their operand
    -- alone, so the source's `if (local_n >= LOAD_AVG_PERIOD)` needs no case.
    mul 64 (val >>> (n / loadAvgPeriod)) (runnableAvgYNInv.getD (n % loadAvgPeriod) 0) >>> 32

/-- The `do ... while (n > LOAD_AVG_PERIOD)` loop, bounded by `fuel` rounds;
returns the contribution and the periods that are left. -/
def contribLoop : Nat → Nat → Nat → Nat × Nat
  | 0, contrib, n => (contrib, n)
  | fuel + 1, contrib, n =>
    let contrib := add 32 (contrib / 2) (runnableAvgYNSum.getD loadAvgPeriod 0)
    let n := n - loadAvgPeriod
    if loadAvgPeriod < n then contribLoop fuel contrib n else (contrib, n)

/-- Contribution of `n` full periods, `\Sum 1024*y^i` for `1 <= i <= n`. -/
def computeRunnableContrib (n : Nat) : Nat :=
  if n ≤ loadAvgPeriod then runnableAvgYNSum.getD n 0
  else if loadAvgMaxN ≤ n then loadAvgMax
  else
    let (contrib, n) := contribLoop n 0 n
    add 32 (wrap 32 (decayLoad contrib n)) (runnableAvgYNSum.getD n 0)

/-- Which build supplies `curr_scale`: none, `CONFIG_HMP_FREQUENCY_INVARIANT_SCALE`
with its run-time switch and `freq_scale` table, or
`CONFIG_ARCH_SCALE_INVARIANT_CPU_CAPACITY` with `topology_cpu_capacity`. -/
inductive FreqScaling where
  | off
  | hmpInvariant (enabled : Bool) (currScale : Nat → Nat)
  | archCapacity (capacity : Nat → Nat)

structure LoadEnv where
  variableScale : Bool := true
  /-- `hmp_data.multiplier`, a signed 16.16 fixed-point number -/
  multiplier : Int := 65536
  scaling : FreqScaling := .off
  nrCpuIds : Nat := 8

variable (sa : SchedAvg) (env : LoadEnv) (runnable running : Bool)

def hmpVariableScaleConvert (delta : Nat) : Nat :=
  if env.variableScale then
    let high := delta >>> 32
    let low := delta % 2 ^ 32
    let low := mul 64 low (ofInt 64 env.multiplier)
    let high := mul 64 high (ofInt 64 env.multiplier)
    add 64 (low >>> 16) (wrap 64 (high <<< 16))
  else delta

/-- `curr_scale` for the given CPU; `none` when the build does not scale. -/
def LoadEnv.currScale (cpu : Int) : Option Nat :=
  match env.scaling with
  | .off => none
  | .hmpInvariant enabled currScale =>
    some (if 0 ≤ cpu ∧ cpu < env.nrCpuIds ∧ enabled then currScale cpu.toNat else 1024)
  | .archCapacity capacity =>
    some (if 0 ≤ cpu ∧ cpu < env.nrCpuIds then capacity cpu.toNat else 1024)

/-- `(amount * curr_scale) >> 10` in `w`-bit arithmetic. -/
def LoadEnv.scaled (cpu : Int) (w amount : Nat) : Nat :=
  match env.currScale cpu with
  | none => amount
  | some scale => mul w amount scale >>> freqScaleShift

/-- Charge `amount` to the period and its scaled value to the sums. -/
def SchedAvg.accrue (amount scaled : Nat) : SchedAvg :=
  { sa with
    runnableAvgSum :=
      if runnable then add 32 sa.runnableAvgSum scaled else sa.runnableAvgSum
    usageAvgSum := if running then add 32 sa.usageAvgSum scaled else sa.usageAvgSum
    runnableAvgPeriod := add 32 sa.runnableAvgPeriod amount }

/-- Age the three sums by `n` periods. -/
def SchedAvg.decay (n : Nat) : SchedAvg :=
  { sa with
    runnableAvgSum := wrap 32 (decayLoad sa.runnableAvgSum n)
    runnableAvgPeriod := wrap 32 (decayLoad sa.runnableAvgPeriod n)
    usageAvgSum := wrap 32 (decayLoad sa.usageAvgSum n) }

/-- Time still needed to complete the current period. -/
def SchedAvg.toBoundary : Nat := 1024 - sa.runnableAvgPeriod % 1024

/-- Whether `delta` microseconds reach the next period boundary. -/
def SchedAvg.crosses (delta : Nat) : Bool :=
  decide (1024 ≤ delta + sa.runnableAvgPeriod % 1024)

/-- How many whole periods lie after that boundary. -/
def SchedAvg.wholePeriods (delta : Nat) : Nat := (delta - sa.toBoundary) / 1024

/-- First half of the `period roll-over` block: complete the current period and
age everything accumulated so far. -/
def SchedAvg.age (cpu : Int) (delta : Nat) : SchedAvg :=
  (sa.accrue runnable running sa.toBoundary (env.scaled cpu 32 sa.toBoundary)).decay (sa.wholePeriods delta + 1)

/-- The whole block: age, then add the whole periods in between. -/
def SchedAvg.rollOver (cpu : Int) (delta : Nat) : SchedAvg :=
  let contrib := computeRunnableContrib (sa.wholePeriods delta)
  (sa.age env runnable running cpu delta).accrue runnable running contrib (env.scaled cpu 32 contrib)

/-- The accounting of `delta` elapsed microseconds, with the source's
`decayed` result. -/
def SchedAvg.elapse (cpu : Int) (delta : Nat) : SchedAvg × Bool :=
  if sa.crosses delta then
    let rest := (delta - sa.toBoundary) % 1024
    ((sa.rollOver env runnable running cpu delta).accrue runnable running rest (env.scaled cpu 64 rest), true)
  else (sa.accrue runnable running delta (env.scaled cpu 64 delta), false)

def SchedAvg.stamp (now : Nat) : SchedAvg := { sa with lastRunnableUpdate := now }

/-- `__update_entity_runnable_avg`: the new record and whether a period
boundary was crossed. -/
def updateEntityRunnableAvg (now : Nat) (sa : SchedAvg) (runnable running : Bool) (cpu : Int) : SchedAvg × Bool :=
  let delta := hmpVariableScaleConvert env (sub 64 now sa.lastRunnableUpdate)
  if Word.isNegative 64 delta then (sa.stamp now, false)
  else
    let delta := delta >>> 10
    if delta = 0 then (sa, false)
    else (sa.stamp now).elapse env runnable running cpu delta

/-- The update of the sums leaves the estimates made from them alone. -/
lemma updateEntityRunnableAvg_estimates (env : LoadEnv) (now : Nat) (sa : SchedAvg) (runnable running : Bool)
    (cpu : Int) : (updateEntityRunnableAvg env now sa runnable running cpu).1.loadAvgContrib = sa.loadAvgContrib ∧
    (updateEntityRunnableAvg env now sa runnable running cpu).1.loadAvgRatio = sa.loadAvgRatio := by
  unfold updateEntityRunnableAvg SchedAvg.elapse
  dsimp only
  split
  · exact ⟨rfl, rfl⟩
  · split
    · exact ⟨rfl, rfl⟩
    · split
      · exact ⟨rfl, rfl⟩
      · exact ⟨rfl, rfl⟩

/-- `__update_task_entity_contrib` for a task of the given load weight. -/
def SchedAvg.updateTaskEntityContrib (weight : Nat) : SchedAvg :=
  { sa with
    loadAvgContrib :=
      wrap 32 (mul 64 sa.runnableAvgSum weight) / add 32 sa.runnableAvgPeriod 1 }

/-- `__update_task_entity_ratio`; the delta it returns is taken by the caller. -/
def SchedAvg.updateTaskEntityRatio : SchedAvg :=
  { sa with
    loadAvgRatio :=
      wrap 32 (mul 64 sa.runnableAvgSum nice0Load) / add 32 sa.runnableAvgPeriod 1 }

/-- `__synchronize_entity_decay` against the queue's decay counter, with the
number of decays it returns. -/
def SchedAvg.synchronizeEntityDecay (decayCounter : Nat) : SchedAvg × Nat :=
  let decays := sub 64 decayCounter (ofInt 64 sa.decayCount)
  ({ sa with
      loadAvgContrib :=
        if decays ≠ 0 then decayLoad sa.loadAvgContrib decays else sa.loadAvgContrib
      decayCount := 0 }, decays)

/-- The part of `migrate_task_rq_fair` that touches the record: a sleeping task
leaves with its decays as a negative count. -/
def SchedAvg.migrateTaskRq (decayCounter : Nat) : SchedAvg :=
  if sa.decayCount ≠ 0 then
    let (sa, decays) := sa.synchronizeEntityDecay decayCounter
    { sa with decayCount := Word.toSigned 64 (sub 64 0 decays) }
  else sa

/-- The time stamp a migrated entity is enqueued with: the carried decays count
as periods slept before `clock`. -/
def SchedAvg.enqueueStamp (clock : Nat) : SchedAvg :=
  if sa.decayCount ≠ 0 then
    sa.stamp (sub 64 clock (wrap 64 (ofInt 64 (-sa.decayCount) <<< 20)))
  else sa.stamp clock

lemma enqueueStamp_eq (sa : SchedAvg) (clock : Nat) : ∃ time, sa.enqueueStamp clock = sa.stamp time := by
  unfold SchedAvg.enqueueStamp
  split
  · exact ⟨_, rfl⟩
  · exact ⟨_, rfl⟩

end BigLittle.Sched
