import Mathlib.Data.Finset.Max
import Mathlib.Order.Fin.Basic
import BigLittle.Cfs.CpuLoad

/-!
# Migration checks between the clusters

`hmp_up_migration` and `hmp_down_migration` decide whether a task moves to the
big or to the little cluster; `hmp_next_up_delay` and `hmp_next_down_delay` note
the time of a forced migration. CPUs are numbered, a `cpumask` is a finite set,
and the state is that of the fair class with the masks the checks read.

Comparisons between an `int` and an `unsigned long` convert the `int`, as C does.
-/

namespace BigLittle.Hmp

open Sched Cfs Word

abbrev CpuMask (n : Nat) := Finset (Fin n)

/-- `cpu_online_mask`: the CPU that runs the code is always in it. -/
structure OnlineMask (n : Nat) where
  cpus : CpuMask n
  nonempty : cpus.Nonempty

/-- `cpumask_first(cpu_online_mask)`. -/
def OnlineMask.first {n : Nat} (online : OnlineMask n) : Fin n := online.cpus.min' online.nonempty

inductive Direction where
  | up
  | down
deriving DecidableEq

structure Config (G : Type*) (n : Nat) extends Cfs.Config G (Fin n) where
  cpuId := fun cpu => cpu
  hmpNextUpThreshold : Nat := 4096
  hmpNextDownThreshold : Nat := 4096

structure State (T G : Type*) (n : Nat) extends Cfs.State T G (Fin n) where
  online : OnlineMask n
  cpusAllowed : T → CpuMask n := fun _ => Finset.univ
  /-- `hmp_stats` -/
  nrForceUp : Nat := 0
  nrForceDown : Nat := 0

/-- What the checks read of `struct clb_stats`. -/
structure ClbStats where
  ncpu : Int := 0
  ntask : Int := 0
  cpuCapacity : Int := 0
  acap : Int := 0
  threshold : Int := 0
  nrNormalPrioTask : Int := 0
  nrDequeuingLowPrio : Int := 0

structure Mcheck where
  status : Nat := 0
  result : Bool := false
deriving DecidableEq

/-- Where a check leaves: `traced` if through the label `trace`, `filtered` if it
let a low-priority task down. -/
structure Outcome where
  check : Mcheck
  traced : Bool := true
  filtered : Bool := false

structure ClbEnv (n : Nat) where
  bstats : ClbStats := {}
  lstats : ClbStats := {}
  bcpus : CpuMask n
  lcpus : CpuMask n
  flags : Nat
  mcheck : Mcheck := {}

def hmpGb : Nat := 0x1000
def hmpSelectRq : Nat := 0x2000

/-! Bits of `mcheck.status`. -/

def bigNotOversubscribed : Nat := 0x01
def bigCapacityInsufficient : Nat := 0x02
def littleCapacityInsufficient : Nat := 0x04
def lowPriorityFilter : Nat := 0x08
def bigBusyLittleIdle : Nat := 0x10
def bigIdle : Nat := 0x20
def migrationApproved : Nat := 0x100
def taskUpMigration : Nat := 0x200
def taskDownMigration : Nat := 0x400

def callerIsGb (caller : Nat) : Bool := decide (hmpGb = caller)

def hmpRatio (v : Int) : Int := (v * 17).tdiv 10

def fastCpuHasSpareCycles (B : ClbStats) (cpuLoad : Nat) : Bool :=
  decide (cpuLoad < ofInt 64 (hmpRatio B.cpuCapacity - B.cpuCapacity >>> (2 : Nat)))

section Records

/-- The time of the last forced migration in one direction. -/
def lastMigration (d : Direction) (sa : SchedAvg) : Nat :=
  match d with
  | .up => sa.hmpLastUpMigration
  | .down => sa.hmpLastDownMigration

/-- Note a forced migration and forget the last one in the other direction. -/
def noteMigration (d : Direction) (now : Nat) (sa : SchedAvg) : SchedAvg :=
  match d with
  | .up => { sa with hmpLastUpMigration := now, hmpLastDownMigration := 0 }
  | .down => { sa with hmpLastDownMigration := now, hmpLastUpMigration := 0 }

def Config.nextThreshold {G : Type*} {n : Nat} (cfg : Config G n) (d : Direction) : Nat :=
  match d with
  | .up => cfg.hmpNextUpThreshold
  | .down => cfg.hmpNextDownThreshold

end Records

namespace State

variable {T G : Type*} {n : Nat} (cfg : Config G n) (s : State T G n)

def seLoad (p : T) : Nat := (s.se (.task p)).avg.loadAvgRatio

def rqLength (cpu : Fin n) : Nat :=
  add 32 (s.rq cpu).nrRunning (s.cfs ⟨none, cpu⟩).avg.nrPending

/-- `task_low_priority(p->prio)`. -/
def taskLowPriority (p : T) : Bool := s.lowPriority cfg.toConfig (.task p)

def taskFastCpuAfford (B : ClbStats) (p : T) (cpu : Fin n) : Bool :=
  decide (0 < B.acap) && fastCpuHasSpareCycles B (add 64 (s.seLoad p) (s.cfsLoad cpu))

def fastCpuOversubscribed (caller : Nat) (B : ClbStats) (p : T) (cpu : Fin n) : Bool :=
  if callerIsGb caller then !fastCpuHasSpareCycles B (s.cfsLoad cpu)
  else !s.taskFastCpuAfford B p cpu

def taskSlowCpuAfford (L : ClbStats) (p : T) : Bool :=
  decide (0 < L.acap ∧ s.seLoad p ≤ ofInt 64 L.acap)

def lowPrioTaskUpRejected (p : T) (B L : ClbStats) : Bool :=
  s.taskLowPriority cfg p && decide (B.ncpu ≤ B.ntask ∨ L.nrNormalPrioTask ≠ 0) &&
    decide (s.seLoad p < 800)

def lowPrioTaskDownAllowed (p : T) (B L : ClbStats) : Bool :=
  s.taskLowPriority cfg p && decide (B.nrDequeuingLowPrio = 0) && decide (B.ncpu ≤ B.ntask) &&
    decide (L.nrNormalPrioTask ≠ 0) && decide (s.seLoad p < 800)

/-- The clock the stability checks use: that of the CPU's root queue. -/
def hmpClock (cpu : Fin n) : Nat := s.cfsRqClockTask ⟨none, cpu⟩

/-- `hmp_up_stable` and `hmp_down_stable`. -/
def hmpStable (d : Direction) (cpu : Fin n) : Bool :=
  let last := lastMigration d (s.cfs ⟨none, cpu⟩).avg
  !decide (sub 64 (s.hmpClock cpu) last >>> 10 < cfg.nextThreshold d)

def hmpUpStable (cpu : Fin n) : Bool := s.hmpStable cfg .up cpu

def hmpDownStable (cpu : Fin n) : Bool := s.hmpStable cfg .down cpu

/-- The checks of `hmp_up_migration`. -/
def upCheck (cpu target : Fin n) (p : T) (env : ClbEnv n) : Outcome :=
  let L := env.lstats
  let B := env.bstats
  let status := env.flags ||| taskUpMigration
  -- one cluster only, already in the big cluster, or against the affinity
  if L.ncpu = 0 ∨ B.ncpu = 0 ∨ cpu ∈ env.bcpus ∨ Disjoint env.bcpus (s.cpusAllowed p) then
    { check := ⟨status, false⟩, traced := false }
  else if !s.hmpUpStable cfg target then { check := ⟨status, false⟩, traced := false }
  else if s.lowPrioTaskUpRejected cfg p B L then { check := ⟨status ||| lowPriorityFilter, false⟩ }
  else if s.rqLength target = 0 then
    { check := ⟨status ||| bigIdle ||| migrationApproved, true⟩ }
  else if !s.taskFastCpuAfford B p target then
    { check := ⟨status ||| bigCapacityInsufficient, false⟩ }
  else if ofInt 64 B.threshold < s.seLoad p then
    { check := ⟨status ||| migrationApproved, true⟩ }
  else { check := ⟨status, false⟩ }

/-- The checks of `hmp_down_migration`. -/
def downCheck (cpu target : Fin n) (p : T) (env : ClbEnv n) : Outcome :=
  let L := env.lstats
  let B := env.bstats
  let status := env.flags ||| taskDownMigration
  if L.ncpu = 0 ∨ B.ncpu = 0 ∨ cpu ∈ env.lcpus ∨ Disjoint env.lcpus (s.cpusAllowed p) then
    { check := ⟨status, false⟩, traced := false }
  else if !s.hmpDownStable cfg target then { check := ⟨status, false⟩, traced := false }
  -- big is busy and little is idle
  else if s.rqLength target = 0 ∧ env.flags = hmpSelectRq ∧ 0 < s.rqLength cpu then
    { check := ⟨status ||| bigBusyLittleIdle ||| migrationApproved, true⟩ }
  else if s.lowPrioTaskDownAllowed cfg p B L then
    { check := ⟨status ||| lowPriorityFilter ||| migrationApproved, true⟩, filtered := true }
  else if !s.fastCpuOversubscribed env.flags B p cpu then
    { check := ⟨status ||| bigNotOversubscribed, false⟩ }
  else if !s.taskSlowCpuAfford L p then
    { check := ⟨status ||| littleCapacityInsufficient, false⟩ }
  else if s.seLoad p ≤ ofInt 64 L.threshold then
    { check := ⟨status ||| migrationApproved, true⟩ }
  else { check := ⟨status, false⟩ }

/-- `hmp_stats` counts what the global balance gets approved. -/
def countForced (d : Direction) (outcome : Outcome) (caller : Nat) : State T G n :=
  if outcome.traced && outcome.check.result && callerIsGb caller then
    match d with
    | .up => { s with nrForceUp := add 32 s.nrForceUp 1 }
    | .down => { s with nrForceDown := add 32 s.nrForceDown 1 }
  else s

/-- `hmp_up_migration`; it returns `mcheck.result`. -/
def hmpUpMigration (cpu target : Fin n) (p : T) (env : ClbEnv n) : State T G n × ClbEnv n :=
  let outcome := s.upCheck cfg cpu target p env
  (s.countForced .up outcome env.flags, { env with mcheck := outcome.check })

variable [DecidableEq G]

/-- `cfs_nr_dequeuing_low_prio(cpu)++`. -/
def countDequeuingLowPrio (cpu : Fin n) : State T G n :=
  { s with toState := s.toState.modifyCpuAvg cpu fun sa =>
      { sa with nrDequeuingLowPrio := add 32 sa.nrDequeuingLowPrio 1 } }

/-- `hmp_down_migration`; it returns `mcheck.result`. -/
def hmpDownMigration (cpu target : Fin n) (p : T) (env : ClbEnv n) : State T G n × ClbEnv n :=
  let outcome := s.downCheck cfg cpu target p env
  let s := if outcome.filtered then s.countDequeuingLowPrio cpu else s
  (s.countForced .down outcome env.flags, { env with mcheck := outcome.check })

/-- The end of `hmp_select_task_rq_fair`: the chosen CPU expects the task. -/
def expectTask (p : T) (cpu : Fin n) : State T G n :=
  { s with toState := s.toState.modifyCpuAvg cpu fun sa =>
      { sa with
        nrPending := add 32 sa.nrPending 1
        pendingLoad := add 64 sa.pendingLoad (s.seLoad p) } }

variable [DecidableEq T]

/-- `hmp_next_up_delay` and `hmp_next_down_delay`. -/
def hmpNextDelay (d : Direction) (p : T) (cpu : Fin n) : State T G n :=
  -- always the clock of the first online CPU
  let now := (s.rq s.online.first).clockTask
  let fair := s.toState.modifyAvg (.task p) (noteMigration d now)
  { s with toState := fair.modifyRq cpu fun r => { r with avg := noteMigration d now r.avg } }

def hmpNextUpDelay (p : T) (cpu : Fin n) : State T G n := s.hmpNextDelay .up p cpu

def hmpNextDownDelay (p : T) (cpu : Fin n) : State T G n := s.hmpNextDelay .down p cpu

end State

end BigLittle.Hmp
