import BigLittle.Hmp.Migration

/-!
# Cooldown of forced migrations

A forced migration is noted with its time, and a later check for the same CPU is meant
to refuse another migration in the same direction until a threshold has passed. The time
is written to `rq->avg`, but the checks read `rq->cfs.avg`, which nothing writes: they
compare the time since the clock was zero. A history pairs the scheduler with the times
that were noted.
-/

namespace BigLittle.Hmp

open Sched Cfs

variable {T G : Type*} {n : Nat}

/-- The arguments of one call of `hmp_up_migration` or `hmp_down_migration`. -/
structure Attempt (T : Type*) (n : Nat) where
  direction : Direction
  cpu : Fin n
  target : Fin n
  task : T
  env : ClbEnv n

inductive Op (T G : Type*) (n : Nat) where
  | fair (op : ClassOp T G (Fin n))
  | select (p : T) (cpu : Fin n)
  | check (a : Attempt T n)
  | forced (d : Direction) (p : T) (cpu : Fin n)
  | affinity (p : T) (mask : CpuMask n)
  | hotplug (online : OnlineMask n)

namespace State

variable (cfg : Config G n) (s : State T G n) (a : Attempt T n)

/-- The checks of `hmp_up_migration` other than the cooldown. -/
def WantsUp : Prop :=
  a.env.lstats.ncpu ≠ 0 ∧ a.env.bstats.ncpu ≠ 0 ∧ a.cpu ∉ a.env.bcpus ∧ ¬ Disjoint a.env.bcpus (s.cpusAllowed a.task) ∧
    s.lowPrioTaskUpRejected cfg a.task a.env.bstats a.env.lstats = false ∧
    (s.rqLength a.target = 0 ∨ s.taskFastCpuAfford a.env.bstats a.task a.target = true ∧
      Word.ofInt 64 a.env.bstats.threshold < s.seLoad a.task)

/-- The checks of `hmp_down_migration` other than the cooldown. -/
def WantsDown : Prop :=
  a.env.lstats.ncpu ≠ 0 ∧ a.env.bstats.ncpu ≠ 0 ∧ a.cpu ∉ a.env.lcpus ∧ ¬ Disjoint a.env.lcpus (s.cpusAllowed a.task) ∧
    (s.rqLength a.target = 0 ∧ a.env.flags = hmpSelectRq ∧ 0 < s.rqLength a.cpu ∨
      s.lowPrioTaskDownAllowed cfg a.task a.env.bstats a.env.lstats = true ∨
      s.fastCpuOversubscribed a.env.flags a.env.bstats a.task a.cpu = true ∧
        s.taskSlowCpuAfford a.env.lstats a.task = true ∧
        s.seLoad a.task ≤ Word.ofInt 64 a.env.lstats.threshold)

def Wants : Prop :=
  match a.direction with
  | .up => s.WantsUp cfg a
  | .down => s.WantsDown cfg a

variable [DecidableEq G]

/-- Call the check of the attempt's direction. -/
def attempt : State T G n × ClbEnv n :=
  match a.direction with
  | .up => s.hmpUpMigration cfg a.cpu a.target a.task a.env
  | .down => s.hmpDownMigration cfg a.cpu a.target a.task a.env

def approves : Bool := (s.attempt cfg a).2.mcheck.result

variable [DecidableEq T]

def step (s : State T G n) : Op T G n → State T G n
  | .fair op => { s with toState := s.toState.classStep cfg.toConfig op }
  | .select p cpu => s.expectTask p cpu
  | .check a => (s.attempt cfg a).1
  | .forced d p cpu => s.hmpNextDelay d p cpu
  | .affinity p mask => { s with cpusAllowed := Function.update s.cpusAllowed p mask }
  | .hotplug online => { s with online := online }

end State

/-- The scheduler and the times noted for each CPU: those of the migrations in a
direction since the last one in the opposite direction. -/
structure History (T G : Type*) (n : Nat) where
  state : State T G n
  recorded : Direction → Fin n → List Nat

namespace History

variable (cfg : Config G n) (h : History T G n)

/-- Units of 1024 ns on the clock of `cpu` since time `t`. -/
def elapsed (cpu : Fin n) (t : Nat) : Nat := Word.sub 64 (h.state.hmpClock cpu) t >>> 10

variable [DecidableEq G]

/-- While a noted migration is younger than the threshold, the attempt is refused. -/
def Respects (a : Attempt T n) : Prop :=
  ∀ t ∈ h.recorded a.direction a.target,
    h.elapsed a.target t < cfg.nextThreshold a.direction → h.state.approves cfg a = false

/-- While a noted migration is younger than the threshold, either the clock of
the target itself is below it or another check refuses the attempt. -/
def Covered (a : Attempt T n) : Prop :=
  ∀ t ∈ h.recorded a.direction a.target, h.elapsed a.target t < cfg.nextThreshold a.direction →
      h.elapsed a.target 0 < cfg.nextThreshold a.direction ∨ ¬ h.state.Wants cfg a

variable [DecidableEq T]

def step (h : History T G n) (op : Op T G n) : History T G n where
  state := h.state.step cfg op
  recorded := match op with
    | .forced d _ cpu => fun d' cpu' =>
      if cpu' ≠ cpu then h.recorded d' cpu'
      else if d' = d then (h.state.rq h.state.online.first).clockTask :: h.recorded d' cpu'
      else []
    | _ => h.recorded

end History

section Checks

variable (cfg : Config G n) {s : State T G n}

/-- The records that the checks read are as they were zeroed. -/
def State.QueuesUnnoted (s : State T G n) : Prop :=
  ∀ q, hmpRecord (s.cfs q).avg = (0, 0, 0)

lemma State.QueuesUnnoted.hmpStable_iff (hs : s.QueuesUnnoted) (d : Direction) (cpu : Fin n) :
    s.hmpStable cfg d cpu = true ↔ ¬ Word.sub 64 (s.hmpClock cpu) 0 >>> 10 < cfg.nextThreshold d := by
  have hlast : lastMigration d (s.cfs ⟨none, cpu⟩).avg = 0 := by
    have hrecord := hs ⟨none, cpu⟩
    cases d with
    | up => exact congrArg (fun r => r.2.1) hrecord
    | down => exact congrArg (fun r => r.2.2) hrecord
  rw [State.hmpStable, hlast, Bool.not_eq_true', decide_eq_false_iff_not]

variable (s) (a : Attempt T n)

lemma upCheck_result_iff : (s.upCheck cfg a.cpu a.target a.task a.env).check.result = true ↔
    s.hmpUpStable cfg a.target = true ∧ s.WantsUp cfg a := by
  rw [State.upCheck, State.WantsUp]
  grind

lemma downCheck_result_iff : (s.downCheck cfg a.cpu a.target a.task a.env).check.result = true ↔
    s.hmpDownStable cfg a.target = true ∧ s.WantsDown cfg a := by
  rw [State.downCheck, State.WantsDown]
  grind

lemma countForced_toState (d : Direction) (outcome : Outcome) (caller : Nat) :
    (s.countForced d outcome caller).toState = s.toState := by
  cases d with
  | up | down => exact apply_ite State.toState .. |>.trans (ite_self _)

variable [DecidableEq G]

lemma countDequeuingLowPrio_keepsQueueRecord (cpu : Fin n) :
    KeepsQueueRecord s.toState (s.countDequeuingLowPrio cpu).toState := by
  dsimp only [State.countDequeuingLowPrio]
  apply modifyCpuAvg_keepsQueueRecord
  intro sa
  rfl

lemma expectTask_keepsQueueRecord (p : T) (cpu : Fin n) : KeepsQueueRecord s.toState (s.expectTask p cpu).toState := by
  dsimp only [State.expectTask]
  apply modifyCpuAvg_keepsQueueRecord
  intro sa
  rfl

/-- An attempt is approved exactly if the target is stable and no other check
refuses. -/
lemma approves_iff : s.approves cfg a = true ↔ s.hmpStable cfg a.direction a.target = true ∧ s.Wants cfg a := by
  obtain ⟨direction, cpu, target, task, env⟩ := a
  cases direction with
  | up => exact upCheck_result_iff cfg s ⟨.up, cpu, target, task, env⟩
  | down => exact downCheck_result_iff cfg s ⟨.down, cpu, target, task, env⟩

lemma attempt_keepsQueueRecord : KeepsQueueRecord s.toState (s.attempt cfg a).1.toState := by
  obtain ⟨direction, cpu, target, task, env⟩ := a
  cases direction with
  | up =>
    change KeepsQueueRecord s.toState (s.countForced .up _ _).toState
    rw [countForced_toState]
    exact .refl s.toState
  | down =>
    change KeepsQueueRecord s.toState (State.countForced (ite _ _ _) .down _ _).toState
    rw [countForced_toState]
    split
    · exact countDequeuingLowPrio_keepsQueueRecord s cpu
    · exact .refl s.toState

lemma State.QueuesUnnoted.respects_iff {h : History T G n}
    (hs : h.state.QueuesUnnoted) : h.Respects cfg a ↔ h.Covered cfg a := by
  have hrefused : h.state.approves cfg a = false ↔
      h.elapsed a.target 0 < cfg.nextThreshold a.direction ∨ ¬ h.state.Wants cfg a := by
    rw [← Bool.not_eq_true, approves_iff, hs.hmpStable_iff, not_and_or, not_not]
    exact Iff.rfl
  constructor
  · intro hrespects t ht hwindow
    exact hrefused.mp (hrespects t ht hwindow)
  · intro hcovered t ht hwindow
    exact hrefused.mpr (hcovered t ht hwindow)

end Checks

section Runs

variable [DecidableEq T] [DecidableEq G] (cfg : Config G n)

/-- No operation writes the migration times of a queue's own record, the noting
of a forced migration included. -/
lemma step_keepsQueueRecord (s : State T G n) (op : Op T G n) : KeepsQueueRecord s.toState (s.step cfg op).toState := by
  cases op with
  | fair op => exact classStep_keeps cfg.toConfig s.toState op
  | select p cpu => exact expectTask_keepsQueueRecord s p cpu
  | check a => exact attempt_keepsQueueRecord cfg s a
  | forced d p cpu | affinity p mask | hotplug online => exact .refl s.toState

/-- A check for a CPU respects the cooldown of a noted migration exactly if the clock of that CPU is
still below the threshold or another check refuses. -/
theorem cooldown_respected_iff (start : Start T G (Fin n)) (online : OnlineMask n)
    (cpusAllowed : T → CpuMask n) (ops : List (Op T G n)) :
    Run.Always (History.step cfg) (fun h => ∀ a, h.Respects cfg a ↔ h.Covered cfg a)
      ⟨{ toState := .boot start, online, cpusAllowed }, fun _ _ => []⟩ ops := by
  refine Run.Always.mono (P := fun h => h.state.QueuesUnnoted) ?_ fun h hs a =>
    hs.respects_iff cfg a
  refine Run.always_of_step ?_ fun _ => rfl
  intro h op hs q
  exact (step_keepsQueueRecord cfg h.state op q).trans (hs q)

/-- Ten seconds after boot a task is forced up to the idle big CPU. At the same
instant a second one is approved for that CPU. -/
theorem cooldown_ignored :
    let cfg : Config Unit 2 := {}
    let start : History Bool Unit 2 :=
      { state :=
          { toState := .boot
              { taskQueue := fun _ => ⟨none, 0⟩, tasks := fun _ => { avg := { loadAvgRatio := 1000 } } }
            online := ⟨{0, 1}, by decide⟩ }
        recorded := fun _ _ => [] }
    let h := [Op.fair (.clock 0 10000000000), .fair (.clock 1 10000000000),
      .forced .up true 1].foldl (History.step cfg) start
    let second : Attempt Bool 2 :=
      { direction := .up, cpu := 0, target := 1, task := false
        env :=
          { bstats := { ncpu := 1, cpuCapacity := 1023, acap := 1023, threshold := 512 }
            lstats := { ncpu := 1, ntask := 2, cpuCapacity := 1023, acap := 1023, threshold := 512 }
            bcpus := {1}, lcpus := {0}, flags := hmpGb } }
    10000000000 ∈ h.recorded .up 1 ∧ h.elapsed 1 10000000000 < cfg.nextThreshold .up ∧
      h.state.approves cfg second = true := by
  decide +kernel

end Runs

end BigLittle.Hmp
