import BigLittle.Topology.Hotplug
import BigLittle.Topology.MinLoad
import BigLittle.Hmp.SelectCpu

/-!
# Forced migrations of the plain build

Without `CONFIG_SCHED_HMP_ENHANCEMENT`, `hmp_force_up_migration` visits the online CPUs. It offloads
light tasks from big CPUs until it comes to a CPU whose heaviest task is to go up; there it starts
that migration and returns. Without `CONFIG_HMP_DELAY_UP_MIGRATION` it is started on the spot, by
`hmp_migrate_runnable_task` or, if the task is running, by the stopper. Both read the destination
from `push_cpu` of the run queue: `hmp_up_migration` has found an idle CPU of the faster domain, but
what is written to `push_cpu` is the CPU that runs the function.

A scene is what a round sees under the run-queue lock; the state may change between rounds.
-/

namespace BigLittle.Hmp

open Sched Cfs BigLittle.Topology List

/-- What the forced migrations share in `struct rq`. A `push_cpu` of `NR_CPUS` is `none`. -/
structure PlainRq (T : Type*) (n : Nat) where
  activeBalance : Bool := false
  pushCpu : Option (Fin n) := none
  migrateTask : Option T := none
deriving DecidableEq

/-- What the round for `cpu` sees. The running task and the tasks of its timeline are on that CPU. -/
structure PlainScene (T G : Type*) {n : Nat} (cpu : Fin n) where
  state : State T G n
  rq : PlainRq T n := {}
  /-- the task below `cfs.curr` -/
  curr : Option T
  /-- the queue of that task, in the order of the timeline -/
  timeline : List (Entity T G (Fin n)) := []
  onCpu : T → Bool
  stopperEnabled : Bool := true
  curr_cpu : ∀ p, curr = some p → (state.taskQueue p).cpu = cpu
  timeline_cpu : ∀ p, .task p ∈ timeline → (state.taskQueue p).cpu = cpu

structure Move (T : Type*) (n : Nat) where
  task : T
  source : Fin n
  destination : Fin n
deriving DecidableEq

/-- A migration that has been launched: the task and the CPU that were chosen, and the move. -/
structure Launch (T : Type*) (n : Nat) where
  direction : Direction
  task : T
  chosen : Fin n
  move : Move T n
deriving DecidableEq

/-- How a round ends; after an up migration the function returns. -/
structure PlainRound (T : Type*) (n : Nat) where
  rq : PlainRq T n
  launch : Option (Launch T n) := none
  returns : Bool := false
deriving DecidableEq

def hmpMaxTasks : Nat := 5

section Functions

variable {T G : Type*} {n : Nat} (cfg : Config G n) (tun : PlainTunables) (t : HmpTopology n)

namespace State

variable (s : State T G n) (cpu : Fin n)

/-- The body of the loops of `hmp_get_heaviest_task` and `hmp_get_lightest_task`. -/
def pickTask (better : Nat → Nat → Bool) (mask : CpuMask n) (best : T × Nat) : Entity T G (Fin n) → T × Nat
  | .task p =>
    if better (s.seLoad p) best.2 ∧ ¬ Disjoint mask (s.cpusAllowed p) then (p, s.seLoad p) else best
  | .group _ _ => best

/-- `hmp_get_heaviest_task(curr, -1)` -/
def hmpGetHeaviestTask (curr : T) (timeline : List (Entity T G (Fin n))) : T :=
  if t.cpuIsFastest cpu then curr
  else ((timeline.take hmpMaxTasks).foldl
    (s.pickTask (fun load best => best < load) (t.neighbourCpus .up cpu)) (curr, s.seLoad curr)).1

/-- `hmp_get_lightest_task(orig, 1)` -/
def hmpGetLightestTask (curr : T) (timeline : List (Entity T G (Fin n))) : T :=
  if t.cpuIsSlowest cpu then curr
  else ((timeline.take hmpMaxTasks).foldl
    (s.pickTask (fun load best => load < best) (t.neighbourCpus .down cpu)) (curr, s.seLoad curr)).1

def hmpOffloadDown (p : T) : Option (Fin n) :=
  if t.cpuIsSlowest cpu then none
  else if (hmpDomainMinLoad s (t.ownCpus cpu) none).load = 0 then none
  else if (s.cfs ⟨none, cpu⟩).hNrRunning < 2 then none
  else if 768 < taskStarvation s p then none
  else
    let least := hmpDomainMinLoad s (t.neighbourCpus .down cpu) (some (s.cpusAllowed p))
    if least.load = 0 then least.cpu else none

/-- `hmp_migrate_runnable_task` up to its `BUG_ON(src_rq == dst_rq)`, with the move that follows. -/
def hmpMigrateRunnableTask (q : PlainRq T n) (cpu : Fin n) : Option (Move T n) :=
  match q.migrateTask, q.pushCpu with
  | some p, some dst =>
    if q.activeBalance then none
    else if (s.rq cpu).nrRunning ≤ 1 then none
    else if (s.taskQueue p).cpu ≠ cpu then none
    else some ⟨p, cpu, dst⟩
  | _, _ => none

end State

/-- The move that the stopper is to make, by `migrate_task` and `push_cpu`. -/
def PlainRq.move (q : PlainRq T n) (cpu : Fin n) : Option (Move T n) :=
  match q.migrateTask, q.pushCpu with
  | some p, some dst => some ⟨p, cpu, dst⟩
  | _, _ => none

namespace PlainScene

variable (packStop : Bool) {cpu : Fin n} (v : PlainScene T G cpu)

/-- Move the task, or leave it to the stopper if it is running; `packStop` is
`CONFIG_HMP_PACK_STOP_MACHINE`. -/
def start (q : PlainRq T n) (p : T) : PlainRq T n × Option (Move T n) :=
  if !v.onCpu p then (q, v.state.hmpMigrateRunnableTask q cpu)
  else if v.stopperEnabled then ({ q with activeBalance := true }, q.move cpu)
  -- `stop_one_cpu_nowait` does not tell that the work is not queued
  else ({ q with activeBalance := !packStop }, none)

/-- `push_cpu` and `migrate_task` of an up migration. -/
def noteUp (thisCpu : Fin n) (p : T) : PlainRq T n :=
  if !v.rq.activeBalance && decide ((v.state.taskQueue p).cpu = cpu) then
    { v.rq with pushCpu := some thisCpu, migrateTask := some p }
  else v.rq

/-- The round once the up migration is refused: `hmp_offload_down` is asked for the lightest task. -/
def offloadRound (curr : T) : PlainRound T n :=
  let p := v.state.hmpGetLightestTask t cpu curr v.timeline
  match v.state.hmpOffloadDown t cpu p with
  | none => { rq := { v.rq with pushCpu := none } }
  | some dst =>
    let (q, move) := v.start packStop { v.rq with pushCpu := some dst, migrateTask := some p } p
    { rq := q, launch := move.map fun m => ⟨.down, p, dst, m⟩ }

/-- One round of the loop of `hmp_force_up_migration`. -/
def round (thisCpu : Fin n) : PlainRound T n :=
  match v.curr with
  | none => { rq := v.rq }
  | some curr =>
    if v.rq.activeBalance then { rq := v.rq }
    else
      let p := v.state.hmpGetHeaviestTask t cpu curr v.timeline
      match (plainUpMigration cfg tun v.state t p cpu).2 with
      | some target =>
        let (q, move) := v.start packStop (v.noteUp thisCpu p) p
        { rq := q, launch := move.map fun m => ⟨.up, p, target, m⟩, returns := true }
      | none => v.offloadRound t packStop curr

/-- The heaviest task of the CPU is `p`, which `hmp_up_migration` finds heavy enough, of a high enough priority and not
migrated up lately. -/
structure Eligible (p : T) : Prop where
  picked : ∃ curr, v.curr = some curr ∧ v.state.hmpGetHeaviestTask t cpu curr v.timeline = p
  free : v.rq.activeBalance = false
  slow : t.cpuIsFastest cpu = false
  prio : v.state.taskLowPriority cfg p = false
  heavy : tun.up ≤ v.state.seLoad p
  settled : unsettled cfg v.state .up p = false

/-- The CPUs of the faster domain that are allowed for the task. -/
def upTargets (p : T) : CpuMask n := t.neighbourCpus .up cpu ∩ v.state.cpusAllowed p

def GoesUp (p : T) : Prop :=
  v.Eligible cfg tun t p ∧ ∃ c ∈ v.upTargets t p, (v.state.rq c).avg.loadAvgRatio = 0

/-- A running task is left to the stopper, another one is moved if it is not alone. -/
def Starts (p : T) : Prop := if v.onCpu p then v.stopperEnabled = true else 1 < (v.state.rq cpu).nrRunning

end PlainScene

def plainRounds (packStop : Bool) (thisCpu : Fin n) (scene : (cpu : Fin n) → PlainScene T G cpu) :
    List (Fin n) → List (PlainRound T n)
  | [] => []
  | cpu :: rest =>
    let r := (scene cpu).round cfg tun t packStop thisCpu
    if r.returns then [r] else r :: plainRounds packStop thisCpu scene rest

/-- The migrations that `hmp_force_up_migration(thisCpu)` launches. -/
def plainLaunches (packStop trylock : Bool) (online : CpuMask n) (thisCpu : Fin n)
    (scene : (cpu : Fin n) → PlainScene T G cpu) : List (Launch T n) :=
  if trylock then
    (plainRounds cfg tun t packStop thisCpu scene (cpuList online)).filterMap PlainRound.launch
  else []

end Functions

/-- What is asked of an up migration, with the state it was chosen in. -/
structure GoesWhereChosen {T G : Type*} {n : Nat} (t : HmpTopology n) (s : State T G n)
    (l : Launch T n) : Prop where
  task : l.move.task = l.task
  destination : l.move.destination = l.chosen
  faster : t.Faster l.chosen l.move.source
  idle : (s.rq l.chosen).avg.loadAvgRatio = 0
  allowed : l.chosen ∈ s.cpusAllowed l.task
  other : l.chosen ≠ l.move.source

section Launches

variable {T G : Type*} {n : Nat} {cfg : Config G n} {tun : PlainTunables} {t : HmpTopology n} {s : State T G n}
variable {packStop : Bool} {cpu thisCpu : Fin n} {v : PlainScene T G cpu} {p : T}

lemma plainUpMigration_eq_some_iff {target : Fin n} : (plainUpMigration cfg tun s t p cpu).2 = some target ↔
    t.cpuIsFastest cpu = false ∧ s.taskLowPriority cfg p = false ∧ tun.up ≤ s.seLoad p ∧
      unsettled cfg s .up p = false ∧ Idlest s (t.neighbourCpus .up cpu ∩ s.cpusAllowed p) target := by
  rw [plainUpMigration, ← Option.getD_some (a := s.cpusAllowed p), ← hmpDomainMinLoad_idle_iff]
  split_ifs <;> grind

/-- The walk over the timeline ends with the task it starts from or with one of the timeline. -/
lemma foldl_pickTask_mem (better : Nat → Nat → Bool) (mask : CpuMask n) (timeline : List (Entity T G (Fin n)))
    (best : T × Nat) : (timeline.foldl (s.pickTask better mask) best).1 = best.1 ∨
    .task (timeline.foldl (s.pickTask better mask) best).1 ∈ timeline := by
  induction timeline generalizing best with
  | nil => exact .inl rfl
  | cons e rest ih =>
    rw [foldl_cons]
    obtain hkept | hrest := ih (s.pickTask better mask best e)
    · rw [hkept]
      cases e with
      | task q =>
        rw [State.pickTask]
        split
        · exact .inr mem_cons_self
        · exact .inl rfl
      | group g c => exact .inl rfl
    · exact .inr (mem_cons_of_mem _ hrest)

/-- So the task that is chosen is on the CPU that is visited. -/
lemma heaviest_cpu {curr : T} (hcurr : v.curr = some curr) :
    (v.state.taskQueue (v.state.hmpGetHeaviestTask t cpu curr v.timeline)).cpu = cpu := by
  rw [State.hmpGetHeaviestTask]
  split
  · exact v.curr_cpu curr hcurr
  · obtain hstart | hmem := foldl_pickTask_mem (s := v.state) (fun load best => best < load)
      (t.neighbourCpus .up cpu) (v.timeline.take hmpMaxTasks) (curr, v.state.seLoad curr)
    · rw [hstart]
      exact v.curr_cpu curr hcurr
    · exact v.timeline_cpu _ (mem_of_mem_take hmem)

/-- The migration that is started follows the run queue. -/
lemma start_eq_some_iff {q : PlainRq T n} {m : Move T n} (hfree : q.activeBalance = false)
    (hcpu : (v.state.taskQueue p).cpu = cpu) (htask : q.migrateTask = some p) (hpush : q.pushCpu = some thisCpu) :
    (v.start packStop q p).2 = some m ↔ v.Starts p ∧ m = ⟨p, cpu, thisCpu⟩ := by
  rw [PlainScene.start, PlainScene.Starts, State.hmpMigrateRunnableTask, PlainRq.move, htask, hpush]
  simp only [hfree, hcpu]
  grind

/-- The round of a CPU whose task goes up: the migration, if it is started, goes to the CPU that runs the function. -/
lemma round_of_eligible {target : Fin n} (h : v.Eligible cfg tun t p)
    (htarget : Idlest v.state (v.upTargets t p) target) : (v.round cfg tun t packStop thisCpu).returns = true ∧
    ∀ l, (v.round cfg tun t packStop thisCpu).launch = some l ↔
      v.Starts p ∧ l = ⟨.up, p, target, ⟨p, cpu, thisCpu⟩⟩ := by
  obtain ⟨curr, hcurr, hpicked⟩ := h.picked
  have hcpu : (v.state.taskQueue p).cpu = cpu := hpicked ▸ heaviest_cpu hcurr
  have hup := plainUpMigration_eq_some_iff.mpr ⟨h.slow, h.prio, h.heavy, h.settled, htarget⟩
  have hnoted : v.noteUp thisCpu p = { v.rq with pushCpu := some thisCpu, migrateTask := some p } := by
    rw [PlainScene.noteUp, if_pos]
    simp [h.free, hcpu]
  have hstart : ∀ m, (v.start packStop (v.noteUp thisCpu p) p).2 = some m ↔ v.Starts p ∧ m = ⟨p, cpu, thisCpu⟩ := by
    intro m
    rw [hnoted]
    exact start_eq_some_iff h.free hcpu rfl rfl
  rw [PlainScene.round, hcurr]
  simp only [h.free, Bool.false_eq_true, if_false, hpicked, hup, Option.map_eq_some_iff, hstart]
  refine ⟨trivial, fun l => ⟨?_, fun ⟨hstarts, hl⟩ => ⟨_, ⟨hstarts, rfl⟩, hl.symm⟩⟩⟩
  rintro ⟨m, ⟨hstarts, rfl⟩, rfl⟩
  exact ⟨hstarts, rfl⟩

/-- Any other round goes on and starts at most a migration down. -/
lemma round_of_not_goesUp (h : ∀ p, ¬ v.GoesUp cfg tun t p) : (v.round cfg tun t packStop thisCpu).returns = false ∧
    ∀ l, (v.round cfg tun t packStop thisCpu).launch = some l → l.direction = .down := by
  rw [PlainScene.round]
  split
  · exact ⟨rfl, fun _ hl => by cases hl⟩
  next curr hcurr =>
    split
    · exact ⟨rfl, fun _ hl => by cases hl⟩
    next hfree =>
      dsimp only
      split
      next target htarget =>
        obtain ⟨hslow, hprio, hheavy, hsettled, hidlest⟩ := plainUpMigration_eq_some_iff.mp htarget
        exact absurd ⟨⟨⟨curr, hcurr, rfl⟩, Bool.eq_false_of_not_eq_true hfree, hslow, hprio, hheavy, hsettled⟩,
          target, hidlest.mem, hidlest.idle⟩ (h _)
      · rw [PlainScene.offloadRound]
        dsimp only
        split
        · exact ⟨rfl, fun _ hl => by cases hl⟩
        · refine ⟨rfl, fun l hl => ?_⟩
          obtain ⟨m, -, rfl⟩ := Option.map_eq_some_iff.mp hl
          rfl

lemma returns_iff : (v.round cfg tun t packStop thisCpu).returns = true ↔ ∃ p, v.GoesUp cfg tun t p := by
  constructor
  · intro hreturns
    by_contra h
    exact absurd hreturns (by rw [(round_of_not_goesUp (not_exists.mp h)).1]; exact Bool.false_ne_true)
  · rintro ⟨p, heligible, c, hc, hidle⟩
    obtain ⟨target, htarget⟩ := exists_idlest hc hidle
    exact (round_of_eligible heligible htarget).1

lemma launch_up_iff {l : Launch T n} :
    (v.round cfg tun t packStop thisCpu).launch = some l ∧ l.direction = .up ↔
      ∃ p target, v.Eligible cfg tun t p ∧ Idlest v.state (v.upTargets t p) target ∧ v.Starts p ∧
        l = ⟨.up, p, target, ⟨p, cpu, thisCpu⟩⟩ := by
  constructor
  · rintro ⟨hl, hup⟩
    by_cases h : ∃ p, v.GoesUp cfg tun t p
    · obtain ⟨p, heligible, c, hc, hidle⟩ := h
      obtain ⟨target, htarget⟩ := exists_idlest hc hidle
      exact ⟨p, target, heligible, htarget, ((round_of_eligible heligible htarget).2 l).mp hl⟩
    · cases hup.symm.trans ((round_of_not_goesUp (not_exists.mp h)).2 l hl)
  · rintro ⟨p, target, heligible, htarget, hstarts, rfl⟩
    exact ⟨((round_of_eligible heligible htarget).2 _).mpr ⟨hstarts, rfl⟩, rfl⟩

variable {scene : (cpu : Fin n) → PlainScene T G cpu}

/-- The rounds that take place: those before which none returns. -/
lemma mem_plainRounds_iff {cpus : List (Fin n)} (hsorted : cpus.Pairwise (· < ·)) {r : PlainRound T n} :
    r ∈ plainRounds cfg tun t packStop thisCpu scene cpus ↔
      ∃ cpu ∈ cpus, (scene cpu).round cfg tun t packStop thisCpu = r ∧
        ∀ c ∈ cpus, c < cpu → ((scene c).round cfg tun t packStop thisCpu).returns = false := by
  induction cpus with
  | nil => simp [plainRounds]
  | cons cpu rest ih =>
    obtain ⟨hfirst, hrest⟩ := pairwise_cons.mp hsorted
    have hnone : ∀ c ∈ cpu :: rest, ¬ c < cpu := by
      rintro c (_ | ⟨_, hc⟩)
      · exact lt_irrefl cpu
      · exact (hfirst c hc).not_gt
    have hlater : ∀ d ∈ rest, (∀ c ∈ cpu :: rest, c < d →
        ((scene c).round cfg tun t packStop thisCpu).returns = false) ↔
        ((scene cpu).round cfg tun t packStop thisCpu).returns = false ∧
          ∀ c ∈ rest, c < d → ((scene c).round cfg tun t packStop thisCpu).returns = false := by
      intro d hd
      rw [forall_mem_cons, imp_iff_right (hfirst d hd)]
    rw [plainRounds, exists_mem_cons_iff]
    split_ifs with hreturns
    · grind
    · grind

/-- An up migration is launched from the first CPU with a task to go up, if it can be started there. -/
lemma mem_plainLaunches_up_iff {trylock : Bool} {online : CpuMask n} {l : Launch T n} :
    l ∈ plainLaunches cfg tun t packStop trylock online thisCpu scene ∧ l.direction = .up ↔
      trylock = true ∧ ∃ cpu ∈ online, (∀ c ∈ online, c < cpu → ∀ q, ¬ (scene c).GoesUp cfg tun t q) ∧
        ∃ p target, (scene cpu).Eligible cfg tun t p ∧ Idlest (scene cpu).state ((scene cpu).upTargets t p) target ∧
          (scene cpu).Starts p ∧ l = ⟨.up, p, target, ⟨p, cpu, thisCpu⟩⟩ := by
  rw [plainLaunches]
  split
  next htrylock =>
    simp only [htrylock, true_and, mem_filterMap, mem_plainRounds_iff (cpuList_sorted online).pairwise,
      mem_cpuList, ← Bool.not_eq_true, returns_iff, not_exists]
    constructor
    · rintro ⟨⟨_, ⟨cpu, hcpu, rfl, hfirst⟩, hlaunch⟩, hup⟩
      exact ⟨cpu, hcpu, hfirst, launch_up_iff.mp ⟨hlaunch, hup⟩⟩
    · rintro ⟨cpu, hcpu, hfirst, hup⟩
      obtain ⟨hlaunch, hdirection⟩ := launch_up_iff.mpr hup
      exact ⟨⟨_, ⟨cpu, hcpu, rfl, hfirst⟩, hlaunch⟩, hdirection⟩
  next htrylock => simp [htrylock]

lemma goesWhereChosen_iff (ht : t.Placed) {target : Fin n} (htarget : Idlest v.state (v.upTargets t p) target) :
    GoesWhereChosen t v.state ⟨.up, p, target, ⟨p, cpu, thisCpu⟩⟩ ↔ target = thisCpu := by
  refine ⟨fun h => h.destination.symm, fun heq => ?_⟩
  obtain ⟨hneighbour, hallowed⟩ := Finset.mem_inter.mp htarget.mem
  have hfaster : t.Faster target cpu := ht.faster hneighbour
  exact ⟨rfl, heq.symm, hfaster, htarget.idle, hallowed, hfaster.ne⟩

end Launches

section PlainBuild

variable {T G : Type*} {n : Nat}

def heavyPlainScene (online : OnlineMask 4) (cpu : Fin 4) : PlainScene Unit Unit cpu where
  state := heavyOn 0 online
  curr := if cpu = 0 then some () else none
  onCpu _ := true
  curr_cpu := by simp +contextual [heavyOn]
  timeline_cpu := by simp

end PlainBuild

end BigLittle.Hmp
