import BigLittle.Lib.Lock
import BigLittle.Hmp.Migration

/-!
# Forced migrations

`hmp_force_up_migration`, `hmp_force_down_migration` and `hmp_idle_pull` walk over the
CPUs of one cluster. For each CPU they look at the running task under the run-queue lock
and may start a migration. A `Probe` holds what the checks of one round find; the round
is a function of it, and its trace lists the lock operations and the effects in the
order of the source.

They differ in the lazy-balance shortcut, in the direction, and in
`hmp_force_up_migration` only asking the big CPU to pull the task when
`CONFIG_HMP_DELAY_UP_MIGRATION` is set.
-/

namespace BigLittle.Hmp

inductive Requester where
  | forceUp
  | forceDown
  | idlePull
deriving DecidableEq

def Requester.direction : Requester → Direction
  | .forceUp => .up
  | .forceDown => .down
  | .idlePull => .up

structure Probe (T : Type*) (n : Nat) where
  cpu : Fin n
  online : Bool := true
  /-- the task below `cfs.curr` -/
  curr : Option T
  /-- `hmp_select_cpu`, none for `NR_CPUS` -/
  target : Option (Fin n)
  /-- `PA_ENABLE && LB_ENABLE && is_light_task(p) && !is_buddy_busy(..)` -/
  light : Bool := false
  /-- the big CPU of the second `hmp_select_cpu` -/
  avoided : Option (Fin n) := none
  activeBalance : Bool := false
  /-- `hmp_up_migration` or `hmp_down_migration` -/
  approved : Bool := true
  /-- `cpu_park` -/
  parked : Bool := false
  /-- `p->state == TASK_DEAD` -/
  dead : Bool := false
  /-- `stop_one_cpu_dispatch` finds the stopper disabled -/
  dispatchFails : Bool := false

inductive Decision (T : Type*) (n : Nat) where
  | offline
  | nothing
  | avoid (pushCpu : Option (Fin n))
  | delay (target : Fin n)
  | launch (task : T) (target : Fin n)
deriving DecidableEq

variable {T : Type*} {n : Nat} (delayUp : Bool)

/-- The checks of a round; `delayUp` is `CONFIG_HMP_DELAY_UP_MIGRATION`. -/
def Probe.decision (r : Requester) (p : Probe T n) : Decision T n :=
  if !p.online then .offline
  else match p.curr, p.target with
    | some task, some target =>
      if r ≠ .forceDown ∧ p.light then .avoid p.avoided
      else if !p.activeBalance && p.approved && !p.parked then
        if r = .forceUp ∧ delayUp then .delay target
        else if p.dead then .nothing
        else .launch task target
      else .nothing
    | _, _ => .nothing

inductive LockId (n : Nat) where
  | force
  | rq (cpu : Fin n)
deriving DecidableEq

inductive Action (T : Type*) (n : Nat) where
  /-- `AVOID_FORCE_UP_MIGRATION_FROM_CPUX_TO_CPUY_COUNT[cpu][push_cpu]++` -/
  | countAvoided (cpu pushCpu : Fin n)
  | wakeForIdlePull (cpu : Fin n)
  | sendReschedule (cpu : Fin n)
  /-- set `active_balance`, `push_cpu` and `migrate_task` -/
  | setActiveBalance (cpu pushCpu : Fin n) (task : T)
  | nextDelay (d : Direction) (task : T) (cpu : Fin n)
  | keepaliveTrigger
  /-- `stop_one_cpu_dispatch` with its result -/
  | dispatch (cpu : Fin n) (accepted : Bool)
  | clearActiveBalance (cpu : Fin n)
deriving DecidableEq

abbrev TraceEvent (T : Type*) (n : Nat) := Lock.Event (LockId n) (Action T n)

/-- Hand the request to the stopper; if it is disabled, take the request back. -/
def Probe.dispatch (p : Probe T n) : List (TraceEvent T n) :=
  .act (.dispatch p.cpu (!p.dispatchFails)) ::
    if p.dispatchFails then
      [.acquire (.rq p.cpu), .act (.clearActiveBalance p.cpu), .release (.rq p.cpu)]
    else []

/-- One round of the loop of `r`. -/
def Probe.round (r : Requester) (p : Probe T n) : List (TraceEvent T n) :=
  match p.decision delayUp r with
  | .offline => []
  | .nothing => [.acquire (.rq p.cpu), .release (.rq p.cpu)]
  | .avoid pushCpu =>
    .acquire (.rq p.cpu) :: (pushCpu.toList.map (fun cpu => .act (.countAvoided p.cpu cpu)) ++ [.release (.rq p.cpu)])
  | .delay target =>
    [.acquire (.rq p.cpu), .act (.wakeForIdlePull target), .release (.rq p.cpu),
      .release .force, .act (.sendReschedule target),
      -- no return here: the code runs into the label `out_force_up`
      .release (.rq p.cpu)]
  | .launch task target =>
    [.acquire (.rq p.cpu), .act (.setActiveBalance p.cpu target task),
      .act (.nextDelay r.direction task target), .release (.rq p.cpu)] ++
      ((if r = .idlePull then [.act .keepaliveTrigger] else []) ++ p.dispatch)

def hmpForceDownMigration (fast : List (Probe T n)) : List (TraceEvent T n) :=
  fast.flatMap (Probe.round false .forceDown)

/-- The loop of `hmp_force_up_migration` and the final pass over the big CPUs. -/
def forceUpBody (slow fast : List (Probe T n)) : List (TraceEvent T n) :=
  slow.flatMap (Probe.round delayUp .forceUp) ++ hmpForceDownMigration fast

/-- `hmp_force_up_migration`; `trylock` is the result of `spin_trylock`. -/
def hmpForceUpMigration (delayUp trylock : Bool) (slow fast : List (Probe T n)) : List (TraceEvent T n) :=
  if trylock then .acquire .force :: (forceUpBody delayUp slow fast ++ [.release .force]) else []

def hmpIdlePull (trylock : Bool) (slow : List (Probe T n)) : List (TraceEvent T n) :=
  if trylock then
    .acquire .force :: (slow.flatMap (Probe.round false .idlePull) ++ [.release .force])
  else []

/-- Every check on the way to waking the big CPU is passed. -/
def Probe.Ripe (p : Probe T n) : Prop :=
  p.online = true ∧ p.curr.isSome = true ∧ p.target.isSome = true ∧ p.light = false ∧
    p.activeBalance = false ∧ p.approved = true ∧ p.parked = false

lemma Probe.decision_delay_iff {p : Probe T n} : (∃ target, p.decision true .forceUp = .delay target) ↔ p.Ripe := by
  rw [Probe.Ripe]
  constructor
  · rintro ⟨target, h⟩
    grind [Probe.decision]
  · rintro ⟨honline, hcurr, htarget, hlight, hactive, happroved, hparked⟩
    obtain ⟨task, hcurr⟩ := Option.isSome_iff_exists.mp hcurr
    obtain ⟨target, htarget⟩ := Option.isSome_iff_exists.mp htarget
    refine ⟨target, ?_⟩
    simp [Probe.decision, honline, hcurr, htarget, hlight, hactive, happroved, hparked]

/-- A migration is only started on a run queue without `active_balance`. -/
lemma Probe.activeBalance_of_launch {delayUp : Bool} {r : Requester} {p : Probe T n} {task : T} {target : Fin n}
    (h : p.decision delayUp r = .launch task target) : p.activeBalance = false := by
  grind [Probe.decision]

end BigLittle.Hmp
