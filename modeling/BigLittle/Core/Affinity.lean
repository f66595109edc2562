import Mathlib.Data.Finset.Max
import Mathlib.Data.Fintype.Basic
import BigLittle.Lib.Run

/-!
# Scheduling policy and CPU affinity of a task

`__sched_setscheduler` checks a request and changes policy and priority;
`__setscheduler` also confines a task that becomes real-time, and that may run
everywhere, to the little CPUs. `set_cpus_allowed_ptr` changes the affinity and has the
stopper move a queued task that may no longer stay where it is.

What the checks read of the caller comes with the request; the moves that waking and
balancing make are steps of their own.
-/

namespace BigLittle.Core

inductive Policy where
  | normal
  | fifo
  | rr
  | batch
  | idle
deriving DecidableEq

def Policy.ofNat? : Nat → Option Policy
  | 0 => some .normal
  | 1 => some .fifo
  | 2 => some .rr
  | 3 => some .batch
  | 5 => some .idle
  | _ => none

/-- `rt_policy`. -/
def Policy.rt : Policy → Bool
  | .fifo | .rr => true
  | _ => false

def maxRtPrio : Nat := 100
def schedResetOnFork : Nat := 0x40000000

inductive Errno where
  | einval
  | eperm
  | security (code : Int)
deriving DecidableEq

structure SchedRequest where
  policy : Int
  priority : Int
  user : Bool := true
  capable : Bool := true
  rlimRtprio : Nat := 0
  canNice : Bool := true
  sameOwner : Bool := true
  security : Int := 0
  /-- the priority of the top waiter that `rt_mutex_getprio` takes into account -/
  piWaiter : Option Nat := none

/-- A `migration_cpu_stop` that the stopper of `src` has still to run. -/
structure Migration (n : Nat) where
  src : Fin n
  dest : Fin n
deriving DecidableEq

structure TaskState (n : Nat) where
  policy : Policy := .normal
  rtPriority : Nat := 0
  staticPrio : Nat := 120
  prio : Nat := 120
  resetOnFork : Bool := false
  /-- `p == rq->stop` -/
  isStop : Bool := false
  cpusAllowed : Finset (Fin n)
  cpu : Fin n
  onRq : Bool := false
  migrations : List (Migration n) := []
deriving DecidableEq

structure Platform (n : Nat) where
  hmpSlowCpuMask : Finset (Fin n)
  cpuActiveMask : Finset (Fin n)

namespace TaskState

variable {n : Nat} (pf : Platform n) (p : TaskState n) (req : SchedRequest) (policy : Policy)

/-- `normal_prio`, with the policy and priority it is to have. -/
def normalPrio (priority : Nat) : Nat :=
  if policy.rt then maxRtPrio - 1 - priority else p.staticPrio

/-- `rt_mutex_getprio`: a waiter of higher priority lends its own. -/
def getprio (normal : Nat) : Nat :=
  req.piWaiter.elim normal (min normal)

/-- The narrowing of `__setscheduler`: a task that gets a real-time priority while
it may run on all CPUs. -/
def Narrows (prio : Nat) : Prop :=
  prio < maxRtPrio ∧ pf.hmpSlowCpuMask ≠ ∅ ∧ p.cpusAllowed = Finset.univ
  deriving Decidable

/-- `__setscheduler`. -/
def setscheduler (priority : Nat) : TaskState n :=
  let prio := getprio req (p.normalPrio policy priority)
  { p with
    policy := policy
    rtPriority := priority
    prio := prio
    cpusAllowed := if p.Narrows pf prio then pf.hmpSlowCpuMask else p.cpusAllowed }

/-- The policy and the reset-on-fork flag a request asks for. -/
def requested : Option (Policy × Bool) :=
  if req.policy < 0 then some (p.policy, p.resetOnFork)
  else
    let bits := req.policy.toNat
    (Policy.ofNat? (bits &&& (schedResetOnFork ^^^ 0xffffffff))).map fun policy =>
      (policy, decide (bits &&& schedResetOnFork ≠ 0))

/-- What an unprivileged caller may not do. -/
def forbidden (resetOnFork : Bool) : Bool :=
  req.user && !req.capable &&
    -- take up a real-time policy without a limit, or raise the priority above it
    (policy.rt && (decide (policy ≠ p.policy ∧ req.rlimRtprio = 0) ||
        decide (p.rtPriority < req.priority ∧ req.rlimRtprio < req.priority)) ||
      -- `SCHED_IDLE` counts as nice 20
      decide (p.policy = .idle ∧ policy ≠ .idle) && !req.canNice ||
      !req.sameOwner || p.resetOnFork && !resetOnFork)

/-- The outcome of the checks: an error, or the change to make, if any. -/
def checkRequest : Except Errno (Option (Policy × Bool)) :=
  match p.requested req with
  | none => .error .einval
  | some (policy, resetOnFork) =>
    -- `MAX_USER_RT_PRIO` is `MAX_RT_PRIO`, so that kernel threads have the same bound
    if req.priority < 0 ∨ (maxRtPrio : Int) - 1 < req.priority then .error .einval
    else if policy.rt ≠ decide (req.priority ≠ 0) then .error .einval
    else if p.forbidden req policy resetOnFork then .error .eperm
    else if req.user ∧ req.security ≠ 0 then .error (.security req.security)
    else if p.isStop then .error .einval
    else if policy = p.policy ∧ (policy.rt = false ∨ req.priority = p.rtPriority) then .ok none
    else .ok (some (policy, resetOnFork))

/-- `__sched_setscheduler`. -/
def schedSetscheduler : TaskState n :=
  match p.checkRequest req with
  | .ok (some (policy, resetOnFork)) =>
    { p with resetOnFork := resetOnFork }.setscheduler pf req policy req.priority.toNat
  | _ => p

def setCpusAllowedPtr (mask : Finset (Fin n)) : TaskState n :=
  if p.cpusAllowed = mask then p
  else if h : (pf.cpuActiveMask ∩ mask).Nonempty then
    let moved := { p with cpusAllowed := mask }
    if p.cpu ∈ mask then moved
    else if p.onRq then
      { moved with migrations := ⟨p.cpu, (pf.cpuActiveMask ∩ mask).min' h⟩ :: p.migrations }
    else moved
  else p

/-- `__migrate_task`. -/
def migrateTask (m : Migration n) : TaskState n :=
  if m.dest ∉ pf.cpuActiveMask ∨ p.cpu ≠ m.src ∨ m.dest ∉ p.cpusAllowed then p
  else if p.onRq then { p with cpu := m.dest }
  else p

end TaskState

inductive AffinityOp (n : Nat) where
  | setscheduler (req : SchedRequest)
  | setCpusAllowed (mask : Finset (Fin n))
  /-- the stopper runs a pending `migration_cpu_stop` -/
  | stopper (m : Migration n)
  | sleep
  /-- a wake-up; `select_task_rq` returns an allowed CPU -/
  | wake (cpu : Fin n)
  /-- a load balancer pulls the task to a CPU it may run on -/
  | pull (cpu : Fin n)

variable {n : Nat} (pf : Platform n) (p : TaskState n)

def TaskState.step : AffinityOp n → TaskState n
  | .setscheduler req => p.schedSetscheduler pf req
  | .setCpusAllowed mask => p.setCpusAllowedPtr pf mask
  | .stopper m =>
    if m ∈ p.migrations then
      { p.migrateTask pf m with migrations := p.migrations.erase m }
    else p
  | .sleep => { p with onRq := false }
  | .wake cpu =>
    if p.onRq = false ∧ cpu ∈ p.cpusAllowed then { p with cpu := cpu, onRq := true } else p
  | .pull cpu =>
    if p.onRq = true ∧ cpu ∈ p.cpusAllowed then { p with cpu := cpu } else p

/-- A successful request that narrows the affinity. -/
def TaskState.confines (req : SchedRequest) : Bool :=
  match p.checkRequest req with
  | .ok (some (policy, _)) =>
    decide (p.Narrows pf (TaskState.getprio req (p.normalPrio policy req.priority.toNat)))
  | _ => false

/-- A queued task is on a CPU it may run on, or on its way to one. -/
def TaskState.Placed : Prop :=
  p.onRq = true → p.cpu ∈ p.cpusAllowed ∨ ∃ m ∈ p.migrations, m.src = p.cpu ∧ m.dest ∈ p.cpusAllowed

/-- The task, the mask last set through `set_cpus_allowed_ptr`, whether a policy
change has narrowed it since, and whether that caught the task queued on a CPU
outside the narrower mask, where it still is. -/
structure AffinityHistory (n : Nat) where
  task : TaskState n
  lastSet : Finset (Fin n)
  narrowed : Bool := false
  stray : Bool := false

def AffinityHistory.step (h : AffinityHistory n) (op : AffinityOp n) : AffinityHistory n :=
  let h' := { h with task := h.task.step pf op }
  match op with
  | .setscheduler req =>
    if h.task.confines pf req then
      { h' with
        narrowed := true
        stray := h.stray || h.task.onRq && decide (h.task.cpu ∉ pf.hmpSlowCpuMask) }
    else h'
  | .setCpusAllowed mask =>
    if h.task.cpusAllowed = mask then { h' with lastSet := mask, narrowed := false }
    else if (pf.cpuActiveMask ∩ mask).Nonempty then
      { h' with lastSet := mask, narrowed := false, stray := false }
    else h'
  | .sleep => { h' with stray := false }
  | _ => h'

def AffinityHistory.start (task : TaskState n) : AffinityHistory n where
  task := { task with onRq := false, migrations := [] }
  lastSet := task.cpusAllowed

section Operations

variable {pf} {p : TaskState n}

/-- What a policy change does to the affinity and to the place of a task. -/
lemma schedSetscheduler_place (pf : Platform n) (p : TaskState n) (req : SchedRequest) :
    (p.schedSetscheduler pf req).cpusAllowed = (if p.confines pf req then pf.hmpSlowCpuMask else p.cpusAllowed) ∧
    (p.schedSetscheduler pf req).cpu = p.cpu ∧ (p.schedSetscheduler pf req).onRq = p.onRq ∧
    (p.schedSetscheduler pf req).migrations = p.migrations := by
  rw [TaskState.schedSetscheduler, TaskState.confines]
  split
  next policy resetOnFork hcheck =>
    refine ⟨?_, rfl, rfl, rfl⟩
    simp only [decide_eq_true_eq]
    rfl
  · exact ⟨rfl, rfl, rfl, rfl⟩

/-- Accepting a mask leaves a queued task placed. -/
lemma setCpusAllowedPtr_accept {mask : Finset (Fin n)} (hne : p.cpusAllowed ≠ mask)
    (h : (pf.cpuActiveMask ∩ mask).Nonempty) :
    (p.setCpusAllowedPtr pf mask).cpusAllowed = mask ∧ (p.setCpusAllowedPtr pf mask).Placed := by
  have hdest := Finset.mem_inter.mp ((pf.cpuActiveMask ∩ mask).min'_mem h)
  rw [TaskState.setCpusAllowedPtr, if_neg hne, dif_pos h]
  dsimp only
  split_ifs with hcpu hqueued
  · exact ⟨rfl, fun _ => .inl hcpu⟩
  · exact ⟨rfl, fun _ => .inr ⟨_, List.mem_cons_self, rfl, hdest.2⟩⟩
  · exact ⟨rfl, fun hon => absurd hon hqueued⟩

lemma setCpusAllowedPtr_reject {mask : Finset (Fin n)}
    (h : ¬ (pf.cpuActiveMask ∩ mask).Nonempty) : p.setCpusAllowedPtr pf mask = p := by
  rw [TaskState.setCpusAllowedPtr, dif_neg h, ite_self]

/-- Migrations are only started towards active CPUs. -/
lemma setCpusAllowedPtr_active (mask : Finset (Fin n)) (h : ∀ m ∈ p.migrations, m.dest ∈ pf.cpuActiveMask) :
    ∀ m ∈ (p.setCpusAllowedPtr pf mask).migrations, m.dest ∈ pf.cpuActiveMask := by
  rw [TaskState.setCpusAllowedPtr]
  dsimp only
  split_ifs with heq hactive hcpu hqueued
  · exact h
  · exact h
  · have hdest := Finset.mem_inter.mp ((pf.cpuActiveMask ∩ mask).min'_mem hactive)
    exact List.forall_mem_cons.mpr ⟨hdest.1, h⟩
  · exact h
  · exact h

/-- The stopper moves the task, or the task has left the CPU, or its affinity has
changed again; in no case was it the last hope of a misplaced task. -/
lemma stopper_placed {m : Migration n} (hactive : m.dest ∈ pf.cpuActiveMask) (hp : p.Placed) :
    { p.migrateTask pf m with migrations := p.migrations.erase m }.Placed := by
  rw [TaskState.migrateTask]
  split_ifs with hstay hqueued
  · intro hon
    obtain hin | ⟨m', hm', hsrc, hdest⟩ := hp hon
    · exact .inl hin
    · have hne : m' ≠ m := by
        rintro rfl
        obtain hdead | hleft | hchanged := hstay
        · exact hdead hactive
        · exact hleft hsrc.symm
        · exact hchanged hdest
      exact .inr ⟨m', (List.mem_erase_of_ne hne).mpr hm', hsrc, hdest⟩
  · rw [not_or, not_or, not_not, not_not, not_not] at hstay
    exact fun _ => .inl hstay.2.2
  · exact fun hon => absurd hon hqueued

lemma migrateTask_cpusAllowed (m : Migration n) : (p.migrateTask pf m).cpusAllowed = p.cpusAllowed := by
  rw [TaskState.migrateTask]
  split_ifs <;> rfl

end Operations

structure AffinityHistory.Sound (h : AffinityHistory n) : Prop where
  mask : h.task.cpusAllowed = if h.narrowed then pf.hmpSlowCpuMask else h.lastSet
  placed : h.stray = false → h.task.Placed
  active : ∀ m ∈ h.task.migrations, m.dest ∈ pf.cpuActiveMask

section Runs

variable {pf} {h : AffinityHistory n}

lemma setscheduler_sound (hs : h.Sound pf) (req : SchedRequest) : (h.step pf (.setscheduler req)).Sound pf := by
  obtain ⟨hmask, hcpu, hqueued, hmigrations⟩ :=
    schedSetscheduler_place pf h.task req
  dsimp only [AffinityHistory.step, TaskState.step]
  split_ifs with hconfines
  · rw [if_pos hconfines] at hmask
    refine ⟨hmask, fun hstray hon => ?_, ?_⟩
    · -- `stray` is exactly the case in which the new mask misses the task's CPU
      dsimp only at hstray hon ⊢
      rw [hqueued] at hon
      rw [hon, Bool.true_and, Bool.or_eq_false_iff, decide_eq_false_iff_not, not_not] at hstray
      rw [hmask, hcpu]
      exact .inl hstray.2
    · rw [hmigrations]
      exact hs.active
  · rw [if_neg hconfines] at hmask
    refine ⟨hmask.trans hs.mask, fun hstray hon => ?_, ?_⟩
    · dsimp only at hstray hon ⊢
      rw [hqueued] at hon
      rw [hmask, hcpu, hmigrations]
      exact hs.placed hstray hon
    · rw [hmigrations]
      exact hs.active

lemma setCpusAllowed_sound (hs : h.Sound pf) (mask : Finset (Fin n)) : (h.step pf (.setCpusAllowed mask)).Sound pf := by
  have hactive := setCpusAllowedPtr_active mask hs.active
  dsimp only [AffinityHistory.step, TaskState.step]
  split_ifs with hsame haccept
  · have hkeep : h.task.setCpusAllowedPtr pf mask = h.task := if_pos hsame
    refine ⟨?_, ?_, hactive⟩
    · rwa [hkeep]
    · rw [hkeep]
      exact hs.placed
  · obtain ⟨hmask, hplaced⟩ := setCpusAllowedPtr_accept hsame haccept
    exact ⟨hmask, fun _ => hplaced, hactive⟩
  · have hkeep : h.task.setCpusAllowedPtr pf mask = h.task := setCpusAllowedPtr_reject haccept
    rw [hkeep]
    exact ⟨hs.mask, hs.placed, hs.active⟩

lemma affinityStep_sound (hs : h.Sound pf) (op : AffinityOp n) : (h.step pf op).Sound pf := by
  cases op with dsimp only [AffinityHistory.step, TaskState.step]
  | setscheduler req => exact setscheduler_sound hs req
  | setCpusAllowed mask => exact setCpusAllowed_sound hs mask
  | stopper m =>
    split_ifs with hmem
    · refine ⟨(migrateTask_cpusAllowed m).trans hs.mask, fun hstray => ?_, fun m' hm' => ?_⟩
      · exact stopper_placed (hs.active m hmem) (hs.placed hstray)
      · exact hs.active m' (List.mem_of_mem_erase hm')
    · exact ⟨hs.mask, hs.placed, hs.active⟩
  | sleep => exact ⟨hs.mask, fun _ hon => absurd hon nofun, hs.active⟩
  | wake cpu =>
    split_ifs with hwake
    · exact ⟨hs.mask, fun _ _ => .inl hwake.2, hs.active⟩
    · exact ⟨hs.mask, hs.placed, hs.active⟩
  | pull cpu =>
    split_ifs with hpull
    · exact ⟨hs.mask, fun _ _ => .inl hpull.2, hs.active⟩
    · exact ⟨hs.mask, hs.placed, hs.active⟩

/-- The affinity is the mask last set, or the little CPUs if a change to a
real-time priority has narrowed a full mask since; and unless that narrowing
caught it on a big CPU, a queued task is placed. -/
theorem affinity_follows_requests (pf : Platform n) (task : TaskState n)
    (ops : List (AffinityOp n)) : Run.Always (AffinityHistory.step pf)
      (fun h => h.task.cpusAllowed = (if h.narrowed then pf.hmpSlowCpuMask else h.lastSet) ∧
        (h.stray = false → h.task.Placed)) (.start task) ops := by
  refine Run.Always.mono (P := fun h : AffinityHistory n => h.Sound pf) ?_ fun h hs =>
    ⟨hs.mask, hs.placed⟩
  refine Run.always_of_step (fun h op hs => affinityStep_sound hs op) ?_
  exact ⟨rfl, fun _ hon => absurd hon nofun, nofun⟩

/-- A task that may run everywhere is queued on the big CPU 1 and becomes
real-time and normal again: it is left with the little CPU 0 as its affinity, still
queued on CPU 1, with no migration under way. -/
theorem affinity_lost_by_round_trip :
    let pf : Platform 2 := { hmpSlowCpuMask := {0}, cpuActiveMask := {0, 1} }
    let h := [.wake 1, .setscheduler { policy := 1, priority := 50 },
      .setscheduler { policy := 0, priority := 0 }].foldl (AffinityHistory.step pf)
        (.start { cpusAllowed := Finset.univ, cpu := 0 })
    h.task.policy = .normal ∧ h.lastSet = {0, 1} ∧ h.task.cpusAllowed = {0} ∧
      h.task.onRq = true ∧ h.task.cpu = 1 ∧ h.task.migrations = [] := by
  decide

end Runs

end BigLittle.Core
