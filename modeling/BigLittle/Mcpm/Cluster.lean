import BigLittle.Mcpm.Vlock

/-!
# Powering a cluster up and down

Each CPU of a cluster, the cluster and its inbound side have a state in memory. A CPU that
goes down may be the last man, who tears the cluster down after it has seen every other CPU
down. A CPU that comes up takes part in the election of the first man, who waits for the
end of a teardown and sets the cluster up; the others wait until the cluster is up.

A step is one access to the shared data, and the steps of all CPUs interleave. What the
platform decides, when a CPU goes down, whether it is the last man and how a teardown ends,
is part of the action.
-/

namespace BigLittle.Mcpm

inductive CpuState where
  | down
  | comingUp
  | up
  | goingDown
deriving DecidableEq

inductive ClusterState where
  | down
  | up
  | goingDown
deriving DecidableEq

inductive Inbound where
  | notComingUp
  | comingUp
deriving DecidableEq

/-- Where a CPU is. From `off` it enters `mcpm_entry_point`; from `up` on it is on its way
down. -/
inductive Pc where
  | off
  | trylock
  /-- has the lock and looks whether the cluster is already up -/
  | readCluster
  | setup
  | teardownWait
  /-- in `power_up_setup` for the cluster -/
  | powerUpSetup
  | clusterUp
  | setupLeave
  | unlock
  | setupWait
  | setupComplete
  | up
  /-- after `__mcpm_cpu_going_down` -/
  | goingDown
  /-- in `__mcpm_outbound_enter_critical` -/
  | enter
  | readInbound
  | scan (i : Nat)
  | abort
  /-- `__mcpm_outbound_enter_critical` has returned true -/
  | critical
  /-- the cluster has been torn down -/
  | left
deriving DecidableEq

/-- The state a CPU has written for itself. -/
def Pc.cpuState : Pc → CpuState
  | .off => .down
  | .trylock | .readCluster | .setup | .teardownWait | .powerUpSetup | .clusterUp | .setupLeave | .unlock
  | .setupWait | .setupComplete => .comingUp
  | .up => .up
  | .goingDown | .enter | .readInbound | .scan _ | .abort | .critical | .left => .goingDown

/-- One entry of `mcpm_sync.clusters`, its first man lock and where the CPUs are. -/
structure State (n : Nat) where
  cpu : Fin n → CpuState
  cluster : ClusterState
  inbound : Inbound := .notComingUp
  lock : Vlock.State n := {}
  pc : Fin n → Pc

variable {n : Nat} (s : State n)

/-- `mcpm_sync_init` for a cluster other than the one it runs on. -/
def dark : State n where
  cpu _ := .down
  cluster := .down
  pc _ := .off

/-- `mcpm_sync_init` for the cluster it runs on. It marks the online CPUs by their logical numbers; these are the CPUs
that run only if the boot CPU, the one online then, is number 0 of its cluster. -/
def booted (online : Fin n → Bool) : State n where
  cpu i := if online i then .up else .down
  cluster := .up
  pc i := if online i then .up else .off

namespace State

variable (s : State n) (i : Fin n)

def goto (pc : Pc) : State n := { s with pc := Function.update s.pc i pc }

def setCpu (state : CpuState) : State n := { s with cpu := Function.update s.cpu i state }

/-- One access in `vlock_trylock`. -/
def stepTrylock : State n :=
  let lock := s.lock.step i
  let s := { s with lock := lock }
  match lock.pc i with
  | .holding => s.goto i .readCluster
  | .idle => s.goto i .setupWait
  | _ => s

/-- The state of the `k`-th CPU is read in `__mcpm_outbound_enter_critical`. -/
def stepScan (k : Nat) : State n :=
  if h : k < n then
    if k = i then s.goto i (.scan (k + 1))
    else
      match s.cpu ⟨k, h⟩ with
      | .goingDown => s
      | .down => s.goto i (.scan (k + 1))
      | _ => s.goto i .abort
  else s.goto i .critical

/-- `__mcpm_outbound_leave_critical` -/
def leaveCritical (state : ClusterState) : State n :=
  State.goto { s with cluster := state } i (if state = .down then .left else .goingDown)

/-- The next access of a CPU, where the platform has nothing to decide. -/
def next : State n :=
  match s.pc i with
  | .off => (s.setCpu i .comingUp).goto i .trylock
  | .trylock => s.stepTrylock i
  | .readCluster => s.goto i (if s.cluster = .up then .unlock else .setup)
  | .setup => { s with inbound := .comingUp }.goto i .teardownWait
  | .teardownWait =>
    match s.cluster with
    | .goingDown => s
    | .up => s.goto i .setupLeave
    | .down => s.goto i .powerUpSetup
  | .powerUpSetup => s.goto i .clusterUp
  | .clusterUp => { s with cluster := .up }.goto i .setupLeave
  | .setupLeave => { s with inbound := .notComingUp }.goto i .unlock
  | .unlock => { s with lock := s.lock.step i }.goto i .setupComplete
  | .setupWait => if s.cluster = .up then s.goto i .setupComplete else s
  | .setupComplete => (s.setCpu i .up).goto i .up
  | .enter => { s with cluster := .goingDown }.goto i .readInbound
  | .readInbound => s.goto i (if s.inbound = .comingUp then .abort else .scan 0)
  | .scan k => s.stepScan i k
  | .abort => s.leaveCritical i .up
  | .up | .goingDown | .critical | .left => s

end State

inductive Op (n : Nat) where
  | next (i : Fin n)
  | cpuGoingDown (i : Fin n)
  | enterCritical (i : Fin n)
  | leaveCritical (i : Fin n) (state : ClusterState)
  | cpuDown (i : Fin n)
deriving DecidableEq

/-- The CPU has called `__mcpm_outbound_enter_critical` and has not left the critical section
nor been turned away. -/
def Pc.isLastMan : Pc → Bool
  | .enter | .readInbound | .scan _ | .abort | .critical => true
  | _ => false

/-- A CPU that is up goes down once, and there is at most one last man at a time. -/
def Op.Allowed : Op n → Prop
  | .next _ => True
  | .cpuGoingDown i => s.pc i = .up
  | .enterCritical i => s.pc i = .goingDown ∧ ∀ j, (s.pc j).isLastMan = false
  | .leaveCritical i state => s.pc i = .critical ∧ state ≠ .goingDown
  | .cpuDown i => s.pc i = .goingDown ∨ s.pc i = .left

instance Op.decidableAllowed (s : State n) (op : Op n) : Decidable (op.Allowed s) := by
  cases op <;> dsimp only [Op.Allowed] <;> infer_instance

def step : Op n → State n
  | .next i => s.next i
  | .cpuGoingDown i => (s.setCpu i .goingDown).goto i .goingDown
  | .enterCritical i => s.goto i .enter
  | .leaveCritical i state => s.leaveCritical i state
  | .cpuDown i => (s.setCpu i .down).goto i .off

/-! ### Transitions of the cluster -/

inductive Side where
  | inbound
  | outbound
deriving DecidableEq

/-- The CPU runs `mcpm_entry_point`. -/
def Pc.isInbound : Pc → Bool
  | .up | .goingDown | .enter | .readInbound | .scan _ | .abort | .critical | .left => false
  | _ => true

def Op.side : Op n → Side
  | .next i => if (s.pc i).isInbound then .inbound else .outbound
  | _ => .outbound

/-- The transitions of the document on race avoidance, each with the side on which it can
occur. -/
def documented : Side → ClusterState × Inbound → ClusterState × Inbound → Bool
  | .inbound, (.down, .notComingUp), (.down, .comingUp) => true
  | .inbound, (.down, .comingUp), (.up, .comingUp) => true
  | .inbound, (.up, .comingUp), (.up, .notComingUp) => true
  | .outbound, (.up, .notComingUp), (.goingDown, .notComingUp) => true
  | .outbound, (.goingDown, .notComingUp), (.down, .notComingUp) => true
  | .inbound, (.goingDown, .notComingUp), (.goingDown, .comingUp) => true
  | .outbound, (.goingDown, .comingUp), (.up, .comingUp) => true
  | .outbound, (.goingDown, .comingUp), (.down, .comingUp) => true
  | _, _, _ => false

/-- The transitions that an aborted teardown adds. The last man has seen a CPU coming up that
has yet to tell the inbound side, or tries again before the first man is through; the first
man comes too late to find the teardown, or leaves during the next attempt. -/
def added : Side → ClusterState × Inbound → ClusterState × Inbound → Bool
  | .outbound, (.goingDown, .notComingUp), (.up, .notComingUp) => true
  | .outbound, (.up, .comingUp), (.goingDown, .comingUp) => true
  | .inbound, (.up, .notComingUp), (.up, .comingUp) => true
  | .inbound, (.goingDown, .comingUp), (.goingDown, .notComingUp) => true
  | _, _, _ => false

def State.states : ClusterState × Inbound := (s.cluster, s.inbound)

/-- The step leaves the states of the cluster alone or takes a documented transition. -/
def Documented (op : Op n) : Prop :=
  (step s op).states = s.states ∨ documented (op.side s) s.states (step s op).states = true
  deriving Decidable

/-- The step leaves the states of the cluster alone or takes a transition that is documented
or comes with an aborted teardown. -/
def Regular (op : Op n) : Prop :=
  Documented s op ∨ added (op.side s) s.states (step s op).states = true

/-- While a last man tears the cluster down no CPU is up and nobody sets the cluster up. -/
structure Safe (s : State n) : Prop where
  notUp : ∀ i j, s.pc i = .critical → s.cpu j ≠ .up
  notSetup : ∀ i j, s.pc i = .critical → s.pc j ≠ .powerUpSetup

end BigLittle.Mcpm
