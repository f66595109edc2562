import Mathlib.Data.Fintype.Prod
import BigLittle.Mcpm.Cluster

/-!
# Power management of TC2

Two clusters of up to three CPUs. A use count per CPU says how many requests for it to be up
are open; one lock protects all of them. A CPU that goes down and finds all counts of its
cluster zero is the last man: it arms the power-down of the cluster and tries to enter the
critical section, still with the lock.

The steps of a CPU in the cluster protocol are those of that model. The code under the lock is
one step where it only touches what the lock protects. A CPU that is off may wake up at any
time, by a request or by an interrupt. The wake-up and resume registers are left out, since
nothing here reads them.
-/

namespace BigLittle.Tc2

open Function (update)

/-- A CPU: its cluster and its number there. -/
abbrev Cpu := Fin 2 × Fin 3

/-- `vexpress_spc_get_nb_cpus` -/
structure Config where
  nbCpus : Fin 2 → Nat

inductive Request where
  | up
  | down
deriving DecidableEq

inductive Pc where
  /-- in the kernel -/
  | run
  /-- in `tc2_pm_down`, before it has the lock -/
  | lockWait (residency : Nat)
  /-- has the lock and is not the last man -/
  | locked
  /-- has the lock and is in `__mcpm_outbound_enter_critical` -/
  | entering
  | entered
  | aborted
  /-- has given the lock back and tears the cluster down -/
  | teardown
  | flush
  /-- off or in `mcpm_entry_point` -/
  | entry
  /-- has yet to call `tc2_pm_powered_up` -/
  | poweredUp
deriving DecidableEq

structure State where
  cluster : Fin 2 → Mcpm.State 4
  useCount : Cpu → Int
  lock : Option Cpu := none
  /-- `vexpress_spc_powerdown_enable` -/
  armed : Fin 2 → Bool := fun _ => false
  latest : Cpu → Request
  pc : Cpu → Pc
  /-- a `BUG()` has been reached -/
  bug : Bool := false

/-- `tc2_pm_usage_count_init` and `mcpm_sync_init` on the CPU that boots. For `c.2 = 0` this is what the code does;
`mcpm_sync_init` would mark CPU 0 of the cluster in place of any other `c`. -/
def boot (c : Cpu) : State where
  cluster k := if k = c.1 then Mcpm.booted (· = c.2.castSucc) else Mcpm.dark
  useCount d := if d = c then 1 else 0
  latest d := if d = c then .up else .down
  pc d := if d = c then .run else .entry

namespace State

variable (s : State) (c : Cpu)

def Unused (k : Fin 2) : Prop := ∀ i, s.useCount (k, i) = 0
  deriving Decidable

def goto (pc : Pc) : State := { s with pc := update s.pc c pc }

/-- A step of the cluster protocol. -/
def act (op : Mcpm.Op 4) : State :=
  { s with cluster := update s.cluster c.1 (Mcpm.step (s.cluster c.1) op) }

def mcpmPc : Mcpm.Pc := (s.cluster c.1).pc c.2.castSucc

def disarm (k : Fin 2) : State := { s with armed := update s.armed k false }

def setCount (count : Int) : State := { s with useCount := update s.useCount c count }

def ask (request : Request) : State := { s with latest := update s.latest c request }

def bugOn (cond : Bool) : State := { s with bug := s.bug || cond }

/-- `tc2_pm_power_up`, called on another CPU -/
def powerUp (cfg : Config) (c : Cpu) : State :=
  if cfg.nbCpus c.1 ≤ c.2 then s
  else
    let s := if s.Unused c.1 then s.disarm c.1 else s
    let count := s.useCount c + 1
    ((s.setCount c count).bugOn (decide (count ≠ 1) && decide (count ≠ 2))).ask c .up

/-- `tc2_pm_down` is called; `__mcpm_cpu_going_down`. -/
def down (residency : Nat) : State :=
  ((s.act c (.cpuGoingDown c.2.castSucc)).ask c .down).goto c (.lockWait residency)

/-- `tc2_pm_down` with the lock, up to `__mcpm_outbound_enter_critical` -/
def release (residency : Nat) : State :=
  let s := State.bugOn { s with lock := some c } (decide ((s.cluster c.1).cluster ≠ .up))
  let count := s.useCount c - 1
  let s := s.setCount c count
  if count = 0 then
    if s.Unused c.1 ∧ (residency = 0 ∨ 5000 < residency) then
      (State.act { s with armed := update s.armed c.1 true } c (.enterCritical c.2.castSucc)).goto c .entering
    else s.goto c .locked
  else if count = 1 then s.goto c .locked
  else (s.bugOn true).goto c .locked

/-- A step in `__mcpm_outbound_enter_critical` -/
def enter : State :=
  let s := s.act c (.next c.2.castSucc)
  match s.mcpmPc c with
  | .critical => s.goto c .entered
  | .goingDown => s.goto c .aborted
  | _ => s

def poweredUp : State :=
  let s := if s.Unused c.1 then s.disarm c.1 else s
  let s := if s.useCount c = 0 then (s.setCount c 1).ask c .up else s
  s.goto c .run

/-- A step in `mcpm_entry_point` -/
def enterKernel : State :=
  let s := s.act c (.next c.2.castSucc)
  if s.mcpmPc c = .up then s.goto c .poweredUp else s

def next : State :=
  match s.pc c with
  | .run => s
  | .lockWait residency => if s.lock = none then s.release c residency else s
  | .locked => { s with lock := none }.goto c .flush
  | .entering => s.enter c
  | .entered => { s with lock := none }.goto c .teardown
  | .aborted => ({ s with lock := none }.disarm c.1).goto c .flush
  | .teardown => (s.act c (.leaveCritical c.2.castSucc .down)).goto c .flush
  | .flush => (s.act c (.cpuDown c.2.castSucc)).goto c .entry
  | .entry => s.enterKernel c
  | .poweredUp => if s.lock = none then s.poweredUp c else s

end State

inductive Op where
  | next (c : Cpu)
  | powerUp (c : Cpu)
  | down (c : Cpu) (residency : Nat)
deriving DecidableEq

/-- A CPU goes down from the kernel, and a power-up is asked for a CPU that was asked to go
down last; the lock is free when somebody takes it. A CPU that is not there does not run. -/
def Op.Allowed (cfg : Config) (s : State) : Op → Prop
  | .next c => c.2 < cfg.nbCpus c.1
  | .powerUp c => s.latest c = .down ∧ s.lock = none
  | .down c _ => s.pc c = .run

instance Op.decidableAllowed (cfg : Config) (s : State) : (op : Op) → Decidable (op.Allowed cfg s)
  | .next _ => inferInstanceAs (Decidable (_ < _))
  | .powerUp _ => inferInstanceAs (Decidable (_ = _ ∧ _ = _))
  | .down _ _ => inferInstanceAs (Decidable (_ = _))

def step (cfg : Config) (s : State) : Op → State
  | .next c => s.next c
  | .powerUp c => s.powerUp cfg c
  | .down c residency => s.down c residency

end BigLittle.Tc2
