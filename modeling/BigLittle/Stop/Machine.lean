import Mathlib.Data.Fintype.Card
import Mathlib.Data.List.FinRange
import BigLittle.Lib.Run

/-!
# Stopping the machine

The stoppers of all online CPUs run one function, which takes them through a sequence of
states together: the last CPU to acknowledge a state moves to the next one. In one state
the CPUs disable interrupts, in the next the active ones call the function that needs the
machine stopped.

A step is one access of one CPU to the shared data, or one effect on the CPU itself. What
a CPU does is logged; what the function returns is left out.
-/

namespace BigLittle.StopMachine

open scoped Finset

/-- `enum stopmachine_state`; `beyond` is what comes after `STOPMACHINE_EXIT`. -/
inductive MachineState where
  | none
  | prepare
  | disableIrq
  | run
  | exit
  | beyond
deriving DecidableEq

namespace MachineState

def next : MachineState → MachineState
  | .none => .prepare
  | .prepare => .disableIrq
  | .disableIrq => .run
  | .run => .exit
  | .exit | .beyond => .beyond

def toNat : MachineState → Nat
  | .none => 0
  | .prepare => 1
  | .disableIrq => 2
  | .run => 3
  | .exit => 4
  | .beyond => 5

end MachineState

structure Config (n : Nat) where
  online : Fin n → Bool
  activeCpus : Option (Fin n → Bool)

namespace Config

variable {n : Nat} (cfg : Config n)

def numThreads : Nat := #{cpu | cfg.online cpu = true}

def isActive (cpu : Fin n) : Bool :=
  match cfg.activeCpus with
  | none => decide ((List.finRange n).find? cfg.online = some cpu)
  | some mask => mask cpu

end Config

inductive Pc where
  | start
  /-- compares the shared state with its own -/
  | head
  | read
  | act
  | inFn
  | ack
  | setAck
  | setState (newstate : MachineState)
  | exit
  | returned
deriving DecidableEq

inductive Event where
  | act (st : MachineState)
  | call
  | finish
  | ack (st : MachineState)
  | restore
deriving DecidableEq

structure Participant where
  pc : Pc := .start
  curstate : MachineState := .none
  irq : Bool
  flags : Bool := false
  log : List Event := []

structure State (n : Nat) where
  state : MachineState
  threadAck : Int
  cpu : Fin n → Participant

variable {n : Nat} (p : Participant)

/-- `set_state(&smdata, STOPMACHINE_PREPARE)` in `__stop_machine`; interrupts are as they
are. -/
def boot (cfg : Config n) (irq : Fin n → Bool) : State n where
  state := .prepare
  threadAck := cfg.numThreads
  cpu i := { irq := irq i }

def Participant.record (e : Event) : Participant := { p with log := p.log ++ [e] }

/-- The condition at the end of the loop. -/
def Participant.loop : Participant :=
  { p with pc := if p.curstate = .exit then .exit else .head }

/-- The `switch` in the loop. -/
def Participant.act (isActive : Bool) : Participant :=
  let p := p.record (.act p.curstate)
  match p.curstate with
  | .disableIrq => { p with irq := false, pc := .ack }
  | .run => if isActive then { p.record .call with pc := .inFn } else { p with pc := .ack }
  | _ => { p with pc := .ack }

namespace State

variable (s : State n)

def setCpu (i : Fin n) (p : Participant) : State n := { s with cpu := Function.update s.cpu i p }

def step (cfg : Config n) (s : State n) (i : Fin n) : State n :=
  let p := s.cpu i
  match p.pc with
  | .start => s.setCpu i { p with flags := p.irq, pc := .head }
  | .head => if s.state ≠ p.curstate then s.setCpu i { p with pc := .read } else s
  | .read => s.setCpu i { p with curstate := s.state, pc := .act }
  | .act => s.setCpu i (p.act (cfg.isActive i))
  | .inFn => s.setCpu i { p.record .finish with pc := .ack }
  | .ack =>
    let p := p.record (.ack p.curstate)
    { s with threadAck := s.threadAck - 1 }.setCpu i (if s.threadAck - 1 = 0 then { p with pc := .setAck } else p.loop)
  | .setAck => { s with threadAck := cfg.numThreads }.setCpu i { p with pc := .setState s.state.next }
  | .setState newstate => { s with state := newstate }.setCpu i p.loop
  | .exit => s.setCpu i { p.record .restore with irq := p.flags, pc := .returned }
  | .returned => s

end State

end BigLittle.StopMachine
