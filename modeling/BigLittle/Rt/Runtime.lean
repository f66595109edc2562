import Mathlib.Data.List.FinRange
import Mathlib.Logic.Function.Basic
import BigLittle.Lib.Word

/-!
# Sharing of real-time runtime

Every group has a queue on every CPU, with a runtime it may use up in each period. A
queue that needs more borrows from the queues of the same root domain. Before a CPU
leaves its root domain its queues take back what they lent, or give back what they
borrowed, and are marked with an infinite runtime; when it comes back they start again
with the runtime of the group.

One visit to a group, under the lock of its bandwidth, is one step. What a queue has
used is an input.
-/

namespace BigLittle.Rt

open Function (update)

def runtimeInf : Nat := 2 ^ 64 - 1

/-- The value of an `s64` after an operation. -/
def s64 (z : Int) : Int := Int.bmod z (2 ^ 64)

structure RtBandwidth where
  rtPeriod : Nat
  rtRuntime : Nat

/-- The bandwidth part of `struct rt_rq`. -/
structure RtRq where
  rtTime : Nat := 0
  rtRuntime : Nat
  rtThrottled : Bool := false

/-- The queues of a group, one for each CPU. -/
abbrev Queues (n : Nat) := Fin n → RtRq

variable {n : Nat}

/-- Words are added and subtracted modulo the word size. -/
def RtRq.addRuntime (r : RtRq) (diff : Int) : RtRq :=
  { r with rtRuntime := Word.ofInt 64 (r.rtRuntime + diff) }

/-- In `do_balance_runtime`: what is taken from a queue with spare time. -/
def share (b : RtBandwidth) (weight : Nat) (spare : Int) (borrower : RtRq) : Int :=
  let diff := spare.toNat / weight
  if b.rtPeriod < Word.add 64 borrower.rtRuntime diff then s64 (b.rtPeriod - borrower.rtRuntime) else diff

/-- The loop of `do_balance_runtime`, with whether anything was borrowed. -/
def balanceLoop (b : RtBandwidth) (weight : Nat) (cpu : Fin n) : List (Fin n) → Queues n → Bool → Queues n × Bool
  | [], q, more => (q, more)
  | i :: rest, q, more =>
    if i = cpu ∨ (q i).rtRuntime = runtimeInf then balanceLoop b weight cpu rest q more
    else
      let spare := s64 ((q i).rtRuntime - (q i).rtTime)
      if 0 < spare then
        let diff := share b weight spare (q cpu)
        let lender := (q i).addRuntime (-diff)
        let borrower := (q cpu).addRuntime diff
        let q := update (update q i lender) cpu borrower
        if borrower.rtRuntime = b.rtPeriod then (q, true) else balanceLoop b weight cpu rest q true
      else balanceLoop b weight cpu rest q more

def doBalanceRuntime (b : RtBandwidth) (span : List (Fin n)) (cpu : Fin n) (q : Queues n) : Queues n × Bool :=
  balanceLoop b span.length cpu span q false

/-- The loop of `__disable_runtime`, with what is still wanted. -/
def reclaimLoop (cpu : Fin n) : List (Fin n) → Queues n → Int → Queues n × Int
  | [], q, want => (q, want)
  | i :: rest, q, want =>
    if i = cpu ∨ (q i).rtRuntime = runtimeInf then reclaimLoop cpu rest q want
    else if 0 < want then
      let diff := min (Word.toSigned 64 (q i).rtRuntime) want
      let q := update q i ((q i).addRuntime (-diff))
      let want := s64 (want - diff)
      if want = 0 then (q, want) else reclaimLoop cpu rest q want
    else (update q i ((q i).addRuntime (-want)), 0)

/-- `__disable_runtime` for one group, with whether the `BUG_ON` was reached. -/
def disableRuntime (b : RtBandwidth) (span : List (Fin n)) (cpu : Fin n) (q : Queues n) : Queues n × Bool :=
  let reclaimed :=
    if (q cpu).rtRuntime = runtimeInf ∨ (q cpu).rtRuntime = b.rtRuntime then (q, 0)
    else reclaimLoop cpu span q (s64 (b.rtRuntime - (q cpu).rtRuntime))
  (update reclaimed.1 cpu
      { reclaimed.1 cpu with rtRuntime := runtimeInf, rtThrottled := false },
    decide (reclaimed.2 ≠ 0))

/-- `__enable_runtime` for one group. -/
def enableRuntime (b : RtBandwidth) (cpu : Fin n) (q : Queues n) : Queues n :=
  update q cpu { rtTime := 0, rtRuntime := b.rtRuntime, rtThrottled := false }

structure State (G Rd : Type*) (n : Nat) where
  rtRq : G → Queues n
  /-- the root domain of each CPU -/
  rd : Fin n → Rd
  schedulerRunning : Bool := false
  bug : Bool := false

variable {G Rd : Type*} [DecidableEq G] [DecidableEq Rd]

inductive Op (G Rd : Type*) (n : Nat) where
  /-- a queue that has used up its runtime borrows -/
  | balanceRuntime (g : G) (cpu : Fin n)
  /-- from `rq_offline_rt`, or `update_runtime` at `CPU_DOWN_PREPARE` -/
  | disableRuntime (g : G) (cpu : Fin n)
  /-- from `rq_online_rt`, or `update_runtime` at `CPU_DOWN_FAILED` and `CPU_ONLINE` -/
  | enableRuntime (g : G) (cpu : Fin n)
  /-- `rt_time` goes up as tasks run and down in each period -/
  | account (g : G) (cpu : Fin n) (rtTime : Nat) (rtThrottled : Bool)
  /-- in `rq_attach_root`, between going offline and online -/
  | attach (cpu : Fin n) (rd : Rd)
  | startScheduler

namespace State

variable (s : State G Rd n)

/-- `rd->span` in the order of `for_each_cpu`. -/
def span (r : Rd) : List (Fin n) := (List.finRange n).filter fun i => decide (s.rd i = r)

def setGroup (g : G) (q : Queues n) : State G Rd n := { s with rtRq := update s.rtRq g q }

def step (bandwidth : G → RtBandwidth) : Op G Rd n → State G Rd n
  | .balanceRuntime g cpu =>
    s.setGroup g (doBalanceRuntime (bandwidth g) (s.span (s.rd cpu)) cpu (s.rtRq g)).1
  | .disableRuntime g cpu =>
    if s.schedulerRunning then
      let disabled := Rt.disableRuntime (bandwidth g) (s.span (s.rd cpu)) cpu (s.rtRq g)
      { s.setGroup g disabled.1 with bug := s.bug || disabled.2 }
    else s
  | .enableRuntime g cpu =>
    if s.schedulerRunning then s.setGroup g (Rt.enableRuntime (bandwidth g) cpu (s.rtRq g)) else s
  | .account g cpu rtTime rtThrottled =>
    s.setGroup g (update (s.rtRq g) cpu
      { s.rtRq g cpu with rtTime := rtTime, rtThrottled := rtThrottled })
  | .attach cpu rd => { s with rd := update s.rd cpu rd }
  | .startScheduler => { s with schedulerRunning := true }

end State

/-- At boot every queue has the runtime of its group. -/
def boot (bandwidth : G → RtBandwidth) (rd : Fin n → Rd) : State G Rd n where
  rtRq g _ := { rtRuntime := (bandwidth g).rtRuntime }
  rd := rd

/-- What the callers guarantee: only a queue that has used up its runtime borrows. -/
def Op.Allowed (s : State G Rd n) : Op G Rd n → Prop
  | .balanceRuntime g cpu => (s.rtRq g cpu).rtRuntime < (s.rtRq g cpu).rtTime
  | _ => True

instance (s : State G Rd n) (op : Op G Rd n) : Decidable (op.Allowed s) := by
  cases op <;> dsimp only [Op.Allowed] <;> infer_instance

end BigLittle.Rt
