import BigLittle.Lib.Calc
import BigLittle.Lib.Run
import BigLittle.Lib.Waterfall
import BigLittle.Lib.Word
import Mathlib.Logic.Function.Basic

/-!
# CFS bandwidth control of one task group

The group has a global pool of runtime, which the period timer refills with the quota,
and a queue on every CPU with a local account. A queue draws slices from the pool as it
runs; when the pool is empty it is throttled, and a timer pays its debt before it may
run again. An idle queue returns what it does not need, and a second timer hands that
slack to the throttled queues.

Both timers drop the lock of the pool while they distribute, so a distribution is a
state of its own: the timer holds an amount and visits one queue at a time, and every
other operation can come in between. Which queue it meets next is part of the step.

Local accounts are signed 64-bit numbers, amounts of the pool unsigned ones. Whether a
queue has a running entity, the clocks and the expiry of the timers are inputs.
-/

namespace BigLittle.Bandwidth

def runtimeInf : Nat := 2 ^ 64 - 1

def minCfsRqRuntime : Int := 1000000

/-- The value of an `s64` after an operation. -/
def s64 (z : Int) : Int := Int.bmod z (2 ^ 64)

structure Params where
  slice : Nat
  tickNsec : Nat

/-- `struct cfs_bandwidth`; the list holds the throttled queues. -/
structure CfsBandwidth (C : Type*) where
  period : Nat := 100000000
  quota : Nat := runtimeInf
  runtime : Nat := 0
  runtimeExpires : Nat := 0
  idle : Bool := false
  timerActive : Bool := false
  throttledCfsRq : List C := []

/-- The bandwidth part of `struct cfs_rq`. -/
structure LocalRq where
  runtimeEnabled : Bool := false
  runtimeExpires : Nat := 0
  runtimeRemaining : Int := 0
  throttled : Bool := false

structure Distribution where
  remaining : Nat
  expires : Nat

structure Pool (C : Type*) where
  cfsB : CfsBandwidth C
  rq : C → LocalRq
  periodTimer : Option Distribution
  slackTimer : Option Distribution

variable {C : Type*}

namespace CfsBandwidth

variable (b : CfsBandwidth C)

/-- `__refill_cfs_bandwidth_runtime`. -/
def refillCfsBandwidthRuntime (now : Nat) : CfsBandwidth C :=
  if b.quota = runtimeInf then b
  else { b with runtime := b.quota, runtimeExpires := Word.add 64 now b.period }

/-- `__start_cfs_bandwidth`, up to the programming of the timer. -/
def startCfsBandwidth : CfsBandwidth C := { b with timerActive := true }

/-- In `assign_cfs_rq_runtime`: a pool that has become inactive is refreshed. -/
def activate (now : Nat) : CfsBandwidth C :=
  if b.quota = runtimeInf ∨ b.timerActive = true then b
  else (b.refillCfsBandwidthRuntime now).startCfsBandwidth

/-- In `assign_cfs_rq_runtime`: the amount that is handed out. -/
def amount (minAmount : Nat) : Nat :=
  if b.quota = runtimeInf then minAmount else min b.runtime minAmount

/-- In `assign_cfs_rq_runtime`: the pool after `minAmount` was asked for. -/
def draw (minAmount : Nat) : CfsBandwidth C :=
  if b.quota = runtimeInf ∨ b.runtime = 0 then b
  else { b with runtime := b.runtime - b.amount minAmount, idle := false }

end CfsBandwidth

namespace LocalRq

variable (r : LocalRq)

/-- In `assign_cfs_rq_runtime`: what the queue asks for. -/
def minAmount (cfg : Params) : Nat := Word.ofInt 64 (cfg.slice - r.runtimeRemaining)

/-- In `assign_cfs_rq_runtime`: the queue after it got its amount. -/
def credit (amount expires : Nat) : LocalRq :=
  { r with
    runtimeRemaining := s64 (r.runtimeRemaining + amount)
    runtimeExpires :=
      if 0 < s64 (expires - r.runtimeExpires : Int) then expires else r.runtimeExpires }

def expireCfsRqRuntime (cfg : Params) (globalExpires clock : Nat) : LocalRq :=
  if s64 (clock - r.runtimeExpires : Int) < 0 then r
  else if r.runtimeRemaining < 0 then r
  else if 0 ≤ s64 (r.runtimeExpires - globalExpires : Int) then
    { r with runtimeExpires := Word.add 64 r.runtimeExpires cfg.tickNsec }
  else { r with runtimeRemaining := 0 }

/-- What `distribute_cfs_runtime` gives the queue out of `remaining`. -/
def payment (remaining : Nat) : Nat :=
  min (Word.ofInt 64 (-r.runtimeRemaining + 1)) remaining

/-- The queue after `distribute_cfs_runtime` has paid. -/
def pay (remaining expires : Nat) : LocalRq :=
  { r with
    runtimeRemaining := s64 (r.runtimeRemaining + r.payment remaining)
    runtimeExpires := expires }

/-- In `__return_cfs_rq_runtime`: what the queue has to spare. -/
def slack : Int := s64 (r.runtimeRemaining - minCfsRqRuntime)

end LocalRq

variable [DecidableEq C]

namespace Pool

variable (cfg : Params) (p : Pool C) (c : C) (d : Distribution)

def modifyRq (f : LocalRq → LocalRq) : Pool C :=
  { p with rq := Function.update p.rq c (f (p.rq c)) }

def assignCfsRqRuntime (now : Nat) : Pool C :=
  let minAmount := (p.rq c).minAmount cfg
  let b := p.cfsB.activate now
  { p with cfsB := b.draw minAmount }.modifyRq c fun r =>
    r.credit (b.amount minAmount) b.runtimeExpires

/-- `account_cfs_rq_runtime` until it asks for more. -/
def dockCfsRqRuntime (deltaExec clock : Nat) : Pool C :=
  p.modifyRq c fun r =>
    { r with runtimeRemaining := s64 (r.runtimeRemaining - deltaExec) }.expireCfsRqRuntime cfg
      p.cfsB.runtimeExpires clock

def accountCfsRqRuntime (deltaExec clock now : Nat) : Pool C :=
  if (p.rq c).runtimeEnabled then
    let p := p.dockCfsRqRuntime cfg c deltaExec clock
    if 0 < (p.rq c).runtimeRemaining then p else p.assignCfsRqRuntime cfg c now
  else p

/-- `throttle_cfs_rq`, the part on the bandwidth of the group. -/
def throttleCfsRq : Pool C :=
  { p with cfsB := { p.cfsB with
      throttledCfsRq := p.cfsB.throttledCfsRq ++ [c]
      timerActive := true } }.modifyRq c fun r => { r with throttled := true }

/-- `unthrottle_cfs_rq`, the part on the bandwidth of the group. -/
def unthrottleCfsRq : Pool C :=
  { p with cfsB := { p.cfsB with
      throttledCfsRq := p.cfsB.throttledCfsRq.erase c } }.modifyRq c fun r =>
    { r with throttled := false }

/-- `check_enqueue_throttle` for a queue without a running entity. -/
def checkEnqueueThrottle (clock now : Nat) : Pool C :=
  if (p.rq c).runtimeEnabled = true ∧ (p.rq c).throttled = false then
    let p := p.accountCfsRqRuntime cfg c 0 clock now
    if (p.rq c).runtimeRemaining ≤ 0 then p.throttleCfsRq c else p
  else p

def checkCfsRqRuntime : Pool C :=
  if (p.rq c).runtimeEnabled = true ∧ (p.rq c).runtimeRemaining ≤ 0 ∧ (p.rq c).throttled = false then
    p.throttleCfsRq c
  else p

/-- Whether a returned amount goes back into the pool. -/
def takesBack : Bool :=
  decide (p.cfsB.quota ≠ runtimeInf ∧ (p.rq c).runtimeExpires = p.cfsB.runtimeExpires)

/-- `return_cfs_rq_runtime` for a queue that has become empty. -/
def returnCfsRqRuntime : Pool C :=
  let slack := (p.rq c).slack
  if (p.rq c).runtimeEnabled = true ∧ 0 < slack then
    { p with cfsB := { p.cfsB with
        runtime :=
          if p.takesBack c then Word.add 64 p.cfsB.runtime slack.toNat else p.cfsB.runtime } }.modifyRq
      c fun r => { r with runtimeRemaining := s64 (r.runtimeRemaining - slack) }
  else p

/-- One round of the loop in `distribute_cfs_runtime`, and what remains. -/
def visit : Pool C × Nat :=
  if (p.rq c).throttled then
    let q := p.modifyRq c fun r => r.pay d.remaining d.expires
    (if 0 < (q.rq c).runtimeRemaining then q.unthrottleCfsRq c else q, d.remaining - (p.rq c).payment d.remaining)
  else (p, d.remaining)

/-- `distribute_cfs_runtime` without interruption. -/
def distributeCfsRuntime : List C → Pool C → Distribution → Pool C × Nat
  | [], p, d => (p, d.remaining)
  | c :: rest, p, d =>
    let (p, remaining) := p.visit c d
    if remaining = 0 then (p, 0) else distributeCfsRuntime rest p ⟨remaining, d.expires⟩

/-- `do_sched_cfs_period_timer` until it drops the lock to distribute. -/
def startPeriodTimer (now : Nat) : Pool C :=
  let b := p.cfsB
  let throttled := !b.throttledCfsRq.isEmpty
  if b.quota = runtimeInf ∨ (b.idle && !throttled) then
    { p with cfsB := { b with timerActive := false } }
  else
    let b := { b with timerActive := true }.refillCfsBandwidthRuntime now
    if throttled then
      { p with
        cfsB := { b with runtime := 0 }
        periodTimer := some ⟨b.runtime, b.runtimeExpires⟩ }
    else { p with cfsB := { b with idle := true } }

/-- `do_sched_cfs_period_timer` after a distribution: again if there are throttled
queues and runtime is left, otherwise the rest goes back into the pool. -/
def endPeriodTimer : Pool C :=
  if p.cfsB.throttledCfsRq ≠ [] ∧ 0 < d.remaining then p
  else { p with cfsB := { p.cfsB with runtime := d.remaining, idle := false }, periodTimer := none }

/-- `do_sched_cfs_slack_timer` until it drops the lock to distribute; `soon` says
that a refresh is near. A running callback of the period timer counts as near. -/
def startSlackTimer (soon : Bool) : Pool C :=
  if p.periodTimer.isSome ∨ soon then p
  else if p.cfsB.quota ≠ runtimeInf ∧ cfg.slice < p.cfsB.runtime then
    { p with
      cfsB := { p.cfsB with runtime := 0 }
      slackTimer := some ⟨p.cfsB.runtime, p.cfsB.runtimeExpires⟩ }
  else p

/-- `do_sched_cfs_slack_timer` after the distribution. -/
def endSlackTimer : Pool C :=
  { p with
    cfsB :=
      if d.expires = p.cfsB.runtimeExpires then { p.cfsB with runtime := d.remaining } else p.cfsB
    slackTimer := none }

/-- `tg_set_cfs_bandwidth`, the part on the pool. An active timer is started anew. -/
def setCfsBandwidth (period quota now : Nat) : Pool C :=
  { p with cfsB := { p.cfsB with period := period, quota := quota }.refillCfsBandwidthRuntime now }

/-- `tg_set_cfs_bandwidth`, the part on the queue of one CPU. -/
def resetRq : Pool C :=
  let q := p.modifyRq c fun r =>
    { r with runtimeEnabled := decide (p.cfsB.quota ≠ runtimeInf), runtimeRemaining := 0 }
  if (q.rq c).throttled then q.unthrottleCfsRq c else q

/-- `unthrottle_offline_cfs_rqs`, for the queue of the group on the CPU. -/
def unthrottleOfflineCfsRq : Pool C :=
  if (p.rq c).runtimeEnabled then
    let q := p.modifyRq c fun r => { r with runtimeRemaining := s64 p.cfsB.quota }
    if (q.rq c).throttled then q.unthrottleCfsRq c else q
  else p

/-- `init_cfs_bandwidth` and `init_cfs_rq_runtime`. -/
def boot : Pool C := ⟨{}, fun _ => {}, none, none⟩

end Pool

inductive PoolOp (C : Type*) where
  /-- from `update_curr`, and with 0 from `set_curr_task_fair` -/
  | account (c : C) (deltaExec clock now : Nat)
  | checkEnqueueThrottle (c : C) (clock now : Nat)
  | checkCfsRqRuntime (c : C)
  | returnCfsRqRuntime (c : C)
  | startPeriodTimer (now : Nat)
  | periodVisit (c : C)
  | endPeriodTimer
  | startSlackTimer (soon : Bool)
  | slackVisit (c : C)
  | endSlackTimer
  | setCfsBandwidth (period quota now : Nat)
  | resetRq (c : C)
  | unthrottleOffline (c : C)

/-- A timer that is not at the point in question does nothing; it visits queues
as long as it has something to give. -/
def Pool.step (cfg : Params) (p : Pool C) : PoolOp C → Pool C
  | .account c deltaExec clock now => p.accountCfsRqRuntime cfg c deltaExec clock now
  | .checkEnqueueThrottle c clock now => p.checkEnqueueThrottle cfg c clock now
  | .checkCfsRqRuntime c => p.checkCfsRqRuntime c
  | .returnCfsRqRuntime c => p.returnCfsRqRuntime c
  | .startPeriodTimer now => if p.periodTimer.isSome then p else p.startPeriodTimer now
  | .periodVisit c =>
    match p.periodTimer with
    | none => p
    | some d =>
      if d.remaining = 0 then p
      else { (p.visit c d).1 with periodTimer := some ⟨(p.visit c d).2, d.expires⟩ }
  | .endPeriodTimer =>
    match p.periodTimer with
    | none => p
    | some d => p.endPeriodTimer d
  | .startSlackTimer soon => if p.slackTimer.isSome then p else p.startSlackTimer cfg soon
  | .slackVisit c =>
    match p.slackTimer with
    | none => p
    | some d =>
      if d.remaining = 0 then p
      else { (p.visit c d).1 with slackTimer := some ⟨(p.visit c d).2, d.expires⟩ }
  | .endSlackTimer =>
    match p.slackTimer with
    | none => p
    | some d => p.endSlackTimer d
  | .setCfsBandwidth period quota now => p.setCfsBandwidth period quota now
  | .resetRq c => p.resetRq c
  | .unthrottleOffline c => p.unthrottleOfflineCfsRq c

end BigLittle.Bandwidth
