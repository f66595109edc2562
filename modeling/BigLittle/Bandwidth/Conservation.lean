import BigLittle.Bandwidth.Pool

/-!
# Where the runtime of a period goes

The books record next to the pool what the local queues were handed since the last
refill and what they have returned. Runtime moves between the pool, the two timers and
the queues; a refill opens new books with the quota.

Both timers take the pool with them when they drop its lock, and write the rest back
over whatever is there by then. What a queue has returned in between is lost; and a
slack timer that is overtaken by a refill still hands out runtime of the period before.
-/

namespace BigLittle.Bandwidth

variable {C : Type*} {cfg : Params} {p q : Pool C} {c : C}

/-- What a step moves: whether the pool was refilled, then what went to the local
queues and what came back. -/
structure Flow where
  refill : Bool := false
  handed : Nat := 0
  returned : Nat := 0

/-- Whether `assign_cfs_rq_runtime` refreshes the pool. -/
def CfsBandwidth.refills (b : CfsBandwidth C) : Bool :=
  decide (b.quota ≠ runtimeInf) && !b.timerActive

namespace Pool

variable (cfg p c)

/-- What the timers hold. -/
def held : Nat := p.periodTimer.elim 0 Distribution.remaining + p.slackTimer.elim 0 Distribution.remaining

def assignFlow (now : Nat) : Flow :=
  { refill := p.cfsB.refills
    handed := (p.cfsB.activate now).amount ((p.rq c).minAmount cfg) }

def accountFlow [DecidableEq C] (deltaExec clock now : Nat) : Flow :=
  if (p.rq c).runtimeEnabled then
    let p := p.dockCfsRqRuntime cfg c deltaExec clock
    if 0 < (p.rq c).runtimeRemaining then {} else p.assignFlow cfg c now
  else {}

def returnFlow : Flow :=
  if (p.rq c).runtimeEnabled = true ∧ 0 < (p.rq c).slack ∧ p.takesBack c then
    { returned := (p.rq c).slack.toNat }
  else {}

def startPeriodFlow : Flow :=
  { refill := decide (p.cfsB.quota ≠ runtimeInf) &&
      !(p.cfsB.idle && p.cfsB.throttledCfsRq.isEmpty) }

def visitFlow (timer : Option Distribution) : Flow :=
  match timer with
  | none => {}
  | some d =>
    if d.remaining ≠ 0 ∧ (p.rq c).throttled = true then
      { handed := (p.rq c).payment d.remaining }
    else {}

variable {cfg p c}

/-- The group is limited; while the period timer distributes the pool is active,
and while the slack timer does the pool is that of the same period. -/
structure Running (p : Pool C) : Prop where
  quota : p.cfsB.quota ≠ runtimeInf
  period : p.periodTimer.isSome = true → p.cfsB.timerActive = true
  slack : ∀ d ∈ p.slackTimer, d.expires = p.cfsB.runtimeExpires

/-- What a step that moves `flow` does to the pool and the timers. -/
structure Moves (flow : Flow) (p q : Pool C) : Prop where
  running : q.Running
  quota : q.cfsB.quota = p.cfsB.quota
  total : q.cfsB.runtime + q.held + flow.handed =
    (if flow.refill then p.cfsB.quota else p.cfsB.runtime + p.held) + flow.returned

/-- Nothing moves if neither the pool nor the timers change. -/
lemma Running.still (hp : p.Running) (hquota : q.cfsB.quota = p.cfsB.quota)
    (hruntime : q.cfsB.runtime = p.cfsB.runtime) (hexpires : q.cfsB.runtimeExpires = p.cfsB.runtimeExpires)
    (hactive : p.cfsB.timerActive = true → q.cfsB.timerActive = true) (hperiod : q.periodTimer = p.periodTimer)
    (hslack : q.slackTimer = p.slackTimer) : Moves {} p q where
  running := by
    refine ⟨hquota ▸ hp.quota, fun h => hactive (hp.period (hperiod ▸ h)), ?_⟩
    rw [hslack, hexpires]
    exact hp.slack
  quota := hquota
  total := by simp [hruntime, held, hperiod, hslack]

lemma Running.refl (hp : p.Running) : Moves {} p p := hp.still rfl rfl rfl id rfl rfl

lemma Moves.trans_still {flow : Flow} {r : Pool C} (h : Moves flow p q) (hr : Moves {} q r) : Moves flow p r where
  running := hr.running
  quota := hr.quota.trans h.quota
  total := by
    have htotal := hr.total
    have hfirst := h.total
    simp only [Bool.false_eq_true, if_false] at htotal
    omega

variable (hp : p.Running)
include hp

/-- A pool that can be refilled is not being distributed by the period timer. -/
lemma Running.period_none (h : p.cfsB.refills = true) : p.periodTimer = none := by
  rw [← Option.not_isSome_iff_eq_none]
  intro hsome
  simp [CfsBandwidth.refills, hp.period hsome] at h

lemma Running.startPeriodTimer (hidle : p.periodTimer = none) {now : Nat}
    (hslack : p.startPeriodFlow.refill = true → p.slackTimer = none) :
    Moves p.startPeriodFlow p (p.startPeriodTimer now) := by
  have hquota := hp.quota
  rw [startPeriodFlow] at hslack ⊢
  rw [Pool.startPeriodTimer]
  cases hskip : p.cfsB.idle && p.cfsB.throttledCfsRq.isEmpty with
  | true =>
    have hthen : p.cfsB.quota = runtimeInf ∨ (p.cfsB.idle && !!p.cfsB.throttledCfsRq.isEmpty) = true := by simp [hskip]
    rw [if_pos hthen]
    exact ⟨⟨hp.quota, by simp [hidle], hp.slack⟩, rfl, by simp [held]⟩
  | false =>
    have hnone : p.slackTimer = none := hslack (by simp [hskip, hquota])
    have helse : ¬(p.cfsB.quota = runtimeInf ∨
        (p.cfsB.idle && !!p.cfsB.throttledCfsRq.isEmpty) = true) := by simp [hskip, hquota]
    rw [if_neg helse]
    dsimp only
    rw [CfsBandwidth.refillCfsBandwidthRuntime, if_neg hquota]
    split
    next => exact ⟨⟨hquota, fun _ => rfl, by simp [hnone]⟩, rfl, by simp [held, hnone, hquota]⟩
    next =>
      exact ⟨⟨hquota, fun _ => rfl, by simp [hnone]⟩, rfl, by simp [held, hnone, hidle, hquota]⟩

/-- A timer that writes back what it has left finds the pool empty. -/
lemma Running.endPeriodTimer {d : Distribution} (htimer : p.periodTimer = some d)
    (hpool : p.cfsB.runtime = 0 ∨ p.cfsB.throttledCfsRq ≠ [] ∧ 0 < d.remaining) : Moves {} p (p.endPeriodTimer d) := by
  rw [Pool.endPeriodTimer]
  split
  next => exact hp.refl
  next hdone =>
    have hempty := hpool.resolve_right hdone
    exact ⟨⟨hp.quota, by simp, hp.slack⟩, rfl, by simp [held, htimer, hempty]⟩

lemma Running.startSlackTimer (hidle : p.slackTimer = none) (soon : Bool) :
    Moves {} p (p.startSlackTimer cfg soon) := by
  rw [Pool.startSlackTimer]
  split
  · exact hp.refl
  · split
    · refine ⟨⟨hp.quota, hp.period, by simp⟩, rfl, ?_⟩
      simp [held, hidle, Nat.add_comm]
    · exact hp.refl

lemma Running.endSlackTimer {d : Distribution} (htimer : p.slackTimer = some d)
    (hempty : p.cfsB.runtime = 0) : Moves {} p (p.endSlackTimer d) := by
  have hexpires : d.expires = p.cfsB.runtimeExpires := hp.slack d (by simp [htimer])
  rw [Pool.endSlackTimer, if_pos hexpires]
  exact ⟨⟨hp.quota, hp.period, by simp⟩, rfl, by simp [held, htimer, hempty, Nat.add_comm]⟩

end Pool

namespace CfsBandwidth

variable {b : CfsBandwidth C}

lemma activate_runtime (hquota : b.quota ≠ runtimeInf) (now : Nat) :
    (b.activate now).runtime = if b.refills then b.quota else b.runtime := by
  rw [activate, refills]
  cases hactive : b.timerActive with
  | true => simp
  | false => simp [hquota, startCfsBandwidth, refillCfsBandwidthRuntime]

lemma activate_quota (b : CfsBandwidth C) (now : Nat) : (b.activate now).quota = b.quota := by
  rw [activate]
  split
  · rfl
  · rw [startCfsBandwidth, refillCfsBandwidthRuntime]
    split <;> rfl

lemma activate_timerActive (hquota : b.quota ≠ runtimeInf) (now : Nat) : (b.activate now).timerActive = true := by
  rw [activate]
  cases hactive : b.timerActive with
  | true => simp [hactive]
  | false => simp [hquota, startCfsBandwidth]

lemma activate_of_not_refills (hquota : b.quota ≠ runtimeInf) (h : b.refills = false)
    (now : Nat) : b.activate now = b := by
  rw [activate, if_pos]
  right
  simpa [refills, hquota] using h

lemma draw_runtime (hquota : b.quota ≠ runtimeInf) (minAmount : Nat) :
    (b.draw minAmount).runtime + b.amount minAmount = b.runtime := by
  rw [draw, amount, if_neg hquota]
  split
  next h => simp [h.resolve_left hquota]
  next => exact Nat.sub_add_cancel (Nat.min_le_left _ _)

/-- A draw changes nothing but the amount and the idle flag. -/
lemma draw_keeps (b : CfsBandwidth C) (minAmount : Nat) : (b.draw minAmount).quota = b.quota ∧
    (b.draw minAmount).runtimeExpires = b.runtimeExpires ∧ (b.draw minAmount).timerActive = b.timerActive := by
  rw [draw]
  split
  · exact ⟨rfl, rfl, rfl⟩
  · exact ⟨rfl, rfl, rfl⟩

end CfsBandwidth

structure Books (C : Type*) where
  pool : Pool C
  handed : Nat
  returned : Nat

/-- What is in the pool or being distributed and what the queues got less what they
returned make up the quota, so that they never have more than that. -/
def Books.Conserved (k : Books C) : Prop :=
  k.pool.cfsB.runtime + k.pool.held + k.handed = k.pool.cfsB.quota + k.returned ∧
    (k.handed : Int) - k.returned ≤ k.pool.cfsB.quota

/-- The first part of what is claimed of the books gives the second. -/
lemma Books.conserved_of_total {k : Books C}
    (h : k.pool.cfsB.runtime + k.pool.held + k.handed = k.pool.cfsB.quota + k.returned) :
    k.Conserved := ⟨h, by omega⟩

variable [DecidableEq C]

def PoolOp.flow (cfg : Params) (p : Pool C) : PoolOp C → Flow
  | .account c deltaExec clock now => p.accountFlow cfg c deltaExec clock now
  | .checkEnqueueThrottle c clock now =>
    if (p.rq c).runtimeEnabled = true ∧ (p.rq c).throttled = false then
      p.accountFlow cfg c 0 clock now
    else {}
  | .returnCfsRqRuntime c => p.returnFlow c
  | .startPeriodTimer _ => if p.periodTimer.isSome then {} else p.startPeriodFlow
  | .periodVisit c => p.visitFlow c p.periodTimer
  | .slackVisit c => p.visitFlow c p.slackTimer
  | _ => {}

def Books.step (cfg : Params) (k : Books C) (op : PoolOp C) : Books C :=
  let flow := op.flow cfg k.pool
  { pool := k.pool.step cfg op
    handed := (if flow.refill then 0 else k.handed) + flow.handed
    returned := (if flow.refill then 0 else k.returned) + flow.returned }

/-- The operations that move runtime. The others change the limit of the group or
take a CPU offline. -/
def PoolOp.isTransfer : PoolOp C → Bool
  | .setCfsBandwidth .. | .resetRq _ | .unthrottleOffline _ => false
  | _ => true

/-- The step neither writes over runtime that has come back, nor refills the pool
behind the slack timer. -/
def PoolOp.Conserves (cfg : Params) (p : Pool C) (op : PoolOp C) : Prop :=
  match op with
  | .returnCfsRqRuntime c => p.cfsB.runtime + (p.rq c).slack.toNat < 2 ^ 64
  | .endPeriodTimer =>
    p.periodTimer.isSome = true → p.cfsB.runtime = 0 ∨
      p.cfsB.throttledCfsRq ≠ [] ∧ 0 < p.periodTimer.elim 0 Distribution.remaining
  | .endSlackTimer => p.slackTimer.isSome = true → p.cfsB.runtime = 0
  | op => (op.flow cfg p).refill = true → p.slackTimer.isNone = true

instance (cfg : Params) (p : Pool C) (op : PoolOp C) : Decidable (op.Conserves cfg p) := by
  cases op <;> dsimp only [PoolOp.Conserves] <;> infer_instance

namespace Pool

@[simp] lemma modifyRq_cfsB (p : Pool C) (c : C) (f : LocalRq → LocalRq) : (p.modifyRq c f).cfsB = p.cfsB := rfl

lemma Running.modifyRq (hp : p.Running) (c : C) (f : LocalRq → LocalRq) :
    (p.modifyRq c f).Running := ⟨hp.quota, hp.period, hp.slack⟩

lemma Moves.of_modifyRq {flow : Flow} {f : LocalRq → LocalRq}
    (h : Moves flow (p.modifyRq c f) q) : Moves flow p q := ⟨h.running, h.quota, h.total⟩

lemma Running.throttle (hp : p.Running) (c : C) : Moves {} p (p.throttleCfsRq c) :=
  hp.still rfl rfl rfl (fun _ => rfl) rfl rfl

/-- A visit takes from the timer what the queue is handed. -/
lemma visit_remaining (p : Pool C) (c : C) {d : Distribution} (hd : d.remaining ≠ 0) :
    (p.visit c d).2 + (p.visitFlow c (some d)).handed = d.remaining ∧ (p.visitFlow c (some d)).refill = false ∧
    (p.visitFlow c (some d)).returned = 0 := by
  rw [Pool.visit, visitFlow]
  cases hthrottled : (p.rq c).throttled with
  | true =>
    have hle : (p.rq c).payment d.remaining ≤ d.remaining := Nat.min_le_right _ _
    simp [hd, Nat.sub_add_cancel hle]
  | false => simp

variable (hp : p.Running)
include hp

lemma Running.assign (hslack : p.cfsB.refills = true → p.slackTimer = none) (c : C) (now : Nat) :
    Moves (p.assignFlow cfg c now) p (p.assignCfsRqRuntime cfg c now) := by
  obtain ⟨b, hb⟩ : ∃ b, p.cfsB.activate now = b := ⟨_, rfl⟩
  obtain ⟨minAmount, hmin⟩ : ∃ m, (p.rq c).minAmount cfg = m := ⟨_, rfl⟩
  have hpool : (p.assignCfsRqRuntime cfg c now).cfsB = b.draw minAmount := by
    simp [assignCfsRqRuntime, hb, hmin]
  have hquota : b.quota = p.cfsB.quota := hb ▸ CfsBandwidth.activate_quota _ _
  have hruntime := CfsBandwidth.activate_runtime hp.quota now
  have hactive := CfsBandwidth.activate_timerActive hp.quota now
  have hdraw := CfsBandwidth.draw_runtime (hquota ▸ hp.quota) minAmount
  obtain ⟨hdquota, hdexpires, hdactive⟩ := b.draw_keeps minAmount
  rw [hb] at hruntime hactive
  refine ⟨⟨?_, fun _ => ?_, fun d hd => ?_⟩, ?_, ?_⟩
  · rw [hpool, hdquota, hquota]
    exact hp.quota
  · rw [hpool, hdactive, hactive]
  · have hd' : d ∈ p.slackTimer := hd
    cases hrefills : p.cfsB.refills with
    | true => simp [hslack hrefills] at hd'
    | false =>
      rw [hpool, hdexpires, ← hb, CfsBandwidth.activate_of_not_refills hp.quota hrefills]
      exact hp.slack d hd'
  · rw [hpool, hdquota, hquota]
  · have hheld : (p.assignCfsRqRuntime cfg c now).held = p.held := rfl
    rw [hpool, hheld, assignFlow, hb, hmin]
    dsimp only
    cases hrefills : p.cfsB.refills with
    | true =>
      -- both timers are idle, so that the quota is all there is
      have hempty : p.held = 0 := by simp [held, hslack hrefills, hp.period_none hrefills]
      rw [hrefills, if_pos rfl] at hruntime
      rw [if_pos rfl]
      omega
    | false =>
      rw [hrefills, if_neg Bool.false_ne_true] at hruntime
      rw [if_neg Bool.false_ne_true]
      omega

lemma Running.account {deltaExec clock now : Nat}
    (hslack : (p.accountFlow cfg c deltaExec clock now).refill = true → p.slackTimer = none) :
    Moves (p.accountFlow cfg c deltaExec clock now) p (p.accountCfsRqRuntime cfg c deltaExec clock now) := by
  rw [accountFlow] at hslack ⊢
  rw [accountCfsRqRuntime]
  have hdocked : (p.dockCfsRqRuntime cfg c deltaExec clock).Running := hp.modifyRq c _
  split
  next henabled =>
    rw [if_pos henabled] at hslack
    dsimp only at hslack ⊢
    split
    next => exact hdocked.refl.of_modifyRq
    next hempty =>
      rw [if_neg hempty] at hslack
      exact (hdocked.assign hslack c now).of_modifyRq
  next => exact hp.refl

lemma Running.checkEnqueueThrottle {clock now : Nat}
    (hslack : ((PoolOp.checkEnqueueThrottle c clock now).flow cfg p).refill = true → p.slackTimer = none) :
    Moves ((PoolOp.checkEnqueueThrottle c clock now).flow cfg p) p (p.checkEnqueueThrottle cfg c clock now) := by
  rw [PoolOp.flow] at hslack ⊢
  rw [Pool.checkEnqueueThrottle]
  split
  next hguard =>
    rw [if_pos hguard] at hslack
    have haccounted := hp.account hslack
    dsimp only
    split
    next => exact haccounted.trans_still (haccounted.running.throttle c)
    next => exact haccounted
  next => exact hp.refl

lemma Running.return (hrange : p.cfsB.runtime + (p.rq c).slack.toNat < 2 ^ 64) :
    Moves (p.returnFlow c) p (p.returnCfsRqRuntime c) := by
  have hheld : (p.returnCfsRqRuntime c).held = p.held := by
    rw [returnCfsRqRuntime]
    split
    · rfl
    · rfl
  rw [returnFlow]
  by_cases hguard : (p.rq c).runtimeEnabled = true ∧ 0 < (p.rq c).slack
  · have hpool : (p.returnCfsRqRuntime c).cfsB = { p.cfsB with
        runtime := if p.takesBack c then Word.add 64 p.cfsB.runtime (p.rq c).slack.toNat
          else p.cfsB.runtime } := by
      rw [returnCfsRqRuntime, if_pos hguard]
      rfl
    refine ⟨?_, by rw [hpool], ?_⟩
    · rw [returnCfsRqRuntime, if_pos hguard]
      exact ⟨hp.quota, hp.period, hp.slack⟩
    · rw [hpool, hheld]
      cases htakes : p.takesBack c with
      | true =>
        simp [hguard, Word.add_of_lt hrange]
        omega
      | false => simp
  · rw [if_neg fun h => hguard ⟨h.1, h.2.1⟩, returnCfsRqRuntime, if_neg hguard]
    exact hp.refl

/-- A visit leaves the amounts of the pool and the timers alone. -/
lemma Running.visit (c : C) (d : Distribution) : Moves {} p (p.visit c d).1 ∧
    (p.visit c d).1.periodTimer = p.periodTimer ∧ (p.visit c d).1.slackTimer = p.slackTimer := by
  rw [Pool.visit]
  split
  · dsimp only
    split
    · exact ⟨hp.still rfl rfl rfl id rfl rfl, rfl, rfl⟩
    · exact ⟨hp.still rfl rfl rfl id rfl rfl, rfl, rfl⟩
  · exact ⟨hp.refl, rfl, rfl⟩

/-- The timer that made the visit is left with the rest. -/
lemma Running.moves_of_visit {d : Distribution} (hd : d.remaining ≠ 0)
    (hcfsB : q.cfsB = (p.visit c d).1.cfsB) (hrunning : q.Running)
    (hheld : q.held + d.remaining = p.held + (p.visit c d).2) : Moves (p.visitFlow c (some d)) p q := by
  obtain ⟨hvisit, hperiod, hslack⟩ := hp.visit c d
  obtain ⟨hremaining, hrefill, hreturned⟩ := p.visit_remaining c hd
  refine ⟨hrunning, by rw [hcfsB, hvisit.quota], ?_⟩
  have htotal := hvisit.total
  simp only [held, hperiod, hslack, Bool.false_eq_true, if_false] at htotal
  rw [hcfsB, hrefill, hreturned, if_neg Bool.false_ne_true]
  omega

lemma Running.periodVisit (c : C) : Moves (p.visitFlow c p.periodTimer) p (p.step cfg (.periodVisit c)) := by
  rw [step]
  cases htimer : p.periodTimer with
  | none => exact hp.refl
  | some d =>
    dsimp only
    split
    next hzero => simpa [visitFlow, hzero] using hp.refl
    next hd =>
      obtain ⟨⟨hrunning, -, -⟩, hperiod, hslack⟩ := hp.visit c d
      refine hp.moves_of_visit hd rfl ⟨hrunning.quota, fun _ => ?_, hrunning.slack⟩ ?_
      · exact hrunning.period (by rw [hperiod, htimer]; rfl)
      · simp only [held, hslack, htimer, Option.elim_some]
        omega

lemma Running.slackVisit (c : C) : Moves (p.visitFlow c p.slackTimer) p (p.step cfg (.slackVisit c)) := by
  rw [step]
  cases htimer : p.slackTimer with
  | none => exact hp.refl
  | some d =>
    dsimp only
    split
    next hzero => simpa [visitFlow, hzero] using hp.refl
    next hd =>
      obtain ⟨⟨hrunning, -, -⟩, hperiod, hslack⟩ := hp.visit c d
      refine hp.moves_of_visit hd rfl ⟨hrunning.quota, hrunning.period, ?_⟩ ?_
      · rintro _ ⟨⟩
        exact hrunning.slack d (by rw [hslack, htimer]; rfl)
      · simp only [held, hperiod, htimer, Option.elim_some]
        omega

lemma Running.step {op : PoolOp C} (htransfer : op.isTransfer = true)
    (hop : op.Conserves cfg p) : Moves (op.flow cfg p) p (p.step cfg op) := by
  cases op with
  | account c deltaExec clock now => exact hp.account fun h => by simpa using hop h
  | checkEnqueueThrottle c clock now =>
    exact hp.checkEnqueueThrottle fun h => by simpa using hop h
  | checkCfsRqRuntime c =>
    rw [Pool.step, checkCfsRqRuntime]
    split
    · exact hp.throttle c
    · exact hp.refl
  | returnCfsRqRuntime c => exact hp.return hop
  | startPeriodTimer now =>
    rw [PoolOp.Conserves] at hop
    · rw [PoolOp.flow] at hop ⊢
      rw [Pool.step]
      cases htimer : p.periodTimer with
      | none =>
        simp only [htimer, Option.isSome_none, Bool.false_eq_true, if_false] at hop ⊢
        exact hp.startPeriodTimer htimer fun h => by simpa using hop h
      | some d => exact hp.refl
    all_goals simp
  | periodVisit c => exact hp.periodVisit c
  | endPeriodTimer =>
    rw [Pool.step]
    cases htimer : p.periodTimer with
    | none => exact hp.refl
    | some d => exact hp.endPeriodTimer htimer (by simpa [PoolOp.Conserves, htimer] using hop)
  | startSlackTimer soon =>
    rw [Pool.step]
    cases htimer : p.slackTimer with
    | none => exact hp.startSlackTimer htimer soon
    | some d => exact hp.refl
  | slackVisit c => exact hp.slackVisit c
  | endSlackTimer =>
    rw [Pool.step]
    cases htimer : p.slackTimer with
    | none => exact hp.refl
    | some d => exact hp.endSlackTimer htimer (hop (by simp [htimer]))
  | setCfsBandwidth period quota now | resetRq c | unthrottleOffline c =>
    exact absurd htransfer Bool.false_ne_true

end Pool

lemma Books.conserved_step {k : Books C} {op : PoolOp C}
    (hk : k.pool.Running ∧ k.Conserved) (htransfer : op.isTransfer = true)
    (hop : op.Conserves cfg k.pool) : (k.step cfg op).pool.Running ∧ (k.step cfg op).Conserved := by
  have hmoves := hk.1.step htransfer hop
  have htotal := hmoves.total
  have hbefore := hk.2.1
  refine ⟨hmoves.running, conserved_of_total ?_⟩
  rw [Books.step]
  dsimp only
  rw [hmoves.quota]
  split
  next hrefill =>
    rw [if_pos hrefill] at htotal
    omega
  next hrefill =>
    rw [if_neg hrefill] at htotal
    omega

/-- From a pool that was just refilled, with both timers idle. -/
theorem runtime_conserved (cfg : Params) (p : Pool C) (hquota : p.cfsB.quota ≠ runtimeInf)
    (hfull : p.cfsB.runtime = p.cfsB.quota) (hperiod : p.periodTimer = none) (hslack : p.slackTimer = none)
    (run : List (PoolOp C)) (htransfers : ∀ op ∈ run, op.isTransfer = true)
    (hrun : Run.Each (Books.step cfg) (fun k op => op.Conserves cfg k.pool) ⟨p, 0, 0⟩ run) :
    Run.Always (Books.step cfg) Books.Conserved ⟨p, 0, 0⟩ run := by
  have hstart : p.Running := ⟨hquota, by simp [hperiod], by simp [hslack]⟩
  have hopen : Books.Conserved ⟨p, 0, 0⟩ :=
    Books.conserved_of_total (by simp [Pool.held, hperiod, hslack, hfull])
  have hkeeps : Run.Always (Books.step cfg) (fun k => k.pool.Running ∧ k.Conserved) ⟨p, 0, 0⟩ run :=
    Run.always_of_each (fun k op hk hop => Books.conserved_step hk hop.1 hop.2) ⟨hstart, hopen⟩
      ((Run.each_of_mem htransfers).and hrun)
  exact hkeeps.mono fun k hk => hk.2

section Example

/-- A slice of 5 ms and a tick of 10 ms. -/
def defaultParams : Params := ⟨5000000, 10000000⟩

/-- A group with 15 ms on four CPUs, just refilled. -/
def fullPool : Pool (Fin 4) where
  cfsB := { quota := 15000000, runtime := 15000000, runtimeExpires := 100000000, timerActive := true }
  rq := fun _ => { runtimeEnabled := true }
  periodTimer := none
  slackTimer := none

/-- Three queues draw a slice each and the fourth is throttled. Two of the first
return 4 ms each, which the slack timer takes. -/
def slackTaken : List (PoolOp (Fin 4)) :=
  [.account 0 0 0 0, .account 1 0 0 0, .account 2 0 0 0, .checkEnqueueThrottle 3 0 0,
    .returnCfsRqRuntime 0, .returnCfsRqRuntime 1, .startSlackTimer false]

theorem runtime_conserved_slack_taken : Run.Always (Books.step defaultParams) Books.Conserved ⟨fullPool, 0, 0⟩
      (slackTaken ++ [.slackVisit 3, .endSlackTimer]) :=
  runtime_conserved defaultParams fullPool (by decide) rfl rfl rfl _ (by decide) (by decide +kernel)

/-- The third queue returns its 4 ms while the slack timer distributes: they are
gone when it writes back. And if the period timer refills the pool meanwhile, the
queue that is paid from the slack of the old period gets its nanosecond on top of
the new quota. -/
theorem runtime_not_conserved :
    let lost := (slackTaken ++ [PoolOp.slackVisit 3, .returnCfsRqRuntime 2, .endSlackTimer]).foldl
      (Books.step defaultParams) ⟨fullPool, 0, 0⟩
    let overtaken := (slackTaken ++ [PoolOp.startPeriodTimer 100000000, .slackVisit 3,
      .endPeriodTimer, .account 0 1000000 1 1, .account 1 1000000 1 1,
      .account 2 5000000 1 1]).foldl (Books.step defaultParams) ⟨fullPool, 0, 0⟩
    lost.pool.cfsB.runtime + lost.pool.held + lost.handed + 4000000 = lost.pool.cfsB.quota + lost.returned ∧
      overtaken.returned = 0 ∧ overtaken.handed = overtaken.pool.cfsB.quota + 1 := by
  decide +kernel

end Example

end BigLittle.Bandwidth
