import BigLittle.Bandwidth.Pool

/-!
# Paying the debts of throttled queues

`distribute_cfs_runtime` takes for granted that a throttled queue has no runtime:
it pays the deficit and one nanosecond more, computed without a sign. A queue is
throttled only when it is out of runtime, and nothing gives it any before it is
unthrottled, except for `account_cfs_rq_runtime`, which tops up whatever queue it
is called for. `set_curr_task_fair` calls it for every queue above a task that is
made current, throttled or not.
-/

namespace BigLittle.Bandwidth

open Waterfall (left left_le paid paid_cons_of_ne)

variable {C : Type*} [DecidableEq C]

/-- A throttled queue is out of runtime, and the account is in range. -/
def LocalRq.Sound (r : LocalRq) : Prop :=
  (r.throttled = true → r.runtimeRemaining ≤ 0) ∧ Calc.Fits 64 r.runtimeRemaining

lemma fits_s64 (z : Int) : Calc.Fits 64 (s64 z) := Calc.fits_bmod 64 z

lemma fits_zero : Calc.Fits 64 0 := by decide

lemma s64_of_fits {z : Int} (h : Calc.Fits 64 z) : s64 z = z := Calc.bmod_of_fits h

namespace LocalRq

variable {r : LocalRq}

/-- What is missing, and one nanosecond to run. -/
def need (r : LocalRq) : Nat := (-r.runtimeRemaining).toNat + 1

lemma sound_of_not_throttled (h : r.throttled = false) (hfits : Calc.Fits 64 r.runtimeRemaining) :
    r.Sound := ⟨by simp [h], hfits⟩

lemma expire_throttled (cfg : Params) (r : LocalRq) (globalExpires clock : Nat) :
    (r.expireCfsRqRuntime cfg globalExpires clock).throttled = r.throttled := by
  rw [expireCfsRqRuntime]
  repeat' split
  all_goals rfl

lemma expire_fits (cfg : Params) (h : Calc.Fits 64 r.runtimeRemaining) (globalExpires clock : Nat) :
    Calc.Fits 64 (r.expireCfsRqRuntime cfg globalExpires clock).runtimeRemaining := by
  rw [expireCfsRqRuntime]
  have hzero := fits_zero
  repeat' split
  all_goals assumption

/-- A queue in debt is paid its need or all that is left. -/
lemma payment_eq (hr : r.runtimeRemaining ≤ 0) (hfits : Calc.Fits 64 r.runtimeRemaining)
    (remaining : Nat) : r.payment remaining = min r.need remaining := by
  have hlow := hfits.1
  rw [payment, need, Word.ofInt, Int.emod_eq_of_lt (by omega) (by omega)]
  omega

lemma pay_runtimeRemaining (hr : r.runtimeRemaining ≤ 0) (hfits : Calc.Fits 64 r.runtimeRemaining)
    (remaining expires : Nat) : (r.pay remaining expires).runtimeRemaining = r.runtimeRemaining +
    (min r.need remaining : Nat) := by
  have hlow := hfits.1
  have hneed : r.need = (-r.runtimeRemaining).toNat + 1 := rfl
  dsimp only [pay]
  rw [payment_eq hr hfits]
  exact s64_of_fits ⟨by omega, by omega⟩

end LocalRq

namespace Pool

variable {cfg : Params} {p : Pool C} {c : C}

@[simp] lemma modifyRq_rq_self (p : Pool C) (c : C) (f : LocalRq → LocalRq) :
    (p.modifyRq c f).rq c = f (p.rq c) := Function.update_self _ _ _

lemma modifyRq_rq_of_ne (f : LocalRq → LocalRq) {e : C} (h : e ≠ c) :
    (p.modifyRq c f).rq e = p.rq e := Function.update_of_ne h _ _

def Sound (p : Pool C) : Prop := ∀ c, (p.rq c).Sound

/-- An operation on one queue. -/
lemma sound_of_update {q : Pool C} {r : LocalRq} (hp : ∀ e, e ≠ c → (p.rq e).Sound)
    (hq : q.rq = Function.update p.rq c r) (hr : r.Sound) : q.Sound := by
  intro e
  rw [hq]
  by_cases he : e = c
  · simpa [he] using hr
  · simpa [he] using hp e he

section Steps

variable (hp : p.Sound)
include hp

lemma Sound.assign (hrun : (p.rq c).throttled = false) (now : Nat) : (p.assignCfsRqRuntime cfg c now).Sound :=
  sound_of_update (fun e _ => hp e) rfl (LocalRq.sound_of_not_throttled hrun (fits_s64 _))

lemma Sound.account (cfg : Params) (hrun : (p.rq c).throttled = false) (deltaExec clock now : Nat) :
    (p.accountCfsRqRuntime cfg c deltaExec clock now).Sound := by
  rw [accountCfsRqRuntime]
  split
  · -- the time is docked and expired first, then a slice may be assigned
    let r := { p.rq c with
      runtimeRemaining := s64 ((p.rq c).runtimeRemaining - deltaExec) }.expireCfsRqRuntime cfg
        p.cfsB.runtimeExpires clock
    have hrun' : r.throttled = false := by simpa [r, LocalRq.expire_throttled] using hrun
    have hdocked : ({ p with rq := Function.update p.rq c r } : Pool C).Sound :=
      sound_of_update (fun e _ => hp e) rfl
        (LocalRq.sound_of_not_throttled hrun' (LocalRq.expire_fits cfg (fits_s64 _) _ _))
    dsimp only
    split
    · exact hdocked
    · exact hdocked.assign (by simpa using hrun') now
  · exact hp

lemma Sound.throttle (hr : (p.rq c).runtimeRemaining ≤ 0) : (p.throttleCfsRq c).Sound :=
  sound_of_update (fun e _ => hp e) rfl ⟨fun _ => hr, (hp c).2⟩

/-- An unthrottled queue may have any amount of runtime. -/
lemma Sound.modify_unthrottle {f : LocalRq → LocalRq} (hfits : Calc.Fits 64 (f (p.rq c)).runtimeRemaining) :
    ((p.modifyRq c f).unthrottleCfsRq c).Sound := by
  refine sound_of_update (p := p.modifyRq c f) (fun e he => ?_) rfl
    (LocalRq.sound_of_not_throttled rfl (by simpa using hfits))
  rw [modifyRq_rq_of_ne f he]
  exact hp e

lemma Sound.visit (c : C) (d : Distribution) : (p.visit c d).1.Sound := by
  rw [Pool.visit]
  split
  · dsimp only
    split
    · exact hp.modify_unthrottle (fits_s64 _)
    next hnot =>
      refine sound_of_update (fun e _ => hp e) rfl ⟨fun _ => ?_, fits_s64 _⟩
      simpa using hnot
  · exact hp

lemma Sound.resetRq (c : C) : (p.resetRq c).Sound := by
  rw [Pool.resetRq]
  split
  · exact hp.modify_unthrottle fits_zero
  · exact sound_of_update (fun e _ => hp e) rfl ⟨fun _ => Int.le_refl 0, fits_zero⟩

lemma Sound.unthrottleOffline (c : C) : (p.unthrottleOfflineCfsRq c).Sound := by
  rw [unthrottleOfflineCfsRq]
  split
  · dsimp only
    split
    · refine hp.modify_unthrottle ?_
      dsimp only
      exact fits_s64 _
    next hrun =>
      refine sound_of_update (fun e _ => hp e) rfl (LocalRq.sound_of_not_throttled ?_ ?_)
      · simpa using hrun
      · dsimp only
        exact fits_s64 _
  · exact hp

lemma Sound.checkEnqueueThrottle (c : C) (clock now : Nat) : (p.checkEnqueueThrottle cfg c clock now).Sound := by
  rw [Pool.checkEnqueueThrottle]
  split
  next hguard =>
    have haccounted := hp.account cfg hguard.2 0 clock now
    dsimp only
    split
    next hr => exact haccounted.throttle hr
    next => exact haccounted
  next => exact hp

lemma Sound.returnCfsRqRuntime (hrange : Calc.Fits 64 ((p.rq c).runtimeRemaining - minCfsRqRuntime)) :
    (p.returnCfsRqRuntime c).Sound := by
  rw [Pool.returnCfsRqRuntime]
  split
  next hguard =>
    -- a queue with slack is not throttled
    have hslack : (p.rq c).slack = (p.rq c).runtimeRemaining - minCfsRqRuntime := s64_of_fits hrange
    have hrun : (p.rq c).throttled = false := by
      rw [← Bool.not_eq_true]
      intro hthrottled
      have hdebt := (hp c).1 hthrottled
      have hpos := hguard.2
      rw [hslack, minCfsRqRuntime] at hpos
      omega
    exact sound_of_update (fun e _ => hp e) rfl (LocalRq.sound_of_not_throttled hrun (fits_s64 _))
  next => exact hp

end Steps

end Pool

/-- `account_cfs_rq_runtime` is not called for a throttled queue, and a queue that
returns runtime is not in debt by 2⁶³ nanoseconds. -/
def PoolOp.SparesThrottled (p : Pool C) : PoolOp C → Prop
  | .account c _ _ _ => (p.rq c).throttled = false
  | .returnCfsRqRuntime c => Calc.Fits 64 ((p.rq c).runtimeRemaining - minCfsRqRuntime)
  | _ => True

instance (p : Pool C) (op : PoolOp C) : Decidable (op.SparesThrottled p) := by
  induction op using PoolOp.casesOn <;> dsimp only [PoolOp.SparesThrottled] <;> infer_instance

namespace Pool

variable {cfg : Params} {p : Pool C}

lemma Sound.step (hp : p.Sound) (op : PoolOp C) (hop : op.SparesThrottled p) : (p.step cfg op).Sound := by
  cases op with
  | account c deltaExec clock now => exact hp.account cfg hop deltaExec clock now
  | checkEnqueueThrottle c clock now => exact hp.checkEnqueueThrottle c clock now
  | checkCfsRqRuntime c =>
    rw [Pool.step, checkCfsRqRuntime]
    split
    next hguard => exact hp.throttle hguard.2.1
    next => exact hp
  | returnCfsRqRuntime c => exact hp.returnCfsRqRuntime hop
  | startPeriodTimer now =>
    rw [Pool.step, startPeriodTimer]
    repeat' split
    all_goals exact hp
  | periodVisit c | slackVisit c =>
    rw [Pool.step]
    repeat' split
    · exact hp
    · exact hp
    · exact hp.visit c _
  | endPeriodTimer =>
    rw [Pool.step]
    split
    · exact hp
    · rw [endPeriodTimer]
      split
      · exact hp
      · exact hp
  | startSlackTimer soon =>
    rw [Pool.step, startSlackTimer]
    repeat' split
    all_goals exact hp
  | endSlackTimer =>
    rw [Pool.step]
    split
    · exact hp
    · exact hp
  | setCfsBandwidth period quota now => exact hp
  | resetRq c => exact hp.resetRq c
  | unthrottleOffline c => exact hp.unthrottleOffline c

/-- Each of the queues gets the smaller of its deficit plus one and what is left,
and nothing is created or lost. -/
def DistributesExactly (p : Pool C) (queues : List C) (d : Distribution) : Prop :=
  let after := distributeCfsRuntime queues p d
  let given : C → Int := fun c =>
    (after.1.rq c).runtimeRemaining - (p.rq c).runtimeRemaining
  (∀ before c rest, queues = before ++ c :: rest →
    given c = min (-(p.rq c).runtimeRemaining + 1) (d.remaining - (before.map given).sum)) ∧
  (queues.map given).sum + after.2 = d.remaining ∧ after.2 ≤ d.remaining

section Distribute

variable {c : C} {d : Distribution}

lemma visit_of_throttled (hp : p.Sound) (hc : (p.rq c).throttled = true) :
    (p.visit c d).2 = d.remaining - min (p.rq c).need d.remaining ∧
    ((p.visit c d).1.rq c).runtimeRemaining = (p.rq c).runtimeRemaining + (min (p.rq c).need d.remaining : Nat) ∧
    ∀ e, e ≠ c → (p.visit c d).1.rq e = p.rq e := by
  have hdebt := (hp c).1 hc
  have hpay := LocalRq.pay_runtimeRemaining hdebt (hp c).2 d.remaining d.expires
  rw [visit, if_pos hc]
  refine ⟨by rw [LocalRq.payment_eq hdebt (hp c).2], ?_, fun e he => ?_⟩
  · dsimp only
    split
    · simpa [unthrottleCfsRq] using hpay
    · simpa using hpay
  · dsimp only
    split
    · rw [unthrottleCfsRq, modifyRq_rq_of_ne _ he]
      dsimp only
      exact modifyRq_rq_of_ne _ he
    · exact modifyRq_rq_of_ne _ he

/-- The loop pays the queues in order, as far as the amount goes. -/
lemma distribute_eq_waterfall {queues : List C} (hp : p.Sound)
    (hqueues : ∀ c ∈ queues, (p.rq c).throttled = true) (hnodup : queues.Nodup) :
    let need : C → Nat := fun c => (p.rq c).need
    (distributeCfsRuntime queues p d).2 = left need queues d.remaining ∧
    ∀ c, ((distributeCfsRuntime queues p d).1.rq c).runtimeRemaining =
      (p.rq c).runtimeRemaining + paid need queues d.remaining c := by
  induction queues generalizing p d with
  | nil => simp [distributeCfsRuntime, left, paid]
  | cons c rest ih =>
    rw [List.forall_mem_cons] at hqueues
    rw [List.nodup_cons] at hnodup
    obtain ⟨hleft, hself, hother⟩ := visit_of_throttled (d := d) hp hqueues.1
    have hrest : ∀ e ∈ rest, (p.visit c d).1.rq e = p.rq e := by
      intro e he
      exact hother e fun heq => hnodup.1 (heq ▸ he)
    intro need
    have hneed : ∀ e ∈ rest, ((p.visit c d).1.rq e).need = need e := by
      intro e he
      rw [hrest e he]
    -- the queue that was visited is not met again
    have hpaid : ((p.visit c d).1.rq c).runtimeRemaining = (p.rq c).runtimeRemaining +
        paid need (c :: rest) d.remaining c := by
      rw [hself, Waterfall.paid_cons_self]
    rw [distributeCfsRuntime, left]
    dsimp only
    rw [hleft]
    split
    next hzero =>
      rw [hzero, Waterfall.left_zero]
      refine ⟨rfl, fun e => ?_⟩
      by_cases he : e = c
      · rw [he, hpaid]
      · rw [hother e he, paid_cons_of_ne he, hzero, Waterfall.paid_zero]
        simp
    next =>
      obtain ⟨hleft', hpaid'⟩ := ih (d := ⟨d.remaining - min (p.rq c).need d.remaining, d.expires⟩)
        (hp.visit c d) (fun e he => by rw [hrest e he]; exact hqueues.2 e he) hnodup.2
      refine ⟨?_, fun e => ?_⟩
      · rw [hleft', Waterfall.left_congr hneed]
      · rw [hpaid', Waterfall.paid_congr hneed]
        by_cases he : e = c
        · rw [he, hpaid, Waterfall.paid_of_not_mem hnodup.1]
          simp
        · rw [hother e he, paid_cons_of_ne he]

lemma distributesExactly {queues : List C} (hp : p.Sound) (hqueues : ∀ c ∈ queues, (p.rq c).throttled = true)
    (hnodup : queues.Nodup) (d : Distribution) : p.DistributesExactly queues d := by
  obtain ⟨hleft, hpaid⟩ := distribute_eq_waterfall (d := d) hp hqueues hnodup
  have hgiven : ∀ c, ((distributeCfsRuntime queues p d).1.rq c).runtimeRemaining - (p.rq c).runtimeRemaining =
        (paid (fun c => (p.rq c).need) queues d.remaining c : Nat) := by
    intro c
    rw [hpaid c]
    omega
  have hsum : ∀ l : List C, (l.map fun c =>
      ((paid (fun c => (p.rq c).need) queues d.remaining c : Nat) : Int)).sum =
        ((l.map (paid (fun c => (p.rq c).need) queues d.remaining)).sum : Nat) := by
    intro l
    induction l with
    | nil => rfl
    | cons c rest ih => simp [ih]
  have htotal := Waterfall.sum_paid_add_left (fun c => (p.rq c).need) d.remaining hnodup
  rw [DistributesExactly]
  simp only [hgiven, hsum]
  refine ⟨?_, ?_, ?_⟩
  · rintro before c rest rfl
    have hpaid := Waterfall.paid_append (fun c => (p.rq c).need) d.remaining hnodup
    have hdebt := (hp c).1 (hqueues c (by simp))
    have hneed : (p.rq c).need = (-(p.rq c).runtimeRemaining).toNat + 1 := rfl
    rw [List.map_append, List.sum_append] at htotal
    omega
  · rw [hleft]
    exact_mod_cast htotal
  · rw [hleft]
    exact left_le _ _ _

end Distribute

end Pool

/-- As long as the accounting spares throttled queues, they are out of runtime, and
a distribution gives them what it is meant to. -/
theorem throttled_queues_in_debt (cfg : Params) (ops : List (PoolOp C))
    (hspares : Run.Each (Pool.step cfg) (fun p op => op.SparesThrottled p) Pool.boot ops) :
    Run.Always (Pool.step cfg) (fun p => (∀ c, (p.rq c).throttled = true → (p.rq c).runtimeRemaining ≤ 0) ∧
        ∀ queues d, (∀ c ∈ queues, (p.rq c).throttled = true) → queues.Nodup →
          p.DistributesExactly queues d) Pool.boot ops := by
  have hsound := Run.always_of_each (P := Pool.Sound) (fun p op hp => hp.step op)
    (fun _ => LocalRq.sound_of_not_throttled rfl fits_zero) hspares
  exact hsound.mono fun p hp => ⟨fun c => (hp c).1, fun queues d hqueues hnodup =>
    Pool.distributesExactly hp hqueues hnodup d⟩

/-- The operations of a group with a quota of 10 ms whose queue runs out of runtime
just before the period timer fires: the pool is full again when the queue is
throttled, and `set_curr_task_fair` draws a slice from it. -/
def topUpThrottled : List (PoolOp Unit) :=
  [.setCfsBandwidth 100000000 10000000 0, .resetRq (), .account () 0 0 0,
   .account () 5000000 1000000 1000000, .account () 5000001 2000000 2000000,
   .startPeriodTimer 3000000, .checkCfsRqRuntime (), .account () 0 3000000 3000000]

/-- The throttled queue has a slice of runtime, and a distribution gives it all
there is, although it is not in debt. -/
theorem throttled_queue_has_runtime :
    let p := topUpThrottled.foldl (Pool.step ⟨5000000, 1000000⟩) Pool.boot
    (p.rq ()).throttled = true ∧ 0 < (p.rq ()).runtimeRemaining ∧ ¬ p.DistributesExactly [()] ⟨7000000, 0⟩ := by
  intro p
  have hp : (p.rq ()).throttled = true ∧ (p.rq ()).runtimeRemaining = 5000000 := by decide +kernel
  have hgiven : ((Pool.distributeCfsRuntime [()] p ⟨7000000, 0⟩).1.rq ()).runtimeRemaining =
      12000000 := by decide +kernel
  refine ⟨hp.1, by rw [hp.2]; decide, fun hexact => ?_⟩
  have hmin := hexact.1 [] () [] rfl
  simp [hgiven, hp.2] at hmin

/-- A queue that runs out of runtime with the pool is throttled and paid by the
next period. -/
theorem throttled_queues_in_debt_one_period : Run.Always (Pool.step ⟨5000000, 1000000⟩)
      (fun p => (∀ c, (p.rq c).throttled = true → (p.rq c).runtimeRemaining ≤ 0) ∧
        ∀ queues d, (∀ c ∈ queues, (p.rq c).throttled = true) → queues.Nodup → p.DistributesExactly queues d) Pool.boot
      [.setCfsBandwidth 100000000 10000000 0, .resetRq (), .account () 0 0 0,
       .account () 5000000 1000000 1000000, .account () 5000001 2000000 2000000,
       .checkCfsRqRuntime (), .startPeriodTimer 3000000, .periodVisit (), .endPeriodTimer] :=
  throttled_queues_in_debt _ _ (by decide +kernel)

end BigLittle.Bandwidth
