import BigLittle.LifeCycle.Form

/-!
# Where a blocked contribution is included

The contribution of a task that sleeps in the fair class is part of the blocked load of
its queue, and `decay_count` is positive; when the task is woken on another CPU the
contribution goes to the removed load of the queue it leaves, and `decay_count` is
turned negative. A queued task has no `decay_count`.

`task_move_group_fair` breaks this, which adds the contribution to the new queue of a
sleeping task and leaves it in the old one, and does neither for a waking task; so does
`switched_from_fair`, which subtracts once more what a waking task has removed.
-/

namespace BigLittle.LifeCycle

open Cfs State

variable {T G C : Type*} [DecidableEq G] [DecidableEq C] {s : State T G C} (p : Life G C)

/-- A positive `decay_count` says that the contribution is included. -/
def Life.Tracked : Prop :=
  p.included = if 0 < p.decayCount then Pi.single p.queue 1 else 0

/-- What holds of a task whose queue has the given `decay_counter`. -/
structure Life.BlockedInv (p : Life G C) (counter : Nat) : Prop where
  tracked : p.Tracked
  synced : p.decayCount ≤ counter
  queued : p.onRq = true → p.decayCount = 0
  fair : p.fair = false → p.decayCount = 0
  removed : p.decayCount < 0 → p.state = .waking
  forked : p.NewlyForked → p.decayCount = 0

/-- The contribution is included in the queue of the task or in none; in none once the task
is queued. -/
def Life.AtMostOnce : Prop :=
  (p.included = 0 ∨ p.included = Pi.single p.queue 1) ∧ (p.onRq = true → p.included = 0)

lemma Life.BlockedInv.atMostOnce {p : Life G C} {counter : Nat} (h : p.BlockedInv counter) : p.AtMostOnce := by
  refine ⟨?_, fun hon => ?_⟩
  · rw [h.tracked]
    split
    · exact .inr rfl
    · exact .inl rfl
  · rw [h.tracked, h.queued hon, if_neg (lt_irrefl 0)]

/-- The contribution is included in no queue, and `decay_count` says so. -/
def Life.Settled : Prop := p.decayCount = 0 ∧ p.included = 0

section Life

variable {p : Life G C} {counter : Nat}

lemma Life.Settled.tracked (h : p.Settled) : p.Tracked := by
  rw [Life.Tracked, h.1, if_neg (lt_irrefl 0), h.2]

lemma Life.Tracked.settled (h : p.Tracked) (hzero : p.decayCount = 0) : p.Settled := by
  refine ⟨hzero, ?_⟩
  rw [h, hzero, if_neg (lt_irrefl 0)]

lemma Life.Tracked.nowhere (h : p.Tracked) (hle : p.decayCount ≤ 0) : p.included = 0 := by
  rw [h, if_neg (not_lt.mpr hle)]

lemma Life.Tracked.once (h : p.Tracked) (hpos : 0 < p.decayCount) : p.included = Pi.single p.queue 1 := by
  rw [h, if_pos hpos]

lemma Life.Settled.inv (h : p.Settled) : p.BlockedInv counter where
  tracked := h.tracked
  synced := by
    rw [h.1]
    exact Int.natCast_nonneg counter
  queued _ := h.1
  fair _ := h.1
  removed hneg := absurd hneg (by rw [h.1]; exact lt_irrefl 0)
  forked _ := h.1

lemma Life.BlockedInv.mono (h : p.BlockedInv counter) {counter' : Nat} (hle : counter ≤ counter') :
    p.BlockedInv counter' :=
  { h with synced := h.synced.trans (Int.ofNat_le.mpr hle) }

end Life

section View

variable {v : View G C}

lemma enqueueEntityLoadAvg_settled (h : v.task.Tracked) {wakeup : Bool}
    (hwakeup : 0 < v.task.decayCount → wakeup = true) (contrib : Nat) :
    (v.enqueueEntityLoadAvg wakeup contrib).task.Settled := by
  rw [View.enqueueEntityLoadAvg]
  split
  next hle =>
    split
    · exact ⟨rfl, h.nowhere hle⟩
    next hzero => exact h.settled (not_not.mp hzero)
  next hpos =>
    have hpos : 0 < v.task.decayCount := not_le.mp hpos
    rw [hwakeup hpos]
    refine ⟨rfl, ?_⟩
    exact sub_eq_zero.mpr (h.once hpos)

lemma enqueueEntity_settled (h : v.task.Tracked) {wakeup : Bool} (hwakeup : 0 < v.task.decayCount → wakeup = true)
    (waking : Bool) (thresh contrib : Nat) : (v.enqueueEntity wakeup waking thresh contrib).task.Settled := by
  rw [View.enqueueEntity]
  have hload : ((if !wakeup || waking then v.addMinVruntime else v).enqueueEntityLoadAvg wakeup
      contrib).task.Settled := by
    split
    · exact enqueueEntityLoadAvg_settled (v := v.addMinVruntime) h hwakeup contrib
    · exact enqueueEntityLoadAvg_settled h hwakeup contrib
  cases wakeup with
  | true | false => exact hload

lemma switchedFromFair_settled (h : v.task.Tracked) (hnonneg : 0 ≤ v.task.decayCount) (thresh : Nat) :
    (v.switchedFromFair thresh).task.Settled := by
  have hforgets : ∀ u : View G C, u.task.Tracked → 0 ≤ u.task.decayCount →
      (if u.task.decayCount ≠ 0 then u.synchronizeEntityDecay.subtractBlocked else u).task.Settled := by
    intro u hu hle
    split
    next hne => exact ⟨rfl, sub_eq_zero.mpr (hu.once (lt_of_le_of_ne hle (Ne.symm hne)))⟩
    next hzero => exact hu.settled (not_not.mp hzero)
  rw [View.switchedFromFair]
  refine hforgets _ ?_ ?_
  · split
    · exact h
    · exact h
  · split
    · exact hnonneg
    · exact hnonneg

/-- After the lock-free removal nothing is included. -/
lemma migrateTaskRqFair_nowhere (h : v.task.Tracked) (hnonneg : 0 ≤ v.task.decayCount)
    (hsynced : v.task.decayCount ≤ v.cfs.decayCounter) :
    v.migrateTaskRqFair.task.decayCount ≤ 0 ∧ v.migrateTaskRqFair.task.included = 0 := by
  rw [View.migrateTaskRqFair]
  split
  next hne =>
    refine ⟨neg_nonpos.mpr (sub_nonneg.mpr hsynced), ?_⟩
    exact sub_eq_zero.mpr (h.once (lt_of_le_of_ne hnonneg (Ne.symm hne)))
  next hzero =>
    have hzero : v.task.decayCount = 0 := not_not.mp hzero
    exact ⟨hzero.le, (h.settled hzero).2⟩

lemma migrateTaskRqFair_settled (h : v.task.Settled) : v.migrateTaskRqFair.task.Settled := by
  rwa [View.migrateTaskRqFair, if_neg (not_not.mpr h.1)]

end View

/-- The counter of the queue a task is on. -/
def State.counterOf (s : State T G C) (t : T) : Nat := (s.cfs (s.task t).queue).decayCounter

structure State.BlockedInv (s : State T G C) : Prop where
  placed : s.Placed
  /-- so that the `decay_count` of a sleeping task is not zero -/
  started : ∀ q, 1 ≤ (s.cfs q).decayCounter
  task : ∀ t, (s.task t).born = true → (s.task t).BlockedInv (s.counterOf t)

/-- Clocks may move on. -/
lemma State.BlockedInv.of_clock (h : s.BlockedInv) (q : QueueId G C) {c : Queue}
    (hle : (s.cfs q).decayCounter ≤ c.decayCounter) : BlockedInv { s with cfs := Function.update s.cfs q c } := by
  have hclocks : ∀ r, (s.cfs r).decayCounter ≤ (Function.update s.cfs q c r).decayCounter := by
    intro r
    by_cases hr : r = q
    · rwa [hr, Function.update_self]
    · rw [Function.update_of_ne hr]
  exact ⟨h.placed, fun r => (h.started r).trans (hclocks r), fun t hborn => (h.task t hborn).mono (hclocks _)⟩

lemma boot_blockedInv (start : Start T G C) : (boot start).BlockedInv where
  placed := boot_placed start
  started _ := le_rfl
  task _ _ := Life.Settled.inv ⟨rfl, rfl⟩

variable [DecidableEq T]

section State

variable {t : T}

lemma setTaskCpu_settled (h : (s.task t).Settled) (cpu : C) : ((s.setTaskCpu t cpu).task t).Settled := by
  rw [setTaskCpu, setTask_task_self]
  split
  · rw [on_task_self]
    exact migrateTaskRqFair_settled (v := s.view t) h
  · exact h

lemma enqueueTask_settled (h : (s.task t).Tracked) (hfair : (s.task t).fair = false → (s.task t).decayCount = 0)
    {wakeup : Bool} (hwakeup : 0 < (s.task t).decayCount → wakeup = true) (waking : Bool) (thresh contrib : Nat) :
    ((s.enqueueTask t wakeup waking thresh contrib).task t).Settled := by
  rw [enqueueTask]
  split
  · rw [on_task_self]
    exact enqueueEntity_settled (v := s.view t) h hwakeup waking thresh contrib
  next hother => exact h.settled (hfair (Bool.not_eq_true _ ▸ hother))

lemma Life.Settled.enqueueTask (h : (s.task t).Settled) (wakeup waking : Bool) (thresh contrib : Nat) :
    ((s.enqueueTask t wakeup waking thresh contrib).task t).Settled :=
  enqueueTask_settled h.tracked (fun _ => h.1) (fun hpos => absurd hpos (by rw [h.1]; exact lt_irrefl 0))
    waking thresh contrib

lemma dequeueTask_settled (h : (s.task t).Settled) (contrib : Nat) :
    ((s.dequeueTask t false contrib).task t).Settled := by
  rw [dequeueTask]
  split
  · rwa [on_task_self]
  · exact h

/-- A fair task that goes to sleep joins the blocked load of its queue. -/
lemma schedule_blockedInv (h : (s.task t).BlockedInv (s.counterOf t)) (hcounter : 1 ≤ s.counterOf t)
    (hon : (s.task t).onRq = true) (hstate : (s.task t).state = .sleeping) (contrib : Nat) :
    ((s.schedule t contrib).task t).BlockedInv (s.counterOf t) := by
  have hsettled := h.tracked.settled (h.queued hon)
  rw [schedule, setTask_task_self, dequeueTask]
  split
  next hfair =>
    rw [on_task_self]
    exact
      { tracked := by
          refine (congrArg (· + _) hsettled.2).trans ((zero_add _).trans ?_)
          exact (if_pos (Int.natCast_pos.mpr hcounter)).symm
        synced := le_rfl
        queued := fun hqueued => by cases hqueued
        fair := fun hother => by cases hfair.symm.trans hother
        removed := fun hneg => absurd hneg (not_lt.mpr (Int.natCast_nonneg _))
        forked := fun hforked => by cases hstate.symm.trans hforked.2 }
  next => exact Life.Settled.inv hsettled

/-- A task that changes its CPU is included nowhere afterwards. -/
lemma setTaskCpu_nowhere (h : (s.task t).Tracked) (hnonneg : 0 ≤ (s.task t).decayCount)
    (hsynced : (s.task t).decayCount ≤ s.counterOf t) (hfair : (s.task t).fair = false → (s.task t).decayCount = 0)
    {cpu : C} (hcpu : (s.task t).queue.cpu ≠ cpu) : ((s.setTaskCpu t cpu).task t).decayCount ≤ 0 ∧
    ((s.setTaskCpu t cpu).task t).included = 0 ∧
    ((s.task t).fair = false → ((s.setTaskCpu t cpu).task t).decayCount = 0) := by
  rw [setTaskCpu, setTask_task_self]
  split
  next hmoves =>
    rw [on_task_self]
    obtain ⟨hle, hnowhere⟩ := migrateTaskRqFair_nowhere (v := s.view t) h hnonneg hsynced
    exact ⟨hle, hnowhere, fun hother => (by cases hmoves.2.symm.trans hother)⟩
  next hstays =>
    have hother : (s.task t).fair = false := by
      rw [← Bool.not_eq_true]
      exact fun hf => hstays ⟨hcpu, hf⟩
    have hsettled := h.settled (hfair hother)
    exact ⟨hsettled.1.le, hsettled.2, fun _ => hsettled.1⟩

/-- A woken task stays in the blocked load of its queue, or leaves it with the queue. -/
lemma tryToWakeUp_blockedInv (h : (s.task t).BlockedInv (s.counterOf t)) (hasleep : (s.task t).Asleep)
    (cpu : C) {counter : Nat} (hsame : (s.task t).queue.cpu = cpu → counter = s.counterOf t) :
    ((s.tryToWakeUp t cpu).task t).BlockedInv counter := by
  have hform := tryToWakeUp_form s t cpu
  have hstate : ((s.tryToWakeUp t cpu).task t).state = .waking := congrArg Form.state hform
  have hoff : ((s.tryToWakeUp t cpu).task t).onRq = false := (congrArg Form.onRq hform).trans hasleep.1
  have hfair : ((s.tryToWakeUp t cpu).task t).fair = (s.task t).fair := (congrArg Form.fair hform).trans rfl
  have hnonneg : 0 ≤ (s.task t).decayCount := by
    refine not_lt.mp fun hneg => ?_
    exact nomatch hasleep.2.symm.trans (h.removed hneg)
  suffices hledger : ((s.tryToWakeUp t cpu).task t).Tracked ∧ ((s.tryToWakeUp t cpu).task t).decayCount ≤ counter ∧
      ((s.task t).fair = false → ((s.tryToWakeUp t cpu).task t).decayCount = 0) by
    exact
      { tracked := hledger.1
        synced := hledger.2.1
        queued := fun hon => nomatch hoff.symm.trans hon
        fair := fun hother => hledger.2.2 (hfair.symm.trans hother)
        removed := fun _ => hstate
        forked := fun hforked => by cases hstate.symm.trans hforked.2 }
  rw [tryToWakeUp]
  -- up to the choice of the CPU only the state and the `vruntime` change
  generalize hleft : (if ((s.setTask t fun p => { p with state := .waking }).task t).fair = true then
    (s.setTask t fun p => { p with state := .waking }).on t View.subMinVruntime else
    s.setTask t fun p => { p with state := .waking }) = left
  have hrecord : ∃ vruntime base, left.task t =
      { s.task t with state := .waking, vruntime := vruntime, base := base } := by
    rw [← hleft]
    split
    · rw [on_task_self, view, setTask_task_self]
      exact ⟨_, _, rfl⟩
    · rw [setTask_task_self]
      exact ⟨_, _, rfl⟩
  have hframe : State.Frame t s left := by
    rw [← hleft]
    exact (State.Frame.setTask s t _).trans (.ite (.on _ t .subMinVruntime))
  obtain ⟨vruntime, base, hrecord⟩ := hrecord
  have hcounter : left.counterOf t = s.counterOf t := by
    rw [counterOf, hframe.counter, hrecord]
    rfl
  have htracked : (left.task t).Tracked := by
    rw [hrecord]
    exact h.tracked
  split
  next hmoves =>
    have hnowhere := setTaskCpu_nowhere (s := left) htracked (by rw [hrecord]; exact hnonneg)
      (by rw [hcounter, hrecord]; exact h.synced) (by rw [hrecord]; exact h.fair) hmoves
    refine ⟨?_, hnowhere.1.trans (Int.natCast_nonneg counter), fun hother => hnowhere.2.2 ?_⟩
    · rw [Life.Tracked, if_neg (not_lt.mpr hnowhere.1)]
      exact hnowhere.2.1
    · rwa [hrecord]
  next hstays =>
    have hcpu : (s.task t).queue.cpu = cpu := by
      have hstays := not_not.mp hstays
      rwa [hrecord] at hstays
    rw [hsame hcpu]
    refine ⟨htracked, ?_, ?_⟩
    · rw [hrecord]
      exact h.synced
    · rw [hrecord]
      exact h.fair

/-- A task that leaves the fair class asleep leaves the blocked load. -/
lemma setScheduler_blockedInv (h : (s.task t).BlockedInv (s.counterOf t)) {fair : Bool}
    (hleaves : ¬(fair = false ∧ (s.task t).fair = true ∧ (s.task t).decayCount < 0)) (thresh contrib : Nat) :
    ((s.setScheduler t fair thresh contrib).task t).BlockedInv (s.counterOf t) := by
  rw [setScheduler]
  cases hon : (s.task t).onRq with
  | true =>
    have hleft := dequeueTask_settled (h.tracked.settled (h.queued hon)) contrib
    have hchanged : (((s.dequeueTask t false contrib).setTask t fun p =>
        { p with fair := fair }).task t).Settled := by
      rwa [setTask_task_self]
    have hjoined := hchanged.enqueueTask false false thresh contrib
    rw [if_pos rfl, if_pos rfl]
    split
    · rw [on_task_self]
      exact (switchedFromFair_settled hjoined.tracked hjoined.1.ge thresh).inv
    · exact hjoined.inv
  | false =>
    have hchanged : ((s.setTask t fun p => { p with fair := fair }).task t) = { s.task t with fair := fair } :=
      setTask_task_self s t _
    rw [if_neg Bool.false_ne_true, if_neg Bool.false_ne_true]
    split
    next hswitched =>
      rw [Bool.and_eq_true, Bool.not_eq_true'] at hswitched
      have hnonneg : 0 ≤ (s.task t).decayCount :=
        not_lt.mp fun hneg => hleaves ⟨hswitched.2, hswitched.1, hneg⟩
      rw [on_task_self, view, hchanged]
      exact (switchedFromFair_settled h.tracked hnonneg thresh).inv
    next hstays =>
      rw [hchanged]
      refine { h with fair := fun hother => h.fair ?_ }
      rw [Bool.and_eq_true, Bool.not_eq_true'] at hstays
      rw [← Bool.not_eq_true]
      exact fun hfair => hstays ⟨hfair, hother⟩

/-- A sleeping task that is included nowhere joins the blocked load of its queue. -/
lemma addBlocked_blockedInv {v : View G C} (hpos : 1 ≤ v.cfs.decayCounter) (hnowhere : v.task.included = 0)
    (hoff : v.task.onRq = false) (hfair : v.task.fair = true) (hstate : v.task.state ≠ .running) :
    v.addMinVruntime.addBlocked.task.BlockedInv v.cfs.decayCounter where
  tracked := by
    refine (congrArg (· + _) hnowhere).trans ((zero_add _).trans ?_)
    exact (if_pos (Int.natCast_pos.mpr hpos)).symm
  synced := le_rfl
  queued hon := nomatch hoff.symm.trans hon
  fair hother := nomatch hfair.symm.trans hother
  removed hneg := absurd hneg (not_lt.mpr (Int.natCast_nonneg _))
  forked hforked := absurd hforked.2 hstate

/-- A group move of a task that is not included anywhere includes it in the new queue at
most. -/
lemma schedMoveTask_blockedInv (h : (s.task t).BlockedInv (s.counterOf t)) (hplaced : (s.task t).form.Placed)
    (hmoves : ¬((s.task t).fair = true ∧ 0 < (s.task t).decayCount)) (tg : Option G) (contrib : Nat)
    (hcounter : 1 ≤ (s.cfs ⟨tg, (s.task t).queue.cpu⟩).decayCounter) :
    ((s.schedMoveTask t tg contrib).task t).BlockedInv (s.cfs ⟨tg, (s.task t).queue.cpu⟩).decayCounter := by
  have hle : (s.task t).decayCount ≤ 0 := by
    refine not_lt.mp fun hpos => ?_
    cases hfair : (s.task t).fair with
    | true => exact hmoves ⟨hfair, hpos⟩
    | false => exact hpos.ne' (h.fair hfair)
  have hnowhere := h.tracked.nowhere hle
  rw [schedMoveTask]
  cases hon : (s.task t).onRq with
  | true =>
    have hleft := dequeueTask_settled (h.tracked.settled (h.queued hon)) contrib
    rw [if_pos rfl, if_pos rfl]
    refine Life.Settled.inv (Life.Settled.enqueueTask ?_ false false 0 contrib)
    split
    · rw [taskMoveGroupFair, Bool.true_or, Bool.not_true, if_neg Bool.false_ne_true,
        if_neg Bool.false_ne_true, setTaskRq, setTask_task_self]
      exact hleft
    · rwa [setTaskRq, setTask_task_self]
  | false =>
    have hset : ((s.setTaskRq t tg).task t).BlockedInv (s.cfs ⟨tg, (s.task t).queue.cpu⟩).decayCounter := by
      rw [setTaskRq, setTask_task_self]
      refine { h with tracked := ?_, synced := hle.trans (Int.natCast_nonneg _) }
      rwa [Life.Tracked, if_neg (not_lt.mpr hle)]
    rw [if_neg Bool.false_ne_true, if_neg Bool.false_ne_true]
    split
    next hfair =>
      rw [taskMoveGroupFair, Bool.false_or]
      cases hskip : decide ((s.task t).sumExecRuntime = 0 ∨ (s.task t).state = .waking) with
      | true => exact hset
      | false =>
        rw [Bool.not_false, if_pos rfl, if_pos rfl, on_task_self]
        have hruns := not_or.mp (of_decide_eq_false hskip)
        have hforked : (s.task t).state ≠ .running := fun hstate => hruns.1 (hplaced.forked hon hstate)
        have hframe : State.Frame t s ((s.on t View.subMinVruntime).setTaskRq t tg) :=
          (State.Frame.on s t .subMinVruntime).trans (.setTask _ t _)
        have hrecord : ((s.on t View.subMinVruntime).setTaskRq t tg).task t =
            { (s.view t).subMinVruntime.task with queue := ⟨tg, (s.task t).queue.cpu⟩ } := by
          rw [setTaskRq, setTask_task_self, on_task_self]
          rfl
        have hclock : (((s.on t View.subMinVruntime).setTaskRq t tg).view t).cfs.decayCounter =
            (s.cfs ⟨tg, (s.task t).queue.cpu⟩).decayCounter := by
          rw [view, hrecord]
          exact hframe.counter _
        rw [← hclock] at hcounter ⊢
        refine addBlocked_blockedInv hcounter ?_ ?_ ?_ ?_
        all_goals rw [view, hrecord]
        · exact hnowhere
        · exact hon
        · exact hfair
        · exact hforked
    next => exact hset

end State

/-- What the code relies on and does not check: a task of the fair class does not move to
another group while it is included in the blocked load, and does not leave the class
between its removal from one and its next enqueue. -/
def Op.KeepsBlocked (s : State T G C) : Op T G C → Prop
  | .setScheduler t fair _ _ => ¬(fair = false ∧ (s.task t).fair = true ∧ (s.task t).decayCount < 0)
  | .schedMoveTask t _ _ => ¬((s.task t).fair = true ∧ 0 < (s.task t).decayCount)
  | _ => True

instance (s : State T G C) (op : Op T G C) : Decidable (op.KeepsBlocked s) := by
  induction op using Op.casesOn <;> dsimp only [Op.KeepsBlocked] <;> infer_instance

namespace State

/-- A step about a task has to keep the invariant of this task. -/
lemma BlockedInv.of_target {op : Op T G C} {t : T} (h : s.BlockedInv) (hop : op.Allowed s) (ht : op.target = some t)
    (hown : ((s.step op).task t).BlockedInv (s.cfs ((s.step op).task t).queue).decayCounter) :
    (s.step op).BlockedInv := by
  have hframe := Frame.of_target (s := s) ht
  refine ⟨h.placed.step hop, fun q => (hframe.counter q).symm ▸ h.started q, fun u hborn => ?_⟩
  rw [counterOf, hframe.counter]
  by_cases hu : u = t
  · rwa [hu]
  · rw [hframe.task u hu] at hborn ⊢
    exact h.task u hborn

lemma BlockedInv.step {op : Op T G C} (h : s.BlockedInv) (hop : op.Allowed s)
    (hkeeps : op.KeepsBlocked s) : (s.step op).BlockedInv := by
  cases op with
  | updateMinVruntime q minVruntime => exact h.of_clock q le_rfl
  | updateBlockedLoad q decays => exact h.of_clock q (Nat.le_add_right _ decays)
  | fork t parent fair tg vruntime =>
    refine h.of_target hop rfl (Life.Settled.inv ?_)
    have hparent := (h.task parent hop.2.1).queued hop.2.2
    rw [State.step, schedFork, setTask_task_self]
    cases fair with
    | true | false => exact ⟨hparent, rfl⟩
  | wakeUpNewTask t cpu contrib =>
    have ht := h.task t hop.1
    refine h.of_target hop rfl (Life.Settled.inv ?_)
    rw [State.step, wakeUpNewTask, setTask_task_self]
    exact Life.Settled.enqueueTask (setTaskCpu_settled (ht.tracked.settled (ht.forked hop.2)) cpu) _ _ _ _
  | setState t asleep | updateCurr t deltaExec deltaVruntime contrib =>
    have ht := h.task t hop.1
    refine h.of_target hop rfl (Life.Settled.inv ?_)
    rw [State.step, setTask_task_self]
    exact ht.tracked.settled (ht.queued hop.2)
  | schedule t contrib =>
    obtain ⟨hborn, hon, hmigrating, hstate⟩ := hop
    refine h.of_target ⟨hborn, hon, hmigrating, hstate⟩ rfl ?_
    have hqueue : ((s.step (.schedule t contrib)).task t).queue = (s.task t).queue :=
      (congrArg Form.queue (schedule_form s t contrib)).trans rfl
    rw [hqueue]
    exact schedule_blockedInv (h.task t hborn) (h.started _) hon hstate contrib
  | tryToWakeUp t cpu =>
    refine h.of_target hop rfl (tryToWakeUp_blockedInv (h.task t hop.1) hop.2 cpu fun hcpu => ?_)
    have hqueue : ((s.step (.tryToWakeUp t cpu)).task t).queue = (s.task t).queue := by
      refine (congrArg Form.queue (tryToWakeUp_form s t cpu)).trans ?_
      rw [← hcpu]
      rfl
    rw [hqueue]
    rfl
  | ttwuDoActivate t thresh contrib =>
    have ht := h.task t hop.1
    refine h.of_target hop rfl (Life.Settled.inv ?_)
    rw [State.step, ttwuDoActivate, setTask_task_self]
    exact enqueueTask_settled ht.tracked ht.fair (fun _ => rfl) _ _ _
  | tryToWakeUpLocal t thresh contrib =>
    have ht := h.task t hop.1
    refine h.of_target hop rfl (Life.Settled.inv ?_)
    rw [State.step, tryToWakeUpLocal, setTask_task_self]
    exact enqueueTask_settled ht.tracked ht.fair (fun _ => rfl) _ _ _
  | setScheduler t fair thresh contrib =>
    refine h.of_target hop rfl ?_
    have hqueue : ((s.step (.setScheduler t fair thresh contrib)).task t).queue = (s.task t).queue :=
      (congrArg Form.queue (setScheduler_form s t fair thresh contrib)).trans rfl
    rw [hqueue]
    exact setScheduler_blockedInv (h.task t hop.1) hkeeps thresh contrib
  | schedMoveTask t tg contrib =>
    refine h.of_target hop rfl ?_
    have hqueue : ((s.step (.schedMoveTask t tg contrib)).task t).queue = ⟨tg, (s.task t).queue.cpu⟩ :=
      congrArg Form.queue (schedMoveTask_form s t tg contrib)
    rw [hqueue]
    exact schedMoveTask_blockedInv (h.task t hop.1) (h.placed t hop.1) hkeeps tg contrib (h.started _)
  | deactivateTask t contrib =>
    have ht := h.task t hop.1
    refine h.of_target hop rfl (Life.Settled.inv ?_)
    rw [State.step, deactivateTask, setTask_task_self]
    exact dequeueTask_settled (ht.tracked.settled (ht.queued hop.2.1)) contrib
  | activateTask t cpu contrib =>
    have ht := h.task t hop.1
    have hon := (h.placed t hop.1).migrating hop.2
    refine h.of_target hop rfl (Life.Settled.inv ?_)
    rw [State.step, activateTask, setTask_task_self]
    exact Life.Settled.enqueueTask (setTaskCpu_settled (ht.tracked.settled (ht.queued hon)) cpu) _ _ _ _

end State

/-- In every run in which no task moves to another group while it is included in the blocked load,
or leaves the fair class between a removal and its enqueue, the contribution of a task is included
in the blocked load of its own queue or of none, and of none once it is queued. -/
theorem blocked_atMostOnce (start : Start T G C) (ops : List (Op T G C))
    (hops : Run.Each step (fun s op => op.Allowed s ∧ op.KeepsBlocked s) (boot start) ops) :
    Run.Always step (fun s => ∀ t, (s.task t).born = true → (s.task t).AtMostOnce) (boot start) ops := by
  have hinv := Run.always_of_each (P := State.BlockedInv) (fun s op hs hop => hs.step hop.1 hop.2)
    (boot_blockedInv start) hops
  exact hinv.mono fun s hs t hborn => (hs.task t hborn).atMostOnce

/-- A task sleeps and is woken on the other CPU, sleeps there and leaves the fair class. -/
theorem blocked_atMostOnce_first :
    Run.Always step (fun s => ∀ t, (s.task t).born = true → (s.task t).AtMostOnce) oneTask
      [.updateCurr false 10 10 7, .setState false true, .schedule false 7,
        .updateBlockedLoad ⟨none, false⟩ 3, .tryToWakeUp false true, .ttwuDoActivate false 3 7,
        .setState false true, .schedule false 7, .setScheduler false false 0 7,
        .schedMoveTask false (some ()) 7] :=
  blocked_atMostOnce _ _ (by decide +kernel)

/-- The task runs, goes to sleep and is moved to the group. -/
def movedAsleep : List (Op Bool Unit Bool) :=
  [.updateCurr false 10 10 7, .setState false true, .schedule false 7, .schedMoveTask false (some ()) 7]

/-- The contribution of the task is included in the blocked load of both queues. -/
theorem movedAsleep_twice : Run.Each step (fun s op => op.Allowed s) oneTask movedAsleep ∧
    ¬Run.Always step (fun s => ∀ t, (s.task t).born = true → (s.task t).AtMostOnce) oneTask movedAsleep := by
  refine ⟨by decide +kernel, fun halways => ?_⟩
  have hown := (halways.last false (by decide +kernel)).1
  have hold : ((movedAsleep.foldl step oneTask).task false).included ⟨none, false⟩ = 1 := by
    decide +kernel
  have hqueue : ((movedAsleep.foldl step oneTask).task false).queue = ⟨some (), false⟩ := by
    decide +kernel
  rcases hown with hnone | hone
  · rw [hnone] at hold
    exact absurd hold (by decide)
  · rw [hone, hqueue] at hold
    exact absurd hold (by decide)

end BigLittle.LifeCycle
