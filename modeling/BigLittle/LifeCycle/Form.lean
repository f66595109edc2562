import Mathlib.Tactic.Abel
import BigLittle.LifeCycle.Model

/-!
# Relative and absolute virtual time

What an operation does to the form of a task's `vruntime` depends on few fields of the
task. `Form` has just these, and its operations here say which `min_vruntime`s an operation
adds and subtracts; the full model moves them in the same way. The invariant is about
forms only.
-/

namespace BigLittle.LifeCycle

open Cfs State

variable {T G C : Type*} {s : State T G C}

/-- Setting the flag of the entity does not matter. -/
lemma setSeOnRq_form (p : Life G C) (on : Bool) : { p with seOnRq := on }.form = p.form := rfl

namespace Form

variable (p : Form G C) (cpu : C)

def setCpu : Form G C := { p with queue := ⟨p.queue.tg, cpu⟩ }

def setGroup (tg : Option G) : Form G C := { p with queue := ⟨tg, p.queue.cpu⟩ }

/-- Whether `task_move_group_fair` takes the `vruntime` for absolute. -/
def taken (onRq : Bool) : Bool := !onRq && !decide (p.sumExecRuntime = 0 ∨ p.state = .waking)

lemma setCpu_self {p : Form G C} {cpu : C} (h : p.queue.cpu = cpu) : p.setCpu cpu = p := by
  subst h
  rfl

/-- The queued task is dequeued and enqueued, the sleeping one converted; never both. -/
lemma leaves_once (onRq fair : Bool) (n : Int) : (if onRq && fair then n else 0) +
    (if fair && p.taken onRq then n else 0) = if fair && (onRq || p.taken onRq) then n else 0 := by
  cases onRq <;> cases fair <;> simp [taken]

/-- Where a task can be: a forked task has not run, a waking one is off the queue and a
migrating one counts as queued. -/
structure Placed : Prop where
  forked : p.onRq = false → p.state = .running → p.sumExecRuntime = 0
  waking : p.state = .waking → p.onRq = false
  migrating : p.migrating = true → p.onRq = true

namespace Placed

variable {p}

lemma not_migrating (h : p.Placed) (hoff : p.onRq = false) : p.migrating = false := by
  rw [← Bool.not_eq_true]
  exact fun hm => Bool.false_ne_true (hoff.symm.trans (h.migrating hm))

lemma not_waking (h : p.Placed) (hon : p.onRq = true) : p.state ≠ .waking :=
  fun hw => Bool.false_ne_true ((h.waking hw).symm.trans hon)

/-- A queued task that is not being woken. -/
lemma of_queued (hon : p.onRq = true) (hstate : p.state ≠ .waking) : p.Placed where
  forked hoff := nomatch hon.symm.trans hoff
  waking hw := absurd hw hstate
  migrating _ := hon

end Placed

variable [DecidableEq G] [DecidableEq C]

/-- The `min_vruntime` of the task's queue is added (1) or subtracted (-1), or neither. -/
def shift (n : Int) : Form G C := { p with base := p.base + Pi.single p.queue n }

def wakeUpNewTask : Form G C :=
  { (p.setCpu cpu).shift (if p.fair then 1 else 0) with onRq := true }

def tryToWakeUp : Form G C :=
  ({ p with state := .waking }.shift (if p.fair then -1 else 0)).setCpu cpu

def ttwuDoActivate : Form G C :=
  { p.shift (if p.fair then 1 else 0) with onRq := true, state := .running }

def setScheduler (fair : Bool) : Form G C :=
  let q := { p.shift (if p.onRq && p.fair then -1 else 0) with fair := fair }
  let q := q.shift (if p.onRq && fair then 1 else 0)
  q.shift (if p.fair && !fair && !p.onRq && decide (p.state ≠ .running) then -1 else 0)

def schedMoveTask (tg : Option G) : Form G C :=
  let leaves := p.fair && (p.onRq || p.taken p.onRq)
  ((p.shift (if leaves then -1 else 0)).setGroup tg).shift (if leaves then 1 else 0)

def deactivateTask : Form G C :=
  { p.shift (if p.fair then -1 else 0) with migrating := true }

def activateTask : Form G C :=
  { (p.setCpu cpu).shift (if p.fair then 1 else 0) with migrating := false }

lemma shift_zero : p.shift 0 = p := by
  rw [shift, Pi.single_zero, add_zero]

lemma shift_shift (m n : Int) : (p.shift m).shift n = p.shift (m + n) := by
  rw [shift, shift, shift, Pi.single_add, ← add_assoc]

end Form

variable [DecidableEq G] [DecidableEq C]

section View

variable (v : View G C)

@[simp] lemma addMinVruntime_form : v.addMinVruntime.task.form = v.task.form.shift 1 := rfl

@[simp] lemma subMinVruntime_form : v.subMinVruntime.task.form = v.task.form.shift (-1) := by
  rw [Form.shift, Pi.single_neg, ← sub_eq_add_neg]
  rfl

@[simp] lemma enqueueEntityLoadAvg_form (wakeup : Bool) (contrib : Nat) :
    (v.enqueueEntityLoadAvg wakeup contrib).task.form = v.task.form := by
  rw [View.enqueueEntityLoadAvg]
  split
  · split <;> rfl
  · dsimp only
    split <;> rfl

lemma enqueueEntity_form (wakeup waking : Bool) (thresh contrib : Nat) :
    (v.enqueueEntity wakeup waking thresh contrib).task.form =
    v.task.form.shift (if !wakeup || waking then 1 else 0) := by
  have hadded : (if !wakeup || waking then v.addMinVruntime else v).task.form =
      v.task.form.shift (if !wakeup || waking then 1 else 0) := by
    split
    · exact addMinVruntime_form v
    · exact (Form.shift_zero _).symm
  rw [View.enqueueEntity, setSeOnRq_form, ← hadded]
  cases wakeup with
  | true => exact enqueueEntityLoadAvg_form _ true contrib
  | false => exact enqueueEntityLoadAvg_form _ false contrib

lemma dequeueEntity_form (sleep : Bool) (contrib : Nat) :
    (v.dequeueEntity sleep contrib).task.form = v.task.form.shift (if !sleep then -1 else 0) := by
  cases sleep with
  | true => exact (Form.shift_zero _).symm
  | false => exact subMinVruntime_form _

lemma migrateTaskRqFair_form : v.migrateTaskRqFair.task.form = v.task.form := by
  rw [View.migrateTaskRqFair]
  split <;> rfl

lemma forgetBlocked_form :
    (if v.task.decayCount ≠ 0 then v.synchronizeEntityDecay.subtractBlocked else v).task.form = v.task.form := by
  split <;> rfl

lemma switchedFromFair_form (thresh : Nat) : (v.switchedFromFair thresh).task.form =
    v.task.form.shift (if !v.task.onRq && decide (v.task.state ≠ .running) then -1 else 0) := by
  have hplaced : (if v.task.onRq = false ∧ v.task.state ≠ .running then
      (v.placeEntity thresh).subMinVruntime else v).task.form =
      v.task.form.shift (if !v.task.onRq && decide (v.task.state ≠ .running) then -1 else 0) := by
    simp only [Bool.and_eq_true, Bool.not_eq_true', decide_eq_true_eq]
    split
    · exact subMinVruntime_form _
    · exact (Form.shift_zero _).symm
  rw [View.switchedFromFair, ← hplaced]
  exact forgetBlocked_form _

end View

/-- What holds of the form of every task. -/
def State.Forms (P : Form G C → Prop) (s : State T G C) : Prop := ∀ t, (s.task t).born = true → P (s.task t).form

def State.Placed (s : State T G C) : Prop := s.Forms Form.Placed

lemma boot_placed (start : Start T G C) : (boot start).Placed := fun _ _ => .of_queued rfl RunState.noConfusion

variable [DecidableEq T]

section State

variable (s) (t : T) (cpu : C) (tg : Option G) (contrib : Nat)

@[simp] lemma on_task_self (f : View G C → View G C) :
    (s.on t f).task t = (f (s.view t)).task := Function.update_self _ _ _

omit [DecidableEq G] [DecidableEq C] in
@[simp] lemma setTask_task_self (f : Life G C → Life G C) :
    (s.setTask t f).task t = f (s.task t) := Function.update_self _ _ _

lemma setTaskCpu_form : ((s.setTaskCpu t cpu).task t).form = (s.task t).form.setCpu cpu := by
  have hleft : ((if (s.task t).queue.cpu ≠ cpu ∧ (s.task t).fair then
      s.on t View.migrateTaskRqFair else s).task t).form = (s.task t).form := by
    split
    · rw [on_task_self]
      exact migrateTaskRqFair_form _
    · rfl
  rw [setTaskCpu, setTask_task_self]
  exact congrArg (Form.setCpu · cpu) hleft

/-- Only the fair class has a `vruntime` to shift. -/
lemma on_form_if {f : View G C → View G C} {b : Bool} {n : Int}
    (hf : (f (s.view t)).task.form = (s.task t).form.shift (if b then n else 0)) :
    ((if (s.task t).fair then s.on t f else s).task t).form =
    (s.task t).form.shift (if (s.task t).fair && b then n else 0) := by
  split
  next hfair => rw [on_task_self, hf, hfair, Bool.true_and]
  next hfair =>
    rw [Bool.not_eq_true] at hfair
    rw [hfair, Bool.false_and]
    exact (Form.shift_zero _).symm

lemma enqueueTask_form (wakeup waking : Bool) (thresh contrib : Nat) :
    ((s.enqueueTask t wakeup waking thresh contrib).task t).form =
    (s.task t).form.shift (if (s.task t).fair && (!wakeup || waking) then 1 else 0) :=
  on_form_if s t (enqueueEntity_form (s.view t) wakeup waking thresh contrib)

lemma dequeueTask_form (sleep : Bool) (contrib : Nat) : ((s.dequeueTask t sleep contrib).task t).form =
    (s.task t).form.shift (if (s.task t).fair && !sleep then -1 else 0) :=
  on_form_if s t (dequeueEntity_form (s.view t) sleep contrib)

/-- A task is moved and queued there, without having slept. -/
lemma setTaskCpu_enqueueTask_form : (((s.setTaskCpu t cpu).enqueueTask t false false 0 contrib).task t).form =
    ((s.task t).form.setCpu cpu).shift (if (s.task t).fair then 1 else 0) := by
  rw [enqueueTask_form, setTaskCpu_form, Bool.not_false, Bool.true_or, Bool.and_true]
  rfl

lemma wakeUpNewTask_form : ((s.wakeUpNewTask t cpu contrib).task t).form = (s.task t).form.wakeUpNewTask cpu := by
  rw [wakeUpNewTask, setTask_task_self]
  exact congrArg (fun p : Form G C => { p with onRq := true }) (setTaskCpu_enqueueTask_form s t cpu contrib)

lemma schedule_form : ((s.schedule t contrib).task t).form = { (s.task t).form with onRq := false } := by
  have hleft := dequeueTask_form s t true contrib
  rw [Bool.not_true, Bool.and_false, if_neg Bool.false_ne_true, Form.shift_zero] at hleft
  rw [schedule, setTask_task_self]
  exact congrArg (fun p : Form G C => { p with onRq := false }) hleft

lemma tryToWakeUp_form : ((s.tryToWakeUp t cpu).task t).form = (s.task t).form.tryToWakeUp cpu := by
  let waking := s.setTask t fun p => { p with state := .waking }
  have hwaking : (waking.task t).form = { (s.task t).form with state := .waking } := by rw [setTask_task_self]
  have hleft : ((if (waking.task t).fair then waking.on t View.subMinVruntime else waking).task t).form =
      { (s.task t).form with state := .waking }.shift (if (s.task t).fair then -1 else 0) := by
    have hfair : (waking.task t).fair = (s.task t).fair := by rw [hwaking]
    rw [← hwaking, ← hfair]
    split
    · rw [on_task_self]
      exact subMinVruntime_form _
    · exact (Form.shift_zero _).symm
  have hlast : ∀ u : State T G C, ((if (u.task t).queue.cpu ≠ cpu then u.setTaskCpu t cpu else u).task t).form =
        (u.task t).form.setCpu cpu := by
    intro u
    split
    · exact setTaskCpu_form u t cpu
    next hsame => exact (Form.setCpu_self (not_not.mp hsame)).symm
  exact (hlast _).trans (congrArg (Form.setCpu · cpu) hleft)

lemma ttwuDoActivate_form (thresh contrib : Nat) :
    ((s.ttwuDoActivate t thresh contrib).task t).form = (s.task t).form.ttwuDoActivate := by
  have hqueued := enqueueTask_form s t true true thresh contrib
  rw [Bool.or_true, Bool.and_true] at hqueued
  rw [ttwuDoActivate, setTask_task_self]
  exact congrArg (fun p : Form G C => { p with onRq := true, state := .running }) hqueued

lemma tryToWakeUpLocal_form (thresh contrib : Nat) : ((s.tryToWakeUpLocal t thresh contrib).task t).form =
    { (s.task t).form with onRq := true, state := .running } := by
  have hqueued := enqueueTask_form s t true false thresh contrib
  rw [Bool.not_true, Bool.or_false, Bool.and_false, if_neg Bool.false_ne_true, Form.shift_zero] at hqueued
  rw [tryToWakeUpLocal, setTask_task_self]
  exact congrArg (fun p : Form G C => { p with onRq := true, state := .running }) hqueued

lemma deactivateTask_form : ((s.deactivateTask t contrib).task t).form = (s.task t).form.deactivateTask := by
  have hleft := dequeueTask_form s t false contrib
  rw [Bool.not_false, Bool.and_true] at hleft
  rw [deactivateTask, setTask_task_self]
  exact congrArg (fun p : Form G C => { p with migrating := true }) hleft

lemma activateTask_form : ((s.activateTask t cpu contrib).task t).form = (s.task t).form.activateTask cpu := by
  rw [activateTask, setTask_task_self]
  exact congrArg (fun p : Form G C => { p with migrating := false }) (setTaskCpu_enqueueTask_form s t cpu contrib)

lemma dequeueTask_form_if (leaves : Bool) (contrib : Nat) :
    ((if leaves then s.dequeueTask t false contrib else s).task t).form =
    (s.task t).form.shift (if leaves && (s.task t).fair then -1 else 0) := by
  cases leaves with
  | false => exact (Form.shift_zero _).symm
  | true => exact (dequeueTask_form s t false contrib).trans (by rw [Bool.not_false, Bool.and_true]; rfl)

lemma enqueueTask_form_if (joins : Bool) (thresh contrib : Nat) :
    ((if joins then s.enqueueTask t false false thresh contrib else s).task t).form =
    (s.task t).form.shift (if joins && (s.task t).fair then 1 else 0) := by
  cases joins with
  | false => exact (Form.shift_zero _).symm
  | true =>
    refine (enqueueTask_form s t false false thresh contrib).trans ?_
    rw [Bool.not_false, Bool.true_or, Bool.and_true]
    rfl

lemma setScheduler_form (fair : Bool) (thresh contrib : Nat) :
    ((s.setScheduler t fair thresh contrib).task t).form = (s.task t).form.setScheduler fair := by
  have hleft := dequeueTask_form_if s t (s.task t).onRq contrib
  rw [setScheduler]
  generalize (if (s.task t).onRq then s.dequeueTask t false contrib else s) = left at hleft ⊢
  have hchanged : ((left.setTask t fun p => { p with fair := fair }).task t).form =
      { (s.task t).form.shift (if (s.task t).onRq && (s.task t).fair then -1 else 0) with fair := fair } := by
    rw [setTask_task_self, ← hleft]
  generalize (left.setTask t fun p => { p with fair := fair }) = changed at hchanged ⊢
  have hjoined := enqueueTask_form_if changed t (s.task t).onRq thresh contrib
  rw [hchanged] at hjoined
  generalize (if (s.task t).onRq then changed.enqueueTask t false false thresh contrib else changed) =
    joined at hjoined ⊢
  change _ = Form.shift _ (if ((s.task t).fair && !fair && !(s.task t).onRq &&
    decide ((s.task t).state ≠ .running)) = true then -1 else 0)
  split
  next hleaves =>
    have hview : (joined.view t).task = joined.task t := rfl
    rw [on_task_self, switchedFromFair_form, hview, hjoined, hleaves, Bool.true_and]
    rfl
  next hstays =>
    rw [Bool.not_eq_true] at hstays
    rwa [hstays, Bool.false_and, Bool.false_and, if_neg Bool.false_ne_true, Form.shift_zero]

omit [DecidableEq G] [DecidableEq C] in
lemma setTaskRq_form : ((s.setTaskRq t tg).task t).form = (s.task t).form.setGroup tg := by
  rw [setTaskRq, setTask_task_self]
  rfl

lemma taskMoveGroupFair_form (onRq : Bool) (tg : Option G) : ((s.taskMoveGroupFair t onRq tg).task t).form =
      (((s.task t).form.shift (if (s.task t).form.taken onRq then -1 else 0)).setGroup tg).shift
        (if (s.task t).form.taken onRq then 1 else 0) := by
  have htaken : (s.task t).form.taken onRq =
      !(onRq || decide ((s.task t).sumExecRuntime = 0 ∨ (s.task t).state = .waking)) :=
    (Bool.not_or _ _).symm
  rw [taskMoveGroupFair, htaken]
  generalize (onRq || decide ((s.task t).sumExecRuntime = 0 ∨ (s.task t).state = .waking)) = skip
  cases skip with
  | true =>
    simp only [Bool.not_true, Bool.false_eq_true, if_false, Form.shift_zero]
    exact setTaskRq_form s t tg
  | false =>
    have hleft : ((s.on t View.subMinVruntime).task t).form = (s.task t).form.shift (-1) := by
      rw [on_task_self]
      exact subMinVruntime_form _
    have hadded : ∀ u : State T G C,
        ((u.on t fun v => v.addMinVruntime.addBlocked).task t).form = (u.task t).form.shift 1 := by
      intro u
      rw [on_task_self]
      rfl
    refine (hadded _).trans ?_
    rw [Bool.not_false, if_pos rfl, if_pos rfl, if_pos rfl, setTaskRq_form, hleft]

lemma moveGroup_form (onRq : Bool) (tg : Option G) :
    ((if (s.task t).fair then s.taskMoveGroupFair t onRq tg else s.setTaskRq t tg).task t).form =
      (((s.task t).form.shift (if (s.task t).fair && (s.task t).form.taken onRq then -1 else 0)).setGroup
        tg).shift (if (s.task t).fair && (s.task t).form.taken onRq then 1 else 0) := by
  split
  next hfair => rw [taskMoveGroupFair_form, hfair, Bool.true_and]
  next hfair =>
    rw [Bool.not_eq_true] at hfair
    simp only [hfair, Bool.false_and, Bool.false_eq_true, if_false, Form.shift_zero]
    exact setTaskRq_form s t tg

lemma schedMoveTask_form : ((s.schedMoveTask t tg contrib).task t).form = (s.task t).form.schedMoveTask tg := by
  have hleft := dequeueTask_form_if s t (s.task t).onRq contrib
  rw [schedMoveTask]
  generalize (if (s.task t).onRq then s.dequeueTask t false contrib else s) = left at hleft ⊢
  have hfair : (left.task t).fair = (s.task t).fair := by rw [hleft, Form.shift]
  have htaken : (left.task t).form.taken (s.task t).onRq = (s.task t).form.taken (s.task t).onRq := by
    rw [hleft]
    rfl
  have hmoved := moveGroup_form left t (s.task t).onRq tg
  rw [hfair, htaken, hleft, Form.shift_shift, Form.leaves_once] at hmoved
  rw [hfair]
  generalize (if (s.task t).fair then left.taskMoveGroupFair t (s.task t).onRq tg else
    left.setTaskRq t tg) = moved at hmoved ⊢
  have hjoined := enqueueTask_form_if moved t (s.task t).onRq 0 contrib
  have hfair' : (moved.task t).fair = (s.task t).fair := by
    rw [hmoved]
    rfl
  rwa [hfair', hmoved, Form.shift_shift, Int.add_comm, Form.leaves_once] at hjoined

end State

namespace State

/-- A step changes its own task only, so what holds of every form is kept when it holds of
this one. -/
lemma Forms.set {P : Form G C → Prop} {op : Op T G C} {t : T} {p : Form G C} (h : s.Forms P)
    (ht : op.target = some t) (hform : ((s.step op).task t).form = p) (hp : P p) : (s.step op).Forms P := by
  intro u hborn
  by_cases hu : u = t
  · rwa [hu, hform]
  · rw [(Frame.of_target ht).task u hu] at hborn ⊢
    exact h u hborn

lemma Placed.step {op : Op T G C} (h : s.Placed) (hop : op.Allowed s) : (s.step op).Placed := by
  cases op with
  | fork t parent fair tg vruntime =>
    refine Forms.set h rfl (congrArg Life.form (Function.update_self ..)) ?_
    have hnew : ∀ p : Form G C, p.state = .running → p.migrating = false → p.sumExecRuntime = 0 → p.Placed := by
      intro p hstate hmigrating hsum
      exact ⟨fun _ _ => hsum, fun hw => (by cases hstate.symm.trans hw), fun hm => (by cases hmigrating.symm.trans hm)⟩
    cases fair with
    | true | false => exact hnew _ rfl rfl rfl
  | wakeUpNewTask t cpu contrib =>
    refine Forms.set h rfl (wakeUpNewTask_form s t cpu contrib) ?_
    exact .of_queued rfl fun hw => by cases hop.2.2.symm.trans hw
  | setState t asleep =>
    refine Forms.set h rfl (congrArg Life.form (Function.update_self ..)) ?_
    refine .of_queued hop.2 ?_
    cases asleep <;> exact RunState.noConfusion
  | schedule t contrib =>
    obtain ⟨hborn, hon, hmigrating, hstate⟩ := hop
    refine Forms.set h rfl (schedule_form s t contrib) ?_
    exact ⟨fun _ hrunning => (by cases hstate.symm.trans hrunning), fun _ => rfl,
      fun hm => (by cases hmigrating.symm.trans hm)⟩
  | tryToWakeUp t cpu =>
    refine Forms.set h rfl (tryToWakeUp_form s t cpu) ?_
    exact ⟨fun _ hrunning => (by cases hrunning), fun _ => hop.2.1,
      fun hm => (by cases ((h t hop.1).not_migrating hop.2.1).symm.trans hm)⟩
  | ttwuDoActivate t thresh contrib =>
    exact Forms.set h rfl (ttwuDoActivate_form s t thresh contrib)
      (.of_queued rfl RunState.noConfusion)
  | tryToWakeUpLocal t thresh contrib =>
    exact Forms.set h rfl (tryToWakeUpLocal_form s t thresh contrib)
      (.of_queued rfl RunState.noConfusion)
  | setScheduler t fair thresh contrib =>
    have hplaced := h t hop.1
    exact Forms.set h rfl (setScheduler_form s t fair thresh contrib)
      ⟨hplaced.forked, hplaced.waking, hplaced.migrating⟩
  | schedMoveTask t tg contrib =>
    have hplaced := h t hop.1
    exact Forms.set h rfl (schedMoveTask_form s t tg contrib)
      ⟨hplaced.forked, hplaced.waking, hplaced.migrating⟩
  | deactivateTask t contrib =>
    exact Forms.set h rfl (deactivateTask_form s t contrib)
      (.of_queued hop.2.1 ((h t hop.1).not_waking hop.2.1))
  | activateTask t cpu contrib =>
    have hplaced := h t hop.1
    exact Forms.set h rfl (activateTask_form s t cpu contrib)
      (.of_queued (hplaced.migrating hop.2) (hplaced.not_waking (hplaced.migrating hop.2)))
  | updateCurr t deltaExec deltaVruntime contrib =>
    exact Forms.set h rfl (congrArg Life.form (Function.update_self ..))
      (.of_queued hop.2 ((h t hop.1).not_waking hop.2))
  | updateMinVruntime q minVruntime | updateBlockedLoad q decays => exact h

end State

end BigLittle.LifeCycle
