import BigLittle.LifeCycle.Form

/-!
# When a `vruntime` is relative

A fair task that is queued or asleep has the `min_vruntime` of its own queue in its
`vruntime`, once; a task that is newly forked, waking, migrating or in another class has
none. Three steps break this: `switched_to_fair` leaves the `vruntime` of a sleeping
task relative, `switched_from_fair` takes a waking task for a sleeping one, and
`task_move_group_fair` takes a sleeping task that has not run yet for a forked one.
-/

namespace BigLittle.LifeCycle

open Cfs

variable {T G C : Type*} [DecidableEq T] [DecidableEq G] [DecidableEq C]

namespace Form

/-- Newly forked, waking, migrating or outside the fair class. -/
def Relative (p : Form G C) : Prop := p.NewlyForked ∨ p.state = .waking ∨ p.migrating = true ∨ p.fair = false
  deriving Decidable

/-- A relative `vruntime` includes no `min_vruntime`, an absolute one that of the task's queue. -/
def InForm (p : Form G C) : Prop := p.base = if p.Relative then 0 else Pi.single p.queue 1

end Form

namespace Form.InForm

variable {p : Form G C} (h : p.InForm)
include h

lemma relative (hrel : p.Relative) : p.base = 0 := by rw [h, if_pos hrel]

/-- A fair task that leaves its queue loses the `min_vruntime`. -/
lemma leave (hrel : ¬p.Relative) : p.base + Pi.single p.queue (-1) = 0 := by
  rw [h, if_neg hrel, ← Pi.single_add, add_neg_cancel, Pi.single_zero]

lemma wakeUpNewTask (hp : p.Placed) (hoff : p.onRq = false) (hstate : p.state = .running)
    (cpu : C) : (p.wakeUpNewTask cpu).InForm := by
  have hbase := h.relative (.inl ⟨hoff, hstate⟩)
  have hmigrating := hp.not_migrating hoff
  cases hfair : p.fair <;>
    simp [InForm, Form.wakeUpNewTask, shift, setCpu, Relative, NewlyForked, hbase, hfair, hstate, hmigrating]

lemma setState (hp : p.Placed) (hon : p.onRq = true) {state : RunState}
    (hstate : state ≠ .waking) : { p with state := state }.InForm := by
  have hwaking := hp.not_waking hon
  rw [InForm, h]
  simp [Relative, NewlyForked, hon, hwaking, hstate]

lemma schedule (hmigrating : p.migrating = false) (hon : p.onRq = true)
    (hstate : p.state = .sleeping) : { p with onRq := false }.InForm := by
  rw [InForm, h]
  simp [Relative, NewlyForked, hon, hstate, hmigrating]

lemma tryToWakeUp (hp : p.Placed) (hoff : p.onRq = false) (hstate : p.state = .sleeping)
    (cpu : C) : (p.tryToWakeUp cpu).InForm := by
  have hmigrating := hp.not_migrating hoff
  have hwaking : (p.tryToWakeUp cpu).Relative := .inr (.inl rfl)
  rw [InForm, if_pos hwaking, Form.tryToWakeUp, shift, setCpu]
  cases hfair : p.fair with
  | true => exact h.leave (by simp [Relative, NewlyForked, hfair, hstate, hmigrating])
  | false => exact (congrArg Form.base p.shift_zero).trans (h.relative (.inr (.inr (.inr hfair))))

lemma ttwuDoActivate (hp : p.Placed) (hstate : p.state = .waking) : p.ttwuDoActivate.InForm := by
  have hbase := h.relative (.inr (.inl hstate))
  have hmigrating := hp.not_migrating (hp.waking hstate)
  cases hfair : p.fair <;> simp [InForm, Form.ttwuDoActivate, shift, Relative, NewlyForked, hbase, hfair, hmigrating]

lemma tryToWakeUpLocal (hstate : p.state = .sleeping) : { p with onRq := true, state := .running }.InForm := by
  rw [InForm, h]
  simp [Relative, NewlyForked, hstate]

lemma deactivateTask (hp : p.Placed) (hon : p.onRq = true) (hmigrating : p.migrating = false) :
    p.deactivateTask.InForm := by
  have hwaking := hp.not_waking hon
  have hrel : p.deactivateTask.Relative := .inr (.inr (.inl rfl))
  rw [InForm, if_pos hrel, Form.deactivateTask, shift]
  cases hfair : p.fair with
  | true => exact h.leave (by simp [Relative, NewlyForked, hfair, hon, hwaking, hmigrating])
  | false => exact (congrArg Form.base p.shift_zero).trans (h.relative (.inr (.inr (.inr hfair))))

lemma activateTask (hp : p.Placed) (hmigrating : p.migrating = true) (cpu : C) : (p.activateTask cpu).InForm := by
  have hbase := h.relative (.inr (.inr (.inl hmigrating)))
  have hon := hp.migrating hmigrating
  have hwaking := hp.not_waking hon
  cases hfair : p.fair <;>
    simp [InForm, Form.activateTask, shift, setCpu, Relative, NewlyForked, hbase, hfair, hon, hwaking]

/-- A change of class keeps the form when it does not bring a sleeping task into the fair
class or a waking one out of it. -/
lemma setScheduler (hp : p.Placed) (hmigrating : p.migrating = false) {fair : Bool}
    (henters : ¬(fair = true ∧ p.fair = false ∧ p.onRq = false ∧ p.state = .sleeping))
    (hleaves : ¬(fair = false ∧ p.fair = true ∧ p.state = .waking)) : (p.setScheduler fair).InForm := by
  rw [InForm] at h ⊢
  cases hon : p.onRq with
  | true =>
    have hwaking := hp.not_waking hon
    cases hfair : p.fair <;> cases fair <;>
      simp_all [Form.setScheduler, shift, Relative, NewlyForked, Pi.single_neg]
  | false =>
    cases hstate : p.state <;> cases hfair : p.fair <;> cases fair <;>
      simp_all [Form.setScheduler, shift, Relative, NewlyForked, Pi.single_neg]

/-- A move between groups does when a sleeping fair task has run before. -/
lemma schedMoveTask (hp : p.Placed) (hmigrating : p.migrating = false)
    (hruns : ¬(p.fair = true ∧ p.onRq = false ∧ p.state = .sleeping ∧ p.sumExecRuntime = 0))
    (tg : Option G) : (p.schedMoveTask tg).InForm := by
  rw [InForm] at h ⊢
  cases hfair : p.fair with
  | false => simp_all [Form.schedMoveTask, shift, setGroup, Relative, NewlyForked]
  | true =>
    cases hon : p.onRq with
    | true =>
      have hwaking := hp.not_waking hon
      simp_all [Form.schedMoveTask, shift, setGroup, Relative, NewlyForked, Pi.single_neg]
    | false =>
      have hforked := hp.forked hon
      cases hstate : p.state <;>
        simp_all [Form.schedMoveTask, shift, setGroup, taken, Relative, NewlyForked, Pi.single_neg]

end Form.InForm

/-- What the code relies on and does not check: a task does not enter the fair class
asleep or leave it while it is being woken, and moves to another group asleep only
after it has run. -/
def Op.KeepsForm (s : State T G C) : Op T G C → Prop
  | .setScheduler t fair _ _ =>
    ¬(fair = true ∧ (s.task t).fair = false ∧ (s.task t).Asleep) ∧
      ¬(fair = false ∧ (s.task t).fair = true ∧ (s.task t).state = .waking)
  | .schedMoveTask t _ _ =>
    ¬((s.task t).fair = true ∧ (s.task t).Asleep ∧ (s.task t).sumExecRuntime = 0)
  | _ => True

instance (s : State T G C) (op : Op T G C) : Decidable (op.KeepsForm s) := by
  induction op using Op.casesOn <;> dsimp only [Op.KeepsForm] <;> infer_instance

namespace State

variable {s : State T G C}

/-- What holds in every state: the tasks are where they can be, in the right form. -/
structure FormInv (s : State T G C) : Prop where
  placed : s.Placed
  right : s.Forms Form.InForm

lemma FormInv.step {op : Op T G C} (h : s.FormInv) (hop : op.Allowed s) (hkeeps : op.KeepsForm s) :
    (s.step op).FormInv := by
  refine ⟨h.placed.step hop, ?_⟩
  cases op with
  | updateMinVruntime q minVruntime | updateBlockedLoad q decays => exact h.right
  | fork t parent fair tg vruntime =>
    refine h.right.set rfl (congrArg Life.form (Function.update_self ..)) ?_
    -- the child starts with a `vruntime` relative to the queue of its parent
    cases fair with
    | true => exact sub_self _
    | false => rfl
  | wakeUpNewTask t cpu contrib =>
    exact h.right.set rfl (wakeUpNewTask_form s t cpu contrib)
      ((h.right t hop.1).wakeUpNewTask (h.placed t hop.1) hop.2.1 hop.2.2 cpu)
  | setState t asleep =>
    refine h.right.set rfl (congrArg Life.form (Function.update_self ..)) ?_
    refine (h.right t hop.1).setState (h.placed t hop.1) hop.2 ?_
    cases asleep <;> exact RunState.noConfusion
  | schedule t contrib =>
    obtain ⟨hborn, hon, hmigrating, hstate⟩ := hop
    exact h.right.set rfl (schedule_form s t contrib)
      ((h.right t hborn).schedule hmigrating hon hstate)
  | tryToWakeUp t cpu =>
    exact h.right.set rfl (tryToWakeUp_form s t cpu)
      ((h.right t hop.1).tryToWakeUp (h.placed t hop.1) hop.2.1 hop.2.2 cpu)
  | ttwuDoActivate t thresh contrib =>
    exact h.right.set rfl (ttwuDoActivate_form s t thresh contrib)
      ((h.right t hop.1).ttwuDoActivate (h.placed t hop.1) hop.2)
  | tryToWakeUpLocal t thresh contrib =>
    exact h.right.set rfl (tryToWakeUpLocal_form s t thresh contrib)
      ((h.right t hop.1).tryToWakeUpLocal hop.2.2)
  | setScheduler t fair thresh contrib =>
    exact h.right.set rfl (setScheduler_form s t fair thresh contrib)
      ((h.right t hop.1).setScheduler (h.placed t hop.1) hop.2 hkeeps.1 hkeeps.2)
  | schedMoveTask t tg contrib =>
    refine h.right.set rfl (schedMoveTask_form s t tg contrib) ?_
    refine (h.right t hop.1).schedMoveTask (h.placed t hop.1) hop.2 ?_ tg
    rintro ⟨hfair, hoff, hstate, hsum⟩
    exact hkeeps ⟨hfair, ⟨hoff, hstate⟩, hsum⟩
  | deactivateTask t contrib =>
    exact h.right.set rfl (deactivateTask_form s t contrib)
      ((h.right t hop.1).deactivateTask (h.placed t hop.1) hop.2.1 hop.2.2)
  | activateTask t cpu contrib =>
    exact h.right.set rfl (activateTask_form s t cpu contrib)
      ((h.right t hop.1).activateTask (h.placed t hop.1) hop.2 cpu)
  | updateCurr t deltaExec deltaVruntime contrib =>
    exact h.right.set rfl (congrArg Life.form (Function.update_self ..)) (h.right t hop.1)

end State

omit [DecidableEq T] in
lemma boot_formInv (start : Start T G C) : (boot start).FormInv := ⟨boot_placed start, fun _ _ => rfl⟩

/-- In every run in which no task enters the fair class asleep, leaves it while it is being woken,
or moves to another group asleep before it has run, `vruntime` is relative exactly while the task is
newly forked, waking, migrating or outside the class. Between two times on a queue the
`min_vruntime` of the first is subtracted once and that of the second added once. -/
theorem vruntime_inForm (start : Start T G C) (ops : List (Op T G C))
    (hops : Run.Each State.step (fun s op => op.Allowed s ∧ op.KeepsForm s) (boot start) ops) :
    Run.Always State.step (fun s => ∀ t, (s.task t).born = true → (s.task t).InForm) (boot start) ops := by
  have hinv := Run.always_of_each (P := State.FormInv) (fun s op hs hop => hs.step hop.1 hop.2)
    (boot_formInv start) hops
  exact hinv.mono fun s hs => hs.right

/-- A child is forked, moved to the group, woken and put to sleep; it is then woken on the
other CPU, changes its class and back, and migrates. -/
theorem vruntime_inForm_child : Run.Always State.step (fun s => ∀ t, (s.task t).born = true → (s.task t).InForm) oneTask
      [.fork true false true none 5000, .schedMoveTask true (some ()) 0, .wakeUpNewTask true false 0,
        .updateCurr true 10 10 7, .setState true true, .schedule true 7, .tryToWakeUp true true,
        .ttwuDoActivate true 3 7, .setScheduler true false 0 7, .setScheduler true true 0 7,
        .deactivateTask true 7, .activateTask true false 7] :=
  vruntime_inForm _ _ (by decide +kernel)

/-- The task leaves the fair class while it is queued and comes back while it sleeps. -/
def backAsleep : List (Op Bool Unit Bool) :=
  [.setScheduler false false 0 7, .setState false true, .schedule false 7, .setScheduler false true 0 7]

/-- A sleeping task in the fair class whose `vruntime` is relative: the wake-up subtracts
`min_vruntime` once more. -/
theorem backAsleep_relative : Run.Each State.step (fun s op => op.Allowed s) oneTask backAsleep ∧
    ¬Run.Always State.step (fun s => ∀ t, (s.task t).born = true → (s.task t).InForm) oneTask backAsleep := by
  refine ⟨by decide +kernel, fun halways => ?_⟩
  have hform := halways.last false (by decide +kernel)
  have hbase := congrFun hform ⟨none, false⟩
  have hrel : ¬((backAsleep.foldl State.step oneTask).task false).Relative := by decide +kernel
  rw [if_neg hrel] at hbase
  revert hbase
  decide +kernel

end BigLittle.LifeCycle
