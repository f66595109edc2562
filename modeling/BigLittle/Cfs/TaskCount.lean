import Mathlib.Algebra.Group.Pi.Basic
import BigLittle.Cfs.LoadInvariant

/-!
# Counting tasks up the tree

The abstract side of `h_nr_running`: which entities are queued, which queues are
throttled, and the task counts of queues and CPUs. A queue should count the tasks queued
on it and, for the group entities queued on it, what their queues count; a CPU should
count what its root queue counts.

While an operation walks up the tree this fails at the queue or CPU that has not been
told yet, by the number of tasks that have come or gone. `gap` is the failure at every
place: an entity that is queued or dequeued makes a gap at its queue, and counting
closes the gap at a queue and makes the same one above, if the queue is carried there.
-/

namespace BigLittle.Cfs

open Finset
open Function (update update_of_ne update_self)

variable {T G C : Type*}

/-- Counts are taken in the ring of their words. -/
structure Roll (T G C : Type*) where
  taskQueue : T → QueueId G C
  onRq : Entity T G C → Bool
  throttled : QueueId G C → Bool
  hNrRunning : QueueId G C → ZMod (2 ^ 32)
  nrRunning : C → ZMod (2 ^ 32)

inductive Place (G C : Type*) where
  | queue (q : QueueId G C)
  | cpu (cpu : C)
deriving DecidableEq

/-- Where the count of a queue is counted in turn. -/
def Hierarchy.above (h : Hierarchy G) (q : QueueId G C) : Place G C :=
  match q.tg with
  | none => .cpu q.cpu
  | some g => .queue ⟨h.parent g, q.cpu⟩

namespace Roll

variable (h : Hierarchy G) (r : Roll T G C) {e : Entity T G C} {q : QueueId G C} {g : G} {cpu : C}
  {except except' : List (Entity T G C)}

def queueOf : Entity T G C → QueueId G C
  | .task t => r.taskQueue t
  | .group g cpu => ⟨h.parent g, cpu⟩

/-- What an entity counts for. -/
def tasks : Entity T G C → ZMod (2 ^ 32)
  | .task _ => 1
  | .group g cpu => r.hNrRunning ⟨some g, cpu⟩

/-- Whether the place above the queue counts it. -/
def carried (q : QueueId G C) : Bool :=
  match q.tg with
  | none => true
  | some g => r.onRq (.group g q.cpu)

def Occupied (q : QueueId G C) : Prop := ∃ e, r.onRq e = true ∧ r.queueOf h e = q

/-- The entity of a group is queued just when its queue has entities and is not
throttled. -/
def SettledAt (g : G) (cpu : C) : Prop :=
  r.onRq (.group g cpu) = true ↔ r.Occupied h ⟨some g, cpu⟩ ∧ r.throttled ⟨some g, cpu⟩ = false

/-- All group entities are settled but for those of the list. -/
def Settled (except : List (Entity T G C)) : Prop :=
  ∀ g cpu, .group g cpu ∉ except → r.SettledAt h g cpu

/-- An entity whose own queue, if it has one, has entities and is open. -/
def Ready (e : Entity T G C) : Prop :=
  ∀ g cpu, e = .group g cpu → r.Occupied h ⟨some g, cpu⟩ ∧ r.throttled ⟨some g, cpu⟩ = false

/-- The entity that owns a queue, if it is not that of the root. -/
def owner (q : QueueId G C) : List (Entity T G C) :=
  match q.tg with
  | none => []
  | some g => [.group g q.cpu]

variable [DecidableEq T] in
def setTaskQueue (t : T) (q : QueueId G C) : Roll T G C :=
  { r with taskQueue := update r.taskQueue t q }

section Settled

variable {h r}

lemma Settled.mono (hr : r.Settled h except) (hsub : except ⊆ except') : r.Settled h except' :=
  fun g cpu hnot => hr g cpu fun hmem => hnot (hsub hmem)

/-- An exception that is settled is none. -/
lemma Settled.drop (hr : r.Settled h (.group g cpu :: except)) (hg : r.SettledAt h g cpu) : r.Settled h except := by
  intro g' cpu' hnot
  by_cases heq : (Entity.group g' cpu' : Entity T G C) = .group g cpu
  · cases heq
    exact hg
  · exact hr g' cpu' fun hmem => (List.mem_cons.mp hmem).elim heq hnot

lemma Settled.drop_task {t : T} (hr : r.Settled h (.task t :: except)) : r.Settled h except :=
  fun g cpu hnot => hr g cpu fun hmem => (List.mem_cons.mp hmem).elim nofun hnot

lemma mem_owner : (Entity.group g cpu : Entity T G C) ∈ owner q ↔ q = ⟨some g, cpu⟩ := by
  obtain ⟨tg, cpu'⟩ := q
  cases tg with
  | none => simp [owner]
  | some g' => simp [owner, eq_comm]

lemma queueOf_group_ne (g : G) (cpu : C) : r.queueOf h (.group g cpu) ≠ ⟨some g, cpu⟩ := by
  intro heq
  have hparent : h.parent g = some g := congrArg QueueId.tg heq
  exact absurd (h.depth_parent hparent) (Nat.lt_irrefl _)

lemma above_ne (q : QueueId G C) : h.above q ≠ .queue q := by
  obtain ⟨tg, cpu⟩ := q
  cases tg with
  | none => exact nofun
  | some g =>
    intro heq
    have hparent : h.parent g = some g :=
      congrArg QueueId.tg (Place.queue.inj heq : (⟨h.parent g, cpu⟩ : QueueId G C) = _)
    exact absurd (h.depth_parent hparent) (Nat.lt_irrefl _)

/-- The owner of a queue is settled if it is carried or throttled, as the case may be. -/
lemma Settled.drop_owner (hr : r.Settled h (owner q))
    (hq : ∀ g, q.tg = some g → r.SettledAt h g q.cpu) : r.Settled h [] := by
  obtain ⟨tg, cpu⟩ := q
  cases tg with
  | none => exact hr
  | some g => exact Settled.drop hr (hq g rfl)

/-- The owner of the queue an entity is on, or joins, is not that entity. -/
lemma Settled.owner_settled (hr : r.Settled h [e]) (hq : r.queueOf h e = ⟨some g, cpu⟩) : r.SettledAt h g cpu := by
  refine hr g cpu ?_
  rw [List.mem_singleton]
  rintro rfl
  exact queueOf_group_ne g cpu hq

variable [DecidableEq T]

lemma setTaskQueue_mem {t : T} (hoff : r.onRq (.task t) = false) (q q' : QueueId G C) (e : Entity T G C) :
    r.onRq e = true ∧ (r.setTaskQueue t q).queueOf h e = q' ↔ r.onRq e = true ∧ r.queueOf h e = q' := by
  refine and_congr_right fun hon => ?_
  cases e with
  | group g cpu => exact Iff.rfl
  | task t' =>
    have hne : t' ≠ t := by
      rintro rfl
      exact Bool.false_ne_true (hoff.symm.trans hon)
    have hsame : (r.setTaskQueue t q).taskQueue t' = r.taskQueue t' := update_of_ne hne _ _
    rw [queueOf, queueOf, hsame]

lemma Settled.setTaskQueue {t : T} (hr : r.Settled h except) (hoff : r.onRq (.task t) = false)
    (q : QueueId G C) : (r.setTaskQueue t q).Settled h except := by
  intro g cpu hnot
  have hoccupied : (r.setTaskQueue t q).Occupied h ⟨some g, cpu⟩ ↔ r.Occupied h ⟨some g, cpu⟩ :=
    exists_congr fun e => setTaskQueue_mem hoff q _ e
  rw [SettledAt, hoccupied]
  exact hr g cpu hnot

end Settled

variable [DecidableEq G] [DecidableEq C]

variable [DecidableEq T] in
def setOnRq (e : Entity T G C) (on : Bool) : Roll T G C :=
  { r with onRq := update r.onRq e on }

def setThrottled (q : QueueId G C) (throttled : Bool) : Roll T G C :=
  { r with throttled := update r.throttled q throttled }

def count (q : QueueId G C) (delta : ZMod (2 ^ 32)) : Roll T G C :=
  { r with hNrRunning := update r.hNrRunning q (r.hNrRunning q + delta) }

def countCpu (cpu : C) (delta : ZMod (2 ^ 32)) : Roll T G C :=
  { r with nrRunning := update r.nrRunning cpu (r.nrRunning cpu + delta) }

section Gap

variable (delta : ZMod (2 ^ 32))

variable {h r} in
lemma queueOf_count (q : QueueId G C) (delta : ZMod (2 ^ 32)) (e : Entity T G C) :
    (r.count q delta).queueOf h e = r.queueOf h e := by cases e <;> rfl

variable [DecidableEq T] in
lemma tasks_count (g : G) (cpu : C) (e : Entity T G C) : (r.count ⟨some g, cpu⟩ delta).tasks e = r.tasks e +
    if e = .group g cpu then delta else 0 := by
  cases e with
  | task t => simp [tasks]
  | group g' cpu' =>
    dsimp only [tasks, count]
    by_cases hg : g' = g ∧ cpu' = cpu
    · obtain ⟨rfl, rfl⟩ := hg
      simp
    · have hne : (⟨some g', cpu'⟩ : QueueId G C) ≠ ⟨some g, cpu⟩ := by simpa using hg
      rw [update_of_ne hne, if_neg (by simpa using hg), add_zero]

variable [Fintype (Entity T G C)]

/-- What the queue should count. -/
def queued (q : QueueId G C) : ZMod (2 ^ 32) :=
  ∑ e with r.onRq e = true ∧ r.queueOf h e = q, r.tasks e

/-- How much more a place counts than it should. -/
def gap : Place G C → ZMod (2 ^ 32)
  | .queue q => r.hNrRunning q - r.queued h q
  | .cpu cpu => r.nrRunning cpu - r.hNrRunning ⟨none, cpu⟩

variable {h r}

lemma queued_eq (q : QueueId G C) : r.queued h q = ∑ e, if r.onRq e = true ∧ r.queueOf h e = q then r.tasks e else 0 :=
  sum_filter _ _

lemma hNrRunning_of_gap (hgap : r.gap h (.queue q) = 0) : r.hNrRunning q = r.queued h q :=
  sub_eq_zero.mp hgap

lemma queued_of_not_occupied (hq : ¬ r.Occupied h q) : r.queued h q = 0 := by
  rw [queued_eq]
  refine sum_eq_zero fun e _ => if_neg fun he => hq ⟨e, he⟩

/-- A queue with one entity counts what that entity counts for. -/
lemma queued_of_only (he : r.onRq e = true) (hqueue : r.queueOf h e = q)
    (honly : ∀ e', r.onRq e' = true → r.queueOf h e' = q → e' = e) : r.queued h q = r.tasks e := by
  rw [queued_eq, sum_eq_single e]
  · rw [if_pos ⟨he, hqueue⟩]
  · exact fun e' _ hne => if_neg fun h' => hne (honly e' h'.1 h'.2)
  · exact fun h' => absurd (mem_univ e) h'

lemma gap_countCpu (cpu : C) (delta : ZMod (2 ^ 32)) :
    (r.countCpu cpu delta).gap h = r.gap h + Pi.single (.cpu cpu) delta := by
  funext place
  rw [Pi.add_apply, Pi.single_apply]
  cases place with
  | queue q =>
    have hqueued : (r.countCpu cpu delta).queued h q = r.queued h q := by
      rw [queued_eq, queued_eq]
      refine sum_congr rfl fun e _ => ?_
      cases e <;> rfl
    rw [gap, gap, hqueued]
    simp [countCpu]
  | cpu cpu' =>
    by_cases hcpu : cpu' = cpu
    · simp [gap, countCpu, hcpu]
      abel
    · simp [gap, countCpu, hcpu]

lemma gap_countCpu_neg {delta : ZMod (2 ^ 32)}
    (hgap : r.gap h = Pi.single (.cpu cpu) delta) : (r.countCpu cpu (-delta)).gap h = 0 := by
  rw [gap_countCpu, hgap, ← Pi.single_add, add_neg_cancel, Pi.single_zero]

variable [DecidableEq T]

/-- The sum when the flag of one entity changes. -/
lemma queued_setOnRq (on : Bool) (q : QueueId G C) : (r.setOnRq e on).queued h q =
      r.queued h q + if r.queueOf h e = q then
        (if on then r.tasks e else 0) - (if r.onRq e then r.tasks e else 0) else 0 := by
  rw [queued_eq, queued_eq, ← add_sum_erase _ _ (mem_univ e),
    ← add_sum_erase univ _ (mem_univ e)]
  have hrest : ∀ e' ∈ univ.erase e, (if (r.setOnRq e on).onRq e' = true ∧ (r.setOnRq e on).queueOf h e' = q then
        (r.setOnRq e on).tasks e' else 0) =
      if r.onRq e' = true ∧ r.queueOf h e' = q then r.tasks e' else 0 := by
    intro e' he'
    have hon : (r.setOnRq e on).onRq e' = r.onRq e' :=
      update_of_ne (ne_of_mem_erase he') _ _
    rw [hon]
    cases e' <;> rfl
  have hself : (r.setOnRq e on).onRq e = on := update_self _ _ _
  have hqueue : (r.setOnRq e on).queueOf h e = r.queueOf h e := by cases e <;> rfl
  have htasks : (r.setOnRq e on).tasks e = r.tasks e := by cases e <;> rfl
  rw [sum_congr rfl hrest, hself, hqueue, htasks]
  by_cases hq : r.queueOf h e = q
  · simp only [hq, and_true, if_true]
    abel
  · simp [hq]

lemma gap_setOnRq (on : Bool) : (r.setOnRq e on).gap h = r.gap h - Pi.single (.queue (r.queueOf h e))
      ((if on then r.tasks e else 0) - (if r.onRq e then r.tasks e else 0)) := by
  funext place
  cases place with
  | cpu cpu => simp [gap, setOnRq]
  | queue q =>
    rw [gap, queued_setOnRq, Pi.sub_apply, gap, Pi.single_apply]
    simp only [Place.queue.injEq, eq_comm (a := q)]
    exact sub_add_eq_sub_sub _ _ _

lemma gap_setOnRq_true (hoff : r.onRq e = false) :
    (r.setOnRq e true).gap h = r.gap h - Pi.single (.queue (r.queueOf h e)) (r.tasks e) := by
  simp [gap_setOnRq, hoff]

lemma gap_setOnRq_false (hon : r.onRq e = true) :
    (r.setOnRq e false).gap h = r.gap h + Pi.single (.queue (r.queueOf h e)) (r.tasks e) := by
  simp [gap_setOnRq, hon, Pi.single_neg]

/-- The sum when the count of one queue changes: it follows where that queue is
carried. -/
lemma queued_count (q q' : QueueId G C) : (r.count q delta).queued h q' = r.queued h q' + if r.carried q = true ∧
    h.above q = .queue q' then delta else 0 := by
  obtain ⟨tg, cpu⟩ := q
  cases tg with
  | none =>
    -- no entity stands for the root
    have htasks : ∀ e, (r.count ⟨none, cpu⟩ delta).tasks e = r.tasks e := by
      intro e
      cases e with
      | task t => rfl
      | group g cpu' =>
        have hne : (⟨some g, cpu'⟩ : QueueId G C) ≠ ⟨none, cpu⟩ := by simp
        simp [tasks, count, hne]
    rw [if_neg (by simp [Hierarchy.above]), add_zero, queued_eq, queued_eq]
    exact sum_congr rfl fun e _ => by rw [queueOf_count, htasks]; rfl
  | some g =>
    rw [queued_eq, queued_eq]
    have hterm : ∀ e, (if (r.count ⟨some g, cpu⟩ delta).onRq e = true ∧
          (r.count ⟨some g, cpu⟩ delta).queueOf h e = q' then
            (r.count ⟨some g, cpu⟩ delta).tasks e else 0) =
        (if r.onRq e = true ∧ r.queueOf h e = q' then r.tasks e else 0) +
          if e = .group g cpu then
            (if r.onRq (.group g cpu) = true ∧ r.queueOf h (.group g cpu) = q' then delta else 0)
          else 0 := by
      intro e
      have hon : (r.count ⟨some g, cpu⟩ delta).onRq e = r.onRq e := rfl
      rw [queueOf_count, tasks_count, hon]
      by_cases he : e = .group g cpu
      · rw [he]
        split
        · simp
        · simp
      · simp [he]
    rw [sum_congr rfl fun e _ => hterm e, sum_add_distrib, sum_ite_eq' _ _,
      if_pos (mem_univ _)]
    by_cases hq : (⟨h.parent g, cpu⟩ : QueueId G C) = q'
    · simp [carried, Hierarchy.above, queueOf, hq]
    · simp [carried, Hierarchy.above, queueOf, hq]

lemma gap_count (q : QueueId G C) : (r.count q delta).gap h = r.gap h +
    Pi.single (.queue q) delta - if r.carried q then Pi.single (h.above q) delta else 0 := by
  have hcount : ∀ q', (r.count q delta).hNrRunning q' = r.hNrRunning q' + if q' = q then delta else 0 := by
    intro q'
    by_cases hq : q' = q
    · simp [count, hq]
    · simp [count, hq]
  funext place
  rw [Pi.sub_apply, Pi.add_apply]
  cases place with
  | queue q' =>
    rw [gap, gap, queued_count, hcount, Pi.single_apply]
    simp only [Place.queue.injEq]
    cases hcarried : r.carried q with
    | true =>
      rw [if_pos rfl, Pi.single_apply]
      simp only [true_and, eq_comm (a := Place.queue q')]
      abel
    | false =>
      simp only [Bool.false_eq_true, false_and, if_false, Pi.zero_apply]
      abel
  | cpu cpu =>
    have hself : (Pi.single (.queue q) delta : Place G C → ZMod (2 ^ 32)) (.cpu cpu) = 0 := by
      simp
    have hnr : (r.count q delta).nrRunning cpu = r.nrRunning cpu := rfl
    rw [gap, gap, hcount, hself, hnr]
    obtain ⟨tg, cpu'⟩ := q
    cases tg with
    | none =>
      have hcarried : r.carried ⟨none, cpu'⟩ = true := rfl
      rw [hcarried, if_pos rfl, Hierarchy.above, Pi.single_apply]
      by_cases hcpu : cpu = cpu'
      · simp only [hcpu, if_true]
        abel
      · simp [hcpu]
    | some g =>
      have habove : (Pi.single (h.above ⟨some g, cpu'⟩) delta : Place G C → ZMod (2 ^ 32))
          (.cpu cpu) = 0 := by simp [Hierarchy.above]
      cases r.carried ⟨some g, cpu'⟩ with
      | true => simp [habove]
      | false => simp

/-- A task that is off counts nowhere. -/
lemma gap_setTaskQueue {t : T} (hoff : r.onRq (.task t) = false) (q : QueueId G C) :
    (r.setTaskQueue t q).gap h = r.gap h := by
  funext place
  cases place with
  | cpu cpu => rfl
  | queue q' =>
    have hqueued : (r.setTaskQueue t q).queued h q' = r.queued h q' := by
      rw [queued_eq, queued_eq]
      refine sum_congr rfl fun e _ => ?_
      refine if_congr (setTaskQueue_mem hoff q q' e) ?_ rfl
      cases e <;> rfl
    rw [gap, hqueued]
    rfl

/-- A queue closes its gap; the place above has it then, if it counts the queue. -/
lemma gap_count_neg {delta : ZMod (2 ^ 32)} (hgap : r.gap h = Pi.single (.queue q) delta) :
    (r.count q (-delta)).gap h = if r.carried q then Pi.single (h.above q) delta else 0 := by
  rw [gap_count, hgap, ← Pi.single_add, add_neg_cancel, Pi.single_zero, zero_sub]
  split
  · rw [Pi.single_neg, neg_neg]
  · exact neg_zero

end Gap

section SetOnRq

variable {h r}

/-- An entity does not count for more when its queue does. -/
lemma tasks_count_queueOf (delta : ZMod (2 ^ 32)) : (r.count (r.queueOf h e) delta).tasks e = r.tasks e := by
  cases e with
  | task t => rfl
  | group g cpu => exact update_of_ne (Ne.symm (queueOf_group_ne g cpu)) _ _

lemma Settled.setThrottled (hr : r.Settled h except) (q : QueueId G C) (throttled : Bool) :
    (r.setThrottled q throttled).Settled h (owner q ++ except) := by
  intro g cpu hnot
  simp only [List.mem_append, not_or, mem_owner] at hnot
  have hflag : (r.setThrottled q throttled).throttled ⟨some g, cpu⟩ = r.throttled ⟨some g, cpu⟩ :=
    update_of_ne (Ne.symm hnot.1) _ _
  rw [SettledAt, hflag]
  exact hr g cpu hnot.2

lemma setThrottled_of_ne {q' : QueueId G C} (hne : q' ≠ q) (throttled : Bool) :
    (r.setThrottled q throttled).throttled q' = r.throttled q' := update_of_ne hne _ _

lemma setThrottled_self (throttled : Bool) : (r.setThrottled q throttled).throttled q = throttled := update_self _ _ _

variable [DecidableEq T] (on : Bool)

@[simp] lemma queueOf_setOnRq (e' : Entity T G C) :
    (r.setOnRq e on).queueOf h e' = r.queueOf h e' := by cases e' <;> rfl

lemma onRq_setOnRq_self : (r.setOnRq e on).onRq e = on := update_self _ _ _

lemma onRq_setOnRq_of_ne {e' : Entity T G C} (hne : e' ≠ e) (on : Bool) :
    (r.setOnRq e on).onRq e' = r.onRq e' := update_of_ne hne _ _

lemma occupied_setOnRq_of_ne (hq : r.queueOf h e ≠ q) : (r.setOnRq e on).Occupied h q ↔ r.Occupied h q := by
  refine exists_congr fun e' => ?_
  rw [queueOf_setOnRq]
  refine and_congr_left fun hqueue => ?_
  have hne : e' ≠ e := by
    rintro rfl
    exact hq hqueue
  rw [onRq_setOnRq_of_ne hne]

lemma occupied_setOnRq_true : (r.setOnRq e true).Occupied h (r.queueOf h e) :=
  ⟨e, onRq_setOnRq_self true, queueOf_setOnRq true e⟩

/-- A change of one entity concerns that entity and the owner of its queue. -/
lemma Settled.setOnRq (hr : r.Settled h except) (e : Entity T G C) (on : Bool) :
    (r.setOnRq e on).Settled h (e :: owner (r.queueOf h e) ++ except) := by
  intro g cpu hnot
  simp only [List.cons_append, List.mem_cons, List.mem_append, not_or, mem_owner] at hnot
  obtain ⟨hself, howner, hexcept⟩ := hnot
  rw [SettledAt, onRq_setOnRq_of_ne hself, occupied_setOnRq_of_ne on howner]
  exact hr g cpu hexcept

/-- When a ready entity is queued, the owner of its queue may be left unsettled. -/
lemma Settled.join (hr : r.Settled h [e]) (hready : r.Ready h e) :
    (r.setOnRq e true).Settled h (owner (r.queueOf h e)) := by
  have hset : (r.setOnRq e true).Settled h (e :: owner (r.queueOf h e)) :=
    (hr.setOnRq e true).mono (by simp)
  cases e with
  | task t => exact hset.drop_task
  | group g cpu =>
    apply hset.drop
    obtain ⟨hoccupied, hopen⟩ := hready g cpu rfl
    rw [SettledAt, onRq_setOnRq_self, occupied_setOnRq_of_ne true (queueOf_group_ne g cpu)]
    exact iff_of_true rfl ⟨hoccupied, hopen⟩

lemma carried_setOnRq : (r.setOnRq e on).carried (r.queueOf h e) = r.carried (r.queueOf h e) := by
  cases hq : r.queueOf h e with
  | mk tg cpu =>
    cases tg with
    | none => rfl
    | some g =>
      refine onRq_setOnRq_of_ne ?_ on
      rintro rfl
      exact queueOf_group_ne (r := r) g cpu hq

/-- The owner keeps up if it is queued already or the queue is throttled. -/
lemma Settled.join_settled (hr : r.Settled h [e]) (hready : r.Ready h e)
    (hq : r.carried (r.queueOf h e) = true ∨ r.throttled (r.queueOf h e) = true) : (r.setOnRq e true).Settled h [] := by
  refine (hr.join hready).drop_owner fun g hg => ?_
  obtain ⟨cpu, hself⟩ : ∃ cpu, r.queueOf h e = ⟨some g, cpu⟩ := ⟨_, by rw [← hg]⟩
  have hbefore := hr.owner_settled hself
  have honRq : (r.setOnRq e true).onRq (.group g cpu) = r.onRq (.group g cpu) := by
    refine onRq_setOnRq_of_ne ?_ true
    rintro rfl
    exact queueOf_group_ne g cpu hself
  have hoccupied : (r.setOnRq e true).Occupied h ⟨some g, cpu⟩ := hself ▸ occupied_setOnRq_true
  rw [hself] at hq ⊢
  rw [SettledAt, honRq]
  cases hq with
  | inl hcarried => exact iff_of_true hcarried ⟨hoccupied, (hbefore.mp hcarried).2⟩
  | inr hthrottled =>
    have hoff : r.onRq (.group g cpu) ≠ true := fun hon =>
      Bool.false_ne_true ((hbefore.mp hon).2.symm.trans hthrottled)
    exact iff_of_false hoff fun hopen => Bool.false_ne_true (hopen.2.symm.trans hthrottled)

/-- If it does not, the queue was empty. -/
lemma Settled.join_only (hr : r.Settled h [e]) (hcarried : r.carried (r.queueOf h e) = false)
    (hopen : r.throttled (r.queueOf h e) = false) {e' : Entity T G C}
    (he' : (r.setOnRq e true).onRq e' = true) (hqueue : r.queueOf h e' = r.queueOf h e) : e' = e := by
  by_contra hne
  rw [onRq_setOnRq_of_ne hne] at he'
  cases hq : r.queueOf h e with
  | mk tg cpu =>
    rw [hq] at hcarried hopen hqueue
    cases tg with
    | none => exact Bool.false_ne_true hcarried.symm
    | some g =>
      have hon := (hr.owner_settled hq).mpr ⟨⟨e', he', hqueue⟩, hopen⟩
      exact Bool.false_ne_true (hcarried.symm.trans hon)

end SetOnRq

end Roll

end BigLittle.Cfs
