import BigLittle.Hmp.Cooldown

/-!
# Tasks a CPU expects

When a CPU is selected for a task, it notes one more pending task and its load ratio, so
that the next selection sees them before the task is enqueued. Any enqueue on the CPU
clears both counters: they count the selections since the last enqueue, of whatever
entity.

A selection holds the lock of its task and not that of the CPU, and reads and stores each counter by accesses of its
own. If another store comes between the two, it is lost: what the counters count holds as long as none does.

A log pairs the scheduler with the selections in progress and those that have been counted: once those that no enqueue
on the CPU followed, and once those whose own task has not been enqueued there.
-/

namespace BigLittle.Hmp

open Function (update update_apply update_of_ne update_self)
open Sched Cfs State List Word

variable {T G : Type*} {n : Nat}

structure Selection (T : Type*) where
  task : T
  load : Nat
deriving DecidableEq

/-- `cfs_nr_pending` and `cfs_pending_load`. -/
inductive Counter where
  | nrPending
  | pendingLoad
deriving DecidableEq

def Counter.width : Counter → Nat
  | nrPending => 32
  | pendingLoad => 64

namespace State

variable (s : State T G n)

def counter (c : Counter) (cpu : Fin n) : Nat :=
  match c with
  | .nrPending => (s.cfs ⟨none, cpu⟩).avg.nrPending
  | .pendingLoad => (s.cfs ⟨none, cpu⟩).avg.pendingLoad

def storeCounter [DecidableEq G] (c : Counter) (cpu : Fin n) (v : Nat) : State T G n :=
  { s with toState := s.toState.modifyCpuAvg cpu fun sa =>
      match c with
      | .nrPending => { sa with nrPending := v }
      | .pendingLoad => { sa with pendingLoad := v } }

end State

namespace Op

variable (s : State T G n) (cpu : Fin n)

def isSelect : Op T G n → Bool
  | .select _ _ => true
  | _ => false

/-- Enqueue a task that is not queued yet. -/
def EnqueuesTask (task : T) : Op T G n → Prop
  | .fair (.enqueue t _ _) =>
    t = task ∧ (s.se (.task t)).onRq = false ∧ (s.taskQueue t).cpu = cpu
  | _ => False

/-- Enqueue some entity: a task that is not queued yet, or the groups of a queue
that is unthrottled. -/
def Enqueues : Op T G n → Prop
  | .fair (.enqueue t _ _) => (s.se (.task t)).onRq = false ∧ (s.taskQueue t).cpu = cpu
  | .fair (.unthrottle q _) => s.toState.Requeues q ∧ q.cpu = cpu
  | _ => False

instance [DecidableEq T] (task : T) (op : Op T G n) : Decidable (op.EnqueuesTask s cpu task) := by
  unfold Op.EnqueuesTask
  split <;> infer_instance

instance (op : Op T G n) : Decidable (op.Enqueues s cpu) := by
  unfold Op.Enqueues
  split <;> infer_instance

end Op

/-- How far a selection has come with the two counters of its CPU: it has read one of them, or stored the first. -/
inductive Counting (n : Nat) where
  | read (c : Counter) (cpu : Fin n) (seen : Nat)
  | counted (cpu : Fin n)
deriving DecidableEq

namespace Counting

/-- The counter that is to be stored next. -/
def reading : Counting n → Option (Counter × Fin n)
  | .read c cpu _ => some (c, cpu)
  | .counted _ => none

/-- Where the selection has been counted. -/
def place : Counting n → Option (Fin n)
  | .read .nrPending _ _ => none
  | .read .pendingLoad cpu _ => some cpu
  | .counted cpu => some cpu

end Counting

/-- The accesses of `hmp_select_task_rq_fair` to the counters; any other operation is one step. -/
inductive PendingAccess (T G : Type*) (n : Nat) where
  | other (op : Op T G n) (h : op.isSelect = false)
  /-- read `cfs_nr_pending` of the CPU that is selected -/
  | select (p : T) (cpu : Fin n)
  | readLoad (p : T)
  /-- store what has been read, with the task added -/
  | store (p : T)

structure SelectionLog (T G : Type*) (n : Nat) where
  state : State T G n
  counting : T → Option (Counting n) := fun _ => none
  /-- the tasks counted since the last enqueue on the CPU -/
  counted : Fin n → List T := fun _ => []
  /-- the selections whose load has been added since -/
  charged : Fin n → List (Selection T) := fun _ => []
  /-- the tasks counted that have not been enqueued on the CPU since -/
  waiting : Fin n → List T := fun _ => []

namespace SelectionLog

variable (cfg : Config G n) (l : SelectionLog T G n)

def reading (p : T) : Option (Counter × Fin n) := (l.counting p).bind Counting.reading

/-- What a counter is to be. -/
def total (c : Counter) (cpu : Fin n) : Nat :=
  match c with
  | .nrPending => (l.counted cpu).length
  | .pendingLoad => ((l.charged cpu).map Selection.load).sum

/-- The counters of the CPU count the selections since the last enqueue. These are of tasks that wait, so when nothing
waits for the CPU both are zero. -/
structure Counts (cpu : Fin n) : Prop where
  nr : (l.state.cfs ⟨none, cpu⟩).avg.nrPending = wrap 32 (l.counted cpu).length
  load : (l.state.cfs ⟨none, cpu⟩).avg.pendingLoad = wrap 64 ((l.charged cpu).map Selection.load).sum
  counted : (l.counted cpu).Sublist (l.waiting cpu)
  charged : ∀ x ∈ l.charged cpu, x.task ∈ l.waiting cpu
  zero : l.waiting cpu = [] →
    (l.state.cfs ⟨none, cpu⟩).avg.nrPending = 0 ∧ (l.state.cfs ⟨none, cpu⟩).avg.pendingLoad = 0

variable [DecidableEq T] [DecidableEq G]

def step (l : SelectionLog T G n) : PendingAccess T G n → SelectionLog T G n
  | .other op _ =>
    { l with
      state := l.state.step cfg op
      counted := fun cpu => if op.Enqueues l.state cpu then [] else l.counted cpu
      charged := fun cpu => if op.Enqueues l.state cpu then [] else l.charged cpu
      waiting := fun cpu => (l.waiting cpu).filter fun p => ¬ op.EnqueuesTask l.state cpu p }
  | .select p cpu =>
    if l.counting p = none then
      let phase := .read .nrPending cpu (l.state.counter .nrPending cpu)
      { l with counting := update l.counting p (some phase) }
    else l
  | .readLoad p =>
    match l.counting p with
    | some (.counted cpu) =>
      let phase := .read .pendingLoad cpu (l.state.counter .pendingLoad cpu)
      { l with counting := update l.counting p (some phase) }
    | _ => l
  | .store p =>
    match l.counting p with
    | some (.read .nrPending cpu seen) =>
      { l with
        state := l.state.storeCounter .nrPending cpu (add 32 seen 1)
        counting := update l.counting p (some (.counted cpu))
        counted := update l.counted cpu (p :: l.counted cpu)
        waiting := update l.waiting cpu (p :: l.waiting cpu) }
    | some (.read .pendingLoad cpu seen) =>
      { l with
        state := l.state.storeCounter .pendingLoad cpu (add 64 seen (l.state.seLoad p))
        counting := update l.counting p none
        charged := update l.charged cpu (⟨p, l.state.seLoad p⟩ :: l.charged cpu) }
    | _ => l

end SelectionLog

/-- A task is enqueued only after its selection, and neither an enqueue nor a store comes between the two accesses of
another selection to the same counter. -/
def PendingAccess.Allowed [DecidableEq T] (l : SelectionLog T G n) : PendingAccess T G n → Prop
  | .other op _ => (∀ p cpu, op.EnqueuesTask l.state cpu p → l.counting p = none) ∧
      ∀ p, ∀ r ∈ l.reading p, ¬ op.Enqueues l.state r.2
  | .store p => ∀ q, q ≠ p → ∀ r ∈ l.reading p, r ∉ l.reading q
  | .select _ _ | .readLoad _ => True

instance [DecidableEq T] [Fintype T] (l : SelectionLog T G n) (a : PendingAccess T G n) : Decidable (a.Allowed l) :=
  match a with
  | .other _ _ => inferInstanceAs (Decidable (_ ∧ ∀ p, ∀ r ∈ l.reading p, _))
  | .store p => inferInstanceAs (Decidable (∀ q, q ≠ p → ∀ r ∈ l.reading p, _))
  | .select _ _ | .readLoad _ => isTrue trivial

section Events

variable {r : Roster T G (Fin n)}

/-- No events, or none but dequeues, and the counters stay. -/
lemma not_enqueues {events : List (QueueEvent T G (Fin n))} {cpu : Fin n}
    (h : ∀ ev ∈ events, ev.isEnqueue = false) : ¬ ∃ ev ∈ events, ev.isEnqueue = true ∧ r.cpuOf ev.entity = cpu := by
  rintro ⟨ev, hev, htrue, -⟩
  exact Bool.false_ne_true ((h ev hev).symm.trans htrue)

variable (cfg : Cfs.Config G (Fin n))

/-- The operations that `Enqueues` names are those with an enqueue among their
events. -/
lemma shape_enqueues_iff {s : State T G n} {op : ClassOp T G (Fin n)} {events : List (QueueEvent T G (Fin n))}
    (hshape : op.Shape cfg s.toState events) (cpu : Fin n) :
    (∃ ev ∈ events, ev.isEnqueue = true ∧ s.roster.cpuOf ev.entity = cpu) ↔ (Op.fair op).Enqueues s cpu := by
  cases op with
  | enqueue t wakeup spent =>
    dsimp only [ClassOp.Shape] at hshape
    split at hshape
    next hon =>
      rw [hshape]
      refine iff_of_false (not_enqueues nofun) fun h => ?_
      exact Bool.false_ne_true (h.1.symm.trans hon)
    next hoff =>
      obtain ⟨rest, rfl, hrest⟩ := hshape
      refine Iff.trans ⟨?_, ?_⟩ (and_iff_right (Bool.eq_false_iff.mpr hoff)).symm
      · rintro ⟨ev, _ | ⟨_, hev⟩, -, hcpu⟩
        · exact hcpu
        · obtain ⟨g, -, hg⟩ := hrest ev hev
          rwa [hg] at hcpu
      · intro hcpu
        exact ⟨_, mem_cons_self, rfl, hcpu⟩
  | unthrottle q spent =>
    obtain ⟨hgroups, hput⟩ := hshape
    constructor
    · rintro ⟨ev, hev, henqueue, hcpu⟩
      obtain ⟨g, -, hg⟩ := hgroups ev hev
      rw [hg] at hcpu
      exact ⟨hput.mp ⟨ev, hev, henqueue⟩, hcpu⟩
    · rintro ⟨hrequeues, hcpu⟩
      obtain ⟨ev, hev, henqueue⟩ := hput.mpr hrequeues
      obtain ⟨g, -, hg⟩ := hgroups ev hev
      refine ⟨ev, hev, henqueue, ?_⟩
      rwa [hg]
  | dequeue t sleep =>
    obtain ⟨rest, rfl, hdrops⟩ := hshape
    refine iff_of_false (not_enqueues ?_) id
    rintro ev (_ | ⟨_, hev⟩)
    · rfl
    · exact hdrops.not_isEnqueue ev hev
  | putPrev t spent | throttle q =>
    exact iff_of_false (not_enqueues (Drops.not_isEnqueue hshape)) id
  | tick t | pickNext t | migrate t cpu nohz | clock cpu clockTask | idle cpu entering =>
    obtain rfl : events = [] := hshape
    exact iff_of_false (not_enqueues nofun) id

variable [DecidableEq G]

def pendingOf (r : Roster T G (Fin n)) (cpu : Fin n) : Nat × Nat :=
  ((r.record ⟨none, cpu⟩).nrPending, (r.record ⟨none, cpu⟩).pendingLoad)

lemma modifyRecord_pending (cpu cpu' : Fin n) (f : SchedAvg → SchedAvg) :
    pendingOf (r.modifyRecord cpu f) cpu' = if cpu =
    cpu' then ((f (r.record ⟨none, cpu⟩)).nrPending, (f (r.record ⟨none, cpu⟩)).pendingLoad) else pendingOf r cpu' := by
  rw [pendingOf, Roster.modifyRecord_record]
  split <;> rfl

variable [DecidableEq T]

/-- An enqueue clears the counters of its CPU, a dequeue leaves them. -/
lemma apply_pending (ev : QueueEvent T G (Fin n)) (cpu : Fin n) : pendingOf (r.apply cfg ev) cpu = if ev.isEnqueue =
    true ∧ r.cpuOf ev.entity = cpu then (0, 0) else pendingOf r cpu := by
  cases ev with
  | enqueue e =>
    refine (modifyRecord_pending (r.cpuOf e) cpu _).trans (if_congr ?_ rfl rfl)
    exact (and_iff_right rfl).symm
  | dequeue e =>
    have hno : ¬ ((QueueEvent.dequeue e).isEnqueue = true ∧
        r.cpuOf (QueueEvent.dequeue e).entity = cpu) := fun h => Bool.false_ne_true h.1
    rw [if_neg hno]
    refine (modifyRecord_pending (r.cpuOf e) cpu _).trans ?_
    split
    next h =>
      rw [← h]
      rfl
    · rfl

lemma foldl_pending (events : List (QueueEvent T G (Fin n))) (cpu : Fin n) (r : Roster T G (Fin n)) :
    pendingOf (events.foldl (Roster.apply cfg) r) cpu = if ∃ ev ∈ events, ev.isEnqueue = true ∧
    r.cpuOf ev.entity = cpu then (0, 0) else pendingOf r cpu := by
  induction events generalizing r with
  | nil => exact (if_neg fun ⟨_, h, _⟩ => absurd h not_mem_nil).symm
  | cons ev rest ih =>
    have hcpu : (r.apply cfg ev).cpuOf = r.cpuOf := by
      funext e
      cases ev <;> cases e <;> rfl
    rw [foldl_cons, ih, apply_pending, hcpu]
    simp only [exists_mem_cons_iff]
    by_cases hrest : ∃ ev ∈ rest, ev.isEnqueue = true ∧ r.cpuOf ev.entity = cpu
    · rw [if_pos hrest, if_pos (Or.inr hrest)]
    · rw [if_neg hrest]
      exact if_congr (or_iff_left hrest).symm rfl rfl

end Events

section Steps

variable (cfg : Config G n) (s : State T G n)

lemma Op.EnqueuesTask.enqueues {op : Op T G n} {cpu : Fin n} {task : T}
    (h : op.EnqueuesTask s cpu task) : op.Enqueues s cpu := by
  cases op with
  | fair op =>
    cases op with
    | enqueue t wakeup spent => exact h.2
    | _ => exact h.elim
  | _ => exact h.elim

/-- What a selection has read is still there, and one that has been counted waits. -/
structure SelectionLog.Inv (l : SelectionLog T G n) : Prop where
  counts : ∀ c cpu, l.state.counter c cpu = wrap c.width (l.total c cpu)
  seen : ∀ p c cpu v, l.counting p = some (.read c cpu v) → v = l.state.counter c cpu
  counted : ∀ cpu, (l.counted cpu).Sublist (l.waiting cpu)
  charged : ∀ cpu, ∀ x ∈ l.charged cpu, x.task ∈ l.waiting cpu
  placed : ∀ p phase cpu, l.counting p = some phase → phase.place = some cpu → p ∈ l.waiting cpu

lemma SelectionLog.mem_reading {l : SelectionLog T G n} {p : T} {c : Counter} {cpu : Fin n} {v : Nat}
    (h : l.counting p = some (.read c cpu v)) : (c, cpu) ∈ l.reading p := by
  rw [SelectionLog.reading, h]
  rfl

lemma update_eq_some [DecidableEq T] {α : Type*} {f : T → Option α} {p q : T} {x : Option α} {y : α}
    (h : update f p x q = some y) : q = p ∧ x = some y ∨ f q = some y := by
  rw [update_apply] at h
  split at h
  next heq => exact .inl ⟨heq, h⟩
  · exact .inr h

namespace SelectionLog.Inv

variable {l : SelectionLog T G n} {p : T}

/-- Reading a counter keeps the invariant. -/
lemma read [DecidableEq T] (h : l.Inv) {c : Counter} {cpu : Fin n}
    (hplace : ∀ cpu', (Counting.read c cpu (l.state.counter c cpu)).place = some cpu' → p ∈ l.waiting cpu') :
    Inv { l with counting := update l.counting p (some (.read c cpu (l.state.counter c cpu))) } where
  counts := h.counts
  seen q c' cpu' v hq := by
    obtain ⟨-, heq⟩ | hq := update_eq_some hq
    · cases heq
      rfl
    · exact h.seen q c' cpu' v hq
  counted := h.counted
  charged := h.charged
  placed q phase cpu' hq hphase := by
    obtain ⟨rfl, heq⟩ | hq := update_eq_some hq
    · cases heq
      exact hplace cpu' hphase
    · exact h.placed q phase cpu' hq hphase

lemma mem_waiting_cons {cpu cpu' : Fin n} {q : T} (h : q ∈ l.waiting cpu') :
    q ∈ update l.waiting cpu (p :: l.waiting cpu) cpu' := by
  rw [update_apply]
  split
  next heq => exact mem_cons_of_mem p (heq ▸ h)
  · exact h

end SelectionLog.Inv

variable [DecidableEq G]

lemma storeCounter_counter (c c' : Counter) (cpu cpu' : Fin n) (v : Nat) :
    (s.storeCounter c cpu v).counter c' cpu' = if c = c' ∧ cpu = cpu' then v else s.counter c' cpu' := by
  by_cases hcpu : cpu = cpu'
  · subst hcpu
    cases c <;> cases c' <;> simp [counter, storeCounter, Cfs.State.modifyCpuAvg, Cfs.State.modifyCfs]
  · have hne : (⟨none, cpu'⟩ : QueueId G (Fin n)) ≠ ⟨none, cpu⟩ := fun h => hcpu (congrArg QueueId.cpu h).symm
    cases c' <;> simp [counter, storeCounter, Cfs.State.modifyCpuAvg, Cfs.State.modifyCfs, hcpu, hne]

/-- If nothing came between, the store adds to what is there. -/
lemma SelectionLog.Inv.counts_store {l : SelectionLog T G n} {p : T} (h : l.Inv) {c : Counter} {cpu : Fin n}
    {seen amount : Nat} (hp : l.counting p = some (.read c cpu seen)) {total : Counter → Fin n → Nat}
    (htotal : ∀ c' cpu', total c' cpu' = l.total c' cpu' + if c = c' ∧ cpu = cpu' then amount else 0)
    (c' : Counter) (cpu' : Fin n) :
    (l.state.storeCounter c cpu (add c.width seen amount)).counter c' cpu' = wrap c'.width (total c' cpu') := by
  rw [storeCounter_counter, htotal]
  split
  next heq =>
    obtain ⟨rfl, rfl⟩ := heq
    rw [h.seen p c cpu seen hp, h.counts, add_wrap]
  · exact h.counts c' cpu'

/-- The checks write neither counter. -/
lemma attempt_pending (a : Attempt T n) (cpu : Fin n) :
    pendingOf (s.attempt cfg a).1.roster cpu = pendingOf s.roster cpu := by
  obtain ⟨direction, cpu', target, task, env⟩ := a
  cases direction with
  | up =>
    change pendingOf (s.countForced .up _ _).toState.roster cpu = _
    rw [countForced_toState]
  | down =>
    change pendingOf (countForced (ite _ _ _) .down _ _).toState.roster cpu = _
    rw [countForced_toState]
    split
    · rw [countDequeuingLowPrio, modifyCpuAvg_roster, modifyRecord_pending]
      split
      next h =>
        rw [← h]
        rfl
      · rfl
    · rfl

variable [DecidableEq T]

lemma classStep_pending (op : ClassOp T G (Fin n)) (cpu : Fin n) :
    pendingOf (s.toState.classStep cfg.toConfig op).roster cpu =
    if (Op.fair op).Enqueues s cpu then (0, 0) else pendingOf s.roster cpu := by
  obtain ⟨events, hperforms, hshape⟩ := classStep_performs cfg.toConfig s.toState op
  rw [hperforms, foldl_pending]
  cases op with
  | migrate t cpu' nohz =>
    obtain rfl : events = [] := hshape
    rfl
  | _ => exact if_congr (shape_enqueues_iff cfg.toConfig hshape cpu) rfl rfl

lemma hmpNextDelay_roster (d : Direction) (p : T) (cpu : Fin n) : (s.hmpNextDelay d p cpu).roster = s.roster := by
  rw [hmpNextDelay]
  exact (modifyAvg_quiet s.toState _ _).roster

/-- An operation other than a selection clears the counters of the CPUs on which it enqueues. -/
lemma step_counter {op : Op T G n} (hop : op.isSelect = false) (c : Counter) (cpu : Fin n) :
    (s.step cfg op).counter c cpu = if op.Enqueues s cpu then 0 else s.counter c cpu := by
  have hpending : pendingOf (s.step cfg op).roster cpu =
      if op.Enqueues s cpu then (0, 0) else pendingOf s.roster cpu := by
    cases op with
    | fair op => exact classStep_pending cfg s op cpu
    | select p cpu' => cases hop
    | check a => exact attempt_pending cfg s a cpu
    | forced d p cpu' => exact congrArg (fun r => pendingOf r cpu) (hmpNextDelay_roster s d p cpu')
    | affinity p mask | hotplug online => rfl
  cases c with
  | nrPending => exact (congrArg Prod.fst hpending).trans (apply_ite Prod.fst _ _ _)
  | pendingLoad => exact (congrArg Prod.snd hpending).trans (apply_ite Prod.snd _ _ _)

namespace SelectionLog.Inv

variable {cfg} {l : SelectionLog T G n} {p : T}

/-- The other selections have not read the counter that is stored. -/
lemma seen_store (h : l.Inv) {c : Counter} {cpu : Fin n} {v : Nat} {phase : Option (Counting n)}
    (hphase : ∀ c' cpu' v', phase ≠ some (.read c' cpu' v'))
    (hstore : ∀ q, q ≠ p → (c, cpu) ∉ l.reading q) {q : T} {c' : Counter} {cpu' : Fin n} {v' : Nat}
    (hq : update l.counting p phase q = some (.read c' cpu' v')) :
    v' = (l.state.storeCounter c cpu v).counter c' cpu' := by
  obtain rfl | hne := eq_or_ne q p
  · rw [update_self] at hq
    exact absurd hq (hphase c' cpu' v')
  · rw [update_of_ne hne] at hq
    rw [storeCounter_counter, if_neg]
    · exact h.seen q c' cpu' v' hq
    · rintro ⟨rfl, rfl⟩
      exact hstore q hne (SelectionLog.mem_reading hq)

lemma step (h : l.Inv) {a : PendingAccess T G n} (hallowed : a.Allowed l) : (l.step cfg a).Inv := by
  cases a with
  | other op hop =>
    obtain ⟨htask, hread⟩ := hallowed
    have hstate : ∀ c cpu, (l.step cfg (.other op hop)).state.counter c cpu = _ := step_counter cfg l.state hop
    have hkeep : ∀ cpu, ¬ op.Enqueues l.state cpu →
        (l.waiting cpu).filter (fun p => ¬ op.EnqueuesTask l.state cpu p) = l.waiting cpu := by
      intro cpu hno
      rw [filter_eq_self]
      intro p hp
      rw [decide_eq_true_iff]
      exact fun htask => hno htask.enqueues
    refine ⟨fun c cpu => ?_, fun p c cpu v hp => ?_, fun cpu => ?_, fun cpu x hx => ?_, fun p phase cpu hp hplace => ?_⟩
    · rw [hstate]
      cases c <;> dsimp only [SelectionLog.step, total] <;> split
      · rfl
      · exact h.counts .nrPending cpu
      · rfl
      · exact h.counts .pendingLoad cpu
    · rw [hstate, if_neg (hread p (c, cpu) (SelectionLog.mem_reading hp))]
      exact h.seen p c cpu v hp
    · dsimp only [SelectionLog.step]
      split
      · exact nil_sublist _
      next hno =>
        rw [hkeep cpu hno]
        exact h.counted cpu
    · dsimp only [SelectionLog.step] at hx ⊢
      split at hx
      · exact absurd hx not_mem_nil
      next hno =>
        rw [hkeep cpu hno]
        exact h.charged cpu x hx
    · refine mem_filter.mpr ⟨h.placed p phase cpu hp hplace, decide_eq_true fun henqueue => ?_⟩
      exact Option.some_ne_none phase (hp.symm.trans (htask p cpu henqueue))
  | select p cpu =>
    dsimp only [SelectionLog.step]
    split
    · exact h.read nofun
    · exact h
  | readLoad p =>
    dsimp only [SelectionLog.step]
    split
    next cpu hp =>
      refine h.read fun cpu' hcpu => ?_
      cases hcpu
      exact h.placed p _ cpu hp rfl
    · exact h
  | store p =>
    dsimp only [SelectionLog.step]
    split
    next cpu seen hp =>
      have hothers : ∀ q, q ≠ p → (Counter.nrPending, cpu) ∉ l.reading q := fun q hq =>
        hallowed q hq _ (SelectionLog.mem_reading hp)
      refine ⟨h.counts_store hp (fun c' cpu' => ?_), fun q c cpu' v hq => h.seen_store (by simp) hothers hq,
        fun cpu' => ?_, fun cpu' x hx => mem_waiting_cons (h.charged cpu' x hx), fun q phase cpu' hq hplace => ?_⟩
      · cases c' <;> dsimp only [total]
        · rw [update_apply]
          grind
        · simp
      · simp only [update_apply]
        split
        · exact (h.counted cpu).cons_cons p
        · exact h.counted cpu'
      · obtain ⟨rfl, heq⟩ | hq := update_eq_some hq
        · cases heq
          cases hplace
          simp only [update_self, mem_cons_self]
        · exact mem_waiting_cons (h.placed q phase cpu' hq hplace)
    next cpu seen hp =>
      have hothers : ∀ q, q ≠ p → (Counter.pendingLoad, cpu) ∉ l.reading q := fun q hq =>
        hallowed q hq _ (SelectionLog.mem_reading hp)
      refine ⟨h.counts_store hp (fun c' cpu' => ?_), fun q c cpu' v hq => h.seen_store (by simp) hothers hq, h.counted,
        fun cpu' x hx => ?_, fun q phase cpu' hq hplace => ?_⟩
      · cases c' <;> dsimp only [total]
        · simp
        · rw [update_apply]
          grind
      · simp only [update_apply] at hx
        split at hx
        next heq =>
          subst heq
          obtain rfl | hx := mem_cons.mp hx
          · exact h.placed p _ cpu' hp rfl
          · exact h.charged cpu' x hx
        · exact h.charged cpu' x hx
      · obtain ⟨-, heq⟩ | hq := update_eq_some hq
        · cases heq
        · exact h.placed q phase cpu' hq hplace
    · exact h

end SelectionLog.Inv

/-- The accesses of a selection in a row are `expectTask`. -/
lemma SelectionLog.foldl_select {l : SelectionLog T G n} {p : T} (hp : l.counting p = none) (cpu : Fin n) :
    ([.select p cpu, .store p, .readLoad p, .store p].foldl (SelectionLog.step cfg) l).state =
      l.state.expectTask p cpu := by
  simp only [foldl_cons, foldl_nil, SelectionLog.step, hp, if_true, update_self]
  simp [expectTask, storeCounter, counter, seLoad, Cfs.State.modifyCpuAvg, Cfs.State.modifyCfs]

end Steps

section Runs

/-- One CPU and two tasks with a load of 1000. -/
def twoSelected : SelectionLog Bool Unit 1 where
  state :=
    { toState := .boot { taskQueue := fun _ => ⟨none, 0⟩, tasks := fun _ => { avg := { loadAvgRatio := 1000 } } }
      online := ⟨{0}, by decide⟩ }

def twoSelectedConfig : Config Unit 1 := {}

end Runs

end BigLittle.Hmp
