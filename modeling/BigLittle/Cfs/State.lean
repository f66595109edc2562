import Mathlib.Logic.Function.Basic
import BigLittle.Sched.Avg

/-!
# State of the fair scheduling class

A group below the root has one scheduling entity and one queue on every CPU; the root
group has the queue that is embedded in `struct rq` and no entity. An entity is queued
on its `cfs_rq`: a task on the queue of its group, a group on the queue of its parent
group.

The records hold the fields that load tracking, weights, task counts and throttling read
and write. Virtual time (`vruntime`, the timeline, the buddies, `update_curr`), the leaf
list and the runtime pools of bandwidth control touch none of them and are not part of
this state.
-/

namespace BigLittle.Cfs

open Function (update update_of_ne update_self)
open Sched List

/-- The task-group tree below the root; `none` is `root_task_group`. -/
structure Hierarchy (G : Type*) where
  parent : G → Option G := fun _ => none
  depth : G → Nat := fun _ => 0
  depth_parent : ∀ {g p}, parent g = some p → depth p < depth g := by exact nofun

inductive Entity (T G C : Type*) where
  | task (t : T)
  | group (g : G) (cpu : C)
deriving DecidableEq

/-- Names the `cfs_rq` of a task group on a CPU. -/
structure QueueId (G C : Type*) where
  tg : Option G
  cpu : C
deriving DecidableEq

structure SchedEntity where
  weight : Nat := nice0Load
  onRq : Bool := false
  avg : SchedAvg := {}

structure CfsRq (T G C : Type*) where
  loadWeight : Nat := 0
  nrRunning : Nat := 0
  hNrRunning : Nat := 0
  curr : Option (Entity T G C) := none
  avg : SchedAvg := {}
  runnableLoadAvg : Nat := 0
  blockedLoadAvg : Nat := 0
  decayCounter : Nat := 1
  removedLoad : Nat := 0
  lastDecay : Nat := 0
  tgRunnableContrib : Nat := 0
  tgUsageContrib : Nat := 0
  tgLoadContrib : Nat := 0
  runtimeEnabled : Bool := false
  throttled : Bool := false
  throttleCount : Int := 0
  throttledClockTask : Nat := 0
  throttledClockTaskTime : Nat := 0

structure Rq where
  clockTask : Nat := 0
  loadWeight : Nat := 0
  nrRunning : Nat := 0
  avg : SchedAvg := {}

/-- `struct task_group`; the averages are the words of its atomics. -/
structure TaskGroup where
  shares : Nat := nice0Load
  loadAvg : Nat := 0
  runnableAvg : Nat := 0
  usageAvg : Nat := 0

structure Config (G C : Type*) extends Hierarchy G where
  load : LoadEnv := {}
  cpuId : C → Int
  bandwidthUsed : Bool := false
  hmpUpPrio : Nat := 125

structure State (T G C : Type*) where
  /-- `cfs_rq` of each task -/
  taskQueue : T → QueueId G C
  /-- `task_of(se)->prio`. The source also reads it for group entities, where it is
  whatever lies at that offset. -/
  prio : Entity T G C → Int := fun _ => 120
  se : Entity T G C → SchedEntity := fun _ => {}
  cfs : QueueId G C → CfsRq T G C := fun _ => {}
  rq : C → Rq := fun _ => {}
  tg : Option G → TaskGroup := fun _ => {}

variable {T G C : Type*}

/-- The queue an entity is (to be) queued on. -/
def State.cfsRqOf (cfg : Config G C) (s : State T G C) : Entity T G C → QueueId G C
  | .task t => s.taskQueue t
  | .group g cpu => ⟨cfg.parent g, cpu⟩

lemma State.cfsRqOf_congr {s t : State T G C} (h : t.taskQueue = s.taskQueue) (cfg : Config G C) :
    t.cfsRqOf cfg = s.cfsRqOf cfg := by
  funext e
  cases e with
  | task task => exact congrFun h task
  | group g cpu => rfl

/-- Another queue for a task concerns that task only. -/
lemma State.cfsRqOf_setTaskQueue [DecidableEq T] (cfg : Config G C) (s : State T G C) (t : T) (q : QueueId G C)
    (e : Entity T G C) (he : e ≠ .task t) :
    cfsRqOf cfg { s with taskQueue := update s.taskQueue t q } e = s.cfsRqOf cfg e := by
  cases e with
  | task t' => exact update_of_ne (fun h => he (congrArg Entity.task h)) _ _
  | group g cpu => rfl

namespace Hierarchy

variable (h : Hierarchy G)

/-- The groups from `tg` up to the root, at most `fuel` of them. -/
def pathUp : Nat → Option G → List G
  | 0, _ => []
  | _ + 1, none => []
  | fuel + 1, some g => g :: pathUp fuel (h.parent g)

/-- All groups from `tg` up to the root. -/
def path : Option G → List G
  | none => []
  | some g => h.pathUp (h.depth g + 1) (some g)

/-- What holds of the root, and of a group if it holds of its parent, holds of
every group. -/
lemma upInduction {motive : Option G → Prop} (root : motive none)
    (group : ∀ g, motive (h.parent g) → motive (some g)) (tg : Option G) : motive tg := by
  have hdepth : ∀ fuel g, h.depth g < fuel → motive (some g) := by
    intro fuel
    induction fuel with
    | zero => exact fun g hg => absurd hg (Nat.not_lt_zero _)
    | succ fuel ih =>
      intro g hg
      apply group
      cases hp : h.parent g with
      | none => exact root
      | some p => exact ih p (Nat.lt_of_lt_of_le (h.depth_parent hp) (Nat.le_of_lt_succ hg))
  cases tg with
  | none => exact root
  | some g => exact hdepth _ g (Nat.lt_succ_self _)

lemma pathUp_congr {fuel fuel' : Nat} {g : G} (hg : h.depth g < fuel)
    (hg' : h.depth g < fuel') : h.pathUp fuel (some g) = h.pathUp fuel' (some g) := by
  induction fuel generalizing fuel' g with
  | zero => exact absurd hg (Nat.not_lt_zero _)
  | succ fuel ih =>
    obtain _ | fuel' := fuel'
    · exact absurd hg' (Nat.not_lt_zero _)
    rw [pathUp, pathUp]
    cases hp : h.parent g with
    | none => cases fuel <;> cases fuel' <;> rfl
    | some p =>
      have hlt := h.depth_parent hp
      rw [ih (Nat.lt_of_lt_of_le hlt (Nat.le_of_lt_succ hg)) (Nat.lt_of_lt_of_le hlt (Nat.le_of_lt_succ hg'))]

lemma path_some (g : G) : h.path (some g) = g :: h.path (h.parent g) := by
  rw [path, pathUp]
  cases hp : h.parent g with
  | none => cases h.depth g <;> rfl
  | some p => rw [path, h.pathUp_congr (h.depth_parent hp) (Nat.lt_succ_self _)]

/-- The groups above one of the path are on the path. -/
lemma path_parent_subset (tg : Option G) : ∀ g ∈ h.path tg, h.path (h.parent g) ⊆ h.path tg := by
  induction tg using h.upInduction with
  | root => exact nofun
  | group g ih =>
    rw [path_some]
    rintro g' (_ | ⟨_, hg'⟩)
    · exact subset_cons_self _ _
    · exact List.Subset.trans (ih g' hg') (subset_cons_self _ _)

/-- The groups above `tg`, nearest first; `none` is the root. -/
def ancestors (tg : Option G) : List (Option G) :=
  (h.path tg).map h.parent

lemma ancestors_some (g : G) : h.ancestors (some g) = h.parent g :: h.ancestors (h.parent g) := by
  rw [ancestors, path_some, map_cons, ancestors]

/-- The ancestors of an ancestor come after it. -/
lemma ancestors_trans {a b tg : Option G} (ha : a ∈ h.ancestors b) (hb : b ∈ h.ancestors tg) : a ∈ h.ancestors tg := by
  induction tg using h.upInduction with
  | root => cases hb
  | group g ih =>
    rw [ancestors_some, mem_cons] at hb ⊢
    right
    obtain rfl | hb := hb
    · exact ha
    · exact ih hb

lemma not_mem_ancestors_self (tg : Option G) : tg ∉ h.ancestors tg := by
  induction tg using h.upInduction with
  | root => exact not_mem_nil
  | group g ih =>
    intro hmem
    rw [ancestors_some, mem_cons] at hmem
    -- the group would be an ancestor of its parent, hence the parent one of itself
    have hparent : h.parent g ∈ h.ancestors (some g) := by
      rw [ancestors_some]
      exact mem_cons_self
    obtain heq | hmem := hmem
    · exact ih (heq ▸ hparent)
    · exact ih (h.ancestors_trans hparent hmem)

/-- Groups on one path that have the same parent are the same. -/
lemma eq_of_parent_eq {g g' : G} {tg : Option G} (hg : g ∈ h.path tg)
    (hg' : g' ∈ h.path tg) (hparent : h.parent g = h.parent g') : g = g' := by
  have hnot : ∀ k k', h.parent k = h.parent k' → k' ∉ h.path (h.parent k) := by
    intro k k' heq hmem
    refine h.not_mem_ancestors_self (h.parent k) ?_
    rw [ancestors, mem_map]
    exact ⟨k', hmem, heq.symm⟩
  induction tg using h.upInduction with
  | root => cases hg
  | group k ih =>
    rw [path_some, mem_cons] at hg hg'
    obtain rfl | hg := hg
    · obtain rfl | hg' := hg'
      · rfl
      · exact absurd hg' (hnot g g' hparent)
    · obtain rfl | hg' := hg'
      · exact absurd hg (hnot g' g hparent.symm)
      · exact ih hg hg'

lemma parent_mem_path {g p : G} {tg : Option G} (hg : g ∈ h.path tg) (hp : h.parent g = some p) : p ∈ h.path tg := by
  refine h.path_parent_subset tg g hg ?_
  rw [hp, path_some]
  exact mem_cons_self

/-- What holds of a group if it holds of its children holds of every group, if there
are finitely many. -/
lemma downInduction [Finite G] {motive : Option G → Prop}
    (step : ∀ tg, (∀ g, h.parent g = tg → motive (some g)) → motive tg) (tg : Option G) : motive tg := by
  let level : Option G → Nat := fun tg => tg.elim 0 fun g => h.depth g + 1
  have hlevel : ∀ g, level (h.parent g) < level (some g) := by
    intro g
    cases hp : h.parent g with
    | none => exact Nat.succ_pos _
    | some p => exact Nat.succ_lt_succ (h.depth_parent hp)
  have hwf : WellFounded fun a b : Option G => level b < level a :=
    have : IsTrans (Option G) fun a b => level b < level a := ⟨fun _ _ _ h h' => h'.trans h⟩
    have : Std.Irrefl fun a b : Option G => level b < level a := ⟨fun _ => Nat.lt_irrefl _⟩
    Finite.wellFounded_of_trans_of_irrefl _
  induction tg using hwf.induction with
  | h tg ih =>
    refine step tg fun g hg => ih (some g) ?_
    rw [← hg]
    exact hlevel g

end Hierarchy

namespace State

variable (s : State T G C)

section

variable [DecidableEq T] [DecidableEq G] [DecidableEq C]

def modifySe (e : Entity T G C) (f : SchedEntity → SchedEntity) : State T G C :=
  { s with se := update s.se e (f (s.se e)) }

def modifyAvg (e : Entity T G C) (f : SchedAvg → SchedAvg) : State T G C :=
  s.modifySe e fun se => { se with avg := f se.avg }

def modifyCfs (q : QueueId G C) (f : CfsRq T G C → CfsRq T G C) : State T G C :=
  { s with cfs := update s.cfs q (f (s.cfs q)) }

def modifyRq (cpu : C) (f : Rq → Rq) : State T G C :=
  { s with rq := update s.rq cpu (f (s.rq cpu)) }

def modifyTg (g : Option G) (f : TaskGroup → TaskGroup) : State T G C :=
  { s with tg := update s.tg g (f (s.tg g)) }

end

section Lookup

variable {s} {e e' : Entity T G C} {q q' : QueueId G C} {cpu cpu' : C} {α : Type*}

/-- What a change at one index keeps there, it keeps everywhere. -/
lemma update_keeps {ι β : Type*} [DecidableEq ι] (g : β → α) {table : ι → β} {i : ι} {b : β}
    (h : g b = g (table i)) (j : ι) : g (update table i b j) = g (table j) := by
  by_cases hj : j = i
  · subst hj
    rw [update_self, h]
  · rw [update_of_ne hj]

variable [DecidableEq C]

@[simp] lemma modifyRq_cfs (f : Rq → Rq) : (s.modifyRq cpu f).cfs = s.cfs := rfl

@[simp] lemma modifyRq_rq_self (f : Rq → Rq) : (s.modifyRq cpu f).rq cpu = f (s.rq cpu) :=
  update_self _ _ _

lemma modifyRq_rq_of_ne (f : Rq → Rq) (h : cpu' ≠ cpu) : (s.modifyRq cpu f).rq cpu' = s.rq cpu' := update_of_ne h _ _

lemma modifyRq_keeps (g : Rq → α) {f : Rq → Rq} (h : g (f (s.rq cpu)) = g (s.rq cpu))
    (cpu' : C) : g ((s.modifyRq cpu f).rq cpu') = g (s.rq cpu') := update_keeps g h cpu'

variable [DecidableEq G]

@[simp] lemma modifyCfs_rq (f : CfsRq T G C → CfsRq T G C) : (s.modifyCfs q f).rq = s.rq := rfl

@[simp] lemma modifyCfs_cfs_self (f : CfsRq T G C → CfsRq T G C) :
    (s.modifyCfs q f).cfs q = f (s.cfs q) := update_self _ _ _

lemma modifyCfs_cfs_of_ne (f : CfsRq T G C → CfsRq T G C) (h : q' ≠ q) :
    (s.modifyCfs q f).cfs q' = s.cfs q' := update_of_ne h _ _

lemma modifyCfs_keeps (g : CfsRq T G C → α)
    {f : CfsRq T G C → CfsRq T G C}
    (h : g (f (s.cfs q)) = g (s.cfs q)) (q' : QueueId G C) :
    g ((s.modifyCfs q f).cfs q') = g (s.cfs q') := update_keeps g h q'

variable [DecidableEq T]

@[simp] lemma modifySe_cfs (f : SchedEntity → SchedEntity) : (s.modifySe e f).cfs = s.cfs := rfl

@[simp] lemma modifySe_rq (f : SchedEntity → SchedEntity) : (s.modifySe e f).rq = s.rq := rfl

@[simp] lemma modifySe_se_self (f : SchedEntity → SchedEntity) : (s.modifySe e f).se e = f (s.se e) := update_self _ _ _

lemma modifySe_se_of_ne (f : SchedEntity → SchedEntity) (h : e' ≠ e) :
    (s.modifySe e f).se e' = s.se e' := update_of_ne h _ _

lemma modifySe_keeps (g : SchedEntity → α) {f : SchedEntity → SchedEntity}
    (h : g (f (s.se e)) = g (s.se e)) (e' : Entity T G C) :
    g ((s.modifySe e f).se e') = g (s.se e') := update_keeps g h e'

end Lookup

end State

/-- Two nested groups below the root, on one CPU. -/
def nestedGroups : Config Bool Unit where
  parent g := if g then some false else none
  depth g := if g then 1 else 0
  depth_parent := by decide
  load := {}
  cpuId _ := 0
  bandwidthUsed := true
  hmpUpPrio := 125

end BigLittle.Cfs
