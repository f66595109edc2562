import Mathlib.Order.OrderDual
import BigLittle.Hmp.PlainForceUp

/-!
# The task to be migrated

`hmp_get_heaviest_task` and `hmp_get_lightest_task` look for the task of a run queue that is to go to
the faster or the slower domain: the running one or one of the first few of the timeline. A task of
the timeline is passed over if it may not run on the target CPUs. The running task is what the search
starts from, and it is not asked where it may run.
-/

namespace BigLittle.Hmp

open Sched Cfs BigLittle.Topology

variable {T G : Type*} {n : Nat}

/-- The task asked for: the heaviest one, for a given CPU of the faster domain or any of them, or the
lightest one, for the slower domain. -/
inductive Pick (n : Nat) where
  | heaviest (target : Option (Fin n))
  | lightest
deriving DecidableEq

namespace Pick

def direction : Pick n → Direction
  | heaviest _ => .up
  | lightest => .down

/-- Where the task is to run: a target that is not in the domain at this time leaves no CPU. -/
def targets (t : HmpTopology n) (cpu : Fin n) : Pick n → CpuMask n
  | heaviest none => t.neighbourCpus .up cpu
  | heaviest (some target) => t.neighbourCpus .up cpu ∩ {target}
  | lightest => t.neighbourCpus .down cpu

/-- One load is to be preferred to another. -/
def Prefers : Pick n → Nat → Nat → Prop
  | heaviest _, load, other => other < load
  | lightest, load, other => load < other

end Pick

def queuedTasks (timeline : List (Entity T G (Fin n))) : List T :=
  timeline.filterMap fun
    | .task p => some p
    | .group _ _ => none

/-- The running task and the tasks among the first entities of the timeline. -/
def examinedTasks (curr : T) (timeline : List (Entity T G (Fin n))) : List T :=
  curr :: queuedTasks (timeline.take hmpMaxTasks)

namespace State

variable (t : HmpTopology n) (s : State T G n) (cpu : Fin n) (curr : T) (timeline : List (Entity T G (Fin n)))

/-- `hmp_get_heaviest_task`. A target of -1 is `none`. -/
def hmpGetHeaviestTaskFor (target : Option (Fin n)) : Option T :=
  if t.cpuIsFastest cpu then some curr
  else
    match target with
    | none => some (s.hmpGetHeaviestTask t cpu curr timeline)
    | some target =>
      -- the target may be in the middle of being unplugged
      if target ∉ t.neighbourCpus .up cpu then none
      else some ((timeline.take hmpMaxTasks).foldl
        (s.pickTask (fun load best => best < load) {target}) (curr, s.seLoad curr)).1

def pick : Pick n → Option T
  | .heaviest target => s.hmpGetHeaviestTaskFor t cpu curr timeline target
  | .lightest => some (s.hmpGetLightestTask t cpu curr timeline)

/-- The task may run on one of the CPUs. -/
def MayRun (mask : CpuMask n) (p : T) : Prop := ¬ Disjoint mask (s.cpusAllowed p)
  deriving Decidable

/-- If an examined task may run on a target CPU, the result is such a task, and none of the others
that may is to be preferred. -/
def PicksBest (k : Pick n) : Prop :=
  (∃ p ∈ examinedTasks curr timeline, s.MayRun (k.targets t cpu) p) →
    ∃ p, s.pick t cpu curr timeline k = some p ∧ s.MayRun (k.targets t cpu) p ∧ p ∈ examinedTasks curr timeline ∧
      ∀ q ∈ examinedTasks curr timeline, s.MayRun (k.targets t cpu) q → ¬ k.Prefers (s.seLoad q) (s.seLoad p)

end State

section Walk

variable [DecidableEq T] {β : Type*} [LinearOrder β] {w : T → β}
variable {s : State T G n} {mask : CpuMask n} {better : Nat → Nat → Bool}

/-- The walk over the timeline scans the tasks that may run on the target CPUs. -/
lemma foldl_pickTask_eq_least (hw : ∀ p q, better (s.seLoad p) (s.seLoad q) = true ↔ w p < w q)
    (timeline : List (Entity T G (Fin n))) (best : T) :
    (timeline.foldl (s.pickTask better mask) (best, s.seLoad best)).1 =
    Scan.least w none best ((queuedTasks timeline).filter (s.MayRun mask)) := by
  induction timeline generalizing best with
  | nil => rfl
  | cons e rest ih =>
    cases e with
    | group g c => exact ih best
    | task p =>
      have htasks : queuedTasks (.task p :: rest : List (Entity T G (Fin n))) = p :: queuedTasks rest := rfl
      rw [List.foldl_cons, State.pickTask, htasks]
      by_cases hmay : s.MayRun mask p
      · rw [List.filter_cons, if_pos (decide_eq_true hmay), Scan.least, List.foldl_cons, Scan.pick]
        by_cases hlt : w p < w best
        · rw [if_pos ⟨(hw p best).mpr hlt, hmay⟩, if_pos hlt]
          exact ih p
        · rw [if_neg fun h => hlt ((hw p best).mp h.1), if_neg hlt, if_neg (by rintro ⟨-, ⟨⟩⟩)]
          exact ih best
      · rw [if_neg fun h => hmay h.2, List.filter_cons, if_neg (mt of_decide_eq_true hmay)]
        exact ih best

/-- What the walk finds is best exactly if the running task may be chosen or is beaten. -/
lemma walk_best_iff (hw : ∀ p q, better (s.seLoad p) (s.seLoad q) = true ↔ w p < w q) (curr : T)
    (timeline : List (Entity T G (Fin n))) :
    let found := ((timeline.take hmpMaxTasks).foldl (s.pickTask better mask) (curr, s.seLoad curr)).1
    ((∃ p ∈ examinedTasks curr timeline, s.MayRun mask p) → s.MayRun mask found ∧ found ∈ examinedTasks curr timeline ∧
          ∀ q ∈ examinedTasks curr timeline, s.MayRun mask q → w found ≤ w q) ↔
      (∀ p ∈ examinedTasks curr timeline, ¬ s.MayRun mask p) ∨ s.MayRun mask curr ∨
        ∃ p ∈ queuedTasks (timeline.take hmpMaxTasks), s.MayRun mask p ∧ w p < w curr := by
  intro found
  have hfound : found = _ := foldl_pickTask_eq_least hw (timeline.take hmpMaxTasks) curr
  rw [hfound]
  exact Scan.least_filter_iff

end Walk

section Picks

variable [DecidableEq T] (t : HmpTopology n) (s : State T G n) (cpu : Fin n)
variable (curr : T) (timeline : List (Entity T G (Fin n)))

/-- No examined task may run on a target CPU, or the running one may, or a queued one that may is to be
preferred to the running one. -/
def State.Unobstructed (k : Pick n) : Prop :=
  (∀ p ∈ examinedTasks curr timeline, ¬ s.MayRun (k.targets t cpu) p) ∨ s.MayRun (k.targets t cpu) curr ∨
    ∃ p ∈ queuedTasks (timeline.take hmpMaxTasks), s.MayRun (k.targets t cpu) p ∧ k.Prefers (s.seLoad p) (s.seLoad curr)

variable {t s cpu curr timeline}

lemma picksBest_iff_of_walk {β : Type*} [LinearOrder β] {w : T → β} {k : Pick n}
    (better : Nat → Nat → Bool) (hprefers : ∀ p q, k.Prefers (s.seLoad p) (s.seLoad q) ↔ w p < w q)
    (hbetter : ∀ p q, better (s.seLoad p) (s.seLoad q) = true ↔ w p < w q)
    (hpick : s.pick t cpu curr timeline k = some ((timeline.take hmpMaxTasks).foldl
      (s.pickTask better (k.targets t cpu)) (curr, s.seLoad curr)).1) :
    s.PicksBest t cpu curr timeline k ↔ s.Unobstructed t cpu curr timeline k := by
  rw [State.PicksBest, State.Unobstructed, hpick]
  simp only [hprefers, not_lt, Option.some.injEq, exists_eq_left']
  exact walk_best_iff hbetter curr timeline

omit [DecidableEq T] in
/-- A heavier task is one of smaller weight in the opposite order. -/
lemma heaviest_weight (p q : T) :
    s.seLoad q < s.seLoad p ↔ OrderDual.toDual (s.seLoad p) < OrderDual.toDual (s.seLoad q) := Iff.rfl

variable (t s cpu curr timeline)

/-- On a CPU outside the last domain, for every run queue and target: the best of the tasks that may run on
the target CPUs is returned exactly if the running task does not stand in the way. -/
theorem picksBest_iff (k : Pick n) (hcpu : t.cpuIsLast k.direction cpu = false) :
    s.PicksBest t cpu curr timeline k ↔ s.Unobstructed t cpu curr timeline k := by
  cases k with
  | lightest =>
    have hslowest : t.cpuIsSlowest cpu = false := hcpu
    refine picksBest_iff_of_walk (fun load best => load < best) (fun p q => Iff.rfl) (fun p q => decide_eq_true_iff) ?_
    rw [State.pick, State.hmpGetLightestTask, hslowest, if_neg Bool.false_ne_true]
    rfl
  | heaviest target =>
    have hfastest : t.cpuIsFastest cpu = false := hcpu
    have hpick : s.pick t cpu curr timeline (.heaviest target) = _ :=
      if_neg (by rw [hfastest]; exact Bool.false_ne_true)
    cases target with
    | none =>
      refine picksBest_iff_of_walk (fun load best => best < load) heaviest_weight
        (fun p q => decide_eq_true_iff.trans (heaviest_weight p q)) (hpick.trans ?_)
      dsimp only
      rw [State.hmpGetHeaviestTask, hfastest, if_neg Bool.false_ne_true]
      rfl
    | some target =>
      by_cases hmem : target ∈ t.neighbourCpus .up cpu
      · have htargets : (Pick.heaviest (some target)).targets t cpu = {target} :=
          Finset.inter_singleton_of_mem hmem
        refine picksBest_iff_of_walk (fun load best => best < load) heaviest_weight
          (fun p q => decide_eq_true_iff.trans (heaviest_weight p q)) (hpick.trans ?_)
        rw [htargets]
        exact if_neg (not_not.mpr hmem)
      · -- a target that has left the domain: nothing may run there, and nothing is returned
        have hnone : ∀ p, ¬ s.MayRun ((Pick.heaviest (some target)).targets t cpu) p := by
          intro p
          rw [State.MayRun, Pick.targets, Finset.inter_singleton_of_notMem hmem]
          exact not_not.mpr (Finset.disjoint_empty_left _)
        refine iff_of_true ?_ (.inl fun p _ => hnone p)
        rintro ⟨p, -, hmay⟩
        exact absurd hmay (hnone p)

def pairTopology : HmpTopology 2 where
  fastMask := {1}
  slowMask := {0}
  domains := [⟨{1}, {1}⟩, ⟨{0}, {0}⟩]
  cpuDomain cpu := some (if cpu = 1 then 0 else 1)

/-- A task of load 900 waits behind one of load 500; both may run on the big CPU. -/
theorem picksBest_heavier_queued :
    let s : State Bool Unit 2 :=
      { idlePair with se := fun e => { avg := { loadAvgRatio := if e = .task true then 500 else 900 } } }
    s.PicksBest pairTopology 0 true [.task false] (.heaviest none) :=
  (picksBest_iff _ _ 0 true [.task false] (.heaviest none) (by decide)).mpr (.inr (.inl (by decide)))

/-- A task that may only run where it runs hides one that may be migrated, in both directions. -/
theorem pinned_running_task_picked :
    let t := pairTopology
    let s : Nat → Fin 2 → State Bool Unit 2 := fun load cpu =>
      { taskQueue := fun _ => ⟨none, cpu⟩
        se := fun e => { avg := { loadAvgRatio := if e = .task true then load else 500 } }
        online := ⟨{0, 1}, by decide⟩, cpusAllowed := fun p => if p then {cpu} else {0, 1} }
    ((s 900 0).pick t 0 true [.task false] (.heaviest none) = some true ∧
        ¬ (s 900 0).PicksBest t 0 true [.task false] (.heaviest none)) ∧
      (s 100 1).pick t 1 true [.task false] .lightest = some true ∧
        ¬ (s 100 1).PicksBest t 1 true [.task false] .lightest := by
  intro t s
  refine ⟨⟨by decide, fun h => ?_⟩, by decide, fun h => ?_⟩
  · obtain ⟨p, hpick, hmay, -⟩ := h ⟨false, by decide, by decide⟩
    obtain rfl : true = p := Option.some.inj hpick
    exact hmay (by decide)
  · obtain ⟨p, hpick, hmay, -⟩ := h ⟨false, by decide, by decide⟩
    obtain rfl : true = p := Option.some.inj hpick
    exact hmay (by decide)

end Picks

end BigLittle.Hmp
