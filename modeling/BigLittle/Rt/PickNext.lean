import Mathlib.Data.Finset.Insert
import Mathlib.Data.List.FinRange
import BigLittle.Lib.Run

/-!
# The RT task to pull

`pick_next_highest_task_rt` looks through the leaf queues of a CPU for the best task that another CPU may have. Once it
has a candidate, it looks at a further leaf only at the first priority in use there. If no task of that priority can
be had, the leaf is left, even when a task below it is better than the candidate.
-/

namespace BigLittle.Rt

open List

variable {T C : Type*} [DecidableEq C]

structure RtTasks (T C : Type*) where
  prio : T → Nat
  running : T → Bool
  allowed : T → Finset C

inductive RtEntity (T : Type*) where
  | task (p : T)
  | group
deriving DecidableEq

/-- The `active` array of a leaf `rt_rq`: a task is queued at its priority. -/
structure LeafRtRq (x : RtTasks T C) where
  queue : Fin 100 → List (RtEntity T)
  prio_eq : ∀ idx p, .task p ∈ queue idx → x.prio p = idx

structure SrcRq (x : RtTasks T C) where
  leaves : List (LeafRtRq x)
  /-- `rt.highest_prio.next` -/
  nextPrio : Nat
  rtNrRunning : Nat
  currPrio : Nat

def RtTasks.pickRtTask (x : RtTasks T C) (p : T) (cpu : C) : Bool := !x.running p && decide (cpu ∈ x.allowed p)

variable {x : RtTasks T C} (cpu : C)

namespace LeafRtRq

variable (leaf : LeafRtRq x)

/-- The bits of the bitmap. -/
def occupied : List (Fin 100) := (finRange 100).filter fun idx => !(leaf.queue idx).isEmpty

/-- The tasks of a priority that can be had. -/
def candidates (idx : Fin 100) : List T := (leaf.queue idx).filterMap fun
  | .task p => if x.pickRtTask p cpu then some p else none
  | .group => none

/-- A leaf from `next_idx` on. -/
def search (next : Option T) : List (Fin 100) → Option T
  | [] => next
  | idx :: rest =>
    if next.any fun p => x.prio p ≤ idx then next
    else
      match (leaf.candidates cpu idx).head? with
      | some p => some p
      | none => if next.isSome then next else search next rest

/-- All tasks of a leaf that can be had, and those of its first priority. -/
def eligible : List T := leaf.occupied.flatMap (leaf.candidates cpu)

def top : List T := (leaf.occupied.take 1).flatMap (leaf.candidates cpu)

end LeafRtRq

def pickNextHighestTaskRt (leaves : List (LeafRtRq x)) : Option T :=
  leaves.foldl (fun next leaf => leaf.search cpu next leaf.occupied) none

/-- What `pull_rt_task` takes from a source queue for a CPU whose best task has a priority. -/
def SrcRq.pullRtTask (src : SrcRq x) (thisPrio : Nat) : Option T :=
  if thisPrio ≤ src.nextPrio then none
  else if src.rtNrRunning ≤ 1 then none
  else (pickNextHighestTaskRt cpu src.leaves).filter fun p => decide (x.prio p < thisPrio ∧ src.currPrio ≤ x.prio p)

/-- A queued task that does not run and may go to the CPU. -/
def Eligible (leaves : List (LeafRtRq x)) (p : T) : Prop :=
  ∃ leaf ∈ leaves, ∃ idx, .task p ∈ leaf.queue idx ∧ x.pickRtTask p cpu = true

/-- The best task is found, or there is none; and nothing better than what is pulled is passed over. -/
structure PicksBest (src : SrcRq x) (thisPrio : Nat) : Prop where
  none : pickNextHighestTaskRt cpu src.leaves = none ↔ ∀ p, ¬Eligible cpu src.leaves p
  best : ∀ p ∈ pickNextHighestTaskRt cpu src.leaves, Eligible cpu src.leaves p ∧
    ∀ p', Eligible cpu src.leaves p' → x.prio p ≤ x.prio p'
  pull : ∀ p ∈ src.pullRtTask cpu thisPrio, ∀ p', Eligible cpu src.leaves p' → x.prio p ≤ x.prio p'

/-- What the search gets to see: the first leaf with a task that can be had, and the first priority of those
after it. -/
def visible : List (LeafRtRq x) → List T
  | [] => []
  | leaf :: rest => if leaf.eligible cpu = [] then visible rest else leaf.eligible cpu ++ rest.flatMap (·.top cpu)

/-- A best task of the list, or none if it is empty. -/
def Least (prio : T → Nat) (l : List T) : Option T → Prop
  | none => l = []
  | some p => p ∈ l ∧ ∀ p' ∈ l, prio p ≤ prio p'

lemma Least.single {prio : T → Nat} (q : T) : Least prio [q] (some q) :=
  ⟨mem_cons_self, fun p hp => by rw [mem_singleton.mp hp]⟩

lemma Least.append {prio : T → Nat} {l l' : List T} {p : T} {r : Option T} (h : Least prio l (some p))
    (h' : Least prio (p :: l') r) : Least prio (l ++ l') r := by
  cases r with
  | none => exact nomatch h'
  | some q =>
    obtain ⟨hmem, hle⟩ := h'
    have hq := hle p mem_cons_self
    refine ⟨?_, fun p' hp' => (mem_append.mp hp').elim (fun hp' => hq.trans (h.2 p' hp')) fun hp' =>
      hle p' (mem_cons_of_mem _ hp')⟩
    obtain rfl | hmem := mem_cons.mp hmem
    · exact mem_append_left _ h.1
    · exact mem_append_right _ hmem

namespace LeafRtRq

variable {cpu} {leaf : LeafRtRq x} {idx : Fin 100} {p : T}

lemma mem_candidates : p ∈ leaf.candidates cpu idx ↔ .task p ∈ leaf.queue idx ∧ x.pickRtTask p cpu = true := by
  rw [candidates, mem_filterMap]
  constructor
  · rintro ⟨_ | _, he, hp⟩
    · dsimp only at hp
      split at hp
      next hpick =>
        cases hp
        exact ⟨he, hpick⟩
      · cases hp
    · cases hp
  · rintro ⟨he, hpick⟩
    exact ⟨_, he, if_pos hpick⟩

lemma prio_of_mem (h : p ∈ leaf.candidates cpu idx) : x.prio p = idx := leaf.prio_eq idx p (mem_candidates.mp h).1

lemma mem_eligible : p ∈ leaf.eligible cpu ↔ ∃ idx, .task p ∈ leaf.queue idx ∧ x.pickRtTask p cpu = true := by
  simp only [eligible, mem_flatMap, mem_candidates]
  refine exists_congr fun idx => and_iff_right_of_imp fun h => ?_
  simp [occupied, ne_nil_of_mem h.1]

lemma top_subset : leaf.top cpu ⊆ leaf.eligible cpu := by
  intro p hp
  obtain ⟨idx, hidx, hp⟩ := mem_flatMap.mp hp
  exact mem_flatMap.mpr ⟨idx, mem_of_mem_take hidx, hp⟩

/-- Without a candidate all priorities are looked at, the best first. -/
lemma search_none {idxs : List (Fin 100)} (hidxs : idxs.Pairwise (· < ·)) :
    Least x.prio (idxs.flatMap (leaf.candidates cpu)) (leaf.search cpu none idxs) := by
  induction idxs with
  | nil => exact rfl
  | cons idx rest ih =>
    obtain ⟨hlt, hrest⟩ := pairwise_cons.mp hidxs
    rw [search, Option.any_none, if_neg Bool.false_ne_true, flatMap_cons]
    cases hlevel : leaf.candidates cpu idx with
    | nil => exact ih hrest
    | cons p others =>
      refine ⟨mem_cons_self, fun p' hp' => ?_⟩
      rw [prio_of_mem (hlevel ▸ mem_cons_self : p ∈ leaf.candidates cpu idx)]
      obtain hp' | hp' := mem_append.mp hp'
      · exact (prio_of_mem (hlevel ▸ hp')).ge
      · obtain ⟨idx', hidx', hp'⟩ := mem_flatMap.mp hp'
        rw [prio_of_mem hp']
        exact (hlt idx' hidx').le

variable (cpu leaf) in
/-- With a candidate, only the first one is. -/
lemma search_some (q : T) : Least x.prio (q :: leaf.top cpu) (leaf.search cpu (some q) leaf.occupied) := by
  rw [top]
  cases leaf.occupied with
  | nil => exact .single q
  | cons idx rest =>
    rw [take_succ_cons, take_zero, flatMap_singleton, search, Option.any_some, Option.isSome_some,
      if_pos rfl]
    split
    next hle =>
      refine ⟨mem_cons_self, fun p' hp' => ?_⟩
      obtain rfl | hp' := mem_cons.mp hp'
      · exact le_rfl
      · exact (of_decide_eq_true hle).trans_eq (prio_of_mem hp').symm
    next hgt =>
      have hgt := (Nat.not_le.mp fun hle => hgt (decide_eq_true hle)).le
      cases hlevel : leaf.candidates cpu idx with
      | nil => exact .single q
      | cons p others =>
        have hp := prio_of_mem (hlevel ▸ mem_cons_self : p ∈ leaf.candidates cpu idx)
        refine ⟨mem_cons_of_mem _ mem_cons_self, fun p' hp' => ?_⟩
        obtain rfl | hp' := mem_cons.mp hp'
        · exact hp.trans_le hgt
        · exact (hp.trans (prio_of_mem (hlevel ▸ hp')).symm).le

end LeafRtRq

variable {cpu} {leaves : List (LeafRtRq x)}

lemma foldl_search_some (cpu : C) (leaves : List (LeafRtRq x)) (q : T) : Least x.prio (q :: leaves.flatMap (·.top cpu))
    (leaves.foldl (fun next leaf => leaf.search cpu next leaf.occupied) (some q)) := by
  induction leaves generalizing q with
  | nil => exact .single q
  | cons leaf rest ih =>
    have hleaf := leaf.search_some cpu q
    rw [foldl_cons, flatMap_cons, ← cons_append]
    cases hnext : leaf.search cpu (some q) leaf.occupied with
    | none => exact nomatch (hnext ▸ hleaf : Least x.prio (q :: leaf.top cpu) none)
    | some p => exact (hnext ▸ hleaf).append (ih p)

lemma pickNextHighestTaskRt_least (cpu : C) (leaves : List (LeafRtRq x)) :
    Least x.prio (visible cpu leaves) (pickNextHighestTaskRt cpu leaves) := by
  induction leaves with
  | nil => exact rfl
  | cons leaf rest ih =>
    have hleaf : Least x.prio (leaf.eligible cpu) (leaf.search cpu none leaf.occupied) :=
      LeafRtRq.search_none ((pairwise_lt_finRange 100).filter _)
    rw [visible, pickNextHighestTaskRt, foldl_cons]
    cases hnext : leaf.search cpu none leaf.occupied with
    | none =>
      rw [hnext] at hleaf
      have hempty : leaf.eligible cpu = [] := hleaf
      rwa [if_pos hempty]
    | some p =>
      rw [hnext] at hleaf
      rw [if_neg (ne_nil_of_mem hleaf.1)]
      exact hleaf.append (foldl_search_some cpu rest p)

lemma eligible_iff {p : T} : Eligible cpu leaves p ↔ p ∈ leaves.flatMap (·.eligible cpu) := by
  simp only [Eligible, mem_flatMap, LeafRtRq.mem_eligible]

lemma eligible_of_visible {p : T} (h : p ∈ visible cpu leaves) : Eligible cpu leaves p := by
  rw [eligible_iff]
  induction leaves with
  | nil => exact h
  | cons leaf rest ih =>
    rw [visible] at h
    rw [flatMap_cons, mem_append]
    split at h
    · exact .inr (ih h)
    · refine (mem_append.mp h).imp_right fun h => ?_
      obtain ⟨leaf', hleaf', hp⟩ := mem_flatMap.mp h
      exact mem_flatMap.mpr ⟨leaf', hleaf', leaf'.top_subset hp⟩

/-- For every hierarchy and every CPU. -/
theorem picksVisible_iff (cpu : C) (src : SrcRq x) (thisPrio : Nat) : PicksBest cpu src thisPrio ↔
    ∀ p, Eligible cpu src.leaves p → ∃ q ∈ visible cpu src.leaves, x.prio q ≤ x.prio p := by
  have hleast := pickNextHighestTaskRt_least cpu src.leaves
  constructor
  · intro h p hp
    cases hr : pickNextHighestTaskRt cpu src.leaves with
    | none => exact absurd hp (h.none.mp hr p)
    | some q =>
      rw [hr] at hleast
      exact ⟨q, hleast.1, (h.best q hr).2 p hp⟩
  · intro h
    have hbest : ∀ p ∈ pickNextHighestTaskRt cpu src.leaves, Eligible cpu src.leaves p ∧
        ∀ p', Eligible cpu src.leaves p' → x.prio p ≤ x.prio p' := by
      intro p hp
      rw [hp] at hleast
      refine ⟨eligible_of_visible hleast.1, fun p' hp' => ?_⟩
      obtain ⟨q, hq, hle⟩ := h p' hp'
      exact (hleast.2 q hq).trans hle
    refine ⟨⟨fun hr p hp => ?_, fun hnone => ?_⟩, hbest, fun p hp => ?_⟩
    · obtain ⟨q, hq, -⟩ := h p hp
      rw [hr] at hleast
      exact ne_nil_of_mem hq hleast
    · cases hr : pickNextHighestTaskRt cpu src.leaves with
      | none => rfl
      | some q => exact absurd (hbest q hr).1 (hnone q)
    · rw [SrcRq.pullRtTask] at hp
      split at hp
      · cases hp
      · split at hp
        · cases hp
        · exact (hbest p (Option.filter_eq_some_iff.mp hp).1).2

/-- Task 1 may not leave CPU 0. -/
def pinnedTask : RtTasks (Fin 3) (Fin 2) where
  prio p := match p with
    | 0 => 50
    | 1 => 10
    | 2 => 20
  running _ := false
  allowed p := if p = 1 then {0} else {0, 1}

/-- Task 0 is in one group, tasks 1 and 2 are in another. -/
def pinnedRq : SrcRq pinnedTask where
  leaves := [⟨fun idx => if idx.val = 50 then [.task 0] else [], by decide +kernel⟩,
    ⟨fun idx => if idx.val = 10 then [.task 1] else if idx.val = 20 then [.task 2] else [], by decide +kernel⟩]
  nextPrio := 10
  rtNrRunning := 4
  currPrio := 5

/-- CPU 1 gets task 0, and task 2 is passed over. -/
theorem picksVisible_pinned : pinnedRq.pullRtTask 1 100 = some 0 ∧ ¬PicksBest 1 pinnedRq 100 := by
  have hpull : pinnedRq.pullRtTask 1 100 = some 0 := by decide +kernel
  refine ⟨hpull, fun h => ?_⟩
  have hle := h.pull 0 hpull 2 ⟨_, mem_cons_of_mem _ mem_cons_self, ⟨20, by decide⟩, by decide +kernel⟩
  exact absurd hle (by decide)

end BigLittle.Rt
