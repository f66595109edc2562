import BigLittle.Cfs.Task
import BigLittle.Lib.Run

/-!
# The list of leaf queues

Each CPU keeps the queues that carry load on a list, which `update_blocked_averages`
walks to decay them. A queue has to stand before its ancestors there. Queues join when
they get their first entity and leave when they have decayed.

The list reads and writes nothing but its own links, so it is driven by the state of the
class: each operation hands over the queues that get their first entity, in the order in
which `enqueue_entity` meets them.

`list_add_leaf_cfs_rq` looks at the direct parent only: it puts a queue to the front if
the parent is on the list and to the end if not. `Joins` says when that is the right
place.
-/

namespace BigLittle.Cfs

open State List
open Function (update update_of_ne update_self)

variable {T G C : Type*}

lemma queueId_eq_iff (tg : Option G) (cpu : C) (q : QueueId G C) :
    (⟨tg, cpu⟩ : QueueId G C) = q ↔ tg = q.tg ∧ cpu = q.cpu := by
  cases q
  simp

lemma first_append_sublist (first : Bool) (q : QueueId G C) {joining queues : List (QueueId G C)}
    (h : joining.Sublist queues) : ((if first then [q] else []) ++ joining).Sublist (q :: queues) := by
  cases first with
  | true => exact h.cons_cons q
  | false => exact h.cons q

lemma first_sublist (first : Bool) (q : QueueId G C) (queues : List (QueueId G C)) :
    (if first then [q] else []).Sublist (q :: queues) := by
  have h := first_append_sublist first q (nil_sublist queues)
  rwa [append_nil] at h

variable [DecidableEq T] [DecidableEq G] [DecidableEq C] (cfg : Config G C)

structure LeafList (G C : Type*) where
  onList : QueueId G C → Bool
  list : C → List (Option G)

namespace LeafList

variable (l : LeafList G C) (q : QueueId G C)

def parentOnList : Bool :=
  match q.tg with
  | none => false
  | some g => l.onList ⟨cfg.parent g, q.cpu⟩

/-- `list_add_leaf_cfs_rq`. The update of the blocked load that goes with it finds
nothing to do: `enqueue_entity_load_avg` has just made it. -/
def listAddLeafCfsRq : LeafList G C :=
  if l.onList q then l
  else
    { onList := update l.onList q true
      list := update l.list q.cpu (if l.parentOnList cfg q then q.tg :: l.list q.cpu else l.list q.cpu ++ [q.tg]) }

def listDelLeafCfsRq : LeafList G C :=
  if l.onList q then
    { onList := update l.onList q false
      list := update l.list q.cpu ((l.list q.cpu).erase q.tg) }
  else l

def empty : LeafList G C := ⟨fun _ => false, fun _ => []⟩

end LeafList

namespace State

/-- Whether `enqueue_entity` finds `nr_running` to be 1 after the accounting. -/
def becomesFirst (s : State T G C) (e : Entity T G C) (wakeup : Bool) : Bool :=
  let q := s.cfsRqOf cfg e
  let s := ((s.enqueueEntityLoadAvg cfg e wakeup).accountEntityEnqueue cfg e).updateCfsShares cfg q
  decide ((s.cfs q).nrRunning = 1)

/-- The queues that get their first entity in the first loop of
`enqueue_task_fair`. -/
def enqueueLoopFirst (spent : QueueId G C → Bool) : List (Entity T G C) → State T G C → Bool → List (QueueId G C)
  | [], _, _ => []
  | e :: rest, s, wakeup =>
    if (s.se e).onRq then []
    else
      let q := s.cfsRqOf cfg e
      let first := if s.becomesFirst cfg e wakeup then [q] else []
      let s := s.enqueueEntity cfg e wakeup spent
      if s.cfsRqThrottled cfg q then first
      else first ++ enqueueLoopFirst spent rest (s.addHNrRunning q 1) true

/-- The queues that get their first entity in the loop of `unthrottle_cfs_rq`. -/
def unthrottleLoopFirst (cpu : C) (taskDelta : Nat) (spent : QueueId G C → Bool) :
    List G → State T G C → Bool → List (QueueId G C)
  | [], _, _ => []
  | g :: rest, s, enqueue =>
    let e : Entity T G C := .group g cpu
    let q := s.cfsRqOf cfg e
    let enqueue := enqueue && !(s.se e).onRq
    let first := if enqueue && s.becomesFirst cfg e true then [q] else []
    let s := s.unthrottleEntity cfg e taskDelta enqueue spent
    if s.cfsRqThrottled cfg q then first
    else first ++ unthrottleLoopFirst cpu taskDelta spent rest s enqueue

/-- `unthrottle_cfs_rq`, the queues that get their first entity. -/
def unthrottleFirst (s : State T G C) (q : QueueId G C) (spent : QueueId G C → Bool) : List (QueueId G C) :=
  let s := s.modifyCfs q fun c => { c with throttled := false }
  let s := s.walkTgTreeFrom cfg q tgUnthrottleUp
  if (s.cfs q).loadWeight = 0 then []
  else unthrottleLoopFirst cfg q.cpu (s.cfs q).hNrRunning spent (cfg.path q.tg) s true

end State

/-- The queues that get their first entity in an operation, in order. Only an
enqueue and an unthrottle call `enqueue_entity`. -/
def ClassOp.firstQueues (s : State T G C) : ClassOp T G C → List (QueueId G C)
  | .enqueue t wakeup spent => enqueueLoopFirst cfg spent (s.entities cfg t) s wakeup
  | .unthrottle q spent => s.unthrottleFirst cfg q spent
  | _ => []

structure LeafState (T G C : Type*) where
  state : State T G C
  leaf : LeafList G C

namespace LeafState

variable (x : LeafState T G C)

/-- `__update_blocked_averages_cpu`. -/
def updateBlockedAveragesCpu (tg : Option G) (cpu : C) : LeafState T G C :=
  let q : QueueId G C := ⟨tg, cpu⟩
  if x.state.throttledHierarchy cfg q then x
  else
    let s := x.state.updateCfsRqBlockedLoad q true
    match tg with
    | some g =>
      let s := s.updateEntityLoadAvg cfg (.group g cpu) true
      ⟨s, if (s.se (.group g cpu)).avg.runnableAvgSum = 0 ∧ (s.cfs q).nrRunning = 0 then
        x.leaf.listDelLeafCfsRq q else x.leaf⟩
    | none => ⟨s.updateRqRunnableAvg cfg cpu (decide ((s.rq cpu).nrRunning ≠ 0)), x.leaf⟩

/-- `update_blocked_averages`: the queues of the CPU in the order of its list. -/
def updateBlockedAverages (cpu : C) (clockTask : Nat) : LeafState T G C :=
  (x.leaf.list cpu).foldl (fun x tg => x.updateBlockedAveragesCpu cfg tg cpu)
    { x with state := x.state.updateRqClock cpu clockTask }

end LeafState

inductive LeafOp (T G C : Type*) where
  | classOp (op : ClassOp T G C)
  | updateBlockedAverages (cpu : C) (clockTask : Nat)
  | unregisterFairSchedGroup (g : G) (cpu : C)

def LeafState.step (x : LeafState T G C) : LeafOp T G C → LeafState T G C
  | .classOp op =>
    ⟨x.state.classStep cfg op, (op.firstQueues cfg x.state).foldl (LeafList.listAddLeafCfsRq cfg) x.leaf⟩
  | .updateBlockedAverages cpu clockTask => x.updateBlockedAverages cfg cpu clockTask
  | .unregisterFairSchedGroup g cpu => { x with leaf := x.leaf.listDelLeafCfsRq ⟨some g, cpu⟩ }

namespace LeafList

variable (l : LeafList G C)

/-- No queue stands before one of its descendants. -/
def Ordered : Prop :=
  ∀ cpu, (l.list cpu).Pairwise fun earlier later => earlier ∉ cfg.ancestors later

/-- No ancestor of `tg` is on the list. -/
def Topmost (cpu : C) (tg : Option G) : Prop :=
  ∀ a ∈ cfg.ancestors tg, l.onList ⟨a, cpu⟩ = false
  deriving Decidable

/-- The parent of `tg` is on the list, and no descendant of `tg` is. -/
def Lowest (cpu : C) (tg : Option G) : Prop :=
  l.parentOnList cfg ⟨tg, cpu⟩ = true ∧ ∀ b ∈ l.list cpu, tg ∉ cfg.ancestors b

/-- An entity may be enqueued on the queue of `tg` and on those above it: a queue
that is not on the list yet has either no ancestor there or, for the first of
them, its parent but no descendant. -/
def Joins (q : QueueId G C) : Prop :=
  (l.onList q = true ∨ l.Topmost cfg q.cpu q.tg ∨ l.Lowest cfg q.cpu q.tg) ∧
    ∀ a ∈ cfg.ancestors q.tg, l.onList ⟨a, q.cpu⟩ = true ∨ l.Topmost cfg q.cpu a

instance (cpu : C) (tg : Option G) : Decidable (l.Lowest cfg cpu tg) :=
  inferInstanceAs (Decidable (_ ∧ ∀ b ∈ l.list cpu, _))

instance (q : QueueId G C) : Decidable (l.Joins cfg q) :=
  inferInstanceAs (Decidable (_ ∧ ∀ a ∈ cfg.ancestors q.tg, _))

end LeafList

/-- The place of every queue that joins is right. -/
def LeafOp.Fits (x : LeafState T G C) : LeafOp T G C → Prop
  | .classOp (.enqueue t _ _) => x.leaf.Joins cfg (x.state.taskQueue t)
  | .classOp (.unthrottle ⟨some g, cpu⟩ _) => x.leaf.Joins cfg ⟨cfg.parent g, cpu⟩
  | _ => True

instance (cfg : Config G C) (x : LeafState T G C) (op : LeafOp T G C) : Decidable (op.Fits cfg x) := by
  unfold LeafOp.Fits
  split <;> infer_instance

namespace LeafList

variable {cfg} {l : LeafList G C} {q : QueueId G C}

/-- The flags say what is on the lists, and nothing is there twice. -/
structure Flagged (l : LeafList G C) : Prop where
  onList : ∀ tg cpu, l.onList ⟨tg, cpu⟩ = true ↔ tg ∈ l.list cpu
  nodup : ∀ cpu, (l.list cpu).Nodup

section Add

section

variable (cfg)

lemma listAdd_onList (l : LeafList G C) (q r : QueueId G C) :
    (l.listAddLeafCfsRq cfg q).onList r = (l.onList r || decide (r = q)) := by
  rw [listAddLeafCfsRq]
  by_cases hr : r = q
  · subst hr
    by_cases hon : l.onList r = true
    · simp [hon]
    · simp [hon]
  · split
    · simp [hr]
    · simp [hr]

lemma listAdd_list_of_ne {cpu : C} (hcpu : cpu ≠ q.cpu) : (l.listAddLeafCfsRq cfg q).list cpu = l.list cpu := by
  rw [listAddLeafCfsRq]
  split
  · rfl
  · exact update_of_ne hcpu _ _

lemma listAdd_of_onList (hon : l.onList q = true) : l.listAddLeafCfsRq cfg q = l := if_pos hon

/-- The list a queue joins. -/
lemma listAdd_list (hoff : l.onList q = false) : (l.listAddLeafCfsRq cfg q).list q.cpu =
    if l.parentOnList cfg q then q.tg :: l.list q.cpu else l.list q.cpu ++ [q.tg] := by
  rw [listAddLeafCfsRq, hoff, if_neg Bool.false_ne_true]
  exact update_self _ _ _

lemma listAdd_flagged (hl : l.Flagged) (q : QueueId G C) : (l.listAddLeafCfsRq cfg q).Flagged := by
  cases hon : l.onList q with
  | true =>
    rwa [listAdd_of_onList cfg hon]
  | false =>
    have hnew : q.tg ∉ l.list q.cpu := by
      rw [← hl.onList, hon]
      exact Bool.false_ne_true
    refine ⟨fun tg cpu => ?_, fun cpu => ?_⟩
    · rw [listAdd_onList, Bool.or_eq_true, hl.onList, decide_eq_true_eq]
      by_cases hcpu : cpu = q.cpu
      · subst hcpu
        rw [listAdd_list cfg hon]
        split
        · simp [queueId_eq_iff, or_comm]
        · simp [queueId_eq_iff]
      · rw [listAdd_list_of_ne cfg hcpu]
        simp [queueId_eq_iff, hcpu]
    · by_cases hcpu : cpu = q.cpu
      · subst hcpu
        rw [listAdd_list cfg hon]
        split
        · exact nodup_cons.mpr ⟨hnew, hl.nodup _⟩
        · exact nodup_append.mpr ⟨hl.nodup _, nodup_singleton _,
            fun a ha b hb heq => hnew (mem_singleton.mp hb ▸ heq ▸ ha)⟩
      · rw [listAdd_list_of_ne cfg hcpu]
        exact hl.nodup cpu

end

/-- At the end a queue has to have no ancestor on the list, at the front no
descendant. -/
lemma listAdd_ordered (hl : l.Flagged) (hordered : l.Ordered cfg)
    (hplace : l.onList q = true ∨ l.Topmost cfg q.cpu q.tg ∨ l.Lowest cfg q.cpu q.tg) :
    (l.listAddLeafCfsRq cfg q).Ordered cfg := by
  cases hon : l.onList q with
  | true =>
    rwa [listAdd_of_onList cfg hon]
  | false =>
    intro cpu
    by_cases hcpu : cpu = q.cpu
    · subst hcpu
      rw [listAdd_list cfg hon]
      obtain hplace | htop | hlow := hplace
      · rw [hon] at hplace
        cases hplace
      · have hparent : l.parentOnList cfg q = false := by
          rw [parentOnList]
          split
          · rfl
          next g hg =>
            apply htop
            rw [hg, Hierarchy.ancestors_some]
            exact mem_cons_self
        rw [hparent, if_neg Bool.false_ne_true, pairwise_append]
        refine ⟨hordered q.cpu, pairwise_singleton _ _, fun a ha b hb => ?_⟩
        rw [mem_singleton.mp hb]
        intro hmem
        have hoff := htop a hmem
        rw [(hl.onList a q.cpu).mpr ha] at hoff
        cases hoff
      · rw [if_pos hlow.1, pairwise_cons]
        exact ⟨hlow.2, hordered q.cpu⟩
    · rw [listAdd_list_of_ne cfg hcpu]
      exact hordered cpu

/-- A queue that joins does not come above its ancestors. -/
lemma Topmost.listAdd {a : Option G} (ha : a ∈ cfg.ancestors q.tg)
    (htop : l.Topmost cfg q.cpu a) : (l.listAddLeafCfsRq cfg q).Topmost cfg q.cpu a := by
  intro b hb
  rw [listAdd_onList, htop b hb, Bool.false_or, decide_eq_false_iff_not]
  intro heq
  rw [← ((queueId_eq_iff b q.cpu q).mp heq).1] at ha
  exact cfg.not_mem_ancestors_self b (cfg.ancestors_trans hb ha)

/-- The ancestors of `tg` join from the bottom up, some of them or all. -/
lemma ancestors_join_ordered {cpu : C} {tg : Option G} {joining : List (QueueId G C)}
    (hsub : joining.Sublist ((cfg.ancestors tg).map fun a => ⟨a, cpu⟩)) (hl : l.Flagged)
    (hordered : l.Ordered cfg)
    (hplace : ∀ a ∈ cfg.ancestors tg, l.onList ⟨a, cpu⟩ = true ∨ l.Topmost cfg cpu a) :
    let l' := joining.foldl (listAddLeafCfsRq cfg) l
    l'.Flagged ∧ l'.Ordered cfg := by
  induction tg using cfg.upInduction generalizing l joining with
  | root =>
    rw [sublist_nil.mp hsub]
    exact ⟨hl, hordered⟩
  | group g ih =>
    rw [Hierarchy.ancestors_some, map_cons] at hsub
    rw [Hierarchy.ancestors_some, forall_mem_cons] at hplace
    cases hsub with
    | cons _ hsub => exact ih hsub hl hordered hplace.2
    | cons_cons _ hsub =>
      rw [foldl_cons]
      refine ih hsub (listAdd_flagged cfg hl _) (listAdd_ordered hl hordered (hplace.1.imp_right .inl)) fun a ha => ?_
      obtain hon | htop := hplace.2 a ha
      · left
        rw [listAdd_onList, hon]
        rfl
      · exact .inr (Topmost.listAdd (q := ⟨cfg.parent g, cpu⟩) ha htop)

/-- A queue and its ancestors join from the bottom up, some of them or all. -/
lemma Joins.ordered {joining : List (QueueId G C)}
    (hsub : joining.Sublist (q :: (cfg.ancestors q.tg).map fun a => ⟨a, q.cpu⟩)) (hl : l.Flagged)
    (hordered : l.Ordered cfg) (hplace : l.Joins cfg q) :
    let l' := joining.foldl (listAddLeafCfsRq cfg) l
    l'.Flagged ∧ l'.Ordered cfg := by
  cases hsub with
  | cons _ hsub => exact ancestors_join_ordered hsub hl hordered hplace.2
  | cons_cons _ hsub =>
    rw [foldl_cons]
    refine ancestors_join_ordered hsub (listAdd_flagged cfg hl _) (listAdd_ordered hl hordered hplace.1) fun a ha => ?_
    obtain hon | htop := hplace.2 a ha
    · left
      rw [listAdd_onList, hon]
      rfl
    · exact .inr (Topmost.listAdd ha htop)

end Add

section Del

lemma listDel_ordered (hordered : l.Ordered cfg) (q : QueueId G C) : (l.listDelLeafCfsRq q).Ordered cfg := by
  intro cpu
  rw [listDelLeafCfsRq]
  split
  · by_cases hcpu : cpu = q.cpu
    · subst hcpu
      dsimp only
      rw [update_self]
      exact (hordered q.cpu).sublist erase_sublist
    · dsimp only
      rw [update_of_ne hcpu]
      exact hordered cpu
  · exact hordered cpu

lemma listDel_flagged (hl : l.Flagged) (q : QueueId G C) : (l.listDelLeafCfsRq q).Flagged := by
  rw [listDelLeafCfsRq]
  split
  · refine ⟨fun tg cpu => ?_, fun cpu => ?_⟩
    · by_cases hcpu : cpu = q.cpu
      · subst hcpu
        dsimp only
        rw [update_self, (hl.nodup q.cpu).mem_erase_iff, ← hl.onList]
        by_cases htg : tg = q.tg
        · simp [htg]
        · rw [update_of_ne (fun heq => htg (congrArg QueueId.tg heq))]
          simp [htg]
      · dsimp only
        rw [update_of_ne hcpu, update_of_ne (fun heq => hcpu (congrArg QueueId.cpu heq))]
        exact hl.onList tg cpu
    · by_cases hcpu : cpu = q.cpu
      · subst hcpu
        dsimp only
        rw [update_self]
        exact (hl.nodup q.cpu).erase q.tg
      · dsimp only
        rw [update_of_ne hcpu]
        exact hl.nodup cpu
  · exact hl

end Del

end LeafList

section First

variable {cfg} {spent : QueueId G C → Bool} {cpu : C}

/-- From a group entity on, the queues that get their first entity are among those
above, in that order. -/
lemma enqueueLoopFirst_sublist (gs : List G) (s : State T G C) (wakeup : Bool) :
    (enqueueLoopFirst cfg spent (gs.map fun g => .group g cpu) s wakeup).Sublist
      (gs.map fun g => ⟨cfg.parent g, cpu⟩) := by
  induction gs generalizing s wakeup with
  | nil => exact List.Sublist.slnil
  | cons g gs ih =>
    rw [map_cons, map_cons, enqueueLoopFirst]
    split
    · exact nil_sublist _
    · dsimp only
      split
      · exact first_sublist _ _ _
      · exact first_append_sublist _ _ (ih _ _)

lemma enqueueFirst_sublist (t : T) (s : State T G C) (wakeup : Bool) :
    (enqueueLoopFirst cfg spent (s.entities cfg t) s wakeup).Sublist
      (s.taskQueue t :: (cfg.ancestors (s.taskQueue t).tg).map fun a =>
        ⟨a, (s.taskQueue t).cpu⟩) := by
  rw [entities, enqueueLoopFirst, Hierarchy.ancestors, map_map]
  split
  · exact nil_sublist _
  · dsimp only
    split
    · exact first_sublist _ _ _
    · exact first_append_sublist _ _ (enqueueLoopFirst_sublist _ _ _)

lemma unthrottleLoopFirst_sublist (taskDelta : Nat) (gs : List G) (s : State T G C) (enqueue : Bool) :
    (unthrottleLoopFirst cfg cpu taskDelta spent gs s enqueue).Sublist (gs.map fun g => ⟨cfg.parent g, cpu⟩) := by
  induction gs generalizing s enqueue with
  | nil => exact List.Sublist.slnil
  | cons g gs ih =>
    rw [map_cons, unthrottleLoopFirst]
    split
    · exact first_sublist _ _ _
    · exact first_append_sublist _ _ (ih _ _)

lemma unthrottleFirst_sublist (cfg : Config G C) (spent : QueueId G C → Bool) (q : QueueId G C)
    (s : State T G C) : (s.unthrottleFirst cfg q spent).Sublist ((cfg.ancestors q.tg).map fun a => ⟨a, q.cpu⟩) := by
  rw [unthrottleFirst, Hierarchy.ancestors, map_map]
  split
  · exact nil_sublist _
  · exact unthrottleLoopFirst_sublist _ _ _ _

end First

namespace LeafState

variable {cfg} {x : LeafState T G C}

/-- The order, with what the flags say about it. -/
def Inv (cfg : Config G C) (x : LeafState T G C) : Prop :=
  x.leaf.Flagged ∧ x.leaf.Ordered cfg

lemma Inv.updateBlockedAveragesCpu (hx : x.Inv cfg) (tg : Option G) (cpu : C) :
    (x.updateBlockedAveragesCpu cfg tg cpu).Inv cfg := by
  rw [LeafState.updateBlockedAveragesCpu]
  dsimp only
  split
  · exact hx
  · split
    · dsimp only [Inv]
      split
      · exact ⟨LeafList.listDel_flagged hx.1 _, LeafList.listDel_ordered hx.2 _⟩
      · exact hx
    · exact hx

lemma Inv.step (hx : x.Inv cfg) (op : LeafOp T G C) (hop : op.Fits cfg x) : (x.step cfg op).Inv cfg := by
  match op with
  | .classOp (.enqueue t wakeup spent) =>
    exact LeafList.Joins.ordered (enqueueFirst_sublist t x.state wakeup) hx.1 hx.2 hop
  | .classOp (.unthrottle ⟨none, cpu⟩ spent) =>
    have hnone := sublist_nil.mp (unthrottleFirst_sublist cfg spent ⟨none, cpu⟩ x.state)
    rwa [Inv, LeafState.step, ClassOp.firstQueues, hnone]
  | .classOp (.unthrottle ⟨some g, cpu⟩ spent) =>
    have hsub := unthrottleFirst_sublist cfg spent ⟨some g, cpu⟩ x.state
    rw [Hierarchy.ancestors_some, map_cons] at hsub
    exact LeafList.Joins.ordered hsub hx.1 hx.2 hop
  | .classOp (.dequeue _ _) | .classOp (.tick _) | .classOp (.pickNext _)
  | .classOp (.putPrev _ _) | .classOp (.migrate _ _ _) | .classOp (.clock _ _)
  | .classOp (.idle _ _) | .classOp (.throttle _) => exact hx
  | .updateBlockedAverages cpu clockTask =>
    exact Run.foldl_of_step (P := Inv cfg) (fun y tg hy => hy.updateBlockedAveragesCpu tg cpu) hx
  | .unregisterFairSchedGroup g cpu =>
    exact ⟨LeafList.listDel_flagged hx.1 _, LeafList.listDel_ordered hx.2 _⟩

end LeafState

/-- As long as every queue that joins finds its place, children stand before their
parents on every list, whatever else the class does. -/
theorem leaf_list_ordered (cfg : Config G C) (s : State T G C) (ops : List (LeafOp T G C))
    (hfits : Run.Each (LeafState.step cfg) (fun x op => op.Fits cfg x) ⟨s, .empty⟩ ops) :
    Run.Always (LeafState.step cfg) (fun x => x.leaf.Ordered cfg) ⟨s, .empty⟩ ops := by
  have hstart : LeafState.Inv cfg ⟨s, .empty⟩ :=
    ⟨⟨fun _ _ => by simp [LeafList.empty], fun _ => nodup_nil⟩, fun _ => List.Pairwise.nil⟩
  have hinv := Run.always_of_each (P := LeafState.Inv cfg) (fun x op hx => hx.step op) hstart hfits
  exact hinv.mono fun x hx => hx.2

/-- Once the root is on the list, a task in a nested group brings the inner queue
to the end, because its parent is off the list, and the outer one to the front. -/
theorem leaf_list_out_of_order :
    let s : State Bool Bool Unit := .boot { taskQueue := fun t => ⟨if t then some true else none, ()⟩ }
    let x := [LeafOp.classOp (.enqueue false true fun _ => false),
      .classOp (.enqueue true true fun _ => false)].foldl (LeafState.step nestedGroups) ⟨s, .empty⟩
    x.leaf.list () = [some false, none, some true] ∧ ¬ x.leaf.Ordered nestedGroups := by
  intro s x
  have hlist : x.leaf.list () = [some false, none, some true] := by decide +kernel
  refine ⟨hlist, fun hordered => ?_⟩
  have hpair := hordered ()
  rw [hlist] at hpair
  revert hpair
  decide

/-- A task wakes in the nested group first, so that all three queues join bottom-up;
it sleeps, and the queues leave in that order once they have decayed. -/
theorem leaf_list_ordered_nested : Run.Always (LeafState.step nestedGroups) (fun x => x.leaf.Ordered nestedGroups)
      ⟨.boot { taskQueue := fun _ => ⟨some true, ()⟩ }, .empty⟩
      [.classOp (.enqueue () true fun _ => false), .updateBlockedAverages () 5000000,
       .classOp (.dequeue () true), .updateBlockedAverages () 9000000] :=
  leaf_list_ordered _ _ _ (by decide +kernel)

end BigLittle.Cfs
