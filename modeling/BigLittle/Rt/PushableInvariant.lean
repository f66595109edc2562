import BigLittle.Rt.Pushable

/-!
# The parts agree

The list of pushable tasks, the counts and the overload flag are maintained by different
functions. Each part has its own invariant: the list holds the tasks it is said to hold, the
counts are those of the queued tasks, and the flag and the mask follow from the counts.
An operation then only has to change, for each part, what that part is about.
-/

namespace BigLittle.Rt

open Function (update update_eq_self update_idem update_of_ne update_self)
open scoped Finset
open Finset (card_pos mem_filter mem_univ univ)

variable {T Rd : Type*} {rq rq' : RunQueue T Rd} {p : T} {t : TaskRt}

/-- The list has the tasks that satisfy `E`, in priority order, and the priority of the
first is known. -/
structure Pushes (prio : T → Nat) (E : T → Prop) (l : List T) (next : Nat) : Prop where
  mem : ∀ p, p ∈ l ↔ E p
  nodup : l.Nodup
  sorted : PriorityList.Sorted prio l
  first : next = PriorityList.first prio maxRtPrio l

namespace Pushes

variable {prio prio' : T → Nat} {E E' : T → Prop} {l : List T} {next : Nat}

lemma congr (h : Pushes prio E l next) (hE : ∀ p, E' p ↔ E p)
    (hprio : ∀ p, E p → prio' p = prio p := by exact fun _ _ => rfl) : Pushes prio' E' l next where
  mem p := (h.mem p).trans (hE p).symm
  nodup := h.nodup
  sorted := h.sorted.congr fun p hp => hprio p ((h.mem p).mp hp)
  first := h.first.trans (PriorityList.first_congr fun p hp => hprio p ((h.mem p).mp hp)).symm

variable [DecidableEq T]

lemma erase (h : Pushes prio E l next) (p : T) :
    Pushes prio (fun q => E q ∧ q ≠ p) (l.erase p) (PriorityList.first prio maxRtPrio (l.erase p)) where
  mem q := by
    rw [h.nodup.mem_erase_iff, h.mem, and_comm]
  nodup := h.nodup.erase p
  sorted := h.sorted.erase p
  first := rfl

/-- A new task comes in; one that is there already may be put in again. -/
lemma insert (h : Pushes prio E l next) (hp : prio p < maxRtPrio) :
    Pushes prio (fun q => E q ∨ q = p) (PriorityList.insert prio p (l.erase p))
      (if prio p < next then prio p else next) where
  mem q := by
    rw [PriorityList.mem_insert, h.nodup.mem_erase_iff, h.mem]
    by_cases hq : q = p
    · simp [hq]
    · simp [hq]
  nodup := PriorityList.nodup_insert (h.nodup.erase p) h.nodup.not_mem_erase
  sorted := (h.sorted.erase p).insert
  first := by
    rw [PriorityList.first_insert_erase h.sorted hp, h.first]

end Pushes

/-- One record changes: the number of records with a property follows. -/
lemma card_update [DecidableEq T] [Fintype T] (P : TaskRt → Prop) [DecidablePred P]
    (f : T → TaskRt) (p : T) (t : TaskRt) :
    #{q | P (update f p t q)} + (if P (f p) then 1 else 0) = #{q | P (f q)} + if P t then 1 else 0 := by
  have hrest : (univ.filter fun q => P (update f p t q)).erase p = (univ.filter fun q => P (f q)).erase p := by
    ext q
    simp only [Finset.mem_erase, mem_filter, mem_univ, true_and]
    refine and_congr_right fun hq => ?_
    rw [update_of_ne hq]
  have hcard : ∀ g : T → TaskRt, #{q | P (g q)} =
      #((univ.filter fun q => P (g q)).erase p) + if P (g p) then 1 else 0 := by
    intro g
    split
    next hp => exact (Finset.card_erase_add_one (mem_filter.mpr ⟨mem_univ p, hp⟩)).symm
    next hp =>
      have hnot : p ∉ univ.filter fun q => P (g q) := fun hmem => hp (mem_filter.mp hmem).2
      rw [Finset.erase_eq_of_notMem hnot]
      rfl
  rw [hcard, hcard f, hrest, update_self]
  omega

namespace RunQueue

/-- The task may run elsewhere. -/
def Migratory (t : TaskRt) : Prop := t.onRtRq = true ∧ 1 < t.nrCpusAllowed
  deriving Decidable

structure Counts [Fintype T] (rq : RunQueue T Rd) : Prop where
  total : rq.rtNrTotal = #{p | (rq.task p).onRtRq = true}
  migratory : rq.rtNrMigratory = #{p | Migratory (rq.task p)}

/-- A task that waits and may run elsewhere. -/
def Eligible (rq : RunQueue T Rd) (p : T) : Prop := Migratory (rq.task p) ∧ p ≠ rq.curr

lemma Counts.total_pos [Fintype T] (h : rq.Counts) (hp : (rq.task p).onRtRq = true) : 0 < rq.rtNrTotal := by
  rw [h.total]
  exact card_pos.mpr ⟨p, mem_filter.mpr ⟨mem_univ p, hp⟩⟩

lemma Counts.migratory_pos [Fintype T] (h : rq.Counts) (hp : Migratory (rq.task p)) : 0 < rq.rtNrMigratory := by
  rw [h.migratory]
  exact card_pos.mpr ⟨p, mem_filter.mpr ⟨mem_univ p, hp⟩⟩

section Records

variable [DecidableEq T]

@[simp] lemma setTask_task_self (rq : RunQueue T Rd) (p : T) (t : TaskRt) : (rq.setTask p t).task p = t := by
  change update rq.task p t p = t
  rw [update_self]

/-- The record of one task is written. -/
lemma eligible_update (rq : RunQueue T Rd) (htask : rq'.task = update rq.task p t) (hcurr : rq'.curr = rq.curr)
    (q : T) : rq'.Eligible q ↔ if q = p then Migratory t ∧ p ≠ rq.curr else rq.Eligible q := by
  rw [Eligible, htask, hcurr]
  split
  next hq => rw [hq, update_self]
  next hq =>
    rw [update_of_ne hq]
    rfl

lemma prio_update (htask : rq'.task = update rq.task p t) (hprio : t.prio = (rq.task p).prio) : rq'.prio = rq.prio := by
  funext q
  rw [prio, htask, prio]
  by_cases hq : q = p
  · rw [hq, update_self, hprio]
  · rw [update_of_ne hq]

/-- Tasks keep a real-time priority when none but `p` is queued anew. -/
lemma rtPrio_update (h : ∀ q, (rq.task q).onRtRq = true → rq.prio q < maxRtPrio) (htask : rq'.task = update rq.task p t)
    (hp : t.onRtRq = true → t.prio < maxRtPrio) (q : T) (hq : (rq'.task q).onRtRq = true) : rq'.prio q < maxRtPrio := by
  rw [prio]
  rw [htask] at hq ⊢
  by_cases hqp : q = p
  · rw [hqp, update_self] at hq ⊢
    exact hp hq
  · rw [update_of_ne hqp] at hq ⊢
    exact h q hq

/-- The counts change with the record of a task. -/
lemma Counts.setTask [Fintype T] (h : rq.Counts) (p : T) (t : TaskRt) (htask : rq'.task = update rq.task p t)
    (htotal : rq'.rtNrTotal + (if (rq.task p).onRtRq = true then 1 else 0) =
      rq.rtNrTotal + if t.onRtRq = true then 1 else 0)
    (hmigratory : rq'.rtNrMigratory + (if Migratory (rq.task p) then 1 else 0) =
      rq.rtNrMigratory + if Migratory t then 1 else 0) : rq'.Counts := by
  have hon := card_update (fun t => t.onRtRq = true) rq.task p t
  have hmove := card_update Migratory rq.task p t
  have htotal' := h.total
  have hmigratory' := h.migratory
  constructor
  · rw [htask]
    omega
  · rw [htask]
    omega

end Records

variable [DecidableEq Rd]

/-- The root domain knows whether the queue is overloaded while the CPU is online. -/
structure Announced (rq : RunQueue T Rd) : Prop where
  mask : ∀ r, rq.rtoMask r = (decide (r = rq.rd) && rq.online && rq.overloaded)
  count : ∀ r, rq.rtoCount r = if rq.rtoMask r then 1 else 0

structure Overload (rq : RunQueue T Rd) : Prop extends rq.Announced where
  flag : rq.overloaded = true ↔ 1 ≤ rq.rtNrMigratory ∧ 1 < rq.rtNrTotal

/-! ### The overload flag -/

/-- Only the mask and the count of the root domain change. -/
lemma rtSetOverload_eq (rq : RunQueue T Rd) :
    ∃ mask count, rq.rtSetOverload = { rq with rtoMask := mask, rtoCount := count } := by
  rw [rtSetOverload]
  split
  · exact ⟨rq.rtoMask, rq.rtoCount, rfl⟩
  · exact ⟨_, _, rfl⟩

lemma rtClearOverload_eq (rq : RunQueue T Rd) :
    ∃ mask count, rq.rtClearOverload = { rq with rtoMask := mask, rtoCount := count } := by
  rw [rtClearOverload]
  split
  · exact ⟨rq.rtoMask, rq.rtoCount, rfl⟩
  · exact ⟨_, _, rfl⟩

/-- No root domain lists the CPU. -/
def Clean (rq : RunQueue T Rd) : Prop := ∀ r, rq.rtoMask r = false ∧ rq.rtoCount r = 0

lemma Announced.clean (h : rq.Announced) (hquiet : (rq.online && rq.overloaded) = false) : rq.Clean := by
  intro r
  have hmask : rq.rtoMask r = false := by
    rw [h.mask, Bool.and_assoc, hquiet, Bool.and_false]
  exact ⟨hmask, by simp [h.count, hmask]⟩

lemma Clean.announced (h : rq.Clean) (hquiet : (rq.online && rq.overloaded) = false) : rq.Announced where
  mask r := by rw [(h r).1, Bool.and_assoc, hquiet, Bool.and_false]
  count r := by simp [(h r).1, (h r).2]

lemma Clean.set (h : rq.Clean) : Announced { rq.rtSetOverload with overloaded := true } := by
  rw [rtSetOverload]
  split
  next hoff => exact Clean.announced h (by simpa using hoff)
  next hon =>
    have hon : rq.online = true := by simpa using hon
    constructor
    · intro r
      by_cases hr : r = rq.rd
      · simp [hon, hr]
      · simp [hr, (h r).1]
    · intro r
      by_cases hr : r = rq.rd
      · simp [hr, (h rq.rd).2]
      · simp [hr, (h r).1, (h r).2]

lemma Announced.clear (h : rq.Announced) (hflag : rq.overloaded = true) : rq.rtClearOverload.Clean := by
  rw [rtClearOverload]
  split
  next hoff => exact h.clean (by simp [show rq.online = false by simpa using hoff])
  next hon =>
    have hon : rq.online = true := by simpa using hon
    intro r
    by_cases hr : r = rq.rd
    · simp [hr, h.count, h.mask, hon, hflag]
    · have hmask : rq.rtoMask r = false := by simp [h.mask, hr]
      simp [hr, h.count, hmask]

/-- After the counts have changed the flag, the mask and the count follow, and nothing else
changes. -/
lemma updateRtMigration_spec (h : rq.Announced) : rq.updateRtMigration.Overload ∧ ∃ flag mask count,
    rq.updateRtMigration = { rq with overloaded := flag, rtoMask := mask, rtoCount := count } := by
  obtain ⟨mask, count, hset⟩ := rtSetOverload_eq rq
  obtain ⟨mask', count', hclear⟩ := rtClearOverload_eq rq
  rw [updateRtMigration]
  split
  next hover =>
    have hflag : 1 ≤ rq.rtNrMigratory ∧ 1 < rq.rtNrTotal := ⟨Nat.one_le_iff_ne_zero.mpr hover.1, hover.2⟩
    split
    next hclear =>
      have hannounced := (h.clean (by simpa using fun _ => hclear)).set
      rw [hset] at hannounced ⊢
      exact ⟨⟨hannounced, iff_of_true rfl hflag⟩, true, mask, count, rfl⟩
    next hset =>
      exact ⟨⟨h, iff_of_true (by simpa using hset) hflag⟩, rq.overloaded, rq.rtoMask, rq.rtoCount, rfl⟩
  next hnot =>
    have hflag : ¬(1 ≤ rq.rtNrMigratory ∧ 1 < rq.rtNrTotal) := fun hover =>
      hnot ⟨Nat.one_le_iff_ne_zero.mp hover.1, hover.2⟩
    split
    next hset =>
      have hclean := h.clear hset
      rw [hclear] at hclean ⊢
      exact ⟨⟨Clean.announced hclean (Bool.and_false _), iff_of_false Bool.false_ne_true hflag⟩,
        false, mask', count', rfl⟩
    next hclear => exact ⟨⟨h, iff_of_false hclear hflag⟩, rq.overloaded, rq.rtoMask, rq.rtoCount, rfl⟩

lemma updateRtMigration_task (rq : RunQueue T Rd) : rq.updateRtMigration.task = rq.task := by
  obtain ⟨mask, count, hset⟩ := rtSetOverload_eq rq
  obtain ⟨mask', count', hclear⟩ := rtClearOverload_eq rq
  rw [updateRtMigration, hset, hclear]
  split
  · split <;> rfl
  · split <;> rfl

/-- The flag does not depend on the records of the tasks. -/
lemma setTask_updateRtMigration [DecidableEq T] (rq : RunQueue T Rd) (p : T) (t : TaskRt) :
    rq.updateRtMigration.setTask p t = (rq.setTask p t).updateRtMigration := by
  have hset : rq.rtSetOverload.setTask p t = (rq.setTask p t).rtSetOverload := by
    rw [rtSetOverload, rtSetOverload]
    exact apply_ite (RunQueue.setTask · p t) _ _ _
  have hclear : rq.rtClearOverload.setTask p t = (rq.setTask p t).rtClearOverload := by
    rw [rtClearOverload, rtClearOverload]
    exact apply_ite (RunQueue.setTask · p t) _ _ _
  rw [updateRtMigration, updateRtMigration, ← hset, ← hclear, apply_ite (RunQueue.setTask · p t),
    apply_ite (RunQueue.setTask · p t), apply_ite (RunQueue.setTask · p t)]
  rfl

/-! ### Online and offline -/

lemma Overload.setRqOnline (h : rq.Overload) : rq.setRqOnline.Overload := by
  rw [RunQueue.setRqOnline]
  split
  next hoff =>
    have hclean : rq.Clean := h.clean (by simp [show rq.online = false by simpa using hoff])
    dsimp only
    split
    next hover =>
      have hup : Clean { rq with online := true } := hclean
      have hset := hup.set
      rw [rtSetOverload] at hset ⊢
      exact ⟨⟨fun r => (hset.mask r).trans (by simp [hover]), hset.count⟩, h.flag⟩
    next hnot => exact ⟨Clean.announced hclean (by simpa using hnot), h.flag⟩
  next => exact h

lemma Overload.setRqOffline (h : rq.Overload) : rq.setRqOffline.Overload ∧ rq.setRqOffline.online = false := by
  rw [RunQueue.setRqOffline]
  split
  next hon =>
    refine ⟨?_, rfl⟩
    split
    next hover =>
      have hclean := h.clear hover
      obtain ⟨mask, count, heq⟩ := rtClearOverload_eq rq
      rw [heq] at hclean ⊢
      exact ⟨Clean.announced hclean rfl, h.flag⟩
    next hnot => exact ⟨Clean.announced (h.clean (by simp [hnot])) rfl, h.flag⟩
  next hoff => exact ⟨h, by simpa using hoff⟩

lemma setRqOnline_eq (rq : RunQueue T Rd) :
    ∃ online mask count, rq.setRqOnline = { rq with online := online, rtoMask := mask, rtoCount := count } := by
  rw [RunQueue.setRqOnline]
  split
  · dsimp only
    split
    · obtain ⟨mask, count, heq⟩ := rtSetOverload_eq { rq with online := true }
      exact ⟨true, mask, count, heq⟩
    · exact ⟨true, rq.rtoMask, rq.rtoCount, rfl⟩
  · exact ⟨rq.online, rq.rtoMask, rq.rtoCount, rfl⟩

lemma setRqOffline_eq (rq : RunQueue T Rd) :
    ∃ online mask count, rq.setRqOffline = { rq with online := online, rtoMask := mask, rtoCount := count } := by
  rw [RunQueue.setRqOffline]
  split
  · split
    · obtain ⟨mask, count, heq⟩ := rtClearOverload_eq rq
      rw [heq]
      exact ⟨false, mask, count, rfl⟩
    · exact ⟨false, rq.rtoMask, rq.rtoCount, rfl⟩
  · exact ⟨rq.online, rq.rtoMask, rq.rtoCount, rfl⟩

/-! ### All parts together -/

variable [Fintype T]

structure Inv (rq : RunQueue T Rd) : Prop where
  pushes : Pushes rq.prio rq.Eligible rq.pushableTasks rq.highestPrioNext
  counts : rq.Counts
  overload : rq.Overload
  rtPrio : ∀ p, (rq.task p).onRtRq = true → rq.prio p < maxRtPrio

lemma Inv.setRqOnline (h : rq.Inv) : rq.setRqOnline.Inv := by
  have hoverload := h.overload.setRqOnline
  obtain ⟨online, mask, count, heq⟩ := setRqOnline_eq rq
  rw [heq] at hoverload ⊢
  exact ⟨h.pushes, ⟨h.counts.total, h.counts.migratory⟩, hoverload, h.rtPrio⟩

lemma Inv.setRqOffline (h : rq.Inv) : rq.setRqOffline.Inv ∧ rq.setRqOffline.online = false := by
  obtain ⟨hoverload, hoff⟩ := h.overload.setRqOffline
  refine ⟨?_, hoff⟩
  obtain ⟨online, mask, count, heq⟩ := setRqOffline_eq rq
  rw [heq] at hoverload ⊢
  exact ⟨h.pushes, ⟨h.counts.total, h.counts.migratory⟩, hoverload, h.rtPrio⟩

/-- A CPU changes its root domain while it is offline. -/
lemma Inv.rqAttachRoot (h : rq.Inv) (rd : Rd) (active : Bool) : (rq.rqAttachRoot rd active).Inv := by
  obtain ⟨hinv, hoff⟩ := h.setRqOffline
  rw [RunQueue.rqAttachRoot]
  generalize rq.setRqOffline = left at hinv hoff ⊢
  have hmoved : Inv { left with rd := rd } := by
    have hquiet : (left.online && left.overloaded) = false := by rw [hoff, Bool.false_and]
    exact ⟨hinv.pushes, ⟨hinv.counts.total, hinv.counts.migratory⟩,
      ⟨Clean.announced (hinv.overload.clean hquiet) hquiet, hinv.overload.flag⟩, hinv.rtPrio⟩
  dsimp only
  split
  · exact hmoved.setRqOnline
  · exact hmoved

structure Consistent (rq : RunQueue T Rd) : Prop where
  mem_pushable : ∀ p, p ∈ rq.pushableTasks ↔
    (rq.task p).onRtRq = true ∧ p ≠ rq.curr ∧ 1 < (rq.task p).nrCpusAllowed
  nodup_pushable : rq.pushableTasks.Nodup
  sorted_pushable : rq.pushableTasks.Pairwise fun p q => (rq.task p).prio ≤ (rq.task q).prio
  next : rq.highestPrioNext = match rq.pushableTasks with
    | [] => maxRtPrio
    | p :: _ => (rq.task p).prio
  total : rq.rtNrTotal = #{p | (rq.task p).onRtRq = true}
  migratory : rq.rtNrMigratory = #{p | (rq.task p).onRtRq = true ∧ 1 < (rq.task p).nrCpusAllowed}
  overloaded : rq.overloaded = true ↔ 1 ≤ rq.rtNrMigratory ∧ 1 < rq.rtNrTotal
  rto : rq.online = true → rq.rtoMask rq.rd = rq.overloaded

lemma Inv.consistent (h : rq.Inv) : rq.Consistent where
  mem_pushable p := by
    rw [h.pushes.mem, Eligible, Migratory, and_assoc, and_comm (a := p ≠ rq.curr)]
  nodup_pushable := h.pushes.nodup
  sorted_pushable := h.pushes.sorted
  next := by
    rw [h.pushes.first]
    cases rq.pushableTasks with
    | nil => rfl
    | cons p rest => rfl
  total := h.counts.total
  migratory := h.counts.migratory
  overloaded := h.overload.flag
  rto honline := by simp [h.overload.mask, honline]

/-- An offline CPU with no real-time task. -/
def init (task : T → TaskRt) (curr : T) (rd : Rd) : RunQueue T Rd where
  task p := { task p with onRtRq := false }
  curr := curr
  rd := rd

lemma init_inv (task : T → TaskRt) (curr : T) (rd : Rd) : (init task curr rd).Inv := by
  have hoff : ∀ p, ((init task curr rd).task p).onRtRq = false := fun _ => rfl
  refine ⟨⟨fun p => ?_, List.nodup_nil, List.Pairwise.nil, rfl⟩, ⟨?_, ?_⟩, ⟨⟨fun r => ?_, fun r => rfl⟩, ?_⟩, ?_⟩
  · exact iff_of_false List.not_mem_nil fun h => nomatch (hoff p).symm.trans h.1.1
  · simp [init]
  · simp [Migratory, init]
  · simp [init]
  · simp [init]
  · exact fun p hp => nomatch (hoff p).symm.trans hp

/-! ### Queueing -/

/-- The counts and the flag are right, the tasks are those of `f`, and the pushable tasks as
they were. -/
structure Requeued (rq : RunQueue T Rd) (f : T → TaskRt) (rq' : RunQueue T Rd) : Prop where
  counts : rq'.Counts
  overload : rq'.Overload
  task : rq'.task = f
  curr : rq'.curr = rq.curr
  pushableTasks : rq'.pushableTasks = rq.pushableTasks
  highestPrioNext : rq'.highestPrioNext = rq.highestPrioNext

/-- `update_rt_migration` finishes a change of the counts. -/
lemma Requeued.update {f : T → TaskRt} (h : rq'.Announced) (hcounts : rq'.Counts)
    (htask : rq'.task = f) (hcurr : rq'.curr = rq.curr) (hpushable : rq'.pushableTasks = rq.pushableTasks)
    (hnext : rq'.highestPrioNext = rq.highestPrioNext) : Requeued rq f rq'.updateRtMigration := by
  obtain ⟨hoverload, flag, mask, count, heq⟩ := updateRtMigration_spec h
  rw [heq] at hoverload ⊢
  exact ⟨⟨hcounts.total, hcounts.migratory⟩, hoverload, htask, hcurr, hpushable, hnext⟩

/-- Only the list and the current task change. -/
lemma Inv.setPushable (hcounts : rq.Counts) (hoverload : rq.Overload)
    (hrt : ∀ q, (rq.task q).onRtRq = true → rq.prio q < maxRtPrio) {E : T → Prop} {l : List T} {next : Nat} {curr : T}
    (h : Pushes rq.prio E l next) (hE : ∀ q, Migratory (rq.task q) ∧ q ≠ curr ↔ E q) :
    Inv { rq with pushableTasks := l, highestPrioNext := next, curr := curr } :=
  ⟨h.congr hE, ⟨hcounts.total, hcounts.migratory⟩, ⟨⟨hoverload.mask, hoverload.count⟩, hoverload.flag⟩, hrt⟩

variable [DecidableEq T]

lemma enqueueEntity_requeued (hcounts : rq.Counts) (hoverload : rq.Overload) (hoff : (rq.task p).onRtRq = false) :
    Requeued rq (update rq.task p { rq.task p with onRtRq := true }) (rq.enqueueEntity p) := by
  rw [enqueueEntity, incRtMigration]
  have hself : ((rq.setTask p { rq.task p with onRtRq := true }).task p).nrCpusAllowed =
      (rq.task p).nrCpusAllowed := by
    rw [setTask_task_self]
  have hold : ¬Migratory (rq.task p) := fun h => Bool.false_ne_true (hoff.symm.trans h.1)
  dsimp only
  rw [hself]
  split
  next hmany =>
    refine .update ⟨hoverload.mask, hoverload.count⟩ (hcounts.setTask p _ rfl ?_ ?_) rfl rfl rfl rfl
    · simp [RunQueue.setTask, hoff]
    · have hnew : Migratory { rq.task p with onRtRq := true } := ⟨rfl, hmany⟩
      simp [RunQueue.setTask, hold, hnew]
  next hone =>
    refine .update ⟨hoverload.mask, hoverload.count⟩ (hcounts.setTask p _ rfl ?_ ?_) rfl rfl rfl rfl
    · simp [RunQueue.setTask, hoff]
    · have hnew : ¬Migratory { rq.task p with onRtRq := true } := fun h => hone h.2
      simp [RunQueue.setTask, hold, hnew]

lemma dequeueRtStack_requeued (hcounts : rq.Counts) (hoverload : rq.Overload) (p : T) :
    Requeued rq (update rq.task p { rq.task p with onRtRq := false }) (rq.dequeueRtStack p) := by
  rw [dequeueRtStack]
  split
  next hon =>
    have hself : ((rq.setTask p { rq.task p with onRtRq := false }).task p).nrCpusAllowed =
        (rq.task p).nrCpusAllowed := by
      rw [setTask_task_self]
    have hnew : ¬Migratory { rq.task p with onRtRq := false } := fun h => Bool.false_ne_true h.1
    have htotal := hcounts.total_pos hon
    rw [decRtMigration]
    dsimp only
    rw [hself]
    split
    next hmany =>
      have hold : Migratory (rq.task p) := ⟨hon, hmany⟩
      have hmigratory := hcounts.migratory_pos hold
      refine .update ⟨hoverload.mask, hoverload.count⟩ (hcounts.setTask p _ rfl ?_ ?_) rfl rfl rfl rfl
      · simp [RunQueue.setTask, hon]
        omega
      · simp [RunQueue.setTask, hold, hnew]
        omega
    next hone =>
      have hold : ¬Migratory (rq.task p) := fun h => hone h.2
      refine .update ⟨hoverload.mask, hoverload.count⟩ (hcounts.setTask p _ rfl ?_ ?_) rfl rfl rfl rfl
      · simp [RunQueue.setTask, hon]
        omega
      · simp [RunQueue.setTask, hold, hnew]
  next hoff =>
    have hoff : (rq.task p).onRtRq = false := by simpa using hoff
    have hsame : update rq.task p { rq.task p with onRtRq := false } = rq.task := by
      rw [← hoff]
      exact update_eq_self p rq.task
    exact ⟨hcounts, hoverload, hsame.symm, rfl, rfl, rfl⟩

/-- `enqueue_rt_entity` takes the task off before it queues it. -/
lemma enqueueRtEntity_requeued (hcounts : rq.Counts) (hoverload : rq.Overload) (p : T) :
    Requeued rq (update rq.task p { rq.task p with onRtRq := true })
      ((rq.dequeueRtStack p).enqueueEntity p) := by
  have hstack := dequeueRtStack_requeued hcounts hoverload p
  have hself : (rq.dequeueRtStack p).task p = { rq.task p with onRtRq := false } := by
    rw [hstack.task, update_self]
  have hqueued := enqueueEntity_requeued hstack.counts hstack.overload (congrArg TaskRt.onRtRq hself)
  refine ⟨hqueued.counts, hqueued.overload, ?_, hqueued.curr.trans hstack.curr,
    hqueued.pushableTasks.trans hstack.pushableTasks, hqueued.highestPrioNext.trans hstack.highestPrioNext⟩
  rw [hqueued.task, hself, hstack.task, update_idem]

lemma Inv.enqueueTaskRt (h : rq.Inv) (hp : rq.prio p < maxRtPrio) : (rq.enqueueTaskRt p).Inv := by
  have hqueued := enqueueRtEntity_requeued h.counts h.overload p
  rw [RunQueue.enqueueTaskRt]
  generalize (rq.dequeueRtStack p).enqueueEntity p = rq' at hqueued ⊢
  have hprio : rq'.prio = rq.prio := prio_update hqueued.task rfl
  have hself : rq'.task p = { rq.task p with onRtRq := true } := by
    rw [hqueued.task, update_self]
  have heligible := eligible_update rq hqueued.task hqueued.curr
  have hrt := rtPrio_update h.rtPrio hqueued.task fun _ => hp
  have hpushes : Pushes rq'.prio rq.Eligible rq'.pushableTasks rq'.highestPrioNext := by
    rw [hprio, hqueued.pushableTasks, hqueued.highestPrioNext]
    exact h.pushes
  rw [hself, hqueued.curr]
  split
  next hpush =>
    have hpushed := hpushes.insert (p := p) (by rw [hprio]; exact hp)
    refine .setPushable hqueued.counts hqueued.overload hrt hpushed fun q => (heligible q).trans ?_
    by_cases hq : q = p
    · simp [hq, Migratory, hpush.1, hpush.2]
    · simp [hq]
  next hstay =>
    refine ⟨hpushes.congr (fun q => (heligible q).trans ?_), hqueued.counts, hqueued.overload, hrt⟩
    by_cases hq : q = p
    · have hnot : ¬rq.Eligible p := fun hmem => hstay ⟨hmem.2, hmem.1.2⟩
      have hnew : ¬(Migratory { rq.task p with onRtRq := true } ∧ p ≠ rq.curr) :=
        fun hmem => hstay ⟨hmem.2, hmem.1.2⟩
      simp [hq, hnot, hnew]
    · simp [hq]

lemma Inv.dequeueTaskRt (h : rq.Inv) (p : T) : (rq.dequeueTaskRt p).Inv := by
  have hqueued := dequeueRtStack_requeued h.counts h.overload p
  rw [RunQueue.dequeueTaskRt]
  generalize rq.dequeueRtStack p = rq' at hqueued ⊢
  have hprio : rq'.prio = rq.prio := prio_update hqueued.task rfl
  have heligible := eligible_update rq hqueued.task hqueued.curr
  have hrt := rtPrio_update h.rtPrio hqueued.task fun hon => nomatch hon
  have hpushes : Pushes rq'.prio rq.Eligible rq'.pushableTasks rq'.highestPrioNext := by
    rw [hprio, hqueued.pushableTasks, hqueued.highestPrioNext]
    exact h.pushes
  refine .setPushable hqueued.counts hqueued.overload hrt (hpushes.erase p) fun q => (heligible q).trans ?_
  by_cases hq : q = p
  · simp [hq, Migratory]
  · simp [hq]

/-- The current task is put back: then all that may run elsewhere are on the list. -/
lemma Inv.putPrevTaskRt (h : rq.Inv) :
    let rq' := rq.putPrevTaskRt rq.curr
    Pushes rq.prio (fun q => Migratory (rq.task q)) rq'.pushableTasks rq'.highestPrioNext ∧
      ∃ pushable next, rq' = { rq with pushableTasks := pushable, highestPrioNext := next } := by
  dsimp only
  rw [RunQueue.putPrevTaskRt]
  split
  next hback =>
    refine ⟨(h.pushes.insert (h.rtPrio _ hback.1)).congr fun q => ?_, _, _, rfl⟩
    by_cases hq : q = rq.curr
    · simp [hq, Migratory, hback.1, hback.2]
    · simp [hq, Eligible]
  next hgone =>
    refine ⟨h.pushes.congr fun q => ?_, rq.pushableTasks, rq.highestPrioNext, rfl⟩
    by_cases hq : q = rq.curr
    · have hnot : ¬Migratory (rq.task rq.curr) := hgone
      simp [hq, Eligible, hnot]
    · simp [hq, Eligible]

lemma Inv.contextSwitch (h : rq.Inv) (next : T) : (rq.contextSwitch next).Inv := by
  obtain ⟨hpushes, pushable, first, heq⟩ := h.putPrevTaskRt
  rw [RunQueue.contextSwitch]
  rw [heq] at hpushes ⊢
  dsimp only at hpushes ⊢
  split
  next hqueued =>
    exact .setPushable h.counts h.overload h.rtPrio (hpushes.erase next) fun q => Iff.rfl
  next hother =>
    refine .setPushable h.counts h.overload h.rtPrio hpushes fun q => and_iff_left_of_imp fun hmove hq => hother ?_
    exact hq ▸ hmove.1

lemma Inv.setCurrTask (h : rq.Inv) : (rq.pickNextTaskRt rq.curr).Inv :=
  .setPushable h.counts h.overload h.rtPrio (h.pushes.erase rq.curr) fun _ =>
    (and_iff_left_of_imp fun heligible => heligible.2).symm

/-- A change that matters neither for the counts nor for the list. -/
lemma Inv.setTask (h : rq.Inv) (hon : t.onRtRq = (rq.task p).onRtRq) (hmove : Migratory t ↔ Migratory (rq.task p))
    (hprio : t.onRtRq = true → t.prio = (rq.task p).prio) : (rq.setTask p t).Inv := by
  have htask : (rq.setTask p t).task = update rq.task p t := rfl
  refine ⟨h.pushes.congr (fun q => (eligible_update rq htask rfl q).trans ?_) fun q hq => ?_,
    h.counts.setTask p t htask ?_ ?_, ⟨⟨h.overload.mask, h.overload.count⟩, h.overload.flag⟩,
    rtPrio_update h.rtPrio htask fun hqueued => ?_⟩
  · by_cases hq : q = p
    · simp [hq, Eligible, hmove]
    · simp [hq]
  · rw [prio, htask]
    by_cases hqp : q = p
    · rw [hqp, update_self]
      rw [hqp] at hq
      exact hprio (hon.trans hq.1.1)
    · rw [update_of_ne hqp]
      rfl
  · simp [RunQueue.setTask, hon]
  · simp [RunQueue.setTask, hmove]
  · rw [hprio hqueued]
    exact h.rtPrio p (hon.symm.trans hqueued)

/-- The last part of an affinity change of a queued task. -/
lemma Inv.affinity (h : rq.Inv) {weight : Nat}
    (htask : rq'.task = rq.task) (hcurr : rq'.curr = rq.curr) (hannounced : rq'.Announced)
    (htotal : rq'.rtNrTotal = rq.rtNrTotal)
    (hmigratory : rq'.rtNrMigratory + (if Migratory (rq.task p) then 1 else 0) =
      rq.rtNrMigratory + if Migratory { rq.task p with nrCpusAllowed := weight } then 1 else 0)
    (hpushes : Pushes rq.prio
      (fun q => if q = p then Migratory { rq.task p with nrCpusAllowed := weight } ∧ p ≠ rq.curr else rq.Eligible q)
      rq'.pushableTasks rq'.highestPrioNext) :
    (rq'.updateRtMigration.setTask p { rq'.updateRtMigration.task p with nrCpusAllowed := weight }).Inv := by
  rw [updateRtMigration_task, htask]
  generalize ht : { rq.task p with nrCpusAllowed := weight } = t at hmigratory hpushes ⊢
  have hon : t.onRtRq = (rq.task p).onRtRq := by rw [← ht]
  have hprio : t.prio = (rq.task p).prio := by rw [← ht]
  have hset : (rq'.setTask p t).task = update rq.task p t := by
    rw [← htask]
    rfl
  have hcounts : (rq'.setTask p t).Counts :=
    h.counts.setTask p t hset (by rw [hon, ← htotal]; rfl) hmigratory
  have hupdated : Requeued (rq'.setTask p t) (update rq.task p t) (rq'.setTask p t).updateRtMigration :=
    .update ⟨hannounced.mask, hannounced.count⟩ hcounts hset rfl rfl rfl
  rw [setTask_updateRtMigration]
  generalize (rq'.setTask p t).updateRtMigration = final at hupdated ⊢
  have hfinal : final.prio = rq.prio := prio_update hupdated.task hprio
  refine ⟨?_, hupdated.counts, hupdated.overload, rtPrio_update h.rtPrio hupdated.task fun hqueued => ?_⟩
  · rw [hupdated.pushableTasks, hupdated.highestPrioNext]
    refine hpushes.congr (eligible_update rq hupdated.task (hupdated.curr.trans hcurr)) fun q _ => ?_
    rw [hfinal]
  · rw [hprio]
    exact h.rtPrio p (hon.symm.trans hqueued)

/-- The list of a queue whose task `p` gets the record `t`: nothing changes if `p` runs,
and otherwise it depends on where `t` may run. -/
lemma Inv.pushes_running (h : rq.Inv) (hcurr : p = rq.curr) (t : TaskRt) :
    Pushes rq.prio (fun q => if q = p then Migratory t ∧ p ≠ rq.curr else rq.Eligible q)
      rq.pushableTasks rq.highestPrioNext := by
  refine h.pushes.congr fun q => ?_
  by_cases hq : q = p
  · simp [hq, Eligible, hcurr]
  · simp [hq]

lemma Inv.pushes_bound (h : rq.Inv) (ht : ¬Migratory t) :
    Pushes rq.prio (fun q => if q = p then Migratory t ∧ p ≠ rq.curr else rq.Eligible q)
      (rq.dequeuePushableTask p).pushableTasks (rq.dequeuePushableTask p).highestPrioNext := by
  refine (h.pushes.erase p).congr fun q => ?_
  by_cases hq : q = p
  · simp [hq, ht]
  · simp [hq]

lemma Inv.pushes_free (h : rq.Inv) (hon : (rq.task p).onRtRq = true) (ht : Migratory t) (hcurr : p ≠ rq.curr) :
    Pushes rq.prio (fun q => if q = p then Migratory t ∧ p ≠ rq.curr else rq.Eligible q)
      (rq.enqueuePushableTask p).pushableTasks (rq.enqueuePushableTask p).highestPrioNext := by
  refine (h.pushes.insert (h.rtPrio p hon)).congr fun q => ?_
  by_cases hq : q = p
  · simp [hq, ht, hcurr]
  · simp [hq]

/-- Whether a task may run elsewhere changes: the count follows, and the list if the task
waits. -/
lemma Inv.doSetCpusAllowed (h : rq.Inv) (p : T) (weight : Nat) : (rq.doSetCpusAllowed p weight).Inv := by
  rw [RunQueue.doSetCpusAllowed, setCpusAllowedRt]
  split
  next hoff =>
    have hoff : (rq.task p).onRtRq = false := by simpa using hoff
    refine h.setTask rfl ?_ fun _ => rfl
    simp [Migratory, hoff]
  next hon =>
    have hon : (rq.task p).onRtRq = true := by simpa using hon
    split
    next hsame =>
      refine h.setTask rfl ?_ fun _ => rfl
      simp only [Migratory, hsame]
    next hchange =>
      dsimp only
      split
      next hone =>
        have hmany : 1 < (rq.task p).nrCpusAllowed := by
          by_contra hnot
          exact hchange (propext (iff_of_false hnot (not_lt.mpr hone)))
        have hold : Migratory (rq.task p) := ⟨hon, hmany⟩
        have hnew : ¬Migratory { rq.task p with nrCpusAllowed := weight } := fun hm => not_lt.mpr hone hm.2
        have hless : rq.rtNrMigratory - 1 + (if Migratory (rq.task p) then 1 else 0) =
            rq.rtNrMigratory + if Migratory { rq.task p with nrCpusAllowed := weight } then 1 else 0 := by
          rw [if_pos hold, if_neg hnew]
          exact Nat.sub_add_cancel (h.counts.migratory_pos hold)
        split
        next => exact h.affinity rfl rfl ⟨h.overload.mask, h.overload.count⟩ rfl hless (h.pushes_bound hnew)
        next hcurr =>
          exact h.affinity rfl rfl ⟨h.overload.mask, h.overload.count⟩ rfl hless (h.pushes_running (not_not.mp hcurr) _)
      next hmany =>
        have hone : ¬1 < (rq.task p).nrCpusAllowed := fun hlt =>
          hchange (propext (iff_of_true hlt (not_le.mp hmany)))
        have hnew : Migratory { rq.task p with nrCpusAllowed := weight } := ⟨hon, not_le.mp hmany⟩
        have hmore : rq.rtNrMigratory + 1 + (if Migratory (rq.task p) then 1 else 0) =
            rq.rtNrMigratory + if Migratory { rq.task p with nrCpusAllowed := weight } then 1 else 0 := by
          rw [if_neg fun hold => hone hold.2, if_pos hnew]
        split
        next hcurr =>
          exact h.affinity rfl rfl ⟨h.overload.mask, h.overload.count⟩ rfl hmore (h.pushes_free hon hnew hcurr)
        next hcurr =>
          exact h.affinity rfl rfl ⟨h.overload.mask, h.overload.count⟩ rfl hmore (h.pushes_running (not_not.mp hcurr) _)

lemma Inv.step {op : QueueOp T Rd} (h : rq.Inv) (hop : op.Allowed rq) : (rq.step op).Inv := by
  cases op with
  | enqueueTask p => exact h.enqueueTaskRt hop
  | dequeueTask p => exact h.dequeueTaskRt p
  | contextSwitch next => exact h.contextSwitch next
  | putPrevTask =>
    have hop : (rq.task rq.curr).onRtRq = false := hop
    have hstays : rq.step .putPrevTask = rq := if_neg fun hback =>
      Bool.false_ne_true (hop.symm.trans hback.1)
    rwa [hstays]
  | setCurrTask => exact h.setCurrTask
  | setPrio p prio =>
    have hop : (rq.task p).onRtRq = false := hop
    refine h.setTask rfl Iff.rfl fun hon => nomatch hop.symm.trans hon
  | setCpusAllowed p weight => exact h.doSetCpusAllowed p weight
  | online => exact h.setRqOnline
  | offline => exact h.setRqOffline.1
  | attachRoot rd active => exact h.rqAttachRoot rd active

/-- Along every sequence of enqueues, dequeues, context switches and affinity changes, and
while the CPU comes and goes, all parts of the bookkeeping agree with the queued tasks. -/
theorem always_consistent (task : T → TaskRt) (curr : T) (rd : Rd) (ops : List (QueueOp T Rd))
    (hops : Run.Each step (fun rq op => op.Allowed rq) (init task curr rd) ops) :
    Run.Always step Consistent (init task curr rd) ops := by
  have hinv := Run.always_of_each (P := fun rq : RunQueue T Rd => rq.Inv)
    (fun rq op hrq hop => hrq.step hop) (init_inv task curr rd) hops
  exact hinv.mono fun rq hrq => hrq.consistent

/-- Two real-time tasks and one of another class come, run and change their affinity. -/
theorem always_consistent_three_tasks : Run.Always step Consistent
      (init (fun p : Fin 3 => { prio := if p = 2 then 120 else 50 + p, nrCpusAllowed := 4 }) 2 ())
      [.online, .enqueueTask 0, .enqueueTask 1, .contextSwitch 0, .setCpusAllowed 1 1, .setCpusAllowed 0 1,
        .setCpusAllowed 1 2, .contextSwitch 1, .dequeueTask 1, .putPrevTask, .setPrio 1 10, .setCurrTask,
        .enqueueTask 1, .offline, .attachRoot () true, .dequeueTask 1, .contextSwitch 0] :=
  always_consistent _ _ _ _ (by decide +kernel)

end RunQueue

end BigLittle.Rt
