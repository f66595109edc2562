import BigLittle.Cfs.Keeps

/-!
# The migration times of a CPU

`rq->avg` holds the load of a CPU and the times of the HMP migrations noted for it. The operations of
the class write the load and leave the times alone.
-/

namespace BigLittle.Cfs

open Sched

variable {T G C : Type*}

section Frame

variable [DecidableEq T] [DecidableEq G] [DecidableEq C] (cfg : Config G C) (s : State T G C)
variable (e : Entity T G C) (q : QueueId G C)

lemma enqueued_stamps (wakeup : Bool) : (s.enqueued cfg e wakeup).stamps = s.stamps := by
  refine (updateCfsShares_still cfg _ _).stamps.trans ((accountEntity_still cfg _ e _).stamps.trans ?_)
  exact (updateCfsRqBlockedLoad_quiet _ _ _).stamps.trans (addEntityLoad_quiet cfg s e wakeup).stamps

lemma dequeueEntity_stamps (sleep : Bool) : (s.dequeueEntity cfg e sleep).stamps = s.stamps := by
  have hload := (subEntityLoad_quiet cfg s e (s.cfsRqOf cfg e) (!sleep)).stamps
  refine (updateCfsShares_still cfg _ _).stamps.trans ((accountEntity_still cfg _ e _).stamps.trans ?_)
  change (s.dequeueEntityLoadAvg cfg e sleep).stamps = _
  dsimp only [State.dequeueEntityLoadAvg]
  split
  · exact ((modifyCfs_calm _ _ rfl).trans (modifyAvg_quiet _ e _).toCalm).stamps.trans hload
  · exact hload

lemma throttleCfsRq_stamps : (s.throttleCfsRq cfg q).stamps = s.stamps :=
  throttleCfsRq_keeps (P := fun t => t.stamps = s.stamps) (R := fun t => t.stamps = s.stamps)
    (fun _ _ _ ht => ht) (fun g _ t _ ht => (dequeueEntity_stamps cfg t (.group g q.cpu) true).trans ht)
    (fun _ _ _ ht => (modifyRq_still _ _ rfl rfl).stamps.trans ht) (fun _ ht => ht) rfl

lemma stamps_walks (times : C → Nat × Nat) : Walks cfg (fun _ => True) (fun _ => True)
    fun s : State T G C => s.stamps = times :=
  .of_still (fun h hs => h.stamps.trans hs) (fun _ _ _ _ => trivial)
    (fun s e wakeup _ _ hs => (enqueued_stamps cfg s e wakeup).trans hs)
    fun s q _ _ hs => (throttleCfsRq_stamps cfg s q).trans hs

/-- No operation of the class writes a migration time of a CPU. -/
lemma classStep_stamps (op : ClassOp T G C) : (s.classStep cfg op).stamps = s.stamps := by
  have h : Walks cfg _ _ fun t : State T G C => t.stamps = s.stamps := stamps_walks cfg _
  cases op with
  | enqueue t wakeup spent => exact h.enqueueTaskFair spent (h.enqueueLoop spent (fun _ _ => trivial) wakeup rfl)
  | dequeue t sleep =>
    refine h.dequeueTaskFair (h.dequeueLoop ?_ sleep rfl)
    exact fun e _ s sleep hs => (dequeueEntity_stamps cfg s e sleep).trans hs
  | tick t => exact h.taskTickFair t rfl
  | pickNext t => exact h.pickNextTaskFair t rfl
  | putPrev t spent => exact h.putPrevTaskFair spent (fun _ _ _ _ => trivial) rfl
  | migrate t cpu nohz =>
    dsimp only [State.classStep, State.migrateTask]
    split
    · rfl
    · exact (migrateTaskRqFair_calm s t nohz).stamps
  | clock cpu clockTask => exact (modifyRq_calm s cpu (f := fun r => { r with clockTask := clockTask }) rfl).stamps
  | idle cpu entering => exact h.updateRqRunnableAvg s cpu entering rfl
  | throttle q => exact throttleCfsRq_stamps cfg s q
  | unthrottle q spent => exact h.unthrottleCfsRq q spent (fun _ _ => trivial) rfl

end Frame

end BigLittle.Cfs
