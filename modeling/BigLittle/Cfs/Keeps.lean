import BigLittle.Lib.Run
import BigLittle.Cfs.Bare
import BigLittle.Cfs.Task

/-!
# Invariants of queueing

Every operation is made of a few pieces: an entity joins its queue, an entity
leaves it, a weight changes, load tracking runs, and counters and flags change
that neither the weights nor the averages depend on. `Walks` asks of a property
that it survives the pieces of which the walks up the tree are made, where throttling
is one of them; it then survives the walks. `Keeps` takes throttling apart as well.
-/

namespace BigLittle.Cfs

open Sched List Word State

variable {T G C : Type*}

/-- A queue without its task count, its running entity and what throttling writes. -/
def CfsRq.accounts (c : CfsRq T G C) : CfsRq T G C :=
  { c with
    hNrRunning := 0, curr := none, throttled := false, throttleCount := 0,
    throttledClockTask := 0, throttledClockTaskTime := 0 }

section Accounts

variable {c c' : CfsRq T G C} (h : c'.accounts = c.accounts)
include h

lemma CfsRq.runnableLoadAvg_of_accounts : c'.runnableLoadAvg = c.runnableLoadAvg :=
  (congrArg CfsRq.runnableLoadAvg h :)

lemma CfsRq.avg_of_accounts : c'.avg = c.avg := (congrArg CfsRq.avg h :)

lemma CfsRq.loadWeight_of_accounts : c'.loadWeight = c.loadWeight :=
  (congrArg CfsRq.loadWeight h :)

lemma CfsRq.nrRunning_of_accounts : c'.nrRunning = c.nrRunning := (congrArg CfsRq.nrRunning h :)

end Accounts

variable [DecidableEq T] [DecidableEq G] [DecidableEq C] (q : QueueId G C) (cpu : C) (e : Entity T G C) (delta : Nat)
variable (taskDelta : Nat) (spent : QueueId G C → Bool)

/-- `enqueue_entity` up to the point where the entity counts as queued. -/
def State.enqueued (cfg : Config G C) (s : State T G C) (e : Entity T G C) (wakeup : Bool) : State T G C :=
  (((s.enqueueEntityLoadAvg cfg e wakeup).accountEntityEnqueue cfg e).updateCfsShares cfg
    (s.cfsRqOf cfg e)).modifySe e fun se => { se with onRq := true }

lemma enqueueEntity_eq (cfg : Config G C) (s : State T G C)
    (e : Entity T G C) (wakeup : Bool) (spent : QueueId G C → Bool) :
    s.enqueueEntity cfg e wakeup spent = if ((s.enqueued cfg e wakeup).cfs (s.cfsRqOf cfg e)).nrRunning = 1 then
        (s.enqueued cfg e wakeup).checkEnqueueThrottle cfg (s.cfsRqOf cfg e) spent
      else s.enqueued cfg e wakeup := rfl

/-- A property survives new shares and load tracking. -/
structure Tracks (cfg : Config G C) (P : State T G C → Prop) : Prop where
  updateCfsShares : ∀ s q, P s → P (s.updateCfsShares cfg q)
  updateEntityLoadAvg : ∀ s e, P s → P (s.updateEntityLoadAvg cfg e true)
  updateCfsRqBlockedLoad : ∀ s q force, P s → P (s.updateCfsRqBlockedLoad q force)
  updateRqRunnableAvg : ∀ s cpu runnable, P s → P (s.updateRqRunnableAvg cfg cpu runnable)

lemma Tracks.of_quiet {cfg : Config G C} {P : State T G C → Prop} (hquiet : ∀ {s t}, Quiet s t → P s → P t)
    (hshares : ∀ s q, P s → P (s.updateCfsShares cfg q)) : Tracks cfg P where
  updateCfsShares := hshares
  updateEntityLoadAvg _ _ := hquiet (updateEntityLoadAvg_quiet ..)
  updateCfsRqBlockedLoad _ _ _ := hquiet (updateCfsRqBlockedLoad_quiet ..)
  updateRqRunnableAvg _ _ _ := hquiet (updateRqRunnableAvg_quiet ..)

/-- What a property has to survive when the walks queue entities in `E` only, whose queues
are in `Q`. -/
structure Walks (cfg : Config G C) (E : Entity T G C → Prop) (Q : QueueId G C → Prop)
    (P : State T G C → Prop) : Prop extends Tracks cfg P where
  queue : ∀ s e, E e → P s → Q (s.cfsRqOf cfg e)
  enqueued : ∀ s e wakeup, E e → (s.se e).onRq = false → P s → P (s.enqueued cfg e wakeup)
  throttleCfsRq : ∀ s q, Q q → (s.cfs q).throttled = false → P s → P (s.throttleCfsRq cfg q)
  addHNrRunning : ∀ s q delta, P s → P (s.addHNrRunning q delta)
  subHNrRunning : ∀ s q delta, P s → P (s.subHNrRunning q delta)
  setCurr : ∀ s q curr, P s → P (s.modifyCfs q fun c => { c with curr := curr })
  addNrRunning : ∀ s cpu delta, P s →
    P (s.modifyRq cpu fun r => { r with nrRunning := add 32 r.nrRunning delta })
  subNrRunning : ∀ s cpu delta, P s →
    P (s.modifyRq cpu fun r => { r with nrRunning := sub 32 r.nrRunning delta })

namespace Walks

variable {cfg : Config G C} {E : Entity T G C → Prop} {Q : QueueId G C → Prop}
variable {P : State T G C → Prop} {s : State T G C}

/-- A property of who is queued, what is throttled and the clocks. -/
lemma of_still (hstill : ∀ {s t}, Still s t → P s → P t) (hqueue : ∀ s e, E e → P s → Q (s.cfsRqOf cfg e))
    (henqueued : ∀ s e wakeup, E e → (s.se e).onRq = false → P s → P (s.enqueued cfg e wakeup))
    (hthrottle : ∀ s q, Q q → (s.cfs q).throttled = false → P s → P (s.throttleCfsRq cfg q)) : Walks cfg E Q P where
  toTracks := .of_quiet (fun h => hstill h.still) fun _ _ => hstill (updateCfsShares_still ..)
  queue := hqueue
  enqueued := henqueued
  throttleCfsRq := hthrottle
  addHNrRunning _ _ _ := hstill (modifyCfs_still _ _ rfl rfl)
  subHNrRunning _ _ _ := hstill (modifyCfs_still _ _ rfl rfl)
  setCurr _ _ _ := hstill (modifyCfs_still _ _ rfl rfl)
  addNrRunning _ _ _ := hstill (modifyRq_still _ _ rfl rfl)
  subNrRunning _ _ _ := hstill (modifyRq_still _ _ rfl rfl)

variable (h : Walks cfg E Q P)
include h

lemma checkCfsRqRuntime (hq : Q q) (hs : P s) : P (s.checkCfsRqRuntime cfg q spent) := by
  dsimp only [State.checkCfsRqRuntime]
  split
  next hguard => exact h.throttleCfsRq s q hq hguard.2.2.2 hs
  · exact hs

lemma enqueueEntity (he : E e) (wakeup : Bool) (hoff : (s.se e).onRq = false) (hs : P s) :
    P (s.enqueueEntity cfg e wakeup spent) := by
  have henqueued := h.enqueued s e wakeup he hoff hs
  rw [enqueueEntity_eq]
  split
  · dsimp only [checkEnqueueThrottle]
    split
    next hguard => exact h.throttleCfsRq _ _ (h.queue s e he hs) hguard.2.2.2.1 henqueued
    · exact henqueued
  · exact henqueued

lemma unthrottleEntity (enqueue : Bool) (he : enqueue = true → E e)
    (hoff : enqueue = true → (s.se e).onRq = false) (hs : P s) :
    P (s.unthrottleEntity cfg e taskDelta enqueue spent) := by
  rw [State.unthrottleEntity]
  refine h.addHNrRunning _ _ _ ?_
  cases enqueue with
  | false => exact hs
  | true => exact h.enqueueEntity e spent (he rfl) true (hoff rfl) hs

lemma unthrottleLoop {groups : List G} (enqueue : Bool) (hgroups : ∀ g ∈ groups, enqueue = true → E (.group g cpu))
    (hs : P s) : P (unthrottleLoop cfg cpu taskDelta spent groups s enqueue).1 := by
  induction groups generalizing s enqueue with
  | nil => exact hs
  | cons g rest ih =>
    have hoff : (enqueue && !(s.se (.group g cpu)).onRq) = true →
        enqueue = true ∧ (s.se (.group g cpu)).onRq = false := by
      simp
    have hstep := h.unthrottleEntity _ taskDelta spent _
      (fun hflag => hgroups g mem_cons_self (hoff hflag).1) (fun hflag => (hoff hflag).2) hs
    rw [unthrottleLoop]
    split
    · exact hstep
    · exact ih _ (fun g hg hflag => hgroups g (mem_cons_of_mem _ hg) (hoff hflag).1) hstep

/-- `unthrottle_cfs_rq` from its loop on. -/
lemma unthrottleCfsRq (hgroups : ∀ g ∈ cfg.path q.tg, E (.group g q.cpu))
    (hwalk : P ((s.modifyCfs q fun c => { c with throttled := false }).walkTgTreeFrom cfg q
      State.tgUnthrottleUp)) : P (s.unthrottleCfsRq cfg q spent) := by
  dsimp only [State.unthrottleCfsRq]
  split
  · exact hwalk
  · split
    · exact h.addNrRunning _ _ _ (h.unthrottleLoop _ _ spent true (fun g hg _ => hgroups g hg) hwalk)
    · exact h.unthrottleLoop _ _ spent true (fun g hg _ => hgroups g hg) hwalk

lemma setNextEntity (hs : P s) : P (s.setNextEntity cfg e) := by
  dsimp only [State.setNextEntity]
  refine h.setCurr _ _ _ ?_
  split
  · exact h.updateEntityLoadAvg s e hs
  · exact hs

lemma putPrevEntity (hq : Q (s.cfsRqOf cfg e)) (hs : P s) : P (s.putPrevEntity cfg e spent) := by
  have hchecked := h.checkCfsRqRuntime _ spent hq hs
  dsimp only [State.putPrevEntity]
  refine h.setCurr _ _ _ ?_
  split
  · exact h.updateEntityLoadAvg _ e hchecked
  · exact hchecked

lemma entityTick (hs : P s) : P (s.entityTick cfg e) :=
  h.updateCfsShares _ _ (h.updateCfsRqBlockedLoad _ _ true (h.updateEntityLoadAvg s e hs))

lemma enqueueLoop {entities : List (Entity T G C)} (hentities : ∀ e ∈ entities, E e) (wakeup : Bool)
    (hs : P s) : P (enqueueLoop cfg spent entities s wakeup).1 := by
  induction entities generalizing s wakeup with
  | nil => exact hs
  | cons e rest ih =>
    dsimp only [enqueueLoop]
    split
    · exact hs
    next hon =>
      have hentity := h.enqueueEntity e spent (hentities e mem_cons_self) wakeup (Bool.eq_false_iff.mpr hon) hs
      split
      · exact hentity
      · exact ih (fun e he => hentities e (mem_cons_of_mem _ he)) true (h.addHNrRunning _ _ 1 hentity)

lemma dequeueLoop {entities : List (Entity T G C)}
    (hdequeue : ∀ e ∈ entities, ∀ s sleep, P s → P (s.dequeueEntity cfg e sleep)) (sleep : Bool)
    (hs : P s) : P (dequeueLoop cfg entities s sleep).1 := by
  induction entities generalizing s sleep with
  | nil => exact hs
  | cons e rest ih =>
    have hentity := hdequeue e mem_cons_self s sleep hs
    dsimp only [dequeueLoop]
    split
    · exact hentity
    · have hcounted := h.subHNrRunning _ (s.cfsRqOf cfg e) 1 hentity
      split
      · exact hcounted
      · exact ih (fun e he => hdequeue e (mem_cons_of_mem _ he)) true hcounted

lemma refreshLoop {count : State T G C → QueueId G C → State T G C} (hcount : ∀ s q, P s → P (count s q))
    (entities : List (Entity T G C)) (hs : P s) : P (refreshLoop cfg count entities s).1 := by
  induction entities generalizing s with
  | nil => exact hs
  | cons e rest ih =>
    have hcounted := hcount s (s.cfsRqOf cfg e) hs
    dsimp only [refreshLoop]
    split
    · exact hcounted
    · exact ih (h.updateEntityLoadAvg _ e (h.updateCfsShares _ _ hcounted))

/-- `enqueue_task_fair` and `dequeue_task_fair` from their second loop on. -/
lemma enqueueTaskFair {t : T} {wakeup : Bool} (hloop : P (State.enqueueLoop cfg spent (s.entities cfg t) s wakeup).1) :
    P (s.enqueueTaskFair cfg t wakeup spent) := by
  have hloops := h.refreshLoop (fun _ q => h.addHNrRunning _ q 1) (State.enqueueLoop cfg spent
    (s.entities cfg t) s wakeup).2 hloop
  dsimp only [State.enqueueTaskFair]
  split
  · exact h.addNrRunning _ _ 1 (h.updateRqRunnableAvg _ _ _ hloops)
  · exact hloops

lemma dequeueTaskFair {t : T} {sleep : Bool} (hloop : P (State.dequeueLoop cfg (s.entities cfg t) s sleep).1) :
    P (s.dequeueTaskFair cfg t sleep) := by
  have hloops := h.refreshLoop (fun _ q => h.subHNrRunning _ q 1) (State.dequeueLoop cfg
    (s.entities cfg t) s sleep).2 hloop
  dsimp only [State.dequeueTaskFair]
  split
  · exact h.updateRqRunnableAvg _ _ _ (h.subNrRunning _ _ 1 hloops)
  · exact hloops

lemma taskTickFair (t : T) (hs : P s) : P (s.taskTickFair cfg t) :=
  h.updateRqRunnableAvg _ _ _ (Run.foldl_of_step (fun _ e => h.entityTick e) hs)

lemma pickNextTaskFair (t : T) (hs : P s) : P (s.pickNextTaskFair cfg t) :=
  Run.foldl_of_step (fun _ e => h.setNextEntity e) hs

lemma putPrevTaskFair {t : T} (hqueue : ∀ e ∈ s.entities cfg t, ∀ s, P s → Q (s.cfsRqOf cfg e))
    (hs : P s) : P (s.putPrevTaskFair cfg t spent) := by
  rw [State.putPrevTaskFair]
  generalize s.entities cfg t = entities at hqueue
  induction entities generalizing s with
  | nil => exact hs
  | cons e rest ih =>
    have hentity := h.putPrevEntity e spent (hqueue e mem_cons_self s hs) hs
    exact ih hentity fun e he => hqueue e (mem_cons_of_mem _ he)

end Walks

section Throttle

variable {cfg : Config G C} {P R : State T G C → Prop} {s : State T G C} {cpu : C}
variable (hcount : ∀ (s : State T G C) q delta, P s → P (s.subHNrRunning q delta))
include hcount

lemma throttleLoop_keeps {groups : List G} (hdequeue : ∀ g ∈ groups, ∀ s : State T G C,
      (s.se (.group g cpu)).onRq = true → P s → P (s.dequeueEntity cfg (.group g cpu) true))
    (dequeue : Bool) (hs : P s) : P (throttleLoop cfg cpu taskDelta groups s dequeue).1 := by
  induction groups generalizing s dequeue with
  | nil => exact hs
  | cons g rest ih =>
    rw [throttleLoop]
    split
    next hon =>
      refine ih (fun g hg => hdequeue g (mem_cons_of_mem _ hg)) _ (hcount _ _ _ ?_)
      split
      · exact hdequeue g mem_cons_self s hon hs
      · exact hs
    · exact hs

/-- What holds after the walk of `throttle_cfs_rq` survives its loop, up to the flag. -/
lemma throttleCfsRq_keeps {q : QueueId G C} (hdequeue : ∀ g ∈ cfg.path q.tg, ∀ s : State T G C,
      (s.se (.group g q.cpu)).onRq = true → P s → P (s.dequeueEntity cfg (.group g q.cpu) true))
    (hnr : ∀ (s : State T G C) cpu delta, P s →
      P (s.modifyRq cpu fun r => { r with nrRunning := sub 32 r.nrRunning delta }))
    (hflag : ∀ s, P s → R (s.modifyCfs q fun c => { c with throttled := true }))
    (hwalk : P (s.walkTgTreeFrom cfg q tgThrottleDown)) : R (s.throttleCfsRq cfg q) := by
  have hloop := fun taskDelta => throttleLoop_keeps taskDelta hcount hdequeue true hwalk
  dsimp only [throttleCfsRq]
  apply hflag
  split
  · exact hnr _ _ _ (hloop _)
  · exact hloop _

end Throttle

/-- A change of a queue that only touches what `accounts` leaves out, and keeps the
task count a word. -/
structure CfsRq.Minor (f : CfsRq T G C → CfsRq T G C) : Prop where
  accounts : ∀ c, (f c).accounts = c.accounts
  hNrRunning : ∀ c, c.hNrRunning < 2 ^ 32 → (f c).hNrRunning < 2 ^ 32

/-- The same for a CPU: its clock and its task count may change. -/
structure Rq.Minor (f : Rq → Rq) : Prop where
  avg : ∀ r, (f r).avg = r.avg
  loadWeight : ∀ r, (f r).loadWeight = r.loadWeight
  nrRunning : ∀ r, r.nrRunning < 2 ^ 32 → (f r).nrRunning < 2 ^ 32

/-- What a property has to survive. -/
structure Keeps (cfg : Config G C) (P : State T G C → Prop) : Prop extends Tracks cfg P where
  enqueued : ∀ s e wakeup, (s.se e).onRq = false → P s → P (s.enqueued cfg e wakeup)
  dequeueEntity : ∀ s e sleep, (s.se e).onRq = true → P s → P (s.dequeueEntity cfg e sleep)
  migrateTask : ∀ s t cpu nohz, (s.se (.task t)).onRq = false → P s → P (s.migrateTask t cpu nohz)
  modifyCfs : ∀ s q f, CfsRq.Minor f → P s → P (s.modifyCfs q f)
  walkTgTreeFrom : ∀ s q visit, (∀ clock, CfsRq.Minor (visit · clock)) → P s →
    P (s.walkTgTreeFrom cfg q visit)
  modifyRq : ∀ s cpu f, Rq.Minor f → P s → P (s.modifyRq cpu f)

namespace Keeps

variable {cfg : Config G C} {P : State T G C → Prop} {s : State T G C} (h : Keeps cfg P)
include h

lemma setThrottled (throttled : Bool) (hs : P s) : P (s.modifyCfs q fun c => { c with throttled := throttled }) :=
  h.modifyCfs s q _ ⟨fun _ => rfl, fun _ => id⟩ hs

lemma countHNrRunning {f : Nat → Nat} (hf : ∀ n, f n < 2 ^ 32) (hs : P s) :
    P (s.modifyCfs q fun c => { c with hNrRunning := f c.hNrRunning }) :=
  h.modifyCfs s q _ ⟨fun _ => rfl, fun _ _ => hf _⟩ hs

lemma countNrRunning {f : Nat → Nat} (hf : ∀ n, f n < 2 ^ 32) (hs : P s) :
    P (s.modifyRq cpu fun r => { r with nrRunning := f r.nrRunning }) :=
  h.modifyRq s cpu _ ⟨fun _ => rfl, fun _ => rfl, fun _ _ => hf _⟩ hs

lemma throttleCfsRq (hs : P s) : P (s.throttleCfsRq cfg q) :=
  throttleCfsRq_keeps (fun _ q _ => h.countHNrRunning q fun _ => wrap_lt 32 _)
    (fun g _ s hon => h.dequeueEntity s (.group g q.cpu) true hon)
    (fun _ cpu _ => h.countNrRunning cpu fun _ => wrap_lt 32 _) (fun _ => h.setThrottled q true)
    (h.walkTgTreeFrom s q tgThrottleDown (fun _ => ⟨fun _ => rfl, fun _ => id⟩) hs)

lemma walks : Walks cfg (fun _ => True) (fun _ => True) P where
  queue _ _ _ _ := trivial
  enqueued s e wakeup _ := h.enqueued s e wakeup
  throttleCfsRq _ q _ _ := h.throttleCfsRq q
  toTracks := h.toTracks
  addHNrRunning _ q _ := h.countHNrRunning q fun _ => wrap_lt 32 _
  subHNrRunning _ q _ := h.countHNrRunning q fun _ => wrap_lt 32 _
  setCurr s q _ := h.modifyCfs s q _ ⟨fun _ => rfl, fun _ => id⟩
  addNrRunning _ cpu _ := h.countNrRunning cpu fun _ => wrap_lt 32 _
  subNrRunning _ cpu _ := h.countNrRunning cpu fun _ => wrap_lt 32 _

lemma unthrottleCfsRq (hs : P s) : P (s.unthrottleCfsRq cfg q spent) :=
  h.walks.unthrottleCfsRq q spent (fun _ _ => trivial) (h.walkTgTreeFrom _ q tgUnthrottleUp
    (fun _ => ⟨fun _ => rfl, fun _ => id⟩) (h.setThrottled q false hs))

lemma updateRqClock (clockTask : Nat) (hs : P s) :
    P (s.updateRqClock cpu clockTask) := h.modifyRq s cpu _ ⟨fun _ => rfl, fun _ => rfl, fun _ => id⟩ hs

lemma step (op : Op T G C) (hs : P s) (hop : op.Allowed s) : P (s.step cfg op) := by
  cases op with
  | enqueueEntity e wakeup spent => exact h.walks.enqueueEntity e spent trivial wakeup hop hs
  | dequeueEntity e sleep => exact h.dequeueEntity s e sleep hop hs
  | setNextEntity e => exact h.walks.setNextEntity e hs
  | putPrevEntity e spent => exact h.walks.putPrevEntity e spent trivial hs
  | entityTick e => exact h.walks.entityTick e hs
  | throttleCfsRq q => exact h.throttleCfsRq q hs
  | unthrottleCfsRq q spent => exact h.unthrottleCfsRq q spent hs
  | updateEntityLoadAvg e => exact h.updateEntityLoadAvg s e hs
  | updateCfsShares q => exact h.updateCfsShares s q hs
  | updateRqRunnableAvg cpu runnable => exact h.updateRqRunnableAvg s cpu runnable hs
  | updateRqClock cpu clockTask => exact h.updateRqClock cpu clockTask hs
  | migrateTask t cpu nohz => exact h.migrateTask s t cpu nohz hop hs

end Keeps

lemma Keeps.and {cfg : Config G C} {P Q : State T G C → Prop} (hP : Keeps cfg P)
    (hQ : Keeps cfg Q) : Keeps cfg fun s => P s ∧ Q s where
  enqueued s e wakeup hoff hs := ⟨hP.enqueued s e wakeup hoff hs.1, hQ.enqueued s e wakeup hoff hs.2⟩
  dequeueEntity s e sleep hon hs :=
    ⟨hP.dequeueEntity s e sleep hon hs.1, hQ.dequeueEntity s e sleep hon hs.2⟩
  updateCfsShares s q hs := ⟨hP.updateCfsShares s q hs.1, hQ.updateCfsShares s q hs.2⟩
  updateEntityLoadAvg s e hs := ⟨hP.updateEntityLoadAvg s e hs.1, hQ.updateEntityLoadAvg s e hs.2⟩
  updateCfsRqBlockedLoad s q force hs :=
    ⟨hP.updateCfsRqBlockedLoad s q force hs.1, hQ.updateCfsRqBlockedLoad s q force hs.2⟩
  updateRqRunnableAvg s cpu runnable hs :=
    ⟨hP.updateRqRunnableAvg s cpu runnable hs.1, hQ.updateRqRunnableAvg s cpu runnable hs.2⟩
  migrateTask s t cpu nohz hoff hs :=
    ⟨hP.migrateTask s t cpu nohz hoff hs.1, hQ.migrateTask s t cpu nohz hoff hs.2⟩
  modifyCfs s q f hf hs := ⟨hP.modifyCfs s q f hf hs.1, hQ.modifyCfs s q f hf hs.2⟩
  walkTgTreeFrom s q visit hvisit hs :=
    ⟨hP.walkTgTreeFrom s q visit hvisit hs.1, hQ.walkTgTreeFrom s q visit hvisit hs.2⟩
  modifyRq s cpu f hf hs := ⟨hP.modifyRq s cpu f hf hs.1, hQ.modifyRq s cpu f hf hs.2⟩

end BigLittle.Cfs
