import Mathlib.Data.Fin.VecNotation
import BigLittle.Hmp.TaskRef

/-!
# The active-balance protocol

`load_balance` and the forced migrations share `active_balance`, `push_cpu`,
`migrate_task` and `active_balance_work` of a run queue. A requester tests and sets the
flag under the run-queue lock, drops the lock, and hands the work buffer to the stopper,
whose callback clears the flag. If the stopper is disabled, the requester clears the
flag itself, under the lock.

A request is one round of a requester on one run queue, followed by the callback of its
work; the steps of any number of requests interleave. A release of the run-queue lock
frees it whoever holds it: the delayed up-migration of the enhanced build releases it
twice.
-/

namespace BigLittle.Hmp

open Function (update update_of_ne update_self)

/-- Who makes the request, and what its checks find. -/
inductive Origin (T : Type*) (n : Nat) where
  /-- `load_balance` on `thisCpu`; `allowed` if `busiest->curr` may run there -/
  | balance (busiest thisCpu : Fin n) (allowed : Bool)
  /-- a round of the enhanced build -/
  | visit (r : Requester) (p : Probe T n)
  /-- a round of `hmp_force_up_migration` in the plain build -/
  | force (thisCpu : Fin n) (p : PlainProbe T n)
  /-- the second half of `hmp_idle_pull` in the plain build -/
  | pull (thisCpu : Fin n) (p : PullProbe T n)

/-- What a requester does with the run queue once it has read the flag. -/
inductive Verdict (T : Type*) (n : Nat) where
  | leave
  /-- wake the big CPU, and release the lock `twice` or once -/
  | wake (twice : Bool)
  /-- write `push_cpu`, none for `NR_CPUS`, and `migrate_task` if there is a task -/
  | note (pushCpu : Option (Fin n)) (task : Option T)
  /-- set the flag, too -/
  | launch (pushCpu : Fin n) (task : Option T)
deriving DecidableEq

inductive Stage (T : Type*) (n : Nat) where
  | start
  | locked
  | decided (v : Verdict T n)
  | leaving (again : Bool)
  /-- the lock is released, and will be once more -/
  | woken
  /-- in `hmp_migrate_runnable_task` -/
  | moving
  | movingUnlocked
  | written
  | launched
  | prepared
  | rejected
  | relocked
  | queued
  /-- the callback has been taken from the stopper's list -/
  | fetched
  | running
  | runningUnlocked
  | done
deriving DecidableEq

inductive Act where
  | lock
  | test
  | write
  /-- the lock is dropped inside `double_lock_balance` -/
  | pause
  | unlock
  /-- `*work_buf = ..` -/
  | init
  /-- `list_add_tail` if the stopper is enabled -/
  | link
  | clear
  /-- `list_del_init` by the stopper -/
  | fetch
deriving DecidableEq

inductive StopFn where
  | activeLoadBalance
  | hmpActiveTaskMigration
deriving DecidableEq

/-- The part of `struct rq` that the requesters share, and its CPU's stopper. -/
structure BalanceRq (ι T : Type*) (n : Nat) where
  /-- who took the lock -/
  holder : Option ι := none
  activeBalance : Bool := false
  pushCpu : Option (Fin n) := none
  migrateTask : Option T := none
  /-- the function in `active_balance_work` -/
  work : Option StopFn := none
  /-- how often the work buffer is on the stopper's list -/
  linked : Nat := 0
  stopperEnabled : Bool := true
  /-- the request that set the flag last -/
  setBy : Option ι := none

structure BalanceSystem (ι T : Type*) (n : Nat) where
  stage : ι → Stage T n
  rq : Fin n → BalanceRq ι T n

inductive BalanceOp (ι : Type*) (n : Nat) where
  | act (i : ι) (a : Act)
  /-- `cpu_stop_park` and `cpu_stop_unpark` -/
  | hotplug (cpu : Fin n) (enabled : Bool)

structure BalanceConfig where
  delayUp : Bool
  packStop : Bool

variable {ι T : Type*} {n : Nat}

def PlainProbe.verdict (delayUp activeBalance : Bool) (thisCpu : Fin n) (p : PlainProbe T n) : Verdict T n :=
  if !p.curr || activeBalance then .leave
  else match p.heaviest with
    | none => .leave
    | some heavy => match p.up with
      | some _ =>
        if delayUp then .wake false
        else if p.running heavy then .launch thisCpu (some heavy)
        else .note (some thisCpu) (some heavy)
      | none => match p.offload with
        | some cpu =>
          if p.running p.lightest then .launch cpu (some p.lightest)
          else .note (some cpu) (some p.lightest)
        | none => .note none none

namespace Origin

def cpu : Origin T n → Fin n
  | .balance busiest _ _ => busiest
  | .visit _ p => p.cpu
  | .force _ p => p.cpu
  | .pull _ p => p.cpu

/-- Whether the round is skipped before it takes the lock. -/
def skipped : Origin T n → Bool
  | .visit _ p => !p.online
  | _ => false

def stopFn : Origin T n → StopFn
  | .balance _ _ _ => .activeLoadBalance
  | _ => .hmpActiveTaskMigration

def verdict (delayUp activeBalance : Bool) : Origin T n → Verdict T n
  | .balance _ thisCpu allowed =>
    if !allowed || activeBalance then .leave else .launch thisCpu none
  | .visit r p =>
    match { p with activeBalance := activeBalance }.decision delayUp r with
    | .offline | .nothing | .avoid _ => .leave
    | .delay _ => .wake true
    | .launch task target => .launch target (some task)
  | .force thisCpu p => p.verdict delayUp activeBalance thisCpu
  | .pull thisCpu p =>
    if !activeBalance && p.onQueue then
      if p.running then .launch thisCpu (some p.task) else .note (some thisCpu) (some p.task)
    else .leave

/-- A round of `hmp_force_up_migration` of the enhanced build that passes every check. -/
def WakesUp (activeBalance : Bool) : Origin T n → Prop
  | .visit .forceUp p => { p with activeBalance := activeBalance }.Ripe
  | _ => False

instance (activeBalance : Bool) (o : Origin T n) : Decidable (o.WakesUp activeBalance) := by
  unfold Origin.WakesUp Probe.Ripe
  split <;> infer_instance

end Origin

namespace BalanceRq

variable (q : BalanceRq ι T n) (i : ι)

def acquire [DecidableEq ι] (next : Stage T n) : Option (Stage T n × BalanceRq ι T n) :=
  if q.holder = none then some (next, { q with holder := some i }) else none

def release : BalanceRq ι T n := { q with holder := none }

def setTarget (pushCpu : Option (Fin n)) (task : Option T) : BalanceRq ι T n :=
  { q with pushCpu := pushCpu, migrateTask := task.orElse fun _ => q.migrateTask }

/-- Carry out a verdict, still under the lock. -/
def carryOut : Verdict T n → Stage T n × BalanceRq ι T n
  | .leave => (.leaving false, q)
  | .wake twice => (.leaving twice, q)
  | .note pushCpu task => (.moving, q.setTarget pushCpu task)
  | .launch pushCpu task =>
    (.written, { q.setTarget (some pushCpu) task with activeBalance := true, setBy := some i })

variable [DecidableEq ι]

/-- One step of request `i`, if it is at that step. -/
def advance (cfg : BalanceConfig) (o : Origin T n) : Stage T n → Act → Option (Stage T n × BalanceRq ι T n)
  | .start, .lock => if o.skipped then none else q.acquire i .locked
  | .locked, .test => some (.decided (o.verdict cfg.delayUp q.activeBalance), q)
  | .decided v, .write => some (q.carryOut i v)
  | .leaving again, .unlock => some (if again then .woken else .done, q.release)
  | .woken, .unlock => some (.done, q.release)
  | .moving, .pause => some (.movingUnlocked, q.release)
  | .movingUnlocked, .lock => q.acquire i .moving
  | .moving, .unlock => some (.done, q.release)
  | .written, .unlock => some (.launched, q.release)
  | .launched, .init => some (.prepared, { q with work := some o.stopFn })
  | .prepared, .link =>
    if q.stopperEnabled then some (.queued, { q with linked := q.linked + 1 })
    -- `stop_one_cpu_nowait` does not tell that the work is not queued
    else some (if cfg.packStop then .rejected else .done, q)
  | .rejected, .lock => q.acquire i .relocked
  | .relocked, .clear => some (.leaving false, { q with activeBalance := false })
  | .queued, .fetch => some (.fetched, { q with linked := q.linked - 1 })
  | .fetched, .lock => q.acquire i .running
  | .running, .pause => some (.runningUnlocked, q.release)
  | .runningUnlocked, .lock => q.acquire i .running
  | .running, .clear => some (.leaving false, { q with activeBalance := false })
  | _, _ => none

end BalanceRq

namespace Stage

/-- The request is between taking and releasing the run-queue lock. -/
def holds : Stage T n → Bool
  | .locked | .decided _ | .leaving _ | .moving | .written | .relocked | .running => true
  | _ => false

/-- The request has set the flag and its work is not over. -/
def outstanding : Stage T n → Bool
  | .written | .launched | .prepared | .rejected | .relocked | .queued | .fetched | .running
  | .runningUnlocked => true
  | _ => false

/-- The step writes `push_cpu`, `migrate_task` or the work buffer. -/
def writes : Stage T n → Act → Bool
  | .decided (.note _ _), .write | .decided (.launch _ _), .write | .launched, .init => true
  | _, _ => false

end Stage

namespace BalanceSystem

variable [DecidableEq ι] (cfg : BalanceConfig) (origin : ι → Origin T n) (s : BalanceSystem ι T n)

/-- Request `i` and the run queue of `cpu` have moved on. -/
def move (i : ι) (cpu : Fin n) (next : Stage T n × BalanceRq ι T n) : BalanceSystem ι T n where
  stage := update s.stage i next.1
  rq := update s.rq cpu next.2

def step (s : BalanceSystem ι T n) : BalanceOp ι n → BalanceSystem ι T n
  | .act i a =>
    match (s.rq (origin i).cpu).advance i cfg (origin i) (s.stage i) a with
    | some next => s.move i (origin i).cpu next
    | none => s
  | .hotplug cpu enabled =>
    { s with rq := update s.rq cpu { s.rq cpu with stopperEnabled := enabled } }

def init (stopperEnabled : Fin n → Bool) : BalanceSystem ι T n where
  stage := fun _ => .start
  rq := fun cpu => { stopperEnabled := stopperEnabled cpu }

/-- Each run queue has at most one outstanding request, and its work buffer is queued
at most once. -/
def OneOutstanding : Prop :=
  (∀ i j, (origin i).cpu = (origin j).cpu → (s.stage i).outstanding = true →
    (s.stage j).outstanding = true → i = j) ∧ ∀ cpu, (s.rq cpu).linked ≤ 1

instance [Fintype ι] : Decidable (s.OneOutstanding origin) := inferInstanceAs (Decidable (_ ∧ _))

end BalanceSystem

namespace BalanceOp

variable [DecidableEq ι] (cfg : BalanceConfig) (origin : ι → Origin T n) (s : BalanceSystem ι T n)

/-- What the flag protects: while it is set, only the request that set it writes to
the run queue; the work buffer is written only when it is not queued; and the flag is
cleared only by the callback, or after a failed dispatch, of the request that set it. -/
def Respects : BalanceOp ι n → Prop
  | .hotplug _ _ => True
  | .act i a =>
    let q := s.rq (origin i).cpu
    ∀ next ∈ q.advance i cfg (origin i) (s.stage i) a,
      ((s.stage i).writes a = true → q.activeBalance = true → q.setBy = some i) ∧
      (a = .init → q.linked = 0) ∧
      (q.activeBalance = true → next.2.activeBalance = false →
        q.setBy = some i ∧ (s.stage i = .running ∨ s.stage i = .relocked))

/-- A round of `hmp_force_up_migration` wakes the big CPU. -/
def Delays : BalanceOp ι n → Prop
  | .act i .test =>
    s.stage i = .locked ∧ cfg.delayUp = true ∧ (origin i).WakesUp (s.rq (origin i).cpu).activeBalance
  | _ => False

instance [DecidableEq T] (op : BalanceOp ι n) : Decidable (op.Delays cfg origin s) := by
  unfold BalanceOp.Delays
  split <;> infer_instance

instance [DecidableEq T] (op : BalanceOp ι n) : Decidable (op.Respects cfg origin s) :=
  match op with
  | .hotplug _ _ => isTrue trivial
  | .act _ _ => inferInstanceAs (Decidable (∀ _ ∈ _, _ ∧ _ ∧ _))

end BalanceOp

section Protocol

variable {cfg : BalanceConfig} {o : Origin T n} {q q' : BalanceRq ι T n} {i j : ι} {stage stage' : Stage T n} {a : Act}

/-- Whoever finds the flag set leaves the run queue alone. -/
lemma verdict_of_activeBalance (delayUp : Bool) (o : Origin T n) : o.verdict delayUp true = .leave := by
  cases o with
  | balance busiest thisCpu allowed | pull thisCpu p => simp [Origin.verdict]
  | visit r p =>
    have hdecision : ∀ d, { p with activeBalance := true }.decision delayUp r = d →
        d = .offline ∨ d = .nothing ∨ ∃ pushCpu, d = .avoid pushCpu := by
      rintro d rfl
      grind [Probe.decision]
    dsimp only [Origin.verdict]
    obtain h | h | ⟨pushCpu, h⟩ := hdecision _ rfl <;> rw [h]
  | force thisCpu p => simp [Origin.verdict, PlainProbe.verdict]

/-- How the stage of a request and its run queue agree. -/
structure Fits (i : ι) (stage : Stage T n) (q : BalanceRq ι T n) : Prop where
  holder : stage.holds = true → q.holder = some i
  owner : stage.outstanding = true → q.setBy = some i ∧ q.activeBalance = true
  decided : ∀ v, stage = .decided v → v ≠ .leave → q.activeBalance = false
  once : stage ≠ .decided (.wake true) ∧ stage ≠ .leaving true ∧ stage ≠ .woken

/-- Stages for which lock and flag are all that matters. -/
def Stage.plain : Stage T n → Bool
  | .decided _ | .leaving true | .woken => false
  | _ => true

lemma Fits.of_plain (hplain : stage.plain = true) (hholder : stage.holds = true → q.holder = some i)
    (howner : stage.outstanding = true → q.setBy = some i ∧ q.activeBalance = true) : Fits i stage q := by
  refine ⟨hholder, howner, ?_, ?_, ?_, ?_⟩
  · rintro v rfl
    cases hplain
  all_goals
    rintro rfl
    cases hplain

/-- What a step of request `i` can do to the lock and the flag. -/
inductive Touches (i : ι) (stage : Stage T n) (q q' : BalanceRq ι T n) : Prop where
  /-- take the lock when it is free, or give it back -/
  | lock (mine : q.holder = none ∨ q.holder = some i) (flag : q'.activeBalance = q.activeBalance)
      (setBy : q'.setBy = q.setBy)
  | keep (holder : q'.holder = q.holder) (flag : q'.activeBalance = q.activeBalance)
      (setBy : q'.setBy = q.setBy)
  /-- set the flag when it is clear, under the lock -/
  | set (holder : q'.holder = q.holder) (mine : q.holder = some i)
      (flag : q.activeBalance = false)
  /-- clear the flag that it has set, in the callback or after a failed dispatch -/
  | clear (holder : q'.holder = q.holder) (mine : q.setBy = some i)
      (flag : q'.activeBalance = false) (setBy : q'.setBy = q.setBy)
      (place : stage = .running ∨ stage = .relocked)

/-- None of this concerns another request. -/
lemma Fits.of_touches (h : Fits j stage q) (ht : Touches i stage' q q') (hne : j ≠ i) : Fits j stage q' := by
  have hother : ∀ {k : Option ι}, k = some j → k ≠ some i := by
    rintro k rfl heq
    exact hne (Option.some.inj heq)
  refine ⟨fun hholds => ?_, fun hout => ?_, fun v hv hleave => ?_, h.once⟩
  · have hholder := h.holder hholds
    cases ht with
    | lock mine flag setBy =>
      obtain hnone | hmine := mine
      · exact absurd (hnone.symm.trans hholder) nofun
      · exact absurd hmine (hother hholder)
    | keep holder | set holder | clear holder => exact holder.trans hholder
  · obtain ⟨hsetBy, hflag⟩ := h.owner hout
    cases ht with
    | lock mine flag setBy | keep holder flag setBy => exact ⟨setBy.trans hsetBy, flag.trans hflag⟩
    | set holder mine flag => exact absurd (hflag.symm.trans flag) nofun
    | clear holder mine => exact absurd mine (hother hsetBy)
  · have hflag := h.decided v hv hleave
    cases ht with
    | lock mine flag setBy | keep holder flag setBy => exact flag.trans hflag
    | set holder mine flag =>
      -- both would hold the lock
      have hholds : stage.holds = true := by rw [hv]; rfl
      exact absurd mine (hother (h.holder hholds))
    | clear holder mine flag => exact flag

lemma carryOut_touches (hholder : q.holder = some i) {v : Verdict T n}
    (hflag : v ≠ .leave → q.activeBalance = false) : Touches i stage q (q.carryOut i v).2 := by
  cases v with
  | leave | wake twice | note pushCpu task => exact .keep rfl rfl rfl
  | launch pushCpu task => exact .set rfl hholder (hflag nofun)

variable {next : Stage T n × BalanceRq ι T n}

/-- Where a request goes on that takes the lock. -/
def Stage.afterLock : Stage T n → Option (Stage T n)
  | .start => some .locked
  | .movingUnlocked => some .moving
  | .rejected => some .relocked
  | .fetched | .runningUnlocked => some .running
  | _ => none

/-- Where a request goes on that releases the lock. -/
def Stage.afterRelease : Stage T n → Act → Option (Stage T n)
  | .leaving again, .unlock => some (if again then .woken else .done)
  | .woken, .unlock | .moving, .unlock => some .done
  | .moving, .pause => some .movingUnlocked
  | .written, .unlock => some .launched
  | .running, .pause => some .runningUnlocked
  | _, _ => none

/-- The steps of a request by what they do to its run queue. -/
inductive Transition (cfg : BalanceConfig) (o : Origin T n) (i : ι) (q : BalanceRq ι T n) :
    Stage T n → Act → Stage T n × BalanceRq ι T n → Prop where
  | acquire {stage stage' : Stage T n} (free : q.holder = none)
      (goes : stage.afterLock = some stage') :
      Transition cfg o i q stage .lock (stage', { q with holder := some i })
  | test : Transition cfg o i q .locked .test (.decided (o.verdict cfg.delayUp q.activeBalance), q)
  | write (v : Verdict T n) : Transition cfg o i q (.decided v) .write (q.carryOut i v)
  | release {stage stage' : Stage T n} {a : Act} (goes : stage.afterRelease a = some stage') :
      Transition cfg o i q stage a (stage', q.release)
  | init : Transition cfg o i q .launched .init (.prepared, { q with work := some o.stopFn })
  | link : Transition cfg o i q .prepared .link (.queued, { q with linked := q.linked + 1 })
  | refuse {stage' : Stage T n} (goes : stage' = .rejected ∨ stage' = .done) :
      Transition cfg o i q .prepared .link (stage', q)
  | fetch : Transition cfg o i q .queued .fetch (.fetched, { q with linked := q.linked - 1 })
  | clear {stage : Stage T n} (place : stage = .running ∨ stage = .relocked) :
      Transition cfg o i q stage .clear (.leaving false, { q with activeBalance := false })

/-- The reading of the flag is kept with the verdict. -/
lemma Fits.decide (h : Fits i .locked q) (honce : o.verdict cfg.delayUp q.activeBalance ≠ .wake true) :
    Fits i (.decided (o.verdict cfg.delayUp q.activeBalance)) q := by
  refine ⟨fun _ => h.holder rfl, nofun, fun v hv hleave => ?_, ?_, nofun, nofun⟩
  · cases hflag : q.activeBalance with
    | false => rfl
    | true =>
      rw [hflag, verdict_of_activeBalance] at hv
      exact absurd (Stage.decided.inj hv).symm hleave
  · intro heq
    exact honce (Stage.decided.inj heq)

lemma Fits.carryOut {v : Verdict T n} (h : Fits i (.decided v) q) : Fits i (q.carryOut i v).1 (q.carryOut i v).2 := by
  have hholder := h.holder rfl
  cases v with
  | leave | note pushCpu task => exact .of_plain rfl (fun _ => hholder) nofun
  | wake twice =>
    cases twice with
    | true => exact absurd rfl h.once.1
    | false => exact .of_plain rfl (fun _ => hholder) nofun
  | launch pushCpu task => exact .of_plain rfl (fun _ => hholder) fun _ => ⟨rfl, rfl⟩

lemma Touches.cleared (h : Touches i stage q q') (hset : q.activeBalance = true)
    (hclear : q'.activeBalance = false) : q.setBy = some i ∧ (stage = .running ∨ stage = .relocked) := by
  cases h with
  | lock mine flag | keep holder flag =>
    exact absurd (hset.symm.trans (flag.symm.trans hclear)) nofun
  | set holder mine flag => exact absurd (hset.symm.trans flag) nofun
  | clear holder mine flag setBy place => exact ⟨mine, place⟩

/-- Whoever writes to the run queue finds the flag clear or has set it. -/
lemma Fits.writes (h : Fits i stage q) (hwrites : stage.writes a = true)
    (hset : q.activeBalance = true) : q.setBy = some i := by
  rw [Stage.writes.eq_def] at hwrites
  split at hwrites
  · exact absurd (hset.symm.trans (h.decided _ rfl nofun)) nofun
  · exact absurd (hset.symm.trans (h.decided _ rfl nofun)) nofun
  · exact (h.owner rfl).1
  · cases hwrites

variable [DecidableEq ι]

lemma acquire_eq_some (h : q.acquire i stage = some next) :
    q.holder = none ∧ next = (stage, { q with holder := some i }) := by
  rw [BalanceRq.acquire] at h
  split at h
  next hfree => exact ⟨hfree, (Option.some.inj h).symm⟩
  · cases h

lemma acquire_transition (h : q.acquire i stage' = some next)
    (goes : stage.afterLock = some stage') : Transition cfg o i q stage .lock next := by
  obtain ⟨hfree, rfl⟩ := acquire_eq_some h
  exact .acquire hfree goes

lemma advance_transition (hstep : q.advance i cfg o stage a = some next) : Transition cfg o i q stage a next := by
  rw [BalanceRq.advance.eq_def] at hstep
  split at hstep
  case h_1 =>
    split at hstep
    · cases hstep
    · exact acquire_transition hstep rfl
  case h_2 =>
    cases hstep
    exact .test
  case h_3 v =>
    cases hstep
    exact .write v
  case h_10 =>
    cases hstep
    exact .init
  case h_11 =>
    split at hstep
    · cases hstep
      exact .link
    · cases hstep
      refine .refuse ?_
      split
      · exact .inl rfl
      · exact .inr rfl
  case h_13 | h_18 =>
    cases hstep
    exact .clear (by simp)
  case h_14 =>
    cases hstep
    exact .fetch
  case h_7 | h_12 | h_15 | h_17 => exact acquire_transition hstep rfl
  case h_19 => cases hstep
  all_goals
    cases hstep
    exact .release rfl

lemma afterLock_spec (h : stage.afterLock = some stage') : stage'.plain = true ∧
    (stage'.outstanding = true → stage.outstanding = true) ∧ stage ≠ .queued := by
  cases stage <;> cases h <;> simp [Stage.plain, Stage.outstanding]

/-- A request that releases the lock holds it, unless it has been woken. -/
lemma afterRelease_spec (h : stage.afterRelease a = some stage') (hwoken : stage ≠ .woken)
    (hagain : stage ≠ .leaving true) : stage.holds = true ∧ stage'.plain = true ∧ stage'.holds = false ∧
    (stage'.outstanding = true → stage.outstanding = true) ∧ stage ≠ .queued := by
  rw [Stage.afterRelease.eq_def] at h
  split at h <;> cases h <;> simp_all [Stage.plain, Stage.outstanding, Stage.holds]

lemma Fits.touches (h : Fits i stage q) (hstep : q.advance i cfg o stage a = some next) : Touches i stage q next.2 := by
  cases advance_transition hstep with
  | acquire free goes => exact .lock (.inl free) rfl rfl
  | write v => exact carryOut_touches (h.holder rfl) (h.decided v rfl)
  | release goes =>
    have hholds := (afterRelease_spec goes h.once.2.2 h.once.2.1).1
    exact .lock (.inr (h.holder hholds)) rfl rfl
  | clear place =>
    have hout : stage.outstanding = true := by
      obtain rfl | rfl := place <;> rfl
    exact .clear rfl (h.owner hout).1 rfl rfl place
  | test | init | link | refuse goes | fetch => exact .keep rfl rfl rfl

/-- A step of a request keeps its own agreement with the run queue. -/
lemma Fits.advance (h : Fits i stage q) (hstep : q.advance i cfg o stage a = some next)
    (honce : stage = .locked → o.verdict cfg.delayUp q.activeBalance ≠ .wake true) : Fits i next.1 next.2 := by
  cases advance_transition hstep with
  | acquire free goes =>
    obtain ⟨hplain, hout, -⟩ := afterLock_spec goes
    exact .of_plain hplain (fun _ => rfl) fun hnext => h.owner (hout hnext)
  | test => exact h.decide (honce rfl)
  | write v => exact h.carryOut
  | release goes =>
    obtain ⟨-, hplain, hholds, hout, -⟩ := afterRelease_spec goes h.once.2.2 h.once.2.1
    refine .of_plain hplain (fun hnext => ?_) fun hnext => h.owner (hout hnext)
    exact absurd (hholds.symm.trans hnext) nofun
  | init | link | fetch => exact .of_plain rfl nofun fun _ => h.owner rfl
  | refuse goes =>
    obtain rfl | rfl := goes
    · exact .of_plain rfl nofun fun _ => h.owner rfl
    · exact .of_plain rfl nofun nofun
  | clear place =>
    have hholds : stage.holds = true := by
      obtain rfl | rfl := place <;> rfl
    exact .of_plain rfl (fun _ => h.holder hholds) nofun

/-- Only a link and a fetch change how often the work buffer is queued. -/
lemma advance_linked (hstep : q.advance i cfg o stage a = some next) :
    next.2.linked = q.linked ∧ stage ≠ .queued ∨ stage = .prepared ∧ next.1 = .queued ∧
    next.2.linked = q.linked + 1 ∨ stage = .queued ∧ next.2.linked = q.linked - 1 := by
  cases advance_transition hstep with
  | acquire free goes => exact .inl ⟨rfl, (afterLock_spec goes).2.2⟩
  | write v => cases v <;> exact .inl ⟨rfl, nofun⟩
  | release goes =>
    refine .inl ⟨rfl, ?_⟩
    rintro rfl
    cases goes
  | link => exact .inr (.inl ⟨rfl, rfl, rfl⟩)
  | fetch => exact .inr (.inr ⟨rfl, rfl⟩)
  | clear place =>
    refine .inl ⟨rfl, ?_⟩
    obtain rfl | rfl := place <;> exact nofun
  | test | init | refuse goes => exact .inl ⟨rfl, nofun⟩

lemma advance_init (hstep : q.advance i cfg o stage .init = some next) : stage = .launched := by
  cases stage with
  | launched => rfl
  | _ => cases hstep

/-- Only the delayed up-migration of the enhanced build releases the lock twice. -/
lemma delays_of_verdict {delayUp activeBalance : Bool} (h : o.verdict delayUp activeBalance = .wake true) :
    delayUp = true ∧ o.WakesUp activeBalance := by
  cases o with
  | balance busiest thisCpu allowed | pull thisCpu p => grind [Origin.verdict]
  | visit r p =>
    have hdecision : ∃ target, { p with activeBalance := activeBalance }.decision delayUp r =
        .delay target := by
      grind [Origin.verdict]
    obtain ⟨target, hdelay⟩ := hdecision
    have hbuild : r = .forceUp ∧ delayUp = true := by grind [Probe.decision]
    obtain ⟨rfl, rfl⟩ := hbuild
    exact ⟨rfl, Probe.decision_delay_iff.mp ⟨target, hdelay⟩⟩
  | force thisCpu p => grind [Origin.verdict, PlainProbe.verdict]

end Protocol

section Runs

variable (cfg : BalanceConfig) (origin : ι → Origin T n) {s : BalanceSystem ι T n}

section Move

variable [DecidableEq ι] {i j : ι} {cpu cpu' : Fin n} {next : Stage T n × BalanceRq ι T n}

lemma move_stage_self : (s.move i cpu next).stage i = next.1 := update_self ..

lemma move_stage_of_ne (h : j ≠ i) : (s.move i cpu next).stage j = s.stage j :=
  update_of_ne h ..

lemma move_rq_self : (s.move i cpu next).rq cpu = next.2 := update_self ..

lemma move_rq_of_ne (h : cpu' ≠ cpu) : (s.move i cpu next).rq cpu' = s.rq cpu' :=
  update_of_ne h ..

end Move

/-- Every request agrees with its run queue, and a work buffer is queued only for a
request that waits for the stopper. -/
structure BalanceSystem.Inv (s : BalanceSystem ι T n) : Prop where
  fits : ∀ i, Fits i (s.stage i) (s.rq (origin i).cpu)
  linked : ∀ cpu, (s.rq cpu).linked = 0 ∨
    (s.rq cpu).linked = 1 ∧ ∃ i, (origin i).cpu = cpu ∧ s.stage i = .queued

namespace BalanceSystem.Inv

variable {origin} {i j : ι} (h : s.Inv origin)
include h

lemma unique (hcpu : (origin i).cpu = (origin j).cpu)
    (hi : (s.stage i).outstanding = true) (hj : (s.stage j).outstanding = true) : i = j := by
  have hsetBy := ((h.fits i).owner hi).1
  rw [hcpu, ((h.fits j).owner hj).1] at hsetBy
  exact (Option.some.inj hsetBy).symm

/-- An outstanding request that is not queued has its buffer for itself. -/
lemma unlinked (hi : (s.stage i).outstanding = true)
    (hne : s.stage i ≠ .queued) : (s.rq (origin i).cpu).linked = 0 := by
  obtain hzero | ⟨-, k, hcpu, hqueued⟩ := h.linked (origin i).cpu
  · exact hzero
  · have hk : (s.stage k).outstanding = true := by rw [hqueued]; rfl
    obtain rfl := h.unique hcpu.symm hi hk
    exact absurd hqueued hne

lemma oneOutstanding : s.OneOutstanding origin := by
  refine ⟨fun i j hcpu hi hj => h.unique hcpu hi hj, fun cpu => ?_⟩
  obtain hzero | ⟨hone, -⟩ := h.linked cpu
  · rw [hzero]
    exact Nat.zero_le 1
  · exact Nat.le_of_eq hone

variable [DecidableEq ι]

lemma respects (op : BalanceOp ι n) : op.Respects cfg origin s := by
  cases op with
  | hotplug cpu enabled => trivial
  | act i a =>
    intro next hstep
    have hfits := h.fits i
    refine ⟨hfits.writes, ?_, (hfits.touches hstep).cleared⟩
    rintro rfl
    have hlaunched := advance_init hstep
    apply h.unlinked
    · rw [hlaunched]
      rfl
    · rw [hlaunched]
      nofun

/-- A step of request `i` keeps the invariant. -/
lemma advance {a : Act} {next : Stage T n × BalanceRq ι T n}
    (hstep : (s.rq (origin i).cpu).advance i cfg (origin i) (s.stage i) a = some next)
    (honce : s.stage i = .locked → (origin i).verdict cfg.delayUp (s.rq (origin i).cpu).activeBalance ≠ .wake true) :
    (s.move i (origin i).cpu next).Inv origin := by
  have hfits := h.fits i
  refine ⟨fun j => ?_, fun cpu => ?_⟩
  · by_cases hj : j = i
    · subst hj
      rw [move_stage_self, move_rq_self]
      exact hfits.advance hstep honce
    · rw [move_stage_of_ne hj]
      by_cases hcpu : (origin j).cpu = (origin i).cpu
      · have hother := h.fits j
        rw [hcpu] at hother
        rw [hcpu, move_rq_self]
        exact hother.of_touches (hfits.touches hstep) hj
      · rw [move_rq_of_ne hcpu]
        exact h.fits j
  · by_cases hcpu : cpu = (origin i).cpu
    · subst hcpu
      rw [move_rq_self]
      obtain ⟨hkeep, hne⟩ | ⟨hprepared, hqueued, hlink⟩ | ⟨hqueued, hfetch⟩ := advance_linked hstep
      · rw [hkeep]
        refine (h.linked _).imp_right fun ⟨hone, k, hk, hwaits⟩ => ⟨hone, k, hk, ?_⟩
        have hki : k ≠ i := by
          rintro rfl
          exact hne hwaits
        rwa [move_stage_of_ne hki]
      · have hzero := h.unlinked (by rw [hprepared]; rfl) (by rw [hprepared]; nofun)
        refine .inr ⟨by rw [hlink, hzero], i, rfl, ?_⟩
        rwa [move_stage_self]
      · left
        obtain hzero | ⟨hone, -⟩ := h.linked (origin i).cpu
        · rw [hfetch, hzero]
        · rw [hfetch, hone]
    · rw [move_rq_of_ne hcpu]
      refine (h.linked cpu).imp_right fun ⟨hone, k, hk, hwaits⟩ => ⟨hone, k, hk, ?_⟩
      have hki : k ≠ i := by
        rintro rfl
        exact hcpu hk.symm
      rwa [move_stage_of_ne hki]

/-- Parking a stopper touches neither lock nor flag. -/
lemma hotplug (cpu : Fin n) (enabled : Bool) : (s.step cfg origin (.hotplug cpu enabled)).Inv origin := by
  dsimp only [BalanceSystem.step]
  refine ⟨fun i => ?_, fun cpu' => ?_⟩
  · have hfits := h.fits i
    by_cases hcpu : (origin i).cpu = cpu
    · rw [hcpu] at hfits
      dsimp only
      rw [hcpu, update_self]
      exact ⟨hfits.holder, hfits.owner, hfits.decided, hfits.once⟩
    · dsimp only
      rwa [update_of_ne hcpu]
  · by_cases hcpu : cpu' = cpu
    · subst hcpu
      dsimp only
      rw [update_self]
      exact h.linked cpu'
    · dsimp only
      rw [update_of_ne hcpu]
      exact h.linked cpu'

end BalanceSystem.Inv

lemma BalanceSystem.init_inv (stopperEnabled : Fin n → Bool) : (BalanceSystem.init stopperEnabled).Inv origin :=
  ⟨fun _ => .of_plain rfl nofun nofun, fun _ => .inl rfl⟩

variable [DecidableEq ι]

lemma BalanceSystem.step_inv (h : s.Inv origin) (op : BalanceOp ι n)
    (hdelays : ¬ op.Delays cfg origin s) : (s.step cfg origin op).Inv origin := by
  cases op with
  | hotplug cpu enabled => exact h.hotplug cfg cpu enabled
  | act i a =>
    dsimp only [BalanceSystem.step]
    split
    next hstep =>
      refine h.advance cfg hstep fun hlocked hwake => hdelays ?_
      rw [hlocked] at hstep
      have htest : a = .test := by
        cases a with
        | test => rfl
        | _ => cases hstep
      subst htest
      exact ⟨hlocked, delays_of_verdict hwake⟩
    · exact h

/-- However the requests interleave: as long as no round of `hmp_force_up_migration` wakes the big
CPU, each run queue has one outstanding request at most, and every step respects the flag. -/
theorem active_balance_exclusive (stopperEnabled : Fin n → Bool) (ops : List (BalanceOp ι n))
    (hops : Run.Each (BalanceSystem.step cfg origin) (fun s op => ¬ op.Delays cfg origin s)
      (.init stopperEnabled) ops) :
    Run.Always (BalanceSystem.step cfg origin) (fun s => s.OneOutstanding origin) (.init stopperEnabled) ops ∧
      Run.Each (BalanceSystem.step cfg origin) (fun s op => op.Respects cfg origin s) (.init stopperEnabled) ops := by
  have hinv : Run.Always (BalanceSystem.step cfg origin) (fun s => s.Inv origin) (.init stopperEnabled) ops :=
    Run.always_of_each (fun s op hs hop => BalanceSystem.step_inv cfg origin hs op hop)
      (BalanceSystem.init_inv origin stopperEnabled) hops
  exact ⟨hinv.mono fun s hs => hs.oneOutstanding, hinv.each fun s op hs => hs.respects cfg op⟩

/-- Without delayed up-migration: `load_balance` and two forced migrations meet on CPU
0. The second finds the flag set, and the third is refused by the parked stopper. -/
theorem active_balance_exclusive_three_requests :
    let cfg : BalanceConfig := { delayUp := false, packStop := true }
    let origin : Fin 3 → Origin Unit 2 :=
      ![.balance 0 1 true, .visit .forceUp { cpu := 0, curr := some (), target := some 1 },
        .visit .idlePull { cpu := 0, curr := some (), target := some 1 }]
    let ops : List (BalanceOp (Fin 3) 2) :=
      [.act 0 .lock, .act 0 .test, .act 0 .write, .act 0 .unlock, .act 1 .lock, .act 1 .test,
       .act 0 .init, .act 1 .write, .act 1 .unlock, .act 0 .link, .act 0 .fetch, .act 0 .lock,
       .act 0 .pause, .act 0 .lock, .act 0 .clear, .act 0 .unlock, .act 2 .lock, .act 2 .test,
       .act 2 .write, .act 2 .unlock, .act 2 .init, .hotplug 0 false, .act 2 .link, .act 2 .lock,
       .act 2 .clear, .act 2 .unlock]
    Run.Always (BalanceSystem.step cfg origin) (fun s => s.OneOutstanding origin) (.init fun _ => true) ops ∧
      Run.Each (BalanceSystem.step cfg origin) (fun s op => op.Respects cfg origin s) (.init fun _ => true) ops :=
  active_balance_exclusive _ _ _ _ (by decide +kernel)

/-- A delayed up-migration from CPU 0 releases the run-queue lock a second time while
`load_balance` of CPU 1 holds it, and lets in `load_balance` of CPU 2. Both find the
flag clear, and the second writes the work buffer while it is queued for the first. -/
theorem active_balance_shared :
    let cfg : BalanceConfig := { delayUp := true, packStop := true }
    let origin : Fin 3 → Origin Unit 4 :=
      ![.visit .forceUp { cpu := 0, curr := some (), target := some 3 },
        .balance 0 1 true, .balance 0 2 true]
    let ops : List (BalanceOp (Fin 3) 4) :=
      [.act 0 .lock, .act 0 .test, .act 0 .write, .act 0 .unlock, .act 1 .lock, .act 1 .test,
       .act 0 .unlock, .act 2 .lock, .act 2 .test, .act 1 .write, .act 1 .unlock, .act 2 .write,
       .act 2 .unlock, .act 1 .init, .act 1 .link]
    let s := ops.foldl (BalanceSystem.step cfg origin) (.init fun _ => true)
    s.stage 1 = .queued ∧ s.stage 2 = .launched ∧ (s.rq 0).linked = 1 ∧
      ¬ s.OneOutstanding origin ∧ ¬ (BalanceOp.act 2 .init).Respects cfg origin s := by
  decide +kernel

end Runs

end BigLittle.Hmp
