import BigLittle.Cfs.TaskCount
import BigLittle.Cfs.Weights

/-!
# The task counts of queues and CPUs

Enqueueing and dequeueing a task, throttling and unthrottling a queue walk up the tree
and change `h_nr_running` on the way. Whether a loop goes on depends on the weight of a
queue, which is positive as long as anything is queued there.

At every point of a walk the counts fail at one place only, the next one to be told, and
the group entities are settled except for the one the walk stands at.
-/

namespace BigLittle.Cfs

open Word State
open Function (comp_update update)

variable {T G C : Type*} {s t : State T G C} {cfg : Config G C}

def State.roll (s : State T G C) : Roll T G C where
  taskQueue := s.taskQueue
  onRq := fun e => (s.se e).onRq
  throttled := fun q => (s.cfs q).throttled
  hNrRunning := fun q => ((s.cfs q).hNrRunning : ZMod (2 ^ 32))
  nrRunning := fun cpu => ((s.rq cpu).nrRunning : ZMod (2 ^ 32))

/-- The number of entities is in the range of an `unsigned int`. -/
def Few (T G C : Type*) [Fintype T] [Fintype G] [Fintype C] : Prop :=
  Fintype.card (Entity T G C) < 2 ^ 32

lemma Few.card_task [Fintype T] [Fintype G] [Fintype C] (hfew : Few T G C) : Fintype.card T < 2 ^ 32 :=
  (Fintype.card_le_of_injective Entity.task fun _ _ h => Entity.task.inj h).trans_lt hfew

section Roll

lemma roll_of_bare (h : t.bare = s.bare) : t.roll = s.roll :=
  (congrArg roll h : t.bare.roll = s.bare.roll)

lemma roll_congr (hqueue : t.taskQueue = s.taskQueue) (honRq : ∀ e, (t.se e).onRq = (s.se e).onRq)
    (hcfs : ∀ q, (t.cfs q).throttled = (s.cfs q).throttled ∧ (t.cfs q).hNrRunning = (s.cfs q).hNrRunning)
    (hrq : ∀ cpu, (t.rq cpu).nrRunning = (s.rq cpu).nrRunning) : t.roll = s.roll := by
  simp only [roll, hqueue, honRq, fun q => (hcfs q).1, fun q => (hcfs q).2, hrq]

variable (s cfg) (e : Entity T G C) (q : QueueId G C) (cpu : C) (delta : Nat) {f : CfsRq T G C → CfsRq T G C}

lemma queueOf_roll : s.roll.queueOf cfg.toHierarchy e = s.cfsRqOf cfg e := by cases e <;> rfl

lemma occupied_roll_iff {q : QueueId G C} :
    s.roll.Occupied cfg.toHierarchy q ↔ ∃ e, (s.se e).onRq = true ∧ s.cfsRqOf cfg e = q := by
  simp only [Roll.Occupied, queueOf_roll]
  rfl

variable [DecidableEq C]

lemma modifyRq_roll_count {f : Rq → Rq} {delta : ZMod (2 ^ 32)}
    (hcount : ((f (s.rq cpu)).nrRunning : ZMod (2 ^ 32)) = ((s.rq cpu).nrRunning : ZMod (2 ^ 32)) + delta) :
    (s.modifyRq cpu f).roll = s.roll.countCpu cpu delta := by
  have hupdate : (fun c => (((s.modifyRq cpu f).rq c).nrRunning : ZMod (2 ^ 32))) =
      update (fun c => ((s.rq c).nrRunning : ZMod (2 ^ 32))) cpu
        (((s.rq cpu).nrRunning : ZMod (2 ^ 32)) + delta) := by
    rw [← hcount]
    exact comp_update (fun r : Rq => (r.nrRunning : ZMod (2 ^ 32))) s.rq cpu _
  simp only [roll, Roll.countCpu, hupdate]
  rfl

lemma addNrRunning_roll (delta : Nat) :
    (s.modifyRq cpu fun r => { r with nrRunning := add 32 r.nrRunning delta }).roll =
      s.roll.countCpu cpu delta := modifyRq_roll_count s cpu (cast_add 32 _ _)

lemma subNrRunning_roll (delta : Nat) :
    (s.modifyRq cpu fun r => { r with nrRunning := sub 32 r.nrRunning delta }).roll =
      s.roll.countCpu cpu (-delta) :=
  modifyRq_roll_count s cpu ((cast_sub 32 _ _).trans (sub_eq_add_neg _ _))

variable [DecidableEq G]

@[simp] lemma accountEntity_roll (count : Nat → Nat → Nat → Nat) : (s.accountEntity cfg e count).roll = s.roll := by
  refine roll_congr (accountEntity_taskQueue ..) (fun e => by rw [accountEntity_se]) (fun r => ?_) fun cpu => ?_
  · rw [accountEntity_cfs]
    split
    · exact ⟨rfl, rfl⟩
    · exact ⟨rfl, rfl⟩
  · rw [accountEntity_rq]
    split
    · rfl
    · rfl

lemma modifyCfs_roll (hthrottled : (f (s.cfs q)).throttled = (s.cfs q).throttled)
    (hcount : (f (s.cfs q)).hNrRunning = (s.cfs q).hNrRunning) : (s.modifyCfs q f).roll = s.roll :=
  roll_congr rfl (fun _ => rfl) (fun r => ⟨modifyCfs_keeps CfsRq.throttled hthrottled r,
    modifyCfs_keeps CfsRq.hNrRunning hcount r⟩) fun _ => rfl

lemma walkTgTreeFrom_roll {visit : CfsRq T G C → Nat → CfsRq T G C}
    (h : ∀ c clock, (visit c clock).throttled = c.throttled ∧ (visit c clock).hNrRunning = c.hNrRunning) :
    (s.walkTgTreeFrom cfg q visit).roll = s.roll := by
  refine roll_congr rfl (fun _ => rfl) (fun r => ?_) fun _ => rfl
  dsimp only [walkTgTreeFrom]
  split
  · exact h _ _
  · exact ⟨rfl, rfl⟩

/-- The walk down the tree that throttling begins with. -/
lemma throttleDown_roll (cfg : Config G C) (s : State T G C) (q : QueueId G C) :
    (s.walkTgTreeFrom cfg q tgThrottleDown).roll = s.roll :=
  walkTgTreeFrom_roll s cfg q fun _ _ => ⟨rfl, rfl⟩

lemma modifyCfs_roll_count {delta : ZMod (2 ^ 32)} (hthrottled : (f (s.cfs q)).throttled = (s.cfs q).throttled)
    (hcount : ((f (s.cfs q)).hNrRunning : ZMod (2 ^ 32)) = ((s.cfs q).hNrRunning : ZMod (2 ^ 32)) + delta) :
    (s.modifyCfs q f).roll = s.roll.count q delta := by
  have hupdate : (fun r => (((s.modifyCfs q f).cfs r).hNrRunning : ZMod (2 ^ 32))) =
      update (fun r => ((s.cfs r).hNrRunning : ZMod (2 ^ 32))) q
        (((s.cfs q).hNrRunning : ZMod (2 ^ 32)) + delta) := by
    rw [← hcount]
    exact comp_update (fun c : CfsRq T G C => (c.hNrRunning : ZMod (2 ^ 32))) s.cfs q _
  have hflag := modifyCfs_keeps CfsRq.throttled hthrottled
  simp only [roll, Roll.count, hupdate, hflag]
  rfl

lemma addHNrRunning_roll : (s.addHNrRunning q delta).roll = s.roll.count q delta :=
  modifyCfs_roll_count s q rfl (cast_add 32 _ _)

lemma subHNrRunning_roll : (s.subHNrRunning q delta).roll = s.roll.count q (-delta) :=
  modifyCfs_roll_count s q rfl ((cast_sub 32 _ _).trans (sub_eq_add_neg _ _))

lemma setThrottled_roll (throttled : Bool) : (s.modifyCfs q fun c => { c with throttled := throttled }).roll =
      s.roll.setThrottled q throttled := by
  have hupdate : (fun r => ((s.modifyCfs q fun c => { c with throttled := throttled }).cfs r).throttled) =
      update (fun r => (s.cfs r).throttled) q throttled :=
    comp_update CfsRq.throttled s.cfs q _
  have hcount : ∀ r, ((s.modifyCfs q fun c => { c with throttled := throttled }).cfs r).hNrRunning =
      (s.cfs r).hNrRunning := modifyCfs_keeps CfsRq.hNrRunning rfl
  simp only [roll, Roll.setThrottled, hupdate, hcount]
  rfl

variable [DecidableEq T]

lemma modifySe_roll {f : SchedEntity → SchedEntity} (h : (f (s.se e)).onRq = (s.se e).onRq) :
    (s.modifySe e f).roll = s.roll :=
  roll_congr rfl (modifySe_keeps SchedEntity.onRq h) (fun _ => ⟨rfl, rfl⟩) fun _ => rfl

lemma setOnRq_roll (on : Bool) : (s.modifySe e fun se => { se with onRq := on }).roll = s.roll.setOnRq e on := by
  have honRq : (fun e' => ((s.modifySe e fun se => { se with onRq := on }).se e').onRq) =
      update (fun e' => (s.se e').onRq) e on :=
    comp_update SchedEntity.onRq s.se _ _
  simp only [roll, Roll.setOnRq, honRq]
  rfl

@[simp] lemma reweightEntity_roll (weight : Nat) : (s.reweightEntity cfg e weight).roll = s.roll := by
  rw [reweightEntity]
  split
  · rw [accountEntity_roll, modifySe_roll _ _ (by rfl), accountEntity_roll]
  · exact modifySe_roll s e rfl

@[simp] lemma updateCfsShares_roll : (s.updateCfsShares cfg q).roll = s.roll := by
  rw [updateCfsShares]
  split
  · rfl
  · split
    · rfl
    · exact reweightEntity_roll s cfg _ _

lemma enqueued_roll (wakeup : Bool) : (s.enqueued cfg e wakeup).roll = s.roll.setOnRq e true := by
  rw [enqueued, setOnRq_roll, updateCfsShares_roll, accountEntity_roll,
    roll_of_bare (enqueueEntityLoadAvg_bare cfg s e wakeup)]

lemma dequeueEntity_roll (sleep : Bool) : (s.dequeueEntity cfg e sleep).roll = s.roll.setOnRq e false := by
  rw [dequeueEntity, updateCfsShares_roll, accountEntity_roll, setOnRq_roll,
    roll_of_bare (dequeueEntityLoadAvg_bare cfg s e sleep)]

lemma migrateTaskRqFair_roll (task : T) (nohz : Option Nat) :
    (s.migrateTaskRqFair task nohz).roll = s.roll := by
  obtain hbare | ⟨clockTask, -, hbare⟩ := migrateTaskRqFair_bare s task nohz
  · exact roll_of_bare hbare
  · rw [roll_of_bare hbare]
    exact roll_congr rfl (fun _ => rfl) (fun _ => ⟨rfl, rfl⟩) (modifyRq_keeps Rq.nrRunning rfl)

lemma migrateTask_roll (task : T) (cpu : C) (nohz : Option Nat) :
    (s.migrateTask task cpu nohz).roll = s.roll.setTaskQueue task ⟨(s.taskQueue task).tg, cpu⟩ := by
  rw [migrateTask]
  split
  · rfl
  · have hroll := migrateTaskRqFair_roll s task nohz
    have hqueue : (s.migrateTaskRqFair task nohz).taskQueue = s.taskQueue := congrArg Roll.taskQueue hroll
    rw [← hqueue]
    exact congrArg (Roll.setTaskQueue · task _) hroll

variable {s cfg e q cpu} {g : G}

/-- A queue whose entity is off is throttled by its flag alone. -/
lemma throttleCfsRq_of_off (cfg : Config G C) (hoff : (s.se (.group g cpu)).onRq = false) :
    s.throttleCfsRq cfg ⟨some g, cpu⟩ =
      (s.walkTgTreeFrom cfg ⟨some g, cpu⟩ tgThrottleDown).modifyCfs ⟨some g, cpu⟩ fun c =>
        { c with throttled := true } := by
  have hoff' : ((s.walkTgTreeFrom cfg ⟨some g, cpu⟩ tgThrottleDown).se (.group g cpu)).onRq = false := hoff
  rw [throttleCfsRq, cfg.path_some, throttleLoop, if_neg (by simp [hoff'])]
  rfl

lemma throttleCfsRq_roll_of_off (cfg : Config G C) (hoff : (s.se (.group g cpu)).onRq = false) :
    (s.throttleCfsRq cfg ⟨some g, cpu⟩).roll = s.roll.setThrottled ⟨some g, cpu⟩ true := by
  rw [throttleCfsRq_of_off cfg hoff, setThrottled_roll, throttleDown_roll]

lemma enqueued_mem (hoff : (s.se e).onRq = false) (wakeup : Bool) {e' : Entity T G C}
    (he' : (s.se e').onRq = true) (hqueue : s.cfsRqOf cfg e' = q) :
    ((s.enqueued cfg e wakeup).se e').onRq = true ∧ (s.enqueued cfg e wakeup).cfsRqOf cfg e' = q := by
  have hroll := enqueued_roll s cfg e wakeup
  have hne : e' ≠ e := by
    rintro rfl
    exact Bool.false_ne_true (hoff.symm.trans he')
  have honRq := Roll.onRq_setOnRq_of_ne (r := s.roll) hne true
  have hsame := Roll.queueOf_setOnRq (h := cfg.toHierarchy) (r := s.roll) (e := e) true e'
  rw [← hroll] at honRq hsame
  rw [queueOf_roll, queueOf_roll] at hsame
  exact ⟨honRq.trans he', hsame.trans hqueue⟩

end Roll

section Sane

/-- Weights and shares are in the range of `MAX_SHARES`, which the weights of all
priorities are below, and none is 0; the root is not limited; task counts are words. -/
structure Plain (s : State T G C) : Prop where
  weight : ∀ e, 0 < (s.se e).weight ∧ (s.se e).weight ≤ maxShares
  shares : ∀ g, 0 < (s.tg g).shares ∧ (s.tg g).shares ≤ maxShares
  root : ∀ cpu, (s.cfs ⟨none, cpu⟩).runtimeEnabled = false
  hNrRunning : ∀ q, (s.cfs q).hNrRunning < 2 ^ 32
  nrRunning : ∀ cpu, (s.rq cpu).nrRunning < 2 ^ 32

namespace Plain

lemma of_bare (hs : Plain s) (h : t.bare = s.bare) : Plain t where
  weight e := by
    have heq : (t.se e).weight = (s.se e).weight :=
      (congrArg SchedEntity.weight (se_of_bare h e) :)
    rw [heq]
    exact hs.weight e
  shares g := by
    have heq : (t.tg g).shares = (s.tg g).shares :=
      (congrArg (fun u : State T G C => (u.tg g).shares) h :)
    rw [heq]
    exact hs.shares g
  root cpu := (congrArg CfsRq.runtimeEnabled (cfs_of_bare h _) :).trans (hs.root cpu)
  hNrRunning q := (congrArg CfsRq.hNrRunning (cfs_of_bare h q) :).trans_lt (hs.hNrRunning q)
  nrRunning cpu := (congrArg Rq.nrRunning (rq_of_bare h cpu) :).trans_lt (hs.nrRunning cpu)

lemma le_raised (n : Nat) : minShares ≤ if n < minShares then minShares else n := by
  split
  · exact Nat.le_refl _
  next hge => exact Nat.not_lt.mp hge

variable (cfg) (hs : Plain s)
include hs

/-- The shares of a group on a CPU lie between 1 and the shares of the group. -/
lemma calcCfsShares_bounds (q : QueueId G C) : 0 < s.calcCfsShares q ∧ s.calcCfsShares q ≤ maxShares := by
  obtain ⟨hpos, hle⟩ := hs.shares q.tg
  obtain ⟨raised, hraised, hshares⟩ : ∃ raised, minShares ≤ raised ∧ s.calcCfsShares q =
      if (s.tg q.tg).shares < raised then (s.tg q.tg).shares else raised := ⟨_, le_raised _, rfl⟩
  have hmin : minShares = 2 := rfl
  rw [hshares]
  split
  · exact ⟨hpos, hle⟩
  · omega

lemma setTaskQueue (taskQueue : T → QueueId G C) : Plain { s with taskQueue := taskQueue } :=
  ⟨hs.weight, hs.shares, hs.root, hs.hNrRunning, hs.nrRunning⟩

variable [DecidableEq C]

lemma modifyRq (cpu : C) {f : Rq → Rq} (hcount : (f (s.rq cpu)).nrRunning < 2 ^ 32) : Plain (s.modifyRq cpu f) where
  weight := hs.weight
  shares := hs.shares
  root := hs.root
  hNrRunning := hs.hNrRunning
  nrRunning cpu' := by
    by_cases hcpu : cpu' = cpu
    · rwa [hcpu, modifyRq_rq_self]
    · rw [modifyRq_rq_of_ne f hcpu]
      exact hs.nrRunning cpu'

variable [DecidableEq G]

lemma modifyCfs (q : QueueId G C) {f : CfsRq T G C → CfsRq T G C}
    (hf : (f (s.cfs q)).runtimeEnabled = (s.cfs q).runtimeEnabled)
    (hcount : (f (s.cfs q)).hNrRunning < 2 ^ 32) : Plain (s.modifyCfs q f) where
  weight := hs.weight
  shares := hs.shares
  root cpu := (modifyCfs_keeps CfsRq.runtimeEnabled hf _).trans (hs.root cpu)
  hNrRunning r := by
    by_cases hr : r = q
    · rwa [hr, modifyCfs_cfs_self]
    · rw [modifyCfs_cfs_of_ne f hr]
      exact hs.hNrRunning r
  nrRunning := hs.nrRunning

lemma accountEntity (e : Entity T G C) (count : Nat → Nat → Nat → Nat) : Plain (s.accountEntity cfg e count) := by
  dsimp only [State.accountEntity]
  split
  · exact (hs.modifyCfs _ rfl (hs.hNrRunning _)).modifyRq _ (hs.nrRunning _)
  · exact hs.modifyCfs _ rfl (hs.hNrRunning _)

variable [DecidableEq T]

lemma modifySe (e : Entity T G C) {f : SchedEntity → SchedEntity}
    (hf : 0 < (f (s.se e)).weight ∧ (f (s.se e)).weight ≤ maxShares) : Plain (s.modifySe e f) where
  weight e' := by
    by_cases he : e' = e
    · rwa [he, modifySe_se_self]
    · rw [modifySe_se_of_ne f he]
      exact hs.weight e'
  shares := hs.shares
  root := hs.root
  hNrRunning := hs.hNrRunning
  nrRunning := hs.nrRunning

lemma reweightEntity (e : Entity T G C) {weight : Nat}
    (hweight : 0 < weight ∧ weight ≤ maxShares) : Plain (s.reweightEntity cfg e weight) := by
  rw [State.reweightEntity]
  split
  · exact ((hs.accountEntity cfg e _).modifySe e hweight).accountEntity cfg e _
  · exact hs.modifySe e hweight

lemma updateCfsShares (q : QueueId G C) : Plain (s.updateCfsShares cfg q) := by
  rw [State.updateCfsShares]
  split
  · exact hs
  · split
    · exact hs
    · exact hs.reweightEntity cfg _ (hs.calcCfsShares_bounds q)

omit hs

lemma keeps : Keeps cfg fun s : State T G C => Plain s where
  enqueued s e wakeup _ hs := by
    have htracked := hs.of_bare (enqueueEntityLoadAvg_bare cfg s e wakeup)
    have hshares := (htracked.accountEntity cfg e Word.add).updateCfsShares cfg (s.cfsRqOf cfg e)
    exact hshares.modifySe e (hshares.weight e)
  dequeueEntity s e sleep _ hs := by
    have htracked := hs.of_bare (dequeueEntityLoadAvg_bare cfg s e sleep)
    exact ((htracked.modifySe e (htracked.weight e)).accountEntity cfg e _).updateCfsShares cfg _
  toTracks := .of_quiet (fun h hs => hs.of_bare h.bare) fun _ q hs => hs.updateCfsShares cfg q
  migrateTask s t cpu nohz _ hs := by
    have hleft : Plain (s.migrateTaskRqFair t nohz) := by
      obtain hbare | ⟨clockTask, -, hbare⟩ := migrateTaskRqFair_bare s t nohz
      · exact hs.of_bare hbare
      · exact (hs.modifyRq _ (hs.nrRunning (s.taskQueue t).cpu)).of_bare hbare
    rw [migrateTask]
    split
    · exact hs.setTaskQueue _
    · exact hleft.setTaskQueue _
  modifyCfs s q f hf hs := hs.modifyCfs q (congrArg CfsRq.runtimeEnabled (hf.accounts _) :)
    (hf.hNrRunning _ (hs.hNrRunning q))
  walkTgTreeFrom s q visit hvisit hs := by
    refine ⟨hs.weight, hs.shares, fun cpu => ?_, fun r => ?_, hs.nrRunning⟩
    all_goals
      dsimp only [walkTgTreeFrom]
      split
    · exact (congrArg CfsRq.runtimeEnabled ((hvisit _).accounts _) :).trans (hs.root cpu)
    · exact hs.root cpu
    · exact (hvisit _).hNrRunning _ (hs.hNrRunning r)
    · exact hs.hNrRunning r
  modifyRq s cpu f hf hs := hs.modifyRq cpu (hf.nrRunning _ (hs.nrRunning cpu))

end Plain

variable [DecidableEq G] [DecidableEq C] [Fintype T] [Fintype G] [Fintype C]

/-- Weights are balanced and plain, which every operation keeps. -/
def Sane (cfg : Config G C) (s : State T G C) : Prop := WeightsBalanced cfg s ∧ Plain s

/-- A queue has weight just when something is queued on it. -/
lemma Sane.loadWeight_eq_zero_iff (hs : Sane cfg s) (hfew : Few T G C) (q : QueueId G C) :
    (s.cfs q).loadWeight = 0 ↔ ¬ s.roll.Occupied cfg.toHierarchy q := by
  have hle : ∑ e with (s.se e).onRq = true ∧ s.cfsRqOf cfg e = q, (s.se e).weight ≤
      Fintype.card (Entity T G C) * maxShares := by
    refine (Finset.sum_le_card_nsmul _ _ maxShares fun e _ => (hs.2.weight e).2).trans ?_
    exact Nat.mul_le_mul_right _ (Finset.card_le_univ _)
  have hlt : ∑ e with (s.se e).onRq = true ∧ s.cfsRqOf cfg e = q, (s.se e).weight < 2 ^ 64 := by
    have hmax : maxShares = 2 ^ 18 := rfl
    rw [Few] at hfew
    rw [hmax] at hle
    omega
  rw [hs.1.sums.loadWeight, wrap_of_lt hlt, Finset.sum_eq_zero_iff, occupied_roll_iff]
  constructor
  · rintro hzero ⟨e, hon⟩
    have hweight := hzero e (by simpa using hon)
    exact absurd hweight (Nat.ne_of_gt (hs.2.weight e).1)
  · intro hempty e he
    exact absurd ⟨e, by simpa using he⟩ hempty

/-- A queue with `nr_running` 1 has one entity. -/
lemma Sane.eq_of_nrRunning_eq_one (hs : Sane cfg s) (hfew : Few T G C) {q : QueueId G C}
    (hone : (s.cfs q).nrRunning = 1) {e e' : Entity T G C} (he : (s.se e).onRq = true ∧ s.cfsRqOf cfg e = q)
    (he' : (s.se e').onRq = true ∧ s.cfsRqOf cfg e' = q) : e = e' := by
  have hlt := (Finset.card_le_univ
    ({e | (s.se e).onRq = true ∧ s.cfsRqOf cfg e = q} : Finset (Entity T G C))).trans_lt hfew
  rw [hs.1.sums.nrRunning, wrap_of_lt hlt] at hone
  exact Finset.card_le_one.mp hone.le e (by simpa using he) e' (by simpa using he')

variable [DecidableEq T]

lemma sane_keeps (cfg : Config G C) : Keeps cfg fun s : State T G C => Sane cfg s :=
  (weightsBalanced_keeps cfg).and (Plain.keeps cfg)

end Sane

section Walk

variable [DecidableEq G] [DecidableEq C] [Fintype T] [Fintype G] [Fintype C] (cfg)

/-- The counts are right but for a gap at one place, and the group entities are
settled but for some; throttling concerns limited groups only. -/
structure Counted (s : State T G C) (except : List (Entity T G C))
    (place : Place G C) (delta : ZMod (2 ^ 32)) : Prop where
  sane : Sane cfg s
  settled : s.roll.Settled cfg.toHierarchy except
  gap : s.roll.gap cfg.toHierarchy = Pi.single place delta
  root : ∀ cpu, s.roll.throttled ⟨none, cpu⟩ = false
  limited : ∀ q, s.roll.throttled q = true → cfg.bandwidthUsed = true

/-- The entities of a group and the groups above it. -/
def chain (cpu : C) (tg : Option G) : List (Entity T G C) :=
  (cfg.path tg).map fun g => .group g cpu

variable {cfg} {except : List (Entity T G C)} {place : Place G C} {delta : ZMod (2 ^ 32)} {e : Entity T G C}
variable {q : QueueId G C} {g : G} {cpu : C}

namespace Counted

/-- What does not concern queueing. -/
lemma quiet (hs : Counted cfg s except place delta) (ht : Sane cfg t) (hroll : t.roll = s.roll) :
    Counted cfg t except place delta :=
  ⟨ht, hroll ▸ hs.settled, hroll ▸ hs.gap, hroll ▸ hs.root, hroll ▸ hs.limited⟩

lemma mono (hs : Counted cfg s except place delta) {except' : List (Entity T G C)}
    (hsub : except ⊆ except') : Counted cfg s except' place delta :=
  { hs with settled := hs.settled.mono hsub }

/-- Without a gap there is no place. -/
lemma anywhere (hs : Counted cfg s except place 0) (place' : Place G C) : Counted cfg s except place' 0 := by
  have hgap := hs.gap
  rw [Pi.single_zero] at hgap
  exact { hs with gap := hgap.trans (Pi.single_zero _).symm }

lemma cfsRqThrottled (hs : Counted cfg s except place delta) (q : QueueId G C) :
    s.cfsRqThrottled cfg q = s.roll.throttled q := by
  have hflag : s.roll.throttled q = (s.cfs q).throttled := rfl
  rw [State.cfsRqThrottled, ← hflag]
  cases hthrottled : s.roll.throttled q with
  | false => exact Bool.and_false _
  | true => rw [hs.limited q hthrottled, Bool.and_true]

/-- A throttled queue is not carried. -/
lemma carried_of_throttled (hs : Counted cfg s [] place delta) (hq : s.roll.throttled q = true) :
    s.roll.carried q = false := by
  obtain ⟨tg, cpu⟩ := q
  cases tg with
  | none => exact absurd (hq.symm.trans (hs.root cpu)) nofun
  | some g =>
    have hsettled := hs.settled g cpu List.not_mem_nil
    rw [Roll.SettledAt, hq] at hsettled
    simpa [Roll.carried] using hsettled

lemma countCpu (hs : Counted cfg s except (.cpu cpu) delta) (ht : Sane cfg t)
    (hroll : t.roll = s.roll.countCpu cpu (-delta)) : Counted cfg t except (.cpu cpu) 0 := by
  refine ⟨ht, ?_, ?_, ?_, ?_⟩
  · rw [hroll]
    exact hs.settled
  · rw [hroll, Roll.gap_countCpu_neg hs.gap, Pi.single_zero]
  · rw [hroll]
    exact hs.root
  · rw [hroll]
    exact hs.limited

/-- A queue with an entity that has just joined alone was empty, and its own entity
is off. -/
lemma owner_off (hs : Counted cfg s [e] place 0) (hoff : (s.se e).onRq = false)
    (hq : s.cfsRqOf cfg e = ⟨some g, cpu⟩)
    (honly : ∀ e', (s.se e').onRq = true → s.cfsRqOf cfg e' = ⟨some g, cpu⟩ → e' = e) :
    (s.se (.group g cpu)).onRq = false := by
  rw [← Bool.not_eq_true]
  intro hon
  obtain ⟨⟨e', he', hqueue⟩, -⟩ :=
    (hs.settled.owner_settled ((queueOf_roll s cfg e).trans hq)).mp hon
  have heq := honly e' he' ((queueOf_roll s cfg e').symm.trans hqueue)
  exact Bool.false_ne_true (hoff.symm.trans (heq ▸ he'))

variable [DecidableEq T]

/-- A queue is told of the tasks it has too many of; the place above is next if it
counts the queue. -/
lemma count (hs : Counted cfg s except (.queue q) delta) (ht : Sane cfg t) (hroll : t.roll = s.roll.count q (-delta)) :
    Counted cfg t except (cfg.above q) (if s.roll.carried q then delta else 0) := by
  refine ⟨ht, ?_, ?_, ?_, ?_⟩
  · rw [hroll]
    exact hs.settled
  · rw [hroll, Roll.gap_count_neg hs.gap]
    split
    · rfl
    · rw [Pi.single_zero]
  · rw [hroll]
    exact hs.root
  · rw [hroll]
    exact hs.limited

end Counted

section Join

variable [DecidableEq T]

lemma Counted.throttleDown (hs : Counted cfg s except place delta) (q : QueueId G C) :
    Counted cfg (s.walkTgTreeFrom cfg q tgThrottleDown) except place delta :=
  hs.quiet ((sane_keeps cfg).walkTgTreeFrom s q _ (fun _ => ⟨fun _ => rfl, fun _ => id⟩) hs.sane)
    (throttleDown_roll cfg s q)

/-- The flag settles the entity of a group that has been taken off. -/
lemma Counted.setThrottled (hs : Counted cfg s [.group g cpu] place delta)
    (hoff : s.roll.onRq (.group g cpu) = false) (hused : cfg.bandwidthUsed = true) :
    Counted cfg (s.modifyCfs ⟨some g, cpu⟩ fun c => { c with throttled := true }) [] place delta := by
  have hroll := setThrottled_roll s ⟨some g, cpu⟩ true
  refine ⟨(sane_keeps cfg).setThrottled _ true hs.sane, ?_, ?_, fun cpu' => ?_, fun _ _ => hused⟩
  · rw [hroll]
    have hset : (s.roll.setThrottled ⟨some g, cpu⟩ true).Settled cfg.toHierarchy [.group g cpu] :=
      (hs.settled.setThrottled ⟨some g, cpu⟩ true).mono (by simp [Roll.owner])
    refine hset.drop ?_
    rw [Roll.SettledAt, Roll.setThrottled_self]
    have hoff' : (s.roll.setThrottled ⟨some g, cpu⟩ true).onRq (.group g cpu) = false := hoff
    simp [hoff']
  · rw [hroll]
    exact hs.gap
  · have hne : (⟨none, cpu'⟩ : QueueId G C) ≠ ⟨some g, cpu⟩ := by simp
    rw [hroll, Roll.setThrottled_of_ne hne]
    exact hs.root cpu'

/-- Throttling such a queue leaves all group entities settled. -/
lemma Counted.throttle_of_off (hs : Counted cfg s [.group g cpu] place delta)
    (hoff : (s.se (.group g cpu)).onRq = false) (hused : cfg.bandwidthUsed = true) :
    Counted cfg (s.throttleCfsRq cfg ⟨some g, cpu⟩) [] place delta := by
  rw [throttleCfsRq_of_off cfg hoff]
  refine (hs.throttleDown _).setThrottled ?_ hused
  rwa [throttleDown_roll]

/-- An entity that counts for `delta` tasks has been queued on `q`, which has not
been told yet. The owner of the queue is left behind if the queue was empty. -/
structure Joined (cfg : Config G C) (t : State T G C) (e : Entity T G C)
    (q : QueueId G C) (delta : ZMod (2 ^ 32)) : Prop where
  onRq : t.roll.onRq e = true
  queueOf : t.cfsRqOf cfg e = q
  tasks : t.roll.tasks e = delta
  counted : Counted cfg t (Roll.owner q) (.queue q) (-delta)
  settled : t.roll.carried q = true ∨ t.roll.throttled q = true → t.roll.Settled cfg.toHierarchy []
  only : t.roll.carried q = false → t.roll.throttled q = false →
    ∀ e', t.roll.onRq e' = true → t.cfsRqOf cfg e' = q → e' = e

lemma Counted.enqueued (hs : Counted cfg s [e] place 0) (hoff : (s.se e).onRq = false)
    (hready : s.roll.Ready cfg.toHierarchy e) (wakeup : Bool) :
    Joined cfg (s.enqueued cfg e wakeup) e (s.cfsRqOf cfg e) (s.roll.tasks e) := by
  have hroll := enqueued_roll s cfg e wakeup
  have hcfs : ∀ e', (s.enqueued cfg e wakeup).cfsRqOf cfg e' = s.cfsRqOf cfg e' := by
    intro e'
    rw [← queueOf_roll, ← queueOf_roll, hroll, Roll.queueOf_setOnRq]
  have hgap := hs.gap
  rw [Pi.single_zero] at hgap
  refine ⟨?_, hcfs e, ?_, ⟨(sane_keeps cfg).enqueued s e wakeup hoff hs.sane, ?_, ?_, ?_, ?_⟩, ?_, ?_⟩
  all_goals rw [hroll]
  · exact Roll.onRq_setOnRq_self true
  · cases e <;> rfl
  · rw [← queueOf_roll]
    exact hs.settled.join hready
  · rw [Roll.gap_setOnRq_true hoff, hgap, zero_sub, queueOf_roll, Pi.single_neg]
  · exact hs.root
  · exact hs.limited
  · rw [← queueOf_roll, Roll.carried_setOnRq]
    exact hs.settled.join_settled hready
  · simp only [hcfs, ← queueOf_roll, Roll.carried_setOnRq]
    exact fun hcarried hopen e' he' hqueue => hs.settled.join_only hcarried hopen he' hqueue

lemma Joined.throttle (ht : Joined cfg t e ⟨some g, cpu⟩ delta) (hoff : (t.se (.group g cpu)).onRq = false)
    (hused : cfg.bandwidthUsed = true) : Joined cfg (t.throttleCfsRq cfg ⟨some g, cpu⟩) e ⟨some g, cpu⟩ delta := by
  have hroll := throttleCfsRq_roll_of_off cfg hoff
  have hcounted := ht.counted.throttle_of_off hoff hused
  refine ⟨?_, ?_, ?_, hcounted.mono (List.nil_subset _), fun _ => hcounted.settled, fun _ hopen => ?_⟩
  · rw [hroll]
    exact ht.onRq
  · rw [← queueOf_roll, hroll, ← ht.queueOf, ← queueOf_roll]
    rfl
  · rw [hroll, ← ht.tasks]
    rfl
  · rw [hroll, Roll.setThrottled_self] at hopen
    cases hopen

/-- The whole of `enqueue_entity`. A queue that gets its first entity may be
throttled at once. -/
lemma Counted.enqueueEntity (hs : Counted cfg s [e] place 0) (hfew : Few T G C) (hoff : (s.se e).onRq = false)
    (hready : s.roll.Ready cfg.toHierarchy e) (wakeup : Bool) (spent : QueueId G C → Bool) :
    Joined cfg (s.enqueueEntity cfg e wakeup spent) e (s.cfsRqOf cfg e) (s.roll.tasks e) := by
  have hjoined := hs.enqueued hoff hready wakeup
  have hroll := enqueued_roll s cfg e wakeup
  rw [enqueueEntity_eq]
  split
  next hone =>
    rw [checkEnqueueThrottle]
    split
    next hguard =>
      cases hq : s.cfsRqOf cfg e with
      | mk tg cpu =>
        rw [hq] at hguard hone hjoined
        cases tg with
        | none =>
          have hroot := hjoined.counted.sane.2.root cpu
          exact absurd (hroot.symm.trans hguard.2.1) Bool.false_ne_true
        | some g =>
          have hself : s.roll.queueOf cfg.toHierarchy e = ⟨some g, cpu⟩ :=
            (queueOf_roll s cfg e).trans hq
          have hne : (.group g cpu : Entity T G C) ≠ e := by
            rintro rfl
            exact Roll.queueOf_group_ne g cpu hself
          have howner := hs.owner_off hoff hq fun e' he' hqueue =>
            hjoined.counted.sane.eq_of_nrRunning_eq_one hfew hone
              (enqueued_mem hoff wakeup he' hqueue) ⟨hjoined.onRq, hjoined.queueOf⟩
          refine hjoined.throttle ?_ hguard.1
          have honRq := Roll.onRq_setOnRq_of_ne (r := s.roll) hne true
          rw [← hroll] at honRq
          exact honRq.trans howner
    next => exact hjoined
  next => exact hjoined

end Join

end Walk

end BigLittle.Cfs
