import BigLittle.Hmp.SelectCpu

/-!
# Placing a task

`hmp_select_task_rq_fair` replaces the choice of the fair class. It searches both clusters for a
CPU. If only one has a CPU for the task, that one is taken; if both have, a new task goes to an idle
CPU, and other tasks change the cluster only if a migration check says so.

A previous or a new CPU beyond `NR_CPUS` is `none`. The statistics are taken as the hardware
computes them, exact or not.
-/

namespace BigLittle.Hmp

open Sched Cfs BigLittle.Topology

inductive Cluster where
  | fast
  | slow
deriving DecidableEq

def Cluster.other : Cluster → Cluster
  | .fast => .slow
  | .slow => .fast

/-- `hmp_fast_cpu_mask` and `hmp_slow_cpu_mask` -/
def clusterMask {n : Nat} (t : HmpTopology n) : Cluster → CpuMask n
  | .fast => t.fastMask
  | .slow => t.slowMask

def sdBalanceExec : Nat := 0x0004
def sdBalanceFork : Nat := 0x0008

def taskCreated (sdFlag : Nat) : Bool := decide (sdBalanceExec = sdFlag ∨ sdBalanceFork = sdFlag)

namespace State

variable {T G : Type*} {n : Nat} (cfg : Config G n) (pf : Platform n) (t : HmpTopology n) (s : State T G n)

/-- `clbenv` of a caller after `sched_update_clbstats`, for the two targets. -/
def clbEnv (caller : Nat) (bTarget lTarget : Fin n) : ClbEnv n :=
  let env := (s.schedUpdateClbstats pf
    { btarget := some bTarget, ltarget := some lTarget, bcpus := t.fastMask, lcpus := t.slowMask }).value
  { bstats := env.bstats.toClbStats, lstats := env.lstats.toClbStats
    bcpus := t.fastMask, lcpus := t.slowMask, flags := caller }

variable [DecidableEq G]

/-- Steps 2 to 4 of `hmp_select_task_rq_fair`. -/
def clusterByChecks (p : T) (prevCpu bTarget lTarget : Fin n) : State T G n × Cluster :=
  let env := s.clbEnv pf t hmpSelectRq bTarget lTarget
  let up := s.hmpUpMigration cfg lTarget bTarget p env
  if up.2.mcheck.result then (up.1, .fast)
  else
    let down := up.1.hmpDownMigration cfg bTarget lTarget p up.2
    if down.2.mcheck.result then (down.1, .slow)
    -- the task stays in the cluster of the previous CPU
    else (down.1, if prevCpu ∈ t.slowMask then .slow else .fast)

/-- Steps 1 to 4 of `hmp_select_task_rq_fair`, if both clusters have a CPU for the task. -/
def chooseCluster (sdFlag : Nat) (p : T) (prevCpu bTarget lTarget : Fin n) : State T G n × Cluster :=
  let idleFirst := taskCreated sdFlag && !s.taskLowPriority cfg p
  if idleFirst && s.rqLength bTarget == 0 then (s, .fast)
  else if idleFirst && s.rqLength lTarget == 0 then (s, .slow)
  else s.clusterByChecks cfg pf t p prevCpu bTarget lTarget

/-- The part of `hmp_select_task_rq_fair` before the label `out`, and `new_cpu` there; `discard` is
`CONFIG_HMP_DISCARD_CFS_SELECTION_RESULT`. -/
def placeTask (discard : Bool) (sdFlag : Nat) (p : T) (prevCpu : Fin n) (newCpu : Option (Fin n)) :
    State T G n × Option (Fin n) :=
  if s.online.cpus.card = 1 then (s, newCpu)
  else
    let bTarget := s.hmpSelectCpu cfg t hmpSelectRq p t.fastMask (some prevCpu)
    let lTarget := s.hmpSelectCpu cfg t hmpSelectRq p t.slowMask (some prevCpu)
    match bTarget, lTarget with
    | none, none => (s, newCpu)
    | none, some l => (s, if discard then some l else newCpu)
    | some b, none => (s, if discard then some b else newCpu)
    | some b, some l =>
      match s.chooseCluster cfg pf t sdFlag p prevCpu b l with
      | (s, .fast) => (s, some b)
      | (s, .slow) => (s, some l)

def hmpSelectTaskRqFair (discard : Bool) (sdFlag : Nat) (p : T) (prevCpu newCpu : Option (Fin n)) :
    State T G n × Option (Fin n) :=
  match prevCpu with
  | none => (s, newCpu)
  | some prevCpu =>
    let (s, newCpu) := s.placeTask cfg pf t discard sdFlag p prevCpu newCpu
    let newCpu := newCpu.getD prevCpu
    (s.expectTask p newCpu, some newCpu)

end State

section Placement

variable {T G : Type*} {n : Nat} [DecidableEq G]
variable (cfg : Config G n) (pf : Platform n) (t : HmpTopology n) (s : State T G n)
variable {sdFlag : Nat} {p : T} {prevCpu bTarget lTarget : Fin n} {newCpu : Option (Fin n)}

/-- The migration check towards the cluster approves the move between the two targets. -/
def Approved (p : T) (bTarget lTarget : Fin n) : Cluster → Prop
  | .fast =>
    let env := s.clbEnv pf t hmpSelectRq bTarget lTarget
    (s.hmpUpMigration cfg lTarget bTarget p env).2.mcheck.result = true
  | .slow =>
    let env := s.clbEnv pf t hmpSelectRq bTarget lTarget
    (s.hmpDownMigration cfg bTarget lTarget p env).2.mcheck.result = true

/-- The up check changes neither the state nor what the down check reads. -/
lemma down_after_up (p : T) (bTarget lTarget : Fin n) :
    let env := s.clbEnv pf t hmpSelectRq bTarget lTarget
    let up := s.hmpUpMigration cfg lTarget bTarget p env
    (up.1.hmpDownMigration cfg bTarget lTarget p up.2).2.mcheck =
      (s.hmpDownMigration cfg bTarget lTarget p env).2.mcheck := by
  intro env up
  have hstate : up.1 = s := by
    show s.countForced .up _ hmpSelectRq = s
    rw [State.countForced, if_neg]
    simp [callerIsGb, hmpGb, hmpSelectRq]
  rw [hstate]
  rfl

/-- The checks leave the cluster of the previous CPU only if the one towards the other cluster
approves. -/
lemma approved_of_clusterByChecks {c : Cluster} (h : (s.clusterByChecks cfg pf t p prevCpu bTarget lTarget).2 = c)
    (hother : prevCpu ∈ clusterMask t c.other) (hleft : prevCpu ∉ clusterMask t c) :
    Approved cfg pf t s p bTarget lTarget c := by
  have hdown := down_after_up cfg pf t s p bTarget lTarget
  simp only [State.clusterByChecks] at h
  split at h
  next hup =>
    subst h
    exact hup
  · split at h
    next hresult =>
      subst h
      exact (congrArg Mcheck.result hdown).symm.trans hresult
    · subst h
      dsimp only at hother hleft
      split at hleft
      next hslow => exact absurd hslow hleft
      next hslow =>
        rw [if_neg hslow] at hother
        exact absurd hother hslow

/-- A task that is not new gets its cluster from the checks. -/
lemma chooseCluster_of_not_created (hcreated : taskCreated sdFlag = false) :
    s.chooseCluster cfg pf t sdFlag p prevCpu bTarget lTarget =
    s.clusterByChecks cfg pf t p prevCpu bTarget lTarget := by
  simp [State.chooseCluster, hcreated]

/-- A task that is not new and may run in both clusters comes to cluster `c` from the other one only
after the check. -/
def LeavesApproved (sdFlag : Nat) (p : T) (prevCpu : Fin n) (c : Cluster) : Prop :=
  taskCreated sdFlag = false → (∀ c, (s.candidates p (clusterMask t c)).Nonempty) →
    prevCpu ∈ clusterMask t c.other → prevCpu ∉ clusterMask t c →
    ∃ bTarget lTarget, s.hmpSelectCpu cfg t hmpSelectRq p t.fastMask (some prevCpu) = some bTarget ∧
      s.hmpSelectCpu cfg t hmpSelectRq p t.slowMask (some prevCpu) = some lTarget ∧
      Approved cfg pf t s p bTarget lTarget c

/-- What is asked of the CPU that a task is placed on, as a CPU of cluster `c`. -/
structure WellPlaced (sdFlag : Nat) (p : T) (prevCpu : Fin n) (c : Cluster) (cpu : Fin n) : Prop where
  mem : cpu ∈ clusterMask t c
  online : cpu ∈ s.online.cpus
  allowed : cpu ∈ s.cpusAllowed p
  least : ∀ other ∈ s.candidates p (clusterMask t c), s.wload cpu ≤ s.wload other
  approved : LeavesApproved cfg pf t s sdFlag p prevCpu c

/-- The search of a cluster yields a CPU that is well placed but for the check. -/
lemma wellPlaced_of_selected {c : Cluster} {cpu : Fin n}
    (hcpu : s.hmpSelectCpu cfg t hmpSelectRq p (clusterMask t c) (some prevCpu) = some cpu)
    (happroved : LeavesApproved cfg pf t s sdFlag p prevCpu c) : WellPlaced cfg pf t s sdFlag p prevCpu c cpu := by
  have hselects := selects_of_not_gb cfg t s (by decide) hcpu
  obtain ⟨hmem, honline, hallowed⟩ := s.mem_candidates.mp hselects.mem
  exact ⟨hmem, honline, hallowed, hselects.least, happroved⟩

lemma placeTask_wellPlaced (honline : 1 < s.online.cpus.card)
    (husable : ∃ c, (s.candidates p (clusterMask t c)).Nonempty) :
    ∃ c cpu, (s.placeTask cfg pf t true sdFlag p prevCpu newCpu).2 = some cpu ∧
    WellPlaced cfg pf t s sdFlag p prevCpu c cpu := by
  rw [State.placeTask, if_neg (Nat.ne_of_gt honline)]
  cases hb : s.hmpSelectCpu cfg t hmpSelectRq p t.fastMask (some prevCpu) with
  | none =>
    have hnotFast := not_nonempty_of_none cfg t s hb
    cases hl : s.hmpSelectCpu cfg t hmpSelectRq p t.slowMask (some prevCpu) with
    | none =>
      have hnotSlow := not_nonempty_of_none cfg t s hl
      obtain ⟨c, hc⟩ := husable
      cases c with
      | fast => exact absurd hc hnotFast
      | slow => exact absurd hc hnotSlow
    | some l =>
      refine ⟨.slow, l, rfl, wellPlaced_of_selected cfg pf t s hl fun _ hboth => ?_⟩
      exact absurd (hboth .fast) hnotFast
  | some b =>
    cases hl : s.hmpSelectCpu cfg t hmpSelectRq p t.slowMask (some prevCpu) with
    | none =>
      refine ⟨.fast, b, rfl, wellPlaced_of_selected cfg pf t s hb fun _ hboth => ?_⟩
      exact absurd (hboth .slow) (not_nonempty_of_none cfg t s hl)
    | some l =>
      have happroved : ∀ c, (s.chooseCluster cfg pf t sdFlag p prevCpu b l).2 = c →
          taskCreated sdFlag = false → prevCpu ∈ clusterMask t c.other →
          prevCpu ∉ clusterMask t c → Approved cfg pf t s p b l c := by
        intro c hc hcreated hother hleft
        rw [chooseCluster_of_not_created cfg pf t s hcreated] at hc
        exact approved_of_clusterByChecks cfg pf t s hc hother hleft
      cases hc : s.chooseCluster cfg pf t sdFlag p prevCpu b l with
      | mk s' c =>
        rw [hc] at happroved
        cases c with
        | fast =>
          refine ⟨.fast, b, by simp only [hc], wellPlaced_of_selected cfg pf t s hb ?_⟩
          intro hcreated _ hother hleft
          exact ⟨b, l, hb, hl, happroved .fast rfl hcreated hother hleft⟩
        | slow =>
          refine ⟨.slow, l, by simp only [hc], wellPlaced_of_selected cfg pf t s hl ?_⟩
          intro hcreated _ hother hleft
          exact ⟨b, l, hb, hl, happroved .slow rfl hcreated hother hleft⟩

/-- If more than one CPU is online and one of a cluster is allowed, the task is placed on the least
loaded CPU of a cluster that it may run on, and changes the cluster only after a migration check. -/
theorem hmpSelectTaskRqFair_wellPlaced (sdFlag : Nat) (p : T) (prevCpu : Fin n) (newCpu : Option (Fin n))
    (honline : 1 < s.online.cpus.card) (husable : ∃ c, (s.candidates p (clusterMask t c)).Nonempty) :
    ∃ c cpu, (s.hmpSelectTaskRqFair cfg pf t true sdFlag p (some prevCpu) newCpu).2 = some cpu ∧
    WellPlaced cfg pf t s sdFlag p prevCpu c cpu := by
  obtain ⟨c, cpu, hplaced, hwell⟩ := placeTask_wellPlaced cfg pf t s honline husable
  refine ⟨c, cpu, ?_, hwell⟩
  show some ((s.placeTask cfg pf t true sdFlag p prevCpu newCpu).2.getD prevCpu) = some cpu
  rw [hplaced]
  rfl

/-- Two little and two big CPUs. A heavy task that wakes up on a little CPU is placed on the second
big one, which is idle. -/
theorem hmpSelectTaskRqFair_heavy_wakeup :
    let pf : Platform 4 := { cpuPower := fun cpu => if cpu < 2 then 606 else 1535 }
    let s : State Unit Unit 4 :=
      { heavyOn 0 allFour.online with
        rq := fun cpu => { clockTask := 10000000000, nrRunning := if cpu = 3 then 0 else 1 } }
    let placed := (s.hmpSelectTaskRqFair {} pf twoAndTwo true 0x0010 () (some 0) (some 0)).2
    placed = some 3 ∧ ∃ c cpu, placed = some cpu ∧ WellPlaced {} pf twoAndTwo s 0x0010 () 0 c cpu := by
  intro pf s placed
  have hplaced : placed = some 3 := by decide +kernel
  refine ⟨hplaced, hmpSelectTaskRqFair_wellPlaced _ pf _ s _ _ _ _ (by decide) ?_⟩
  exact ⟨.fast, by decide⟩

end Placement

end BigLittle.Hmp
