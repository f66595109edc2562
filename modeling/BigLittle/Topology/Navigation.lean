import BigLittle.Hmp.Threshold
import BigLittle.Topology.Domains

/-!
# Steps along the list of domains

`hmp_faster_domain` and `hmp_slower_domain` step from the domain of a CPU to its
neighbour in the list and do not notice the end: one step too far takes the head of
the list for a domain. Every caller is therefore modelled with the steps it
evaluates, in both builds of the scheduler. What is read after a step too far is
not modelled; such a domain counts as empty.
-/

namespace BigLittle.Topology

open Sched Cfs Hmp List
open HmpTopology (visit)

/-- One evaluation of `hmp_faster_domain` or of `hmp_slower_domain`. -/
structure Nav (n : Nat) where
  dir : Direction
  cpu : Fin n
deriving DecidableEq

inductive Build where
  | enhanced
  | plain
deriving DecidableEq

structure PlainTunables extends LoadLimits where
  littlePacking : Bool := true
  hmpPackingEnabled : Bool := true

/-- `cpumask_any`: the first CPU. -/
def firstCpu {n : Nat} (mask : CpuMask n) : Option (Fin n) :=
  (finRange n).find? fun cpu => cpu ∈ mask

namespace HmpTopology

variable {n : Nat} (t : HmpTopology n)

def cpuIsFastest (cpu : Fin n) : Bool := t.cpuDomain cpu = some 0

def cpuIsSlowest (cpu : Fin n) : Bool :=
  (t.cpuDomain cpu).any fun pos => pos + 1 = t.domains.length

/-- `hmp_slower_domain`; `none` is the head of the list. -/
def slowerDomain (cpu : Fin n) : Option (HmpDomain n) :=
  (t.cpuDomain cpu).bind fun pos => t.domains[pos + 1]?

/-- `hmp_faster_domain`; `none` is the head of the list. -/
def fasterDomain (cpu : Fin n) : Option (HmpDomain n) :=
  (t.cpuDomain cpu).bind fun pos => if pos = 0 then none else t.domains[pos - 1]?

/-- The CPU is in the last domain of the direction. -/
def cpuIsLast : Direction → Fin n → Bool
  | .up, cpu => t.cpuIsFastest cpu
  | .down, cpu => t.cpuIsSlowest cpu

def neighbour : Direction → Fin n → Option (HmpDomain n)
  | .up, cpu => t.fasterDomain cpu
  | .down, cpu => t.slowerDomain cpu

def neighbourCpus (dir : Direction) (cpu : Fin n) : CpuMask n :=
  (t.neighbour dir cpu).elim ∅ HmpDomain.cpus

/-- `hmp_cpu_domain(cpu)->cpus` -/
def ownCpus (cpu : Fin n) : CpuMask n :=
  ((t.cpuDomain cpu).bind fun pos => t.domains[pos]?).elim ∅ HmpDomain.cpus

end HmpTopology

/-- The step stays in the list: the CPU is not in the last domain of the direction,
and a domain of the list is reached. -/
def Nav.Safe {n : Nat} (t : HmpTopology n) (nav : Nav n) : Prop :=
  t.cpuIsLast nav.dir nav.cpu = false ∧ ∃ d ∈ t.domains, t.neighbour nav.dir nav.cpu = some d

structure MinLoad (n : Nat) where
  load : Nat := 2 ^ 31 - 1
  cpu : Option (Fin n) := none
  lastMigration : Nat := 2 ^ 64 - 1

section Functions

variable {T G : Type*} {n : Nat} (cfg : Config G n) (tun : PlainTunables) (s : State T G n) (t : HmpTopology n)

/-- The body of the loop of `hmp_domain_min_load`. -/
def minLoadStep (best : MinLoad n) (cpu : Fin n) : MinLoad n :=
  let avg := (s.rq cpu).avg
  let last := if avg.hmpLastUpMigration ≠ 0 then avg.hmpLastUpMigration else avg.hmpLastDownMigration
  let contrib := if avg.loadAvgRatio ≠ 0 then 1023 else 0
  if contrib < best.load ∨ contrib = best.load ∧ last < best.lastMigration then
    { load := contrib, cpu := some cpu, lastMigration := last }
  else best

def hmpDomainMinLoad (cpus : CpuMask n) (affinity : Option (CpuMask n)) : MinLoad n :=
  let mask := cpus ∩ affinity.getD s.online.cpus
  ((finRange n).filter fun cpu => cpu ∈ mask).foldl (minLoadStep s) {}

/-- The least loaded CPU of a domain is allowed for the task. -/
def LeastLoadedAllowed (p : T) (cpus : CpuMask n) : Prop :=
  ∃ cpu ∈ (hmpDomainMinLoad s cpus none).cpu, cpu ∈ s.cpusAllowed p
  deriving Decidable

variable (build : Build)

/-- `hmp_select_faster_cpu` and `hmp_select_slower_cpu`. -/
def selectNeighbourCpu (dir : Direction) (p : T) (cpu : Fin n) : List (Nav n) × Option (Fin n) :=
  match build with
  | .enhanced =>
    let cpus := t.neighbourCpus dir cpu
    if LeastLoadedAllowed s p cpus then ([⟨dir, cpu⟩], (hmpDomainMinLoad s cpus none).cpu)
    else ([⟨dir, cpu⟩, ⟨dir, cpu⟩], firstCpu (cpus ∩ s.cpusAllowed p))
  | .plain =>
    if t.cpuIsLast dir cpu then
      ([], (hmpDomainMinLoad s (t.ownCpus cpu) (some (s.cpusAllowed p))).cpu)
    else
      ([⟨dir, cpu⟩], (hmpDomainMinLoad s (t.neighbourCpus dir cpu) (some (s.cpusAllowed p))).cpu)

def hmpSelectFasterCpu := selectNeighbourCpu s t build .up

def hmpSelectSlowerCpu := selectNeighbourCpu s t build .down

/-- The part of `select_task_rq_fair` for a forked task that is boosted. The `cpu`
is the one that runs the code; `none` goes on to the ordinary balance. -/
def selectForked (p : T) (cpu prevCpu : Fin n) : List (Nav n) × Option (Fin n) :=
  if t.cpuIsFastest prevCpu then
    let cpus := t.ownCpus prevCpu
    if LeastLoadedAllowed s p cpus then ([], (hmpDomainMinLoad s cpus none).cpu)
    -- the domain is that of `cpu`, not of `prev_cpu`
    else ([⟨.up, cpu⟩], firstCpu (t.neighbourCpus .up cpu ∩ s.cpusAllowed p))
  else hmpSelectFasterCpu s t build p prevCpu

/-! The functions below exist in the plain build only. -/

/-- The time since the last migration of the task, by the clock of the first online
CPU, is below the threshold. -/
def unsettled (dir : Direction) (p : T) : Bool :=
  let now := (s.rq s.online.first).clockTask
  decide (Word.sub 64 now (lastMigration dir (s.se (.task p)).avg) >>> 10 < cfg.nextThreshold dir)

/-- `hmp_up_migration` of the plain build, with the target it finds. -/
def plainUpMigration (p : T) (cpu : Fin n) : List (Nav n) × Option (Fin n) :=
  if t.cpuIsFastest cpu then ([], none)
  else if s.taskLowPriority cfg p then ([], none)
  else if s.seLoad p < tun.up then ([], none)
  else if unsettled cfg s .up p then ([], none)
  else
    let least := hmpDomainMinLoad s (t.neighbourCpus .up cpu) (some (s.cpusAllowed p))
    ([⟨.up, cpu⟩], if least.load = 0 then least.cpu else none)

/-- `hmp_down_migration` of the plain build. -/
def plainDownMigration (p : T) (cpu : Fin n) : List (Nav n) × Bool :=
  let crosses := decide (¬ Disjoint (t.neighbourCpus .down cpu) (s.cpusAllowed p))
  if t.cpuIsSlowest cpu then ([], tun.littlePacking && tun.hmpPackingEnabled)
  else if s.taskLowPriority cfg p && crosses then ([⟨.down, cpu⟩], true)
  else
    let first := if s.taskLowPriority cfg p then [⟨.down, cpu⟩] else []
    if unsettled cfg s .down p then (first, false)
    else (first ++ [⟨.down, cpu⟩], crosses && decide (s.seLoad p < tun.down))

/-- The steps of `hmp_best_little_cpu`. -/
def bestLittleNavs (p : T) (cpu : Fin n) : List (Nav n) :=
  if !tun.hmpPackingEnabled || decide (nice0Load * 90 / 100 < s.seLoad p) then
    (hmpSelectSlowerCpu s t .plain p cpu).1
  else if t.cpuIsSlowest cpu then []
  else [⟨.down, cpu⟩]

def taskStarvation (p : T) : Nat :=
  let avg := (s.se (.task p)).avg
  Word.mul 32 avg.usageAvgSum nice0Load / Word.add 32 avg.runnableAvgSum 1

/-- The steps of `hmp_offload_down`. -/
def offloadDownNavs (p : T) (cpu : Fin n) : List (Nav n) :=
  if t.cpuIsSlowest cpu then []
  else if (hmpDomainMinLoad s (t.ownCpus cpu) none).load = 0 then []
  else if (s.cfs ⟨none, cpu⟩).hNrRunning < 2 then []
  else if 768 < taskStarvation s p then []
  else [⟨.down, cpu⟩]

/-- The steps of `hmp_get_heaviest_task`, for the current task of `cpu`. -/
def heaviestTaskNavs (cpu : Fin n) : List (Nav n) := if t.cpuIsFastest cpu then [] else [⟨.up, cpu⟩]

/-- The steps of `hmp_get_lightest_task`. -/
def lightestTaskNavs (migrateDown : Bool) (cpu : Fin n) : List (Nav n) :=
  if migrateDown then if t.cpuIsSlowest cpu then [] else [⟨.down, cpu⟩] else []

/-- The steps of `hmp_idle_pull`: down from this CPU, and up again from the CPUs of
the slower domain that run a task. -/
def idlePullNavs (thisCpu : Fin n) (busy : CpuMask n) : List (Nav n) :=
  if t.cpuIsSlowest thisCpu then []
  else
    let cpus := (finRange n).filter fun cpu => cpu ∈ t.neighbourCpus .down thisCpu ∩ busy
    ⟨.down, thisCpu⟩ :: cpus.flatMap fun cpu => heaviestTaskNavs t cpu

/-- The steps of the migration checks at the end of `select_task_rq_fair`. -/
def plainSelectNavs (p : T) (prevCpu : Fin n) : List (Nav n) :=
  let up := plainUpMigration cfg tun s t p prevCpu
  if up.2.isSome then up.1
  else
    let down := plainDownMigration cfg tun s t p prevCpu
    let select := if tun.littlePacking then bestLittleNavs tun s t p prevCpu
      else (hmpSelectSlowerCpu s t .plain p prevCpu).1
    up.1 ++ down.1 ++ if down.2 then select else []

/-- The steps after the part for forked tasks: `hmp_select_task_rq_fair` of the
enhanced build uses the cluster masks instead. -/
def migrationNavs (p : T) (prevCpu : Fin n) : List (Nav n) :=
  match build with
  | .enhanced => []
  | .plain => plainSelectNavs cfg tun s t p prevCpu

/-- The steps of `select_task_rq_fair`; `boosted` says that a user task was forked
and is to be boosted. -/
def selectTaskRqNavs (boosted : Bool) (p : T) (cpu prevCpu : Fin n) : List (Nav n) :=
  if (s.cpusAllowed p).card = 1 then []
  else if boosted then
    let forked := selectForked s t build p cpu prevCpu
    if forked.2.isSome then forked.1 else forked.1 ++ migrationNavs cfg tun s t build p prevCpu
  else migrationNavs cfg tun s t build p prevCpu

end Functions

inductive Call (T : Type*) (n : Nat) where
  | selectTaskRq (build : Build) (boosted : Bool) (p : T) (cpu prevCpu : Fin n)
  | upMigration (p : T) (cpu : Fin n)
  | heaviestTask (cpu : Fin n)
  | lightestTask (migrateDown : Bool) (cpu : Fin n)
  | offloadDown (p : T) (cpu : Fin n)
  | idlePull (thisCpu : Fin n) (busy : CpuMask n)

namespace Call

variable {T G : Type*} {n : Nat}

def navs (cfg : Config G n) (tun : PlainTunables) (s : State T G n) (t : HmpTopology n) : Call T n → List (Nav n)
  | .selectTaskRq build boosted p cpu prevCpu => selectTaskRqNavs cfg tun s t build boosted p cpu prevCpu
  | .upMigration p cpu => (plainUpMigration cfg tun s t p cpu).1
  | .heaviestTask cpu => heaviestTaskNavs t cpu
  | .lightestTask migrateDown cpu => lightestTaskNavs t migrateDown cpu
  | .offloadDown p cpu => offloadDownNavs s t p cpu
  | .idlePull thisCpu busy => idlePullNavs t thisCpu busy

/-- A boosted task was forked in the fastest domain, the least loaded CPU there is
not allowed for it, and the CPU that runs the code is in the fastest domain too. -/
def ForkOffTheList (s : State T G n) (t : HmpTopology n) : Call T n → Prop
  | .selectTaskRq _ boosted p cpu prevCpu =>
    boosted = true ∧ (s.cpusAllowed p).card ≠ 1 ∧ t.cpuIsFastest prevCpu = true ∧
      ¬ LeastLoadedAllowed s p (t.ownCpus prevCpu) ∧ t.cpuIsFastest cpu = true
  | _ => False

/-- The CPUs that the caller passes. -/
def cpus : Call T n → List (Fin n)
  | .selectTaskRq _ _ _ cpu prevCpu => [cpu, prevCpu]
  | .upMigration _ cpu => [cpu]
  | .heaviestTask cpu => [cpu]
  | .lightestTask _ cpu => [cpu]
  | .offloadDown _ cpu => [cpu]
  | .idlePull thisCpu _ => [thisCpu]

end Call

section Links

variable {n : Nat}

/-- The domain of a CPU is in the list, and each CPU of the list has one. -/
structure HmpTopology.Linked (t : HmpTopology n) : Prop where
  inList : ∀ {cpu pos}, t.cpuDomain cpu = some pos → pos < t.domains.length
  hasDomain : ∀ d ∈ t.domains, ∀ cpu ∈ d.cpus, (t.cpuDomain cpu).isSome

lemma fillMask_keeps (t : HmpTopology n) (d : HmpDomain n) :
    (t.fillMask d).domains = t.domains ∧ (t.fillMask d).cpuDomain = t.cpuDomain := by
  rw [HmpTopology.fillMask]
  split
  · exact ⟨rfl, rfl⟩
  · split <;> exact ⟨rfl, rfl⟩

lemma enter_domains (t : HmpTopology n) (dc : Nat) (d : HmpDomain n) :
    (t.enter dc d).domains = t.domains := (fillMask_keeps t d).1

lemma enter_cpuDomain (t : HmpTopology n) (dc : Nat) (d : HmpDomain n) (cpu : Fin n) :
    (t.enter dc d).cpuDomain cpu = if cpu ∈ d.possibleCpus then some dc else t.cpuDomain cpu := by
  rw [HmpTopology.enter, (fillMask_keeps t d).2]

lemma visit_domains (l : List (HmpDomain n)) (dc : Nat) (t : HmpTopology n) : (visit l dc t).domains = t.domains := by
  induction l generalizing dc t with
  | nil => rfl
  | cons d rest ih => rw [visit, ih, enter_domains]

/-- A CPU keeps its domain or gets one of a visited position. -/
lemma visit_cpuDomain_lt {l : List (HmpDomain n)} {dc pos : Nat} {t : HmpTopology n} {cpu : Fin n}
    (h : (visit l dc t).cpuDomain cpu = some pos) : pos < dc + l.length ∨ t.cpuDomain cpu = some pos := by
  induction l generalizing dc t with
  | nil => exact .inr h
  | cons d rest ih =>
    rw [length_cons]
    obtain hlt | heq := ih h
    · left
      omega
    · rw [enter_cpuDomain] at heq
      split at heq
      · left
        have := Option.some.inj heq
        omega
      · exact .inr heq

lemma visit_cpuDomain_isSome {l : List (HmpDomain n)} {dc : Nat} {t : HmpTopology n} {cpu : Fin n}
    (h : (t.cpuDomain cpu).isSome ∨ ∃ d ∈ l, cpu ∈ d.possibleCpus) : ((visit l dc t).cpuDomain cpu).isSome := by
  induction l generalizing dc t with
  | nil =>
    obtain hsome | ⟨d, hd, -⟩ := h
    · exact hsome
    · cases hd
  | cons d rest ih =>
    apply ih
    rw [enter_cpuDomain]
    by_cases hmem : cpu ∈ d.possibleCpus
    · left
      rw [if_pos hmem]
      rfl
    · rw [if_neg hmem]
      apply h.imp_right
      rintro ⟨d', hd', hcpu⟩
      obtain rfl | hrest := mem_cons.mp hd'
      · exact absurd hcpu hmem
      · exact ⟨d', hrest, hcpu⟩

lemma archGetHmpDomains_cpus {sets : CpuSets n} {masks : CpuMask n × CpuMask n}
    {d : HmpDomain n} (h : d ∈ archGetHmpDomains sets masks) : d.cpus ⊆ d.possibleCpus := by
  have hdomain : ∀ mask : CpuMask n, (hmpDomain sets mask).cpus ⊆ (hmpDomain sets mask).possibleCpus :=
    fun mask => Finset.inter_subset_right
  obtain rfl | hrest := mem_cons.mp h
  · exact hdomain _
  · split at hrest
    · rw [mem_singleton.mp hrest]
      exact hdomain _
    · cases hrest

/-- The list that is built at boot, from whatever masks, is linked. -/
lemma setup_linked (configMasks : Option (CpuMask n × CpuMask n)) (sets : CpuSets n)
    (s : Capacities) : (hmpCpuMaskSetup configMasks sets s).Linked := by
  rw [hmpCpuMaskSetup]
  constructor
  · intro cpu pos hpos
    rw [visit_domains]
    obtain hlt | hnone := visit_cpuDomain_lt hpos
    · rwa [Nat.zero_add] at hlt
    · cases hnone
  · intro d hd cpu hcpu
    rw [visit_domains] at hd
    exact visit_cpuDomain_isSome (.inr ⟨d, hd, archGetHmpDomains_cpus hd hcpu⟩)

variable {t : HmpTopology n} {dir : Direction} {cpu : Fin n}

/-- Away from the end, a step reaches a domain of the list. -/
lemma HmpTopology.Linked.safe (h : t.Linked) (hcpu : (t.cpuDomain cpu).isSome)
    (hlast : t.cpuIsLast dir cpu = false) : Nav.Safe t ⟨dir, cpu⟩ := by
  obtain ⟨pos, hpos⟩ := Option.isSome_iff_exists.mp hcpu
  have hlt := h.inList hpos
  refine ⟨hlast, ?_⟩
  cases dir with
  | up =>
    rw [cpuIsLast, cpuIsFastest, hpos, decide_eq_false_iff_not] at hlast
    have hne : pos ≠ 0 := fun h0 => hlast (congrArg some h0)
    have hprev : pos - 1 < t.domains.length := by omega
    refine ⟨t.domains[pos - 1], getElem_mem hprev, ?_⟩
    rw [neighbour, fasterDomain, hpos, Option.bind_some, if_neg hne, getElem?_eq_getElem hprev]
  | down =>
    rw [cpuIsLast, cpuIsSlowest, hpos, Option.any_some, decide_eq_false_iff_not] at hlast
    have hnext : pos + 1 < t.domains.length := by omega
    refine ⟨t.domains[pos + 1], getElem_mem hnext, ?_⟩
    rw [neighbour, slowerDomain, hpos, Option.bind_some, getElem?_eq_getElem hnext]

end Links

section Guards

variable {T G : Type*} {n : Nat} {t : HmpTopology n} {cpu prevCpu : Fin n} {p : T} {nav : Nav n} {dir : Direction}
variable (cfg : Config G n) (tun : PlainTunables) (s : State T G n)

/-- The step is one from `cpu`, which is not in the last domain of the direction. -/
def GuardedFrom (t : HmpTopology n) (dir : Direction) (cpu : Fin n) (nav : Nav n) : Prop :=
  nav = ⟨dir, cpu⟩ ∧ t.cpuIsLast dir cpu = false

lemma GuardedFrom.safe (h : GuardedFrom t dir cpu nav) (ht : t.Linked)
    (hcpu : (t.cpuDomain cpu).isSome) : nav.Safe t := by
  obtain ⟨rfl, hlast⟩ := h
  exact ht.safe hcpu hlast

lemma selectNeighbourCpu_nav {build : Build} (h : nav ∈ (selectNeighbourCpu s t build dir p cpu).1) :
    nav = ⟨dir, cpu⟩ ∧ (build = .plain → t.cpuIsLast dir cpu = false) := by
  cases build with
  | enhanced =>
    refine ⟨?_, nofun⟩
    dsimp only [selectNeighbourCpu] at h
    split at h <;> simpa using h
  | plain =>
    dsimp only [selectNeighbourCpu] at h
    split at h
    · cases h
    next hlast => exact ⟨mem_singleton.mp h, fun _ => Bool.not_eq_true _ ▸ hlast⟩

lemma plainUpMigration_nav (h : nav ∈ (plainUpMigration cfg tun s t p cpu).1) : GuardedFrom t .up cpu nav := by
  rw [plainUpMigration] at h
  rw [GuardedFrom, HmpTopology.cpuIsLast]
  grind

lemma plainDownMigration_nav (h : nav ∈ (plainDownMigration cfg tun s t p cpu).1) : GuardedFrom t .down cpu nav := by
  rw [plainDownMigration] at h
  rw [GuardedFrom, HmpTopology.cpuIsLast]
  grind

lemma bestLittleNavs_nav (h : nav ∈ bestLittleNavs tun s t p cpu) : GuardedFrom t .down cpu nav := by
  rw [bestLittleNavs] at h
  split at h
  · obtain ⟨hnav, hlast⟩ := selectNeighbourCpu_nav s h
    exact ⟨hnav, hlast rfl⟩
  · split at h
    · cases h
    next hlast => exact ⟨mem_singleton.mp h, Bool.not_eq_true _ ▸ hlast⟩

lemma plainSelectNavs_nav (h : nav ∈ plainSelectNavs cfg tun s t p cpu) :
    GuardedFrom t .up cpu nav ∨ GuardedFrom t .down cpu nav := by
  rw [plainSelectNavs] at h
  split at h
  · exact .inl (plainUpMigration_nav cfg tun s h)
  · obtain hfirst | hselect := mem_append.mp h
    · obtain hup | hdown := mem_append.mp hfirst
      · exact .inl (plainUpMigration_nav cfg tun s hup)
      · exact .inr (plainDownMigration_nav cfg tun s hdown)
    · right
      split at hselect
      · split at hselect
        · exact bestLittleNavs_nav tun s hselect
        · obtain ⟨hnav, hlast⟩ := selectNeighbourCpu_nav s hselect
          exact ⟨hnav, hlast rfl⟩
      · cases hselect

lemma offloadDownNavs_nav (h : nav ∈ offloadDownNavs s t p cpu) : GuardedFrom t .down cpu nav := by
  rw [offloadDownNavs] at h
  rw [GuardedFrom, HmpTopology.cpuIsLast]
  grind

lemma heaviestTaskNavs_nav (h : nav ∈ heaviestTaskNavs t cpu) : GuardedFrom t .up cpu nav := by
  rw [heaviestTaskNavs] at h
  rw [GuardedFrom, HmpTopology.cpuIsLast]
  grind

lemma lightestTaskNavs_nav {migrateDown : Bool} (h : nav ∈ lightestTaskNavs t migrateDown cpu) :
    GuardedFrom t .down cpu nav := by
  rw [lightestTaskNavs] at h
  rw [GuardedFrom, HmpTopology.cpuIsLast]
  grind

/-- Pulling steps down from this CPU, and up from CPUs of the list. -/
lemma idlePullNavs_nav {busy : CpuMask n} (h : nav ∈ idlePullNavs t cpu busy) :
    GuardedFrom t .down cpu nav ∨ ∃ other, (∃ d ∈ t.domains, other ∈ d.cpus) ∧ GuardedFrom t .up other nav := by
  rw [idlePullNavs] at h
  split at h
  · cases h
  next hlast =>
    obtain rfl | hpull := mem_cons.mp h
    · exact .inl ⟨rfl, Bool.not_eq_true _ ▸ hlast⟩
    · obtain ⟨other, hother, hnav⟩ := mem_flatMap.mp hpull
      refine .inr ⟨other, ?_, heaviestTaskNavs_nav hnav⟩
      have hcpus := (Finset.mem_inter.mp (of_decide_eq_true (mem_filter.mp hother).2)).1
      rw [HmpTopology.neighbourCpus] at hcpus
      cases hd : t.neighbour .down cpu with
      | none =>
        rw [hd] at hcpus
        exact absurd hcpus (Finset.notMem_empty _)
      | some d =>
        rw [hd] at hcpus
        obtain ⟨pos, -, hget⟩ := Option.bind_eq_some_iff.mp hd
        exact ⟨d, mem_of_getElem? hget, hcpus⟩

/-- A forked task steps up from where it was forked, if that is not the fastest
domain; otherwise, if at all, from the CPU that runs the code. -/
lemma selectForked_nav {build : Build} (h : nav ∈ (selectForked s t build p cpu prevCpu).1) :
    GuardedFrom t .up prevCpu nav ∨ nav = ⟨.up, cpu⟩ ∧ t.cpuIsFastest prevCpu = true ∧
    ¬ LeastLoadedAllowed s p (t.ownCpus prevCpu) := by
  rw [selectForked] at h
  split at h
  next hfastest =>
    dsimp only at h
    split at h
    · cases h
    next hleast => exact .inr ⟨mem_singleton.mp h, hfastest, hleast⟩
  next hfastest =>
    exact .inl ⟨(selectNeighbourCpu_nav s h).1, Bool.not_eq_true _ ▸ hfastest⟩

end Guards

section Calls

variable {T G : Type*} {n : Nat} {t : HmpTopology n} (cfg : Config G n) (tun : PlainTunables) (s : State T G n)

lemma selectTaskRqNavs_nav {build : Build} {boosted : Bool} {p : T} {cpu prevCpu : Fin n} {nav : Nav n}
    (h : nav ∈ selectTaskRqNavs cfg tun s t build boosted p cpu prevCpu) :
    GuardedFrom t .up prevCpu nav ∨ GuardedFrom t .down prevCpu nav ∨ nav = ⟨.up, cpu⟩ ∧ boosted = true ∧
    (s.cpusAllowed p).card ≠ 1 ∧ t.cpuIsFastest prevCpu = true ∧ ¬ LeastLoadedAllowed s p (t.ownCpus prevCpu) := by
  have hrest : nav ∈ migrationNavs cfg tun s t build p prevCpu →
      GuardedFrom t .up prevCpu nav ∨ GuardedFrom t .down prevCpu nav := by
    cases build with
    | enhanced => nofun
    | plain => exact plainSelectNavs_nav cfg tun s
  rw [selectTaskRqNavs] at h
  split at h
  · cases h
  next hcard =>
    split at h
    next hboosted =>
      have hforked : nav ∈ (selectForked s t build p cpu prevCpu).1 →
          GuardedFrom t .up prevCpu nav ∨ GuardedFrom t .down prevCpu nav ∨
            nav = ⟨.up, cpu⟩ ∧ boosted = true ∧ (s.cpusAllowed p).card ≠ 1 ∧ t.cpuIsFastest prevCpu = true ∧
              ¬ LeastLoadedAllowed s p (t.ownCpus prevCpu) := by
        intro hmem
        obtain hguarded | ⟨hnav, hfastest, hleast⟩ := selectForked_nav s hmem
        · exact .inl hguarded
        · exact .inr (.inr ⟨hnav, hboosted, hcard, hfastest, hleast⟩)
      dsimp only at h
      split at h
      · exact hforked h
      · obtain hfirst | hlater := mem_append.mp h
        · exact hforked hfirst
        · exact (hrest hlater).imp_right .inl
    · exact (hrest h).imp_right .inl

/-- The step off the list is evaluated. -/
lemma mem_selectTaskRqNavs {build : Build} {p : T} {cpu prevCpu : Fin n} (hcard : (s.cpusAllowed p).card ≠ 1)
    (hfastest : t.cpuIsFastest prevCpu = true) (hleast : ¬ LeastLoadedAllowed s p (t.ownCpus prevCpu)) :
    ⟨.up, cpu⟩ ∈ selectTaskRqNavs cfg tun s t build true p cpu prevCpu := by
  have hforked : ⟨.up, cpu⟩ ∈ (selectForked s t build p cpu prevCpu).1 := by
    rw [selectForked, if_pos hfastest, if_neg hleast]
    exact mem_singleton.mpr rfl
  rw [selectTaskRqNavs, if_neg hcard, if_pos rfl]
  dsimp only
  split
  · exact hforked
  · exact mem_append_left _ hforked

/-- A call whose CPUs have a domain steps off the list exactly if it places a boosted forked task
whose fastest domain has a least loaded CPU that is not allowed, from a CPU of the fastest domain.
-/
theorem steps_stay_in_list_iff (configMasks : Option (CpuMask n × CpuMask n)) (sets : CpuSets n)
    (caps : Capacities) (call : Call T n)
    (hcpus : ∀ cpu ∈ call.cpus, ((hmpCpuMaskSetup configMasks sets caps).cpuDomain cpu).isSome) :
    (∀ nav ∈ call.navs cfg tun s (hmpCpuMaskSetup configMasks sets caps),
        nav.Safe (hmpCpuMaskSetup configMasks sets caps)) ↔
      ¬ call.ForkOffTheList s (hmpCpuMaskSetup configMasks sets caps) := by
  have hlinked := setup_linked configMasks sets caps
  generalize hmpCpuMaskSetup configMasks sets caps = t at hcpus hlinked ⊢
  cases call with
  | selectTaskRq build boosted p cpu prevCpu =>
    have hcpu := hcpus cpu mem_cons_self
    have hprev := hcpus prevCpu (mem_cons_of_mem _ mem_cons_self)
    constructor
    · rintro hsafe ⟨rfl, hcard, hfastest, hleast, hlast⟩
      have hstep := (hsafe _ (mem_selectTaskRqNavs cfg tun s hcard hfastest hleast)).1
      rw [HmpTopology.cpuIsLast, hlast] at hstep
      cases hstep
    · intro hnot nav hnav
      obtain hup | hdown | ⟨rfl, hboosted, hcard, hfastest, hleast⟩ :=
        selectTaskRqNavs_nav cfg tun s hnav
      · exact hup.safe hlinked hprev
      · exact hdown.safe hlinked hprev
      · apply hlinked.safe hcpu
        rw [HmpTopology.cpuIsLast, ← Bool.not_eq_true]
        intro hlast
        exact hnot ⟨hboosted, hcard, hfastest, hleast, hlast⟩
  | upMigration p cpu =>
    refine iff_of_true (fun nav hnav => ?_) not_false
    exact (plainUpMigration_nav cfg tun s hnav).safe hlinked (hcpus cpu mem_cons_self)
  | heaviestTask cpu =>
    refine iff_of_true (fun nav hnav => ?_) not_false
    exact (heaviestTaskNavs_nav hnav).safe hlinked (hcpus cpu mem_cons_self)
  | lightestTask migrateDown cpu =>
    refine iff_of_true (fun nav hnav => ?_) not_false
    exact (lightestTaskNavs_nav hnav).safe hlinked (hcpus cpu mem_cons_self)
  | offloadDown p cpu =>
    refine iff_of_true (fun nav hnav => ?_) not_false
    exact (offloadDownNavs_nav s hnav).safe hlinked (hcpus cpu mem_cons_self)
  | idlePull thisCpu busy =>
    refine iff_of_true (fun nav hnav => ?_) not_false
    obtain hdown | ⟨other, ⟨d, hd, hother⟩, hup⟩ := idlePullNavs_nav hnav
    · exact hdown.safe hlinked (hcpus thisCpu mem_cons_self)
    · exact hup.safe hlinked (hlinked.hasDomain d hd other hother)

def allFour : CpuSets 4 := ⟨Finset.univ, ⟨Finset.univ, by decide⟩, by decide⟩

/-- Two Cortex-A53 and two Cortex-A57 cores with one clock frequency. -/
def fourCores : Capacities :=
  let node : Core → UInt32 → CpuNode := fun core reg =>
    { core := some core, clockFrequency := some 1500000000, reg := some reg }
  parseDtTopology 4 [node .cortexA53 0, node .cortexA53 1, node .cortexA57 0x100, node .cortexA57 0x101]

/-- Two little and two big CPUs, all idle. A task forked on a little CPU steps to the
faster domain. -/
theorem steps_stay_in_list_from_little :
    let t := hmpCpuMaskSetup none allFour fourCores
    let s : State Unit Unit 4 :=
      { taskQueue := fun _ => ⟨none, 0⟩, online := allFour.online, cpusAllowed := fun _ => {0, 1, 3} }
    let call : Call Unit 4 := .selectTaskRq .enhanced true () 0 0
    ∀ nav ∈ call.navs {} {} s t, nav.Safe t :=
  (steps_stay_in_list_iff _ _ _ none _ _ _ (by decide +kernel)).mpr fun h => absurd h.2.2.1 (by decide +kernel)

/-- On the same machine a task that may not run on CPU 2 is forked on CPU 3. CPU 2 is
the least loaded of the fastest domain, so the step is taken from CPU 3, where no
faster domain exists. -/
theorem fork_steps_off_the_list :
    let t := hmpCpuMaskSetup none allFour fourCores
    let s : State Unit Unit 4 :=
      { taskQueue := fun _ => ⟨none, 3⟩, online := allFour.online, cpusAllowed := fun _ => {0, 1, 3} }
    let call : Call Unit 4 := .selectTaskRq .enhanced true () 3 3
    call.navs {} {} s t = [⟨.up, 3⟩] ∧ t.cpuIsFastest 3 = true ∧ t.fasterDomain 3 = none := by
  decide +kernel

end Calls

end BigLittle.Topology
