import BigLittle.Lib.Scan
import BigLittle.Topology.Navigation

/-!
# Selecting a CPU of a cluster

`hmp_select_cpu` scans a mask for the CPU of least work load that is online and allowed for the
task, and prefers the previous CPU among equals. The scan starts from the first such CPU. The
global balance bypasses the CPUs that have been migrated to lately, but not as the start of the
scan.

`NR_CPUS` as a result and `-1` as the previous CPU are `none`.
-/

namespace BigLittle.Hmp

open Sched Cfs BigLittle.Topology List Word

/-- The CPUs that `for_each_cpu` visits, in its order. -/
def cpuList {n : Nat} (mask : CpuMask n) : List (Fin n) := (finRange n).filter fun cpu => cpu ∈ mask

section CpuList

variable {n : Nat} {mask : CpuMask n} {cpu : Fin n}

@[simp] lemma mem_cpuList : cpu ∈ cpuList mask ↔ cpu ∈ mask := by
  simp [cpuList]

lemma cpuList_sorted (mask : CpuMask n) : (cpuList mask).SortedLT :=
  (((sortedLT_finRange n).pairwise).filter _).sortedLT

lemma firstCpu_eq_head? (mask : CpuMask n) : firstCpu mask = (cpuList mask).head? :=
  head?_filter.symm

lemma firstCpu_eq_none_iff : firstCpu mask = none ↔ mask = ∅ := by
  rw [firstCpu_eq_head?, head?_eq_none_iff, eq_nil_iff_forall_not_mem, Finset.eq_empty_iff_forall_notMem]
  simp only [mem_cpuList]

lemma cpuList_of_firstCpu (h : firstCpu mask = some cpu) : ∃ rest, cpuList mask = cpu :: rest := by
  rw [firstCpu_eq_head?] at h
  exact ⟨_, eq_cons_of_mem_head? h⟩

lemma firstCpu_le (h : firstCpu mask = some cpu) {c : Fin n} (hc : c ∈ mask) : cpu ≤ c := by
  obtain ⟨rest, hrest⟩ := cpuList_of_firstCpu h
  have hsorted : (cpu :: rest).Pairwise (· < ·) := hrest ▸ (cpuList_sorted mask).pairwise
  obtain rfl | hmem := mem_cons.mp (hrest ▸ mem_cpuList.mpr hc)
  · exact le_rfl
  · exact ((pairwise_cons.mp hsorted).1 c hmem).le

lemma mem_of_firstCpu (h : firstCpu mask = some cpu) : cpu ∈ mask := by
  obtain ⟨rest, hrest⟩ := cpuList_of_firstCpu h
  exact mem_cpuList.mp (hrest ▸ mem_cons_self)

end CpuList

namespace State

variable {T G : Type*} {n : Nat} (cfg : Config G n) (t : HmpTopology n) (s : State T G n) (caller : Nat) (p : T)
variable (cpu : Fin n)

def hmpCpuStable : Bool :=
  if cpu ∈ t.fastMask then s.hmpUpStable cfg cpu else s.hmpDownStable cfg cpu

def cfsPendingLoad : Nat := (s.cfs ⟨none, cpu⟩).avg.pendingLoad

/-- The work load of a CPU, in the steps of the source. -/
def wload : Nat :=
  mul 64 (add 64 (add 64 (s.cfsLoad cpu) 1) (s.cfsPendingLoad cpu)) (s.rqLength cpu)

def selectStep (prev : Option (Fin n)) (best : Fin n × Nat) (curr : Fin n) : Fin n × Nat :=
  if curr ∉ s.online.cpus ∨ curr ∉ s.cpusAllowed p then best
  -- for global load balancing, unstable CPUs are bypassed
  else if callerIsGb caller && !s.hmpCpuStable cfg t curr then best
  else Scan.pick s.wload prev best curr

variable (mask : CpuMask n)

def hmpSelectCpu (prev : Option (Fin n)) : Option (Fin n) :=
  (firstCpu (s.online.cpus ∩ mask ∩ s.cpusAllowed p)).map fun target =>
    ((cpuList mask).foldl (s.selectStep cfg t caller p prev) (target, s.wload target)).1

/-- The CPUs of the mask that are online and allowed for the task. -/
def candidates : CpuMask n := s.online.cpus ∩ mask ∩ s.cpusAllowed p

def stableCandidates : CpuMask n :=
  (s.candidates p mask).filter fun cpu => s.hmpCpuStable cfg t cpu

/-- The candidates among which the global balance chooses: the stable ones, and the lowest one whether it is stable or
not. -/
def considered : CpuMask n :=
  (s.candidates p mask).filter fun cpu => s.hmpCpuStable cfg t cpu = true ∨ ∀ c ∈ s.candidates p mask, cpu ≤ c

/-- The candidates that the loop does not bypass. -/
def scanned : CpuMask n :=
  if callerIsGb caller then s.stableCandidates cfg t p mask else s.candidates p mask

lemma mem_candidates {p : T} {mask : CpuMask n} {cpu : Fin n} :
    cpu ∈ s.candidates p mask ↔ cpu ∈ mask ∧ cpu ∈ s.online.cpus ∧ cpu ∈ s.cpusAllowed p := by
  simp only [candidates, Finset.mem_inter]
  exact ⟨fun ⟨⟨honline, hmask⟩, hallowed⟩ => ⟨hmask, honline, hallowed⟩,
    fun ⟨hmask, honline, hallowed⟩ => ⟨⟨honline, hmask⟩, hallowed⟩⟩

lemma mem_stableCandidates {p : T} {mask : CpuMask n} {cpu : Fin n} :
    cpu ∈ s.stableCandidates cfg t p mask ↔
      cpu ∈ s.candidates p mask ∧ s.hmpCpuStable cfg t cpu = true := Finset.mem_filter

lemma mem_scanned {caller : Nat} {p : T} {mask : CpuMask n} {cpu : Fin n} :
    cpu ∈ s.scanned cfg t caller p mask ↔ cpu ∈ s.candidates p mask ∧
    (callerIsGb caller && !s.hmpCpuStable cfg t cpu) = false := by
  rw [scanned]
  split
  next hgb => simp [mem_stableCandidates, hgb]
  next hgb => simp [hgb]

/-- The loop is a scan of the CPUs that are not passed over. -/
lemma foldl_selectStep (caller : Nat) (p : T) (mask : CpuMask n) (prev : Option (Fin n)) (best : Fin n × Nat) :
    (cpuList mask).foldl (s.selectStep cfg t caller p prev) best =
    (cpuList (s.scanned cfg t caller p mask)).foldl (Scan.pick s.wload prev) best := by
  have hstep : ∀ (best : Fin n × Nat) (curr : Fin n),
      (if curr ∈ mask then s.selectStep cfg t caller p prev best curr else best) =
        if curr ∈ s.scanned cfg t caller p mask then Scan.pick s.wload prev best curr else best := by
    intro best curr
    simp only [mem_scanned, mem_candidates, selectStep]
    grind
  simp only [cpuList, foldl_filter, decide_eq_true_eq, hstep]

lemma hmpSelectCpu_eq (caller : Nat) (p : T) (mask : CpuMask n) (prev : Option (Fin n)) :
    s.hmpSelectCpu cfg t caller p mask prev = (firstCpu (s.candidates p mask)).map fun target =>
        Scan.least s.wload prev target (cpuList (s.scanned cfg t caller p mask)) := by
  simp only [hmpSelectCpu, foldl_selectStep]
  rfl

end State

/-- A CPU of least weight among the candidates: the previous CPU if it is one of these, and the lowest
of them otherwise. -/
structure Selects {n : Nat} (w : Fin n → Nat) (candidates : CpuMask n) (prev : Option (Fin n))
    (cpu : Fin n) : Prop where
  mem : cpu ∈ candidates
  least : ∀ c ∈ candidates, w cpu ≤ w c
  prevWins : ∀ c ∈ candidates, prev = some c → w c = w cpu → cpu = c
  lowest : prev ≠ some cpu → ∀ c ∈ candidates, w c = w cpu → cpu ≤ c

lemma selects_of_finds {n : Nat} {w : Fin n → Nat} {mask : CpuMask n} {prev : Option (Fin n)}
    {cpu : Fin n} (h : Scan.Finds w prev (cpuList mask) cpu) : Selects w mask prev cpu where
  mem := mem_cpuList.mp h.mem
  least := fun c hc => h.le c (mem_cpuList.mpr hc)
  prevWins := fun c hc hprev heq => h.tie c (mem_cpuList.mpr hc) hprev heq.le
  lowest := fun hnot _ hc heq => h.lowest (cpuList_sorted mask).sortedLE hnot (mem_cpuList.mpr hc) heq.le

lemma Selects.unique {n : Nat} {w : Fin n → Nat} {mask : CpuMask n} {cpu other : Fin n}
    (h : Selects w mask none cpu) (h' : Selects w mask none other) : cpu = other := by
  have hw : w cpu = w other := le_antisymm (h.least other h'.mem) (h'.least cpu h.mem)
  exact le_antisymm (h.lowest nofun other h'.mem hw.symm) (h'.lowest nofun cpu h.mem hw)

/-- The work load, as one expression. -/
def workLoad {T G : Type*} {n : Nat} (s : State T G n) (cpu : Fin n) : Nat :=
  (s.cfsLoad cpu + 1 + s.cfsPendingLoad cpu) * s.rqLength cpu % 2 ^ 64

section Selection

variable {T G : Type*} {n : Nat} (cfg : Config G n) (t : HmpTopology n) (s : State T G n)
variable {caller : Nat} {p : T} {mask : CpuMask n} {prev : Option (Fin n)}

lemma wload_eq_workLoad : s.wload = workLoad s := by
  funext cpu
  rw [State.wload, workLoad, mul, add, add, wrap, wrap, wrap,
    Nat.mod_add_mod, Nat.mod_mul_mod]

lemma hmpSelectCpu_eq_none_iff : s.hmpSelectCpu cfg t caller p mask prev = none ↔ s.candidates p mask = ∅ := by
  rw [State.hmpSelectCpu_eq, Option.map_eq_none_iff, firstCpu_eq_none_iff]

lemma not_nonempty_of_none (h : s.hmpSelectCpu cfg t caller p mask prev = none) : ¬ (s.candidates p mask).Nonempty :=
  Finset.not_nonempty_iff_eq_empty.mpr ((hmpSelectCpu_eq_none_iff cfg t s).mp h)

/-- Without bypassing, the start of the scan is the first CPU that it visits. -/
lemma selects_of_not_gb (hcaller : caller ≠ hmpGb) {cpu : Fin n}
    (h : s.hmpSelectCpu cfg t caller p mask prev = some cpu) : Selects s.wload (s.candidates p mask) prev cpu := by
  have hscanned : s.scanned cfg t caller p mask = s.candidates p mask := by
    rw [State.scanned, callerIsGb, decide_eq_false hcaller.symm]
    rfl
  rw [State.hmpSelectCpu_eq, Option.map_eq_some_iff, hscanned] at h
  obtain ⟨target, htarget, rfl⟩ := h
  obtain ⟨rest, hrest⟩ := cpuList_of_firstCpu htarget
  apply selects_of_finds
  rw [hrest, Scan.least_cons_self]
  exact Scan.least_finds target rest

/-- For every caller but the global balance no CPU is found exactly if there is no candidate, and
the CPU found is the least loaded one. -/
theorem hmpSelectCpu_least (hcaller : caller ≠ hmpGb) :
    (s.hmpSelectCpu cfg t caller p mask prev = none ↔ ∀ cpu ∈ mask, cpu ∈ s.online.cpus → cpu ∉ s.cpusAllowed p) ∧
    ∀ cpu, s.hmpSelectCpu cfg t caller p mask prev = some cpu →
    Selects (workLoad s) (s.candidates p mask) prev cpu := by
  constructor
  · rw [hmpSelectCpu_eq_none_iff, Finset.eq_empty_iff_forall_notMem]
    simp only [State.mem_candidates, not_and]
  · intro cpu hcpu
    rw [← wload_eq_workLoad]
    exact selects_of_not_gb cfg t s hcaller hcpu

/-- Two little and two big CPUs. -/
def twoAndTwo : HmpTopology 4 := { fastMask := {2, 3}, slowMask := {0, 1} }

/-- Four CPUs with two tasks each, and CPUs 1 to 3 allowed. The last two have half the load of the
other ones; the task stays on CPU 3. -/
theorem hmpSelectCpu_least_four_cpus :
    let s : State Unit Unit 4 :=
      { taskQueue := fun _ => ⟨none, 3⟩
        cfs := fun q => { avg := { loadAvgRatio := if q.cpu < 2 then 600 else 300 } }
        rq := fun _ => { nrRunning := 2 }, online := allFour.online
        cpusAllowed := fun _ => {1, 2, 3} }
    s.hmpSelectCpu {} twoAndTwo hmpSelectRq () Finset.univ (some 3) = some 3 ∧
      Selects (workLoad s) (s.candidates () Finset.univ) (some 3) 3 := by
  intro s
  have hselected : s.hmpSelectCpu {} twoAndTwo hmpSelectRq () Finset.univ (some 3) = some 3 := by decide +kernel
  exact ⟨hselected, (hmpSelectCpu_least _ _ s (by decide)).2 3 hselected⟩

/-- What the global balance is to get: the least loaded of the stable candidates, if there is one. -/
structure SelectsStable (p : T) (mask : CpuMask n) (result : Option (Fin n)) : Prop where
  none_iff : result = none ↔ s.stableCandidates cfg t p mask = ∅
  least : ∀ cpu, result = some cpu → cpu ∈ s.stableCandidates cfg t p mask ∧
    ∀ c ∈ s.stableCandidates cfg t p mask, s.wload cpu ≤ s.wload c

/-- The start of the scan is stable, or a stable candidate displaces it. -/
def StartGivesWay (p : T) (mask : CpuMask n) (prev : Option (Fin n)) : Prop :=
  ∀ first, firstCpu (s.candidates p mask) = some first → s.hmpCpuStable cfg t first = true ∨
      ∃ c ∈ s.stableCandidates cfg t p mask, s.wload c < s.wload first ∨ s.wload c = s.wload first ∧ prev = some c
  deriving Decidable

lemma hmpSelectCpu_gb : s.hmpSelectCpu cfg t hmpGb p mask prev = (firstCpu (s.candidates p mask)).map fun first =>
      Scan.least s.wload prev first (cpuList (s.stableCandidates cfg t p mask)) :=
  s.hmpSelectCpu_eq cfg t hmpGb p mask prev

/-- Without a previous CPU the global balance gets the least loaded one that is considered, and of several the
lowest. -/
lemma hmpSelectCpu_gb_eq_some_iff {cpu : Fin n} : s.hmpSelectCpu cfg t hmpGb p mask none = some cpu ↔
    Selects s.wload (s.considered cfg t p mask) none cpu := by
  rw [hmpSelectCpu_gb]
  cases hfirst : firstCpu (s.candidates p mask) with
  | none =>
    refine iff_of_false nofun fun h => ?_
    have hmem := (Finset.mem_filter.mp h.mem).1
    rw [firstCpu_eq_none_iff.mp hfirst] at hmem
    exact Finset.notMem_empty cpu hmem
  | some first =>
    have hmem : ∀ c, c ∈ first :: cpuList (s.stableCandidates cfg t p mask) ↔ c ∈ s.considered cfg t p mask := by
      intro c
      rw [mem_cons, mem_cpuList, s.mem_stableCandidates, State.considered, Finset.mem_filter]
      constructor
      · rintro (rfl | ⟨hc, hstable⟩)
        · exact ⟨mem_of_firstCpu hfirst, .inr fun _ hd => firstCpu_le hfirst hd⟩
        · exact ⟨hc, .inl hstable⟩
      · rintro ⟨hc, hstable | hlowest⟩
        · exact .inr ⟨hc, hstable⟩
        · exact .inl (le_antisymm (hlowest first (mem_of_firstCpu hfirst)) (firstCpu_le hfirst hc))
    have hsorted : (first :: cpuList (s.stableCandidates cfg t p mask)).SortedLE :=
      sortedLE_iff_pairwise.mpr (pairwise_cons.mpr
        ⟨fun c hc => firstCpu_le hfirst ((s.mem_stableCandidates cfg t).mp (mem_cpuList.mp hc)).1,
          (cpuList_sorted _).sortedLE.pairwise⟩)
    have hfinds : Scan.Finds s.wload none (first :: cpuList (s.stableCandidates cfg t p mask)) _ :=
      Scan.least_finds first _
    have hselects : Selects s.wload (s.considered cfg t p mask) none _ :=
      ⟨(hmem _).mp hfinds.mem, fun c hc => hfinds.le c ((hmem c).mpr hc), fun _ _ hnone => (nomatch hnone),
        fun hnot c hc heq => hfinds.lowest hsorted hnot ((hmem c).mpr hc) heq.le⟩
    rw [Option.map_some, Option.some.injEq]
    exact ⟨fun h => h ▸ hselects, hselects.unique⟩

/-- The scan ends with a stable candidate exactly if its start gives way. -/
lemma startGivesWay_iff {first : Fin n} (hfirst : firstCpu (s.candidates p mask) = some first) :
    StartGivesWay cfg t s p mask prev ↔ Scan.least s.wload prev first (cpuList (s.stableCandidates cfg t p mask)) ∈
    s.stableCandidates cfg t p mask := by
  have hmem : first ∈ s.candidates p mask := mem_of_firstCpu hfirst
  rw [← mem_cpuList, Scan.least_mem_iff, mem_cpuList, s.mem_stableCandidates cfg t, and_iff_right hmem]
  simp only [mem_cpuList]
  constructor
  · intro h
    exact h first hfirst
  · intro h c hc
    rwa [← Option.some.inj (hfirst.symm.trans hc)]

/-- For every affinity, all loads and all migration times, the global balance gets what it asks for
exactly if the first candidate is stable or gives way to a stable one. -/
theorem hmpSelectCpu_stable_iff : SelectsStable cfg t s p mask (s.hmpSelectCpu cfg t hmpGb p mask prev) ↔
    StartGivesWay cfg t s p mask prev := by
  rw [hmpSelectCpu_gb]
  cases hfirst : firstCpu (s.candidates p mask) with
  | none =>
    have hempty : s.stableCandidates cfg t p mask = ∅ := by
      rw [State.stableCandidates, firstCpu_eq_none_iff.mp hfirst, Finset.filter_empty]
    exact iff_of_true ⟨iff_of_true rfl hempty, nofun⟩ fun first h => nomatch hfirst.symm.trans h
  | some first =>
    rw [startGivesWay_iff cfg t s hfirst, Option.map_some]
    constructor
    · intro h
      exact (h.least _ rfl).1
    · intro hmem
      refine ⟨iff_of_false nofun (Finset.ne_empty_of_mem hmem), ?_⟩
      rintro _ ⟨⟩
      refine ⟨hmem, fun c hc => ?_⟩
      exact (Scan.least_finds first _).le c (mem_cons_of_mem _ (mem_cpuList.mpr hc))

/-- Two idle big CPUs, neither migrated to lately: the first one is stable and is selected. -/
theorem hmpSelectCpu_stable_quiet :
    let s : State Unit Unit 4 :=
      { taskQueue := fun _ => ⟨none, 0⟩, rq := fun _ => { clockTask := 10000000000 }, online := allFour.online }
    SelectsStable {} twoAndTwo s () {2, 3} (s.hmpSelectCpu {} twoAndTwo hmpGb () {2, 3} none) :=
  (hmpSelectCpu_stable_iff _ _ _).mpr (by decide +kernel)

/-- One millisecond after boot no big CPU is stable yet, and the first of the two is selected all the same. -/
theorem hmpSelectCpu_unstable_start :
    let s : State Unit Unit 4 :=
      { taskQueue := fun _ => ⟨none, 0⟩, rq := fun _ => { clockTask := 1000000 }, online := allFour.online }
    s.stableCandidates {} twoAndTwo () {2, 3} = ∅ ∧ s.hmpSelectCpu {} twoAndTwo hmpGb () {2, 3} none = some 2 := by
  decide +kernel

/-- A heavy task runs on `cpu`, and nothing else. -/
def heavyOn (cpu : Fin 4) (online : OnlineMask 4) : State Unit Unit 4 where
  taskQueue _ := ⟨none, cpu⟩
  se _ := { avg := { loadAvgRatio := 900 } }
  rq c := { clockTask := 10000000000, nrRunning := if c = cpu then 1 else 0 }
  online := online

end Selection

end BigLittle.Hmp
