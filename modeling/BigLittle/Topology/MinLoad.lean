import BigLittle.Lib.Scan
import BigLittle.Cfs.Stamps
import BigLittle.Hmp.Cooldown
import BigLittle.Topology.Navigation

/-!
# The least loaded CPU of a domain

`hmp_domain_min_load` scans the CPUs of a domain for the one with the least load, which is 0 or 1023,
and of those the one that was disturbed by an HMP migration the longest time ago.

Of the two migration times of a CPU at most one is set, since noting a migration clears the time of
the opposite direction. A journal notes the time of the last migration of each CPU, in whichever
direction.
-/

namespace BigLittle.Topology

open Sched Cfs Hmp

variable {T G : Type*} {n : Nat}

section Scan

variable (s : Hmp.State T G n)

/-- A CPU with any load at all counts as completely busy. -/
def busyFlag (cpu : Fin n) : Nat := if (s.rq cpu).avg.loadAvgRatio ≠ 0 then 1023 else 0

/-- `curr_last_migration` -/
def lastDisturbed (cpu : Fin n) : Nat :=
  if (s.stamps cpu).1 ≠ 0 then (s.stamps cpu).1 else (s.stamps cpu).2

/-- What the scan notes of a CPU. -/
def minLoadOf (cpu : Fin n) : MinLoad n := ⟨busyFlag s cpu, some cpu, lastDisturbed s cpu⟩

/-- What the scan compares. -/
def disturbance (cpu : Fin n) : Nat ×ₗ Nat := toLex (busyFlag s cpu, lastDisturbed s cpu)

lemma busyFlag_le (cpu : Fin n) : busyFlag s cpu ≤ 1023 := by
  rw [busyFlag]
  split
  · exact le_rfl
  · exact Nat.zero_le _

lemma minLoadStep_eq (best : MinLoad n) (cpu : Fin n) : minLoadStep s best cpu =
      if busyFlag s cpu < best.load ∨ busyFlag s cpu = best.load ∧ lastDisturbed s cpu < best.lastMigration
      then minLoadOf s cpu else best := rfl

lemma minLoadStep_start (cpu : Fin n) : minLoadStep s {} cpu = minLoadOf s cpu := by
  have hflag := busyFlag_le s cpu
  rw [minLoadStep_eq, if_pos (.inl (by dsimp only; omega))]

lemma minLoadStep_minLoadOf (best cpu : Fin n) : minLoadStep s (minLoadOf s best) cpu =
    minLoadOf s (Scan.pick (disturbance s) none (best, disturbance s best) cpu).1 := by
  have hlt : disturbance s cpu < disturbance s best ↔ busyFlag s cpu < busyFlag s best ∨
      busyFlag s cpu = busyFlag s best ∧ lastDisturbed s cpu < lastDisturbed s best :=
    Prod.Lex.toLex_lt_toLex
  rw [minLoadStep_eq, Scan.pick_eq]
  have hkey : Scan.key (disturbance s) none cpu < Scan.key (disturbance s) none best ↔
      disturbance s cpu < disturbance s best := by
    rw [Scan.key_lt_iff]
    exact or_iff_left (by rintro ⟨-, ⟨⟩, -⟩)
  rw [if_congr hkey rfl rfl]
  refine (if_congr hlt.symm rfl rfl).trans ?_
  split <;> rfl

/-- From the first CPU on, the loop is a scan. -/
lemma foldl_minLoadStep (first : Fin n) (rest : List (Fin n)) :
    (first :: rest).foldl (minLoadStep s) {} = minLoadOf s (Scan.least (disturbance s) none first rest) := by
  rw [List.foldl_cons, minLoadStep_start, Scan.least]
  induction rest generalizing first with
  | nil => rfl
  | cons cpu rest ih =>
    rw [List.foldl_cons, List.foldl_cons, minLoadStep_minLoadOf, ih, Scan.pick_eq]
    split <;> rfl

end Scan

section Reports

variable (s : Hmp.State T G n) (time : Fin n → Nat)

/-- The order of the CPUs: the busy flag, the time of the last migration, the CPU number. -/
def rank (cpu : Fin n) : Nat ×ₗ Nat ×ₗ Fin n := toLex (busyFlag s cpu, toLex (time cpu, cpu))

/-- No CPU is reported exactly if there is none; otherwise the least one, with its busy flag. -/
structure Reports (mask : CpuMask n) (r : MinLoad n) : Prop where
  none_iff : r.cpu = none ↔ mask = ∅
  mem : ∀ cpu, r.cpu = some cpu → cpu ∈ mask
  least : ∀ cpu, r.cpu = some cpu → ∀ other ∈ mask, rank s time cpu ≤ rank s time other
  load : ∀ cpu, r.cpu = some cpu → r.load = busyFlag s cpu

variable {s time}

lemma reports_minLoadOf {mask : CpuMask n} {l : List (Fin n)} {cpu : Fin n}
    (hl : ∀ c, c ∈ l ↔ c ∈ mask) (sorted : l.SortedLT)
    (h : Scan.Finds (disturbance s) none l cpu) : Reports s (lastDisturbed s) mask (minLoadOf s cpu) where
  none_iff := iff_of_false nofun (Finset.ne_empty_of_mem ((hl cpu).mp h.mem))
  mem := by
    rintro _ ⟨⟩
    exact (hl cpu).mp h.mem
  least := by
    rintro _ ⟨⟩ other hother
    have hle : busyFlag s cpu < busyFlag s other ∨ busyFlag s cpu = busyFlag s other ∧
        lastDisturbed s cpu ≤ lastDisturbed s other :=
      Prod.Lex.toLex_le_toLex.mp (h.le other ((hl other).mpr hother))
    rw [rank, rank, Prod.Lex.toLex_le_toLex, Prod.Lex.toLex_le_toLex]
    refine hle.imp_right fun ⟨hflag, htime⟩ => ⟨hflag, htime.lt_or_eq.imp_right fun hsame => ⟨hsame, ?_⟩⟩
    -- the same weight, so the scan has stayed with the first
    have hweight : disturbance s other = disturbance s cpu :=
      congrArg toLex (Prod.ext hflag.symm hsame.symm)
    exact h.lowest sorted.sortedLE nofun ((hl other).mpr hother) hweight.le
  load := by
    rintro _ ⟨⟩
    rfl

lemma hmpDomainMinLoad_reports (cpus : CpuMask n) (affinity : Option (CpuMask n)) :
    Reports s (lastDisturbed s) (cpus ∩ affinity.getD s.online.cpus) (hmpDomainMinLoad s cpus affinity) := by
  rw [hmpDomainMinLoad]
  generalize cpus ∩ affinity.getD s.online.cpus = mask
  have hmem : ∀ c, c ∈ (List.finRange n).filter (· ∈ mask) ↔ c ∈ mask := by simp
  have hsorted : ((List.finRange n).filter (· ∈ mask)).SortedLT :=
    (List.sortedLT_finRange n).pairwise.filter _ |>.sortedLT
  cases hlist : (List.finRange n).filter (· ∈ mask) with
  | nil =>
    have hempty : mask = ∅ := by
      refine Finset.eq_empty_of_forall_notMem fun c hc => ?_
      have := (hmem c).mpr hc
      rw [hlist] at this
      exact nomatch this
    exact ⟨iff_of_true rfl hempty, nofun, nofun, nofun⟩
  | cons first rest =>
    rw [hlist] at hmem hsorted
    rw [foldl_minLoadStep]
    exact reports_minLoadOf hmem hsorted (Scan.least_finds first rest)

end Reports

section Idlest

variable (s : Hmp.State T G n)

/-- Of the idle CPUs of a mask the one that was disturbed the longest time ago, and of several the lowest. -/
structure Idlest (mask : CpuMask n) (cpu : Fin n) : Prop where
  mem : cpu ∈ mask
  idle : (s.rq cpu).avg.loadAvgRatio = 0
  first : ∀ other ∈ mask, (s.rq other).avg.loadAvgRatio = 0 →
    lastDisturbed s cpu < lastDisturbed s other ∨ lastDisturbed s cpu = lastDisturbed s other ∧ cpu ≤ other

variable {s} {mask : CpuMask n} {cpu : Fin n}

lemma busyFlag_eq_zero_iff : busyFlag s cpu = 0 ↔ (s.rq cpu).avg.loadAvgRatio = 0 := by
  simp [busyFlag]

lemma Idlest.unique {other : Fin n} (h : Idlest s mask cpu) (h' : Idlest s mask other) : cpu = other := by
  have := h.first other h'.mem h'.idle
  have := h'.first cpu h.mem h.idle
  omega

lemma exists_idlest (hmem : cpu ∈ mask) (hidle : (s.rq cpu).avg.loadAvgRatio = 0) : ∃ c, Idlest s mask c := by
  obtain ⟨c, hc, hleast⟩ := (mask.filter fun c => (s.rq c).avg.loadAvgRatio = 0).exists_min_image
    (fun c => toLex (lastDisturbed s c, c)) ⟨cpu, Finset.mem_filter.mpr ⟨hmem, hidle⟩⟩
  obtain ⟨hcmem, hcidle⟩ := Finset.mem_filter.mp hc
  exact ⟨c, hcmem, hcidle, fun other hother hidle =>
    Prod.Lex.toLex_le_toLex.mp (hleast other (Finset.mem_filter.mpr ⟨hother, hidle⟩))⟩

/-- A least load of 0 is reported for the idlest CPU. -/
lemma hmpDomainMinLoad_idle_iff {cpus : CpuMask n} {affinity : Option (CpuMask n)} :
    (hmpDomainMinLoad s cpus affinity).load = 0 ∧ (hmpDomainMinLoad s cpus affinity).cpu = some cpu ↔
      Idlest s (cpus ∩ affinity.getD s.online.cpus) cpu := by
  have hreports := hmpDomainMinLoad_reports (s := s) cpus affinity
  have hidlest : ∀ c, (hmpDomainMinLoad s cpus affinity).load = 0 → (hmpDomainMinLoad s cpus affinity).cpu = some c →
      Idlest s (cpus ∩ affinity.getD s.online.cpus) c := by
    intro c hload hc
    have hflag : busyFlag s c = 0 := (hreports.load c hc).symm.trans hload
    refine ⟨hreports.mem c hc, busyFlag_eq_zero_iff.mp hflag, fun other hother hidle => ?_⟩
    have hrank := Prod.Lex.toLex_le_toLex.mp (hreports.least c hc other hother)
    rw [hflag, busyFlag_eq_zero_iff.mpr hidle] at hrank
    exact Prod.Lex.toLex_le_toLex.mp (hrank.resolve_left (lt_irrefl 0)).2
  refine ⟨fun h => hidlest cpu h.1 h.2, fun h => ?_⟩
  obtain ⟨c, hc⟩ := Option.ne_none_iff_exists'.mp (mt hreports.none_iff.mp (Finset.ne_empty_of_mem h.mem))
  have hload : (hmpDomainMinLoad s cpus affinity).load = 0 := by
    have hrank := Prod.Lex.toLex_le_toLex.mp (hreports.least c hc cpu h.mem)
    rw [busyFlag_eq_zero_iff.mpr h.idle] at hrank
    exact (hreports.load c hc).trans (hrank.elim (absurd · (Nat.not_lt_zero _)) And.left)
  exact ⟨hload, by rw [hc, (hidlest c hload hc).unique h]⟩

end Idlest

/-- The scheduler and the time of the last HMP migration that was noted for each CPU. -/
structure Journal (T G : Type*) (n : Nat) where
  state : Hmp.State T G n
  lastNoted : Fin n → Option Nat

namespace Journal

variable (j : Journal T G n)

/-- The time of the last migration; 0 as long as there is none. -/
def time (cpu : Fin n) : Nat := (j.lastNoted cpu).getD 0

/-- One of the two times of each CPU is that of its last migration, and the other is not set. -/
def Matches : Prop :=
  ∀ cpu, j.state.stamps cpu = (j.time cpu, 0) ∨ j.state.stamps cpu = (0, j.time cpu)

variable {j}

lemma Matches.lastDisturbed_eq (h : j.Matches) : lastDisturbed j.state = j.time := by
  funext cpu
  rw [lastDisturbed]
  obtain hcpu | hcpu := h cpu <;> rw [hcpu]
  · split
    · rfl
    next hzero => exact (not_not.mp hzero).symm
  · rfl

lemma Matches.of_stamps {j' : Journal T G n} (h : j.Matches)
    (hstamps : j'.state.stamps = j.state.stamps) (htime : j'.lastNoted = j.lastNoted) : j'.Matches := by
  intro cpu
  rw [hstamps, time, htime]
  exact h cpu

variable [DecidableEq G] {cfg : Hmp.Config G n}

lemma attempt_stamps (s : Hmp.State T G n) (a : Attempt T n) : (s.attempt cfg a).1.stamps = s.stamps := by
  obtain ⟨direction, cpu, target, task, env⟩ := a
  cases direction with
  | up => exact congrArg Cfs.State.stamps (countForced_toState s _ _ _)
  | down =>
    refine (congrArg Cfs.State.stamps (countForced_toState _ _ _ _)).trans ?_
    split
    · rfl
    · rfl

variable [DecidableEq T]

def step (cfg : Hmp.Config G n) (j : Journal T G n) (op : Hmp.Op T G n) : Journal T G n where
  state := j.state.step cfg op
  lastNoted := match op with
    | .forced _ _ cpu =>
      Function.update j.lastNoted cpu (some (j.state.rq j.state.online.first).clockTask)
    | _ => j.lastNoted

lemma hmpNextDelay_stamps (s : Hmp.State T G n) (d : Direction) (p : T) (cpu : Fin n) :
    (s.hmpNextDelay d p cpu).stamps =
    Function.update s.stamps cpu (migrationTimes (noteMigration d (s.rq s.online.first).clockTask (s.rq cpu).avg)) :=
  Function.comp_update (fun r : Rq => migrationTimes r.avg) s.rq cpu _

lemma step_forced_time (d : Direction) (p : T) (cpu : Fin n) :
    (j.step cfg (.forced d p cpu)).time = Function.update j.time cpu (j.state.rq j.state.online.first).clockTask :=
  Function.comp_update (fun noted : Option Nat => noted.getD 0) j.lastNoted cpu _

lemma Matches.forced (h : j.Matches) (d : Direction) (p : T) (cpu : Fin n) :
    (j.step cfg (.forced d p cpu)).Matches := by
  intro other
  have hstamps : (j.step cfg (.forced d p cpu)).state.stamps = _ := hmpNextDelay_stamps j.state d p cpu
  rw [hstamps, step_forced_time]
  by_cases hother : other = cpu
  · rw [hother, Function.update_self, Function.update_self]
    cases d with
    | up => exact .inl rfl
    | down => exact .inr rfl
  · rw [Function.update_of_ne hother, Function.update_of_ne hother]
    exact h other

lemma Matches.step (h : j.Matches) (op : Hmp.Op T G n) : (j.step cfg op).Matches := by
  cases op with
  | fair op => exact h.of_stamps (classStep_stamps cfg.toConfig j.state.toState op) rfl
  | select p cpu | affinity p mask | hotplug online => exact h.of_stamps rfl rfl
  | check a => exact h.of_stamps (attempt_stamps j.state a) rfl
  | forced d p cpu => exact h.forced d p cpu

end Journal

variable [DecidableEq T] [DecidableEq G]

/-- From a state in which no migration has been noted, for every domain and mask,
`hmp_domain_min_load` reports the least CPU of the domain in the mask. -/
theorem minLoad_always_reports (cfg : Hmp.Config G n) {s : Hmp.State T G n}
    (hs : ∀ cpu, s.stamps cpu = (0, 0)) (ops : List (Hmp.Op T G n)) :
    Run.Always (Journal.step cfg) (fun j => ∀ cpus affinity,
        Reports j.state j.time (cpus ∩ affinity.getD j.state.online.cpus)
          (hmpDomainMinLoad j.state cpus affinity)) ⟨s, fun _ => none⟩ ops := by
  have hmatches : Run.Always (Journal.step cfg) Journal.Matches ⟨s, fun _ => none⟩ ops :=
    Run.always_of_step (fun _ op h => h.step op) fun cpu => .inl (hs cpu)
  refine hmatches.mono fun j hj cpus affinity => ?_
  rw [← hj.lastDisturbed_eq]
  exact hmpDomainMinLoad_reports cpus affinity

/-- A task is forced up to CPU 1 of the idle CPUs 1 and 2: from then on CPU 2 is reported. -/
theorem minLoad_reports_undisturbed :
    let cfg : Hmp.Config Unit 3 := {}
    let start : Hmp.State Bool Unit 3 :=
      { toState := .boot { taskQueue := fun _ => ⟨none, 0⟩ }
        online := ⟨{0, 1, 2}, by decide⟩ }
    let ops : List (Hmp.Op Bool Unit 3) := [.fair (.clock 0 1000), .forced .up true 1]
    let j := ops.foldl (Journal.step cfg) ⟨start, fun _ => none⟩
    (∀ cpus affinity, Reports j.state j.time (cpus ∩ affinity.getD j.state.online.cpus)
        (hmpDomainMinLoad j.state cpus affinity)) ∧
      (hmpDomainMinLoad j.state {1, 2} none).cpu = some 2 := by
  intro cfg start ops j
  exact ⟨(minLoad_always_reports cfg (fun _ => rfl) ops).last, by decide +kernel⟩

end BigLittle.Topology
