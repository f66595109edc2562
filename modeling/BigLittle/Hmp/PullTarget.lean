import BigLittle.Hmp.Force
import BigLittle.Hmp.SelectTaskRq

/-!
# Where an idle CPU pulls to

`hmp_idle_pull` of the enhanced build visits the little CPUs and starts a forced migration for each
one with a task that is to go up. Every round selects its own big CPU for the task, and begins by
resetting the flag that is returned; the argument `this_cpu` is not read.

A `Scene` is what a round sees under the run-queue lock. A migration that has been dispatched goes
to `push_cpu` of its run queue, which `__do_active_load_balance_cpu_stop` reads.
-/

namespace BigLittle.Hmp

open Sched Cfs BigLittle.Topology List

structure Scene (T G : Type*) (n : Nat) where
  state : State T G n
  /-- the task below `cfs.curr` -/
  curr : Option T
  /-- `PA_ENABLE && LB_ENABLE && is_light_task(p) && !is_buddy_busy(..)` -/
  light : Bool := false
  activeBalance : Bool := false
  /-- `cpu_park` -/
  parked : Bool := false
  /-- `p->state == TASK_DEAD` -/
  dead : Bool := false
  /-- `stop_one_cpu_dispatch` finds the stopper disabled -/
  dispatchFails : Bool := false

section Rounds

variable {T G : Type*} {n : Nat} (cfg : Config G n) (pf : Platform n) (t : HmpTopology n)

namespace Scene

variable (v : Scene T G n)

/-- `hmp_select_cpu(HMP_GB, p, &hmp_fast_cpu_mask, -1)` -/
def target : Option (Fin n) :=
  v.curr.bind fun p => v.state.hmpSelectCpu cfg t hmpGb p t.fastMask none

/-- `hmp_up_migration(curr_cpu, &target_cpu, se, &clbenv)` -/
def approved (cpu : Fin n) : Bool :=
  match v.curr, v.target cfg t with
  | some p, some target =>
    (v.state.hmpUpMigration cfg cpu target p (v.state.clbEnv pf t hmpGb target cpu)).2.mcheck.result
  | _, _ => false

/-- What the checks of the round for `cpu` find. -/
def probe (cpu : Fin n) : Probe T n where
  cpu := cpu
  online := decide (cpu ∈ v.state.online.cpus)
  curr := v.curr
  target := v.target cfg t
  light := v.light
  avoided := (v.target cfg t).filter fun pushCpu => pushCpu ∈ t.fastMask
  activeBalance := v.activeBalance
  approved := v.approved cfg pf t cpu
  parked := v.parked
  dead := v.dead
  dispatchFails := v.dispatchFails

/-- The checks of the round for `cpu` pass if `target` is selected for its running task `p`. -/
structure Ready (cpu : Fin n) (p : T) (target : Fin n) : Prop where
  online : cpu ∈ v.state.online.cpus
  curr : v.curr = some p
  heavy : v.light = false
  free : v.activeBalance = false
  up : (v.state.hmpUpMigration cfg cpu target p (v.state.clbEnv pf t hmpGb target cpu)).2.mcheck.result = true
  running : v.parked = false
  alive : v.dead = false
  stopper : v.dispatchFails = false

/-- The checks pass for `target`, and of the big CPUs that are considered for the task it has the least work load, or
the lowest number among several. -/
def Sends (cpu target : Fin n) : Prop :=
  ∃ p, v.Ready cfg pf t cpu p target ∧ Selects v.state.wload (v.state.considered cfg t p t.fastMask) none target

end Scene

/-- `force` after the round. -/
def Probe.force (force : Bool) (p : Probe T n) : Bool :=
  match p.decision false .idlePull with
  -- an offline CPU is passed over before the flag is reset
  | .offline => force
  | .launch _ _ => !p.dispatchFails
  | _ => false

def idlePullResult (trylock : Bool) (slow : List (Probe T n)) : Bool :=
  trylock && slow.foldl Probe.force false

/-- The rounds of `hmp_idle_pull`, each with the scene it sees. -/
def pullRounds (scene : Fin n → Scene T G n) : List (Probe T n) :=
  (cpuList t.slowMask).map fun cpu => (scene cpu).probe cfg pf t cpu

end Rounds

section Dispatch

variable {T : Type*} {n : Nat}

structure Dispatched (n : Nat) where
  source : Fin n
  destination : Option (Fin n)
deriving DecidableEq

/-- The migrations that a trace dispatches, from the values of `push_cpu` before it. -/
def dispatched : (Fin n → Option (Fin n)) → List (TraceEvent T n) → List (Dispatched n)
  | _, [] => []
  | pushCpu, .act (.setActiveBalance cpu target _) :: rest =>
    dispatched (Function.update pushCpu cpu (some target)) rest
  | pushCpu, .act (.dispatch cpu true) :: rest => ⟨cpu, pushCpu cpu⟩ :: dispatched pushCpu rest
  | pushCpu, _ :: rest => dispatched pushCpu rest

/-- Where the round sends its task, if it dispatches a migration. -/
def Probe.pullsTo (p : Probe T n) : Option (Fin n) :=
  match p.decision false .idlePull with
  | .launch _ target => if p.dispatchFails then none else some target
  | _ => none

/-- The round of the last little CPU that is online. -/
def lastRound (slow : List (Probe T n)) : Option (Probe T n) :=
  (slow.filter fun p => p.online).getLast?

/-- What an idle CPU asks for: everything that is dispatched comes to it, and the result tells whether
anything is. -/
structure PullsHere (thisCpu : Fin n) (migrations : List (Dispatched n)) (result : Bool) : Prop where
  destination : ∀ m ∈ migrations, m.destination = some thisCpu
  result_iff : result = true ↔ migrations ≠ []

/-- A round dispatches at most one migration, to the CPU it has just written to `push_cpu`. -/
lemma dispatched_round (p : Probe T n) (pushCpu : Fin n → Option (Fin n)) (rest : List (TraceEvent T n)) :
    ∃ pushCpu', dispatched pushCpu (p.round false .idlePull ++ rest) =
    (p.pullsTo.map fun target => ⟨p.cpu, some target⟩).toList ++ dispatched pushCpu' rest := by
  rw [Probe.round, Probe.pullsTo]
  cases p.decision false .idlePull with
  | offline | nothing | delay target => exact ⟨pushCpu, rfl⟩
  | avoid avoided => cases avoided <;> exact ⟨pushCpu, rfl⟩
  | launch task target =>
    refine ⟨Function.update pushCpu p.cpu (some target), ?_⟩
    simp only [Probe.dispatch]
    cases p.dispatchFails with
    | true => rfl
    | false => simp [dispatched]

lemma dispatched_rounds (slow : List (Probe T n)) (pushCpu : Fin n → Option (Fin n)) :
    dispatched pushCpu (slow.flatMap (Probe.round false .idlePull) ++ [.release .force]) =
    slow.filterMap fun p => p.pullsTo.map fun target => ⟨p.cpu, some target⟩ := by
  induction slow generalizing pushCpu with
  | nil => rfl
  | cons p rest ih =>
    rw [flatMap_cons, append_assoc]
    obtain ⟨pushCpu', hround⟩ := dispatched_round p pushCpu
      (rest.flatMap (Probe.round false .idlePull) ++ [.release .force])
    rw [hround, ih, filterMap_cons]
    cases p.pullsTo <;> rfl

lemma force_eq (p : Probe T n) (force : Bool) : p.force force = if p.online then p.pullsTo.isSome else force := by
  rw [Probe.force, Probe.pullsTo]
  -- only an offline CPU ends its round as `offline`
  cases hdecision : p.decision false .idlePull <;> grind [Probe.decision]

/-- The flag is that of the last round; an earlier one is reset. -/
lemma foldl_force (slow : List (Probe T n)) (force : Bool) : slow.foldl Probe.force force =
    ((lastRound slow).map fun p => p.pullsTo.isSome).getD force := by
  induction slow generalizing force with
  | nil => rfl
  | cons p rest ih =>
    rw [foldl_cons, ih, force_eq, lastRound, lastRound, filter_cons]
    split
    next honline =>
      rw [getLast?_cons]
      cases (rest.filter fun p => p.online).getLast? <;> rfl
    · rfl

/-- What a call that gets the lock dispatches and returns. -/
lemma idlePull_locked (slow : List (Probe T n)) (pushCpu : Fin n → Option (Fin n)) :
    dispatched pushCpu (hmpIdlePull true slow) =
    (slow.filterMap fun p => p.pullsTo.map fun target => ⟨p.cpu, some target⟩) ∧
    idlePullResult true slow = ((lastRound slow).map fun p => p.pullsTo.isSome).getD false := by
  constructor
  · exact dispatched_rounds slow pushCpu
  · exact foldl_force slow false

lemma pullsHere_iff (thisCpu : Fin n) (slow : List (Probe T n)) (pushCpu : Fin n → Option (Fin n)) :
    PullsHere thisCpu (dispatched pushCpu (hmpIdlePull true slow)) (idlePullResult true slow) ↔
    (∀ p ∈ slow, ∀ target ∈ p.pullsTo, target = thisCpu) ∧
      ((∃ p ∈ slow, p.pullsTo.isSome = true) → ∃ p ∈ lastRound slow, p.pullsTo.isSome = true) := by
  obtain ⟨hmigrations, hresult⟩ := idlePull_locked slow pushCpu
  rw [hmigrations, hresult]
  have hne : (slow.filterMap fun p => p.pullsTo.map fun target => (⟨p.cpu, some target⟩ : Dispatched n)) ≠ [] ↔
      ∃ p ∈ slow, p.pullsTo.isSome = true := by
    simp [filterMap_eq_nil_iff, Option.isSome_iff_ne_none]
  have hlast : ((lastRound slow).map fun p => p.pullsTo.isSome).getD false = true ↔
      ∃ p ∈ lastRound slow, p.pullsTo.isSome = true := by
    cases lastRound slow <;> simp
  have hmem : ∀ p, lastRound slow = some p → p ∈ slow := by
    intro p hp
    exact mem_of_mem_filter (mem_of_getLast? hp)
  constructor
  · rintro ⟨hdestination, hiff⟩
    refine ⟨fun p hp target htarget => ?_, fun hpulls => hlast.mp (hiff.mpr (hne.mpr hpulls))⟩
    have hm := hdestination ⟨p.cpu, some target⟩ (mem_filterMap.mpr ⟨p, hp, by rw [htarget]; rfl⟩)
    exact Option.some.inj hm
  · rintro ⟨hhere, hlastPulls⟩
    refine ⟨?_, ?_⟩
    · intro m hm
      obtain ⟨p, hp, hpm⟩ := mem_filterMap.mp hm
      obtain ⟨target, htarget, rfl⟩ := Option.map_eq_some_iff.mp hpm
      exact congrArg some (hhere p hp target htarget)
    · rw [hlast, hne]
      exact ⟨fun ⟨p, hp, hpulls⟩ => ⟨p, hmem p hp, hpulls⟩, hlastPulls⟩

lemma pullsTo_eq_some_iff {p : Probe T n} {target : Fin n} : p.pullsTo = some target ↔
    p.online = true ∧ p.curr.isSome = true ∧ p.target = some target ∧ p.light = false ∧ p.activeBalance = false ∧
      p.approved = true ∧ p.parked = false ∧ p.dead = false ∧ p.dispatchFails = false := by
  rw [Probe.pullsTo, Probe.decision]
  cases p.curr <;> cases p.target <;> grind

end Dispatch

section IdlePull

variable {T G : Type*} {n : Nat} (cfg : Config G n) (pf : Platform n) (t : HmpTopology n)

/-- For every little CPU whose checks pass, the CPU that is selected is `thisCpu`; and if there is one, the last little
CPU that is online is one. -/
structure SelectsHere (thisCpu : Fin n) (scene : Fin n → Scene T G n) : Prop where
  here : ∀ cpu ∈ t.slowMask, ∀ target, (scene cpu).Sends cfg pf t cpu target → target = thisCpu
  last : ∀ cpu ∈ t.slowMask, (scene cpu).Sends cfg pf t cpu thisCpu →
    ∃ last ∈ t.slowMask, (scene last).Sends cfg pf t last thisCpu ∧
      ∀ c ∈ t.slowMask, c ∈ (scene c).state.online.cpus → c ≤ last

variable {cfg pf t}

lemma pullsTo_probe_iff {v : Scene T G n} {cpu target : Fin n} :
    (v.probe cfg pf t cpu).pullsTo = some target ↔ v.Sends cfg pf t cpu target := by
  simp only [pullsTo_eq_some_iff, Scene.probe, Scene.approved, Scene.target, Scene.Sends, decide_eq_true_eq,
    ← hmpSelectCpu_gb_eq_some_iff]
  constructor
  · rintro ⟨honline, hcurr, htarget, hlight, hfree, hup, hparked, hdead, hfails⟩
    obtain ⟨p, hp⟩ := Option.isSome_iff_exists.mp hcurr
    rw [hp, Option.bind_some] at htarget
    rw [hp, Option.bind_some, htarget] at hup
    exact ⟨p, ⟨honline, hp, hlight, hfree, hup, hparked, hdead, hfails⟩, htarget⟩
  · rintro ⟨p, h, htarget⟩
    rw [h.curr, Option.bind_some, htarget]
    exact ⟨h.online, rfl, rfl, h.heavy, h.free, h.up, h.running, h.alive, h.stopper⟩

lemma getLast?_eq_some_iff_of_sorted {l : List (Fin n)} (hl : l.SortedLT) {a : Fin n} :
    l.getLast? = some a ↔ a ∈ l ∧ ∀ b ∈ l, b ≤ a := by
  rw [getLast?_eq_some_iff]
  constructor
  · rintro ⟨init, rfl⟩
    have hlt := (pairwise_append.mp hl.pairwise).2.2
    refine ⟨mem_concat_self, fun b hb => ?_⟩
    obtain hinit | hlast := mem_append.mp hb
    · exact (hlt b hinit a (mem_singleton_self a)).le
    · exact (mem_singleton.mp hlast).le
  · rintro ⟨ha, hmax⟩
    obtain ⟨init, b, rfl⟩ := (eq_nil_or_concat' l).resolve_left (ne_nil_of_mem ha)
    have hlt := (pairwise_append.mp hl.pairwise).2.2
    obtain hinit | hlast := mem_append.mp ha
    · exact absurd (hmax b mem_concat_self) (hlt a hinit b (mem_singleton_self b)).not_ge
    · exact ⟨init, by rw [mem_singleton.mp hlast]⟩

/-- The last round is that of the last little CPU that is online. -/
lemma mem_lastRound_iff {scene : Fin n → Scene T G n} {p : Probe T n} :
    p ∈ lastRound (pullRounds cfg pf t scene) ↔ ∃ cpu ∈ t.slowMask, cpu ∈ (scene cpu).state.online.cpus ∧
      (∀ c ∈ t.slowMask, c ∈ (scene c).state.online.cpus → c ≤ cpu) ∧ (scene cpu).probe cfg pf t cpu = p := by
  have honline : ∀ cpu, ((scene cpu).probe cfg pf t cpu).online = decide (cpu ∈ (scene cpu).state.online.cpus) :=
    fun _ => rfl
  have hsorted := ((cpuList_sorted t.slowMask).pairwise.filter
    fun cpu => decide (cpu ∈ (scene cpu).state.online.cpus)).sortedLT
  simp only [lastRound, pullRounds, filter_map, Function.comp_def, getLast?_map, Option.mem_def,
    Option.map_eq_some_iff, honline, getLast?_eq_some_iff_of_sorted hsorted, mem_filter, mem_cpuList,
    decide_eq_true_eq, and_imp, and_assoc]

lemma selectsHere_iff {thisCpu : Fin n} {scene : Fin n → Scene T G n} :
    SelectsHere cfg pf t thisCpu scene ↔
    (∀ p ∈ pullRounds cfg pf t scene, ∀ target ∈ p.pullsTo, target = thisCpu) ∧
      ((∃ p ∈ pullRounds cfg pf t scene, p.pullsTo.isSome = true) →
        ∃ p ∈ lastRound (pullRounds cfg pf t scene), p.pullsTo.isSome = true) := by
  have hmem : ∀ {p}, p ∈ pullRounds cfg pf t scene ↔ ∃ cpu ∈ t.slowMask, (scene cpu).probe cfg pf t cpu = p := by
    simp [pullRounds]
  have hhere : (∀ p ∈ pullRounds cfg pf t scene, ∀ target ∈ p.pullsTo, target = thisCpu) ↔
      ∀ cpu ∈ t.slowMask, ∀ target, (scene cpu).Sends cfg pf t cpu target → target = thisCpu := by
    simp only [hmem, forall_exists_index, and_imp, forall_apply_eq_imp_iff₂, Option.mem_def, pullsTo_probe_iff]
  rw [hhere]
  constructor
  · rintro ⟨h, hlast⟩
    refine ⟨h, fun ⟨p, hp, hpulls⟩ => ?_⟩
    obtain ⟨cpu, hcpu, rfl⟩ := hmem.mp hp
    obtain ⟨target, htarget⟩ := Option.isSome_iff_exists.mp hpulls
    have hsends := pullsTo_probe_iff.mp htarget
    obtain ⟨last, hslow, hsent, hmax⟩ := hlast cpu hcpu (h cpu hcpu target hsends ▸ hsends)
    obtain ⟨q, hready, -⟩ := id hsent
    exact ⟨_, mem_lastRound_iff.mpr ⟨last, hslow, hready.online, hmax, rfl⟩,
      Option.isSome_iff_exists.mpr ⟨thisCpu, pullsTo_probe_iff.mpr hsent⟩⟩
  · rintro ⟨h, hlast⟩
    refine ⟨h, fun cpu hcpu hsends => ?_⟩
    obtain ⟨p, hp, hpulls⟩ := hlast ⟨_, hmem.mpr ⟨cpu, hcpu, rfl⟩,
      Option.isSome_iff_exists.mpr ⟨thisCpu, pullsTo_probe_iff.mpr hsends⟩⟩
    obtain ⟨last, hslow, -, hmax, rfl⟩ := mem_lastRound_iff.mp hp
    obtain ⟨target, htarget⟩ := Option.isSome_iff_exists.mp hpulls
    have hsent := pullsTo_probe_iff.mp htarget
    exact ⟨last, hslow, h last hslow target hsent ▸ hsent, hmax⟩

variable (cfg pf t)

/-- `hmp_idle_pull` serves the CPU that calls it exactly if it does not get the lock, or that CPU is the one selected
wherever the checks pass, which they do for the last little CPU if for any. -/
theorem idlePull_pullsHere_iff (thisCpu : Fin n) (trylock : Bool) (scene : Fin n → Scene T G n)
    (pushCpu : Fin n → Option (Fin n)) :
    let rounds := pullRounds cfg pf t scene
    PullsHere thisCpu (dispatched pushCpu (hmpIdlePull trylock rounds)) (idlePullResult trylock rounds) ↔
      (trylock = true → SelectsHere cfg pf t thisCpu scene) := by
  intro rounds
  cases trylock with
  | false => exact iff_of_true ⟨nofun, by simp [idlePullResult, hmpIdlePull, dispatched]⟩ nofun
  | true => exact (pullsHere_iff thisCpu rounds pushCpu).trans (selectsHere_iff.symm.trans (imp_iff_right rfl).symm)

/-- The little CPUs have less power than the big ones. -/
def twoPowers : Platform 4 := { cpuPower := fun cpu => if cpu < 2 then 606 else 1535 }

def heavyScene (cpu c : Fin 4) : Scene Unit Unit 4 :=
  { state := heavyOn cpu allFour.online, curr := if c = cpu then some () else none }

/-- Two little and two big CPUs; a heavy task runs on the last little CPU. The first big CPU pulls
it. -/
theorem idlePull_pullsHere_first_big :
    let rounds := pullRounds {} twoPowers twoAndTwo (heavyScene 1)
    let migrations := dispatched (fun _ => none) (hmpIdlePull true rounds)
    migrations = [⟨1, some 2⟩] ∧ PullsHere 2 migrations (idlePullResult true rounds) ∧
      SelectsHere {} twoPowers twoAndTwo 2 (heavyScene 1) := by
  intro rounds migrations
  have hmigrations : migrations = [⟨1, some 2⟩] := by decide +kernel
  have hhere : PullsHere 2 migrations (idlePullResult true rounds) := by
    refine ⟨?_, iff_of_true (by decide +kernel) ?_⟩ <;> simp [hmigrations]
  exact ⟨hmigrations, hhere, (idlePull_pullsHere_iff _ _ _ 2 true _ _).mp hhere rfl⟩

/-- The same machine with the heavy task on the first little CPU, and the second big CPU calls. The
task is sent to the first big CPU, and since the last round finds nothing, the result is 0. -/
theorem idlePull_pulls_elsewhere :
    let rounds := pullRounds {} twoPowers twoAndTwo (heavyScene 0)
    let migrations := dispatched (fun _ => none) (hmpIdlePull true rounds)
    migrations = [⟨0, some 2⟩] ∧ idlePullResult true rounds = false ∧
      ¬ PullsHere 3 migrations (idlePullResult true rounds) := by
  intro rounds migrations
  have hmigrations : migrations = [⟨0, some 2⟩] := by decide +kernel
  refine ⟨hmigrations, by decide +kernel, fun hhere => ?_⟩
  have hdestination := hhere.destination ⟨0, some 2⟩ (hmigrations ▸ mem_cons_self)
  exact absurd hdestination (by decide)

end IdlePull

end BigLittle.Hmp
