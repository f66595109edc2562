import BigLittle.Hmp.Force

/-!
# Asking a big CPU to pull

`hmp_force_up_migration` sets `wake_for_idle_pull` of a big CPU and sends it a
reschedule interrupt. `scheduler_ipi` on that CPU is to raise `SCHED_SOFTIRQ`,
whose handler `run_rebalance_domains` clears the flag and pulls. The two tests of
the flag in `scheduler_ipi` are compiled under `CONFIG_HMP_DELAY_UP_MIRGATION`, a
misspelling of the option that no configuration defines, so that only a nohz kick
makes it raise the softirq.
-/

namespace BigLittle.Hmp

open Function (update update_apply update_self)

variable {T : Type*} {n : Nat}

/-- What else a CPU is doing when it takes the interrupt. -/
structure Activity (T : Type*) where
  wakeList : List T := []
  nrRunning : Nat := 0
  /-- `rq->curr == rq->idle` -/
  currIdle : Bool := true
  needResched : Bool := false
  /-- `NOHZ_BALANCE_KICK` -/
  nohzKick : Bool := false
deriving DecidableEq

structure CpuView (T : Type*) extends Activity T where
  wakeForIdlePull : Bool := false
  idleBalance : Bool := false
deriving DecidableEq

structure IpiConfig where
  hmpDelayUpMirgation : Bool := false
  noHzFull : Bool := false

namespace CpuView

variable (cfg : IpiConfig) (v : CpuView T) (preempts : Bool)

def idleCpu : Bool := v.currIdle && v.nrRunning == 0 && v.wakeList.isEmpty

/-- `got_nohz_idle_kick`: a kick that cannot be served is cancelled. -/
def gotNohzIdleKick : Bool × CpuView T :=
  if !v.nohzKick then (false, v)
  else if v.idleCpu && !v.needResched then (true, v)
  else (false, { v with nohzKick := false })

/-- `sched_ttwu_pending`: activate the tasks of the wake list. The first one
preempts an idle CPU; `preempts` says what it does to a busy one. -/
def schedTtwuPending : CpuView T :=
  { v with
    wakeList := []
    nrRunning := v.nrRunning + v.wakeList.length
    needResched := v.needResched || (!v.wakeList.isEmpty && (v.currIdle || preempts)) }

/-- The part of `scheduler_ipi` between `irq_enter` and `irq_exit`, and whether it
raises `SCHED_SOFTIRQ`. -/
def serveIpi : CpuView T × Bool :=
  let (kicked, v) := (v.schedTtwuPending preempts).gotNohzIdleKick
  if kicked then ({ v with idleBalance := true }, true)
  else if cfg.hmpDelayUpMirgation && v.wakeForIdlePull then (v, true)
  else (v, false)

/-- `scheduler_ipi`, and whether it raises `SCHED_SOFTIRQ`. -/
def schedulerIpi : CpuView T × Bool :=
  if v.wakeList.isEmpty && !cfg.noHzFull then
    let (kicked, v) := v.gotNohzIdleKick
    if !kicked && !(cfg.hmpDelayUpMirgation && v.wakeForIdlePull) then (v, false)
    else v.serveIpi cfg preempts
  else v.serveIpi cfg preempts

end CpuView

inductive Call where
  | idlePull
  | forceUpMigration
  | rebalanceDomains
  | nohzIdleBalance
deriving DecidableEq

/-- `run_rebalance_domains`; `pulled` is the result of `hmp_idle_pull`. -/
def CpuView.runRebalanceDomains (v : CpuView T) (pulled : Bool) : CpuView T × List Call :=
  let balance := [.forceUpMigration, .rebalanceDomains, .nohzIdleBalance]
  if v.wakeForIdlePull then
    ({ v with wakeForIdlePull := false },
      .idlePull :: if pulled && !v.idleBalance then [] else balance)
  else (v, balance)

/-- The interrupt raises the softirq, and its handler clears the flag and pulls. -/
def CpuView.Serviced (cfg : IpiConfig) (v : CpuView T) (preempts pulled : Bool) : Prop :=
  (v.schedulerIpi cfg preempts).2 = true ∧
    ((v.schedulerIpi cfg preempts).1.runRebalanceDomains pulled).1.wakeForIdlePull = false ∧
    Call.idlePull ∈ ((v.schedulerIpi cfg preempts).1.runRebalanceDomains pulled).2

/-- The flags and the pending reschedule interrupts of all CPUs. -/
structure System (T : Type*) (n : Nat) where
  cpu : Fin n → CpuView T
  ipi : Fin n → Bool

namespace System

variable (s : System T n)

/-- The effect of one action on the flags. -/
def perform : Action T n → System T n
  | .wakeForIdlePull cpu =>
    { s with cpu := update s.cpu cpu { s.cpu cpu with wakeForIdlePull := true } }
  | .sendReschedule cpu => { s with ipi := update s.ipi cpu true }
  | _ => s

def step : TraceEvent T n → System T n
  | .act a => s.perform a
  | _ => s

/-- The CPU takes its pending interrupt, whatever it is doing by then. -/
def takeIpi (cpu : Fin n) (activity : Activity T) : CpuView T :=
  { s.cpu cpu with toActivity := activity }

end System

section Interrupt

variable (cfg : IpiConfig) (v : CpuView T) (preempts pulled : Bool)

lemma gotNohzIdleKick_flag : v.gotNohzIdleKick.2.wakeForIdlePull = v.wakeForIdlePull := by
  rw [CpuView.gotNohzIdleKick]
  split_ifs <;> rfl

lemma serveIpi_flag : (v.serveIpi cfg preempts).1.wakeForIdlePull = v.wakeForIdlePull := by
  have hkick := gotNohzIdleKick_flag (v.schedTtwuPending preempts)
  simp only [CpuView.serveIpi]
  split_ifs <;> exact hkick

/-- The interrupt leaves the request alone; only the softirq clears it. -/
lemma schedulerIpi_flag : (v.schedulerIpi cfg preempts).1.wakeForIdlePull = v.wakeForIdlePull := by
  have hkick := gotNohzIdleKick_flag v
  simp only [CpuView.schedulerIpi]
  split_ifs
  · exact hkick
  · exact (serveIpi_flag cfg _ preempts).trans hkick
  · exact serveIpi_flag cfg v preempts

/-- A kick that is seen before the wake list is worked off is still there after,
since the list was empty. -/
lemma schedulerIpi_raises_iff : (v.schedulerIpi {} preempts).2 = true ↔ v.wakeList = [] ∧ v.nohzKick = true ∧
    v.currIdle = true ∧ v.nrRunning = 0 ∧ v.needResched = false := by
  obtain ⟨⟨wakeList, nrRunning, currIdle, needResched, nohzKick⟩, flag, idleBalance⟩ := v
  cases wakeList with
  | nil =>
    simp only [CpuView.schedulerIpi, CpuView.serveIpi, CpuView.gotNohzIdleKick,
      CpuView.idleCpu, CpuView.schedTtwuPending]
    grind
  | cons task rest =>
    cases nohzKick <;>
      simp [CpuView.schedulerIpi, CpuView.serveIpi, CpuView.gotNohzIdleKick, CpuView.idleCpu, CpuView.schedTtwuPending]

lemma runRebalanceDomains_pulls {v : CpuView T} (flag : v.wakeForIdlePull = true) :
    (v.runRebalanceDomains pulled).1.wakeForIdlePull = false ∧ Call.idlePull ∈ (v.runRebalanceDomains pulled).2 := by
  rw [CpuView.runRebalanceDomains, if_pos flag]
  exact ⟨rfl, List.mem_cons_self⟩

/-- Once the flag is set, all that a request needs is the softirq. -/
lemma serviced_iff {v : CpuView T} (flag : v.wakeForIdlePull = true) :
    v.Serviced cfg preempts pulled ↔ (v.schedulerIpi cfg preempts).2 = true := by
  have hkept : (v.schedulerIpi cfg preempts).1.wakeForIdlePull = true :=
    (schedulerIpi_flag cfg v preempts).trans flag
  exact and_iff_left (runRebalanceDomains_pulls pulled hkept)

/-- If the option were spelt as it is configured, every request would be served. -/
theorem serviced_of_delayUpMirgation (defined : cfg.hmpDelayUpMirgation = true)
    {v : CpuView T} (flag : v.wakeForIdlePull = true) : v.Serviced cfg preempts pulled := by
  rw [serviced_iff cfg preempts pulled flag]
  have hserve : ∀ w : CpuView T, w.wakeForIdlePull = true → (w.serveIpi cfg preempts).2 = true := by
    intro w hw
    have hkick := (gotNohzIdleKick_flag (w.schedTtwuPending preempts)).trans hw
    simp only [CpuView.serveIpi, defined, hkick, Bool.and_self, if_true]
    split_ifs
    · rfl
    · rfl
  have hkick := (gotNohzIdleKick_flag v).trans flag
  simp only [CpuView.schedulerIpi, defined, hkick]
  split_ifs with hlist hquiet
  · simp at hquiet
  · exact hserve _ hkick
  · exact hserve v flag

theorem serviced_unkicked : ({ wakeForIdlePull := true } : CpuView Unit).Serviced ⟨true, false⟩ false true :=
  serviced_of_delayUpMirgation _ _ _ rfl rfl

end Interrupt

section Requests

variable {s : System T n} {trace : List (TraceEvent T n)} {cpu : Fin n}

/-- The flag is set and the interrupt is pending. -/
def System.Requested (s : System T n) (cpu : Fin n) : Prop :=
  (s.cpu cpu).wakeForIdlePull = true ∧ s.ipi cpu = true
  deriving Decidable

lemma step_keeps_flag (e : TraceEvent T n) (flag : (s.cpu cpu).wakeForIdlePull = true) :
    ((s.step e).cpu cpu).wakeForIdlePull = true := by
  cases e with
  | acquire l | release l => exact flag
  | act a =>
    cases a with
    | wakeForIdlePull target =>
      show (update s.cpu target _ cpu).wakeForIdlePull = true
      rw [update_apply]
      split
      · rfl
      · exact flag
    | _ => exact flag

lemma step_keeps_ipi (e : TraceEvent T n) (pending : s.ipi cpu = true) : (s.step e).ipi cpu = true := by
  cases e with
  | acquire l | release l => exact pending
  | act a =>
    cases a with
    | sendReschedule target =>
      show update s.ipi target true cpu = true
      rw [update_apply]
      split
      · rfl
      · exact pending
    | _ => exact pending

/-- No later round takes back what the round of a ripe probe has requested. -/
lemma forceUp_requests {slow fast : List (Probe T n)} {p : Probe T n} (mem : p ∈ slow)
    (wakes : p.decision true .forceUp = .delay cpu) :
    ((hmpForceUpMigration true true slow fast).foldl System.step s).Requested cpu := by
  have hround : ∀ e ∈ p.round true .forceUp, e ∈ hmpForceUpMigration true true slow fast := by
    intro e he
    rw [hmpForceUpMigration, if_pos rfl, forceUpBody]
    have hslow : e ∈ slow.flatMap (Probe.round true .forceUp) := List.mem_flatMap.mpr ⟨p, mem, he⟩
    simp [hslow]
  have hflag : .act (.wakeForIdlePull cpu) ∈ p.round true .forceUp := by
    rw [Probe.round, wakes]
    simp
  have hipi : .act (.sendReschedule cpu) ∈ p.round true .forceUp := by
    rw [Probe.round, wakes]
    simp
  constructor
  · apply Run.foldl_of_mem (P := fun s : System T n => (s.cpu cpu).wakeForIdlePull = true)
      (fun _ e h => step_keeps_flag e h) (hround _ hflag)
    intro t
    show (update t.cpu cpu _ cpu).wakeForIdlePull = true
    rw [update_self]
  · apply Run.foldl_of_mem (P := fun s : System T n => s.ipi cpu = true)
      (fun _ e h => step_keeps_ipi e h) (hround _ hipi)
    intro t
    exact update_self cpu true t.ipi

/-- Each big CPU that `hmp_force_up_migration` asks to pull has the request and
its interrupt pending. Whatever it does when it takes the interrupt, the request
is served exactly if a nohz kick is pending and the CPU is idle with nothing to
wake up or to reschedule. -/
theorem delayed_up_serviced_iff (s : System T n) (slow fast : List (Probe T n))
    (p : Probe T n) (mem : p ∈ slow) (target : Fin n)
    (wakes : p.decision true .forceUp = .delay target) (activity : Activity T)
    (preempts pulled : Bool) :
    let sent := (hmpForceUpMigration true true slow fast).foldl System.step s
    sent.Requested target ∧ ((sent.takeIpi target activity).Serviced {} preempts pulled ↔
        activity.wakeList = [] ∧ activity.nohzKick = true ∧ activity.currIdle = true ∧
          activity.nrRunning = 0 ∧ activity.needResched = false) := by
  intro sent
  have hrequested : sent.Requested target := forceUp_requests mem wakes
  have hflag : (sent.takeIpi target activity).wakeForIdlePull = true := hrequested.1
  refine ⟨hrequested, ?_⟩
  rw [serviced_iff {} preempts pulled hflag, schedulerIpi_raises_iff]
  exact Iff.rfl

/-- The request of a ripe little CPU to an idle big CPU that has been kicked. -/
theorem delayed_up_serviced_kicked :
    let p : Probe Unit 2 := { cpu := 0, curr := some (), target := some 1 }
    let s : System Unit 2 := { cpu := fun _ => {}, ipi := fun _ => false }
    let sent := (hmpForceUpMigration true true [p] []).foldl System.step s
    (sent.takeIpi 1 { nohzKick := true }).Serviced {} false true :=
  (delayed_up_serviced_iff _ _ [] _ List.mem_cons_self 1 (by decide) _ _ _).2.mpr (by decide)

/-- The big CPU is idle, with an empty wake list and no kick: the interrupt does
nothing and the request stays. -/
theorem delayed_up_lost :
    let p : Probe Unit 2 := { cpu := 0, curr := some (), target := some 1 }
    let s : System Unit 2 := { cpu := fun _ => {}, ipi := fun _ => false }
    let sent := (hmpForceUpMigration true true [p] []).foldl System.step s
    let taken := (sent.takeIpi 1 {}).schedulerIpi {} false
    sent.Requested 1 ∧ taken.2 = false ∧ taken.1.wakeForIdlePull = true := by
  decide

end Requests

end BigLittle.Hmp
