import Mathlib.Data.Fintype.Basic
import Mathlib.Data.Finset.Insert
import BigLittle.Lib.Run

/-!
# The frequency scale of a CPU

With `CONFIG_HMP_FREQUENCY_INVARIANT_SCALE` load is scaled by `curr_scale`, the frequency of the CPU as
a fraction of 1024 of its highest one. Both come from cpufreq notifications: a policy notification gives
the limits of some CPUs, a transition notification the new frequency of one. A division by zero is
`none`.

With `CONFIG_SCHED_HMP_ENHANCEMENT` the highest frequency is that of the hardware, and the scale of one
CPU is copied to its cluster, and to its neighbour if there are four CPUs.

The observer notes along the way what the scales are to reflect: for each CPU the highest frequency, and
the frequency at which it runs.
-/

namespace BigLittle.FreqScale

/-- `struct cpufreq_extents`; the only flag is `SCHED_LOAD_FREQINVAR_SINGLEFREQ`. -/
structure Extents where
  currScale : Nat := 0
  min : Nat := 0
  max : Nat := 0
  singleFreq : Bool := false
  constMax : Nat := 0
  throttling : Bool := false
deriving DecidableEq

/-- `cluster` is the mask of the fast or of the slow CPUs, by `arch_better_capacity`. -/
inductive Build (n : Nat) where
  | plain
  | enhanced (cluster : Fin n → Finset (Fin n))

inductive Governor where
  | performance
  | powersave
  | other
deriving DecidableEq

inductive PolicyEvent where
  | adjust
  | incompatible
  | notify
  | start
deriving DecidableEq

inductive TransitionEvent where
  | prechange
  | postchange
  | resumechange
  | suspendchange
deriving DecidableEq

/-- What is read of `struct cpufreq_policy`; frequencies are in kHz. -/
structure Policy (n : Nat) where
  cpus : Finset (Fin n)
  min : Nat
  cur : Nat
  max : Nat
  cpuinfoMax : Nat
  governor : Governor := .other
  min_le_cur : min ≤ cur
  cur_le_max : cur ≤ max
  max_pos : 0 < max

/-- What is read of `struct cpufreq_freqs`, and the CPUs whose clock it is. -/
structure Freqs (n : Nat) where
  cpu : Fin n
  new : Nat
  constLoops : Bool := false
  sharing : Finset (Fin n)
  cpu_mem : cpu ∈ sharing

/-- `freq_scale` and `hmp_data.freqinvar_load_scale_enabled` -/
structure Scales (n : Nat) where
  extents : Fin n → Extents
  enabled : Bool

def cpufreqCalcScale (_min max curr : Nat) : Option Nat := if max = 0 then none else some (curr / max)

variable {n : Nat}

namespace Build

variable (build : Build n)

/-- The maximum a frequency is divided by. -/
def divisor (e : Extents) : Nat :=
  match build with
  | .plain => e.max
  | .enhanced _ => e.constMax

/-- The highest frequency of the CPUs of a policy. -/
def highest (p : Policy n) : Nat :=
  match build with
  | .plain => p.max
  | .enhanced _ => p.cpuinfoMax

/-- The other CPU of a pair, if `NR_CPUS` is 4. -/
def pair (cpu : Fin n) : Finset (Fin n) :=
  if n = 4 then
    Finset.univ.filter fun id => if cpu.val % 2 = 0 then id.val = cpu.val + 1 else id.val + 1 = cpu.val
  else ∅

/-- The CPUs that get the scale of a CPU. -/
def copied (cpu : Fin n) : Finset (Fin n) :=
  match build with
  | .plain => ∅
  | .enhanced cluster => cluster cpu ∪ pair cpu

end Build

def Governor.singleFreq : Governor → Bool
  | .performance | .powersave => true
  | .other => false

namespace Scales

variable (build : Build n) (s : Scales n)

/-- `register_sched_cpufreq_notifier`: the "safe defaults". -/
def register (enabled : Bool) : Scales n where
  extents := fun _ => { max := 1024, min := 1024, currScale := 1024 }
  enabled := enabled

def set (cpu : Fin n) (e : Extents) : Scales n := { s with extents := Function.update s.extents cpu e }

@[simp] lemma set_extents_self (cpu : Fin n) (e : Extents) : (s.set cpu e).extents cpu = e :=
  Function.update_self _ _ _

lemma set_extents_of_ne {cpu other : Fin n} (h : other ≠ cpu) (e : Extents) :
    (s.set cpu e).extents other = s.extents other := Function.update_of_ne h _ _

/-- The limits of a policy, in units of 1024 kHz. -/
def policyLimits (p : Policy n) (e : Extents) : Extents :=
  let e := { e with max := p.max >>> 10, min := p.min >>> 10 }
  match build with
  | .plain => e
  | .enhanced _ => { e with constMax := p.cpuinfoMax >>> 10 }

/-- The loop body of `cpufreq_policy_callback`. -/
def policyExtents (enabled : Bool) (p : Policy n) (e : Extents) : Option Extents :=
  let e := policyLimits build p e
  if !enabled then some { e with currScale := 1024 }
  else if p.governor.singleFreq then some { e with singleFreq := true, currScale := 1024 }
  else do
    let scale ← cpufreqCalcScale e.min (build.divisor e) p.cur
    some { e with singleFreq := false, currScale := scale }

def cpufreqPolicyCallback (event : PolicyEvent) (p : Policy n) : Option (Scales n) :=
  if event ≠ .incompatible then some s
  else ((List.finRange n).filter (· ∈ p.cpus)).foldlM (fun s cpu => do
    let e ← policyExtents build s.enabled p (s.extents cpu)
    some (s.set cpu e)) s

def noteThrottling (e : Extents) : Extents :=
  match build with
  | .plain => e
  | .enhanced _ => { e with throttling := e.max < e.constMax }

/-- A governor with a single frequency needs no scale. -/
def transitionScale (e : Extents) (new : Nat) : Option Nat :=
  if e.singleFreq then some 1024 else cpufreqCalcScale e.min (build.divisor e) new

def cpufreqCallback (event : TransitionEvent) (freq : Freqs n) : Option (Scales n) :=
  if freq.constLoops then some s
  else if event ≠ .postchange then some s
  else if !s.enabled then some (s.set freq.cpu { s.extents freq.cpu with currScale := 1024 })
  else do
    let e := noteThrottling build (s.extents freq.cpu)
    let scale ← transitionScale build e freq.new
    let s := s.set freq.cpu { e with currScale := scale }
    some { s with extents := fun id =>
      if id ∈ build.copied freq.cpu then { s.extents id with currScale := scale } else s.extents id }

end Scales

/-- A notification, or a write to `frequency_invariant_load_scale`. -/
inductive Op (n : Nat) where
  | policy (event : PolicyEvent) (p : Policy n)
  | transition (event : TransitionEvent) (freq : Freqs n)
  | toggle (enabled : Bool)

/-- The scales with the frequencies that have been notified. -/
structure Observed (n : Nat) where
  scales : Scales n
  runsAt : Fin n → Option Nat := fun _ => none
  highest : Fin n → Option Nat := fun _ => none

namespace Observed

variable (build : Build n) (o : Observed n)

/-- The CPUs a transition is noted for: the one it names, and those that get its scale and have its clock. -/
def told (freq : Freqs n) : Finset (Fin n) :=
  if o.scales.enabled && !freq.constLoops then insert freq.cpu (build.copied freq.cpu ∩ freq.sharing)
  else {freq.cpu}

def step (op : Op n) : Option (Observed n) :=
  match op with
  | .policy event p => do
      let scales ← o.scales.cpufreqPolicyCallback build event p
      if event = .incompatible then
        some { scales := scales
               runsAt := fun cpu => if cpu ∈ p.cpus then some p.cur else o.runsAt cpu
               highest := fun cpu => if cpu ∈ p.cpus then some (build.highest p) else o.highest cpu }
      else some { o with scales := scales }
  | .transition event freq => do
      let scales ← o.scales.cpufreqCallback build event freq
      if event = .postchange then
        some { o with
          scales := scales
          runsAt := fun cpu => if cpu ∈ o.told build freq then some freq.new else o.runsAt cpu }
      else some { o with scales := scales }
  | .toggle enabled => some { o with scales := { o.scales with enabled := enabled } }

/-- Every scale is at most 1024, and 1024 if the CPU runs at its highest frequency. -/
structure Scaled : Prop where
  le : ∀ cpu, (o.scales.extents cpu).currScale ≤ 1024
  top : ∀ cpu f, o.runsAt cpu = some f → o.highest cpu = some f → (o.scales.extents cpu).currScale = 1024

end Observed

/-- The highest frequency divided by its share of 1024 is 1024. -/
def GoodMax (f : Nat) : Prop := f % 1024 < f / 1024
  deriving Decidable

/-- A policy has a good maximum that is not exceeded. A transition comes after a policy for the CPU and
does not exceed its maximum, is not hidden by `CPUFREQ_CONST_LOOPS`, and its scale is copied only to CPUs that
have the same clock and the same maximum. -/
def Op.Sound (build : Build n) (o : Observed n) : Op n → Prop
  | .policy event p => event = .incompatible → GoodMax (build.highest p) ∧ p.cur ≤ build.highest p
  | .transition event freq => event = .postchange → freq.constLoops = false ∧
      (o.scales.enabled = true → (∃ f ∈ o.highest freq.cpu, freq.new ≤ f) ∧
        ∀ id ∈ build.copied freq.cpu, id ∈ freq.sharing ∧ o.highest id = o.highest freq.cpu)
  | .toggle _ => True

instance (build : Build n) (o : Observed n) : (op : Op n) → Decidable (op.Sound build o)
  | .policy _ _ => inferInstanceAs (Decidable (_ → _ ∧ _))
  | .transition _ _ => inferInstanceAs (Decidable (_ → _ ∧ (_ → _ ∧ _)))
  | .toggle _ => isTrue trivial

section Divisor

variable (build : Build n)

@[simp] lemma divisor_currScale (e : Extents) (scale : Nat) :
    build.divisor { e with currScale := scale } = build.divisor e := by
  cases build <;> rfl

@[simp] lemma divisor_singleFreq (e : Extents) (singleFreq : Bool) (scale : Nat) :
    build.divisor { e with singleFreq := singleFreq, currScale := scale } = build.divisor e := by
  cases build <;> rfl

@[simp] lemma divisor_noteThrottling (e : Extents) :
    build.divisor (Scales.noteThrottling build e) = build.divisor e := by
  cases build <;> rfl

@[simp] lemma divisor_policyLimits (p : Policy n) (e : Extents) :
    build.divisor (Scales.policyLimits build p e) = build.highest p >>> 10 := by
  cases build <;> rfl

end Divisor

section Steps

variable {build : Build n} {o : Observed n}

lemma calcScale_good {f : Nat} (hf : GoodMax f) (min : Nat) {curr : Nat} (hcurr : curr ≤ f) :
    ∃ scale, cpufreqCalcScale min (f >>> 10) curr = some scale ∧ scale ≤ 1024 ∧ (curr = f → scale = 1024) := by
  have hshift : f >>> 10 = f / 1024 := Nat.shiftRight_eq_div_pow f 10
  have hpos : 0 < f / 1024 := Nat.zero_lt_of_lt hf
  have htop : f / (f / 1024) = 1024 := by
    have hdiv := Nat.div_add_mod f 1024
    rw [GoodMax] at hf
    rw [Nat.div_eq_iff hpos]
    constructor <;> omega
  refine ⟨curr / (f / 1024), ?_, (Nat.div_le_div_right hcurr).trans htop.le, fun heq => heq ▸ htop⟩
  rw [cpufreqCalcScale, hshift, if_neg hpos.ne']

/-- What holds of the extents of a CPU: besides the scale, the divisor is that of the highest frequency. -/
structure Extents.Tracks (build : Build n) (e : Extents) (runsAt highest : Option Nat) : Prop where
  le : e.currScale ≤ 1024
  top : ∀ f, runsAt = some f → highest = some f → e.currScale = 1024
  good : ∀ f, highest = some f → GoodMax f ∧ build.divisor e = f >>> 10

def Observed.Tracks (build : Build n) (o : Observed n) : Prop :=
  ∀ cpu, (o.scales.extents cpu).Tracks build (o.runsAt cpu) (o.highest cpu)

lemma Observed.Tracks.scaled (h : o.Tracks build) : o.Scaled :=
  ⟨fun cpu => (h cpu).le, fun cpu => (h cpu).top⟩

/-- What a policy notification leaves behind for each of its CPUs. -/
structure Follows (build : Build n) (p : Policy n) (e : Extents) : Prop where
  divisor : build.divisor e = build.highest p >>> 10
  le : e.currScale ≤ 1024
  top : p.cur = build.highest p → e.currScale = 1024

lemma policyExtents_follows {p : Policy n} (hgood : GoodMax (build.highest p)) (hcur : p.cur ≤ build.highest p)
    (enabled : Bool) (e : Extents) : ∃ e', Scales.policyExtents build enabled p e = some e' ∧ Follows build p e' := by
  obtain ⟨scale, hscale, hle, htop⟩ := calcScale_good hgood (Scales.policyLimits build p e).min hcur
  rw [Scales.policyExtents]
  split
  · exact ⟨_, rfl, by simp, le_rfl, fun _ => rfl⟩
  · split
    · exact ⟨_, rfl, by simp, le_rfl, fun _ => rfl⟩
    · rw [divisor_policyLimits, hscale]
      exact ⟨_, rfl, by simp, hle, htop⟩

/-- The loop of `cpufreq_policy_callback` reaches each CPU, whatever was there before. -/
lemma policyLoop_follows {p : Policy n} (hgood : GoodMax (build.highest p))
    (hcur : p.cur ≤ build.highest p) (cpus : List (Fin n)) (s : Scales n) :
    ∃ s', cpus.foldlM (fun s cpu => do
        let e ← Scales.policyExtents build s.enabled p (s.extents cpu)
        some (s.set cpu e)) s = some s' ∧
      ∀ cpu, (cpu ∈ cpus → Follows build p (s'.extents cpu)) ∧ (cpu ∉ cpus → s'.extents cpu = s.extents cpu) := by
  induction cpus generalizing s with
  | nil => exact ⟨s, rfl, fun _ => ⟨nofun, fun _ => rfl⟩⟩
  | cons c rest ih =>
    obtain ⟨e, he, hfollows⟩ := policyExtents_follows hgood hcur s.enabled (s.extents c)
    obtain ⟨s', hs', hcpus⟩ := ih (s.set c e)
    refine ⟨s', ?_, fun cpu => ⟨fun hmem => ?_, fun hnot => ?_⟩⟩
    · rwa [List.foldlM_cons, he]
    · by_cases hrest : cpu ∈ rest
      · exact (hcpus cpu).1 hrest
      · obtain rfl : cpu = c := (List.mem_cons.mp hmem).resolve_right hrest
        rwa [(hcpus cpu).2 hrest, Scales.set_extents_self]
    · obtain ⟨hne, hrest⟩ := not_or.mp (mt List.mem_cons.mpr hnot)
      rw [(hcpus cpu).2 hrest, Scales.set_extents_of_ne _ hne]

lemma Follows.tracks {p : Policy n} {e : Extents} (h : Follows build p e)
    (hgood : GoodMax (build.highest p)) : e.Tracks build (some p.cur) (some (build.highest p)) where
  le := h.le
  top := by
    rintro f hcur ⟨⟩
    exact h.top (Option.some.inj hcur)
  good := by
    rintro f ⟨⟩
    exact ⟨hgood, h.divisor⟩

lemma step_policy_tracks (h : o.Tracks build) {event : PolicyEvent} {p : Policy n}
    (hsound : (Op.policy event p).Sound build o) :
    ∃ o', o.step build (.policy event p) = some o' ∧ o'.Tracks build := by
  rw [Observed.step, Scales.cpufreqPolicyCallback]
  by_cases hevent : event = .incompatible
  · obtain ⟨hgood, hcur⟩ := hsound hevent
    obtain ⟨s', hs', hcpus⟩ := policyLoop_follows hgood hcur ((List.finRange n).filter (· ∈ p.cpus)) o.scales
    rw [if_neg (not_not.mpr hevent), hs']
    refine ⟨_, if_pos hevent, fun cpu => ?_⟩
    dsimp only
    by_cases hcpu : cpu ∈ p.cpus
    · rw [if_pos hcpu, if_pos hcpu]
      exact ((hcpus cpu).1 (by simpa using hcpu)).tracks hgood
    · rw [if_neg hcpu, if_neg hcpu, (hcpus cpu).2 (by simpa using hcpu)]
      exact h cpu
  · rw [if_pos hevent]
    exact ⟨_, if_neg hevent, h⟩

/-- A new scale for a CPU that runs at a new frequency. -/
lemma Extents.Tracks.rescale {e e' : Extents} {runsAt highest runsAt' : Option Nat}
    (h : e.Tracks build runsAt highest) (hdivisor : build.divisor e' = build.divisor e) (hle : e'.currScale ≤ 1024)
    (htop : ∀ f, runsAt' = some f → highest = some f → e'.currScale = 1024) : e'.Tracks build runsAt' highest :=
  ⟨hle, htop, fun f hf => hdivisor ▸ h.good f hf⟩

/-- Switched off, the scale is 1024 for the CPU that is notified. -/
lemma callback_disabled_tracks (h : o.Tracks build) (freq : Freqs n) (cpu : Fin n) :
    ((o.scales.set freq.cpu { o.scales.extents freq.cpu with currScale := 1024 }).extents cpu).Tracks build
      (if cpu ∈ ({freq.cpu} : Finset (Fin n)) then some freq.new else o.runsAt cpu) (o.highest cpu) := by
  by_cases hcpu : cpu = freq.cpu
  · rw [hcpu, Scales.set_extents_self]
    exact (h freq.cpu).rescale (divisor_currScale _ _ _) le_rfl fun _ _ _ => rfl
  · rw [Scales.set_extents_of_ne _ hcpu, if_neg (Finset.mem_singleton.not.mpr hcpu)]
    exact h cpu

/-- The scale of a transition to a frequency that is not too high. -/
lemma callback_scale (h : o.Tracks build) {freq : Freqs n} {f : Nat} (hf : o.highest freq.cpu = some f)
    (hnew : freq.new ≤ f) : ∃ scale,
    Scales.transitionScale build (Scales.noteThrottling build (o.scales.extents freq.cpu)) freq.new = some scale ∧
    scale ≤ 1024 ∧ (freq.new = f → scale = 1024) := by
  obtain ⟨hgood, hdivisor⟩ := (h freq.cpu).good f hf
  rw [Scales.transitionScale]
  split
  · exact ⟨1024, rfl, le_rfl, fun _ => rfl⟩
  · rw [divisor_noteThrottling, hdivisor]
    exact calcScale_good hgood _ hnew

lemma callback_enabled_tracks (h : o.Tracks build) {freq : Freqs n} {f scale : Nat} {e : Extents}
    (hf : o.highest freq.cpu = some f) (hle : scale ≤ 1024) (htop : freq.new = f → scale = 1024)
    (hcopied : ∀ id ∈ build.copied freq.cpu, o.highest id = o.highest freq.cpu)
    (he : build.divisor e = build.divisor (o.scales.extents freq.cpu)) (cpu : Fin n) :
    (if cpu ∈ build.copied freq.cpu then
        { (o.scales.set freq.cpu { e with currScale := scale }).extents cpu with currScale := scale }
      else (o.scales.set freq.cpu { e with currScale := scale }).extents cpu).Tracks build
      (if cpu ∈ insert freq.cpu (build.copied freq.cpu) then some freq.new else o.runsAt cpu)
      (o.highest cpu) := by
  have hscale : ∀ g, some freq.new = some g → o.highest freq.cpu = some g → scale = 1024 := by
    intro g hnew hg
    exact htop (Option.some.inj (hnew.trans (hg.symm.trans hf)))
  by_cases hcpu : cpu = freq.cpu
  · subst hcpu
    have hsame : (if freq.cpu ∈ build.copied freq.cpu then
        { (o.scales.set freq.cpu { e with currScale := scale }).extents freq.cpu with currScale := scale }
        else (o.scales.set freq.cpu { e with currScale := scale }).extents freq.cpu) =
        { e with currScale := scale } := by
      rw [Scales.set_extents_self]
      exact ite_self _
    rw [hsame, if_pos (Finset.mem_insert_self _ _)]
    exact (h freq.cpu).rescale ((divisor_currScale _ _ _).trans he) hle hscale
  · rw [Scales.set_extents_of_ne _ hcpu]
    by_cases hmem : cpu ∈ build.copied freq.cpu
    · rw [if_pos hmem, if_pos (Finset.mem_insert_of_mem hmem)]
      refine (h cpu).rescale (divisor_currScale _ _ _) hle fun g hnew hg => hscale g hnew ?_
      rw [← hcopied cpu hmem, hg]
    · rw [if_neg hmem, if_neg (Finset.mem_insert.not.mpr (not_or.mpr ⟨hcpu, hmem⟩))]
      exact h cpu

lemma step_transition_tracks (h : o.Tracks build) {event : TransitionEvent} {freq : Freqs n}
    (hsound : (Op.transition event freq).Sound build o) :
    ∃ o', o.step build (.transition event freq) = some o' ∧ o'.Tracks build := by
  rw [Observed.step, Scales.cpufreqCallback]
  by_cases hevent : event = .postchange
  · obtain ⟨hloops, hsound⟩ := hsound hevent
    have htold : o.told build freq = if o.scales.enabled then
        insert freq.cpu (build.copied freq.cpu ∩ freq.sharing) else {freq.cpu} := by
      rw [Observed.told, hloops, Bool.not_false, Bool.and_true]
    rw [if_neg (by rw [hloops]; exact Bool.false_ne_true), if_neg (not_not.mpr hevent)]
    cases henabled : o.scales.enabled with
    | false =>
      refine ⟨_, if_pos hevent, ?_⟩
      rw [Observed.Tracks, htold, henabled]
      exact callback_disabled_tracks h freq
    | true =>
      obtain ⟨⟨f, hf, hnew⟩, hcopied⟩ := hsound henabled
      obtain ⟨scale, hscale, hle, htop⟩ := callback_scale h hf hnew
      have hshared : build.copied freq.cpu ∩ freq.sharing = build.copied freq.cpu :=
        Finset.inter_eq_left.mpr fun id hid => (hcopied id hid).1
      rw [if_neg (by decide)]
      dsimp only
      rw [hscale]
      refine ⟨_, if_pos hevent, ?_⟩
      rw [Observed.Tracks, htold, henabled, if_pos rfl, hshared]
      exact callback_enabled_tracks h hf hle htop (fun id hid => (hcopied id hid).2) (divisor_noteThrottling build _)
  · rw [if_pos hevent, ite_self]
    exact ⟨_, if_neg hevent, h⟩

/-- A sound operation divides by no zero and leaves the scales right. -/
lemma step_tracks (h : o.Tracks build) {op : Op n} (hsound : op.Sound build o) :
    ∃ o', o.step build op = some o' ∧ o'.Tracks build := by
  cases op with
  | policy event p => exact step_policy_tracks h hsound
  | transition event freq => exact step_transition_tracks h hsound
  | toggle enabled => exact ⟨_, rfl, h⟩

end Steps

section Runs

variable (build : Build n)

/-- After a division by zero there is nothing left to observe. -/
def run (o : Option (Observed n)) (op : Op n) : Option (Observed n) := o.bind (·.step build op)

/-- In every run of sound notifications, in any order, no division is by zero, and the scales are right
all along. -/
theorem scales_always (enabled : Bool) (ops : List (Op n))
    (hops : Run.Each (run build) (fun o op => ∀ g ∈ o, op.Sound build g) (some { scales := .register enabled }) ops) :
    Run.Always (run build) (fun o => ∃ g, o = some g ∧ g.Scaled) (some { scales := .register enabled }) ops := by
  have htracks : Run.Always (run build) (fun o => ∃ g, o = some g ∧ g.Tracks build)
      (some { scales := .register enabled }) ops := by
    refine Run.always_of_each ?_ ⟨_, rfl, fun _ => ⟨le_rfl, nofun, nofun⟩⟩ hops
    rintro _ op ⟨g, rfl, hg⟩ hsound
    exact step_tracks hg (hsound g rfl)
  exact htracks.mono fun _ ⟨g, hg, htracks⟩ => ⟨g, hg, htracks.scaled⟩

/-- Two CPUs of 300 to 1500 MHz go down and up again. -/
theorem scales_always_two_cpus :
    let both : Finset (Fin 2) := {0, 1}
    let policy : Policy 2 :=
      { cpus := both, min := 300000, cur := 1500000, max := 1500000, cpuinfoMax := 1500000
        min_le_cur := by decide, cur_le_max := by decide, max_pos := by decide }
    let freqs : Fin 2 → Nat → Freqs 2 := fun cpu new =>
      { cpu := cpu, new := new, sharing := both, cpu_mem := by decide +revert }
    let ops : List (Op 2) := [.policy .incompatible policy, .transition .postchange (freqs 0 600000),
      .transition .postchange (freqs 1 600000), .transition .postchange (freqs 0 1500000)]
    ∃ g, ops.foldl (run (.enhanced fun _ => both)) (some { scales := .register true }) = some g ∧ g.Scaled := by
  intro both policy freqs ops
  exact (scales_always (.enhanced fun _ => both) true ops (by decide)).last

/-- A maximum below 1024 kHz; a maximum of 300 MHz, at which the CPU runs; and a transition before any
policy, with and without the enhancement. -/
theorem scales_wrong :
    let policy : (max : Nat) → 0 < max → Policy 1 := fun max hmax =>
      { cpus := {0}, min := max, cur := max, max := max, cpuinfoMax := max
        min_le_cur := le_rfl, cur_le_max := le_rfl, max_pos := hmax }
    let freqs : Freqs 1 := { cpu := 0, new := 1500000, sharing := {0}, cpu_mem := by decide }
    let start : Option (Observed 1) := some { scales := .register true }
    let scale : Option (Observed 1) → Option Nat := fun o => o.map fun g => (g.scales.extents 0).currScale
    run .plain start (.policy .incompatible (policy 1000 (by decide))) = none ∧
      scale (run .plain start (.policy .incompatible (policy 300000 (by decide)))) = some 1027 ∧
      scale (run .plain start (.transition .postchange freqs)) = some 1464 ∧
      run (.enhanced fun _ => {0}) start (.transition .postchange freqs) = none := by
  refine ⟨rfl, rfl, rfl, rfl⟩

end Runs

end BigLittle.FreqScale
