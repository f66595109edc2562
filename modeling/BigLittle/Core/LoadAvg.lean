import BigLittle.Lib.Run
import Mathlib.Algebra.BigOperators.Fin
import Mathlib.Data.BitVec
import Mathlib.Tactic.Abel

/-!
# The global load average

A CPU folds the change of its number of active tasks into `calc_load_tasks`, in its tick or when it has been removed,
or into one of two idle counters when it stops its tick. Once in `LOAD_FREQ` ticks one of these is folded too, and the
three averages move towards the number of active tasks, with 11 fractional bits; an update that comes late makes up for
those that were missed.

A step is one access to what the CPUs share. The number of active tasks that a fold finds is an input.
-/

namespace BigLittle.LoadAvg

open Function (update update_self)

abbrev Long := BitVec 64

def timeBefore (a b : Long) : Bool := (a - b).msb

/-- `EXP_1`, `EXP_5` and `EXP_15` -/
def exp : Fin 3 → Long
  | 0 => 1884
  | 1 => 2014
  | 2 => 2037

def calcLoad (load exp active : Long) : Long := (load * exp + active * (2048 - exp) + 1024) >>> 11

/-- The loop of `fixed_power_int`. -/
def fixedPowerInt (result x : Long) (n : Nat) : Long :=
  if n = 0 then result
  else fixedPowerInt (if n % 2 = 1 then (result * x + 1024) >>> 11 else result) ((x * x + 1024) >>> 11) (n / 2)
termination_by n

def calcLoadN (load exp active : Long) (n : Nat) : Long := calcLoad load (fixedPowerInt 2048 exp n) active

/-- Of `calc_load_idx` only the lowest bit is read. -/
structure Global where
  tasks : Long := 0
  idle : Bool → Long := fun _ => 0
  idx : Bool := false
  calcLoadUpdate : Long
  avenrun : Fin 3 → Long := fun _ => 0

namespace Global

variable (freq : Long) (g : Global)

/-- `calc_load_fold_idle`, and its result is added. -/
def foldIdle : Global := { g with tasks := g.tasks + g.idle g.idx, idle := update g.idle g.idx 0 }

def active : Long := if BitVec.slt 0 g.tasks then g.tasks * 2048 else 0

def average : Global :=
  { g with
    avenrun := fun i => calcLoad (g.avenrun i) (exp i) g.active
    calcLoadUpdate := g.calcLoadUpdate + freq }

/-- In `calc_global_nohz`: the updates that were missed. -/
def catchUp (jiffies : Long) : Global :=
  if timeBefore jiffies (g.calcLoadUpdate + 10) then g
  else
    let n := 1 + (jiffies - g.calcLoadUpdate - 10).sdiv freq
    { g with
      avenrun := fun i => calcLoadN (g.avenrun i) (exp i) g.active (n.toNat % 2 ^ 32)
      calcLoadUpdate := g.calcLoadUpdate + n * freq }

def calcGlobalLoad (jiffies : Long) : Global :=
  if timeBefore jiffies (g.calcLoadUpdate + 10) then g
  else { (g.foldIdle.average freq).catchUp freq jiffies with idx := !g.idx }

/-- The active tasks have all been counted, and no average overflows. -/
structure Calm : Prop where
  idle : ∀ idx, g.idle idx = 0
  tasks : g.tasks.toNat < 2 ^ 41
  avenrun : ∀ i, (g.avenrun i).toNat < 2 ^ 52

/-- No update is missed before this one. -/
def Punctual (jiffies : Long) : Prop := timeBefore jiffies (g.calcLoadUpdate + freq + 10) = true

variable {freq g}

lemma toNat_calcLoad (x e active : Long) (hfits : x.toNat * e.toNat + active.toNat * (2048 - e).toNat + 1024 < 2 ^ 64) :
    (calcLoad x e active).toNat = (x.toNat * e.toNat + active.toNat * (2048 - e).toNat + 1024) / 2048 := by
  have hhalf : (1024 : Long).toNat = 1024 := rfl
  rw [calcLoad, BitVec.toNat_ushiftRight, Nat.shiftRight_eq_div_pow, BitVec.toNat_add, BitVec.toNat_add,
    BitVec.toNat_mul,
    BitVec.toNat_mul, ← Nat.add_mod, Nat.mod_add_mod, hhalf, Nat.mod_eq_of_lt hfits]

/-- A rounded step ends at the number of active tasks only if it starts there: half of the last bit is not enough to
make up for the part that is kept of a difference. -/
lemma calcLoad_eq_iff {x active : Long} (hx : x.toNat < 2 ^ 52) (hactive : active.toNat < 2 ^ 52) (i : Fin 3) :
    (calcLoad x (exp i) active).toNat < 2 ^ 52 ∧ (calcLoad x (exp i) active = active ↔ x = active) := by
  have hexp : ∀ i, (exp i).toNat = 1884 ∧ (2048 - exp i).toNat = 164 ∨
      (exp i).toNat = 2014 ∧ (2048 - exp i).toNat = 34 ∨
      (exp i).toNat = 2037 ∧ (2048 - exp i).toNat = 11 := by decide
  have hload := toNat_calcLoad x (exp i) active
  rw [← BitVec.toNat_inj, ← BitVec.toNat_inj]
  rcases hexp i with ⟨he, hrest⟩ | ⟨he, hrest⟩ | ⟨he, hrest⟩
  · rw [he, hrest] at hload
    omega
  · rw [he, hrest] at hload
    omega
  · rw [he, hrest] at hload
    omega

lemma Calm.active (h : g.Calm) : g.active = g.tasks * 2048 := by
  have htasks := h.tasks
  have hzero : (0 : Long).toInt = 0 := BitVec.toInt_zero
  rw [Global.active, BitVec.slt_eq_decide, hzero, BitVec.toInt_eq_toNat_of_lt (by omega)]
  split
  · rfl
  next hslt =>
    have hnone : g.tasks = 0 := by
      rw [decide_eq_true_eq] at hslt
      bv_omega
    rw [hnone]
    rfl

lemma Calm.foldIdle (h : g.Calm) : g.foldIdle = g := by
  rw [Global.foldIdle, h.idle, add_zero, Function.update_eq_self_iff.mpr (h.idle _).symm]

/-- An update in time leaves the number of tasks, and takes no average to it or away from it. -/
lemma Calm.calcGlobalLoad (h : g.Calm) {jiffies : Long} (hpunctual : g.Punctual freq jiffies) :
    (g.calcGlobalLoad freq jiffies).Calm ∧ (g.calcGlobalLoad freq jiffies).tasks = g.tasks ∧ ∀ i,
    (g.calcGlobalLoad freq jiffies).avenrun i = g.tasks * 2048 ↔ g.avenrun i = g.tasks * 2048 := by
  rw [Global.calcGlobalLoad]
  split
  · exact ⟨h, rfl, fun _ => .rfl⟩
  · have hactive : g.active.toNat < 2 ^ 52 := by
      have htasks := h.tasks
      rw [h.active]
      bv_omega
    have hload := fun i => calcLoad_eq_iff (h.avenrun i) hactive i
    have hnext : timeBefore jiffies ((g.average freq).calcLoadUpdate + 10) = true := hpunctual
    rw [h.foldIdle, catchUp, if_pos hnext, ← h.active]
    exact ⟨⟨h.idle, h.tasks, fun i => (hload i).1⟩, rfl, fun i => (hload i).2⟩

lemma Calm.run_iff (h : g.Calm) {calls : List Long}
    (hcalls : Run.Each (Global.calcGlobalLoad freq) (Punctual freq) g calls) (i : Fin 3) :
    (calls.foldl (Global.calcGlobalLoad freq) g).avenrun i = g.tasks * 2048 ↔ g.avenrun i = g.tasks * 2048 := by
  induction calls generalizing g with
  | nil => rfl
  | cons jiffies calls ih =>
    obtain ⟨hcalm, htasks, havenrun⟩ := h.calcGlobalLoad hcalls.1
    rw [List.foldl_cons, ← htasks, ih hcalm hcalls.2, htasks]
    exact havenrun i

/-- Unless the averages start at the number of active tasks, no sequence of updates brings them there. -/
theorem averages_settle_iff (freq : Long) (g : Global) (hg : g.Calm) (calls : List Long)
    (hcalls : Run.Each (calcGlobalLoad freq) (Punctual freq) g calls) :
    (∀ i, (calls.foldl (calcGlobalLoad freq) g).avenrun i = g.tasks * 2048) ↔ ∀ i, g.avenrun i = g.tasks * 2048 :=
  forall_congr' (hg.run_iff hcalls)

/-- An idle machine that has not always been idle. -/
def idleAgain : Global := { calcLoadUpdate := 501, avenrun := fun | 0 => 6 | 1 => 30 | 2 => 93 }

lemma calm_idleAgain : idleAgain.Calm := ⟨fun _ => rfl, by decide, by decide⟩

theorem averages_settle_iff_idle :
    (∀ i, ([511, 1012].foldl (calcGlobalLoad 501) idleAgain).avenrun i = 0) ↔ ∀ i, idleAgain.avenrun i = 0 :=
  averages_settle_iff 501 idleAgain calm_idleAgain [511, 1012] ⟨rfl, rfl, trivial⟩

/-- However often they are updated there, none of the averages becomes 0. -/
theorem averages_stall : ¬∃ calls i, Run.Each (calcGlobalLoad 501) (Punctual 501) idleAgain calls ∧
    (calls.foldl (calcGlobalLoad 501) idleAgain).avenrun i = 0 := by
  rintro ⟨calls, i, hcalls, hzero⟩
  have hne : ∀ i, idleAgain.avenrun i ≠ 0 := by decide
  exact hne i ((calm_idleAgain.run_iff hcalls i).mp hzero)

end Global

/-! ### Conservation -/

/-- Where a fold is, with what it has not added yet. -/
inductive Fold
  | none
  | toTasks (delta : Long)
  | readIdx (delta : Long)
  | readTime (delta : Long) (idx : Bool)
  | toIdle (delta : Long) (idx : Bool)

structure Rq where
  calcLoadActive : Long := 0
  calcLoadUpdate : Long
  fold : Fold := .none

def Fold.delta : Fold → Long
  | .none => 0
  | .toTasks delta | .readIdx delta | .readTime delta _ | .toIdle delta _ => delta

/-- What of the CPU's number of active tasks has been added somewhere. -/
def Rq.added (rq : Rq) : Long := rq.calcLoadActive - rq.fold.delta

/-- `calc_load_fold_active`; a CPU makes one fold at a time. -/
def Rq.foldActive (rq : Rq) (nrActive : Long) (next : Long → Fold) : Rq :=
  match rq.fold with
  | .none =>
    if nrActive ≠ rq.calcLoadActive then
      { rq with calcLoadActive := nrActive, fold := next (nrActive - rq.calcLoadActive) }
    else rq
  | _ => rq

lemma Rq.added_foldActive (rq : Rq) (nrActive : Long) {next : Long → Fold}
    (hnext : ∀ delta, (next delta).delta = delta) : (rq.foldActive nrActive next).added = rq.added := by
  rw [Rq.foldActive]
  split
  next hnone =>
    split
    · rw [Rq.added, Rq.added, hnext, hnone]
      exact (sub_sub_cancel _ _).trans (sub_zero _).symm
    · rfl
  next => rfl

/-- Where `calc_global_load` is. -/
inductive Pc
  | outside
  | xchg (idx : Bool)
  | addDelta (delta : Long)
  | average
  | catchUp
  | flip

def Pc.delta : Pc → Long
  | .addDelta delta => delta
  | .outside | .xchg _ | .average | .catchUp | .flip => 0

structure State (n : Nat) extends Global where
  jiffies : Long
  rq : Fin n → Rq
  pc : Pc := .outside

inductive Op (n : Nat)
  | setJiffies (jiffies : Long)
  | tick (cpu : Fin n) (nrActive : Long)
  | enterIdle (cpu : Fin n) (nrActive : Long)
  | exitIdle (cpu : Fin n)
  | migrate (cpu : Fin n) (nrActive : Long)
  | fold (cpu : Fin n)
  | globalLoad

variable {n : Nat}

namespace State

section Steps

variable (freq : Long) (s : State n)

def setRq (cpu : Fin n) (rq : Rq) : State n := { s with rq := update s.rq cpu rq }

/-- `calc_load_account_active` up to the addition. -/
def tick (cpu : Fin n) (nrActive : Long) : State n :=
  let rq := s.rq cpu
  if timeBefore s.jiffies rq.calcLoadUpdate then s
  else s.setRq cpu ({ rq with calcLoadUpdate := rq.calcLoadUpdate + freq }.foldActive nrActive .toTasks)

def exitIdle (cpu : Fin n) : State n :=
  let rq := s.rq cpu
  let early := timeBefore s.jiffies (s.calcLoadUpdate + 10)
  if timeBefore s.jiffies rq.calcLoadUpdate then s
  else s.setRq cpu { rq with calcLoadUpdate := if early then s.calcLoadUpdate + freq else s.calcLoadUpdate }

/-- The next access of a fold; those of `calc_load_write_idx` choose the idle counter. -/
def fold (cpu : Fin n) : State n :=
  let rq := s.rq cpu
  match rq.fold with
  | .none => s
  | .toTasks delta => { s.setRq cpu { rq with fold := .none } with tasks := s.tasks + delta }
  | .readIdx delta => s.setRq cpu { rq with fold := .readTime delta s.idx }
  | .readTime delta idx =>
    s.setRq cpu { rq with fold := .toIdle delta (if timeBefore s.jiffies s.calcLoadUpdate then idx else !idx) }
  | .toIdle delta idx => { s.setRq cpu { rq with fold := .none } with idle := update s.idle idx (s.idle idx + delta) }

/-- The next access of `calc_global_load`. -/
def globalLoad : State n :=
  match s.pc with
  | .outside =>
    if timeBefore s.jiffies (s.calcLoadUpdate + 10) then s
    else { s with pc := if s.idle s.idx = 0 then .average else .xchg s.idx }
  | .xchg idx =>
    { s with idle := update s.idle idx 0, pc := if s.idle idx = 0 then .average else .addDelta (s.idle idx) }
  | .addDelta delta => { s with tasks := s.tasks + delta, pc := .average }
  | .average => { s with toGlobal := s.average freq, pc := .catchUp }
  | .catchUp => { s with toGlobal := s.catchUp freq s.jiffies, pc := .flip }
  | .flip => { s with idx := !s.idx, pc := .outside }

def step : Op n → State n
  | .setJiffies jiffies => { s with jiffies := jiffies }
  | .tick cpu nrActive => s.tick freq cpu nrActive
  | .enterIdle cpu nrActive => s.setRq cpu ((s.rq cpu).foldActive nrActive .readIdx)
  | .exitIdle cpu => s.exitIdle freq cpu
  | .migrate cpu nrActive => s.setRq cpu ((s.rq cpu).foldActive nrActive .toTasks)
  | .fold cpu => s.fold cpu
  | .globalLoad => s.globalLoad freq

/-- The machine after `sched_init`. -/
def boot (jiffies : Long) : State n where
  calcLoadUpdate := jiffies + freq
  jiffies := jiffies
  rq _ := { calcLoadUpdate := jiffies + freq }

end Steps

/-- Nothing has been taken off one counter and not added to another. -/
def Quiet (s : State n) : Prop := (∀ cpu, (s.rq cpu).fold = .none) ∧ ∀ delta, s.pc ≠ .addDelta delta

variable {freq : Long} {s s' : State n} {cpu : Fin n}

/-- The counters, and what is on its way between them. -/
def counted (s : State n) : Long := s.tasks + (s.idle false + s.idle true) + s.pc.delta

def Balanced (s : State n) : Prop := s.counted = ∑ cpu, (s.rq cpu).added

lemma sum_added_setRq (rq : Rq) :
    ∑ c, ((s.setRq cpu rq).rq c).added = ∑ c, (s.rq c).added + (rq.added - (s.rq cpu).added) := by
  have hadded : ∀ c, ((s.setRq cpu rq).rq c).added = update (fun c => (s.rq c).added) cpu rq.added c :=
    Function.apply_update (fun _ => Rq.added) s.rq cpu rq
  rw [Finset.sum_congr rfl fun c _ => hadded c, Finset.sum_update_of_mem (Finset.mem_univ cpu),
    Finset.sum_eq_add_sum_sdiff_singleton_of_mem (Finset.mem_univ cpu)]
  abel

/-- A change of what a CPU has added is one of the counters. -/
lemma Balanced.of_setRq (h : s.Balanced) {rq : Rq} (hrq : s'.rq = (s.setRq cpu rq).rq)
    (hcounted : s'.counted = s.counted + (rq.added - (s.rq cpu).added)) : s'.Balanced := by
  rw [Balanced, hrq, sum_added_setRq, hcounted, h]

lemma Balanced.setRq (h : s.Balanced) {rq : Rq} (hadded : rq.added = (s.rq cpu).added) : (s.setRq cpu rq).Balanced := by
  refine h.of_setRq rfl ?_
  rw [hadded, sub_self, add_zero]
  rfl

lemma idle_update (idle : Bool → Long) (idx : Bool) (x : Long) :
    update idle idx x false + update idle idx x true = idle false + idle true + (x - idle idx) := by
  cases idx with simp | false => abel

lemma Balanced.fold (h : s.Balanced) : (s.fold cpu).Balanced := by
  rw [State.fold]
  dsimp only
  split
  next => exact h
  next delta hfold =>
    refine h.of_setRq rfl ?_
    simp only [Rq.added, hfold, Fold.delta, counted, State.setRq]
    abel
  next delta hfold => exact h.setRq (by simp only [Rq.added, hfold, Fold.delta])
  next delta idx hfold => exact h.setRq (by simp only [Rq.added, hfold, Fold.delta])
  next delta idx hfold =>
    refine h.of_setRq rfl ?_
    simp only [Rq.added, hfold, Fold.delta, counted, State.setRq, idle_update]
    abel

lemma Balanced.globalLoad (h : s.Balanced) : (s.globalLoad freq).Balanced := by
  have hsame : ∀ s' : State n, s'.rq = s.rq → s'.counted = s.counted → s'.Balanced := by
    intro s' hrq hcounted
    rw [Balanced, hrq, hcounted, h]
  rw [State.globalLoad]
  cases hpc : s.pc with dsimp only
  | outside =>
    split
    · exact h
    · refine hsame _ rfl (congrArg (s.tasks + (s.idle false + s.idle true) + ·) ?_)
      rw [hpc]
      dsimp only
      split <;> rfl
  | xchg idx =>
    refine hsame _ rfl ?_
    simp only [counted, idle_update, hpc]
    split
    next hzero =>
      rw [hzero, sub_zero, add_zero]
      rfl
    next =>
      simp only [Pc.delta]
      abel
  | addDelta delta =>
    refine hsame _ rfl ?_
    simp only [counted, hpc, Pc.delta]
    abel
  | catchUp =>
    refine hsame _ rfl ?_
    simp only [counted, hpc, Pc.delta, Global.catchUp]
    split <;> rfl
  | average | flip => exact hsame _ rfl (congrArg (s.tasks + (s.idle false + s.idle true) + ·) (hpc ▸ rfl))

lemma Balanced.step (h : s.Balanced) (op : Op n) : (s.step freq op).Balanced := by
  cases op with
  | setJiffies jiffies => exact h
  | tick cpu nrActive =>
    rw [State.step, State.tick]
    split
    · exact h
    · exact h.setRq (Rq.added_foldActive _ nrActive fun _ => rfl)
  | exitIdle cpu =>
    rw [State.step, State.exitIdle]
    split
    · exact h
    · exact h.setRq rfl
  | enterIdle cpu nrActive | migrate cpu nrActive => exact h.setRq (Rq.added_foldActive _ nrActive fun _ => rfl)
  | fold cpu => exact h.fold
  | globalLoad => exact h.globalLoad

lemma Balanced.counted_of_quiet (h : s.Balanced) (hquiet : s.Quiet) :
    s.tasks + (s.idle false + s.idle true) = ∑ cpu, (s.rq cpu).calcLoadActive := by
  have hdelta : s.pc.delta = 0 := by
    cases hpc : s.pc with
    | addDelta delta => exact absurd hpc (hquiet.2 delta)
    | outside | xchg _ | average | catchUp | flip => rfl
  have hadded : ∀ cpu, (s.rq cpu).added = (s.rq cpu).calcLoadActive := by
    intro cpu
    rw [Rq.added, hquiet.1 cpu]
    exact sub_zero _
  rw [← add_zero (s.tasks + _), ← hdelta]
  exact h.trans (Finset.sum_congr rfl fun cpu _ => hadded cpu)

/-- In every interleaving no active task is counted twice or lost. -/
theorem active_conserved (freq jiffies : Long) (ops : List (Op n)) : Run.Always (step freq) (fun s => s.Quiet →
      s.tasks + (s.idle false + s.idle true) = ∑ cpu, (s.rq cpu).calcLoadActive) (boot freq jiffies) ops := by
  have hboot : Balanced (boot freq jiffies : State n) := (Finset.sum_eq_zero fun _ _ => sub_zero _).symm
  have hbalanced : Run.Always (step freq) Balanced (boot freq jiffies) ops :=
    Run.always_of_step (fun s op h => h.step op) hboot
  exact hbalanced.mono fun s h => h.counted_of_quiet

end State

end BigLittle.LoadAvg
